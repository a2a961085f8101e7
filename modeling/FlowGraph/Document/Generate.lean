import FlowGraph.Diagnostic
import FlowGraph.Document
import FlowGraph.Scope.Bind
import FlowGraph.Target.Parameters

/-!
The document of a workflow. Parameters are bound first, then variables; then the
nodes are made in the order of their declaration, and at last the connections.
The first failure of these ends it.
-/

namespace FlowGraph

inductive GenerateError where
  | eval (e : EvalError)
  | module (ref : ModuleRef)
  | unknownTag (node : Node)
  | unknownEndpoint (role : String) (name : String) (pos : Position)

namespace GenerateError

def message : GenerateError → String
  | .eval e => e.message
  | .module ref =>
    "module resolution is unsupported: module '" ++ ref.name ++ "' references '" ++ ref.path ++ "'"
  | .unknownTag node =>
    "unknown node type '" ++ node.tag ++ "' for node '" ++ node.name ++ "' (known types: " ++
      String.intercalate ", " Target.tags ++ ")"
  | .unknownEndpoint role name _ =>
    "connection " ++ role ++ " '" ++ name ++ "' does not name a generated node"

def pos? : GenerateError → Option Position
  | .eval _ => none
  | .module ref => some ref.pos
  | .unknownTag node => some node.pos
  | .unknownEndpoint _ _ pos => some pos

def toDiagnostic (e : GenerateError) : Diagnostic where
  message := e.message
  pos := e.pos?
  rule := .generate

end GenerateError

/-- Where nodes go that name no place: all to the start, or from the start on to
the right, one step each. -/
structure Layout where
  auto : Bool := true
  start : Point := ⟨0.0, 0.0⟩
  spacing : Float := 200.0
deriving Inhabited

/-- The point of a node, and where the next one goes. -/
def Layout.place (l : Layout) (next : Float) : Option Point → Point × Float
  | some point => (point, next)
  | none => if l.auto then (⟨next, l.start.y⟩, next + l.spacing) else (l.start, next)

structure GenerateOptions where
  layout : Layout := {}
  /-- Values for parameters, by name. -/
  params : Fields Json := []
deriving Inhabited

/-- The index of a port: the negative one is the second, all others the first. -/
def portIndex (port : String) : Nat :=
  if port = "false" then 1 else 0

namespace Document

/-- The node of a declaration, the `index`-th of its document. -/
def generateNode (h : Host) (ids : IdSource) (s : Scope) (index : Nat) (point : Point) (n : Node) :
    Except GenerateError GraphNode :=
  match Target.ofTag? n.tag with
  | none => .error (.unknownTag n)
  | some target =>
    match s.evalEntries h n.parameters with
    | .error e => .error (.eval e)
    | .ok pairs => .ok {
        id := (ids.node index).text
        name := n.name
        type := target.typeName
        point
        parameters := target.parameters (ids.part index) (Fields.ofPairs pairs)
        version := target.version }

def generateNodes (h : Host) (ids : IdSource) (layout : Layout) (s : Scope) (index : Nat)
    (next : Float) : List Entry → Except GenerateError (List GraphNode)
  | [] => .ok []
  | .module ref :: _ => .error (.module ref)
  | .node n :: entries => do
    let (point, next) := layout.place next n.point
    let node ← generateNode h ids s index point n
    let nodes ← generateNodes h ids layout s (index + 1) next entries
    return node :: nodes

/-- The first end of a connection that names no node. -/
def unknownEndpoint? (names : List String) (c : Connection) : Option GenerateError :=
  if !names.contains c.source.node then some (.unknownEndpoint "source" c.source.node c.pos)
  else if !names.contains c.target.node then some (.unknownEndpoint "target" c.target.node c.pos)
  else none

/-- The type of the ports that declared connections use. -/
def mainPort : String := "main"

def connectDeclared (d : Document) (c : Connection) : Document :=
  d.connect c.source.node mainPort (portIndex c.source.port)
    ⟨c.target.node, mainPort, portIndex c.target.port⟩

/-- The scope of a workflow's nodes. -/
def scopeOf (h : Host) (o : GenerateOptions) (w : Workflow) : Except GenerateError Scope :=
  match Scope.bindParams {} h o.params w.params with
  | (_, some e) => .error (.eval e)
  | (s, none) =>
    match s.bindVariables h w.vars with
    | (_, some e) => .error (.eval e)
    | (s, none) => .ok s

def empty (name : String) (ids : IdSource) : Document where
  nodes := []
  wiring := []
  instanceId := ids.document.text
  name

def ofWorkflow (h : Host) (ids : IdSource) (o : GenerateOptions) (w : Workflow) :
    Except GenerateError Document := do
  let s ← scopeOf h o w
  let nodes ← generateNodes h ids o.layout s 0 o.layout.start.x w.entries
  match w.connections.findSome? (unknownEndpoint? (nodes.map GraphNode.name)) with
  | some e => .error e
  | none => return w.connections.foldl connectDeclared { empty w.name ids with nodes }

end Document

end FlowGraph
