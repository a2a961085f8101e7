import FlowGraph.Diagnostic
import FlowGraph.Json

/-!
What is wrong with a document, looked at as a plain data value. A document has
nodes, each of the right shape and with a name of its own, and connections that
join nodes by name.
-/

namespace FlowGraph.Document.Report

def nodesFault (message : String) : Diagnostic where
  message := message
  rule := .graphNodes

def shapeFault (message : String) : Diagnostic where
  message := message
  rule := .graphNodeShape

def duplicateFault (name : String) : Diagnostic where
  message := "duplicate node name '" ++ name ++ "'"
  rule := .graphDuplicateNode

def connectionsFault (message : String) : Diagnostic where
  message := message
  rule := .graphConnections

/-- A field that is a text with something in it. -/
def nonEmpty? (v : Json) (key : String) : Option String :=
  match v.get? key with
  | some (.str s) => if s = "" then none else some s
  | _ => none

def isPoint : Json → Bool
  | .arr [a, b] => a.isNumber && b.isNumber
  | _ => false

def label (index : Nat) (node : Json) : String :=
  match nonEmpty? node "name" with
  | some name => "node #" ++ toString index ++ " ('" ++ name ++ "')"
  | none => "node #" ++ toString index

def nodeFaults (index : Nat) (node : Json) : List Diagnostic :=
  let here := label index node
  if !node.isObject then [shapeFault (here ++ " is not an object")]
  else
    ((["id", "name", "type"].filter fun key => (nonEmpty? node key).isNone).map fun key =>
      shapeFault (here ++ " is missing a non-empty '" ++ key ++ "'")) ++
    (if (node.get? "position").any isPoint then []
     else [shapeFault (here ++ " must have a two-element numeric 'position'")]) ++
    (if (node.get? "parameters").any Json.isObject then []
     else [shapeFault (here ++ " must have a 'parameters' object")]) ++
    (if (node.get? "typeVersion").any Json.isNumber then []
     else [shapeFault (here ++ " must have a numeric 'typeVersion'")])

/-- The faults of the nodes from `index` on, when those before them have the
names `seen`. -/
def nodesFaults (index : Nat) (seen : List String) : List Json → List Diagnostic
  | [] => []
  | node :: rest =>
    match nonEmpty? node "name" with
    | some name =>
      let repeated := if seen.contains name then [duplicateFault name] else []
      nodeFaults index node ++ repeated ++ nodesFaults (index + 1) (name :: seen) rest
    | none => nodeFaults index node ++ nodesFaults (index + 1) seen rest

/-- What the ports of one source lead to. Ports and outputs that are no arrays
lead nowhere. -/
def targets (ports : Fields Json) : List Json :=
  ports.flatMap fun (_, port) =>
    (port.arr?.getD []).flatMap fun output => output.arr?.getD []

def targetFaults (names : List String) (source : String) (target : Json) : List Diagnostic :=
  match target.get? "node" with
  | some (.str node) =>
    if names.contains node then []
    else [connectionsFault
      ("connection target '" ++ node ++ "' from '" ++ source ++ "' does not exist")]
  | _ => [connectionsFault
      ("connection from '" ++ source ++ "' has a target without a node name")]

def sourceFaults (names : List String) (source : String) (ports : Json) : List Diagnostic :=
  (if names.contains source then []
   else [connectionsFault ("connection source '" ++ source ++ "' does not exist")]) ++
  match ports with
  | .obj ports => (targets ports).flatMap (targetFaults names source)
  | _ => [connectionsFault ("connections of '" ++ source ++ "' must be an object")]

def connectionsFaults (names : List String) : Option Json → List Diagnostic
  | none => []
  | some (.obj connections) =>
    connections.flatMap fun (source, ports) => sourceFaults names source ports
  | some _ => [connectionsFault "'connections' must be an object"]

end Report

/-- Everything that is wrong with a document. -/
def report (document : Json) : List Diagnostic :=
  match document.get? "nodes" with
  | some (.arr nodes) =>
    let names := nodes.filterMap fun node => Report.nonEmpty? node "name"
    (if nodes.isEmpty then [Report.nodesFault "workflow must contain at least one node"] else []) ++
      Report.nodesFaults 0 [] nodes ++
      Report.connectionsFaults names (document.get? "connections")
  | _ => [Report.nodesFault "document has no 'nodes' array"]

end FlowGraph.Document
