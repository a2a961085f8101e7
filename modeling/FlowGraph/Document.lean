import FlowGraph.Workflow

/-!
Documents: nodes with places and parameters, and the links between them. The
links that leave a node are kept by its name, the type of the port and the index
of the output, names and types in sorted order.
-/

namespace FlowGraph

structure GraphNode where
  id : String
  name : String
  type : String
  point : Point
  parameters : Fields Json
  version : Float
deriving Inhabited

/-- The input that an output is linked to. -/
structure Link where
  node : String
  type : String
  index : Nat
deriving DecidableEq, Repr, Inhabited

/-- For each output of a port its links, in the order in which they were made. -/
abbrev Outputs := List (List Link)

abbrev Wiring := Fields (Fields Outputs)

structure Document where
  nodes : List GraphNode
  wiring : Wiring
  instanceId : String
  name : String
  active : Bool := false
  executionOrder : String := "v1"
deriving Inhabited

/-- Adds a link at an index, with empty outputs before it as far as they are
missing. -/
def Outputs.add (outputs : Outputs) (index : Nat) (link : Link) : Outputs :=
  match index, outputs with
  | 0, [] => [[link]]
  | 0, links :: rest => (links ++ [link]) :: rest
  | index + 1, [] => [] :: add [] index link
  | index + 1, links :: rest => links :: add rest index link

def Wiring.add (wiring : Wiring) (source port : String) (index : Nat) (link : Link) : Wiring :=
  wiring.place source fun ports =>
    (ports.getD []).place port fun outputs => Outputs.add (outputs.getD []) index link

/-- All links from the sorted first to the last. -/
def Wiring.links (wiring : Wiring) : List Link :=
  wiring.flatMap fun (_, ports) => ports.flatMap fun (_, outputs) => outputs.flatten

namespace Document

def node? (d : Document) (name : String) : Option GraphNode :=
  d.nodes.find? fun n => n.name = name

def connect (d : Document) (source port : String) (index : Nat) (link : Link) : Document :=
  { d with wiring := d.wiring.add source port index link }

def connectionCount (d : Document) : Nat :=
  d.wiring.links.length

end Document

end FlowGraph
