import FlowGraph.Document
import FlowGraph.Json.Form
import FlowGraph.Json.Printer

/-!
Documents as data values, and back.
-/

namespace FlowGraph

namespace Link

def toJson (l : Link) : Json :=
  .obj [("node", .str l.node), ("type", .str l.type), ("index", .ofNat l.index)]

def ofJson? (v : Json) : Option Link := do
  let fields ← v.record? ["node", "type", "index"]
  return {
    node := ← fields.field? "node" Json.str?
    type := ← fields.field? "type" Json.str?
    index := ← fields.field? "index" Json.nat? }

end Link

namespace Wiring

def toJson (wiring : Wiring) : Json :=
  .obj (wiring.map fun (source, ports) =>
    (source, .obj (ports.map fun (port, outputs) =>
      (port, .arr (outputs.map fun links => .arr (links.map Link.toJson))))))

/-- A value for every name, sorted. -/
def sorted? {α : Type} (form : Json → Option α) (v : Json) : Option (Fields α) := do
  let fields ← v.obj?
  let pairs ← fields.mapM fun (name, v) => (form v).map fun a => (name, a)
  return Fields.sorted pairs

def ofJson? (v : Json) : Option Wiring :=
  sorted? (sorted? (Json.list? (Json.list? Link.ofJson?))) v

end Wiring

namespace GraphNode

def toJson (n : GraphNode) : Json :=
  .obj [("id", .str n.id), ("name", .str n.name), ("type", .str n.type),
    ("position", .arr [.ofFloat n.point.x, .ofFloat n.point.y]),
    ("parameters", .obj n.parameters), ("typeVersion", .ofFloat n.version)]

def ofJson? (v : Json) : Option GraphNode := do
  let fields ← v.record? ["id", "name", "type", "position", "parameters", "typeVersion"]
  let (x, y) ← fields.field? "position" (Json.pair? Json.float? Json.float?)
  return {
    id := ← fields.field? "id" Json.str?
    name := ← fields.field? "name" Json.str?
    type := ← fields.field? "type" Json.str?
    point := ⟨x, y⟩
    parameters := ← fields.field? "parameters" Json.obj?
    version := ← fields.field? "typeVersion" Json.float? }

end GraphNode

namespace Document

def toJson (d : Document) : Json :=
  .obj [("nodes", .arr (d.nodes.map GraphNode.toJson)), ("connections", d.wiring.toJson),
    ("meta", .obj [("instanceId", .str d.instanceId)]), ("name", .str d.name),
    ("active", .bool d.active), ("settings", .obj [("executionOrder", .str d.executionOrder)])]

/-- A record with one text in it. -/
def single? (name : String) (v : Json) : Option String := do
  let fields ← v.record? [name]
  fields.field? name Json.str?

def ofJson? (v : Json) : Option Document := do
  let fields ← v.record? ["nodes", "connections", "meta", "name", "active", "settings"]
  return {
    nodes := ← fields.field? "nodes" (Json.list? GraphNode.ofJson?)
    wiring := ← fields.field? "connections" Wiring.ofJson?
    instanceId := ← fields.field? "meta" (single? "instanceId")
    name := ← fields.field? "name" Json.str?
    active := ← fields.field? "active" Json.bool?
    executionOrder := ← fields.field? "settings" (single? "executionOrder") }

/-- The text of a document, on several lines or on one. -/
def text (d : Document) (pretty : Bool) : String :=
  if pretty then d.toJson.pretty else d.toJson.compact

end Document

end FlowGraph
