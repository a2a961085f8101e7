import FlowGraph.Json.Form
import FlowGraph.Workflow

/-!
Workflows as data values and back. Each kind of expression and of entry is
tagged with its name.
-/

namespace FlowGraph

namespace Expr

def tagged (tag : String) (v : Json) : Json :=
  .obj [("type", .str tag), ("value", v)]

mutual

def toJson : Expr → Json
  | .literal v => tagged "literal" v
  | .ident name => tagged "identifier" (.str name)
  | .call name args => tagged "functioncall" (.obj [("name", .str name), ("args", .arr (itemsToJson args))])
  | .template text => tagged "template" (.str text)
  | .object entries => tagged "object" (.arr (entriesToJson entries))
  | .array items => tagged "array" (.arr (itemsToJson items))

def itemsToJson : List Expr → List Json
  | [] => []
  | e :: items => toJson e :: itemsToJson items

def entriesToJson : List (String × Expr) → List Json
  | [] => []
  | (name, e) :: entries => .arr [.str name, toJson e] :: entriesToJson entries

end

/-- Does the content of a tagged value come up before its tag, so that it has to be
set aside? -/
def contentFirst (fields : Fields Json) : Bool :=
  (fields.takeWhile (·.1 ≠ "type")).any (·.1 = "value")

/-- The tag and the content of a tagged value, and whether the content is set
aside. -/
def untagged? (aside : Bool) : Json → Option (String × Json × Bool)
  | .obj fields =>
    match (Fields.get? fields "type").bind (Json.choice? aside), Fields.get? fields "value" with
    | some tag, some content => some (tag, content, aside || contentFirst fields)
    | _, _ => none
  | .arr [tag, content] => (Json.choice? aside tag).map fun tag => (tag, content, aside)
  | _ => none

theorem sizeOf_untagged?_lt {aside after : Bool} {v content : Json} {tag : String}
    (h : untagged? aside v = some (tag, content, after)) : sizeOf content < sizeOf v := by
  unfold untagged? at h
  split at h
  · split at h
    · rename_i hcontent
      obtain ⟨_, rfl, _⟩ : _ ∧ _ ∧ _ := by simpa using h
      have := Json.sizeOf_get?_lt hcontent
      simp only [Json.obj.sizeOf_spec]
      omega
    · simp at h
  · obtain ⟨_, _, heq⟩ := Option.map_eq_some_iff.1 h
    obtain ⟨_, heq⟩ := Prod.mk.inj heq
    obtain ⟨rfl, _⟩ := Prod.mk.inj heq
    simp only [Json.arr.sizeOf_spec, List.cons.sizeOf_spec]
    omega
  · simp at h

/-- The name and the arguments of a call. -/
def callParts? : Json → Option (String × List Json)
  | .obj fields =>
    match Fields.get? fields "name", Fields.get? fields "args" with
    | some (.str name), some (.arr args) => some (name, args)
    | _, _ => none
  | .arr [.str name, .arr args] => some (name, args)
  | _ => none

theorem sizeOf_callParts?_lt {v : Json} {name : String} {args : List Json}
    (h : callParts? v = some (name, args)) : sizeOf args < sizeOf v := by
  unfold callParts? at h
  split at h
  · split at h
    · rename_i hargs
      obtain ⟨_, rfl⟩ : _ ∧ _ := by simpa using h
      have := Json.sizeOf_get?_lt hargs
      simp only [Json.obj.sizeOf_spec, Json.arr.sizeOf_spec] at *
      omega
    · simp at h
  · obtain ⟨_, rfl⟩ : _ ∧ _ := by simpa using h
    simp only [Json.arr.sizeOf_spec, List.cons.sizeOf_spec]
    omega
  · simp at h

inductive Shape where
  | literal | ident | call | template | object | array

def Shape.ofTag? : String → Option Shape
  | "literal" => some .literal
  | "identifier" => some .ident
  | "functioncall" => some .call
  | "template" => some .template
  | "object" => some .object
  | "array" => some .array
  | _ => none

mutual

def formOf? (aside : Bool) (v : Json) : Option Expr :=
  match _ : untagged? aside v with
  | none => none
  | some (tag, content, aside) =>
    match Shape.ofTag? tag with
    | none => none
    | some .literal => some (.literal content)
    | some .ident => content.str?.map .ident
    | some .call =>
      match _ : callParts? content with
      | some (name, args) => (formsOf? aside args).map (.call name)
      | none => none
    | some .template => content.str?.map .template
    | some .object =>
      match content with
      | .arr entries => (entriesOf? aside entries).map .object
      | _ => none
    | some .array =>
      match content with
      | .arr items => (formsOf? aside items).map .array
      | _ => none
termination_by sizeOf v
decreasing_by
  · have := sizeOf_untagged?_lt ‹_›
    have := sizeOf_callParts?_lt ‹_›
    omega
  · have := sizeOf_untagged?_lt ‹_›
    simp only [Json.arr.sizeOf_spec] at this
    omega
  · have := sizeOf_untagged?_lt ‹_›
    simp only [Json.arr.sizeOf_spec] at this
    omega

def formsOf? (aside : Bool) (items : List Json) : Option (List Expr) :=
  match items with
  | [] => some []
  | v :: rest =>
    match formOf? aside v, formsOf? aside rest with
    | some e, some es => some (e :: es)
    | _, _ => none
termination_by sizeOf items

def entriesOf? (aside : Bool) (entries : List Json) : Option (List (String × Expr)) :=
  match entries with
  | [] => some []
  | .arr [.str name, v] :: rest =>
    match formOf? aside v, entriesOf? aside rest with
    | some e, some es => some ((name, e) :: es)
    | _, _ => none
  | _ :: _ => none
termination_by sizeOf entries

end

def ofJson? (v : Json) : Option Expr :=
  formOf? false v

end Expr

namespace Position

def toJson (p : Position) : Json :=
  .obj [("line", .ofNat p.line), ("column", .ofNat p.column)]

def ofJson? (v : Json) : Option Position := do
  let fields ← v.record? ["line", "column"]
  let line ← fields.field? "line" Json.nat?
  let column ← fields.field? "column" Json.nat?
  return { line, column }

end Position

namespace Constraints

def toJson (c : Constraints) : Json :=
  .obj [("min", .ofOption Json.ofFloat c.min), ("max", .ofOption Json.ofFloat c.max),
    ("pattern", .ofOption Json.str c.pattern), ("allowed", .ofOption Json.arr c.allowed)]

def ofJson? (v : Json) : Option Constraints := do
  let fields ← v.record? ["min", "max", "pattern", "allowed"]
  let min ← fields.optional? "min" Json.float?
  let max ← fields.optional? "max" Json.float?
  let pattern ← fields.optional? "pattern" Json.str?
  let allowed ← fields.optional? "allowed" Json.arr?
  return { min, max, pattern, allowed }

end Constraints

namespace Param

def toJson (p : Param) : Json :=
  .obj [("name", .str p.name), ("param_type", .str p.type.name),
    ("default_value", .ofOption Expr.toJson p.default), ("required", .bool p.required),
    ("constraints", p.constraints.toJson), ("span", p.pos.toJson)]

def ofJson? (v : Json) : Option Param := do
  let fields ← v.record? ["name", "param_type", "default_value", "required", "constraints", "span"]
  let name ← fields.field? "name" Json.str?
  let type ← fields.field? "param_type" fun v => (v.choice? false).bind ParamType.ofName?
  let default ← fields.optional? "default_value" Expr.ofJson?
  let required ← fields.field? "required" Json.bool?
  let constraints ← fields.field? "constraints" Constraints.ofJson?
  let pos ← fields.field? "span" Position.ofJson?
  return { name, type, default, required, constraints, pos }

end Param

namespace Variable

def toJson (v : Variable) : Json :=
  .obj [("name", .str v.name), ("value", v.value.toJson), ("span", v.pos.toJson)]

def ofJson? (v : Json) : Option Variable := do
  let fields ← v.record? ["name", "value", "span"]
  let name ← fields.field? "name" Json.str?
  let value ← fields.field? "value" Expr.ofJson?
  let pos ← fields.field? "span" Position.ofJson?
  return { name, value, pos }

end Variable

namespace Point

def toJson (p : Point) : Json :=
  .arr [.ofFloat p.x, .ofFloat p.y]

def ofJson? (v : Json) : Option Point :=
  (Json.pair? Json.float? Json.float? v).map fun (x, y) => { x, y }

end Point

def parametersToJson (parameters : List (String × Expr)) : Json :=
  .arr (Expr.entriesToJson parameters)

/-- The parameters of an entry, which is set aside until its kind is known. -/
def parametersOfJson? (v : Json) : Option (List (String × Expr)) :=
  v.arr?.bind (Expr.entriesOf? true)

namespace Node

def toFields (n : Node) : Fields Json :=
  [("name", .str n.name), ("node_type", .str n.tag), ("parameters", parametersToJson n.parameters),
    ("position", .ofOption Point.toJson n.point), ("span", n.pos.toJson)]

def ofJson? (v : Json) : Option Node := do
  let fields ← v.record? ["name", "node_type", "parameters", "position", "span"]
  let name ← fields.field? "name" Json.str?
  let tag ← fields.field? "node_type" Json.str?
  let parameters ← fields.field? "parameters" parametersOfJson?
  let point ← fields.optional? "position" Point.ofJson?
  let pos ← fields.field? "span" Position.ofJson?
  return { name, tag, parameters, point, pos }

end Node

namespace ModuleRef

def toFields (m : ModuleRef) : Fields Json :=
  [("name", .str m.name), ("module_path", .str m.path),
    ("parameters", parametersToJson m.parameters), ("span", m.pos.toJson)]

def ofJson? (v : Json) : Option ModuleRef := do
  let fields ← v.record? ["name", "module_path", "parameters", "span"]
  let name ← fields.field? "name" Json.str?
  let path ← fields.field? "module_path" Json.str?
  let parameters ← fields.field? "parameters" parametersOfJson?
  let pos ← fields.field? "span" Position.ofJson?
  return { name, path, parameters, pos }

end ModuleRef

namespace Entry

def toJson : Entry → Json
  | .node n => .obj (("kind", .str "node") :: n.toFields)
  | .module m => .obj (("kind", .str "module") :: m.toFields)

/-- The kind of an entry and the rest of it. -/
def kind? : Json → Option (String × Json)
  | .obj fields =>
    match Fields.get? fields "kind" with
    | some (.str kind) => some (kind, .obj fields)
    | _ => none
  | .arr (.str kind :: items) => some (kind, .arr items)
  | _ => none

def ofJson? (v : Json) : Option Entry :=
  match kind? v with
  | some ("node", content) => (Node.ofJson? content).map .node
  | some ("module", content) => (ModuleRef.ofJson? content).map .module
  | _ => none

end Entry

namespace Endpoint

def toJson (e : Endpoint) : Json :=
  .obj [("node", .str e.node), ("port", .str e.port)]

def ofJson? (v : Json) : Option Endpoint := do
  let fields ← v.record? ["node", "port"]
  let node ← fields.field? "node" Json.str?
  let port ← fields.field? "port" Json.str?
  return { node, port }

end Endpoint

namespace Connection

def toJson (c : Connection) : Json :=
  .obj [("source", c.source.toJson), ("target", c.target.toJson), ("span", c.pos.toJson)]

def ofJson? (v : Json) : Option Connection := do
  let fields ← v.record? ["source", "target", "span"]
  let source ← fields.field? "source" Endpoint.ofJson?
  let target ← fields.field? "target" Endpoint.ofJson?
  let pos ← fields.field? "span" Position.ofJson?
  return { source, target, pos }

end Connection

namespace Workflow

def body (w : Workflow) : Json :=
  .obj [("name", .str w.name), ("parameters", .arr (w.params.map Param.toJson)),
    ("variables", .arr (w.vars.map Variable.toJson)),
    ("nodes", .arr (w.entries.map Entry.toJson)),
    ("connections", .arr (w.connections.map Connection.toJson)), ("span", w.pos.toJson)]

def ofBody? (v : Json) : Option Workflow := do
  let fields ← v.record? ["name", "parameters", "variables", "nodes", "connections", "span"]
  let name ← fields.field? "name" Json.str?
  let params ← fields.field? "parameters" (Json.list? Param.ofJson?)
  let vars ← fields.field? "variables" (Json.list? Variable.ofJson?)
  let entries ← fields.field? "nodes" (Json.list? Entry.ofJson?)
  let connections ← fields.field? "connections" (Json.list? Connection.ofJson?)
  let pos ← fields.field? "span" Position.ofJson?
  return { name, params, vars, entries, connections, pos }

def toJson (w : Workflow) : Json :=
  .obj [("workflow", w.body)]

def ofJson? (v : Json) : Option Workflow := do
  let fields ← v.record? ["workflow"]
  fields.field? "workflow" ofBody?

end Workflow

end FlowGraph
