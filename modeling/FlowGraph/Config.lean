import FlowGraph.Compile
import FlowGraph.Yaml.Value

/-!
Project configurations: how nodes are placed, what is checked, and values for
parameters. Everything has a default, so an empty text is a configuration.
-/

namespace FlowGraph

structure Validation where
  strict : Bool := false
  validateOutput : Bool := true
deriving Inhabited

structure Config where
  layout : Layout := {}
  validation : Validation := {}
  /-- Values for parameters, sorted by name. -/
  params : Fields Json := []
deriving Inhabited

namespace Config

def compileOptions (c : Config) : CompileOptions where
  generate := { layout := c.layout, params := c.params }
  strict := c.validation.strict
  validateOutput := c.validation.validateOutput

/-- A field that may be missing, but not stand there twice. -/
def field {α : Type} (fields : List (String × Yaml.Node)) (name : String) (default : α)
    (form : Yaml.Node → Yaml.Reading α) : Yaml.Reading α :=
  match fields.filter (·.1 = name) with
  | [] => return default
  | [(_, n)] => form n
  | _ => failure

def point (n : Yaml.Node) : Yaml.Reading Point := do
  match ← n.items with
  | [x, y] => return ⟨← x.float, ← y.float⟩
  | _ => failure

def readLayout (n : Yaml.Node) : Yaml.Reading Layout := do
  let fields ← n.fields
  let auto ← field fields "auto" true Yaml.Node.bool
  let start ← field fields "start" ⟨0.0, 0.0⟩ point
  let spacing ← field fields "spacing" 200.0 Yaml.Node.float
  return { auto, start, spacing }

def readValidation (n : Yaml.Node) : Yaml.Reading Validation := do
  let fields ← n.fields
  let strict ← field fields "strict" false Yaml.Node.bool
  let validateOutput ← field fields "validate_output" true Yaml.Node.bool
  return { strict, validateOutput }

/-- How deep collections may stand in each other. -/
def maxLevels : Nat := 128

def readParams (n : Yaml.Node) : Yaml.Reading (Fields Json) := do
  let fields ← n.fields
  let pairs ← fields.mapM fun (name, n) => do return (name, ← n.value (maxLevels - 2))
  return Fields.sorted pairs

def ofNode (n : Yaml.Node) : Yaml.Reading Config := do
  let fields ← n.fields
  let layout ← field fields "layout" {} readLayout
  let validation ← field fields "validation" {} readValidation
  let params ← field fields "params" [] readParams
  return { layout, validation, params }

/-- The configuration that a text holds; nothing if it holds none. -/
def ofText? (text : String) : Option Config :=
  if (Text.trim text.toList).isEmpty then some {}
  else
    match Yaml.Document.ofString? text with
    | none => none
    | some none => some {}
    | some (some d) => d.read? ofNode

end Config

end FlowGraph
