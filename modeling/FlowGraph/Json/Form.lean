import FlowGraph.Json

/-!
Taking data values apart. A record is an object with the fields in any order,
where unknown fields do not matter, or an array with exactly the fields in
order. A choice is its name, or an object whose one field is that name.

A value whose kind is not known when it comes up is set aside until it is.
-/

namespace FlowGraph.Json

/-- The fields of a record with these field names. -/
def record? (names : List String) : Json → Option (Fields Json)
  | .obj fields => some fields
  | .arr items => if items.length = names.length then some (names.zip items) else none
  | _ => none

/-- The name of a choice that carries nothing: null, or in a value that was set
aside also an empty object. -/
def choice? (aside : Bool) : Json → Option String
  | .str name => some name
  | .obj [(name, .null)] => some name
  | .obj [(name, .obj [])] => if aside then some name else none
  | _ => none

def nat? : Json → Option Nat
  | .int i => if 0 ≤ i then some i.toNat else none
  | _ => none

/-- Nothing for null, else something of the given form. -/
def nullable? {α : Type} (form : Json → Option α) : Json → Option (Option α)
  | .null => some none
  | v => (form v).map some

/-- Every item in the given form. -/
def list? {α : Type} (form : Json → Option α) : Json → Option (List α)
  | .arr items => items.mapM form
  | _ => none

/-- Two items, each in its form. -/
def pair? {α β : Type} (first : Json → Option α) (second : Json → Option β) :
    Json → Option (α × β)
  | .arr [a, b] =>
    match first a, second b with
    | some x, some y => some (x, y)
    | _, _ => none
  | _ => none

/-- A value, or null for none. -/
def ofOption {α : Type} (f : α → Json) : Option α → Json
  | some a => f a
  | none => .null

end Json

namespace Fields

/-- A field that has to be there. -/
def field? {α : Type} (fields : Fields Json) (name : String) (form : Json → Option α) : Option α :=
  (fields.get? name).bind form

/-- A field that may be missing or null. -/
def optional? {α : Type} (fields : Fields Json) (name : String) (form : Json → Option α) :
    Option (Option α) :=
  match fields.get? name with
  | some v => Json.nullable? form v
  | none => some none

end Fields

end FlowGraph
