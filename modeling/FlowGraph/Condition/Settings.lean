import FlowGraph.Condition.Comparison
import FlowGraph.Settings

/-!
The conditions that settings give: a text, a list, one condition, an object that
holds them, or the operands themselves.
-/

namespace FlowGraph

namespace Condition

/-- The operation of a condition object, and the type it names for it. -/
def operationOf (fields : Settings) : Operation × Option String :=
  let named (fields : Settings) : Operation :=
    ((fields.text? "operation").map Operation.ofText).getD .equals
  match fields.get? "operator" with
  | some (.str text) => (.ofText text, none)
  | some (.obj operator) => (named operator, Settings.text? operator "type")
  | _ => (named fields, none)

def ofFields (fields : Settings) : Condition :=
  let left := (fields.get? "leftValue").getD (.str "")
  let right := (fields.get? "rightValue").getD (.str "")
  let (operation, type) := operationOf fields
  match ofOperands left operation (.ofValue right), type with
  | .compare left right operation _, some type => .compare left right operation type
  | condition, _ => condition

def ofValue : Json → Condition
  | .obj fields => ofFields fields
  | .str text => ofText text
  | _ => .holds ""

end Condition

namespace Conditions

/-- What stands for the conditions in settings. -/
def given? (s : Settings) : Option Json :=
  s.get? "conditions" <|> s.get? "condition"

theorem sizeOf_given?_lt {s : Settings} {v : Json} (h : given? s = some v) :
    sizeOf v < sizeOf s := by
  unfold given? at h
  cases hc : s.get? "conditions" with
  | some w =>
    rw [hc] at h
    obtain rfl : w = v := by simpa using h
    exact Json.sizeOf_get?_lt hc
  | none =>
    rw [hc] at h
    exact Json.sizeOf_get?_lt (by simpa using h)

/-- A named combinator wins over the one that a text implies. -/
def ofSettings (s : Settings) : Conditions :=
  let named := (s.text? "combinator").map Combinator.ofText
  let joined (list : List Condition) : Conditions := ⟨list, named.getD .all⟩
  match _ : given? s with
  | some (.str text) =>
    let found := ofText text
    { found with combinator := named.getD found.combinator }
  | some (.arr items) => joined (items.map Condition.ofValue)
  | some (.obj fields) =>
    if Fields.has fields "conditions" then ofSettings fields
    else joined [.ofFields fields]
  | _ => joined (if s.has "leftValue" then [.ofFields s] else [])
termination_by sizeOf s
decreasing_by
  have := sizeOf_given?_lt ‹_›
  simp only [Json.obj.sizeOf_spec] at this
  omega

end Conditions

end FlowGraph
