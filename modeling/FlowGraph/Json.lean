import FlowGraph.Fields
import FlowGraph.Decimal.Read
import FlowGraph.Text.Blank

/-!
Data values. Integers and binary64 numbers are kept apart, and the fields of an
object keep their order. Two values are the same (`same`) when they differ in
the order of fields only; an integer is never the same as a binary64 number.
-/

namespace FlowGraph

inductive Json where
  | null
  | bool (b : Bool)
  | int (i : Int)
  | float (x : Float)
  | str (s : String)
  | arr (items : List Json)
  | obj (fields : List (String × Json))
deriving Inhabited

namespace Json

/-- A finite number as it stands; null for what is not a number of the data
format. -/
def ofFloat (x : Float) : Json :=
  if x.isFinite then .float x else .null

def ofNat (n : Nat) : Json :=
  .int n

def isNull : Json → Bool
  | .null => true
  | _ => false

def isNumber : Json → Bool
  | .int _ | .float _ => true
  | _ => false

def isObject : Json → Bool
  | .obj _ => true
  | _ => false

def float? : Json → Option Float
  | .int i => some (Decimal.floatOfInt i)
  | .float x => some x
  | _ => none

def str? : Json → Option String
  | .str s => some s
  | _ => none

def bool? : Json → Option Bool
  | .bool b => some b
  | _ => none

def arr? : Json → Option (List Json)
  | .arr items => some items
  | _ => none

def obj? : Json → Option (Fields Json)
  | .obj fields => some fields
  | _ => none

/-- The value of a field; nothing for a value without fields. -/
def get? (v : Json) (name : String) : Option Json :=
  match v with
  | .obj fields => Fields.get? fields name
  | _ => none

/-- A number in a text: an integer if it is one, else a binary64 number. -/
def numberOfText? (text : String) : Option Json :=
  let cs := Text.trim text.toList
  match Decimal.int64? cs with
  | some i => some (.int i)
  | none => (Decimal.float? cs).map ofFloat

/-- The name of a value's kind, as messages use it. -/
def kindName : Json → String
  | .null => "null"
  | .bool _ => "boolean"
  | .int _ | .float _ => "number"
  | .str _ => "string"
  | .arr _ => "array"
  | .obj _ => "object"

mutual

def same : Json → Json → Bool
  | .null, .null => true
  | .bool a, .bool b => a == b
  | .int i, .int j => i == j
  | .float x, .float y => x == y
  | .str s, .str t => s == t
  | .arr items, .arr others => sameItems items others
  | .obj fields, .obj others => fields.length == others.length && sameFields fields others
  | _, _ => false

def sameItems : List Json → List Json → Bool
  | [], [] => true
  | v :: items, w :: others => same v w && sameItems items others
  | _, _ => false

/-- Every field on the left has the same value on the right. -/
def sameFields : List (String × Json) → List (String × Json) → Bool
  | [], _ => true
  | (name, v) :: fields, others =>
    match Fields.get? others name with
    | some w => same v w && sameFields fields others
    | none => false

end

theorem sizeOf_get?_lt {fields : List (String × Json)} {name : String} {v : Json}
    (h : Fields.get? fields name = some v) : sizeOf v < sizeOf fields := by
  induction fields with
  | nil => simp at h
  | cons pair rest ih =>
    obtain ⟨key, w⟩ := pair
    by_cases hk : key = name
    · obtain rfl : w = v := by simpa [Fields.get?, hk] using h
      simp only [List.cons.sizeOf_spec, Prod.mk.sizeOf_spec]
      omega
    · have := ih (by simpa [Fields.get?, hk] using h)
      simp only [List.cons.sizeOf_spec]
      omega

end Json

end FlowGraph
