import FlowGraph.Uuid

/-!
Conditions of a branch: comparisons of two operands, or a text that is taken for
true. Several conditions are joined by one combinator.
-/

namespace FlowGraph

inductive Operation where
  | equals | notEquals | gt | lt | gte | lte | contains | startsWith | endsWith | regex
deriving DecidableEq, Repr, Inhabited

namespace Operation

def name : Operation → String
  | .equals => "equals"
  | .notEquals => "notEquals"
  | .gt => "gt"
  | .lt => "lt"
  | .gte => "gte"
  | .lte => "lte"
  | .contains => "contains"
  | .startsWith => "startsWith"
  | .endsWith => "endsWith"
  | .regex => "regex"

/-- Operations by their names and signs, in lower case. -/
def ofName? (name : String) : Option Operation :=
  match name with
  | "==" | "=" | "eq" | "equal" | "equals" => some .equals
  | "!=" | "<>" | "ne" | "notequal" | "notequals" => some .notEquals
  | ">" | "gt" | "larger" => some .gt
  | "<" | "lt" | "smaller" => some .lt
  | ">=" | "gte" | "largerequal" => some .gte
  | "<=" | "lte" | "smallerequal" => some .lte
  | "contains" => some .contains
  | "startswith" | "starts_with" => some .startsWith
  | "endswith" | "ends_with" => some .endsWith
  | "regex" | "matches" => some .regex
  | _ => none

/-- The operation that a text names, blanks around it and case aside; equality if
it names none. -/
def ofText (text : String) : Operation :=
  (ofName? (Text.lowerAscii (Text.strip text))).getD .equals

/-- Operations on texts, whatever their right operand looks like. -/
def onTexts : Operation → Bool
  | .contains | .startsWith | .endsWith | .regex => true
  | _ => false

end Operation

inductive Combinator where
  | all
  | any
deriving DecidableEq, Repr, Inhabited

namespace Combinator

def name : Combinator → String
  | .all => "and"
  | .any => "or"

def ofText (text : String) : Combinator :=
  match Text.lowerAscii (Text.strip text) with
  | "or" | "||" | "any" => .any
  | _ => .all

end Combinator

inductive Condition where
  | compare (left right : Json) (operation : Operation) (type : String)
  /-- Taken for true whatever it says. -/
  | holds (text : String)
deriving Inhabited

def Condition.toJson (id : Uuid) : Condition → Json
  | .compare left right operation type =>
    .obj [("id", id.toJson), ("leftValue", left), ("rightValue", right),
      ("operator", .obj [("type", .str type), ("operation", .str operation.name)])]
  | .holds text =>
    .obj [("id", id.toJson), ("leftValue", .str text), ("rightValue", .str ""),
      ("operator", .obj [("type", .str "boolean"), ("operation", .str "true"),
        ("singleValue", .bool true)])]

/-- Conditions and how they are joined. -/
structure Conditions where
  list : List Condition
  combinator : Combinator
deriving Inhabited

end FlowGraph
