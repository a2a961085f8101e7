import FlowGraph.Condition
import FlowGraph.Date

/-!
Right operands of comparisons. What a text means as an operand is inferred: a
text in quotes is a string, and numbers, truth values and dates are told by
their look.
-/

namespace FlowGraph

inductive OperandType where
  | string | number | boolean | dateTime
deriving DecidableEq, Repr, Inhabited

def OperandType.name : OperandType → String
  | .string => "string"
  | .number => "number"
  | .boolean => "boolean"
  | .dateTime => "dateTime"

structure Operand where
  value : Json
  type : OperandType
deriving Inhabited

namespace Operand

/-- What stands between two equal quotes at the ends of a text. -/
def unquote? (cs : List Char) : Option (List Char) :=
  between? '"' cs <|> between? '\'' cs
where
  between? (quote : Char) (cs : List Char) : Option (List Char) :=
    if 2 ≤ cs.length && cs.head? = some quote && cs.getLast? = some quote
    then some cs.tail.dropLast
    else none

/-- Digits, perhaps with a minus before them and a point and more digits after
them. -/
def isNumber (cs : List Char) : Bool :=
  let body := if cs.head? = some '-' then cs.tail else cs
  let whole := body.takeWhile Decimal.isDigit
  let rest := body.dropWhile Decimal.isDigit
  !whole.isEmpty &&
    (match rest with
    | [] => true
    | c :: more => c = '.' && !more.isEmpty && more.all Decimal.isDigit)

/-- The operand that a text without blanks around it stands for. -/
def ofChars (cs : List Char) : Operand :=
  let text := String.ofList cs
  match unquote? cs with
  | some inner => ⟨.str (String.ofList inner), .string⟩
  | none =>
    match if isNumber cs then Json.numberOfText? text else none with
    | some n => ⟨n, .number⟩
    | none =>
      match Text.lowerAscii text with
      | "true" => ⟨.bool true, .boolean⟩
      | "false" => ⟨.bool false, .boolean⟩
      | _ => ⟨.str text, if isDate cs then .dateTime else .string⟩

def ofText (text : String) : Operand :=
  ofChars (Text.trim text.toList)

/-- A value as an operand: a text is inferred, everything else stays as it is. -/
def ofValue (v : Json) : Operand :=
  match v with
  | .str text => ofText text
  | .int _ | .float _ => ⟨v, .number⟩
  | .bool _ => ⟨v, .boolean⟩
  | v => ⟨v, .string⟩

end Operand

/-- A comparison whose type is that of its right operand, unless the operation
says otherwise. -/
def Condition.ofOperands (left : Json) (operation : Operation) (right : Operand) : Condition :=
  .compare left right.value operation
    (if operation.onTexts then OperandType.string.name else right.type.name)

end FlowGraph
