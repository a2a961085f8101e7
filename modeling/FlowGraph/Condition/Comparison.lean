import FlowGraph.Condition.Masked
import FlowGraph.Condition.Operand
import FlowGraph.Text.CaseFold

/-!
Conditions out of text. A clause is a comparison if an operator stands in it with
something before and after it: a sign, or a word with blanks around it. The
leftmost operator counts, and of the signs at one place the first of `signs`
that leaves something for the right operand.
-/

namespace FlowGraph

/-- A clause cut at its operator. -/
structure Comparison where
  left : List Char
  operator : List Char
  right : List Char
deriving DecidableEq, Repr

namespace Comparison

def signs : List (List Char) :=
  [['>', '='], ['<', '='], ['=', '='], ['!', '='], ['<', '>'], ['>'], ['<'], ['=']]

def operatorWords : List (List Char) :=
  ["contains".toList, "starts_with".toList, "startswith".toList, "ends_with".toList,
    "endswith".toList, "matches".toList, "regex".toList]

/-- The right operand after an operator and at least `blanks` blanks. Where only
blanks follow, the last of them is the operand. -/
def right? (blanks : Nat) (cs : List Char) : Option (List Char) :=
  match Text.trimStart cs with
  | [] => if blanks < cs.length then some (cs.drop (cs.length - 1)) else none
  | c :: rest =>
    if (c :: rest).length + blanks ≤ cs.length then some (Text.trimEnd (c :: rest)) else none

/-- Does a text begin with a word, case aside? If so, what follows the word. -/
def dropWord? : List Char → List Char → Option (List Char)
  | [], cs => some cs
  | _ :: _, [] => none
  | w :: word, c :: cs => if w = Text.foldCase c then dropWord? word cs else none

def signAt? (cs : List Char) : Option (List Char × List Char) :=
  signs.findSome? fun sign =>
    ((Text.dropPrefix? sign cs).bind (right? 0)).map fun right => (sign, right)

def wordAt? (cs : List Char) : Option (List Char × List Char) :=
  operatorWords.findSome? fun word =>
    ((dropWord? word cs).bind (right? 1)).map fun right => (cs.take word.length, right)

/-- The operator and the right operand that follow a left operand. -/
def operatorAt? (cs : List Char) : Option (List Char × List Char) :=
  let body := Text.trimStart cs
  signAt? body <|> if body.length < cs.length then wordAt? body else none

/-- Cuts at the first operator that has a character before it. -/
def cut? : List Char → Option Comparison
  | [] => none
  | c :: cs =>
    match operatorAt? cs with
    | some (operator, right) => some ⟨[c], operator, right⟩
    | none => (cut? cs).map fun found => { found with left := c :: found.left }

/-- Blanks at the start are no part of the left operand, unless nothing else can
be it. -/
def ofClause? : List Char → Option Comparison
  | [] => none
  | c :: cs =>
    if Text.isBlank c then ofClause? cs <|> cut? (c :: cs) else cut? (c :: cs)

end Comparison

namespace Condition

/-- The condition of a masked clause. -/
def ofClause (spans : List (List Char)) (clause : List Char) : Condition :=
  match Comparison.ofClause? clause with
  | none => .holds (String.ofList (Text.trim (Masked.restore spans clause)))
  | some c =>
    .ofOperands (.str (String.ofList (Masked.restore spans c.left)))
      (.ofText (String.ofList c.operator))
      (.ofChars (Text.trim (Masked.restore spans c.right)))

/-- The condition that a text with one clause writes. -/
def ofText (text : String) : Condition :=
  let m := Masked.ofChars text.toList
  ofClause m.spans m.text

end Condition

namespace Conditions

/-- Cuts a text wherever a character stands twice. -/
def splitAtPair (c : Char) : List Char → List (List Char)
  | [] => [[]]
  | [a] => [[a]]
  | a :: b :: cs =>
    if a = c ∧ b = c then [] :: splitAtPair c cs
    else
      match splitAtPair c (b :: cs) with
      | [] => [[a]]
      | part :: parts => (a :: part) :: parts

/-- Clauses joined by bars, or else by ampersands. -/
def ofText (text : String) : Conditions :=
  let m := Masked.ofChars text.toList
  let any := Text.contains ['|', '|'] m.text
  let clauses := (splitAtPair (if any then '|' else '&') m.text).map Text.trim
  { list := (clauses.filter (· ≠ [])).map (Condition.ofClause m.spans)
    combinator := if any then .any else .all }

end Conditions

end FlowGraph
