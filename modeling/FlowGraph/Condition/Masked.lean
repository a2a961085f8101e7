import FlowGraph.Decimal.Read
import FlowGraph.Decimal.Shortest
import FlowGraph.Text.Digit

/-!
Texts whose `${…}` spans are masked: each closed span gives way to a placeholder
with its number, so that no sign inside a span is taken for an operator. From an
unclosed span on, nothing is masked.
-/

namespace FlowGraph

structure Masked where
  text : List Char
  spans : List (List Char)
deriving DecidableEq, Repr

namespace Masked

/-- The length of what leads up to and over the brace at which no brace is open
any more, where `depth` braces are open before. -/
def balancedLength? (depth : Nat) : List Char → Option Nat
  | [] => none
  | c :: cs =>
    if c = '{' then (balancedLength? (depth + 1) cs).map (· + 1)
    else if c = '}' then
      if depth ≤ 1 then some 1 else (balancedLength? (depth - 1) cs).map (· + 1)
    else (balancedLength? depth cs).map (· + 1)

/-- The length of the span that a text starts with, from its dollar sign to its
closing brace. -/
def spanLength? (cs : List Char) : Option Nat :=
  (balancedLength? 0 cs.tail).map (· + 1)

/-- The character that encloses the number of a placeholder. -/
def mark : Char := '\x01'

def placeholder (n : Nat) : List Char :=
  mark :: Decimal.digits n ++ [mark]

/-- A text with its spans masked, numbered from `n` on. -/
def ofCharsFrom (n : Nat) (cs : List Char) : Masked :=
  match cs with
  | [] => ⟨[], []⟩
  | c :: rest =>
    if c = '$' ∧ rest.head? = some '{' then
      match spanLength? (c :: rest) with
      | none => ⟨c :: rest, []⟩
      | some length =>
        let m := ofCharsFrom (n + 1) (rest.drop (length - 1))
        ⟨placeholder n ++ m.text, (c :: rest).take length :: m.spans⟩
    else
      let m := ofCharsFrom n rest
      ⟨c :: m.text, m.spans⟩
termination_by cs.length
decreasing_by all_goals (simp only [List.length_cons, List.length_drop]; omega)

def ofChars (cs : List Char) : Masked :=
  ofCharsFrom 0 cs

/-- A part of the masked text with the spans back in their places. A placeholder
whose number no span has is plain text. -/
def restore (spans : List (List Char)) (cs : List Char) : List Char :=
  match cs with
  | [] => []
  | c :: rest =>
    let ds := rest.takeWhile Text.isDecimalDigit
    let after := rest.dropWhile Text.isDecimalDigit
    if c = mark ∧ ds ≠ [] ∧ after.head? = some mark then
      ((Decimal.natural? ds).bind (spans[·]?)).getD (mark :: ds ++ [mark]) ++
        restore spans after.tail
    else c :: restore spans rest
termination_by cs.length
decreasing_by
  · have : (rest.dropWhile Text.isDecimalDigit).length ≤ rest.length :=
      (List.dropWhile_sublist _).length_le
    simp only [List.length_cons, List.length_tail]
    omega
  · simp

end Masked

end FlowGraph
