import FlowGraph.Text.Blank

/-!
Texts with `${…}` spans in them. A span ends at the brace that balances its
opening one; a span that nothing closes is plain text up to the end.
-/

namespace FlowGraph.Template

/-- The length of what stands between the opening brace of a span and the brace
that closes it, where `depth` further braces are open. -/
def bodyLength? (depth : Nat) : List Char → Option Nat
  | [] => none
  | c :: cs =>
    if c = '{' then (bodyLength? (depth + 1) cs).map (· + 1)
    else if c = '}' then
      match depth with
      | 0 => some 0
      | depth + 1 => (bodyLength? depth cs).map (· + 1)
    else (bodyLength? depth cs).map (· + 1)

inductive Piece where
  | char (c : Char)
  /-- A span, without its dollar sign and its outer braces. -/
  | span (body : List Char)
deriving DecidableEq, Repr

def Piece.source : Piece → List Char
  | .char c => [c]
  | .span body => '$' :: '{' :: body ++ ['}']

/-- A text cut into its spans and the characters around them. -/
def pieces (cs : List Char) : List Piece :=
  match cs with
  | [] => []
  | c :: rest =>
    if c = '$' ∧ rest.head? = some '{' then
      match _ : bodyLength? 0 rest.tail with
      | some n => .span (rest.tail.take n) :: pieces (rest.tail.drop (n + 1))
      | none => (c :: rest).map .char
    else .char c :: pieces rest
termination_by cs.length
decreasing_by all_goals (simp only [List.length_cons, List.length_drop, List.length_tail]; omega)

/-- A text with its spans filled in; a span without a value stays as it is. -/
def expand (value : List Char → Option (List Char)) (cs : List Char) : List Char :=
  (pieces cs).flatMap fun
    | .char c => [c]
    | .span body => (value body).getD (Piece.span body).source

/-- The name that an environment read asks for: after `env(` a name that may
stand in quotes, then the closing bracket at the very end. -/
def envName? (body : List Char) : Option (List Char) :=
  match Text.dropPrefix? "env(".toList body with
  | none => none
  | some rest =>
    let name := (dropQuote (Text.trimStart rest)).takeWhile fun c => !isQuote c && c != ')'
    let after := (dropQuote (Text.trimStart rest)).dropWhile fun c => !isQuote c && c != ')'
    if Text.trimStart (dropQuote after) = [')'] then some (Text.trim name) else none
where
  isQuote (c : Char) : Bool := c = '"' || c = '\''
  dropQuote : List Char → List Char
    | [] => []
    | c :: rest => if isQuote c then rest else c :: rest

end FlowGraph.Template
