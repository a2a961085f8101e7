import FlowGraph.Json
import FlowGraph.Decimal.Layout

/-!
Data values as text. The compact form has no spaces; the pretty form puts each
item and each field on a line of its own, two spaces deeper than what holds it.
-/

namespace FlowGraph.Json

def hexDigit (n : Nat) : Char :=
  if n < 10 then Char.ofNat ('0'.toNat + n) else Char.ofNat ('a'.toNat + n - 10)

/-- A character inside quotes: quotes, backslashes and control characters are
escaped, all others stand for themselves. -/
def escapeChar (c : Char) : List Char :=
  if c = '"' then ['\\', '"']
  else if c = '\\' then ['\\', '\\']
  else if c = '\n' then ['\\', 'n']
  else if c = '\r' then ['\\', 'r']
  else if c = '\t' then ['\\', 't']
  else if c = '\x08' then ['\\', 'b']
  else if c = '\x0c' then ['\\', 'f']
  else if c.toNat < 0x20 then
    ['\\', 'u', '0', '0', hexDigit (c.toNat / 16), hexDigit (c.toNat % 16)]
  else [c]

def quote (s : String) : List Char :=
  '"' :: s.toList.flatMap escapeChar ++ ['"']

mutual

def compactChars : Json → List Char
  | .null => ['n', 'u', 'l', 'l']
  | .bool true => ['t', 'r', 'u', 'e']
  | .bool false => ['f', 'a', 'l', 's', 'e']
  | .int i => Decimal.ofInt i
  | .float x => if x.isFinite then Decimal.json x else ['n', 'u', 'l', 'l']
  | .str s => quote s
  | .arr [] => ['[', ']']
  | .arr (v :: items) => '[' :: compactChars v ++ compactItems items
  | .obj [] => ['{', '}']
  | .obj ((name, v) :: fields) => '{' :: quote name ++ ':' :: compactChars v ++ compactFields fields

/-- The items after the first one, and the closing bracket. -/
def compactItems : List Json → List Char
  | [] => [']']
  | v :: items => ',' :: compactChars v ++ compactItems items

def compactFields : List (String × Json) → List Char
  | [] => ['}']
  | (name, v) :: fields => ',' :: quote name ++ ':' :: compactChars v ++ compactFields fields

end

def compact (v : Json) : String :=
  String.ofList (compactChars v)

def newline (depth : Nat) : List Char :=
  '\n' :: List.replicate (2 * depth) ' '

mutual

def prettyChars (depth : Nat) : Json → List Char
  | .null => ['n', 'u', 'l', 'l']
  | .bool true => ['t', 'r', 'u', 'e']
  | .bool false => ['f', 'a', 'l', 's', 'e']
  | .int i => Decimal.ofInt i
  | .float x => if x.isFinite then Decimal.json x else ['n', 'u', 'l', 'l']
  | .str s => quote s
  | .arr [] => ['[', ']']
  | .arr (v :: items) =>
    '[' :: newline (depth + 1) ++ prettyChars (depth + 1) v ++ prettyItems depth items
  | .obj [] => ['{', '}']
  | .obj ((name, v) :: fields) =>
    '{' :: newline (depth + 1) ++ quote name ++ ':' :: ' ' :: prettyChars (depth + 1) v ++
      prettyFields depth fields

def prettyItems (depth : Nat) : List Json → List Char
  | [] => newline depth ++ [']']
  | v :: items =>
    ',' :: newline (depth + 1) ++ prettyChars (depth + 1) v ++ prettyItems depth items

def prettyFields (depth : Nat) : List (String × Json) → List Char
  | [] => newline depth ++ ['}']
  | (name, v) :: fields =>
    ',' :: newline (depth + 1) ++ quote name ++ ':' :: ' ' :: prettyChars (depth + 1) v ++
      prettyFields depth fields

end

def pretty (v : Json) : String :=
  String.ofList (prettyChars 0 v)

/-- A text as it stands, any other value in its compact form. -/
def render : Json → String
  | .str s => s
  | v => compact v

end FlowGraph.Json
