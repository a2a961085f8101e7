/-!
Tokens of workflow sources and where they stand. Lines and columns count from
one, and columns count characters.
-/

namespace FlowGraph

structure Position where
  line : Nat
  column : Nat
deriving DecidableEq, Repr, Inhabited

namespace Position

def start : Position := ⟨1, 1⟩

def step (p : Position) (c : Char) : Position :=
  if c = '\n' then ⟨p.line + 1, 1⟩ else ⟨p.line, p.column + 1⟩

/-- The position right after `cs`, when `cs` starts at `p`. -/
def after (p : Position) (cs : List Char) : Position :=
  cs.foldl step p

@[simp] theorem after_nil (p : Position) : p.after [] = p := rfl

@[simp] theorem after_cons (p : Position) (c : Char) (cs : List Char) :
    p.after (c :: cs) = (p.step c).after cs := rfl

theorem after_append (p : Position) (cs ds : List Char) :
    p.after (cs ++ ds) = (p.after cs).after ds := List.foldl_append

end Position

inductive TokenKind where
  | string | number | boolean | null | identifier
  | workflow | param | var | node | module | connect
  | lbrace | rbrace | lbracket | rbracket | lparen | rparen
  | comma | colon | semicolon | equals | arrow | dot
  | and | or | templateStart
  | eof
deriving DecidableEq, Repr, Inhabited

namespace TokenKind

/-- The kind of a reserved word. -/
def ofKeyword? (word : String) : Option TokenKind :=
  match word with
  | "workflow" => some .workflow
  | "param" => some .param
  | "var" => some .var
  | "node" => some .node
  | "module" => some .module
  | "connect" => some .connect
  | "true" | "false" => some .boolean
  | "null" => some .null
  | _ => none

/-- How messages name a kind. -/
def display : TokenKind → String
  | .string => "string"
  | .number => "number"
  | .boolean => "boolean"
  | .null => "null"
  | .identifier => "identifier"
  | .workflow => "'workflow'"
  | .param => "'param'"
  | .var => "'var'"
  | .node => "'node'"
  | .module => "'module'"
  | .connect => "'connect'"
  | .lbrace => "'\x7b'"
  | .rbrace => "'\x7d'"
  | .lbracket => "'['"
  | .rbracket => "']'"
  | .lparen => "'('"
  | .rparen => "')'"
  | .comma => "','"
  | .colon => "':'"
  | .semicolon => "';'"
  | .equals => "'='"
  | .arrow => "'->'"
  | .dot => "'.'"
  | .and => "'&&'"
  | .or => "'||'"
  | .templateStart => "'$\x7b'"
  | .eof => "end of input"

end TokenKind

/-- A token with its text, which for a string is its value and not its source. -/
structure Token where
  kind : TokenKind
  text : String
  pos : Position
deriving DecidableEq, Repr, Inhabited

/-- How messages name a token: by its text where the kind does not say enough. -/
def Token.describe (t : Token) : String :=
  match t.kind with
  | .identifier => "identifier '" ++ t.text ++ "'"
  | .string => "string \"" ++ t.text ++ "\""
  | .number | .boolean => t.kind.display ++ " " ++ t.text
  | kind => kind.display

end FlowGraph
