import FlowGraph.Workflow
import FlowGraph.Text.Blank
import FlowGraph.Text.Rest

/-!
Workflows out of tokens. Reading goes from left to right and never goes back;
the first token that does not fit ends it, and the error names what was
expected there and what was found.

Each step hands back the tokens that it leaves unread together with the fact
that they are fewer than those it was given.
-/

namespace FlowGraph

/-- What was expected where reading stopped. -/
inductive Expected where
  | workflow | workflowName | workflowBody | statement | endOfInput
  | paramName | paramType | knownType
  | constraintName | constraintColon | minNumber | maxNumber | patternString | allowedArray
  | knownConstraint
  | variableName | variableEquals
  | nodeName | nodeType | point
  | moduleName | moduleEquals | modulePath
  | bodyOpen | bodyName | bodyColon
  | sourceName | arrow | targetName | portName
  | expression | objectKey | objectColon | validNumber | templateEnd
deriving DecidableEq

def Expected.message : Expected → String
  | .workflow => "expected 'workflow'"
  | .workflowName => "expected workflow name string"
  | .workflowBody => "expected '\x7b' after workflow name"
  | .statement => "expected 'param', 'var', 'node', 'module', 'connect' or '\x7d'"
  | .endOfInput => "expected end of input after workflow"
  | .paramName => "expected parameter name"
  | .paramType => "expected parameter type"
  | .knownType => "expected one of 'string', 'number', 'boolean', 'array', 'object'"
  | .constraintName => "expected constraint name"
  | .constraintColon => "expected ':' after constraint name"
  | .minNumber => "'min' must be a number"
  | .maxNumber => "'max' must be a number"
  | .patternString => "'pattern' must be a string"
  | .allowedArray => "'allowed' must be an array of literals"
  | .knownConstraint => "expected constraint 'min', 'max', 'pattern' or 'allowed'"
  | .variableName => "expected variable name"
  | .variableEquals => "expected '=' after variable name"
  | .nodeName => "expected node name"
  | .nodeType => "expected node type string"
  | .point => "'position' must be an array of two numbers"
  | .moduleName => "expected module name"
  | .moduleEquals => "expected '=' after module name"
  | .modulePath => "expected module path string"
  | .bodyOpen => "expected '\x7b'"
  | .bodyName => "expected parameter name or '\x7d'"
  | .bodyColon => "expected ':' after parameter name"
  | .sourceName => "expected source node name"
  | .arrow => "expected '->'"
  | .targetName => "expected target node name"
  | .portName => "expected port name"
  | .expression => "expected expression"
  | .objectKey => "expected object key or '\x7d'"
  | .objectColon => "expected ':' after object key"
  | .validNumber => "invalid number"
  | .templateEnd => "unterminated template expression"

structure ParseError where
  expected : Expected
  found : Token

namespace ParseError

def pos (e : ParseError) : Position :=
  e.found.pos

def message (e : ParseError) : String :=
  e.expected.message ++ ", found " ++ e.found.describe

end ParseError

namespace Parser

open Text (Unread Left)

/-- A failed step; no token stands for the end of input. -/
structure Fault where
  expected : Expected
  found : Option Token

abbrev Step (α : Type) (ts : List Token) :=
  Except Fault (α × Unread ts)

def stop {α : Type} (expected : Expected) (ts : List Token) : Except Fault α :=
  .error ⟨expected, ts.head?⟩

/-- The first token, if it has the kind. -/
def expect (kind : TokenKind) (expected : Expected) (ts : List Token) : Step Token ts :=
  match ts with
  | [] => stop expected []
  | t :: rest => if t.kind = kind then .ok (t, Unread.tail t rest) else stop expected (t :: rest)

/-- What follows the first token if it has the kind, else everything. -/
def skip (kind : TokenKind) (ts : List Token) : Left ts :=
  match ts with
  | [] => Left.all []
  | t :: rest => if t.kind = kind then Left.tail t rest else Left.all (t :: rest)

/-- An integer of 64 bits unless there is a point in the text, else a finite
binary64 number. -/
def numberValue? (text : String) : Option Json :=
  let cs := text.toList
  let integer := if cs.contains '.' then none else Decimal.int64? cs
  match integer with
  | some i => some (.int i)
  | none =>
    match Decimal.float? cs with
    | some x => if x.isFinite then some (.float x) else none
    | none => none

def stringExpr (text : String) : Expr :=
  if Text.contains ['$', '{'] text.toList then .template text else .literal (.str text)

/-- How a token is written inside a template that stands without quotes. -/
def templatePiece (t : Token) : String :=
  if t.kind = .string then "\"" ++ t.text ++ "\"" else t.text

/-- The text of a template after its start, with `depth` braces open inside it,
up to and with the brace that ends it. -/
def templateText? (depth : Nat) (ts : List Token) :
    Option (String × Unread ts) :=
  match ts with
  | [] => none
  | t :: rest =>
    if t.kind = .rbrace ∧ depth = 0 then some ("\x7d", ⟨rest, by simp⟩)
    else
      let inner :=
        if t.kind = .lbrace ∨ t.kind = .templateStart then depth + 1
        else if t.kind = .rbrace then depth - 1
        else depth
      match templateText? inner rest with
      | none => none
      | some (text, ⟨after, h⟩) =>
        some (templatePiece t ++ text, ⟨after, by simp only [List.length_cons]; omega⟩)

mutual

def expr (ts : List Token) : Step Expr ts :=
  match ts with
  | [] => stop .expression []
  | t :: rest =>
    let done (e : Expr) : Step Expr (t :: rest) := .ok (e, ⟨rest, by simp⟩)
    match t.kind with
    | .string => done (stringExpr t.text)
    | .number =>
      match numberValue? t.text with
      | some v => done (.literal v)
      | none => stop .validNumber (t :: rest)
    | .boolean => done (.literal (.bool (t.text = "true")))
    | .null => done (.literal .null)
    | .identifier =>
      match rest with
      | [] => .ok (.ident t.text, ⟨[], by simp⟩)
      | p :: more =>
        if p.kind = .lparen then do
          let (args, ⟨after, _⟩) ← items .rparen more
          return (.call t.text args, ⟨after, by simp only [List.length_cons]; omega⟩)
        else .ok (.ident t.text, ⟨p :: more, by simp⟩)
    | .lbrace => do
      let (entries, ⟨after, _⟩) ← entries rest
      return (.object entries, ⟨after, by simp only [List.length_cons]; omega⟩)
    | .lbracket => do
      let (items, ⟨after, _⟩) ← items .rbracket rest
      return (.array items, ⟨after, by simp only [List.length_cons]; omega⟩)
    | .templateStart =>
      match templateText? 0 rest with
      | some (text, ⟨after, _⟩) =>
        .ok (.template ("$\x7b" ++ text), ⟨after, by simp only [List.length_cons]; omega⟩)
      | none => stop .templateEnd (t :: rest)
    | _ => stop .expression (t :: rest)
termination_by 2 * ts.length
decreasing_by all_goals (simp only [List.length_cons]; omega)

/-- Expressions with a comma after each or not, up to the closing token. -/
def items (close : TokenKind) (ts : List Token) : Step (List Expr) ts :=
  match ts with
  | [] => stop .expression []
  | t :: rest =>
    if t.kind = close then .ok ([], ⟨rest, by simp⟩)
    else do
      let (e, ⟨afterItem, _⟩) ← expr (t :: rest)
      let ⟨next, _⟩ := skip .comma afterItem
      let (es, ⟨final, _⟩) ← items close next
      return (e :: es, ⟨final, by omega⟩)
termination_by 2 * ts.length + 1
decreasing_by all_goals (simp only [List.length_cons] at *; omega)

/-- Keys and values of an object with a comma after each or not, up to the
closing brace. -/
def entries (ts : List Token) : Step (List (String × Expr)) ts :=
  match ts with
  | [] => stop .objectKey []
  | t :: rest =>
    if t.kind = .rbrace then .ok ([], ⟨rest, by simp⟩)
    else if t.kind = .identifier ∨ t.kind = .string then do
      let (_, ⟨value, _⟩) ← expect .colon .objectColon rest
      let (e, ⟨afterValue, _⟩) ← expr value
      let ⟨next, _⟩ := skip .comma afterValue
      let (es, ⟨final, _⟩) ← entries next
      return ((t.text, e) :: es, ⟨final, by simp only [List.length_cons]; omega⟩)
    else stop .objectKey (t :: rest)
termination_by 2 * ts.length + 1
decreasing_by all_goals (simp only [List.length_cons]; omega)

end

/-- One constraint on top of those before it. The key and the first token of the
value are where its faults lie. -/
def constrain (before : Constraints) (key : Token) (value : Expr) (first : Option Token) :
    Except Fault Constraints :=
  let folded := value.fold?
  match key.text with
  | "min" =>
    match folded.bind Json.float? with
    | some x => .ok { before with min := some x }
    | none => .error ⟨.minNumber, first⟩
  | "max" =>
    match folded.bind Json.float? with
    | some x => .ok { before with max := some x }
    | none => .error ⟨.maxNumber, first⟩
  | "pattern" =>
    match folded.bind Json.str? with
    | some s => .ok { before with pattern := some s }
    | none => .error ⟨.patternString, first⟩
  | "allowed" =>
    match folded.bind Json.arr? with
    | some vs => .ok { before with allowed := some vs }
    | none => .error ⟨.allowedArray, first⟩
  | _ => .error ⟨.knownConstraint, some key⟩

/-- Constraints with a comma after each or not, up to the closing brace, on top
of those before them. -/
def constraints (before : Constraints) (ts : List Token) : Step Constraints ts :=
  match ts with
  | [] => stop .constraintName []
  | t :: rest =>
    if t.kind = .rbrace then .ok (before, ⟨rest, by simp⟩)
    else do
      let (key, ⟨afterKey, _⟩) ← expect .identifier .constraintName (t :: rest)
      let (_, ⟨value, _⟩) ← expect .colon .constraintColon afterKey
      let (e, ⟨afterValue, _⟩) ← expr value
      let combined ← constrain before key e value.head?
      let ⟨next, _⟩ := skip .comma afterValue
      let (final, ⟨after, _⟩) ← constraints combined next
      return (final, ⟨after, by omega⟩)
termination_by ts.length
decreasing_by simp only [List.length_cons] at *; omega

/-- The default value of a parameter, if one stands here. -/
def default? (ts : List Token) :
    Except Fault (Option Expr × Left ts) :=
  match ts with
  | [] => .ok (none, Left.all [])
  | t :: rest =>
    if t.kind = .equals then do
      let (e, after) ← expr rest
      return (some e, Unread.toLeft t after)
    else .ok (none, Left.all (t :: rest))

/-- The constraints of a parameter, if a block of them stands here. -/
def constraintBlock (ts : List Token) :
    Except Fault (Constraints × Left ts) :=
  match ts with
  | [] => .ok ({}, Left.all [])
  | t :: rest =>
    if t.kind = .lbrace then do
      let (cs, after) ← constraints {} rest
      return (cs, Unread.toLeft t after)
    else .ok ({}, Left.all (t :: rest))

/-- A parameter after its keyword. -/
def param (pos : Position) (ts : List Token) : Step Param ts := do
  let (name, ⟨afterName, _⟩) ← expect .identifier .paramName ts
  let (typeName, ⟨afterType, _⟩) ← expect .identifier .paramType afterName
  match ParamType.ofName? typeName.text with
  | none => .error ⟨.knownType, some typeName⟩
  | some type =>
    let (default, ⟨afterDefault, _⟩) ← default? afterType
    let (constraints, ⟨rest, _⟩) ← constraintBlock afterDefault
    return ({ name := name.text, type, default, required := default.isNone, constraints, pos },
      ⟨rest, by omega⟩)

/-- A variable after its keyword. -/
def var (pos : Position) (ts : List Token) : Step Variable ts := do
  let (name, ⟨afterName, _⟩) ← expect .identifier .variableName ts
  let (_, ⟨value, _⟩) ← expect .equals .variableEquals afterName
  let (value, ⟨rest, _⟩) ← expr value
  return ({ name := name.text, value, pos }, ⟨rest, by omega⟩)

/-- The entries of a body after its opening brace. -/
def bodyEntries (ts : List Token) : Step (List (Token × Expr)) ts :=
  match ts with
  | [] => stop .bodyName []
  | t :: rest =>
    if t.kind = .rbrace then .ok ([], ⟨rest, by simp⟩)
    else do
      let (key, ⟨afterKey, _⟩) ← expect .identifier .bodyName (t :: rest)
      let (_, ⟨value, _⟩) ← expect .colon .bodyColon afterKey
      let (e, ⟨afterValue, _⟩) ← expr value
      let ⟨next, _⟩ := skip .comma afterValue
      let (es, ⟨final, _⟩) ← bodyEntries next
      return ((key, e) :: es, ⟨final, by omega⟩)
termination_by ts.length
decreasing_by simp only [List.length_cons] at *; omega

def body (ts : List Token) : Step (List (Token × Expr)) ts := do
  let (_, ⟨inner, _⟩) ← expect .lbrace .bodyOpen ts
  let (entries, ⟨rest, _⟩) ← bodyEntries inner
  return (entries, ⟨rest, by omega⟩)

/-- The two numbers of a point. -/
def point? (e : Expr) : Option Point :=
  match e.fold? with
  | some (.arr [a, b]) =>
    match a.float?, b.float? with
    | some x, some y => some ⟨x, y⟩
    | _, _ => none
  | _ => none

/-- The parameters of a node, and its point: every entry named `position` has to
be one, and the last one counts. -/
def splitPoint (before : Option Point) :
    List (Token × Expr) → Except Fault (List (String × Expr) × Option Point)
  | [] => .ok ([], before)
  | (key, e) :: entries =>
    if key.text = "position" then
      match point? e with
      | some p => splitPoint (some p) entries
      | none => .error ⟨.point, some key⟩
    else do
      let (parameters, point) ← splitPoint before entries
      return ((key.text, e) :: parameters, point)

/-- A node after its keyword. -/
def node (pos : Position) (ts : List Token) : Step Node ts := do
  let (name, ⟨afterName, _⟩) ← expect .identifier .nodeName ts
  let (tag, ⟨afterTag, _⟩) ← expect .string .nodeType afterName
  let (entries, ⟨rest, _⟩) ← body afterTag
  let (parameters, point) ← splitPoint none entries
  return ({ name := name.text, tag := tag.text, parameters, point, pos }, ⟨rest, by omega⟩)

/-- A module reference after its keyword. -/
def moduleRef (pos : Position) (ts : List Token) : Step ModuleRef ts := do
  let (name, ⟨afterName, _⟩) ← expect .identifier .moduleName ts
  let (_, ⟨afterEquals, _⟩) ← expect .equals .moduleEquals afterName
  let (path, ⟨afterPath, _⟩) ← expect .string .modulePath afterEquals
  let (entries, ⟨rest, _⟩) ← body afterPath
  return ({ name := name.text, path := path.text,
            parameters := entries.map fun (key, e) => (key.text, e), pos }, ⟨rest, by omega⟩)

/-- The port of an endpoint, or the default one if no dot stands here. -/
def port (ts : List Token) :
    Except Fault (String × Left ts) :=
  match ts with
  | [] => .ok (Endpoint.defaultPort, Left.all [])
  | dot :: afterDot =>
    if dot.kind = .dot then
      match afterDot with
      | [] => stop .portName []
      | name :: rest =>
        if name.kind = .identifier ∨ name.kind = .boolean then
          .ok (name.text, Left.push dot (Left.tail name rest))
        else stop .portName (name :: rest)
    else .ok (Endpoint.defaultPort, Left.all (dot :: afterDot))

def endpoint (expected : Expected) (ts : List Token) : Step Endpoint ts := do
  let (node, ⟨afterNode, _⟩) ← expect .identifier expected ts
  let (port, ⟨rest, _⟩) ← port afterNode
  return (⟨node.text, port⟩, ⟨rest, by omega⟩)

/-- A connection after its keyword. -/
def connection (pos : Position) (ts : List Token) : Step Connection ts := do
  let (source, ⟨afterSource, _⟩) ← endpoint .sourceName ts
  let (_, ⟨afterArrow, _⟩) ← expect .arrow .arrow afterSource
  let (target, ⟨rest, _⟩) ← endpoint .targetName afterArrow
  return ({ source, target, pos }, ⟨rest, by omega⟩)

inductive Statement where
  | param (p : Param)
  | var (v : Variable)
  | entry (e : Entry)
  | connection (c : Connection)

/-- A step inside a statement, as a step of the whole statement. -/
def Step.under {α β : Type} {t : Token} {rest : List Token} (f : α → β) (step : Step α rest) :
    Step β (t :: rest) :=
  step.map fun (a, ⟨after, h⟩) => (f a, ⟨after, by simp only [List.length_cons]; omega⟩)

def statement (t : Token) (rest : List Token) : Step Statement (t :: rest) :=
  match t.kind with
  | .param => (param t.pos rest).under .param
  | .var => (var t.pos rest).under .var
  | .node => (node t.pos rest).under fun n => .entry (.node n)
  | .module => (moduleRef t.pos rest).under fun m => .entry (.module m)
  | .connect => (connection t.pos rest).under .connection
  | _ => stop .statement (t :: rest)

/-- Statements with a semicolon after each or not, up to the closing brace. -/
def statements (ts : List Token) : Step (List Statement) ts :=
  match ts with
  | [] => stop .statement []
  | t :: rest =>
    if t.kind = .rbrace then .ok ([], ⟨rest, by simp⟩)
    else do
      let (s, ⟨after, _⟩) ← statement t rest
      let ⟨next, _⟩ := skip .semicolon after
      let (more, ⟨final, _⟩) ← statements next
      return (s :: more, ⟨final, by omega⟩)
termination_by ts.length
decreasing_by simp only [List.length_cons] at *; omega

namespace Statement

def param? : Statement → Option Param
  | .param p => some p
  | _ => none

def var? : Statement → Option Variable
  | .var v => some v
  | _ => none

def entry? : Statement → Option Entry
  | .entry e => some e
  | _ => none

def connection? : Statement → Option Connection
  | .connection c => some c
  | _ => none

end Statement

/-- The declarations of each kind, in order. -/
def assemble (name : String) (pos : Position) (statements : List Statement) : Workflow where
  name := name
  params := statements.filterMap Statement.param?
  vars := statements.filterMap Statement.var?
  entries := statements.filterMap Statement.entry?
  connections := statements.filterMap Statement.connection?
  pos := pos

/-- A workflow with nothing after it. -/
def workflow (ts : List Token) : Except Fault Workflow := do
  let (keyword, ⟨afterKeyword, _⟩) ← expect .workflow .workflow ts
  let (name, ⟨afterName, _⟩) ← expect .string .workflowName afterKeyword
  let (_, ⟨inner, _⟩) ← expect .lbrace .workflowBody afterName
  let (statements, ⟨rest, _⟩) ← statements inner
  match rest with
  | [] => return assemble name.text keyword.pos statements
  | t :: more => stop .endOfInput (t :: more)

/-- The tokens before the end of input. -/
def beforeEnd (tokens : List Token) : List Token :=
  tokens.takeWhile fun t => t.kind ≠ .eof

/-- The token that stands for the end of input: the first such token, or else
one right after the last token. -/
def endToken (tokens : List Token) : Token :=
  match tokens.find? fun t => t.kind = .eof with
  | some t => t
  | none =>
    match tokens.getLast? with
    | none => ⟨.eof, "", .start⟩
    | some t => ⟨.eof, "", ⟨t.pos.line, t.pos.column + t.text.length⟩⟩

def located {α : Type} (tokens : List Token) (result : Except Fault α) : Except ParseError α :=
  result.mapError fun fault => ⟨fault.expected, fault.found.getD (endToken tokens)⟩

end Parser

/-- The workflow that a list of tokens declares. -/
def Workflow.ofTokens (tokens : List Token) : Except ParseError Workflow :=
  Parser.located tokens (Parser.workflow (Parser.beforeEnd tokens))

/-- The expression at the start of a list of tokens; what follows it does not
matter. -/
def Expr.ofTokens (tokens : List Token) : Except ParseError Expr :=
  Parser.located tokens ((Parser.expr (Parser.beforeEnd tokens)).map fun (e, _) => e)

end FlowGraph
