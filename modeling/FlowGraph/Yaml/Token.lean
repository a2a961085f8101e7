import FlowGraph.Yaml.Text

/-!
Tokens of structured text. Indentation opens and closes collections, and a colon
may turn what stands before it on the line into a key, so tokens are put in front
of others that were there before.
-/

namespace FlowGraph.Yaml

inductive Style where
  | plain | quoted | literal | folded
deriving DecidableEq, Repr

inductive Token where
  | version
  | tagHandle (handle expansion : List Char)
  | documentStart
  | documentEnd
  | blockSequence
  | blockMapping
  | blockEnd
  | flowSequence
  | flowSequenceEnd
  | flowMapping
  | flowMappingEnd
  | blockEntry
  | flowEntry
  | key
  | value
  | alias (name : List Char)
  | anchor (name : List Char)
  | tag (handle suffix : List Char)
  | scalar (style : Style) (text : List Char)
deriving DecidableEq, Repr

/-- A place where a key may have started: the number of the token there, and
whether it has to be a key. -/
structure KeyStart where
  required : Bool
  number : Nat
  line : Nat
  column : Nat
  index : Nat

/-- A key that is not marked as one stands on one line and is not longer than
this. -/
def maxKeyLength : Nat := 1024

structure Scanner where
  rest : List Char
  index : Nat := 0
  line : Nat := 0
  column : Nat := 0
  /-- How many brackets are open. -/
  flow : Nat := 0
  /-- The columns of the open block collections, the innermost first. -/
  indents : List Nat := []
  keyAllowed : Bool := true
  /-- Where a key may have started, for each open bracket, the innermost first. -/
  keys : List (Option KeyStart) := [none]
  /-- The tokens so far, the last first. -/
  tokens : List Token := []

namespace Scanner

def indent (s : Scanner) : Int :=
  match s.indents with
  | [] => -1
  | column :: _ => column

def inFlow (s : Scanner) : Bool :=
  0 < s.flow

def advanceOver (s : Scanner) : List Char → Scanner
  | [] => s
  | c :: cs =>
    let place := if isBreak c then (s.line + 1, 0) else (s.line, s.column + 1)
    advanceOver { s with index := s.index + 1, line := place.1, column := place.2 } cs

/-- Goes on to what is left of the text. -/
def moveTo (s : Scanner) (rest : List Char) : Scanner :=
  { s.advanceOver (s.rest.take (s.rest.length - rest.length)) with rest }

def skip (s : Scanner) (count : Nat) : Scanner :=
  s.moveTo (s.rest.drop count)

def emit (s : Scanner) (t : Token) : Scanner :=
  { s with tokens := t :: s.tokens }

/-- Puts a token in front of the one with this number. -/
def insert (s : Scanner) (number : Nat) (t : Token) : Scanner :=
  let later := s.tokens.length - number
  { s with tokens := s.tokens.take later ++ t :: s.tokens.drop later }

/-- Opens a block collection if this column is further in than the open ones. -/
def openBlock (s : Scanner) (column number : Nat) (t : Token) : Scanner :=
  if s.inFlow || column ≤ s.indent then s
  else { s.insert number t with indents := column :: s.indents }

/-- Closes the block collections that are further in than this column. -/
def closeTo (s : Scanner) (column : Int) : Scanner :=
  if s.inFlow then s
  else
    let further (indent : Nat) : Bool := column < indent
    let closed := s.indents.takeWhile further
    { s with
      indents := s.indents.dropWhile further
      tokens := closed.map (fun _ => .blockEnd) ++ s.tokens }

/-- Gives up the place where a key may have started. -/
def dropKey? (s : Scanner) : Option Scanner :=
  match s.keys with
  | some k :: keys => if k.required then none else some { s with keys := none :: keys }
  | _ => some s

/-- Notes that a key may start here. -/
def noteKey? (s : Scanner) : Option Scanner :=
  if !s.keyAllowed then some s
  else
    s.dropKey?.map fun s =>
      let k : KeyStart := {
        required := !s.inFlow && s.indent = s.column
        number := s.tokens.length
        line := s.line
        column := s.column
        index := s.index }
      { s with keys := some k :: s.keys.tail }

def isStale (s : Scanner) (k : KeyStart) : Bool :=
  k.line < s.line || k.index + maxKeyLength < s.index

/-- Gives up the places of keys that are too far away by now. -/
def dropStale? (s : Scanner) : Option Scanner :=
  if s.keys.any fun k => k.any fun k => k.required && s.isStale k then none
  else some { s with keys := s.keys.map fun k => k.filter fun k => !s.isStale k }

/-- Passes blanks, comments and line breaks; a new line may start with a key. -/
def blankLength (flow comment allowed : Bool) : List Char → Nat × Bool
  | [] => (0, allowed)
  | c :: cs =>
    let next (comment allowed : Bool) : Nat × Bool :=
      let (n, allowed) := blankLength flow comment allowed cs
      (n + 1, allowed)
    if isBreak c then next false (allowed || !flow)
    else if comment then next true allowed
    else if c = ' ' || (c = '\t' && (flow || !allowed)) then next false allowed
    else if c = '#' then next true allowed
    else (0, allowed)

def skipBlanks (s : Scanner) : Scanner :=
  let (n, allowed) := blankLength s.inFlow false s.keyAllowed s.rest
  { s.skip n with keyAllowed := allowed }

/-! ### The kinds of tokens -/

def documentMark? (s : Scanner) (t : Token) : Option Scanner :=
  (s.closeTo (-1)).dropKey?.map fun s => { (s.emit t).skip 3 with keyAllowed := false }

def openFlow? (s : Scanner) (t : Token) : Option Scanner :=
  s.noteKey?.map fun s =>
    { (s.emit t).skip 1 with keys := none :: s.keys, flow := s.flow + 1, keyAllowed := true }

def closeFlow? (s : Scanner) (t : Token) : Option Scanner :=
  s.dropKey?.map fun s =>
    let inner := if s.inFlow then { s with keys := s.keys.tail, flow := s.flow - 1 } else s
    { (inner.emit t).skip 1 with keyAllowed := false }

def flowEntry? (s : Scanner) : Option Scanner :=
  s.dropKey?.map fun s => { (s.emit .flowEntry).skip 1 with keyAllowed := true }

def blockEntry? (s : Scanner) : Option Scanner :=
  if !s.inFlow && !s.keyAllowed then none
  else
    (s.openBlock s.column s.tokens.length .blockSequence).dropKey?.map fun s =>
      { (s.emit .blockEntry).skip 1 with keyAllowed := true }

def key? (s : Scanner) : Option Scanner :=
  if !s.inFlow && !s.keyAllowed then none
  else
    (s.openBlock s.column s.tokens.length .blockMapping).dropKey?.map fun s =>
      { (s.emit .key).skip 1 with keyAllowed := !s.inFlow }

def value? (s : Scanner) : Option Scanner :=
  match s.keys with
  | some k :: keys =>
    let keyed := ({ s with keys := none :: keys }.insert k.number .key).openBlock k.column k.number
      .blockMapping
    some { (keyed.emit .value).skip 1 with keyAllowed := false }
  | _ =>
    if !s.inFlow && !s.keyAllowed then none
    else
      let opened := s.openBlock s.column s.tokens.length .blockMapping
      some { (opened.emit .value).skip 1 with keyAllowed := !s.inFlow }

def isNameChar (c : Char) : Bool :=
  c.isAlphanum || c = '_' || c = '-'

/-- A name after its sign; only some signs may follow it at once. -/
def name? (s : Scanner) (t : List Char → Token) : Option Scanner :=
  let name := s.rest.tail.takeWhile isNameChar
  let after := s.rest.tail.dropWhile isNameChar
  let ends := atGap after ||
    after.head?.any fun c => ['?', ':', ',', ']', '}', '%', '@', '\x60'].contains c
  if name.isEmpty || !ends then none
  else s.noteKey?.map fun s => { (s.emit (t name)).moveTo after with keyAllowed := false }

def isUriChar (c : Char) : Bool :=
  isNameChar c ||
    [';', '/', '?', ':', '@', '&', '=', '+', '$', '.', '%', '!', '~', '*', '\'', '(', ')'].contains c

/-- Signs that may stand in a tag that is written in full. -/
def isFullUriChar (c : Char) : Bool :=
  isUriChar c || [',', '[', ']'].contains c

/-- The bytes that signs stand for; a percent sign stands before the code of a
byte. -/
def uriBytes? : List Char → Option (List UInt8)
  | [] => some []
  | '%' :: a :: b :: cs =>
    match Json.hexValue? a, Json.hexValue? b, uriBytes? cs with
    | some high, some low, some more => some ((16 * high + low).toUInt8 :: more)
    | _, _, _ => none
  | c :: cs => if c = '%' then none else (uriBytes? cs).map (c.toUInt8 :: ·)

/-- Signs of a tag, and what follows them. -/
def uri? (isSign : Char → Bool) (cs : List Char) : Option (List Char × List Char) :=
  match uriBytes? (cs.takeWhile isSign) with
  | none => none
  | some bytes =>
    (String.fromUTF8? ⟨bytes.toArray⟩).map fun text => (text.toList, cs.dropWhile isSign)

/-- A tag: in full between angle brackets, or a handle and what it is to expand. -/
def tagParts? (cs : List Char) : Option ((List Char × List Char) × List Char) :=
  match cs with
  | '!' :: '<' :: rest =>
    match uri? isFullUriChar rest with
    | some (c :: uri, '>' :: after) => some (([], c :: uri), after)
    | _ => none
  | '!' :: rest =>
    let name := rest.takeWhile isNameChar
    let after := rest.dropWhile isNameChar
    if after.head? = some '!' then
      match uri? isUriChar after.tail with
      | some (c :: suffix, final) => some (('!' :: name ++ ['!'], c :: suffix), final)
      | _ => none
    else
      (uri? isUriChar rest).map fun (suffix, final) =>
        (if suffix.isEmpty then ([], ['!']) else (['!'], suffix), final)
  | _ => none

def tag? (s : Scanner) : Option Scanner :=
  match tagParts? s.rest with
  | none => none
  | some ((handle, suffix), after) =>
    if atGap after || (s.inFlow && after.head? = some ',') then
      s.noteKey?.map fun s =>
        { (s.emit (.tag handle suffix)).moveTo after with keyAllowed := false }
    else none

def block? (s : Scanner) (style : Style) : Option Scanner :=
  s.dropKey?.bind fun s =>
    (Yaml.block? (style = .folded) s.indent s.rest.tail).map fun (text, after) =>
      { (s.emit (.scalar style text)).moveTo after with keyAllowed := true }

def quoted? (s : Scanner) (quote : Char) : Option Scanner :=
  s.noteKey?.bind fun s =>
    (Yaml.quoted? quote (s.column + 1) .none s.rest.tail).map fun (text, after) =>
      { (s.emit (.scalar .quoted text)).moveTo after with keyAllowed := false }

def plain? (s : Scanner) : Option Scanner :=
  s.noteKey?.bind fun s =>
    (Yaml.plain? s.inFlow (s.indent + 1) s.column .none s.rest).map fun (text, after, broken) =>
      { (s.emit (.scalar .plain text)).moveTo after with keyAllowed := broken }

/-- A number of a version, and what follows it. -/
def versionNumber? (cs : List Char) : Option (Nat × List Char) :=
  let ds := cs.takeWhile Decimal.isDigit
  if 9 < ds.length then none else (Decimal.natural? ds).map fun n => (n, cs.drop ds.length)

/-- The version that a directive asks for; there are only two. -/
def versionDirective? (cs : List Char) : Option (Token × List Char) :=
  match versionNumber? cs with
  | some (major, '.' :: rest) =>
    match versionNumber? rest with
    | some (minor, after) =>
      if major = 1 && (minor = 1 || minor = 2) then some (.version, after) else none
    | none => none
  | _ => none

/-- A handle of tags and what it expands to. -/
def tagDirective? (cs : List Char) : Option (Token × List Char) :=
  match cs with
  | '!' :: rest =>
    let name := rest.takeWhile isNameChar
    let after := rest.dropWhile isNameChar
    let closed := after.head? = some '!'
    let handle := if closed then '!' :: name ++ ['!'] else ['!']
    let gap := if closed then after.tail else after
    if (!closed && !name.isEmpty) || !gap.head?.any isSpace then none
    else
      match uri? isFullUriChar (gap.dropWhile isSpace) with
      | some (c :: expansion, final) =>
        if atGap final then some (.tagHandle handle (c :: expansion), final) else none
      | _ => none
  | _ => none

/-- A directive after its sign, and what follows it. -/
def directiveToken? (cs : List Char) : Option (Token × List Char) :=
  let name := cs.takeWhile isNameChar
  let after := cs.dropWhile isNameChar
  if !atGap after then none
  else if name = "YAML".toList then versionDirective? (after.dropWhile isSpace)
  else if name = "TAG".toList then tagDirective? (after.dropWhile isSpace)
  else none

def directive? (s : Scanner) : Option Scanner :=
  (s.closeTo (-1)).dropKey?.bind fun s =>
    match directiveToken? s.rest.tail with
    | none => none
    | some (t, after) =>
      if (headEnd? after).isNone then none
      else some { (s.emit t).moveTo (after.dropWhile fun c => !isBreak c) with keyAllowed := false }

/-- Signs that no plain scalar starts with. -/
def isSign (c : Char) : Bool :=
  ['-', '?', ':', ',', '[', ']', '{', '}', '#', '&', '*', '!', '|', '>', '\'', '"', '%', '@',
    '\x60'].contains c

/-- The next token, where `c` is the next character and `cs` follows it. -/
def fetch? (s : Scanner) (c : Char) (cs : List Char) : Option Scanner :=
  if s.column = 0 && c = '%' then s.directive?
  else if s.column = 0 && isDocumentMark (c :: cs) then
    s.documentMark? (if c = '-' then .documentStart else .documentEnd)
  else
    let marked := s.inFlow || atGap cs
    match c with
    | '[' => s.openFlow? .flowSequence
    | '{' => s.openFlow? .flowMapping
    | ']' => s.closeFlow? .flowSequenceEnd
    | '}' => s.closeFlow? .flowMappingEnd
    | ',' => s.flowEntry?
    | '-' => if atGap cs then s.blockEntry? else s.plain?
    | '?' => if marked then s.key? else s.plain?
    | ':' => if marked then s.value? else s.plain?
    | '*' => s.name? .alias
    | '&' => s.name? .anchor
    | '!' => s.tag?
    | '|' => if s.inFlow then none else s.block? .literal
    | '>' => if s.inFlow then none else s.block? .folded
    | '\'' => s.quoted? '\''
    | '"' => s.quoted? '"'
    | c => if isSign c || isSpace c then none else s.plain?

/-- All tokens from here on, as long as each of them takes something away from
the text. -/
def run? (s : Scanner) : Option (List Token) :=
  match s.skipBlanks.dropStale? with
  | none => none
  | some s' =>
    let s' := s'.closeTo s'.column
    match s'.rest with
    | [] => (s'.closeTo (-1)).dropKey?.map fun s => s.tokens.reverse
    | c :: cs =>
      match s'.fetch? c cs with
      | none => none
      | some next => if next.rest.length < s.rest.length then run? next else none
termination_by s.rest.length

end Scanner

/-- The tokens of a text; nothing if it is malformed. -/
def tokens? (text : String) : Option (List Token) :=
  let cs := match text.toList with
    | '\ufeff' :: cs => cs
    | cs => cs
  if cs.all isAllowed then Scanner.run? { rest := unifyBreaks cs } else none

end FlowGraph.Yaml
