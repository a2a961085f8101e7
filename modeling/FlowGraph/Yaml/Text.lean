import FlowGraph.Json.Reader

/-!
The texts of scalars: plain, in quotes, and as blocks of lines. A line break
inside a plain or quoted scalar reads as a blank, and the breaks that follow it
at once read as themselves.
-/

namespace FlowGraph.Yaml

open Text (Unread Left)

def isBreak (c : Char) : Bool :=
  c = '\n' || c = '\u2028' || c = '\u2029'

def isSpace (c : Char) : Bool :=
  c = ' ' || c = '\t'

/-- Nothing more, or a blank or break next. -/
def atGap (cs : List Char) : Bool :=
  cs.head?.all fun c => isSpace c || isBreak c

/-- All line breaks that are no separators written the same way. -/
def unifyBreaks : List Char → List Char
  | [] => []
  | '\r' :: '\n' :: cs => '\n' :: unifyBreaks cs
  | c :: cs => (if c = '\r' || c = '\u0085' then '\n' else c) :: unifyBreaks cs

def isAllowed (c : Char) : Bool :=
  let n := c.toNat
  n = 9 || n = 10 || n = 13 || (0x20 ≤ n && n ≤ 0x7E) || n = 0x85 || (0xA0 ≤ n && n ≤ 0xD7FF) ||
    (0xE000 ≤ n && n ≤ 0xFFFD && n ≠ 0xFEFF) || 0x10000 ≤ n

/-- A mark that starts or ends a document, at the start of a line. -/
def isDocumentMark : List Char → Bool
  | a :: b :: c :: rest => (a = '-' || a = '.') && a = b && b = c && atGap rest
  | _ => false

/-- Blanks and breaks between two words of a scalar. After a break that was
escaped there is no first break. -/
inductive Gap where
  | none
  | blanks (text : List Char)
  | breaks (first : Option Char) (more : List Char)
deriving DecidableEq

namespace Gap

def isBreaks : Gap → Bool
  | .breaks _ _ => true
  | _ => false

def addBlank (c : Char) : Gap → Gap
  | .none => .blanks [c]
  | .blanks text => .blanks (text ++ [c])
  | gap => gap

def addBreak (c : Char) : Gap → Gap
  | .breaks first more => .breaks first (more ++ [c])
  | _ => .breaks (some c) []

/-- What a gap reads as. -/
def text : Gap → List Char
  | .none => []
  | .blanks text => text
  | .breaks (some '\n') [] => [' ']
  | .breaks (some '\n') more => more
  | .breaks first more => first.toList ++ more

end Gap

/-- Signs that end a plain scalar within brackets. -/
def isFlowSign (c : Char) : Bool :=
  [',', '[', ']', '{', '}'].contains c

/-- A plain scalar: its text, what follows it, and whether it was left by a line
break. In block style it ends where a line starts before `indent`. -/
def plain? (flow : Bool) (indent : Int) (column : Nat) (gap : Gap) :
    List Char → Option (List Char × List Char × Bool)
  | [] => some ([], [], gap.isBreaks)
  | c :: cs =>
    if isSpace c then
      if gap.isBreaks && column < indent && c = '\t' then none
      else plain? flow indent (column + 1) (gap.addBlank c) cs
    else if isBreak c then plain? flow indent 0 (gap.addBreak c) cs
    else if gap ≠ .none ∧
        ((!flow && column < indent) || (column = 0 && isDocumentMark (c :: cs)) || c = '#') then
      some ([], c :: cs, gap.isBreaks)
    else if c = ':' && flow && cs.head?.any (fun d => isFlowSign d || d = '?') then none
    else if (c = ':' && atGap cs) || (flow && isFlowSign c) then some ([], c :: cs, gap.isBreaks)
    else
      (plain? flow indent (column + 1) .none cs).map fun (text, rest) =>
        (gap.text ++ c :: text, rest)

/-- A character by its code in exactly `count` hexadecimal digits. -/
def codePoint? (count : Nat) (cs : List Char) : Option (Char × Left cs) :=
  let ds := cs.take count
  if ds.length < count || !ds.all (fun d => (Json.hexValue? d).isSome) then none
  else
    let n := ds.foldl (fun n d => 16 * n + (Json.hexValue? d).getD 0) 0
    if n.isValidChar then some (Char.ofNat n, ⟨cs.drop count, by simp⟩) else none

/-- The character that stands for itself or something else after a backslash. -/
def escaped? (c : Char) : Option Char :=
  match c with
  | '0' => some (Char.ofNat 0)
  | 'a' => some '\x07'
  | 'b' => some '\x08'
  | 't' | '\t' => some '\t'
  | 'n' => some '\n'
  | 'v' => some '\x0b'
  | 'f' => some '\x0c'
  | 'r' => some '\r'
  | 'e' => some '\x1b'
  | ' ' | '"' | '/' | '\\' => some c
  | 'N' => some '\u0085'
  | '_' => some '\u00a0'
  | 'L' => some '\u2028'
  | 'P' => some '\u2029'
  | _ => none

def escape? (cs : List Char) : Option (Char × Unread cs) :=
  match cs with
  | [] => none
  | c :: rest =>
    let coded (count : Nat) : Option (Char × Unread (c :: rest)) :=
      (codePoint? count rest).map fun (d, after) => (d, Unread.pushLeft c after)
    match c with
    | 'x' => coded 2
    | 'u' => coded 4
    | 'U' => coded 8
    | _ => (escaped? c).map fun d => (d, Unread.tail c rest)

/-- A scalar after its opening quote, up to the closing one: its text and what
follows it. Only double quotes know escapes; a single quote is written twice. -/
def quoted? (quote : Char) (column : Nat) (gap : Gap) (cs : List Char) :
    Option (List Char × List Char) :=
  match cs with
  | [] => none
  | c :: rest =>
    let before (found : Option (List Char × List Char)) (text : List Char) :
        Option (List Char × List Char) :=
      found.map fun (more, after) => (gap.text ++ text ++ more, after)
    if column = 0 && isDocumentMark (c :: rest) then none
    else if isSpace c then quoted? quote (column + 1) (gap.addBlank c) rest
    else if isBreak c then quoted? quote 0 (gap.addBreak c) rest
    else if c = quote then
      if quote = '\'' && rest.head? = some quote then
        before (quoted? quote (column + 2) .none rest.tail) [c]
      else some (gap.text, rest)
    else if c = '\\' && quote = '"' then
      if rest.head?.any isBreak then
        before (quoted? quote 0 (.breaks none []) rest.tail) []
      else
        match escape? rest with
        | none => none
        | some (d, ⟨after, _⟩) => before (quoted? quote (column + 2) .none after) [d]
    else before (quoted? quote (column + 1) .none rest) [c]
termination_by cs.length
decreasing_by all_goals (simp only [List.length_cons, List.length_tail]; omega)

/-- Which breaks at the end of a block belong to it. -/
inductive Chomp where
  | clip | strip | keep
deriving DecidableEq

def chomp? : Char → Option Chomp
  | '-' => some .strip
  | '+' => some .keep
  | _ => none

/-- The marks after the sign of a block, in either order: how it is chomped, and
how far it is indented. -/
def blockMarks (cs : List Char) : Option ((Chomp × Option Nat) × List Char) :=
  let width? (c : Char) : Option Nat := if Decimal.isDigit c then some (Decimal.digitValue c) else none
  let found : (Chomp × Option Nat) × List Char :=
    match cs with
    | [] => ((.clip, none), [])
    | c :: rest =>
      match chomp? c, width? c with
      | some chomp, _ =>
        match rest.head?.bind width? with
        | some n => ((chomp, some n), rest.tail)
        | none => ((chomp, none), rest)
      | none, some n =>
        match rest.head?.bind chomp? with
        | some chomp => ((chomp, some n), rest.tail)
        | none => ((.clip, some n), rest)
      | none, none => ((.clip, none), c :: rest)
  if found.1.2 = some 0 then none else some found

/-- The rest of the line after a block's marks: blanks and a comment at most. -/
def headEnd? (cs : List Char) : Option (List Char) :=
  let body := cs.dropWhile isSpace
  let after := if body.head? = some '#' then body.dropWhile fun c => !isBreak c else body
  match after with
  | [] => some []
  | c :: rest => if isBreak c then some rest else none

/-- Blank lines and the indentation of the line after them, which goes up to
`indent` if that is known: the breaks, the widest indentation, the last one, and
what follows. -/
def blankLines? (indent : Option Nat) (widest column : Nat) (cs : List Char) :
    Option ((List Char × Nat × Nat) × Left cs) :=
  match cs with
  | [] => some (([], max widest column, column), ⟨[], by simp⟩)
  | c :: rest =>
    let within := indent.all (column < ·)
    if within && c = ' ' then
      (blankLines? indent widest (column + 1) rest).map fun (found, ⟨after, _⟩) =>
        (found, ⟨after, by simp only [List.length_cons]; omega⟩)
    else if within && c = '\t' then none
    else if isBreak c then
      (blankLines? indent (max widest column) 0 rest).map fun ((breaks, found), ⟨after, _⟩) =>
        ((c :: breaks, found), ⟨after, by simp only [List.length_cons]; omega⟩)
    else some (([], max widest column, column), ⟨c :: rest, by simp⟩)

/-- A line of a block, its break, and the breaks of the blank lines after it. -/
structure BlockLine where
  text : List Char
  lineBreak : List Char
  blankLines : List Char

/-- The lines of a block at its indentation, and what follows the block. -/
def blockLines? (indent column : Nat) (cs : List Char) : Option (List BlockLine × List Char) :=
  if column ≠ indent || cs.isEmpty then some ([], cs)
  else
    let text := cs.takeWhile fun c => !isBreak c
    match _ : cs.dropWhile fun c => !isBreak c with
    | [] => some ([⟨text, [], []⟩], [])
    | c :: rest =>
      match blankLines? (some indent) 0 0 rest with
      | none => none
      | some ((breaks, _, next), ⟨after, _⟩) =>
        (blockLines? indent next after).map fun (lines, final) =>
          (⟨text, [c], breaks⟩ :: lines, final)
termination_by cs.length
decreasing_by
  have shorter : (cs.dropWhile fun c => !isBreak c).length ≤ cs.length :=
    (List.dropWhile_sublist _).length_le
  simp only [‹List.dropWhile _ cs = _›, List.length_cons] at shorter
  omega

/-- The text of a block. `last` is the break of the line before and `blank` the
breaks of the blank lines after it; `deep` says whether that line started with a
blank. Where lines are folded, a single break between two lines that do not
start with a blank reads as a blank. -/
def blockText (folded : Bool) (chomp : Chomp) (last blank : List Char) (deep : Bool) :
    List BlockLine → List Char
  | [] =>
    match chomp with
    | .strip => []
    | .clip => last
    | .keep => last ++ blank
  | line :: lines =>
    let indented := line.text.head?.any isSpace
    let joint :=
      if folded && last = ['\n'] && !deep && !indented then
        if blank.isEmpty then [' '] else []
      else last
    joint ++ blank ++ line.text ++
      blockText folded chomp line.lineBreak line.blankLines indented lines

/-- A block after its sign, in a collection that is indented by `base`: its text
and what follows it. -/
def block? (folded : Bool) (base : Int) (cs : List Char) : Option (List Char × List Char) :=
  match blockMarks cs with
  | none => none
  | some ((chomp, width), afterMarks) =>
    match headEnd? afterMarks with
    | none => none
    | some body =>
      let known := width.map fun n => (max base 0).toNat + n
      match blankLines? known 0 0 body with
      | none => none
      | some ((breaks, widest, column), ⟨content, _⟩) =>
        let indent := known.getD (max widest (max (base + 1).toNat 1))
        (blockLines? indent column content).map fun (lines, rest) =>
          (blockText folded chomp [] breaks false lines, rest)

end FlowGraph.Yaml
