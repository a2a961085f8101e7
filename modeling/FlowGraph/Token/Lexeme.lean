import FlowGraph.Token
import FlowGraph.Text.Blank
import FlowGraph.Decimal.Read

/-!
Cutting a source into lexemes. A lexeme knows its own source text, so the
lexemes of a source, put together again, are that source up to the place where
cutting stopped. Comments and blanks are lexemes that carry no token.
-/

namespace FlowGraph

inductive Lexeme where
  | blank (c : Char)
  | lineComment (body : List Char)
  | blockComment (body : List Char)
  /-- Text between triple quotes, taken as it stands. -/
  | longString (body : List Char)
  /-- Text between single or double quotes, with its escapes. -/
  | string (quote : Char) (body : List Char)
  | number (first : Char) (more : List Char)
  | word (first : Char) (more : List Char)
  | symbol (kind : TokenKind) (first : Char) (more : List Char)
  /-- A stray character that is passed over. -/
  | skipped (c : Char)
deriving DecidableEq

/-- Why cutting stops before the end. -/
inductive LexFault where
  | openComment
  | openString
  | openLongString
  | character (c : Char)
deriving DecidableEq

def LexFault.message : LexFault → String
  | .openComment => "unterminated block comment"
  | .openString => "unterminated string literal"
  | .openLongString => "unterminated triple-quoted string"
  | .character c => "unexpected character '" ++ c.toString ++ "'"

namespace Lexeme

/-- The characters of the source that make up a lexeme. -/
def source : Lexeme → List Char
  | .blank c => [c]
  | .lineComment body => '/' :: '/' :: body
  | .blockComment body => '/' :: '*' :: body ++ ['*', '/']
  | .longString body => '"' :: '"' :: '"' :: body ++ ['"', '"', '"']
  | .string quote body => quote :: body ++ [quote]
  | .number first more => first :: more
  | .word first more => first :: more
  | .symbol _ first more => first :: more
  | .skipped c => [c]

/-- The value of a quoted body. A backslash before a character that it does not
escape stands for itself. -/
def unescape : List Char → List Char
  | [] => []
  | '\\' :: c :: rest =>
    if c = 'n' then '\n' :: unescape rest
    else if c = 't' then '\t' :: unescape rest
    else if c = 'r' then '\r' :: unescape rest
    else if c = '\\' || c = '"' || c = '\'' || c = '/' then c :: unescape rest
    else '\\' :: c :: unescape rest
  | c :: rest => c :: unescape rest

/-- The kind and text of the token that a lexeme carries, if it carries one. -/
def token? : Lexeme → Option (TokenKind × String)
  | .longString body => some (.string, String.ofList (Text.trim body))
  | .string _ body => some (.string, String.ofList (unescape body))
  | .number first more => some (.number, String.ofList (first :: more))
  | .word first more =>
    let text := String.ofList (first :: more)
    some ((TokenKind.ofKeyword? text).getD .identifier, text)
  | .symbol kind first more => some (kind, String.ofList (first :: more))
  | _ => none

/-- The character that a lexeme passes over, if it does. -/
def skipped? : Lexeme → Option Char
  | .skipped c => some c
  | _ => none

def isSpace (c : Char) : Bool :=
  c = ' ' || c = '\t' || c = '\r' || c = '\n'

def isStray (c : Char) : Bool :=
  c = '*' || c = '?' || c = '\\' || c = '|' || c = '&'

def isWordStart (c : Char) : Bool :=
  ('a' ≤ c && c ≤ 'z') || ('A' ≤ c && c ≤ 'Z') || c = '_'

def isWordChar (c : Char) : Bool :=
  isWordStart c || Decimal.isDigit c

/-- The kind of a symbol of one character. -/
def symbol? (c : Char) : Option TokenKind :=
  match c with
  | '{' => some .lbrace
  | '}' => some .rbrace
  | '[' => some .lbracket
  | ']' => some .rbracket
  | '(' => some .lparen
  | ')' => some .rparen
  | ',' => some .comma
  | ':' => some .colon
  | ';' => some .semicolon
  | '=' => some .equals
  | '.' => some .dot
  | _ => none

/-- The kind of a symbol of two characters. -/
def pair? (c d : Char) : Option TokenKind :=
  match c, d with
  | '-', '>' => some .arrow
  | '$', '{' => some .templateStart
  | '&', '&' => some .and
  | '|', '|' => some .or
  | _, _ => none

/-- The body of a block comment, and what follows its end. -/
def closeComment : List Char → Option (List Char × List Char)
  | [] => none
  | '*' :: '/' :: rest => some ([], rest)
  | c :: rest => (closeComment rest).map fun (body, after) => (c :: body, after)

/-- The body of a triple-quoted text, and what follows its end. -/
def closeLongString : List Char → Option (List Char × List Char)
  | [] => none
  | '"' :: '"' :: '"' :: rest => some ([], rest)
  | c :: rest => (closeLongString rest).map fun (body, after) => (c :: body, after)

/-- The body of a quoted text, which ends on its own line unless a backslash
stands before the line break, and what follows its end. -/
def closeString (quote : Char) : List Char → Option (List Char × List Char)
  | [] => none
  | '\\' :: c :: rest =>
    (closeString quote rest).map fun (body, after) => ('\\' :: c :: body, after)
  | c :: rest =>
    if c = '\n' || c = '\\' then none
    else if c = quote then some ([], rest)
    else (closeString quote rest).map fun (body, after) => (c :: body, after)

/-- Digits, and a point with digits if both follow. -/
def takeNumber (cs : List Char) : List Char × List Char :=
  let whole := cs.takeWhile Decimal.isDigit
  match cs.dropWhile Decimal.isDigit with
  | '.' :: d :: rest =>
    if Decimal.isDigit d then
      (whole ++ '.' :: d :: rest.takeWhile Decimal.isDigit, rest.dropWhile Decimal.isDigit)
    else (whole, '.' :: d :: rest)
  | rest => (whole, rest)

/-- The lexeme that starts with `c` and goes on with `cs`, and what is left. -/
def next (c : Char) (cs : List Char) : Except LexFault (Lexeme × List Char) :=
  if isSpace c then .ok (.blank c, cs)
  else if c = '/' && cs.head? = some '/' then
    let body := cs.tail.takeWhile (· ≠ '\n')
    .ok (.lineComment body, cs.tail.dropWhile (· ≠ '\n'))
  else if c = '/' && cs.head? = some '*' then
    match closeComment cs.tail with
    | some (body, rest) => .ok (.blockComment body, rest)
    | none => .error .openComment
  else if c = '"' && cs.take 2 = ['"', '"'] then
    match closeLongString (cs.drop 2) with
    | some (body, rest) => .ok (.longString body, rest)
    | none => .error .openLongString
  else if c = '"' || c = '\'' then
    match closeString c cs with
    | some (body, rest) => .ok (.string c body, rest)
    | none => .error .openString
  else if Decimal.isDigit c || c = '-' && cs.head?.any Decimal.isDigit then
    .ok (.number c (takeNumber cs).1, (takeNumber cs).2)
  else if isWordStart c then
    .ok (.word c (cs.takeWhile isWordChar), cs.dropWhile isWordChar)
  else
    match cs.head?.bind (pair? c) with
    | some kind => .ok (.symbol kind c (cs.take 1), cs.drop 1)
    | none =>
      if isStray c then .ok (.skipped c, cs)
      else
        match symbol? c with
        | some kind => .ok (.symbol kind c [], cs)
        | none => .error (.character c)

theorem source_ne_nil (l : Lexeme) : l.source ≠ [] := by
  cases l <;> simp [source]

theorem closeComment_eq {cs body rest : List Char} (h : closeComment cs = some (body, rest)) :
    cs = body ++ '*' :: '/' :: rest := by
  fun_induction closeComment cs generalizing body with
  | case1 => simp at h
  | case2 tail => simp_all
  | case3 c tail _ ih =>
    obtain ⟨⟨inner, after⟩, hinner, heq⟩ := Option.map_eq_some_iff.1 h
    obtain ⟨rfl, rfl⟩ := Prod.mk.inj heq
    simp [ih hinner]

theorem closeLongString_eq {cs body rest : List Char}
    (h : closeLongString cs = some (body, rest)) : cs = body ++ '"' :: '"' :: '"' :: rest := by
  fun_induction closeLongString cs generalizing body with
  | case1 => simp at h
  | case2 tail => simp_all
  | case3 c tail _ ih =>
    obtain ⟨⟨inner, after⟩, hinner, heq⟩ := Option.map_eq_some_iff.1 h
    obtain ⟨rfl, rfl⟩ := Prod.mk.inj heq
    simp [ih hinner]

theorem closeString_eq {quote : Char} {cs body rest : List Char}
    (h : closeString quote cs = some (body, rest)) : cs = body ++ quote :: rest := by
  fun_induction closeString quote cs generalizing body with
  | case1 => simp at h
  | case2 c tail ih =>
    obtain ⟨⟨inner, after⟩, hinner, heq⟩ := Option.map_eq_some_iff.1 h
    obtain ⟨rfl, rfl⟩ := Prod.mk.inj heq
    simp [ih hinner]
  | case3 => simp at h
  | case4 => simp_all
  | case5 c tail _ _ _ ih =>
    obtain ⟨⟨inner, after⟩, hinner, heq⟩ := Option.map_eq_some_iff.1 h
    obtain ⟨rfl, rfl⟩ := Prod.mk.inj heq
    simp [ih hinner]

theorem takeNumber_eq (cs : List Char) : (takeNumber cs).1 ++ (takeNumber cs).2 = cs := by
  have split := List.takeWhile_append_dropWhile (p := Decimal.isDigit) (l := cs)
  unfold takeNumber
  split
  · rename_i d rest hdrop
    rw [hdrop] at split
    by_cases hd : Decimal.isDigit d = true
    · simpa [hd, List.append_assoc] using split
    · simpa [hd] using split
  · exact split

theorem next_source {c : Char} {cs : List Char} {l : Lexeme} {rest : List Char}
    (h : next c cs = .ok (l, rest)) : c :: cs = l.source ++ rest := by
  unfold next at h
  split at h
  · cases h; rfl
  split at h
  · rename_i hc
    obtain ⟨rfl, hhead⟩ : c = '/' ∧ cs.head? = some '/' := by simpa using hc
    obtain ⟨tail, rfl⟩ := List.head?_eq_some_iff.1 hhead
    cases h
    simp [source]
  split at h
  · rename_i hc
    obtain ⟨rfl, hhead⟩ : c = '/' ∧ cs.head? = some '*' := by simpa using hc
    obtain ⟨tail, rfl⟩ := List.head?_eq_some_iff.1 hhead
    split at h
    · rename_i body after hclose
      cases h
      simpa [source] using closeComment_eq hclose
    · cases h
  split at h
  · rename_i hc
    obtain ⟨rfl, htake⟩ : c = '"' ∧ cs.take 2 = ['"', '"'] := by simpa using hc
    split at h
    · rename_i body after hclose
      cases h
      have hsplit := List.take_append_drop 2 cs
      rw [htake, closeLongString_eq hclose] at hsplit
      simp [source, ← hsplit]
    · cases h
  split at h
  · split at h
    · rename_i body after hclose
      cases h
      simp [source, closeString_eq hclose]
    · cases h
  split at h
  · cases h
    exact congrArg (c :: ·) (takeNumber_eq cs).symm
  split at h
  · cases h
    simp [source]
  split at h
  · cases h
    exact congrArg (c :: ·) (List.take_append_drop 1 cs).symm
  split at h
  · cases h; rfl
  split at h
  · cases h; rfl
  · cases h

theorem length_next_lt {c : Char} {cs : List Char} {l : Lexeme} {rest : List Char}
    (h : next c cs = .ok (l, rest)) : rest.length < (c :: cs).length := by
  have hlength := congrArg List.length (next_source h)
  have hpos := List.length_pos_iff.2 (source_ne_nil l)
  rw [List.length_append] at hlength
  omega

end Lexeme

end FlowGraph
