import FlowGraph.Decimal.Read
import FlowGraph.Json.Reader
import FlowGraph.Pattern
import FlowGraph.Pattern.Property

/-!
What a backslash in a pattern stands for: a character, a set of characters or a
condition on the place.
-/

namespace FlowGraph.Pattern

open Text (Unread Left)

structure Flags where
  ignoreCase : Bool := false
  multiLine : Bool := false
  dotNewline : Bool := false
  unicode : Bool := true
  verbose : Bool := false
  crlf : Bool := false
  swapGreed : Bool := false

def asciiDigits : CharSet :=
  .range 0x30 0x39

def asciiLetters : CharSet :=
  .ofSpans [(0x30, 0x39), (0x41, 0x5A), (0x5F, 0x5F), (0x61, 0x7A)]

def asciiSpaces : CharSet :=
  .ofSpans [(0x9, 0xD), (0x20, 0x20)]

namespace Flags

def digits (f : Flags) : CharSet :=
  if f.unicode then Text.Category.decimal.set else asciiDigits

def letters (f : Flags) : CharSet :=
  if f.unicode then Text.wordChars else asciiLetters

def spaces (f : Flags) : CharSet :=
  if f.unicode then Text.whiteSpace else asciiSpaces

/-- A set as it is meant, with the case variants of its members if case does not
count. -/
def withCase (f : Flags) (set : CharSet) : CharSet :=
  if !f.ignoreCase then set else if f.unicode then set.withCase else set.withAsciiCase

/-- A set as it is meant, or all other characters. Without Unicode these would
not all be characters. -/
def negate? (f : Flags) (negated : Bool) (set : CharSet) : Option CharSet :=
  if !negated then some set else if f.unicode then some set.compl else none

end Flags

/-- What an escape or a plain character stands for. -/
inductive Atom where
  | char (c : Char)
  | set (s : CharSet)
  | look (l : Look)

def isMeta (c : Char) : Bool :=
  ['\\', '.', '+', '*', '?', '(', ')', '|', '[', ']', '{', '}', '^', '$', '#', '&', '-', '~'].contains c

/-- Characters that a backslash may stand before although they mean nothing
special. -/
def isEscapable (c : Char) : Bool :=
  c.toNat < 0x80 && !c.isAlphanum && c != '<' && c != '>'

/-- Blanks and comments, which count for nothing in verbose patterns; `comment`
tells that a comment is open, which the end of the line closes. -/
def skipBlanksFrom (verbose comment : Bool) (cs : List Char) : Left cs :=
  match cs with
  | [] => Left.all []
  | c :: rest =>
    if comment then Left.push c (skipBlanksFrom verbose (c ≠ '\n') rest)
    else if verbose && Text.isBlank c then Left.push c (skipBlanksFrom verbose false rest)
    else if verbose && c = '#' then Left.push c (skipBlanksFrom verbose true rest)
    else Left.all (c :: rest)

def skipBlanks (verbose : Bool) (cs : List Char) : Left cs :=
  skipBlanksFrom verbose false cs

/-- Characters up to and without a closing brace, and what follows it. -/
def braced? (verbose : Bool) (cs : List Char) : Option (List Char × Left cs) :=
  match skipBlanks verbose cs with
  | ⟨[], _⟩ => none
  | ⟨c :: rest, _⟩ =>
    if c = '}' then some ([], ⟨rest, by simp only [List.length_cons] at *; omega⟩)
    else
      match braced? verbose rest with
      | none => none
      | some (inner, ⟨after, _⟩) =>
        some (c :: inner, ⟨after, by simp only [List.length_cons] at *; omega⟩)
termination_by cs.length
decreasing_by simp only [List.length_cons] at *; omega

/-- As many characters, and what follows them. -/
def next? (verbose : Bool) (count : Nat) (cs : List Char) : Option (List Char × Left cs) :=
  match count with
  | 0 => some ([], Left.all cs)
  | count + 1 =>
    match skipBlanks verbose cs with
    | ⟨[], _⟩ => none
    | ⟨c :: rest, _⟩ =>
      match next? verbose count rest with
      | none => none
      | some (found, ⟨after, _⟩) =>
        some (c :: found, ⟨after, by simp only [List.length_cons] at *; omega⟩)

def codePoint? (ds : List Char) : Option Char :=
  if ds.isEmpty || !ds.all (fun d => (Json.hexValue? d).isSome) then none
  else
    let n := ds.foldl (fun n d => 16 * n + (Json.hexValue? d).getD 0) 0
    if n.isValidChar then some (Char.ofNat n) else none

/-- A code point in hexadecimal: in braces, or with exactly `count` digits. Two
digits are a byte without Unicode, and bytes beyond ASCII are no characters. -/
def hex? (f : Flags) (count : Nat) (cs : List Char) : Option (Char × Left cs) :=
  match skipBlanks f.verbose cs with
  | ⟨[], _⟩ => none
  | ⟨c :: rest, _⟩ =>
    if c = '{' then
      match braced? f.verbose rest with
      | none => none
      | some (inner, ⟨after, _⟩) =>
        (codePoint? inner).map fun d =>
          (d, ⟨after, by simp only [List.length_cons] at *; omega⟩)
    else
      match next? f.verbose count (c :: rest) with
      | none => none
      | some (ds, ⟨after, _⟩) =>
        match codePoint? ds with
        | none => none
        | some d =>
          if count = 2 && !f.unicode && 0x80 ≤ d.toNat then none
          else some (d, ⟨after, by omega⟩)

/-! ### Properties -/

/-- What stands before and after the first place where `mark` stands. -/
def cutAt? (mark : List Char) : List Char → Option (List Char × List Char)
  | [] => none
  | c :: cs =>
    match Text.dropPrefix? mark (c :: cs) with
    | some rest => some ([], rest)
    | none => (cutAt? mark cs).map fun (left, right) => (c :: left, right)

/-- The set of what stands in the braces of a property, and whether all other
characters are meant. -/
def property? (text : List Char) : Option (CharSet × Bool) :=
  match cutAt? ['!', '='] text, cutAt? [':'] text, cutAt? ['='] text with
  | some (name, value), _, _ => (valued? name value).map fun s => (s, true)
  | none, some (name, value), _ => (valued? name value).map fun s => (s, false)
  | none, none, some (name, value) => (valued? name value).map fun s => (s, false)
  | none, none, none => (named? text).map fun s => (s, false)

/-- A property after its mark: one letter, or a name in braces. -/
def propertyClass? (f : Flags) (negated : Bool) (cs : List Char) : Option (CharSet × Left cs) :=
  let meant (found : Option (CharSet × Bool)) : Option CharSet :=
    if !f.unicode then none
    else found.bind fun (s, others) => f.negate? (negated != others) (f.withCase s)
  match skipBlanks f.verbose cs with
  | ⟨[], _⟩ => none
  | ⟨c :: rest, _⟩ =>
    if c = '{' then
      match braced? f.verbose rest with
      | none => none
      | some (inner, ⟨after, _⟩) =>
        (meant (property? inner)).map fun s =>
          (s, ⟨after, by simp only [List.length_cons] at *; omega⟩)
    else
      (meant ((named? [c]).map fun s => (s, false))).map fun s =>
        (s, ⟨rest, by simp only [List.length_cons] at *; omega⟩)

/-! ### Boundaries -/

/-- The word boundary of this name. -/
def namedBoundary? (f : Flags) (name : List Char) : Option Look :=
  match String.ofList name with
  | "start" => some (.wordStart f.letters)
  | "end" => some (.wordEnd f.letters)
  | "start-half" => some (.halfStart f.letters)
  | "end-half" => some (.halfEnd f.letters)
  | _ => none

/-- A boundary after its mark. A brace after it names a special boundary if a
letter or a dash follows, and starts a repetition otherwise. -/
def boundary? (f : Flags) (cs : List Char) : Option (Look × Left cs) :=
  match cs with
  | [] => some (.boundary f.letters, Left.all [])
  | c :: rest =>
    let plain : Option (Look × Left (c :: rest)) := some (.boundary f.letters, Left.all (c :: rest))
    if c = '{' then
      match skipBlanks f.verbose rest with
      | ⟨[], _⟩ => none
      | ⟨d :: _, _⟩ =>
        if d.isAlpha || d = '-' then
          match braced? f.verbose rest with
          | none => none
          | some (inner, after) => (namedBoundary? f inner).map fun l => (l, Left.push c after)
        else plain
    else plain

/-! ### Escapes -/

/-- What a backslash and the characters after it stand for. -/
def escape? (f : Flags) (cs : List Char) : Option (Atom × Unread cs) :=
  match cs with
  | [] => none
  | c :: rest =>
    let plain (a : Atom) : Option (Atom × Unread (c :: rest)) := some (a, Unread.tail c rest)
    let under {α : Type} (step : Option (α × Left rest)) (wrap : α → Atom) :
        Option (Atom × Unread (c :: rest)) :=
      step.map fun (a, after) => (wrap a, Unread.pushLeft c after)
    let set (negated : Bool) (s : CharSet) : Option (Atom × Unread (c :: rest)) :=
      (f.negate? negated s).bind fun s => plain (.set s)
    if isMeta c || isEscapable c then plain (.char c)
    else
      match c with
      | 'x' => under (hex? f 2 rest) .char
      | 'u' => under (hex? f 4 rest) .char
      | 'U' => under (hex? f 8 rest) .char
      | 'p' => under (propertyClass? f false rest) .set
      | 'P' => under (propertyClass? f true rest) .set
      | 'd' => set false f.digits
      | 's' => set false f.spaces
      | 'w' => set false f.letters
      | 'D' => set true f.digits
      | 'S' => set true f.spaces
      | 'W' => set true f.letters
      | 'a' => plain (.char '\x07')
      | 'f' => plain (.char '\x0c')
      | 't' => plain (.char '\t')
      | 'n' => plain (.char '\n')
      | 'r' => plain (.char '\r')
      | 'v' => plain (.char '\x0b')
      | 'A' => plain (.look .textStart)
      | 'z' => plain (.look .textEnd)
      | 'b' => under (boundary? f rest) .look
      | 'B' => plain (.look (.notBoundary f.letters))
      | '<' => plain (.look (.wordStart f.letters))
      | '>' => plain (.look (.wordEnd f.letters))
      | _ => none

end FlowGraph.Pattern
