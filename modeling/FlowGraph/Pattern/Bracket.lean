import FlowGraph.Pattern.Escape

/-!
Sets of characters in brackets: members, ranges of members, named classes,
brackets in brackets, and operations on all of these.
-/

namespace FlowGraph.Pattern

open Text (Unread Left)

/-- A set and how deep it nests as it is written. -/
structure Bracket where
  set : CharSet
  depth : Nat

/-- The named classes of ASCII characters. -/
def asciiClass? (name : List Char) : Option CharSet :=
  match String.ofList name with
  | "alnum" => some (.ofSpans [(0x30, 0x39), (0x41, 0x5A), (0x61, 0x7A)])
  | "alpha" => some (.ofSpans [(0x41, 0x5A), (0x61, 0x7A)])
  | "ascii" => some (.range 0 0x7F)
  | "blank" => some (.ofSpans [(0x9, 0x9), (0x20, 0x20)])
  | "cntrl" => some (.ofSpans [(0, 0x1F), (0x7F, 0x7F)])
  | "digit" => some asciiDigits
  | "graph" => some (.range 0x21 0x7E)
  | "lower" => some (.range 0x61 0x7A)
  | "print" => some (.range 0x20 0x7E)
  | "punct" => some (.ofSpans [(0x21, 0x2F), (0x3A, 0x40), (0x5B, 0x60), (0x7B, 0x7E)])
  | "space" => some asciiSpaces
  | "upper" => some (.range 0x41 0x5A)
  | "word" => some asciiLetters
  | "xdigit" => some (.ofSpans [(0x30, 0x39), (0x41, 0x46), (0x61, 0x66)])
  | _ => none

/-- A named class after its opening bracket: `:name:]` or `:^name:]`. It may be
one that has no meaning, which is different from being none. -/
def namedClass? (f : Flags) (cs : List Char) : Option (Option CharSet × Unread cs) :=
  match cs with
  | ':' :: rest =>
    let negated := rest.head? = some '^'
    let body := if negated then rest.tail else rest
    let name := body.takeWhile Char.isAlpha
    match asciiClass? name, body.drop name.length with
    | some set, ':' :: ']' :: after =>
      if h : after.length < (':' :: rest).length then
        some (f.negate? negated (f.withCase set), ⟨after, h⟩)
      else none
    | _, _ => none
  | _ => none

/-- One member: an escape or a plain character. Without Unicode only ASCII
characters can be members. -/
def memberAtom? (f : Flags) (cs : List Char) : Option (Atom × Unread cs) :=
  let allowed (a : Atom) : Bool := match a with
    | .char c => f.unicode || c.toNat < 0x80
    | .set _ => true
    | .look _ => false
  match cs with
  | [] => none
  | c :: rest =>
    if c = '\\' then
      match escape? f rest with
      | none => none
      | some (a, after) => if allowed a then some (a, Unread.push c after) else none
    else if allowed (.char c) then some (.char c, Unread.tail c rest)
    else none

/-- The character that decides whether a dash before it makes a range. Of a
comment only the mark and the blanks around it are passed over. -/
def afterDash (verbose : Bool) (cs : List Char) : Option Char :=
  if !verbose then cs.head?
  else
    match cs.dropWhile Text.isBlank with
    | '#' :: rest => (rest.dropWhile Text.isBlank).head?
    | rest => rest.head?

def Atom.set? : Atom → Option CharSet
  | .char c => some (.single c)
  | .set s => some s
  | .look _ => none

/-- The members from one to another. -/
def rangeOf? : Atom → Atom → Option CharSet
  | .char low, .char high =>
    if low.toNat ≤ high.toNat then some (.range low.toNat high.toNat) else none
  | _, _ => none

/-- A member or a range of members. -/
def member? (f : Flags) (cs : List Char) : Option (CharSet × Unread cs) :=
  match memberAtom? f cs with
  | none => none
  | some (low, ⟨afterLow, _⟩) =>
    match skipBlanks f.verbose afterLow with
    | ⟨[], _⟩ => none
    | ⟨c :: rest, _⟩ =>
      let final := afterDash f.verbose rest
      if c ≠ '-' || final = some ']' || final = some '-' then
        low.set?.map fun s => (s, ⟨c :: rest, by omega⟩)
      else
        match skipBlanks f.verbose rest with
        | ⟨more, _⟩ =>
          match memberAtom? f more with
          | none => none
          | some (high, ⟨after, _⟩) =>
            (rangeOf? low high).map fun s =>
              (s, ⟨after, by simp only [List.length_cons] at *; omega⟩)

inductive SetOp where
  | both | minus | oneOf

def SetOp.apply : SetOp → CharSet → CharSet → CharSet
  | .both => .inter
  | .minus => .diff
  | .oneOf => .symmDiff

/-- The set operation that two characters write. -/
def setOp? : Char → Char → Option SetOp
  | '&', '&' => some .both
  | '-', '-' => some .minus
  | '~', '~' => some .oneOf
  | _, _ => none

/-- Members so far: their union, how many there are, and how deep they nest. -/
structure Members where
  set : CharSet := .empty
  count : Nat := 0
  depth : Nat := 0

namespace Members

def add (m : Members) (b : Bracket) : Members :=
  ⟨m.set ∪ b.set, m.count + 1, max m.depth b.depth⟩

/-- Several members nest one deeper than one. -/
def bracket (m : Members) : Bracket :=
  ⟨m.set, if m.count < 2 then m.depth else m.depth + 1⟩

end Members

/-- Members so far, with the operation that is still to be applied to them. -/
def joined (f : Flags) (pending : Option (SetOp × Bracket)) (m : Members) : Bracket :=
  let right := m.bracket
  match pending with
  | none => right
  | some (op, left) =>
    ⟨op.apply (f.withCase left.set) (f.withCase right.set), max left.depth right.depth + 1⟩

/-- A mark at the start, if it stands there, and what is left without it. -/
def takeMark (mark : Char) (cs : List Char) : Bool × Left cs :=
  match cs with
  | [] => (false, Left.all [])
  | c :: rest => if c = mark then (true, Left.tail c rest) else (false, Left.all (c :: rest))

/-- Dashes at the start of a bracket, which stand for themselves. -/
def firstDashes (verbose : Bool) (m : Members) (cs : List Char) : Members × Left cs :=
  match cs with
  | [] => (m, Left.all [])
  | c :: rest =>
    if c = '-' then
      match skipBlanks verbose rest with
      | ⟨more, _⟩ =>
        match firstDashes verbose (m.add ⟨.single '-', 0⟩) more with
        | (m, ⟨after, _⟩) => (m, ⟨after, by simp only [List.length_cons] at *; omega⟩)
    else (m, Left.all (c :: rest))
termination_by cs.length

/-- Members that stand for themselves only at the start of a bracket: dashes, or
else a closing bracket. -/
def firstMembers (verbose : Bool) (cs : List Char) : Members × Left cs :=
  match takeMark ']' cs with
  | (true, rest) => (({} : Members).add ⟨.single ']', 0⟩, rest)
  | (false, rest) =>
    match firstDashes verbose {} rest.val with
    | (m, after) => (m, rest.after after)

mutual

/-- A bracket after its opening mark. -/
def bracket? (f : Flags) (cs : List Char) : Option (Bracket × Left cs) :=
  match skipBlanks f.verbose cs with
  | ⟨opened, _⟩ =>
    match takeMark '^' opened with
    | (negated, ⟨body, _⟩) =>
      match skipBlanks f.verbose body with
      | ⟨start, _⟩ =>
        match firstMembers f.verbose start with
        | (first, ⟨more, _⟩) =>
          match members? f none first more with
          | none => none
          | some (b, ⟨rest, _⟩) =>
            (f.negate? negated (f.withCase b.set)).map fun set =>
              (⟨set, b.depth + 1⟩, ⟨rest, by omega⟩)
termination_by 2 * cs.length + 1

/-- The members of a bracket up to its closing mark. -/
def members? (f : Flags) (pending : Option (SetOp × Bracket)) (m : Members) (cs : List Char) :
    Option (Bracket × Left cs) :=
  match skipBlanks f.verbose cs with
  | ⟨[], _⟩ => none
  | ⟨c :: rest, _⟩ =>
    if c = ']' then
      some (joined f pending m, ⟨rest, by simp only [List.length_cons] at *; omega⟩)
    else if c = '[' then
      match namedClass? f rest with
      | some (none, _) => none
      | some (some set, ⟨after, _⟩) =>
        match members? f pending (m.add ⟨set, 0⟩) after with
        | none => none
        | some (found, ⟨last, _⟩) =>
          some (found, ⟨last, by simp only [List.length_cons] at *; omega⟩)
      | none =>
        match bracket? f rest with
        | none => none
        | some (b, ⟨after, _⟩) =>
          match members? f pending (m.add b) after with
          | none => none
          | some (found, ⟨last, _⟩) =>
            some (found, ⟨last, by simp only [List.length_cons] at *; omega⟩)
    else
      match rest.head?.bind (setOp? c) with
      | some op =>
        match members? f (some (op, joined f pending m)) {} rest.tail with
        | none => none
        | some (found, ⟨last, _⟩) =>
          some (found, ⟨last, by simp only [List.length_cons, List.length_tail] at *; omega⟩)
      | none =>
        match member? f (c :: rest) with
        | none => none
        | some (set, ⟨after, _⟩) =>
          match members? f pending (m.add ⟨set, 0⟩) after with
          | none => none
          | some (found, ⟨last, _⟩) => some (found, ⟨last, by omega⟩)
termination_by 2 * cs.length
decreasing_by all_goals (simp only [List.length_cons, List.length_tail] at *; omega)

end

end FlowGraph.Pattern
