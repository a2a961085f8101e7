import FlowGraph.CharSet

/-!
Patterns that texts are matched against, and matching. A pattern leads from
cursors in a text to all cursors that it can reach from any of them; a text
matches when its cursors reach any cursor at all.
-/

namespace FlowGraph

/-- Conditions on the place of a cursor. Word boundaries say what a word
character is. -/
inductive Look where
  | textStart
  | textEnd
  | lineStart (crlf : Bool)
  | lineEnd (crlf : Bool)
  | boundary (letters : CharSet)
  | notBoundary (letters : CharSet)
  | wordStart (letters : CharSet)
  | wordEnd (letters : CharSet)
  | halfStart (letters : CharSet)
  | halfEnd (letters : CharSet)
deriving DecidableEq

inductive Pattern where
  | empty
  | literal (chars : List Char)
  | one (set : CharSet)
  | look (condition : Look)
  | seq (items : List Pattern)
  | alt (choices : List Pattern)
  | group (inner : Pattern)
  /-- At least `min` and, if there is a bound, at most `max` times; a greedy one
  prefers more. -/
  | rep (inner : Pattern) (min : Nat) (max : Option Nat) (greedy : Bool)
deriving Inhabited

/-- A place in a text: how many characters stand before it, the last of them if
there is one, and what follows it. -/
structure Cursor where
  place : Nat
  before : Option Char
  rest : List Char

def Look.holds (l : Look) (cursor : Cursor) : Bool :=
  let before := cursor.before
  let after := cursor.rest.head?
  match l with
  | .textStart => before.isNone
  | .textEnd => after.isNone
  | .lineStart false => before.isNone || before == some '\n'
  | .lineStart true =>
    before.isNone || before == some '\n' || (before == some '\r' && after != some '\n')
  | .lineEnd false => after.isNone || after == some '\n'
  | .lineEnd true =>
    after.isNone || after == some '\r' || (after == some '\n' && before != some '\r')
  | .boundary letters => before.any letters.has != after.any letters.has
  | .notBoundary letters => before.any letters.has == after.any letters.has
  | .wordStart letters => !before.any letters.has && after.any letters.has
  | .wordEnd letters => before.any letters.has && !after.any letters.has
  | .halfStart letters => !before.any letters.has
  | .halfEnd letters => !after.any letters.has

namespace Pattern

/-! ### Sets of cursors

Cursors of one text, each once and in the order of their places. -/

/-- This cursor and all after it. -/
def cursorsFrom (place : Nat) (before : Option Char) : List Char → List Cursor
  | [] => [⟨place, before, []⟩]
  | c :: rest => ⟨place, before, c :: rest⟩ :: cursorsFrom (place + 1) (some c) rest

/-- The cursors of either list. -/
def either : List Cursor → List Cursor → List Cursor
  | [], ys => ys
  | x :: xs, [] => x :: xs
  | x :: xs, y :: ys =>
    if x.place < y.place then x :: either xs (y :: ys)
    else if y.place < x.place then y :: either (x :: xs) ys
    else x :: either xs ys

/-- The cursors of the first list that are not in the second. -/
def without : List Cursor → List Cursor → List Cursor
  | [], _ => []
  | x :: xs, [] => x :: xs
  | x :: xs, y :: ys =>
    if x.place < y.place then x :: without xs (y :: ys)
    else if y.place < x.place then without (x :: xs) ys
    else without xs ys

def times (step : List Cursor → List Cursor) : Nat → List Cursor → List Cursor
  | 0, cursors => cursors
  | n + 1, cursors => if cursors.isEmpty then [] else times step n (step cursors)

/-- Everything that at most `n` steps reach from the cursors `fresh`, on top of
what was reached before. -/
def reach (step : List Cursor → List Cursor) : Nat → List Cursor → List Cursor → List Cursor
  | 0, reached, _ => reached
  | n + 1, reached, fresh =>
    let next := without (step fresh) reached
    if next.isEmpty then reached else reach step n (either reached next) next

/-! ### Matching -/

/-- The cursor after these characters, if they stand at the cursor. -/
def after? : List Char → Cursor → Option Cursor
  | [], cursor => some cursor
  | _ :: _, ⟨_, _, []⟩ => none
  | c :: chars, ⟨place, _, d :: rest⟩ =>
    if c = d then after? chars ⟨place + 1, some d, rest⟩ else none

/-- The cursor after a character of the set, if one stands at the cursor. -/
def afterOne? (set : CharSet) : Cursor → Option Cursor
  | ⟨_, _, []⟩ => none
  | ⟨place, _, c :: rest⟩ => if set.has c then some ⟨place + 1, some c, rest⟩ else none

mutual

/-- All cursors that a pattern reaches from these cursors. -/
def ends : Pattern → List Cursor → List Cursor
  | .empty, cursors => cursors
  | .literal chars, cursors => cursors.filterMap (after? chars)
  | .one set, cursors => cursors.filterMap (afterOne? set)
  | .look condition, cursors => cursors.filter condition.holds
  | .seq items, cursors => seqEnds items cursors
  | .alt choices, cursors => altEnds choices cursors
  | .group inner, cursors => ends inner cursors
  | .rep inner min max _, cursors =>
    let step := fun cs => ends inner cs
    let first := times step min cursors
    -- Without a bound, each step has to reach a new place.
    let more := match max, first with
      | some max, _ => max - min
      | none, c :: _ => c.rest.length + 1
      | none, [] => 0
    reach step more first first

def seqEnds : List Pattern → List Cursor → List Cursor
  | [], cursors => cursors
  | p :: items, cursors => seqEnds items (ends p cursors)

def altEnds : List Pattern → List Cursor → List Cursor
  | [], _ => []
  | p :: choices, cursors => either (ends p cursors) (altEnds choices cursors)

end

def isMatch (p : Pattern) (text : String) : Bool :=
  !(p.ends (cursorsFrom 0 none text.toList)).isEmpty

end Pattern

end FlowGraph
