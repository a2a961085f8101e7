import FlowGraph.Pattern.Simplify
import FlowGraph.Text.Encoded

/-!
How much room a pattern takes as an automaton over bytes. A pattern is only used
if its automaton, and the one that reads texts backwards, stay within a limit.

The automaton of a pattern is put together from the automata of its parts. Here
only what it takes is kept: the number of its states and the room for what they
lead to. A state takes 32 bytes. A state that leads somewhere for each of several
byte spans takes 8 more for each of them, and a fork, which leads to several
states without reading, 4 more for each.
-/

namespace FlowGraph.Pattern

/-- How much there is of an automaton so far. States are numbered from zero. -/
structure Automaton where
  states : Nat
  links : Nat

namespace Automaton

def empty : Automaton := ⟨0, 0⟩

def size (a : Automaton) : Nat :=
  32 * a.states + a.links

/-- The size that no automaton may exceed. -/
def limit : Nat := 10485760

def isTooLarge (a : Automaton) : Bool :=
  limit < a.size

/-- More states that lead to at most one other. -/
def grow (a : Automaton) (count : Nat) : Automaton :=
  { a with states := a.states + count }

/-- A state that leads somewhere for each of several byte spans. -/
def branch (a : Automaton) (spans : Nat) : Automaton :=
  ⟨a.states + 1, a.links + 8 * spans⟩

/-- More states to which a fork leads. -/
def lead (a : Automaton) (count : Nat) : Automaton :=
  { a with links := a.links + 4 * count }

/-- A link from a state, which takes room if that state is a fork. -/
def linkFrom (a : Automaton) (fork : Bool) : Automaton :=
  if fork then a.lead 1 else a

end Automaton

/-- A part is added to the automaton so far. The flag tells whether its last
state is a fork. -/
abbrev Part := Automaton → Automaton × Bool

/-! ### Sets of characters -/

/-- An automaton in the making and states that can serve again, by slots. A slot
keeps what its last state leads to, and the number of that state. -/
structure Sharing where
  automaton : Automaton
  slots : Array (Option (List Nat × Nat))

namespace Sharing

/-- No states to share yet. -/
def new (a : Automaton) (count : Nat) : Sharing :=
  ⟨a, Array.replicate count none⟩

/-- The number of what a state leads to, out of which its slot is found. -/
def hash (key : List Nat) : UInt64 :=
  key.foldl (fun h n => (h ^^^ n.toUInt64) * 1099511628211) 14695981039346656037

/-- The state for `key`: the known one, or else a new one, which `add` adds. -/
def state (s : Sharing) (key : List Nat) (add : Automaton → Automaton) : Nat × Sharing :=
  let slot := (hash key).toNat % s.slots.size
  match (s.slots[slot]?).join.filter fun (known, _) => known = key with
  | some (_, n) => (n, s)
  | none =>
    let n := s.automaton.states
    (n, ⟨add s.automaton, s.slots.setIfInBounds slot (some (key, n))⟩)

end Sharing

/-- Sequences grouped by their first span, if neighbours have it in common. -/
def byFirst : List (List (Nat × Nat)) → List ((Nat × Nat) × List (List (Nat × Nat)))
  | [] => []
  | [] :: seqs => byFirst seqs
  | (span :: rest) :: seqs =>
    match byFirst seqs with
    | (other, rests) :: groups =>
      if other = span then (span, rest :: rests) :: groups
      else (span, [rest]) :: (other, rests) :: groups
    | [] => [(span, [rest])]

/-- The state from which these sequences lead to `target`; none of them has more
than `length` spans. -/
def stateFor (target : Nat) : Nat → List (List (Nat × Nat)) → Sharing → Nat × Sharing
  | 0, _, s => (target, s)
  | length + 1, seqs, s =>
    if seqs.all List.isEmpty then (target, s)
    else
      let groups := byFirst seqs
      let (key, s) := groups.foldl (fun (key, s) ((low, high), rests) =>
        let (next, s) := stateFor target length rests s
        (key ++ [low, high, next], s)) ([], s)
      s.state key fun a => a.branch groups.length

/-- A set for reading forwards: what begins alike is only told apart after it. -/
def forwardSet (seqs : List (List (Nat × Nat))) (a : Automaton) : Automaton :=
  (stateFor a.states 4 seqs (.new (a.grow 1) 10000)).2.automaton

/-- A set for reading backwards: a fork to the last byte of each sequence. What
ends alike is not shared, but what begins alike is. -/
def backwardSet (seqs : List (List (Nat × Nat))) (a : Automaton) : Automaton :=
  let target := a.states + 1
  let walk (s : Sharing) (seq : List (Nat × Nat)) : Sharing :=
    let (_, s) := seq.foldl (fun (next, s) (low, high) =>
      s.state [next, low, high] fun a => a.grow 1) (target, s)
    { s with automaton := s.automaton.lead 1 }
  (seqs.foldl walk (.new (a.grow 2) 1000)).automaton

def setPart (backward : Bool) (s : CharSet) : Part := fun a =>
  if s.isAscii then ((a.grow 1).branch s.spans.length, false)
  else
    let seqs := s.spans.flatMap fun (low, high) => Text.encodedSpans low high
    (if backward then backwardSet seqs a else forwardSet seqs a, false)

/-! ### Literals -/

def bytes (chars : List Char) : List UInt8 :=
  (String.ofList chars).toUTF8.toList

/-- Several literals by their first bytes. The literals that end at a node divide
the bytes that come before them from those that come after: `closed` are the
earlier ones, `last` those since then. -/
inductive Trie where
  | node (closed : List (List (UInt8 × Trie))) (last : List (UInt8 × Trie))

namespace Trie

def leaf : Trie := .node [] []

/-- The trie of one word. -/
def ofWord : List UInt8 → Trie
  | [] => .node [[]] []
  | b :: word => .node [] [(b, ofWord word)]

mutual

def insert (word : List UInt8) : Trie → Trie
  | .node closed last =>
    match word with
    | [] =>
      if closed.all List.isEmpty && last.isEmpty && !closed.isEmpty then .node closed last
      else .node (closed ++ [last]) []
    | b :: word => .node closed (insertAt b word last)

def insertAt (b : UInt8) (word : List UInt8) : List (UInt8 × Trie) → List (UInt8 × Trie)
  | [] => [(b, ofWord word)]
  | (c, t) :: branches =>
    if c = b then (c, insert word t) :: branches else (c, t) :: insertAt b word branches

end

mutual

/-- The states for a trie: one for the branches between two ends, and a fork to
all of these and to the end. Leaves need none. -/
def grow : Trie → Automaton → Automaton
  | .node closed last, a =>
    let a := growBranches last (growAll closed a)
    let chunks := closed ++ [last]
    let filled := chunks.filter fun branches => !branches.isEmpty
    if filled.isEmpty then a
    else
      let a := filled.foldl (fun a branches =>
        if branches.length = 1 then a.grow 1 else a.branch branches.length) a
      (a.grow 1).lead (filled.length + closed.length)

def growAll : List (List (UInt8 × Trie)) → Automaton → Automaton
  | [], a => a
  | branches :: rest, a => growAll rest (growBranches branches a)

def growBranches : List (UInt8 × Trie) → Automaton → Automaton
  | [], a => a
  | (_, t) :: branches, a => growBranches branches (grow t a)

end

end Trie

def literal? : Pattern → Option (List Char)
  | .literal chars => some chars
  | _ => none

/-- A choice between literals. -/
def literalsPart (backward : Bool) (literals : List (List Char)) : Part := fun a =>
  let words := literals.map fun chars => if backward then (bytes chars).reverse else bytes chars
  let trie := words.foldl (fun t word => t.insert word) Trie.leaf
  (trie.grow (a.grow 1), false)

/-! ### Parts out of parts -/

def emptyPart : Part := fun a => (a.grow 1, false)

/-- A part after another that is already there. -/
def andThen (x : Automaton × Bool) (p : Part) : Automaton × Bool :=
  let (a, fork) := p x.1
  (a.linkFrom x.2, fork)

def inTurn : List Part → Part
  | [] => emptyPart
  | p :: parts => fun a => parts.foldl andThen (p a)

/-- As many more copies of a part, as long as there is room for them. -/
def copies (p : Part) : Nat → Automaton × Bool → Automaton × Bool
  | 0, x => x
  | n + 1, x => if x.1.isTooLarge then x else copies p n (andThen x p)

def exactly (p : Part) : Nat → Part
  | 0 => emptyPart
  | n + 1 => fun a => copies p n (p a)

/-- As many more copies of a part, each of which may be the last one. -/
def upTo (p : Part) : Nat → Automaton × Bool → Automaton × Bool
  | 0, x => x
  | n + 1, (a, fork) =>
    if a.isTooLarge then (a, fork)
    else
      let (a, next) := p (a.grow 1)
      upTo p n ((a.lead 2).linkFrom fork, next)

/-- A part once or not at all. -/
def optional (p : Part) : Part := fun a =>
  let (a, fork) := p (a.grow 1)
  (((a.grow 1).lead 2).linkFrom fork, false)

/-- A part any number of times, if it always reads something. -/
def loop (p : Part) : Part := fun a =>
  let (a, fork) := p (a.grow 1)
  ((a.lead 1).linkFrom fork, true)

/-- A part once or more. -/
def again (p : Part) (x : Automaton × Bool) : Automaton × Bool :=
  let (a, fork) := andThen x p
  (((a.grow 1).lead 1).linkFrom fork, true)

def onceOrMore (p : Part) : Part := fun a => again p (a, false)

/-- A part any number of times: once or more, or not at all. -/
def anyTimes (p : Part) : Part := fun a =>
  let (a, _) := onceOrMore p a
  ((a.grow 2).lead 3, false)

def repeatedPart (p : Part) (alwaysReads : Bool) (min : Nat) : Option Nat → Part
  | none =>
    match min with
    | 0 => if alwaysReads then loop p else anyTimes p
    | 1 => onceOrMore p
    | min => fun a => again p (exactly p (min - 1) a)
  | some max =>
    if min = 0 && max = 1 then optional p
    else if min = max then exactly p min
    else fun a =>
      let (a, fork) := exactly p min a
      let (a, fork) := upTo p (max - min) (a.grow 1, fork)
      (a.linkFrom fork, false)

/-- A choice between parts. -/
def anyOf : List Part → Part
  | [] => setPart false .empty
  | [p] => p
  | p :: q :: parts => fun a =>
    let (a, first) := p a
    let (a, second) := q a
    let a := ((a.grow 2).linkFrom first).linkFrom second
    let a := parts.foldl (fun a p => let (a, fork) := p a; a.linkFrom fork) a
    (a.lead (parts.length + 2), false)

/-- A group; its ends are marked where texts are read forwards. -/
def groupPart (backward : Bool) (p : Part) : Part := fun a =>
  if backward then p a
  else
    let (a, fork) := p (a.grow 1)
    ((a.grow 1).linkFrom fork, false)

/-! ### Patterns -/

mutual

/-- The least number of characters that a pattern reads; `none` if there is a set
without members in it. -/
def minLength : Pattern → Option Nat
  | .empty => some 0
  | .literal chars => some chars.length
  | .one s => if s.spans.isEmpty then none else some 1
  | .look _ => some 0
  | .seq items => sumLength items
  | .alt choices => leastLength choices
  | .group inner => minLength inner
  | .rep inner min _ _ => (minLength inner).map (· * min)

def sumLength : List Pattern → Option Nat
  | [] => some 0
  | p :: ps =>
    match minLength p, sumLength ps with
    | some m, some n => some (m + n)
    | _, _ => none

def leastLength : List Pattern → Option Nat
  | [] => none
  | [p] => minLength p
  | p :: ps =>
    match minLength p, leastLength ps with
    | some m, some n => some (Nat.min m n)
    | _, _ => none

end

mutual

/-- Does a pattern only match at the start of a text, or, read backwards, only
at its end? -/
def isAnchored (backward : Bool) : Pattern → Bool
  | .look l => l == if backward then Look.textEnd else Look.textStart
  | .seq items => if backward then lastAnchored items else firstAnchored items
  | .alt choices => allAnchored backward choices
  | .group inner => isAnchored backward inner
  | .rep inner min _ _ => 0 < min && isAnchored backward inner
  | _ => false

def firstAnchored : List Pattern → Bool
  | [] => false
  | p :: ps => isAnchored false p || (p.readsNothing && firstAnchored ps)

def lastAnchored : List Pattern → Bool
  | [] => false
  | p :: ps => lastAnchored ps || (readNothing ps && isAnchored true p)

def allAnchored (backward : Bool) : List Pattern → Bool
  | [] => true
  | p :: ps => isAnchored backward p && allAnchored backward ps

end

mutual

def part (backward : Bool) : Pattern → Part
  | .empty => emptyPart
  | .literal chars => fun a => (a.grow (bytes chars).length, false)
  | .one s => setPart backward s
  | .look _ => emptyPart
  | .seq items => inTurn (if backward then (parts true items).reverse else parts false items)
  | .alt choices =>
    match choices.mapM literal? with
    | some literals => literalsPart backward literals
    | none => anyOf (parts backward choices)
  | .group inner => groupPart backward (part backward inner)
  | .rep inner min max _ =>
    repeatedPart (part backward inner) (inner.minLength.any (0 < ·)) min max

def parts (backward : Bool) : List Pattern → List Part
  | [] => []
  | p :: ps => part backward p :: parts backward ps

end

/-- Any number of bytes, which stand before the match. -/
def skipPart : Part :=
  loop fun a => ((a.grow 1).branch 1, false)

/-- The automaton of a whole pattern: bytes to skip, unless it is anchored, the
pattern as a group, and a state for the match. -/
def automaton (backward : Bool) (p : Pattern) : Automaton :=
  let (a, skip) := (if p.isAnchored backward then emptyPart else skipPart) .empty
  let (a, last) := part backward (.group p) a
  ((a.grow 1).linkFrom last).linkFrom skip

/-- Is there room for the automata of a pattern? -/
def isSmall (p : Pattern) : Bool :=
  !(p.automaton false).isTooLarge && !(p.automaton true).isTooLarge

end FlowGraph.Pattern
