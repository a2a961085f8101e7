import FlowGraph.Pattern

/-!
Patterns out of their parts, in the simplest form: sequences and choices do not
stand directly in their like, neighbouring literals are one literal, choices
between single characters are one set, and what all choices begin with stands
before the choice.
-/

namespace FlowGraph.Pattern

/-! ### Comparing -/

mutual

/-- Do two patterns have the same form? No group is the same as another. -/
def same : Pattern → Pattern → Bool
  | .empty, .empty => true
  | .literal cs, .literal ds => cs == ds
  | .one s, .one t => s == t
  | .look l, .look k => l == k
  | .seq ps, .seq qs => sameAll ps qs
  | .alt ps, .alt qs => sameAll ps qs
  | .rep p min max greedy, .rep q min' max' greedy' =>
    min == min' && max == max' && greedy == greedy' && same p q
  | _, _ => false

def sameAll : List Pattern → List Pattern → Bool
  | [], [] => true
  | p :: ps, q :: qs => same p q && sameAll ps qs
  | _, _ => false

end

/-- What two lists of patterns both begin with. -/
def shared : List Pattern → List Pattern → List Pattern
  | p :: ps, q :: qs => if same p q then p :: shared ps qs else []
  | _, _ => []

/-! ### Size -/

mutual

/-- The number of patterns that a pattern is made of. -/
def weight : Pattern → Nat
  | .seq items => weightAll items + 1
  | .alt choices => weightAll choices + 1
  | .group inner => weight inner + 1
  | .rep inner _ _ _ => weight inner + 1
  | _ => 1

def weightAll : List Pattern → Nat
  | [] => 0
  | p :: ps => weight p + weightAll ps

end

theorem weight_pos (p : Pattern) : 0 < weight p := by
  cases p <;> simp [weight]

theorem weightAll_append (ps qs : List Pattern) :
    weightAll (ps ++ qs) = weightAll ps + weightAll qs := by
  induction ps with
  | nil => simp [weightAll]
  | cons p ps ih => simp [weightAll, ih, Nat.add_assoc]

theorem weightAll_drop_le (n : Nat) (ps : List Pattern) :
    weightAll (ps.drop n) ≤ weightAll ps := by
  rw [← List.take_append_drop n ps, weightAll_append]
  simp

/-! ### Sequences -/

/-- The items of a sequence; any other pattern is its own only item. -/
def items : Pattern → List Pattern
  | .seq items => items
  | p => [p]

/-- One more pattern before a sequence in which no two literals are neighbours. -/
def before (p : Pattern) (items : List Pattern) : List Pattern :=
  match p, items with
  | .empty, items => items
  | .literal cs, .literal ds :: items => .literal (cs ++ ds) :: items
  | p, items => p :: items

def ofItems : List Pattern → Pattern
  | [] => .empty
  | [p] => p
  | items => .seq items

/-- Patterns one after the other. -/
def concat (ps : List Pattern) : Pattern :=
  ofItems ((ps.flatMap items).foldr before [])

/-! ### Choices -/

def ofSet (s : CharSet) : Pattern :=
  match s.single? with
  | some c => .literal [c]
  | none => .one s

/-- The set of a pattern that is just one character out of a set. -/
def charSet? : Pattern → Option CharSet
  | .one s => some s
  | .literal [c] => some (.single c)
  | _ => none

/-- The choices of a choice; any other pattern is its own only choice. -/
def choices : Pattern → List Pattern
  | .alt choices => choices
  | p => [p]

theorem weightAll_flatMap_choices_le (ps : List Pattern) :
    weightAll (ps.flatMap choices) ≤ weightAll ps := by
  induction ps with
  | nil => simp [weightAll]
  | cons p ps ih =>
    rw [List.flatMap_cons, weightAll_append, weightAll]
    have : weightAll p.choices ≤ weight p := by
      cases p <;> simp [choices, weight, weightAll]
    omega

/-- A sequence without its first items. -/
def dropItems (n : Nat) : Pattern → Pattern
  | .seq items => ofItems (items.drop n)
  | p => p

theorem weight_ofItems_le (ps : List Pattern) : weight (ofItems ps) ≤ weightAll ps + 1 := by
  match ps with
  | [] => simp [ofItems, weight, weightAll]
  | [p] => simp [ofItems, weightAll]
  | p :: q :: ps => simp [ofItems, weight]

theorem weight_dropItems_le (n : Nat) (p : Pattern) : weight (dropItems n p) ≤ weight p := by
  cases p with
  | seq items =>
    have := weight_ofItems_le (items.drop n)
    have := weightAll_drop_le n items
    simp only [dropItems, weight]
    omega
  | _ => exact Nat.le_refl _

theorem weight_dropItems_succ_lt (n : Nat) (p : Pattern) (ps : List Pattern) :
    weight (dropItems (n + 1) (.seq (p :: ps))) < weight (.seq (p :: ps)) := by
  have := weight_ofItems_le (ps.drop n)
  have := weightAll_drop_le n ps
  have := weight_pos p
  simp only [dropItems, List.drop_succ_cons, weight, weightAll]
  omega

theorem weightAll_map_dropItems_le (n : Nat) (ps : List Pattern) :
    weightAll (ps.map (dropItems n)) ≤ weightAll ps := by
  induction ps with
  | nil => simp
  | cons p ps ih =>
    have := weight_dropItems_le n p
    simp only [List.map_cons, weightAll]
    omega

/-- What all of these patterns begin with, `start` being what those before them
begin with. Only sequences count as beginning with something. -/
def sharedStart (start : List Pattern) : List Pattern → List Pattern
  | [] => start
  | .seq items :: ps => sharedStart (shared start items) ps
  | _ :: _ => []

/-- A choice between patterns. -/
def choose (ps : List Pattern) : Pattern :=
  match _h : ps.flatMap choices with
  | [] => .one .empty
  | [p] => p
  | p :: others =>
    match (p :: others).mapM charSet? with
    | some sets => ofSet (.unions sets)
    | none =>
      match p with
      | .seq (q :: qs) =>
        match sharedStart (q :: qs) others with
        | [] => .alt (.seq (q :: qs) :: others)
        | s :: start =>
          let rests := (Pattern.seq (q :: qs) :: others).map (dropItems (start.length + 1))
          concat (s :: start ++ [choose rests])
      | p => .alt (p :: others)
termination_by weightAll ps
decreasing_by
  have hle := weightAll_flatMap_choices_le ps
  have hlt := weight_dropItems_succ_lt start.length q qs
  have hmap := weightAll_map_dropItems_le (start.length + 1) others
  rw [_h] at hle
  simp only [List.map_cons, weightAll] at *
  omega

/-! ### Repetitions -/

mutual

/-- Does the pattern never read a character, and match somewhere? -/
def readsNothing : Pattern → Bool
  | .empty => true
  | .literal _ => false
  | .one _ => false
  | .look _ => true
  | .seq items => readNothing items
  | .alt choices => readNothing choices
  | .group inner => readsNothing inner
  | .rep inner _ max _ => max.isSome && readsNothing inner

def readNothing : List Pattern → Bool
  | [] => true
  | p :: ps => readsNothing p && readNothing ps

end

/-- A pattern several times. What reads nothing does not need more than one
time. -/
def repeated (p : Pattern) (min : Nat) (max : Option Nat) (greedy : Bool) : Pattern :=
  let (min, max) :=
    if p.readsNothing then (Nat.min min 1, some (Nat.min (max.getD 1) 1)) else (min, max)
  if min = 0 && max = some 0 then .empty
  else if min = 1 && max = some 1 then p
  else .rep p min max greedy

end FlowGraph.Pattern
