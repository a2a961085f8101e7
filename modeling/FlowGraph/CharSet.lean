/-!
Sets of characters. A set is kept as its bounds: the code points, in order, at
which membership changes. So each operation on sets is one walk over bounds, and
`has_compl`, `has_combine` and `has_ofSpans` say what it comes to at each
character.
-/

namespace FlowGraph

/-- A set of characters: the first bound is the first member, the second the
first code point after it that is no member, and so on. -/
structure CharSet where
  bounds : List Nat
  ordered : bounds.Pairwise (· < ·)
deriving DecidableEq

namespace CharSet

def lastCode : Nat := 0x10FFFF

/-- Membership of a code point, `inside` telling what holds before the bounds. -/
def hasFrom (inside : Bool) : List Nat → Nat → Bool
  | [], _ => inside
  | b :: bounds, n => if n < b then inside else hasFrom (!inside) bounds n

def has (s : CharSet) (c : Char) : Bool :=
  hasFrom false s.bounds c.toNat

theorem hasFrom_not (inside : Bool) (bounds : List Nat) (n : Nat) :
    hasFrom (!inside) bounds n = !hasFrom inside bounds n := by
  induction bounds generalizing inside with
  | nil => rfl
  | cons b bounds ih => by_cases h : n < b <;> simp [hasFrom, h, ih]

theorem lt_of_lt_head {m b : Nat} {bounds : List Nat} (hb : m < b)
    (h : (b :: bounds).Pairwise (· < ·)) : ∀ n ∈ b :: bounds, m < n := by
  intro n hn
  rcases List.mem_cons.mp hn with rfl | hn
  · exact hb
  · exact Nat.lt_trans hb (List.rel_of_pairwise_cons h hn)

/-- Before its first bound a set answers as it began. -/
theorem hasFrom_of_lt (inside : Bool) {bounds : List Nat} {n : Nat} (h : ∀ b ∈ bounds, n < b) :
    hasFrom inside bounds n = inside := by
  cases bounds with
  | nil => rfl
  | cons b bounds => simp [hasFrom, h b]

def empty : CharSet := ⟨[], .nil⟩

instance : Inhabited CharSet := ⟨empty⟩

def all : CharSet := ⟨[0], List.pairwise_singleton _ _⟩

/-- The code points from `low` to `high`. -/
def range (low high : Nat) : CharSet :=
  if h : low ≤ high then
    if high < lastCode then ⟨[low, high + 1], List.pairwise_pair.mpr (Nat.lt_succ_of_le h)⟩
    else ⟨[low], List.pairwise_singleton _ _⟩
  else empty

def single (c : Char) : CharSet :=
  range c.toNat c.toNat

/-- Every other code point from `low` to `high`, beginning with `low`. -/
def alternating (low high : Nat) : CharSet :=
  ⟨List.range' low (high - low + 2), List.pairwise_lt_range'⟩

def spansFrom : List Nat → List (Nat × Nat)
  | [] => []
  | [low] => [(low, lastCode)]
  | low :: after :: bounds => (low, after - 1) :: spansFrom bounds

/-- The spans that the set consists of. -/
def spans (s : CharSet) : List (Nat × Nat) :=
  spansFrom s.bounds

/-- All code points that are not in the set. -/
def compl : CharSet → CharSet
  | ⟨[], _⟩ => all
  | ⟨0 :: bounds, h⟩ => ⟨bounds, h.of_cons⟩
  | ⟨(b + 1) :: bounds, h⟩ =>
    ⟨0 :: (b + 1) :: bounds, List.pairwise_cons.mpr ⟨lt_of_lt_head (Nat.succ_pos b) h, h⟩⟩

theorem has_compl (s : CharSet) (c : Char) : s.compl.has c = !s.has c := by
  obtain ⟨bounds, h⟩ := s
  match bounds with
  | [] => simp [compl, all, has, hasFrom]
  | 0 :: bounds => simp [compl, has, hasFrom, ← hasFrom_not]
  | (b + 1) :: bounds => simp [compl, has, ← hasFrom_not, hasFrom]

/-- A bound before `bounds` if the answer changes there. -/
def boundIf (changes : Bool) (b : Nat) (bounds : List Nat) : List Nat :=
  if changes then b :: bounds else bounds

section BoundIf

variable {changes : Bool} {b : Nat} {bounds : List Nat}

theorem mem_of_mem_boundIf {n : Nat} (h : n ∈ boundIf changes b bounds) : n = b ∨ n ∈ bounds := by
  unfold boundIf at h
  split at h
  · exact List.mem_cons.mp h
  · exact Or.inr h

theorem pairwise_boundIf (hb : ∀ n ∈ bounds, b < n) (h : bounds.Pairwise (· < ·)) :
    (boundIf changes b bounds).Pairwise (· < ·) := by
  unfold boundIf
  split
  · exact List.pairwise_cons.mpr ⟨hb, h⟩
  · exact h

theorem hasFrom_boundIf (x y : Bool) {n : Nat} (h : n < b → hasFrom y bounds n = y) :
    hasFrom x (boundIf (x != y) b bounds) n = if n < b then x else hasFrom y bounds n := by
  by_cases hn : n < b <;> cases x <;> cases y <;> simp_all [boundIf, hasFrom]

end BoundIf

/-- The bounds of what `op` makes of two sets, `a` and `b` telling what holds
before the bounds of each. -/
def combineFrom (op : Bool → Bool → Bool) (a b : Bool) (xs ys : List Nat) : List Nat :=
  match xs, ys with
  | [], [] => []
  | x :: xs, [] => boundIf (op a b != op (!a) b) x (combineFrom op (!a) b xs [])
  | [], y :: ys => boundIf (op a b != op a (!b)) y (combineFrom op a (!b) [] ys)
  | x :: xs, y :: ys =>
    if x < y then boundIf (op a b != op (!a) b) x (combineFrom op (!a) b xs (y :: ys))
    else if y < x then boundIf (op a b != op a (!b)) y (combineFrom op a (!b) (x :: xs) ys)
    else boundIf (op a b != op (!a) (!b)) x (combineFrom op (!a) (!b) xs ys)
termination_by xs.length + ys.length

section CombineFrom

variable {op : Bool → Bool → Bool} {a b : Bool} {xs ys : List Nat}

theorem mem_of_mem_combineFrom {n : Nat} (h : n ∈ combineFrom op a b xs ys) :
    n ∈ xs ∨ n ∈ ys := by
  fun_induction combineFrom op a b xs ys with
  | case1 => cases h
  | case2 a b x xs ih => grind [mem_of_mem_boundIf]
  | case3 a b y ys ih => grind [mem_of_mem_boundIf]
  | case4 a b x xs y ys hxy ih => grind [mem_of_mem_boundIf]
  | case5 a b x xs y ys hxy hyx ih => grind [mem_of_mem_boundIf]
  | case6 a b x xs y ys hxy hyx ih => grind [mem_of_mem_boundIf]

theorem lt_of_mem_combineFrom {m n : Nat} (hx : ∀ x ∈ xs, m < x) (hy : ∀ y ∈ ys, m < y)
    (hn : n ∈ combineFrom op a b xs ys) : m < n :=
  (mem_of_mem_combineFrom hn).elim (hx n) (hy n)

theorem pairwise_combineFrom (hx : xs.Pairwise (· < ·)) (hy : ys.Pairwise (· < ·)) :
    (combineFrom op a b xs ys).Pairwise (· < ·) := by
  fun_induction combineFrom op a b xs ys with
  | case1 => exact .nil
  | case2 a b x xs ih =>
    obtain ⟨hhead, htail⟩ := List.pairwise_cons.mp hx
    apply pairwise_boundIf
    · intro n hn
      exact lt_of_mem_combineFrom hhead (List.forall_mem_nil _) hn
    · exact ih htail hy
  | case3 a b y ys ih =>
    obtain ⟨hhead, htail⟩ := List.pairwise_cons.mp hy
    apply pairwise_boundIf
    · intro n hn
      exact lt_of_mem_combineFrom (List.forall_mem_nil _) hhead hn
    · exact ih hx htail
  | case4 a b x xs y ys hxy ih =>
    obtain ⟨hhead, htail⟩ := List.pairwise_cons.mp hx
    apply pairwise_boundIf
    · intro n hn
      exact lt_of_mem_combineFrom hhead (lt_of_lt_head hxy hy) hn
    · exact ih htail hy
  | case5 a b x xs y ys hxy hyx ih =>
    obtain ⟨hhead, htail⟩ := List.pairwise_cons.mp hy
    apply pairwise_boundIf
    · intro n hn
      exact lt_of_mem_combineFrom (lt_of_lt_head hyx hx) hhead hn
    · exact ih hx htail
  | case6 a b x xs y ys hxy hyx ih =>
    obtain rfl : x = y := Nat.le_antisymm (Nat.not_lt.mp hyx) (Nat.not_lt.mp hxy)
    obtain ⟨hheadX, htailX⟩ := List.pairwise_cons.mp hx
    obtain ⟨hheadY, htailY⟩ := List.pairwise_cons.mp hy
    apply pairwise_boundIf
    · intro n hn
      exact lt_of_mem_combineFrom hheadX hheadY hn
    · exact ih htailX htailY

/-- Combined bounds answer at each code point what the operation makes of the
two answers there. -/
theorem hasFrom_combineFrom (op : Bool → Bool → Bool) (a b : Bool) {xs ys : List Nat} (n : Nat)
    (hx : xs.Pairwise (· < ·)) (hy : ys.Pairwise (· < ·)) :
    hasFrom (op a b) (combineFrom op a b xs ys) n = op (hasFrom a xs n) (hasFrom b ys n) := by
  fun_induction combineFrom op a b xs ys with
  | case1 => rfl
  | case2 a b x xs ih =>
    obtain ⟨hhead, htail⟩ := List.pairwise_cons.mp hx
    rw [hasFrom_boundIf, ih htail hy]
    · by_cases h : n < x <;> simp [hasFrom, h]
    · intro h
      rw [ih htail hy, hasFrom_of_lt _ fun d hd => Nat.lt_trans h (hhead d hd)]
      rfl
  | case3 a b y ys ih =>
    obtain ⟨hhead, htail⟩ := List.pairwise_cons.mp hy
    rw [hasFrom_boundIf, ih hx htail]
    · by_cases h : n < y <;> simp [hasFrom, h]
    · intro h
      rw [ih hx htail, hasFrom_of_lt (!b) fun d hd => Nat.lt_trans h (hhead d hd)]
      rfl
  | case4 a b x xs y ys hxy ih =>
    obtain ⟨hhead, htail⟩ := List.pairwise_cons.mp hx
    rw [hasFrom_boundIf, ih htail hy]
    · by_cases h : n < x
      · simp [hasFrom, h, Nat.lt_trans h hxy]
      · simp [hasFrom, h]
    · intro h
      rw [ih htail hy, hasFrom_of_lt (!a) fun d hd => Nat.lt_trans h (hhead d hd)]
      simp [hasFrom, Nat.lt_trans h hxy]
  | case5 a b x xs y ys hxy hyx ih =>
    obtain ⟨hhead, htail⟩ := List.pairwise_cons.mp hy
    rw [hasFrom_boundIf, ih hx htail]
    · by_cases h : n < y
      · simp [hasFrom, h, Nat.lt_trans h hyx]
      · simp [hasFrom, h]
    · intro h
      rw [ih hx htail, hasFrom_of_lt (!b) fun d hd => Nat.lt_trans h (hhead d hd)]
      simp [hasFrom, Nat.lt_trans h hyx]
  | case6 a b x xs y ys hxy hyx ih =>
    obtain rfl : x = y := Nat.le_antisymm (Nat.not_lt.mp hyx) (Nat.not_lt.mp hxy)
    obtain ⟨hheadX, htailX⟩ := List.pairwise_cons.mp hx
    obtain ⟨hheadY, htailY⟩ := List.pairwise_cons.mp hy
    rw [hasFrom_boundIf, ih htailX htailY]
    · by_cases h : n < x <;> simp [hasFrom, h]
    · intro h
      rw [ih htailX htailY, hasFrom_of_lt (!a) fun d hd => Nat.lt_trans h (hheadX d hd),
        hasFrom_of_lt (!b) fun d hd => Nat.lt_trans h (hheadY d hd)]

end CombineFrom

/-- The set of what `op` answers to membership in two sets. Nothing that is in
neither may be in it. -/
def combine (op : Bool → Bool → Bool) (s t : CharSet) : CharSet :=
  ⟨combineFrom op false false s.bounds t.bounds, pairwise_combineFrom s.ordered t.ordered⟩

theorem has_combine {op : Bool → Bool → Bool} (hop : op false false = false) (s t : CharSet)
    (c : Char) : (combine op s t).has c = op (s.has c) (t.has c) := by
  have h := hasFrom_combineFrom op false false c.toNat s.ordered t.ordered
  rwa [hop] at h

def union : CharSet → CharSet → CharSet :=
  combine fun a b => a || b

def inter : CharSet → CharSet → CharSet :=
  combine fun a b => a && b

def diff : CharSet → CharSet → CharSet :=
  combine fun a b => a && !b

def symmDiff : CharSet → CharSet → CharSet :=
  combine fun a b => a != b

instance : Union CharSet := ⟨union⟩
instance : Inter CharSet := ⟨inter⟩
instance : SDiff CharSet := ⟨diff⟩

theorem has_union (s t : CharSet) (c : Char) : (s ∪ t).has c = (s.has c || t.has c) :=
  has_combine rfl s t c

/-- The unions of neighbours. -/
def pairUp : List CharSet → List CharSet
  | s :: t :: sets => (s ∪ t) :: pairUp sets
  | sets => sets

theorem length_pairUp (sets : List CharSet) : (pairUp sets).length = (sets.length + 1) / 2 := by
  fun_induction pairUp sets with
  | case1 s t sets ih =>
    simp only [List.length_cons, ih]
    omega
  | case2 sets hsets =>
    match sets with
    | [] => rfl
    | [_] => simp
    | s :: t :: sets => exact absurd rfl (hsets s t sets)

theorem any_has_pairUp (sets : List CharSet) (c : Char) :
    (pairUp sets).any (·.has c) = sets.any (·.has c) := by
  fun_induction pairUp sets with
  | case1 s t sets ih => simp [ih, has_union, Bool.or_assoc]
  | case2 => rfl

def unions (sets : List CharSet) : CharSet :=
  match sets with
  | [] => empty
  | [s] => s
  | s :: t :: sets => unions (pairUp (s :: t :: sets))
termination_by sets.length
decreasing_by
  simp only [length_pairUp, List.length_cons]
  omega

theorem has_unions (sets : List CharSet) (c : Char) :
    (unions sets).has c = sets.any (·.has c) := by
  fun_induction unions sets with
  | case1 => rfl
  | case2 s => simp
  | case3 s t sets ih => rw [ih, any_has_pairUp]

/-- The code points of the spans. -/
def ofSpans (spans : List (Nat × Nat)) : CharSet :=
  unions (spans.map fun (low, high) => range low high)

/-- Every other code point of the spans, beginning with the first of each. -/
def everyOther (spans : List (Nat × Nat)) : CharSet :=
  unions (spans.map fun (low, high) => alternating low high)

theorem toNat_le_lastCode (c : Char) : c.toNat ≤ lastCode := by
  have hvalid : c.toNat < 0xD800 ∨ 0xDFFF < c.toNat ∧ c.toNat < 0x110000 := c.valid
  unfold lastCode
  omega

theorem has_range {low high : Nat} {c : Char} :
    (range low high).has c = true ↔ low ≤ c.toNat ∧ c.toNat ≤ high := by
  have hlast := toNat_le_lastCode c
  unfold range
  split
  · split
    · grind [has, hasFrom]
    · grind [has, hasFrom]
  · grind [has, hasFrom, empty]

theorem has_ofSpans (spans : List (Nat × Nat)) (c : Char) :
    (ofSpans spans).has c = true ↔ ∃ span ∈ spans, span.1 ≤ c.toNat ∧ c.toNat ≤ span.2 := by
  simp [ofSpans, has_unions, has_range]

/-- The bounds of a set that moves down, `inside` telling what holds before them. -/
def lowered (distance : Nat) (inside : Bool) : List Nat → List Nat
  | [] => boundIf inside 0 []
  | b :: bounds =>
    if b ≤ distance then lowered distance (!inside) bounds
    else boundIf inside 0 ((b :: bounds).map (· - distance))

theorem pairwise_lowered {distance : Nat} {inside : Bool} {bounds : List Nat}
    (h : bounds.Pairwise (· < ·)) : (lowered distance inside bounds).Pairwise (· < ·) := by
  fun_induction lowered distance inside bounds with
  | case1 inside => exact pairwise_boundIf (List.forall_mem_nil _) .nil
  | case2 inside b bounds hb ih => exact ih h.of_cons
  | case3 inside b bounds hb =>
    have habove := lt_of_lt_head (Nat.not_le.mp hb) h
    apply pairwise_boundIf
    · intro n hn
      obtain ⟨m, hm, rfl⟩ := List.mem_map.mp hn
      exact Nat.sub_pos_of_lt (habove m hm)
    · refine List.pairwise_map.mpr (h.imp_of_mem ?_)
      intro m n hm hn hmn
      exact Nat.sub_lt_sub_right (Nat.le_of_lt (habove m hm)) hmn

/-- The set with every member moved by a distance. -/
def shift (s : CharSet) : Int → CharSet
  | .ofNat distance => ⟨s.bounds.map (· + distance), by
      exact s.ordered.map _ fun m n hmn => Nat.add_lt_add_right hmn distance⟩
  | .negSucc distance => ⟨lowered (distance + 1) false s.bounds, pairwise_lowered s.ordered⟩

/-- Are all members ASCII characters? -/
def isAscii (s : CharSet) : Bool :=
  s.spans.all fun (_, high) => high < 0x80

/-- The only member, if there is exactly one. -/
def single? (s : CharSet) : Option Char :=
  match s.spans with
  | [(low, high)] => if low = high then some (Char.ofNat low) else none
  | _ => none

end CharSet

end FlowGraph
