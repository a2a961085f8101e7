import FlowGraph.Decimal.Shortest
import FlowGraph.Json

/-!
Numbers in decimal. The digits of a number have it as their value, so every integer of
64 bits is what its text is read as. A text that is read as a number gives a data value,
which is null if the number is not finite.
-/

namespace FlowGraph.Decimal

theorem toNat_digitChar {d : Nat} (hd : d < 10) : (digitChar d).toNat = 48 + d := by
  have hvalid : (48 + d).isValidChar := Or.inl (by omega)
  change (Char.ofNat (48 + d)).toNat = 48 + d
  rw [Char.ofNat, dif_pos hvalid]
  rfl

theorem isDigit_eq_true_iff {c : Char} : isDigit c = true ↔ 48 ≤ c.toNat ∧ c.toNat ≤ 57 := by
  simp only [isDigit, Bool.and_eq_true, decide_eq_true_eq, Char.le_def, UInt32.le_iff_toNat_le]
  rfl

theorem isDigit_digitChar {d : Nat} (hd : d < 10) : isDigit (digitChar d) = true := by
  have hvalue := toNat_digitChar hd
  refine isDigit_eq_true_iff.mpr ⟨?_, ?_⟩
  · omega
  · omega

theorem digitValue_digitChar {d : Nat} (hd : d < 10) : digitValue (digitChar d) = d := by
  have hvalue := toNat_digitChar hd
  change (digitChar d).toNat - 48 = d
  omega

theorem digits_ne_nil (n : Nat) : digits n ≠ [] := by
  rw [digits]
  split
  · simp
  · simp

theorem isDigit_of_mem_digits {n : Nat} {c : Char} (hc : c ∈ digits n) : isDigit c = true := by
  fun_induction digits n with
  | case1 n hn =>
    rw [List.mem_singleton.mp hc]
    exact isDigit_digitChar hn
  | case2 n hn ih =>
    have hlast : n % 10 < 10 := Nat.mod_lt n (by omega)
    rcases List.mem_append.mp hc with hc | hc
    · exact ih hc
    · rw [List.mem_singleton.mp hc]
      exact isDigit_digitChar hlast

/-- The digits of a number have it as their value. -/
theorem value_digits (n : Nat) : value (digits n) = n := by
  fun_induction digits n with
  | case1 n hn =>
    change 10 * 0 + digitValue (digitChar n) = n
    rw [digitValue_digitChar hn]
    omega
  | case2 n hn ih =>
    have hlast : n % 10 < 10 := Nat.mod_lt n (by omega)
    unfold value at ih ⊢
    rw [List.foldl_append, ih]
    change 10 * (n / 10) + digitValue (digitChar (n % 10)) = n
    rw [digitValue_digitChar hlast]
    omega

/-- Only zero is written with a zero in front. -/
theorem eq_zero_of_head?_digits {n : Nat} (h : (digits n).head? = some '0') : n = 0 := by
  fun_induction digits n with
  | case1 n hn =>
    have hzero : digitChar n = '0' := by simpa using h
    have hvalue := toNat_digitChar hn
    rw [hzero] at hvalue
    change 48 = 48 + n at hvalue
    omega
  | case2 n hn ih =>
    obtain ⟨c, cs, hdigits⟩ := List.exists_cons_of_ne_nil (digits_ne_nil (n / 10))
    have hdiv : n / 10 = 0 := by
      apply ih
      rw [hdigits] at h ⊢
      exact h
    omega

/-- A natural number is read from digits only, and at least one. -/
theorem natural?_eq_some_iff {cs : List Char} {n : Nat} :
    natural? cs = some n ↔ cs ≠ [] ∧ (∀ c ∈ cs, isDigit c = true) ∧ value cs = n := by
  have hrefused : (cs.isEmpty || !cs.all isDigit) = true ↔
      ¬ (cs ≠ [] ∧ ∀ c ∈ cs, isDigit c = true) := by
    rw [Bool.or_eq_true, List.isEmpty_iff, Bool.not_eq_true', ← Bool.not_eq_true,
      List.all_eq_true, Classical.not_and_iff_not_or_not, Classical.not_not]
  unfold natural?
  by_cases hcs : cs ≠ [] ∧ ∀ c ∈ cs, isDigit c = true
  · rw [if_neg fun hrefuse => hrefused.mp hrefuse hcs, Option.some.injEq]
    exact ⟨fun hvalue => ⟨hcs.1, hcs.2, hvalue⟩, fun hall => hall.2.2⟩
  · rw [if_pos (hrefused.mpr hcs)]
    constructor
    · intro hnone
      cases hnone
    · intro hall
      exact absurd ⟨hall.1, hall.2.1⟩ hcs

theorem natural?_digits (n : Nat) : natural? (digits n) = some n :=
  natural?_eq_some_iff.mpr ⟨digits_ne_nil n, fun _ hc => isDigit_of_mem_digits hc, value_digits n⟩

/-- Digits have no sign before them. -/
theorem takeSign_digits (n : Nat) : takeSign (digits n) = (false, digits n) := by
  have hsigns (c : Char) (hc : c ∈ digits n) : c ≠ '-' ∧ c ≠ '+' := by
    have hdigit := isDigit_of_mem_digits hc
    constructor
    · rintro rfl
      exact absurd hdigit (by decide)
    · rintro rfl
      exact absurd hdigit (by decide)
  unfold takeSign
  split
  · next cs hcs => exact absurd rfl (hsigns '-' (hcs ▸ List.mem_cons_self)).1
  · next cs hcs => exact absurd rfl (hsigns '+' (hcs ▸ List.mem_cons_self)).2
  · rfl

theorem ofInt_ne_nil (i : Int) : ofInt i ≠ [] := by
  unfold ofInt
  split
  · exact List.cons_ne_nil _ _
  · exact digits_ne_nil _

theorem isDigit_of_mem_ofInt {i : Int} {c : Char} (hc : c ∈ ofInt i) :
    isDigit c = true ∨ c = '-' := by
  unfold ofInt at hc
  split at hc
  · rcases List.mem_cons.mp hc with hminus | hdigit
    · exact Or.inr hminus
    · exact Or.inl (isDigit_of_mem_digits hdigit)
  · exact Or.inl (isDigit_of_mem_digits hc)

/-- The text of an integer of 64 bits is read as that integer. -/
theorem int64?_ofInt {i : Int} (hi : inInt64 i = true) : int64? (ofInt i) = some i := by
  unfold ofInt
  split
  · next hneg =>
    have habs : -(i.natAbs : Int) = i := by omega
    have hsign : takeSign ('-' :: digits i.natAbs) = (true, digits i.natAbs) := rfl
    simp only [int64?, hsign, natural?_digits, if_true, habs, hi]
  · next hneg =>
    have habs : (i.natAbs : Int) = i := by omega
    simp only [int64?, takeSign_digits, natural?_digits, Bool.false_eq_true, if_false, habs, hi,
      if_true]

end FlowGraph.Decimal

namespace FlowGraph.Json

def NotFinite (text : String) : Prop :=
  Decimal.int64? (Text.trim text.toList) = none ∧
    ∃ x, Decimal.float? (Text.trim text.toList) = some x ∧ x.isFinite = false

/-- A text gives a number, or null if the number that it writes is not finite. -/
theorem numberOfText?_cases {text : String} {v : Json}
    (hv : numberOfText? text = some v) :
    v.isNumber = true ∨ v = .null ∧ NotFinite text := by
  unfold numberOfText? at hv
  cases hint : Decimal.int64? (Text.trim text.toList) with
  | some i =>
    obtain rfl : int i = v := by simpa [hint] using hv
    exact Or.inl rfl
  | none =>
    obtain ⟨x, hx, rfl⟩ : ∃ x, Decimal.float? (Text.trim text.toList) = some x ∧
        ofFloat x = v := by
      simpa [hint] using hv
    by_cases hfinite : x.isFinite = true
    · left
      simp [ofFloat, hfinite, isNumber]
    · right
      have hnot : x.isFinite = false := by simpa using hfinite
      exact ⟨by simp [ofFloat, hnot], hint, x, hx, hnot⟩

theorem isFinite_of_numberOfText? {text : String} {x : Float}
    (hx : numberOfText? text = some (.float x)) : x.isFinite = true := by
  unfold numberOfText? at hx
  cases hint : Decimal.int64? (Text.trim text.toList) with
  | some i => simp [hint] at hx
  | none =>
    obtain ⟨y, -, hy⟩ : ∃ y, Decimal.float? (Text.trim text.toList) = some y ∧
        ofFloat y = .float x := by
      simpa [hint] using hx
    unfold ofFloat at hy
    split at hy
    · next hfinite =>
      cases hy
      exact hfinite
    · cases hy

theorem NotFinite.numberOfText?_eq {text : String} (htext : NotFinite text) :
    numberOfText? text = some .null := by
  obtain ⟨hint, x, hx, hnot⟩ := htext
  simp [numberOfText?, hint, hx, ofFloat, hnot]

end FlowGraph.Json
