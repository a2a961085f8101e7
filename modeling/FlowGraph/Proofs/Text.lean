import FlowGraph.Proofs.Decimal
import FlowGraph.Text.Blank
import Mathlib.Data.List.Infix
import Mathlib.Data.List.TakeWhile

/-!
Texts and the blanks around them. What is left of a text after trimming stands between
blanks and neither begins nor ends with one, and this describes it completely.
-/

namespace FlowGraph.Text

theorem isSome_dropPrefix?_iff {needle cs : List Char} :
    (dropPrefix? needle cs).isSome = true ↔ needle <+: cs := by
  simp only [Option.isSome_iff_exists, dropPrefix?_eq_some_iff]
  exact ⟨fun ⟨rest, h⟩ => ⟨rest, h.symm⟩, fun ⟨rest, h⟩ => ⟨rest, h.symm⟩⟩

/-- Searching finds a text exactly if it stands somewhere without gaps. -/
theorem contains_eq_true_iff (needle cs : List Char) :
    contains needle cs = true ↔ needle <:+: cs := by
  induction cs with
  | nil => simp [contains]
  | cons c cs ih =>
    rw [contains, Bool.or_eq_true, ih, List.infix_cons_iff, isSome_dropPrefix?_iff]

theorem toList_strip (s : String) : (strip s).toList = trim s.toList := by
  simp [strip]

/-- The longest beginning of characters with a property, where the first character after
it does not have it. -/
theorem takeWhile_append_stop {p : Char → Bool} {cs rest : List Char}
    (hcs : ∀ c ∈ cs, p c = true) (hrest : ∀ c ∈ rest.head?, p c = false) :
    (cs ++ rest).takeWhile p = cs ∧ (cs ++ rest).dropWhile p = rest := by
  have hstop : rest.takeWhile p = [] ∧ rest.dropWhile p = rest := by
    cases rest with
    | nil => exact ⟨rfl, rfl⟩
    | cons c rest =>
      have hc : p c = false := hrest c rfl
      simp [hc]
  rw [List.takeWhile_append_of_pos hcs, List.dropWhile_append_of_pos hcs, hstop.1, hstop.2]
  exact ⟨List.append_nil cs, rfl⟩

theorem not_isBlank_of_isDigit {c : Char} (hc : Decimal.isDigit c = true) : isBlank c = false := by
  have hrange := Decimal.isDigit_eq_true_iff.mp hc
  simp only [isBlank, Bool.or_eq_false_iff, Bool.and_eq_false_iff, decide_eq_false_iff_not,
    beq_eq_false_iff_ne]
  omega

def Blank (cs : List Char) : Prop :=
  ∀ c ∈ cs, isBlank c = true

def Starts (cs : List Char) : Prop :=
  ∀ c, cs.head? = some c → isBlank c = false

def Ends (cs : List Char) : Prop :=
  ∀ c, cs.getLast? = some c → isBlank c = false

variable {a b cs : List Char}

theorem blank_nil : Blank [] := by
  simp [Blank]

theorem starts_nil : Starts [] := by
  simp [Starts]

theorem ends_nil : Ends [] := by
  simp [Ends]

theorem blank_append : Blank (a ++ b) ↔ Blank a ∧ Blank b := by
  simp [Blank, or_imp, forall_and]

theorem blank_reverse : Blank cs.reverse ↔ Blank cs := by
  simp [Blank]

/-- A text that is blank and does not end with a blank is empty. -/
theorem Blank.eq_nil_of_ends (hblank : Blank cs) (hends : Ends cs) : cs = [] := by
  rcases List.eq_nil_or_concat cs with rfl | ⟨front, c, rfl⟩
  · rfl
  · have hc : isBlank c = true := hblank c (by simp)
    rw [hends c (by simp)] at hc
    cases hc

theorem starts_trimStart (cs : List Char) : Starts (trimStart cs) := by
  intro c hc
  have hfirst := List.head?_dropWhile_not isBlank cs
  unfold trimStart at hc
  rw [hc] at hfirst
  simpa using hfirst

theorem trimStart_of_starts (hcs : Starts cs) : trimStart cs = cs := by
  cases cs with
  | nil => rfl
  | cons c cs => simp [trimStart, hcs c rfl]

theorem trimStart_append (ha : Blank a) : trimStart (a ++ b) = trimStart b :=
  List.dropWhile_append_of_pos ha

/-- What is trimmed off the start is blank. -/
theorem exists_append_trimStart (cs : List Char) : ∃ a, Blank a ∧ cs = a ++ trimStart cs := by
  refine ⟨cs.takeWhile isBlank, ?_, List.takeWhile_append_dropWhile.symm⟩
  intro c hc
  exact List.mem_takeWhile_imp hc

/-- Nothing is left of a text exactly if it has only blanks. -/
theorem trimStart_eq_nil_iff : trimStart cs = [] ↔ Blank cs := by
  constructor
  · intro hnil
    obtain ⟨a, ha, hcs⟩ := exists_append_trimStart cs
    rw [hcs, hnil, List.append_nil]
    exact ha
  · intro hcs
    have htrim := trimStart_append (b := []) hcs
    rwa [List.append_nil] at htrim

theorem trimEnd_eq_reverse (cs : List Char) : trimEnd cs = (trimStart cs.reverse).reverse :=
  rfl

theorem starts_reverse : Starts cs.reverse ↔ Ends cs := by
  simp [Starts, Ends, List.head?_reverse]

theorem ends_trimEnd (cs : List Char) : Ends (trimEnd cs) := by
  rw [← starts_reverse, trimEnd_eq_reverse, List.reverse_reverse]
  exact starts_trimStart cs.reverse

theorem trimEnd_of_ends (hcs : Ends cs) : trimEnd cs = cs := by
  rw [trimEnd_eq_reverse, trimStart_of_starts (starts_reverse.mpr hcs), List.reverse_reverse]

theorem trimEnd_append (hb : Blank b) : trimEnd (a ++ b) = trimEnd a := by
  rw [trimEnd_eq_reverse, List.reverse_append, trimStart_append (blank_reverse.mpr hb)]
  rfl

theorem exists_trimEnd_append (cs : List Char) : ∃ b, Blank b ∧ cs = trimEnd cs ++ b := by
  obtain ⟨a, ha, hcs⟩ := exists_append_trimStart cs.reverse
  refine ⟨a.reverse, blank_reverse.mpr ha, ?_⟩
  have hreverse := congrArg List.reverse hcs
  rwa [List.reverse_reverse, List.reverse_append] at hreverse

theorem Starts.of_append (hcs : Starts (a ++ b)) (ha : a ≠ []) : Starts a := by
  intro c hc
  exact hcs c (by rw [List.head?_append_of_ne_nil a ha, hc])

theorem Ends.of_append (hcs : Ends (a ++ b)) (hb : b ≠ []) : Ends b := by
  intro c hc
  exact hcs c (by rw [List.getLast?_append_of_ne_nil a hb, hc])

theorem Starts.append (ha : Starts a) (hne : a ≠ []) : Starts (a ++ b) := by
  intro c hc
  exact ha c (by rwa [List.head?_append_of_ne_nil a hne] at hc)

theorem Ends.append (hb : Ends b) (hne : b ≠ []) : Ends (a ++ b) := by
  intro c hc
  exact hb c (by rwa [List.getLast?_append_of_ne_nil a hne] at hc)

theorem ends_append_iff (hb : b ≠ []) : Ends (a ++ b) ↔ Ends b :=
  ⟨fun hends => hends.of_append hb, fun hends => hends.append hb⟩

/-- Trimming finds what stands between the blanks. -/
theorem trim_of_between (ha : Blank a) (hb : Blank b) (hstarts : Starts cs) (hends : Ends cs) :
    trim (a ++ cs ++ b) = cs := by
  unfold trim
  rw [List.append_assoc, trimStart_append ha]
  by_cases hcs : cs = []
  · subst hcs
    rw [List.nil_append, trimStart_eq_nil_iff.mpr hb]
    rfl
  · rw [trimStart_of_starts (hstarts.append hcs), trimEnd_append hb, trimEnd_of_ends hends]

/-- A text with no blanks around it is left alone. -/
theorem trim_of_starts_ends (hstarts : Starts cs) (hends : Ends cs) : trim cs = cs := by
  have htrim := trim_of_between blank_nil blank_nil hstarts hends
  rwa [List.nil_append, List.append_nil] at htrim

/-- What is trimmed off is blank, and what is left neither begins nor ends with a blank. -/
theorem exists_between (cs : List Char) :
    ∃ a b, Blank a ∧ Blank b ∧ cs = a ++ trim cs ++ b ∧ Starts (trim cs) ∧ Ends (trim cs) := by
  obtain ⟨a, ha, hcs⟩ := exists_append_trimStart cs
  obtain ⟨b, hb, htrim⟩ := exists_trimEnd_append (trimStart cs)
  refine ⟨a, b, ha, hb, ?_, ?_, ends_trimEnd _⟩
  · rw [List.append_assoc, trim, ← htrim, ← hcs]
  · by_cases hnil : trim cs = []
    · rw [hnil]
      exact starts_nil
    · have hstarts := starts_trimStart cs
      rw [htrim] at hstarts
      exact hstarts.of_append hnil

theorem starts_trim (cs : List Char) : Starts (trim cs) := by
  obtain ⟨a, b, -, -, -, hstarts, -⟩ := exists_between cs
  exact hstarts

theorem ends_trim (cs : List Char) : Ends (trim cs) :=
  ends_trimEnd _

structure Bare (cs : List Char) : Prop where
  ne_nil : cs ≠ []
  starts : Starts cs
  ends : Ends cs

theorem Bare.trim_eq (hcs : Bare cs) : trim cs = cs :=
  trim_of_starts_ends hcs.starts hcs.ends

theorem bare_of_strip_eq {s : String} (hs : strip s = s) (hne : s ≠ "") : Bare s.toList := by
  have htrim : trim s.toList = s.toList := by
    rw [← toList_strip, hs]
  refine ⟨fun hnil => hne (String.toList_eq_nil_iff.mp hnil), ?_, ?_⟩
  · exact htrim ▸ starts_trim s.toList
  · exact htrim ▸ ends_trim s.toList

theorem trim_blank_append (ha : Blank a) : trim (a ++ cs) = trim cs := by
  rw [trim, trim, trimStart_append ha]

theorem trim_append_blank (hb : Blank b) : trim (cs ++ b) = trim cs := by
  obtain ⟨a, b', ha, hb', hcs, hstarts, hends⟩ := exists_between cs
  have hall : cs ++ b = a ++ trim cs ++ (b' ++ b) := by
    rw [← List.append_assoc, ← hcs]
  rw [hall, trim_of_between ha (blank_append.mpr ⟨hb', hb⟩) hstarts hends]

/-- Once trimmed, a text has nothing left to trim. -/
theorem strip_strip (s : String) : strip (strip s) = strip s := by
  apply String.toList_injective
  rw [toList_strip, toList_strip, trim_of_starts_ends (starts_trim _) (ends_trim _)]

theorem trim_eq_nil_iff : trim cs = [] ↔ Blank cs := by
  constructor
  · intro hnil
    obtain ⟨a, b, ha, hb, hcs, -, -⟩ := exists_between cs
    rw [hcs, hnil, List.append_nil]
    exact blank_append.mpr ⟨ha, hb⟩
  · intro hcs
    have htrim : trim (cs ++ [] ++ []) = [] := trim_of_between hcs blank_nil starts_nil ends_nil
    rwa [List.append_nil, List.append_nil] at htrim

end FlowGraph.Text
