import FlowGraph.Proofs.Text

/-!
Words between blanks. The words of a text are what is left when it is cut at its blanks:
each is as long as it can be, and blanks at either end of the text make no difference.
-/

namespace FlowGraph.Text

variable {a b cs rest w : List Char} {ws : List (List Char)}

structure Unbroken (w : List Char) : Prop where
  ne_nil : w ≠ []
  not_blank : ∀ c ∈ w, isBlank c = false

def Breaks (cs : List Char) : Prop :=
  ∀ c, cs.head? = some c → isBlank c = true

/-- The text is made of these words, in order: blanks stand between any two of them, and
perhaps before the first and behind the last. -/
inductive MadeOf : List Char → List (List Char) → Prop
  | blank {cs : List Char} : Blank cs → MadeOf cs []
  | word {a w rest : List Char} {ws : List (List Char)} :
      Blank a → Unbroken w → Breaks rest → MadeOf rest ws → MadeOf (a ++ (w ++ rest)) (w :: ws)

theorem Blank.breaks (hcs : Blank cs) : Breaks cs := by
  intro c hc
  exact hcs c (List.mem_of_head? hc)

theorem Breaks.append_blank (hcs : Breaks cs) (hb : Blank b) : Breaks (cs ++ b) := by
  cases cs with
  | nil => exact hb.breaks
  | cons c cs =>
    intro d hd
    exact hcs d hd

theorem MadeOf.after_blank (hcs : MadeOf cs ws) (ha : Blank a) : MadeOf (a ++ cs) ws := by
  cases hcs with
  | blank hcs => exact .blank (blank_append.mpr ⟨ha, hcs⟩)
  | @word before w rest ws hbefore hw hrest hws =>
    rw [← List.append_assoc]
    exact .word (blank_append.mpr ⟨ha, hbefore⟩) hw hrest hws

theorem MadeOf.before_blank (hcs : MadeOf cs ws) (hb : Blank b) : MadeOf (cs ++ b) ws := by
  induction hcs with
  | blank hcs => exact .blank (blank_append.mpr ⟨hcs, hb⟩)
  | word ha hw hrest hws ih =>
    rw [List.append_assoc, List.append_assoc]
    exact .word ha hw (hrest.append_blank hb) ih

theorem words_cons_blank {c : Char} (hc : isBlank c = true) (cs : List Char) :
    words (c :: cs) = words cs := by
  rw [words, if_pos hc]

theorem words_blank_append (ha : Blank a) (cs : List Char) : words (a ++ cs) = words cs := by
  induction a with
  | nil => rfl
  | cons c a ih =>
    obtain ⟨hc, ha⟩ := List.forall_mem_cons.mp ha
    rw [List.cons_append, words_cons_blank hc, ih ha]

theorem words_of_blank (hcs : Blank cs) : words cs = [] := by
  have hwords := words_blank_append hcs []
  rwa [List.append_nil] at hwords

/-- A character before a break is a word of its own. -/
theorem words_cons_breaks {c : Char} (hc : isBlank c = false) (hcs : Breaks cs) :
    words (c :: cs) = [c] :: words cs := by
  cases cs with
  | nil => simp [words, hc]
  | cons d cs =>
    have hd : isBlank d = true := hcs d rfl
    rw [words, hc, List.head?_cons]
    cases words (d :: cs) with
    | nil => rfl
    | cons w ws => simp [hd]

/-- A character before another one belongs to its word. -/
theorem words_cons_cons {c d : Char} (hc : isBlank c = false) (hd : isBlank d = false)
    (hws : words (d :: cs) = w :: ws) : words (c :: d :: cs) = (c :: w) :: ws := by
  rw [words, hc, hws]
  simp [hd]

/-- A word that goes up to a break is the first of the text. -/
theorem words_unbroken_append (hw : Unbroken w) (hrest : Breaks rest) :
    words (w ++ rest) = w :: words rest := by
  obtain ⟨hne, hblank⟩ := hw
  induction w with
  | nil => exact absurd rfl hne
  | cons c w ih =>
    obtain ⟨hc, hw⟩ := List.forall_mem_cons.mp hblank
    cases w with
    | nil => exact words_cons_breaks hc hrest
    | cons d w => exact words_cons_cons hc (hw d List.mem_cons_self) (ih (by simp) hw)

theorem MadeOf.words_eq (hcs : MadeOf cs ws) : words cs = ws := by
  induction hcs with
  | blank hcs => exact words_of_blank hcs
  | word ha hw hrest hws ih => rw [words_blank_append ha, words_unbroken_append hw hrest, ih]

/-- A text that does not begin with a blank begins with its first word. -/
theorem MadeOf.exists_word {d : Char} (hd : isBlank d = false) (hcs : MadeOf (d :: cs) ws) :
    ∃ w rest more, d :: cs = w ++ rest ∧ ws = w :: more ∧ Unbroken w ∧ Breaks rest ∧
      MadeOf rest more := by
  generalize htext : d :: cs = text at hcs
  cases hcs with
  | blank hblank =>
    have hfirst : isBlank d = true := hblank d (htext ▸ List.mem_cons_self)
    rw [hd] at hfirst
    cases hfirst
  | @word a w rest more ha hw hrest hmore =>
    cases a with
    | nil => exact ⟨w, rest, more, rfl, rfl, hw, hrest, hmore⟩
    | cons c a =>
      have hfirst : isBlank c = true := ha c List.mem_cons_self
      rw [← (List.cons.inj htext).1, hd] at hfirst
      cases hfirst

/-- Every text is made of its words. -/
theorem madeOf_words (cs : List Char) : MadeOf cs (words cs) := by
  induction cs with
  | nil => exact .blank blank_nil
  | cons c cs ih =>
    by_cases hc : isBlank c = true
    · have hfirst : Blank [c] := by simpa [Blank] using hc
      rw [words_cons_blank hc]
      exact ih.after_blank hfirst
    · have hsolid : isBlank c = false := by simpa using hc
      by_cases hcs : Breaks cs
      · have hword : Unbroken [c] := ⟨by simp, by simpa using hsolid⟩
        rw [words_cons_breaks hsolid hcs]
        exact .word blank_nil hword hcs ih
      · -- The first word of the rest goes on to the left.
        obtain ⟨d, hhead, hd⟩ : ∃ d, cs.head? = some d ∧ isBlank d = false := by
          simpa [Breaks] using hcs
        obtain ⟨cs, rfl⟩ := List.head?_eq_some_iff.mp hhead
        obtain ⟨w, rest, more, hsplit, -, hw, hrest, hmore⟩ := ih.exists_word hd
        have hword : Unbroken (c :: w) :=
          ⟨by simp, List.forall_mem_cons.mpr ⟨hsolid, hw.not_blank⟩⟩
        rw [hsplit, ← List.cons_append, words_unbroken_append hword hrest, hmore.words_eq]
        exact .word blank_nil hword hrest hmore

/-- A text is made of its words and of no others. -/
theorem words_eq_iff : words cs = ws ↔ MadeOf cs ws := by
  constructor
  · intro hws
    exact hws ▸ madeOf_words cs
  · intro hcs
    exact hcs.words_eq

/-- Blanks around a text do not change its words. -/
theorem words_trim (cs : List Char) : words (trim cs) = words cs := by
  obtain ⟨a, b, ha, hb, hcs, -, -⟩ := exists_between cs
  have hmade := ((madeOf_words (trim cs)).after_blank ha).before_blank hb
  rw [← hcs] at hmade
  exact hmade.words_eq.symm

end FlowGraph.Text
