import FlowGraph.Proofs.Condition.Cutting

/-!
Clauses of a left operand, an operator and a right operand with one blank between them. If
the left operand shows no operator of its own, the clause is cut at the one between the
operands, whatever the right operand looks like.
-/

namespace FlowGraph.Comparison

variable {l r t z rest operator : List Char}

section Delimited

/-- What begins a text and lacks an element of it ends before that element. -/
theorem prefix_before {α : Type} {x : α} {w t z : List α} (hw : w <+: t ++ x :: z) (hx : x ∉ w) :
    w <+: t := by
  obtain ⟨rest, hrest⟩ := hw
  rcases List.append_eq_append_iff.mp hrest with ⟨a, ht, -⟩ | ⟨a, hwa, hz⟩
  · exact ⟨a, ht.symm⟩
  · cases a with
    | nil =>
      rw [List.append_nil] at hwa
      rw [hwa]
    | cons y a =>
      obtain ⟨rfl, -⟩ := List.cons.inj hz
      exact absurd (by simp [hwa]) hx

/-- The find is at an element if no earlier one begins it and all that are found do. -/
theorem findSome?_eq_of_prefix {α β : Type} {xs : List (List α)} {f : List α → Option β}
    {x : List α} {b : β} (hx : x ∈ xs) (hxs : xs.Pairwise fun a b => ¬ a <+: b)
    (hf : ∀ y ∈ xs, f y ≠ none → y <+: x) (hb : f x = some b) : xs.findSome? f = some b := by
  induction xs with
  | nil => cases hx
  | cons y xs ih =>
    rw [List.findSome?_cons]
    rcases List.mem_cons.mp hx with rfl | hmem
    · rw [hb]
    · have hnone : f y = none := by
        by_contra hsome
        exact List.rel_of_pairwise_cons hxs hmem (hf y List.mem_cons_self hsome)
      rw [hnone]
      exact ih hmem hxs.of_cons fun u hu => hf u (List.mem_cons_of_mem y hu)

theorem signs_pairwise : signs.Pairwise fun a b => ¬ a <+: b := by
  decide

theorem operatorWords_pairwise : operatorWords.Pairwise fun a b => ¬ a <+: b := by
  decide

theorem blank_not_mem_signs : ∀ sign ∈ signs, ' ' ∉ sign := by
  decide

theorem blank_not_mem_operatorWords : ∀ word ∈ operatorWords, ' ' ∉ word := by
  decide

theorem foldCase_blank : Text.foldCase ' ' = ' ' := by
  decide +kernel

/-- A sign at a place before a blank is there without what follows the blank. -/
theorem prefix_of_dropPrefix? {sign : List Char} (hsign : sign ∈ signs)
    (hdrop : Text.dropPrefix? sign (t ++ ' ' :: z) = some rest) : sign <+: t :=
  prefix_before ⟨rest, (Text.dropPrefix?_eq_some_iff.mp hdrop).symm⟩
    (blank_not_mem_signs sign hsign)

/-- A word at a place before a blank ends before the blank, too. -/
theorem exists_of_dropWord? {word : List Char} (hword : word ∈ operatorWords)
    (hdrop : dropWord? word (t ++ ' ' :: z) = some rest) :
    ∃ w after, t = w ++ after ∧ w.map Text.foldCase = word ∧ rest = after ++ ' ' :: z := by
  obtain ⟨w, hw, hfold⟩ := dropWord?_eq_some_iff.mp hdrop
  have hblank : ' ' ∉ w :=
    not_mem_of_map_foldCase foldCase_blank (blank_not_mem_operatorWords word hword) hfold
  obtain ⟨after, rfl⟩ := prefix_before ⟨rest, hw.symm⟩ hblank
  rw [List.append_assoc] at hw
  exact ⟨w, after, rfl, hfold, (List.append_cancel_left hw).symm⟩

end Delimited

section Clear

def Signless (t : List Char) : Prop :=
  '<' ∉ t ∧ '>' ∉ t ∧ '=' ∉ t

/-- Neither a sign nor a word with a blank before it and a blank, or nothing, after it. -/
structure Clear (l : List Char) : Prop where
  signless : Signless l
  wordless : ∀ before blank word after, l = before ++ blank :: (word ++ after) →
    Text.isBlank blank = true → word.map Text.foldCase ∈ operatorWords →
      after ≠ [] ∧ Text.Starts after

theorem Signless.subset (hl : Signless l) (ht : t ⊆ l) : Signless t :=
  ⟨fun hmem => hl.1 (ht hmem), fun hmem => hl.2.1 (ht hmem), fun hmem => hl.2.2 (ht hmem)⟩

theorem not_signless : ∀ sign ∈ signs, ¬ Signless sign := by
  unfold Signless
  decide

/-- Where none of the characters is that every sign has one of, there is no sign. -/
theorem Signless.signAt?_eq_none (ht : Signless t) (z : List Char) :
    signAt? (t ++ ' ' :: z) = none := by
  refine List.findSome?_eq_none_iff.mpr fun sign hsign => ?_
  cases hdrop : Text.dropPrefix? sign (t ++ ' ' :: z) with
  | none => rfl
  | some rest =>
    have hstart := prefix_of_dropPrefix? hsign hdrop
    exact absurd (ht.subset hstart.subset) (not_signless sign hsign)

theorem right?_one_eq_none (hstarts : Text.Starts t) (hne : t ≠ []) : right? 1 t = none :=
  right?_blank_append Text.blank_nil hstarts hne 1

/-- No operator is found before the end of a clear operand. -/
theorem Clear.operatorAt?_eq_none (hl : Clear l) (hends : Text.Ends l) {a b : List Char}
    (hab : l = a ++ b) (hb : b ≠ []) (z : List Char) : operatorAt? (b ++ ' ' :: z) = none := by
  obtain ⟨s, hs, hbody⟩ := Text.exists_append_trimStart b
  have hstarts := Text.starts_trimStart b
  rw [hab] at hends
  have hne : Text.trimStart b ≠ [] := fun hnil =>
    hb ((Text.trimStart_eq_nil_iff.mp hnil).eq_nil_of_ends (hends.of_append hb))
  generalize Text.trimStart b = t at hbody hstarts hne
  subst hbody hab
  have htrim : Text.trimStart (s ++ t ++ ' ' :: z) = t ++ ' ' :: z := by
    rw [List.append_assoc, Text.trimStart_append hs, Text.trimStart_of_starts (hstarts.append hne)]
  have hsubset : t ⊆ a ++ (s ++ t) := by
    simp
  unfold operatorAt?
  simp only [htrim, (hl.signless.subset hsubset).signAt?_eq_none]
  -- A word is only looked for after a blank, so there is one before what is left of the text.
  split
  · next hlength =>
    have hsne : s ≠ [] := by
      rintro rfl
      simp at hlength
    obtain ⟨s, blank, rfl⟩ := (List.eq_nil_or_concat s).resolve_left hsne
    refine List.findSome?_eq_none_iff.mpr fun word hword => ?_
    cases hdrop : dropWord? word (t ++ ' ' :: z) with
    | none => rfl
    | some rest =>
      obtain ⟨w, after, rfl, hfold, rfl⟩ := exists_of_dropWord? hword hdrop
      have hblank : Text.isBlank blank = true := hs blank (by simp)
      obtain ⟨hafter, hstart⟩ := hl.wordless (a ++ s) blank w after (by simp) hblank
        (hfold ▸ hword)
      rw [Option.bind_some, right?_one_eq_none (hstart.append hafter) (by simp)]
      rfl
  · rfl

end Clear

section Found

theorem blank_space : Text.Blank [' '] :=
  List.forall_mem_singleton.mpr rfl

theorem right?_after_space (hr : Text.Bare r) {blanks : Nat} (hblanks : blanks ≤ 1) :
    right? blanks (' ' :: r) = some r := by
  have hright := right?_blank_append blank_space hr.starts hr.ne_nil blanks
  rw [List.length_singleton, if_pos hblanks, Text.trimEnd_of_ends hr.ends] at hright
  exact hright

/-- Of the signs that begin alike, the longest is found. -/
theorem signAt?_sign (hsign : operator ∈ signs) (hr : Text.Bare r) :
    signAt? (operator ++ ' ' :: r) = some (operator, r) := by
  refine findSome?_eq_of_prefix hsign signs_pairwise ?_ ?_
  · intro sign hmem hsome
    cases hdrop : Text.dropPrefix? sign (operator ++ ' ' :: r) with
    | none =>
      rw [hdrop] at hsome
      exact absurd rfl hsome
    | some rest => exact prefix_of_dropPrefix? hmem hdrop
  · rw [Text.dropPrefix?_eq_some_iff.mpr rfl, Option.bind_some,
      right?_after_space hr (Nat.zero_le 1)]
    rfl

theorem wordAt?_word (hword : operator.map Text.foldCase ∈ operatorWords) (hr : Text.Bare r) :
    wordAt? (operator ++ ' ' :: r) = some (operator, r) := by
  refine findSome?_eq_of_prefix hword operatorWords_pairwise ?_ ?_
  · intro word hmem hsome
    cases hdrop : dropWord? word (operator ++ ' ' :: r) with
    | none =>
      rw [hdrop] at hsome
      exact absurd rfl hsome
    | some rest =>
      obtain ⟨w, after, rfl, rfl, -⟩ := exists_of_dropWord? hmem hdrop
      rw [List.map_append]
      exact List.prefix_append _ _
  · rw [dropWord?_eq_some_iff.mpr ⟨operator, rfl, rfl⟩, Option.bind_some,
      right?_after_space hr (Nat.le_refl 1), List.length_map, List.take_left]
    rfl

theorem signless_of_word (hword : operator.map Text.foldCase ∈ operatorWords) :
    Signless operator := by
  have hwords : ∀ word ∈ operatorWords, Signless word := by
    unfold Signless
    decide
  obtain ⟨hless, hgreater, hequal⟩ := hwords _ hword
  exact ⟨not_mem_of_map_foldCase (by decide +kernel) hless rfl,
    not_mem_of_map_foldCase (by decide +kernel) hgreater rfl,
    not_mem_of_map_foldCase (by decide +kernel) hequal rfl⟩

/-- An operator between blanks is found behind the blank, with the right operand as it is. -/
theorem operatorAt?_operator (hoperator : IsOperator operator) (hbare : Text.Bare operator)
    (hr : Text.Bare r) : operatorAt? (' ' :: (operator ++ ' ' :: r)) = some (operator, r) := by
  have htrim : Text.trimStart (' ' :: (operator ++ ' ' :: r)) = operator ++ ' ' :: r := by
    rw [← List.singleton_append, Text.trimStart_append blank_space,
      Text.trimStart_of_starts (hbare.starts.append hbare.ne_nil)]
  unfold operatorAt?
  simp only [htrim]
  rcases hoperator with hsign | hword
  · rw [signAt?_sign hsign hr]
    rfl
  · have hlength : (operator ++ ' ' :: r).length < (' ' :: (operator ++ ' ' :: r)).length := by
      simp
    rw [(signless_of_word hword).signAt?_eq_none, if_pos hlength, wordAt?_word hword hr]
    rfl

/-- A clause with a clear left operand is cut at the operator that follows the operand. -/
theorem ofClause?_clear (hl : Clear l) (hlbare : Text.Bare l) (hoperator : IsOperator operator)
    (hbare : Text.Bare operator) (hr : Text.Bare r) :
    ofClause? (l ++ ' ' :: (operator ++ ' ' :: r)) = some ⟨l, operator, r⟩ := by
  have hcut : cut? (l ++ ' ' :: (operator ++ ' ' :: r)) = some ⟨l, operator, r⟩ := by
    rw [cut?_append hlbare.ne_nil fun a b hab _ hb => hl.operatorAt?_eq_none hlbare.ends hab hb _,
      operatorAt?_operator hoperator hbare hr]
  obtain ⟨c, l, rfl⟩ := List.exists_cons_of_ne_nil hlbare.ne_nil
  have hc : Text.isBlank c = false := hlbare.starts c rfl
  rw [List.cons_append] at hcut ⊢
  rw [ofClause?, hc]
  exact hcut

end Found

end FlowGraph.Comparison
