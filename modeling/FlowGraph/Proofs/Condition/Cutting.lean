import FlowGraph.Condition.Comparison
import FlowGraph.Proofs.Condition.Masking
import FlowGraph.Proofs.Text

/-!
Where a clause is cut. A comparison leaves nothing of its clause out but blanks, and it
does not look into spans: it is cut at the same place whatever numbers the masks have.
-/

namespace FlowGraph.Comparison

open Masked

variable {cs rest : List Char}

section Marks

theorem not_isBlank_mark : Text.isBlank mark = false := by
  decide

theorem not_mem_of_blank (hcs : Text.Blank cs) : mark ∉ cs := by
  intro hmem
  have hblank := hcs mark hmem
  rw [not_isBlank_mark] at hblank
  cases hblank

theorem numbered_of_blank (hcs : Text.Blank cs) (n : Nat) : numbered n cs = cs :=
  numbered_of_not_mem n (not_mem_of_blank hcs)

theorem numbered_blank_append {a : List Char} (ha : Text.Blank a) (n : Nat) (cs : List Char) :
    numbered n (a ++ cs) = a ++ numbered n cs := by
  rw [numbered_append, numbered_of_blank ha, List.count_eq_zero.mpr (not_mem_of_blank ha),
    Nat.add_zero]

theorem numbered_append_blank {a : List Char} (ha : Text.Blank a) (n : Nat) (cs : List Char) :
    numbered n (cs ++ a) = numbered n cs ++ a := by
  rw [numbered_append, numbered_of_blank ha]

theorem head?_numbered (n : Nat) (cs : List Char) : (numbered n cs).head? = cs.head? := by
  cases cs with
  | nil => rfl
  | cons c cs =>
    by_cases hc : c = mark
    · subst hc
      rw [numbered_mark]
      rfl
    · rw [numbered_cons hc]
      rfl

theorem getLast?_numbered (n : Nat) (cs : List Char) : (numbered n cs).getLast? = cs.getLast? := by
  rcases List.eq_nil_or_concat cs with rfl | ⟨front, c, rfl⟩
  · rfl
  · have hlast : (numbered (n + front.count mark) [c]).getLast? = some c := by
      by_cases hc : c = mark
      · subst hc
        rw [numbered_mark, numbered, List.append_nil]
        exact List.getLast?_concat
      · rw [numbered_cons hc]
        rfl
    have hne : numbered (n + front.count mark) [c] ≠ [] := by
      intro hnil
      rw [hnil] at hlast
      cases hlast
    rw [List.concat_eq_append, numbered_append, List.getLast?_append_of_ne_nil _ hne, hlast,
      List.getLast?_concat]

theorem numbered_eq_nil_iff {n : Nat} : numbered n cs = [] ↔ cs = [] := by
  rw [← List.head?_eq_none_iff, head?_numbered, List.head?_eq_none_iff]

theorem starts_numbered {n : Nat} (hcs : Text.Starts cs) : Text.Starts (numbered n cs) := by
  intro c hc
  exact hcs c (by rwa [head?_numbered] at hc)

theorem ends_numbered {n : Nat} (hcs : Text.Ends cs) : Text.Ends (numbered n cs) := by
  intro c hc
  exact hcs c (by rwa [getLast?_numbered] at hc)

theorem trimStart_numbered (n : Nat) (cs : List Char) :
    Text.trimStart (numbered n cs) = numbered n (Text.trimStart cs) := by
  obtain ⟨a, ha, hcs⟩ := Text.exists_append_trimStart cs
  conv_lhs => rw [hcs]
  rw [numbered_blank_append ha, Text.trimStart_append ha,
    Text.trimStart_of_starts (starts_numbered (Text.starts_trimStart cs))]

theorem trimEnd_numbered (n : Nat) (cs : List Char) :
    Text.trimEnd (numbered n cs) = numbered n (Text.trimEnd cs) := by
  obtain ⟨a, ha, hcs⟩ := Text.exists_trimEnd_append cs
  conv_lhs => rw [hcs]
  rw [numbered_append_blank ha, Text.trimEnd_append ha,
    Text.trimEnd_of_ends (ends_numbered (Text.ends_trimEnd cs))]

/-- Blanks can be trimmed before or after the marks are numbered. -/
theorem trim_numbered (n : Nat) (cs : List Char) :
    Text.trim (numbered n cs) = numbered n (Text.trim cs) := by
  rw [Text.trim, trimStart_numbered, trimEnd_numbered]
  rfl

end Marks

section Operators

/-- Where something else than a blank follows, it is the operand. -/
theorem right?_blank_append {a : List Char} (ha : Text.Blank a) (hstarts : Text.Starts cs)
    (hne : cs ≠ []) (blanks : Nat) :
    right? blanks (a ++ cs) = if blanks ≤ a.length then some (Text.trimEnd cs) else none := by
  have htrim : Text.trimStart (a ++ cs) = cs := by
    rw [Text.trimStart_append ha, Text.trimStart_of_starts hstarts]
  obtain ⟨c, rest, rfl⟩ := List.exists_cons_of_ne_nil hne
  unfold right?
  rw [htrim]
  simp only [List.length_append]
  congr 1
  rw [eq_iff_iff]
  omega

theorem right?_of_blank (hcs : Text.Blank cs) (blanks : Nat) :
    right? blanks cs = if blanks < cs.length then some (cs.drop (cs.length - 1)) else none := by
  unfold right?
  rw [Text.trimStart_eq_nil_iff.mpr hcs]

/-- The right operand is the same but for its numbers. -/
theorem right?_numbered (blanks n : Nat) (cs : List Char) :
    right? blanks (numbered n cs) = (right? blanks cs).map (numbered n) := by
  by_cases hblank : Text.Blank cs
  · have hdrop : Text.Blank (cs.drop (cs.length - 1)) := fun c hc =>
      hblank c (List.mem_of_mem_drop hc)
    rw [numbered_of_blank hblank, right?_of_blank hblank]
    split
    · rw [Option.map_some, numbered_of_blank hdrop]
    · rfl
  · obtain ⟨a, ha, hcs⟩ := Text.exists_append_trimStart cs
    have hstarts := Text.starts_trimStart cs
    have hne : Text.trimStart cs ≠ [] := fun hnil => hblank (Text.trimStart_eq_nil_iff.mp hnil)
    have hne' : numbered n (Text.trimStart cs) ≠ [] := fun hnil => hne (numbered_eq_nil_iff.mp hnil)
    rw [hcs, numbered_blank_append ha, right?_blank_append ha hstarts hne,
      right?_blank_append ha (starts_numbered hstarts) hne', trimEnd_numbered]
    split <;> rfl

theorem dropPrefix?_numbered {sign : List Char} (hsign : mark ∉ sign) (n : Nat) (cs : List Char) :
    Text.dropPrefix? sign (numbered n cs) = (Text.dropPrefix? sign cs).map (numbered n) := by
  induction sign generalizing cs with
  | nil => rfl
  | cons s sign ih =>
    rw [List.mem_cons, not_or] at hsign
    cases cs with
    | nil => rfl
    | cons c cs =>
      by_cases hc : c = mark
      · subst hc
        have hne : ¬ s = mark := fun heq => hsign.1 heq.symm
        rw [numbered_mark, placeholder, List.cons_append, List.cons_append, Text.dropPrefix?,
          if_neg hne, Text.dropPrefix?, if_neg hne]
        rfl
      · rw [numbered_cons hc, Text.dropPrefix?, Text.dropPrefix?, ih hsign.2]
        split <;> rfl

/-- A word is dropped whatever the case of its letters. -/
theorem dropWord?_eq_some_iff {word : List Char} :
    dropWord? word cs = some rest ↔ ∃ w, cs = w ++ rest ∧ w.map Text.foldCase = word := by
  induction word generalizing cs with
  | nil => simp [dropWord?]
  | cons x word ih =>
    cases cs with
    | nil => simp [dropWord?]
    | cons c cs =>
      rw [dropWord?]
      split
      · next hx =>
        rw [ih]
        constructor
        · rintro ⟨w, rfl, rfl⟩
          exact ⟨c :: w, rfl, by rw [List.map_cons, ← hx]⟩
        · rintro ⟨w, hw, hword⟩
          obtain ⟨d, w, rfl, -, rfl⟩ := List.map_eq_cons_iff.mp hword
          obtain ⟨rfl, rfl⟩ := List.cons.inj hw
          exact ⟨w, rfl, rfl⟩
      · next hx =>
        refine iff_of_false (by simp) ?_
        rintro ⟨w, hw, hword⟩
        obtain ⟨d, w, rfl, rfl, rfl⟩ := List.map_eq_cons_iff.mp hword
        obtain ⟨rfl, rfl⟩ := List.cons.inj hw
        exact hx rfl

theorem foldCase_mark : Text.foldCase mark = mark := by
  decide +kernel

theorem mark_not_mem_signs : ∀ sign ∈ signs, mark ∉ sign := by
  decide

theorem mark_not_mem_operatorWords : ∀ word ∈ operatorWords, mark ∉ word := by
  decide

/-- What spells a word has no character in it that folds to itself and is not in the word. -/
theorem not_mem_of_map_foldCase {x : Char} {w word : List Char} (hx : Text.foldCase x = x)
    (hword : x ∉ word) (hw : w.map Text.foldCase = word) : x ∉ w := by
  intro hmem
  apply hword
  rw [← hw, ← hx]
  exact List.mem_map_of_mem hmem

theorem dropWord?_numbered {word : List Char} (hword : mark ∉ word) (n : Nat) (cs : List Char) :
    dropWord? word (numbered n cs) = (dropWord? word cs).map (numbered n) := by
  induction word generalizing cs with
  | nil => rfl
  | cons x word ih =>
    rw [List.mem_cons, not_or] at hword
    cases cs with
    | nil => rfl
    | cons c cs =>
      by_cases hc : c = mark
      · subst hc
        have hne : ¬ x = Text.foldCase mark := fun heq => hword.1 (heq.trans foldCase_mark).symm
        rw [numbered_mark, placeholder, List.cons_append, List.cons_append, dropWord?, if_neg hne,
          dropWord?, if_neg hne]
        rfl
      · rw [numbered_cons hc, dropWord?, dropWord?, ih hword.2]
        split <;> rfl

/-- What is found goes over if what each element gives does. -/
theorem findSome?_eq_map {α β γ : Type} {l : List α} {f : α → Option γ} {g : α → Option β}
    {k : β → γ} (hfg : ∀ x ∈ l, f x = (g x).map k) : l.findSome? f = (l.findSome? g).map k := by
  induction l with
  | nil => rfl
  | cons x l ih =>
    have hx := hfg x List.mem_cons_self
    have hl := ih fun y hy => hfg y (List.mem_cons_of_mem x hy)
    rw [List.findSome?_cons, List.findSome?_cons, hx, hl]
    cases g x <;> rfl

def renumbered (n : Nat) (found : List Char × List Char) : List Char × List Char :=
  (found.1, numbered n found.2)

theorem signAt?_numbered (n : Nat) (cs : List Char) :
    signAt? (numbered n cs) = (signAt? cs).map (renumbered n) := by
  refine findSome?_eq_map fun sign hsign => ?_
  rw [dropPrefix?_numbered (mark_not_mem_signs sign hsign)]
  cases Text.dropPrefix? sign cs with
  | none => rfl
  | some after =>
    rw [Option.map_some, Option.bind_some, Option.bind_some, right?_numbered]
    cases right? 0 after <;> rfl

theorem wordAt?_numbered (n : Nat) (cs : List Char) :
    wordAt? (numbered n cs) = (wordAt? cs).map (renumbered n) := by
  refine findSome?_eq_map fun word hword => ?_
  have hmark := mark_not_mem_operatorWords word hword
  rw [dropWord?_numbered hmark]
  cases hdrop : dropWord? word cs with
  | none => rfl
  | some after =>
    obtain ⟨w, rfl, hw⟩ := dropWord?_eq_some_iff.mp hdrop
    have hlength : word.length = w.length := by rw [← hw, List.length_map]
    -- The word has no mark, so the same characters are taken.
    have htake : (numbered n (w ++ after)).take word.length = (w ++ after).take word.length := by
      rw [numbered_append, numbered_of_not_mem n (not_mem_of_map_foldCase foldCase_mark hmark hw),
        hlength, List.take_left, List.take_left]
    rw [Option.map_some, Option.bind_some, Option.bind_some, right?_numbered, htake]
    cases right? 1 after <;> rfl

/-- The numbers of marks do not change which operator stands at a place. -/
theorem operatorAt?_numbered (n : Nat) (cs : List Char) :
    operatorAt? (numbered n cs) = (operatorAt? cs).map (renumbered n) := by
  obtain ⟨a, ha, hcs⟩ := Text.exists_append_trimStart cs
  have hlength : (numbered n (Text.trimStart cs)).length < (numbered n cs).length ↔
      (Text.trimStart cs).length < cs.length := by
    conv_lhs => rw [hcs, Text.trimStart_append ha, Text.trimStart_of_starts
      (Text.starts_trimStart cs), numbered_blank_append ha]
    conv_rhs => rhs; rw [hcs]
    simp only [List.length_append]
    omega
  unfold operatorAt?
  simp only [trimStart_numbered, signAt?_numbered, wordAt?_numbered]
  cases signAt? (Text.trimStart cs) with
  | some found => rfl
  | none =>
    by_cases hblank : (Text.trimStart cs).length < cs.length
    · rw [if_pos hblank, if_pos (hlength.mpr hblank)]
      rfl
    · rw [if_neg hblank, if_neg fun hlt => hblank (hlength.mp hlt)]
      rfl

end Operators

section Cut

def Solid (c : Char) : Prop :=
  Text.isBlank c = false ∧ ∀ sign ∈ signs, sign.head? ≠ some c

instance (c : Char) : Decidable (Solid c) :=
  inferInstanceAs (Decidable (_ ∧ _))

theorem nil_not_mem_signs : [] ∉ signs := by
  decide

theorem signAt?_cons_eq_none {c : Char} (hc : ∀ sign ∈ signs, sign.head? ≠ some c)
    (cs : List Char) : signAt? (c :: cs) = none := by
  refine List.findSome?_eq_none_iff.mpr fun sign hmem => ?_
  cases hdrop : Text.dropPrefix? sign (c :: cs) with
  | none => rfl
  | some rest =>
    have hcs := Text.dropPrefix?_eq_some_iff.mp hdrop
    cases sign with
    | nil => exact absurd hmem nil_not_mem_signs
    | cons s sign =>
      obtain ⟨rfl, -⟩ := List.cons.inj hcs
      exact absurd rfl (hc _ hmem)

/-- No operator is found at a character that is neither a blank nor the start of a sign. -/
theorem operatorAt?_solid {c : Char} (hc : Solid c) (cs : List Char) :
    operatorAt? (c :: cs) = none := by
  have htrim : Text.trimStart (c :: cs) = c :: cs := by
    apply Text.trimStart_of_starts
    intro d hd
    obtain rfl : c = d := Option.some.inj hd
    exact hc.1
  unfold operatorAt?
  simp only [htrim, signAt?_cons_eq_none hc.2, lt_irrefl, if_false]
  rfl

theorem solid_of_isDigit {c : Char} (hc : Decimal.isDigit c = true) : Solid c := by
  obtain ⟨hlow, hhigh⟩ := Decimal.isDigit_eq_true_iff.mp hc
  have hdigits : ∀ n < 58, 48 ≤ n → Solid (Char.ofNat n) := by decide
  have hsolid := hdigits c.toNat (by omega) hlow
  rwa [Char.ofNat_toNat] at hsolid

/-- So no operator is found inside of a placeholder. -/
theorem solid_of_mem_placeholder {n : Nat} {c : Char} (hc : c ∈ placeholder n) : Solid c := by
  have hmark : Solid mark := by decide
  rw [placeholder, List.cons_append, List.mem_cons, List.mem_append, List.mem_singleton] at hc
  rcases hc with rfl | hdigit | rfl
  · exact hmark
  · exact solid_of_isDigit (Decimal.isDigit_of_mem_digits hdigit)
  · exact hmark

def led (w : List Char) (c : Comparison) : Comparison :=
  { c with left := w ++ c.left }

/-- The cut passes over a text that no operator is found in. -/
theorem cut?_append {w : List Char} (hne : w ≠ [])
    (hw : ∀ a b, w = a ++ b → a ≠ [] → b ≠ [] → operatorAt? (b ++ cs) = none) :
    cut? (w ++ cs) = match operatorAt? cs with
      | some (operator, right) => some ⟨w, operator, right⟩
      | none => (cut? cs).map (led w) := by
  induction w with
  | nil => exact absurd rfl hne
  | cons c w ih =>
    rw [List.cons_append, cut?]
    cases w with
    | nil => rfl
    | cons d w =>
      have hnone : operatorAt? (d :: w ++ cs) = none :=
        hw [c] (d :: w) rfl (List.cons_ne_nil c []) (List.cons_ne_nil d w)
      have hrest := ih (List.cons_ne_nil d w) fun a b hab _ hb =>
        hw (c :: a) b (congrArg (c :: ·) hab) (List.cons_ne_nil c a) hb
      rw [hnone, hrest]
      cases operatorAt? cs with
      | some found => rfl
      | none =>
        simp only [Option.map_map]
        rfl

theorem cut?_solid_append {w : List Char} (hw : ∀ c ∈ w, Solid c) (hne : w ≠ []) (cs : List Char) :
    cut? (w ++ cs) = match operatorAt? cs with
      | some (operator, right) => some ⟨w, operator, right⟩
      | none => (cut? cs).map (led w) := by
  refine cut?_append hne fun a b hab _ hb => ?_
  obtain ⟨d, b, rfl⟩ := List.exists_cons_of_ne_nil hb
  exact operatorAt?_solid (hw d (by simp [hab])) _

def mapNumbers (n : Nat) (c : Comparison) : Comparison :=
  ⟨numbered n c.left, c.operator, numbered (n + c.left.count mark) c.right⟩

/-- The cut falls at the same place, and the right operand counts on where the left one stops. -/
theorem cut?_numbered (n : Nat) (cs : List Char) :
    cut? (numbered n cs) = (cut? cs).map (mapNumbers n) := by
  induction cs generalizing n with
  | nil => rfl
  | cons c cs ih =>
    by_cases hc : c = mark
    · subst hc
      have hne : placeholder n ≠ [] := by simp [placeholder]
      have hone : numbered n [mark] = placeholder n := by
        rw [numbered_mark, numbered, List.append_nil]
      rw [numbered_mark, cut?_solid_append (fun c hc => solid_of_mem_placeholder hc) hne,
        operatorAt?_numbered, ih, cut?]
      cases operatorAt? cs with
      | some found => simp [renumbered, mapNumbers, hone]
      | none =>
        simp only [Option.map_none, Option.map_map]
        congr 1
        funext found
        simp only [Function.comp_apply, mapNumbers, led, numbered_mark, List.count_cons_self]
        congr 2
        omega
    · rw [numbered_cons hc, cut?, cut?, operatorAt?_numbered, ih]
      cases operatorAt? cs with
      | some found => simp [renumbered, mapNumbers, hc, numbered]
      | none =>
        simp only [Option.map_none, Option.map_map]
        congr 1
        funext found
        simp only [Function.comp_apply, mapNumbers, numbered_cons hc, List.count_cons_of_ne hc]

/-- A clause is cut at the same place whatever the numbers of its spans are. -/
theorem ofClause?_numbered (n : Nat) (cs : List Char) :
    ofClause? (numbered n cs) = (ofClause? cs).map (mapNumbers n) := by
  induction cs with
  | nil => rfl
  | cons c cs ih =>
    by_cases hc : c = mark
    · subst hc
      have hcut := cut?_numbered n (mark :: cs)
      have htext : numbered n (mark :: cs) =
          mark :: (Decimal.digits n ++ [mark] ++ numbered (n + 1) cs) := by
        rw [numbered_mark, placeholder, List.cons_append, List.cons_append]
      rw [htext] at hcut ⊢
      rw [ofClause?, ofClause?, not_isBlank_mark]
      exact hcut
    · have hcut := cut?_numbered n (c :: cs)
      rw [numbered_cons hc] at hcut ⊢
      rw [ofClause?, ofClause?, ih, hcut]
      split
      · cases ofClause? cs <;> rfl
      · rfl

end Cut

section Covers

def IsOperator (operator : List Char) : Prop :=
  operator ∈ signs ∨ operator.map Text.foldCase ∈ operatorWords

theorem IsOperator.mark_not_mem {operator : List Char} (h : IsOperator operator) :
    mark ∉ operator := by
  rcases h with hsign | hword
  · exact mark_not_mem_signs operator hsign
  · exact not_mem_of_map_foldCase foldCase_mark (mark_not_mem_operatorWords _ hword) rfl

/-- The clause is the operands and the operator between them, apart from blanks. -/
def Covers (c : Comparison) (clause : List Char) : Prop :=
  IsOperator c.operator ∧ ∃ lead before after trail,
    Text.Blank lead ∧ Text.Blank before ∧ Text.Blank after ∧ Text.Blank trail ∧
      clause = lead ++ (c.left ++ (before ++ (c.operator ++ (after ++ (c.right ++ trail)))))

theorem exists_of_right? {blanks : Nat} {right : List Char}
    (hright : right? blanks cs = some right) :
    ∃ a b, Text.Blank a ∧ Text.Blank b ∧ cs = a ++ (right ++ b) := by
  by_cases hblank : Text.Blank cs
  · rw [right?_of_blank hblank] at hright
    split at hright
    · obtain rfl := Option.some.inj hright
      refine ⟨cs.take (cs.length - 1), [], ?_, Text.blank_nil, ?_⟩
      · intro c hc
        exact hblank c (List.mem_of_mem_take hc)
      · rw [List.append_nil, List.take_append_drop]
    · cases hright
  · obtain ⟨a, ha, hcs⟩ := Text.exists_append_trimStart cs
    have hne : Text.trimStart cs ≠ [] := fun hnil => hblank (Text.trimStart_eq_nil_iff.mp hnil)
    rw [hcs, right?_blank_append ha (Text.starts_trimStart cs) hne] at hright
    split at hright
    · obtain rfl := Option.some.inj hright
      obtain ⟨b, hb, htrim⟩ := Text.exists_trimEnd_append (Text.trimStart cs)
      exact ⟨a, b, ha, hb, by rw [← htrim, ← hcs]⟩
    · cases hright

/-- An operator that is found has blanks around it, and the right operand reaches to the blanks at
the end. -/
theorem exists_of_operatorAt? {operator right : List Char}
    (hfound : operatorAt? cs = some (operator, right)) :
    IsOperator operator ∧ ∃ before after trail, Text.Blank before ∧ Text.Blank after ∧
      Text.Blank trail ∧ cs = before ++ (operator ++ (after ++ (right ++ trail))) := by
  obtain ⟨before, hbefore, hcs⟩ := Text.exists_append_trimStart cs
  suffices hbody : IsOperator operator ∧ ∃ rest, Text.trimStart cs = operator ++ rest ∧
      ∃ blanks, right? blanks rest = some right by
    obtain ⟨hoperator, rest, hrest, blanks, hright⟩ := hbody
    obtain ⟨after, trail, hafter, htrail, rfl⟩ := exists_of_right? hright
    exact ⟨hoperator, before, after, trail, hbefore, hafter, htrail, by rw [← hrest, ← hcs]⟩
  unfold operatorAt? at hfound
  simp only at hfound
  cases hsign : signAt? (Text.trimStart cs) with
  | some found =>
    rw [hsign] at hfound
    obtain rfl : found = (operator, right) := Option.some.inj hfound
    obtain ⟨sign, hmem, hat⟩ := List.exists_of_findSome?_eq_some hsign
    obtain ⟨right', hbind, heq⟩ := Option.map_eq_some_iff.mp hat
    obtain ⟨rest, hdrop, hright⟩ := Option.bind_eq_some_iff.mp hbind
    obtain ⟨rfl, rfl⟩ := Prod.mk.inj heq
    exact ⟨Or.inl hmem, rest, Text.dropPrefix?_eq_some_iff.mp hdrop, 0, hright⟩
  | none =>
    rw [hsign] at hfound
    replace hfound : (if (Text.trimStart cs).length < cs.length then wordAt? (Text.trimStart cs)
      else none) = some (operator, right) := hfound
    split at hfound
    · obtain ⟨word, hmem, hat⟩ := List.exists_of_findSome?_eq_some hfound
      obtain ⟨right', hbind, heq⟩ := Option.map_eq_some_iff.mp hat
      obtain ⟨rest, hdrop, hright⟩ := Option.bind_eq_some_iff.mp hbind
      obtain ⟨w, hw, hword⟩ := dropWord?_eq_some_iff.mp hdrop
      obtain ⟨hoperator, rfl⟩ := Prod.mk.inj heq
      have htake : w = operator := by
        rw [← hoperator, hw, ← hword, List.length_map, List.take_left]
      subst htake
      exact ⟨Or.inr (hword ▸ hmem), rest, hw, 1, hright⟩
    · cases hfound

/-- The cut begins its left operand where the text begins. -/
theorem exists_of_cut? {c : Comparison} (hcut : cut? cs = some c) :
    IsOperator c.operator ∧ ∃ before after trail, Text.Blank before ∧ Text.Blank after ∧
      Text.Blank trail ∧
      cs = c.left ++ (before ++ (c.operator ++ (after ++ (c.right ++ trail)))) := by
  induction cs generalizing c with
  | nil => cases hcut
  | cons d cs ih =>
    rw [cut?] at hcut
    cases hfound : operatorAt? cs with
    | some found =>
      rw [hfound] at hcut
      obtain rfl := Option.some.inj hcut
      obtain ⟨hoperator, before, after, trail, hbefore, hafter, htrail, hcs⟩ :=
        exists_of_operatorAt? hfound
      exact ⟨hoperator, before, after, trail, hbefore, hafter, htrail, congrArg (d :: ·) hcs⟩
    | none =>
      rw [hfound] at hcut
      obtain ⟨found, hrest, rfl⟩ := Option.map_eq_some_iff.mp hcut
      obtain ⟨hoperator, before, after, trail, hbefore, hafter, htrail, hcs⟩ := ih hrest
      exact ⟨hoperator, before, after, trail, hbefore, hafter, htrail, congrArg (d :: ·) hcs⟩

theorem covers_of_cut? {c : Comparison} (hcut : cut? cs = some c) : c.Covers cs := by
  obtain ⟨hoperator, before, after, trail, hbefore, hafter, htrail, hcs⟩ := exists_of_cut? hcut
  exact ⟨hoperator, [], before, after, trail, Text.blank_nil, hbefore, hafter, htrail, hcs⟩

/-- Nothing of a clause but blanks is missing from its comparison. -/
theorem covers_of_ofClause? {c : Comparison} (hc : ofClause? cs = some c) : c.Covers cs := by
  induction cs generalizing c with
  | nil => cases hc
  | cons d cs ih =>
    rw [ofClause?] at hc
    split at hc
    · next hblank =>
      cases hrest : ofClause? cs with
      | some found =>
        rw [hrest] at hc
        obtain rfl : found = c := Option.some.inj hc
        obtain ⟨hoperator, lead, before, after, trail, hlead, hbefore, hafter, htrail, hcs⟩ :=
          ih hrest
        refine ⟨hoperator, d :: lead, before, after, trail, ?_, hbefore, hafter, htrail, ?_⟩
        · exact List.forall_mem_cons.mpr ⟨hblank, hlead⟩
        · rw [hcs]
          rfl
      | none =>
        rw [hrest] at hc
        exact covers_of_cut? hc
    · exact covers_of_cut? hc

end Covers

end FlowGraph.Comparison
