import FlowGraph.Proofs.Condition.Clauses

/-!
Clauses of a text. A text is split where a separator stands twice outside of its spans,
and the condition of each part is the one that the part has as a text of its own.
-/

namespace FlowGraph

section Pairs

variable {α : Type} {x y : α} {l part rest : List α}

theorem infix_pair_cons_iff : [x, x] <:+: y :: l ↔ y = x ∧ l.head? = some x ∨ [x, x] <:+: l := by
  rw [List.infix_cons_iff, List.cons_prefix_cons, List.head?_eq_some_iff]
  constructor
  · rintro (⟨rfl, rest, rfl⟩ | hinfix)
    · exact Or.inl ⟨rfl, rest, rfl⟩
    · exact Or.inr hinfix
  · rintro (⟨rfl, rest, rfl⟩ | hinfix)
    · exact Or.inl ⟨rfl, rest, rfl⟩
    · exact Or.inr hinfix

/-- A pair is not in what has no element of it. -/
theorem infix_pair_append_iff (hpart : x ∉ part) : [x, x] <:+: part ++ l ↔ [x, x] <:+: l := by
  induction part with
  | nil => rfl
  | cons y part ih =>
    rw [List.mem_cons, not_or] at hpart
    rw [List.cons_append, infix_pair_cons_iff, ih hpart.2]
    constructor
    · rintro (⟨heq, -⟩ | hinfix)
      · exact absurd heq.symm hpart.1
      · exact hinfix
    · exact Or.inr

/-- Something else parts the pairs. -/
theorem infix_pair_append_cons_iff {a b : List α} (hy : y ≠ x) :
    [x, x] <:+: a ++ y :: b ↔ [x, x] <:+: a ∨ [x, x] <:+: b := by
  induction a with
  | nil =>
    rw [List.nil_append, infix_pair_cons_iff]
    simp [hy]
  | cons z a ih =>
    rw [List.cons_append, infix_pair_cons_iff, infix_pair_cons_iff, ih, or_assoc]
    cases a with
    | nil => simp [hy]
    | cons w a => rfl

/-- The list is cut at the first pair, and what follows the pair is cut again. -/
inductive CutAtPairs (x : α) : List α → List (List α) → Prop
  | last {l : List α} : ¬ [x, x] <:+: l → CutAtPairs x l [l]
  | cut {part rest : List α} {parts : List (List α)} : ¬ [x, x] <:+: part ++ [x] →
      CutAtPairs x rest parts → CutAtPairs x (part ++ x :: x :: rest) (part :: parts)

/-- One more element before a list that is cut belongs to its first part, unless it makes
a pair with what follows. -/
theorem CutAtPairs.cons {parts : List (List α)} (hl : CutAtPairs x l parts)
    (hy : ¬ (y = x ∧ l.head? = some x)) :
    ∃ part rest, parts = part :: rest ∧ CutAtPairs x (y :: l) ((y :: part) :: rest) := by
  cases hl with
  | last hnone =>
    refine ⟨l, [], rfl, .last ?_⟩
    rw [infix_pair_cons_iff]
    exact not_or.mpr ⟨hy, hnone⟩
  | @cut part rest parts hpart hrest =>
    have hlonger : ¬ [x, x] <:+: (y :: part) ++ [x] := by
      rw [List.cons_append, infix_pair_cons_iff, not_or]
      refine ⟨?_, hpart⟩
      rintro ⟨heq, hhead⟩
      apply hy
      cases part with
      | nil => exact ⟨heq, rfl⟩
      | cons z part => exact ⟨heq, hhead⟩
    exact ⟨part, parts, rfl, CutAtPairs.cut hlonger hrest⟩

/-- Every list can be cut so. -/
theorem exists_cutAtPairs (x : α) (l : List α) : ∃ parts, CutAtPairs x l parts := by
  induction hn : l.length using Nat.strong_induction_on generalizing l with
  | _ n ih =>
    cases l with
    | nil => exact ⟨[[]], .last (by simp)⟩
    | cons y l =>
      by_cases hpair : y = x ∧ l.head? = some x
      · obtain ⟨rfl, hhead⟩ := hpair
        obtain ⟨rest, rfl⟩ := List.head?_eq_some_iff.mp hhead
        simp only [List.length_cons] at hn
        obtain ⟨parts, hparts⟩ := ih rest.length (by omega) rest rfl
        have hsingle : ¬ [y, y] <:+: [] ++ [y] := fun hinfix => by
          have hlength := hinfix.length_le
          simp at hlength
        exact ⟨[] :: parts, .cut hsingle hparts⟩
      · simp only [List.length_cons] at hn
        obtain ⟨parts, hparts⟩ := ih l.length (by omega) l rfl
        obtain ⟨part, rest, -, hcons⟩ := hparts.cons hpair
        exact ⟨_, hcons⟩

end Pairs

namespace Conditions

open Template Masked

variable {c : Char} {cs part rest : List Char} {ps : List Piece}

section Split

theorem splitAtPair_cons {a : Char} (ha : ¬ (a = c ∧ cs.head? = some c))
    (hrest : ∃ parts, splitAtPair c cs = part :: parts) :
    splitAtPair c (a :: cs) = (a :: part) :: (splitAtPair c cs).tail := by
  obtain ⟨parts, hparts⟩ := hrest
  cases cs with
  | nil =>
    obtain ⟨rfl, rfl⟩ := List.cons.inj hparts
    rfl
  | cons b cs =>
    have hb : ¬ (a = c ∧ b = c) := by simpa using ha
    rw [splitAtPair, if_neg hb, hparts]
    rfl

theorem splitAtPair_unpaired (hcs : ¬ [c, c] <:+: cs) : splitAtPair c cs = [cs] := by
  induction cs with
  | nil => rfl
  | cons a cs ih =>
    rw [infix_pair_cons_iff, not_or] at hcs
    have hrest := ih hcs.2
    rw [splitAtPair_cons hcs.1 ⟨[], hrest⟩, hrest]
    rfl

theorem splitAtPair_append (hpart : ¬ [c, c] <:+: part ++ [c]) (rest : List Char) :
    splitAtPair c (part ++ c :: c :: rest) = part :: splitAtPair c rest := by
  induction part with
  | nil => simp [splitAtPair]
  | cons a part ih =>
    rw [List.cons_append, infix_pair_cons_iff, not_or] at hpart
    have hfirst : ¬ (a = c ∧ (part ++ c :: c :: rest).head? = some c) := by
      rintro ⟨heq, hhead⟩
      apply hpart.1
      cases part with
      | nil => exact ⟨heq, rfl⟩
      | cons b part => exact ⟨heq, hhead⟩
    have hrest := ih hpart.2
    rw [List.cons_append, splitAtPair_cons hfirst ⟨_, hrest⟩, hrest]
    rfl

theorem infix_pair_numbered_iff (hc : c ≠ mark) (hdigit : Decimal.isDigit c = false) (n : Nat)
    (cs : List Char) : [c, c] <:+: numbered n cs ↔ [c, c] <:+: cs := by
  induction cs generalizing n with
  | nil => rfl
  | cons a cs ih =>
    by_cases ha : a = mark
    · subst ha
      have hplaceholder : c ∉ placeholder n := by
        rw [placeholder, List.cons_append, List.mem_cons, List.mem_append, List.mem_singleton]
        rintro (heq | hmem | heq)
        · exact hc heq
        · rw [Decimal.isDigit_of_mem_digits hmem] at hdigit
          cases hdigit
        · exact hc heq
      rw [numbered_mark, infix_pair_append_iff hplaceholder, ih, infix_pair_cons_iff]
      constructor
      · exact Or.inr
      · rintro (⟨heq, -⟩ | hinfix)
        · exact absurd heq.symm hc
        · exact hinfix
    · rw [numbered_cons ha, infix_pair_cons_iff, infix_pair_cons_iff, ih,
        Comparison.head?_numbered]

theorem face_eq_iff (hc : c ≠ mark) {p : Piece} : p.face = c ↔ p = .char c := by
  cases p with
  | char d => simp [Piece.face]
  | span body => simp [Piece.face, hc.symm]

theorem mem_shape_iff {c : Char} (hc : c ≠ mark) : c ∈ shape ps ↔ .char c ∈ ps := by
  unfold shape
  rw [List.mem_map]
  constructor
  · rintro ⟨p, hp, hface⟩
    rw [face_eq_iff hc] at hface
    rwa [← hface]
  · intro hmem
    exact ⟨_, hmem, rfl⟩

theorem infix_pair_shape_iff (hc : c ≠ mark) (ps : List Piece) :
    [c, c] <:+: shape ps ↔ [Piece.char c, Piece.char c] <:+: ps := by
  induction ps with
  | nil => simp [shape]
  | cons p ps ih =>
    have hhead : (shape ps).head? = some c ↔ ps.head? = some (.char c) := by
      cases ps with
      | nil => simp [shape]
      | cons q ps =>
        have hq : (shape (q :: ps)).head? = some q.face := rfl
        rw [hq, List.head?_cons, Option.some.injEq, Option.some.injEq, face_eq_iff hc]
    have hshape : shape (p :: ps) = p.face :: shape ps := rfl
    rw [hshape, infix_pair_cons_iff, infix_pair_cons_iff, ih, face_eq_iff hc, hhead]

end Split

section Parts

variable {spans : List (List Char)} {parts : List (List Piece)}

theorem eq_nil_of_source_eq_nil (hps : source ps = []) : ps = [] := by
  cases ps with
  | nil => rfl
  | cons p ps => cases p <;> simp [Piece.source] at hps

/-- A part is blank by itself if it is blank among the others, and otherwise it has the
same condition. -/
theorem ofClause_part (hcut : CutInto (source ps) ps) (hmarks : Unmarked ps)
    (before after : List (List Char)) (hspans : spans = before ++ (spanTexts ps ++ after)) :
    (Text.trim (numbered before.length (shape ps)) = [] ↔ Text.trim (source ps) = []) ∧
      Condition.ofClause spans (Text.trim (numbered before.length (shape ps))) =
        Condition.ofText (String.ofList (Text.trim (source ps))) := by
  obtain ⟨qs, hqs, hqsMarks, htexts, hshape, hsource⟩ := exists_trimmed_pieces hcut hmarks
  rw [← htexts] at hspans
  rw [Comparison.trim_numbered, ← hshape, ← hsource, Comparison.numbered_eq_nil_iff]
  constructor
  · constructor
    · intro hnil
      rw [List.map_eq_nil_iff.mp hnil, source_nil]
    · intro hnil
      rw [eq_nil_of_source_eq_nil hnil]
      rfl
  · exact Condition.ofClause_eq_ofText hqs hqsMarks before after hspans

/-- Going over all parts that are not blank, one by one. -/
theorem map_filter_cons {α β γ : Type} {a : List α} {b : List β} {as : List (List α)}
    {bs : List (List β)} {f : List α → γ} {g : List β → γ} [DecidableEq α] [DecidableEq β]
    (hblank : a = [] ↔ b = []) (hfirst : f a = g b)
    (hrest : (as.filter (· ≠ [])).map f = (bs.filter (· ≠ [])).map g) :
    ((a :: as).filter (· ≠ [])).map f = ((b :: bs).filter (· ≠ [])).map g := by
  by_cases ha : a = []
  · have hb := hblank.mp ha
    simpa [ha, hb] using hrest
  · have hb : b ≠ [] := fun hnil => ha (hblank.mpr hnil)
    simpa [ha, hb, hfirst] using hrest

/-- The clauses of a masked text have the conditions of the parts between the pairs. -/
theorem map_ofClause_splitAtPair (hparts : CutAtPairs (.char c) ps parts) (hc : c ≠ mark)
    (hdigit : Decimal.isDigit c = false) (hcut : CutInto (source ps) ps) (hmarks : Unmarked ps)
    (before after : List (List Char)) (hspans : spans = before ++ (spanTexts ps ++ after)) :
    (((splitAtPair c (numbered before.length (shape ps))).map Text.trim).filter (· ≠ [])).map
        (Condition.ofClause spans) =
      ((parts.map fun part => Text.trim (source part)).filter (· ≠ [])).map
        fun clause => Condition.ofText (String.ofList clause) := by
  have hpair (n : Nat) (qs : List Piece) :
      [c, c] <:+: numbered n (shape qs) ↔ [Piece.char c, Piece.char c] <:+: qs := by
    rw [infix_pair_numbered_iff hc hdigit, infix_pair_shape_iff hc]
  induction hparts generalizing before with
  | @last qs hnone =>
    obtain ⟨hblank, hclause⟩ := ofClause_part hcut hmarks before after hspans
    rw [splitAtPair_unpaired fun hinfix => hnone ((hpair _ _).mp hinfix)]
    exact map_filter_cons hblank hclause rfl
  | @cut part rest parts hpart hrest ih =>
    have hsep : part ++ .char c :: .char c :: rest = part ++ ([.char c, .char c] ++ rest) := rfl
    rw [hsep] at hcut hmarks hspans ⊢
    have htexts : spanTexts (part ++ ([.char c, .char c] ++ rest)) =
        spanTexts part ++ spanTexts rest := by
      simp [spanTexts_append, spanTexts]
    have hpartMarks : Unmarked part := (unmarked_append.mp hmarks).1
    have hrestMarks : Unmarked rest := (unmarked_append.mp (unmarked_append.mp hmarks).2).2
    -- The parts after this one are numbered from its last span on.
    have hnumbered : numbered before.length (shape (part ++ ([.char c, .char c] ++ rest))) =
        numbered before.length (shape part) ++
          c :: c :: numbered (before ++ spanTexts part).length (shape rest) := by
      rw [shape_append, numbered_append, count_mark_shape hpartMarks, List.length_append]
      exact congrArg _ ((numbered_cons hc _ _).trans (congrArg _ (numbered_cons hc _ _)))
    have hfirst : ¬ [c, c] <:+: numbered before.length (shape part) ++ [c] := by
      have hconcat : numbered before.length (shape (part ++ [.char c])) =
          numbered before.length (shape part) ++ [c] := by
        rw [shape_append, numbered_append]
        exact congrArg _ (numbered_cons hc _ _)
      rw [← hconcat, hpair]
      exact hpart
    have hspansPart : spans = before ++ (spanTexts part ++ (spanTexts rest ++ after)) := by
      rw [hspans, htexts, List.append_assoc]
    have hspansRest : spans = (before ++ spanTexts part) ++ (spanTexts rest ++ after) := by
      rw [hspansPart, List.append_assoc]
    obtain ⟨hblank, hclause⟩ := ofClause_part hcut.of_append.1 hpartMarks before _ hspansPart
    have hothers := ih hcut.of_append.2.of_append.2 hrestMarks _ hspansRest
    rw [hnumbered, splitAtPair_append hfirst]
    exact map_filter_cons hblank hclause hothers

/-- What separates the clauses, and how they are joined: bars if there are two of them
somewhere outside the spans, and ampersands otherwise. -/
inductive Separates (ps : List Piece) : Char → Combinator → Prop
  | bars : [.char '|', .char '|'] <:+: ps → Separates ps '|' .any
  | ampersands : ¬ [.char '|', .char '|'] <:+: ps → Separates ps '&' .all

theorem exists_separates (ps : List Piece) : ∃ sep combinator, Separates ps sep combinator := by
  by_cases hbars : [.char '|', .char '|'] <:+: ps
  · exact ⟨_, _, .bars hbars⟩
  · exact ⟨_, _, .ampersands hbars⟩

theorem unmarked_of_cutInto (hcut : CutInto cs ps) (hmark : mark ∉ cs) : Unmarked ps := by
  intro hmem
  apply hmark
  rw [← hcut.source_eq]
  exact List.mem_flatMap.mpr ⟨_, hmem, List.mem_singleton_self mark⟩

/-- The conditions of a text whose spans are closed are those of its parts. -/
theorem ofText_eq {t : String} {sep : Char} {combinator : Combinator} (hcut : CutInto t.toList ps)
    (hmark : mark ∉ t.toList) (hsep : Separates ps sep combinator)
    (hparts : CutAtPairs (.char sep) ps parts) :
    ofText t = ⟨((parts.map fun part => Text.trim (source part)).filter (· ≠ [])).map
      fun clause => Condition.ofText (String.ofList clause), combinator⟩ := by
  have hmarks := unmarked_of_cutInto hcut hmark
  have hmasked : Masked.ofChars t.toList = ⟨numbered 0 (shape ps), spanTexts ps⟩ :=
    ofCharsFrom_eq hcut hmarks 0
  have hspans : spanTexts ps = [] ++ (spanTexts ps ++ []) := by
    simp
  have hbars : Text.contains ['|', '|'] (numbered 0 (shape ps)) = true ↔
      [Piece.char '|', Piece.char '|'] <:+: ps := by
    rw [Text.contains_eq_true_iff, infix_pair_numbered_iff (by decide) (by decide),
      infix_pair_shape_iff (by decide)]
  unfold ofText
  rw [hmasked]
  cases hsep with
  | bars hpair =>
    have hlist :=
      map_ofClause_splitAtPair hparts (by decide) (by decide) hcut.self hmarks [] [] hspans
    simp only [hbars.mpr hpair, if_true]
    rw [← hlist]
    rfl
  | ampersands hpair =>
    have hlist :=
      map_ofClause_splitAtPair hparts (by decide) (by decide) hcut.self hmarks [] [] hspans
    have hnone : Text.contains ['|', '|'] (numbered 0 (shape ps)) = false :=
      Bool.eq_false_iff.mpr fun hcontains => hpair (hbars.mp hcontains)
    simp only [hnone, Bool.false_eq_true, if_false]
    rw [← hlist]
    rfl

end Parts

end Conditions

end FlowGraph
