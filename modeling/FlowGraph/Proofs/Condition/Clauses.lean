import FlowGraph.Proofs.Condition.Cutting

/-!
Conditions of clauses. A clause that is cut into pieces has a condition that depends on
its pieces alone: spans keep together and come back to the operand they stood in.
-/

namespace FlowGraph

namespace Template

open Masked

variable {ps qs : List Piece} {cs : List Char}

@[simp] theorem shape_append (ps qs : List Piece) : shape (ps ++ qs) = shape ps ++ shape qs :=
  List.map_append

@[simp] theorem shape_map_char (cs : List Char) : shape (cs.map .char) = cs := by
  simp [shape, Piece.face, Function.comp_def]

theorem unmarked_append : Unmarked (ps ++ qs) ↔ Unmarked ps ∧ Unmarked qs := by
  simp [Unmarked]

/-- To cut the outside view is to cut between pieces. -/
theorem exists_of_shape_eq_append {a b : List Char} (hps : shape ps = a ++ b) :
    ∃ l r, ps = l ++ r ∧ shape l = a ∧ shape r = b :=
  List.map_eq_append_iff.mp hps

/-- Where no face is a mark there are characters only. -/
theorem eq_map_char (hps : shape ps = cs) (hcs : mark ∉ cs) : ps = cs.map .char := by
  induction ps generalizing cs with
  | nil =>
    subst hps
    rfl
  | cons p ps ih =>
    subst hps
    cases p with
    | char c => exact congrArg (.char c :: ·) (ih rfl fun hmem => hcs (List.mem_cons_of_mem _ hmem))
    | span body => exact absurd List.mem_cons_self hcs

/-- From outside there are as many marks as there are spans. -/
theorem count_mark_shape (hmarks : Unmarked ps) :
    (shape ps).count mark = (spanTexts ps).length := by
  induction ps with
  | nil => rfl
  | cons p ps ih =>
    have hrest := ih fun hmem => hmarks (List.mem_cons_of_mem _ hmem)
    cases p with
    | char c =>
      have hc : c ≠ mark := by
        rintro rfl
        exact hmarks List.mem_cons_self
      rw [shape_char_cons, List.count_cons_of_ne hc, hrest]
      rfl
    | span body =>
      rw [shape_span_cons, List.count_cons_self, hrest]
      rfl

/-- Neither a dollar sign with its brace nor a mark is a blank. -/
theorem starts_source_iff : Text.Starts (source ps) ↔ Text.Starts (shape ps) := by
  cases ps with
  | nil => exact Iff.rfl
  | cons p ps =>
    cases p with
    | char c => exact Iff.rfl
    | span body =>
      have hsource : Text.Starts (source (.span body :: ps)) := fun c hc => by
        obtain rfl : '$' = c := Option.some.inj hc
        decide
      have hshape : Text.Starts (shape (.span body :: ps)) := fun c hc => by
        obtain rfl : mark = c := Option.some.inj hc
        decide
      exact iff_of_true hsource hshape

theorem ends_source_iff : Text.Ends (source ps) ↔ Text.Ends (shape ps) := by
  rcases List.eq_nil_or_concat ps with rfl | ⟨front, p, rfl⟩
  · exact Iff.rfl
  · rw [List.concat_eq_append, source_append, shape_append]
    cases p with
    | char c =>
      have hne : source [.char c] ≠ [] := List.cons_ne_nil c []
      have hne' : shape [.char c] ≠ [] := List.cons_ne_nil c []
      rw [Text.ends_append_iff hne, Text.ends_append_iff hne']
      exact Iff.rfl
    | span body =>
      have hsource : Text.Ends (source front ++ source [.span body]) := fun c hc => by
        simp only [source_cons, source_nil, List.append_nil, Piece.source, ← List.append_assoc,
          List.getLast?_concat] at hc
        obtain rfl : '}' = c := Option.some.inj hc
        decide
      have hshape : Text.Ends (shape front ++ [mark]) := fun c hc => by
        rw [List.getLast?_concat] at hc
        obtain rfl : mark = c := Option.some.inj hc
        decide
      exact iff_of_true hsource hshape

/-- Blanks that stand outside the spans are trimmed off, whatever the spans look like. -/
theorem exists_trimmed (ps : List Piece) :
    ∃ lead middle trail, ps = lead ++ (middle ++ trail) ∧ spanTexts lead = [] ∧
      spanTexts trail = [] ∧ shape middle = Text.trim (shape ps) ∧
      source middle = Text.trim (source ps) := by
  obtain ⟨a, b, ha, hb, hshape, hstarts, hends⟩ := Text.exists_between (shape ps)
  rw [List.append_assoc] at hshape
  obtain ⟨lead, rest, rfl, hlead, hrest⟩ := exists_of_shape_eq_append hshape
  obtain ⟨middle, trail, rfl, hmiddle, htrail⟩ := exists_of_shape_eq_append hrest
  have hleadChars : lead = a.map .char := eq_map_char hlead (Comparison.not_mem_of_blank ha)
  have htrailChars : trail = b.map .char := eq_map_char htrail (Comparison.not_mem_of_blank hb)
  refine ⟨lead, middle, trail, rfl, ?_, ?_, hmiddle, ?_⟩
  · rw [hleadChars, spanTexts_map_char]
  · rw [htrailChars, spanTexts_map_char]
  · rw [← hmiddle] at hstarts hends
    rw [source_append, source_append, hleadChars, htrailChars, source_map_char, source_map_char,
      ← List.append_assoc]
    exact (Text.trim_of_between ha hb (starts_source_iff.mpr hstarts)
      (ends_source_iff.mpr hends)).symm

theorem exists_trimmed_pieces (hcut : CutInto (source ps) ps) (hmarks : Unmarked ps) :
    ∃ qs, CutInto (source qs) qs ∧ Unmarked qs ∧ spanTexts qs = spanTexts ps ∧
      shape qs = Text.trim (shape ps) ∧ source qs = Text.trim (source ps) := by
  obtain ⟨lead, middle, trail, rfl, hlead, htrail, hshape, hsource⟩ := exists_trimmed ps
  refine ⟨middle, hcut.of_append.2.of_append.1, ?_, ?_, hshape, hsource⟩
  · exact (unmarked_append.mp (unmarked_append.mp hmarks).2).1
  · simp [spanTexts_append, hlead, htrail]

end Template

namespace Condition

open Template Masked

variable {ps l r : List Piece} {spans : List (List Char)}

def Operands (ps l r : List Piece) : Prop :=
  ∃ lead gap trail, ps = lead ++ (l ++ (gap ++ (r ++ trail))) ∧ spanTexts lead = [] ∧
    spanTexts gap = [] ∧ spanTexts trail = []

theorem Operands.spanTexts_eq (h : Operands ps l r) :
    spanTexts ps = spanTexts l ++ spanTexts r := by
  obtain ⟨lead, gap, trail, rfl, hlead, hgap, htrail⟩ := h
  simp [spanTexts_append, hlead, hgap, htrail]

theorem Operands.unmarked (h : Operands ps l r) (hps : Unmarked ps) : Unmarked l ∧ Unmarked r := by
  obtain ⟨lead, gap, trail, rfl, -⟩ := h
  simp only [unmarked_append] at hps
  exact ⟨hps.2.1, hps.2.2.2.1⟩

/-- A clause is cut between pieces, not within one. -/
theorem exists_operands {c : Comparison} (hc : c.Covers (shape ps)) :
    ∃ l r, Operands ps l r ∧ shape l = c.left ∧ shape r = c.right := by
  obtain ⟨hoperator, lead, before, after, trail, hlead, hbefore, hafter, htrail, hshape⟩ := hc
  obtain ⟨plead, rest, rfl, hplead, hrest⟩ := exists_of_shape_eq_append hshape
  obtain ⟨l, rest, rfl, hl, hrest⟩ := exists_of_shape_eq_append hrest
  have hassoc : before ++ (c.operator ++ (after ++ (c.right ++ trail))) =
      (before ++ c.operator ++ after) ++ (c.right ++ trail) := by
    simp
  rw [hassoc] at hrest
  obtain ⟨gap, rest, rfl, hgap, hrest⟩ := exists_of_shape_eq_append hrest
  obtain ⟨r, ptrail, rfl, hr, hptrail⟩ := exists_of_shape_eq_append hrest
  have hspanless {qs : List Piece} {cs : List Char} (hqs : shape qs = cs) (hcs : mark ∉ cs) :
      spanTexts qs = [] := by
    rw [eq_map_char hqs hcs, spanTexts_map_char]
  have hgapMarks : mark ∉ before ++ c.operator ++ after := by
    simp [Comparison.not_mem_of_blank hbefore, Comparison.not_mem_of_blank hafter,
      hoperator.mark_not_mem]
  refine ⟨l, r, ⟨plead, gap, ptrail, rfl, ?_, ?_, ?_⟩, hl, hr⟩
  · exact hspanless hplead (Comparison.not_mem_of_blank hlead)
  · exact hspanless hgap hgapMarks
  · exact hspanless hptrail (Comparison.not_mem_of_blank htrail)

theorem exists_operands_of_some {c : Comparison} (hc : Comparison.ofClause? (shape ps) = some c) :
    ∃ l r, Operands ps l r ∧
      Comparison.ofClause? (shape ps) = some ⟨shape l, c.operator, shape r⟩ := by
  obtain ⟨l, r, hps, hl, hr⟩ := exists_operands (Comparison.covers_of_ofClause? hc)
  exact ⟨l, r, hps, by rw [hc, hl, hr]⟩

section Numbers

variable (hmarks : Unmarked ps) (before after : List (List Char))
  (hspans : spans = before ++ (spanTexts ps ++ after))

include hmarks hspans

theorem ofClause_of_none (hnone : Comparison.ofClause? (shape ps) = none) :
    ofClause spans (numbered before.length (shape ps)) =
      .holds (String.ofList (Text.trim (source ps))) := by
  unfold ofClause
  rw [Comparison.ofClause?_numbered, hnone, Option.map_none]
  simp only [restore_numbered hmarks before after hspans]

/-- A clause with an operator compares its operands, with their own spans put back into them. -/
theorem ofClause_of_some {operator : List Char} (hps : Operands ps l r)
    (hsome : Comparison.ofClause? (shape ps) = some ⟨shape l, operator, shape r⟩) :
    ofClause spans (numbered before.length (shape ps)) =
      .ofOperands (.str (String.ofList (source l))) (.ofText (String.ofList operator))
        (.ofChars (Text.trim (source r))) := by
  obtain ⟨hl, hr⟩ := hps.unmarked hmarks
  have hleft : spans = before ++ (spanTexts l ++ (spanTexts r ++ after)) := by
    rw [hspans, hps.spanTexts_eq, List.append_assoc]
  have hright : spans = (before ++ spanTexts l) ++ (spanTexts r ++ after) := by
    rw [hleft, List.append_assoc]
  have hcount : before.length + (shape l).count mark = (before ++ spanTexts l).length := by
    rw [count_mark_shape hl, List.length_append]
  unfold ofClause
  rw [Comparison.ofClause?_numbered, hsome, Option.map_some]
  simp only [Comparison.mapNumbers, hcount, restore_numbered hl before _ hleft,
    restore_numbered hr _ after hright]

end Numbers

section Alone

variable (hcut : CutInto (source ps) ps) (hmarks : Unmarked ps)

include hcut hmarks

/-- A text by itself is a clause whose spans are numbered from zero. -/
theorem ofText_eq_ofClause :
    ofText (String.ofList (source ps)) =
      ofClause ([] ++ (spanTexts ps ++ [])) (numbered 0 (shape ps)) := by
  unfold ofText
  rw [String.toList_ofList, Masked.ofChars, ofCharsFrom_eq hcut hmarks, List.nil_append,
    List.append_nil]

theorem ofText_of_none (hnone : Comparison.ofClause? (shape ps) = none) :
    ofText (String.ofList (source ps)) = .holds (String.ofList (Text.trim (source ps))) := by
  rw [ofText_eq_ofClause hcut hmarks]
  exact ofClause_of_none hmarks [] [] rfl hnone

theorem ofText_of_some {operator : List Char} (hps : Operands ps l r)
    (hsome : Comparison.ofClause? (shape ps) = some ⟨shape l, operator, shape r⟩) :
    ofText (String.ofList (source ps)) =
      .ofOperands (.str (String.ofList (source l))) (.ofText (String.ofList operator))
        (.ofChars (Text.trim (source r))) := by
  rw [ofText_eq_ofClause hcut hmarks]
  exact ofClause_of_some hmarks [] [] rfl hps hsome

/-- A clause has the same condition by itself as among others. -/
theorem ofClause_eq_ofText (before after : List (List Char))
    (hspans : spans = before ++ (spanTexts ps ++ after)) :
    ofClause spans (numbered before.length (shape ps)) = ofText (String.ofList (source ps)) := by
  cases hc : Comparison.ofClause? (shape ps) with
  | none => rw [ofClause_of_none hmarks before after hspans hc, ofText_of_none hcut hmarks hc]
  | some c =>
    obtain ⟨l, r, hps, hsome⟩ := exists_operands_of_some hc
    rw [ofClause_of_some hmarks before after hspans hps hsome, ofText_of_some hcut hmarks hps hsome]

end Alone

end Condition

end FlowGraph
