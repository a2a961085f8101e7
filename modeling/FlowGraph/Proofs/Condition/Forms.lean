import FlowGraph.Proofs.Condition.Operators
import FlowGraph.Proofs.Condition.Splitting
import FlowGraph.Target.Parameters

/-!
Ways to write a comparison. A branch takes it as a text, as an item of a list or by the
fields of its settings. The text gives the same condition as the fields if it can be told
where its left operand ends.
-/

namespace FlowGraph

open Template Masked

section Names

variable {op : List Char} {x : Char}

theorem toNat_lt_of_toLower {c : Char} (hc : c.toLower.toNat < 128) : c.toNat < 128 := by
  by_contra hge
  have hsame : c.toLower = c := by
    unfold Char.toLower
    rw [dif_neg]
    rintro ⟨-, hle⟩
    have hnat : c.toNat ≤ 90 := hle
    omega
  rw [hsame] at hc
  exact hge hc

/-- What lower case does to the characters that an operator can have. -/
theorem toLower_ascii {c : Char} (hc : c.toNat < 128) :
    Text.foldCase c = c.toLower ∧ Text.isBlank c = Text.isBlank c.toLower ∧
      (c.toLower ∈ ['<', '>', '=', '!'] → c.toLower = c) := by
  have htable : ∀ n < 128, Text.foldCase (Char.ofNat n) = (Char.ofNat n).toLower ∧
      Text.isBlank (Char.ofNat n) = Text.isBlank (Char.ofNat n).toLower ∧
      ((Char.ofNat n).toLower ∈ ['<', '>', '=', '!'] → (Char.ofNat n).toLower = Char.ofNat n) := by
    decide +kernel
  have hrow := htable c.toNat hc
  rwa [Char.ofNat_toNat] at hrow

namespace Comparison

def Names (op : List Char) : Prop :=
  op.map Char.toLower ∈ signs ++ operatorWords

theorem Names.not_mem (hop : Names op) (hx : x.toLower = x)
    (hnames : ∀ name ∈ signs ++ operatorWords, x ∉ name) : x ∉ op := by
  intro hmem
  apply hnames _ hop
  rw [← hx]
  exact List.mem_map_of_mem hmem

theorem Names.toNat_lt (hop : Names op) {c : Char} (hc : c ∈ op) : c.toNat < 128 := by
  have hnames : ∀ name ∈ signs ++ operatorWords, name.all (·.toNat < 128) = true := by
    decide
  have hlower := List.all_eq_true.mp (hnames _ hop) _ (List.mem_map_of_mem hc)
  exact toNat_lt_of_toLower (of_decide_eq_true hlower)

/-- Lower case and case folding find the same names of operators. -/
theorem Names.isOperator (hop : Names op) : IsOperator op := by
  rcases List.mem_append.mp hop with hsign | hword
  · have hsigns : ∀ sign ∈ signs, sign ⊆ ['<', '>', '=', '!'] := by
      decide
    have hsame : op.map Char.toLower = op := by
      conv_rhs => rw [← List.map_id op]
      refine List.map_congr_left fun c hc => ?_
      exact (toLower_ascii (hop.toNat_lt hc)).2.2 (hsigns _ hsign (List.mem_map_of_mem hc))
    exact Or.inl (hsame ▸ hsign)
  · have hfold : op.map Text.foldCase = op.map Char.toLower :=
      List.map_congr_left fun c hc => (toLower_ascii (hop.toNat_lt hc)).1
    exact Or.inr (hfold ▸ hword)

theorem Names.bare (hop : Names op) : Text.Bare op := by
  have hnames : ∀ name ∈ signs ++ operatorWords, name ≠ [] ∧
      name.any Text.isBlank = false := by
    decide
  obtain ⟨hne, hblank⟩ := hnames _ hop
  have hsolid (c : Char) (hc : c ∈ op) : Text.isBlank c = false := by
    rw [(toLower_ascii (hop.toNat_lt hc)).2.1, ← Bool.not_eq_true]
    exact List.any_eq_false.mp hblank _ (List.mem_map_of_mem hc)
  refine ⟨fun hnil => hne (by rw [hnil, List.map_nil]), ?_, ?_⟩
  · exact fun c hc => hsolid c (List.mem_of_head? hc)
  · exact fun c hc => hsolid c (List.mem_of_getLast? hc)

end Comparison

/-- Every name of an operator stands for an operation. -/
theorem Operation.ofText_of_names {op : String} (hop : Comparison.Names op.toList) :
    ofName? (Text.lowerAscii op) = some (ofText op) := by
  have hnames : ∀ name ∈ Comparison.signs ++ Comparison.operatorWords,
      (ofName? (String.ofList name)).isSome = true := by
    decide +kernel
  obtain ⟨operation, hoperation⟩ := Option.isSome_iff_exists.mp (hnames _ hop)
  have hlower : ofName? (Text.lowerAscii op) = some operation := hoperation
  have hstrip : Text.strip op = op := by
    rw [Text.strip, hop.bare.trim_eq, String.ofList_toList]
  rw [ofText, hstrip, hlower]
  rfl

end Names

section Operands

/-- A text that can stand in a clause as an operand: its spans are closed, no blanks are
around it and nothing in it separates clauses. -/
structure FitsClause (text : String) : Prop where
  ne_empty : text ≠ ""
  strip_eq : Text.strip text = text
  unmarked : '\x01' ∉ text.toList
  closed : CutInto text.toList (pieces text.toList)
  no_bars : ¬ [.char '|', .char '|'] <:+: pieces text.toList
  no_ampersands : ¬ [.char '&', .char '&'] <:+: pieces text.toList

/-- Outside of its spans the text has no sign, and no operator word that a blank stands
before and that is at the end or has a blank after it. -/
structure OperatorFree (text : String) : Prop where
  no_less : Piece.char '<' ∉ pieces text.toList
  no_greater : Piece.char '>' ∉ pieces text.toList
  no_equal : Piece.char '=' ∉ pieces text.toList
  no_word : ∀ (before : List Piece) (blank : Char) (word : List Char) (after : List Piece),
    pieces text.toList = before ++ .char blank :: (word.map .char ++ after) →
    Text.isBlank blank = true → word.map Text.foldCase ∈ Comparison.operatorWords →
      after ≠ [] ∧ ∀ c rest, after = .char c :: rest → Text.isBlank c = false

variable {text left op right : String} {ps : List Piece}

/-- The division of a closed text into pieces is unique, so any one will do. -/
theorem FitsClause.of_cutInto (hcut : CutInto text.toList ps) (hne : text ≠ "")
    (hstrip : Text.strip text = text) (hmark : '\x01' ∉ text.toList)
    (hbars : ¬ [.char '|', .char '|'] <:+: ps) (hampersands : ¬ [.char '&', .char '&'] <:+: ps) :
    FitsClause text := by
  obtain rfl := hcut.pieces_eq
  exact ⟨hne, hstrip, hmark, hcut, hbars, hampersands⟩

theorem FitsClause.source_eq (h : FitsClause text) : source (pieces text.toList) = text.toList :=
  h.closed.source_eq

theorem FitsClause.bare (h : FitsClause text) : Text.Bare text.toList :=
  Text.bare_of_strip_eq h.strip_eq h.ne_empty

theorem FitsClause.bare_shape (h : FitsClause text) : Text.Bare (shape (pieces text.toList)) := by
  have hbare := h.bare
  rw [← h.source_eq] at hbare
  refine ⟨?_, starts_source_iff.mp hbare.starts, ends_source_iff.mp hbare.ends⟩
  intro hnil
  apply hbare.ne_nil
  rw [List.map_eq_nil_iff.mp hnil, source_nil]

/-- An operand without operators outside of its spans has none that a cut would find. -/
theorem OperatorFree.clear (h : OperatorFree text) :
    Comparison.Clear (shape (pieces text.toList)) := by
  refine ⟨⟨?_, ?_, ?_⟩, ?_⟩
  · exact fun hmem => h.no_less ((Conditions.mem_shape_iff (by decide)).mp hmem)
  · exact fun hmem => h.no_greater ((Conditions.mem_shape_iff (by decide)).mp hmem)
  · exact fun hmem => h.no_equal ((Conditions.mem_shape_iff (by decide)).mp hmem)
  · intro before blank word after hshape hblank hword
    obtain ⟨pbefore, prest, hps, -, hrest⟩ := exists_of_shape_eq_append hshape
    rw [← List.singleton_append] at hrest
    obtain ⟨pblank, prest, rfl, hpblank, hrest⟩ := exists_of_shape_eq_append hrest
    obtain ⟨pword, pafter, rfl, hpword, hpafter⟩ := exists_of_shape_eq_append hrest
    have hblankMark : mark ∉ [blank] := Comparison.not_mem_of_blank fun c hc => by
      rwa [List.mem_singleton.mp hc]
    have hwordMark : mark ∉ word := Comparison.not_mem_of_map_foldCase Comparison.foldCase_mark
      (Comparison.mark_not_mem_operatorWords _ hword) rfl
    rw [eq_map_char hpblank hblankMark, eq_map_char hpword hwordMark] at hps
    obtain ⟨hne, hstart⟩ := h.no_word pbefore blank word pafter hps hblank hword
    subst hpafter
    refine ⟨fun hnil => hne (List.map_eq_nil_iff.mp hnil), ?_⟩
    -- What follows the word is a character that is no blank, or a span.
    cases pafter with
    | nil => exact absurd rfl hne
    | cons p pafter =>
      intro c hc
      obtain rfl : p.face = c := Option.some.inj hc
      cases p with
      | char c => exact hstart c pafter rfl
      | span body => exact Comparison.not_isBlank_mark

def clausePieces (left op right : String) : List Piece :=
  pieces left.toList ++ .char ' ' :: (op.toList.map .char ++ .char ' ' :: pieces right.toList)

/-- The pieces make up the text with the operator between the operands. -/
theorem source_clausePieces (hl : FitsClause left) (hr : FitsClause right) :
    source (clausePieces left op right) = (left ++ " " ++ op ++ " " ++ right).toList := by
  simp [clausePieces, hl.source_eq, hr.source_eq, Piece.source]

theorem bare_source_clausePieces (hl : FitsClause left) (hr : FitsClause right) :
    Text.Bare (source (clausePieces left op right)) := by
  have hfirst : source (clausePieces left op right) =
      left.toList ++ ' ' :: (op.toList ++ ' ' :: right.toList) := by
    simp [clausePieces, hl.source_eq, hr.source_eq, Piece.source]
  have hlast : left.toList ++ ' ' :: (op.toList ++ ' ' :: right.toList) =
      (left.toList ++ ' ' :: (op.toList ++ [' '])) ++ right.toList := by
    simp
  rw [hfirst]
  refine ⟨by simp, hl.bare.starts.append hl.bare.ne_nil, ?_⟩
  rw [hlast]
  exact hr.bare.ends.append hr.bare.ne_nil

theorem shape_clausePieces :
    shape (clausePieces left op right) = shape (pieces left.toList) ++
      ' ' :: (op.toList ++ ' ' :: shape (pieces right.toList)) := by
  simp [clausePieces]

theorem cutInto_clausePieces (hl : FitsClause left) (hop : Comparison.Names op.toList)
    (hr : FitsClause right) :
    CutInto (source (clausePieces left op right)) (clausePieces left op right) := by
  have hdollar : '$' ∉ ' ' :: (op.toList ++ [' ']) := by
    simp [hop.not_mem (x := '$') (by decide) (by decide)]
  have hmiddle : CutInto (' ' :: (op.toList ++ [' '])) ((' ' :: (op.toList ++ [' '])).map .char) :=
    cutInto_map_char fun hopens => hdollar (hopens.subset (by simp))
  have hright := hmiddle.append hr.closed fun hmeets => by
    have hlast := hmeets.1
    rw [← List.cons_append, List.getLast?_concat] at hlast
    exact absurd (Option.some.inj hlast) (by decide)
  have hcut := hl.closed.append hright fun hmeets =>
    absurd (Option.some.inj hmeets.2) (by decide)
  have hpieces : pieces left.toList ++
      ((' ' :: (op.toList ++ [' '])).map .char ++ pieces right.toList) =
        clausePieces left op right := by
    simp [clausePieces]
  rw [hpieces] at hcut
  exact hcut.self

theorem operands_clausePieces :
    Condition.Operands (clausePieces left op right) (pieces left.toList) (pieces right.toList) :=
  ⟨[], (' ' :: (op.toList ++ [' '])).map .char, [], by simp [clausePieces], rfl,
    spanTexts_map_char _, rfl⟩

theorem not_infix_pair_clausePieces {c : Char} (hc : ' ' ≠ c) (hop : c ∉ op.toList)
    (hl : ¬ [.char c, .char c] <:+: pieces left.toList)
    (hr : ¬ [.char c, .char c] <:+: pieces right.toList) :
    ¬ [.char c, .char c] <:+: clausePieces left op right := by
  have hspace : Piece.char ' ' ≠ .char c := fun heq => hc (Piece.char.inj heq)
  unfold clausePieces
  rw [infix_pair_append_cons_iff hspace, infix_pair_append_cons_iff hspace]
  rintro (hleft | hop' | hright)
  · exact hl hleft
  · obtain ⟨d, hd, heq⟩ := List.mem_map.mp (hop'.subset List.mem_cons_self)
    exact hop (Piece.char.inj heq ▸ hd)
  · exact hr hright

/-- The text of a comparison is one clause, and its condition compares the operands. -/
theorem Conditions.ofText_comparison (hl : FitsClause left) (hfree : OperatorFree left)
    (hop : Comparison.Names op.toList) (hr : FitsClause right) :
    Conditions.ofText (left ++ " " ++ op ++ " " ++ right) =
      ⟨[.ofOperands (.str left) (.ofText op) (.ofText right)], .all⟩ := by
  have hsource : source (clausePieces left op right) =
      (left ++ " " ++ op ++ " " ++ right).toList := source_clausePieces hl hr
  have hcut := cutInto_clausePieces hl hop hr
  have hmark : mark ∉ source (clausePieces left op right) := by
    have hleft : mark ∉ left.toList := hl.unmarked
    have hright : mark ∉ right.toList := hr.unmarked
    rw [hsource]
    simp [hleft, hright, hop.isOperator.mark_not_mem]
    decide
  have hmarks := unmarked_of_cutInto hcut hmark
  have hbare : Text.Bare (source (clausePieces left op right)) := bare_source_clausePieces hl hr
  have hseparates : Separates (clausePieces left op right) '&' .all :=
    .ampersands (not_infix_pair_clausePieces (by decide) (hop.not_mem (by decide) (by decide))
      hl.no_bars hr.no_bars)
  have hparts : CutAtPairs (.char '&') (clausePieces left op right) [clausePieces left op right] :=
    .last (not_infix_pair_clausePieces (by decide) (hop.not_mem (by decide) (by decide))
      hl.no_ampersands hr.no_ampersands)
  have hfound : Comparison.ofClause? (shape (clausePieces left op right)) =
      some ⟨shape (pieces left.toList), op.toList, shape (pieces right.toList)⟩ := by
    rw [shape_clausePieces]
    exact Comparison.ofClause?_clear hfree.clear hl.bare_shape hop.isOperator hop.bare hr.bare_shape
  have hcondition : Condition.ofText (String.ofList (source (clausePieces left op right))) =
      .ofOperands (.str left) (.ofText op) (.ofText right) := by
    rw [Condition.ofText_of_some hcut hmarks operands_clausePieces hfound, hl.source_eq,
      hr.source_eq, String.ofList_toList, String.ofList_toList]
    rfl
  rw [hsource] at hcut hmark
  rw [ofText_eq hcut hmark hseparates hparts]
  simp [hbare.trim_eq, hbare.ne_nil, hcondition]

end Operands

section Settings

def comparisonFields (left op right : String) : Settings :=
  [("leftValue", .str left), ("operator", .str op), ("rightValue", .str right)]

inductive WritesComparison (left op right : String) : Settings → Prop
  | text : WritesComparison left op right
      [("condition", .str (left ++ " " ++ op ++ " " ++ right))]
  | item : WritesComparison left op right
      [("conditions", .arr [.obj (comparisonFields left op right)])]
  | fields : WritesComparison left op right (comparisonFields left op right)

variable {left op right : String}

theorem Condition.ofFields_comparisonFields :
    Condition.ofFields (comparisonFields left op right) =
      .ofOperands (.str left) (.ofText op) (.ofText right) := by
  simp [Condition.ofFields, Condition.operationOf, comparisonFields, Fields.get?, Operand.ofValue,
    Condition.ofOperands]

/-- Whichever way the comparison is written, the settings come to the one condition. -/
theorem WritesComparison.ofSettings_eq {s : Settings} (hs : WritesComparison left op right s)
    (htext : Conditions.ofText (left ++ " " ++ op ++ " " ++ right) =
      ⟨[.ofOperands (.str left) (.ofText op) (.ofText right)], .all⟩) :
    Conditions.ofSettings s = ⟨[.ofOperands (.str left) (.ofText op) (.ofText right)], .all⟩ := by
  cases hs with
  | text =>
    rw [Conditions.ofSettings]
    simp [Conditions.given?, Fields.get?, Settings.text?, htext]
  | item =>
    rw [Conditions.ofSettings]
    simp [Conditions.given?, Fields.get?, Settings.text?, Condition.ofValue,
      Condition.ofFields_comparisonFields]
  | fields =>
    rw [Conditions.ofSettings]
    simpa [Conditions.given?, Fields.get?, Fields.has, Settings.text?, comparisonFields] using
      Condition.ofFields_comparisonFields

theorem WritesComparison.flag?_eq {s : Settings} (hs : WritesComparison left op right s) :
    s.flag? "caseSensitive" = none := by
  cases hs <;> simp [Settings.flag?, Fields.get?, comparisonFields]

theorem WritesComparison.branchParameters_eq {s : Settings} (hs : WritesComparison left op right s)
    (htext : Conditions.ofText (left ++ " " ++ op ++ " " ++ right) =
      ⟨[.ofOperands (.str left) (.ofText op) (.ofText right)], .all⟩) (ids : Nat → Uuid) :
    Target.branchParameters ids s =
      [("conditions", .obj [
          ("options", .obj [
            ("caseSensitive", .bool true),
            ("leftValue", .str ""),
            ("typeValidation", .str "strict")]),
          ("conditions", .arr [
            (Condition.ofOperands (.str left) (.ofText op) (.ofText right)).toJson (ids 0)]),
          ("combinator", .str "and")]),
        ("options", .obj [])] := by
  unfold Target.branchParameters
  rw [hs.ofSettings_eq htext, hs.flag?_eq]
  rfl

/-- All ways to write a comparison give the same branch: one condition with the left
operand as it is written, the operation that the operator names and the inferred value of
the right operand. The type is inferred too, unless the operation is one on texts. -/
theorem Target.branchParameters_comparison (left op right : String) (hl : FitsClause left)
    (hfree : OperatorFree left) (hop : Comparison.Names op.toList) (hr : FitsClause right) :
    ∃ operation, Operation.ofName? (Text.lowerAscii op) = some operation ∧
      ∀ s, WritesComparison left op right s → ∀ ids, branchParameters ids s =
        [("conditions", .obj [
            ("options", .obj [
              ("caseSensitive", .bool true),
              ("leftValue", .str ""),
              ("typeValidation", .str "strict")]),
            ("conditions", .arr [.obj [
              ("id", (ids 0).toJson),
              ("leftValue", .str left),
              ("rightValue", (Operand.ofText right).value),
              ("operator", .obj [
                ("type", .str (if operation.onTexts then "string"
                  else (Operand.ofText right).type.name)),
                ("operation", .str operation.name)])]]),
            ("combinator", .str "and")]),
          ("options", .obj [])] := by
  have htext := Conditions.ofText_comparison hl hfree hop hr
  refine ⟨.ofText op, Operation.ofText_of_names hop, ?_⟩
  intro s hs ids
  exact hs.branchParameters_eq htext ids

/-- Operators within spans, in the right operand and in another case. -/
theorem Target.branchParameters_starts_with :
    FitsClause "n $\x7ba > b\x7d" ∧ OperatorFree "n $\x7ba > b\x7d" ∧
      Comparison.Names "Starts_With".toList ∧ FitsClause "= $\x7bx || y\x7d" ∧
      ∀ ids, branchParameters ids
          [("condition", .str "n $\x7ba > b\x7d Starts_With = $\x7bx || y\x7d")] =
        branchParameters ids
          (comparisonFields "n $\x7ba > b\x7d" "Starts_With" "= $\x7bx || y\x7d") := by
  have hgreater : Balanced "a > b".toList := balanced_of_not_mem (by decide) (by decide)
  have hbars : Balanced "x || y".toList := balanced_of_not_mem (by decide) (by decide)
  have hleft : CutInto "n $\x7ba > b\x7d".toList [.char 'n', .char ' ', .span "a > b".toList] :=
    .char (by decide) (.char (by decide) (.span hgreater .nil))
  have hright : CutInto "= $\x7bx || y\x7d".toList
      [.char '=', .char ' ', .span "x || y".toList] :=
    .char (by decide) (.char (by decide) (.span hbars .nil))
  have hl : FitsClause "n $\x7ba > b\x7d" :=
    .of_cutInto hleft (by decide) (by decide) (by decide) (by decide) (by decide)
  have hfree : OperatorFree "n $\x7ba > b\x7d" := by
    constructor <;> rw [hleft.pieces_eq]
    · decide
    · decide
    · decide
    · -- The only blank stands before the span.
      intro before blank word after hpieces hblank hword
      cases word with
      | nil => exact absurd hword (by decide)
      | cons w word =>
        rcases before with _ | ⟨_, _ | ⟨_, _ | ⟨_, _⟩⟩⟩
        · obtain ⟨heq, -⟩ := List.cons.inj hpieces
          rw [← Piece.char.inj heq] at hblank
          exact absurd hblank (by decide)
        · simp at hpieces
        · simp at hpieces
        · simp at hpieces
  have hop : Comparison.Names "Starts_With".toList := by
    unfold Comparison.Names
    decide
  have hr : FitsClause "= $\x7bx || y\x7d" :=
    .of_cutInto hright (by decide) (by decide) (by decide) (by decide) (by decide)
  refine ⟨hl, hfree, hop, hr, fun ids => ?_⟩
  obtain ⟨operation, -, hsame⟩ := branchParameters_comparison _ _ _ hl hfree hop hr
  exact (hsame _ .text ids).trans (hsame _ .fields ids).symm

/-- What is looked for in a text is a text, also where it looks like a number. -/
theorem Target.branchParameters_contains_number :
    FitsClause "a" ∧ OperatorFree "a" ∧ Comparison.Names "contains".toList ∧ FitsClause "42" ∧
      (Operand.ofText "42").type = .number ∧
      ∀ ids, branchParameters ids [("condition", .str "a contains 42")] =
        [("conditions", .obj [
            ("options", .obj [
              ("caseSensitive", .bool true),
              ("leftValue", .str ""),
              ("typeValidation", .str "strict")]),
            ("conditions", .arr [.obj [
              ("id", (ids 0).toJson),
              ("leftValue", .str "a"),
              ("rightValue", .int 42),
              ("operator", .obj [("type", .str "string"), ("operation", .str "contains")])]]),
            ("combinator", .str "and")]),
          ("options", .obj [])] := by
  have hleft : CutInto "a".toList [.char 'a'] := cutInto_map_char (by decide)
  have hright : CutInto "42".toList [.char '4', .char '2'] := cutInto_map_char (by decide)
  have hl : FitsClause "a" :=
    .of_cutInto hleft (by decide) (by decide) (by decide) (by decide) (by decide)
  have hfree : OperatorFree "a" := by
    constructor <;> rw [hleft.pieces_eq]
    · decide
    · decide
    · decide
    · intro before blank word after hpieces hblank
      cases before with
      | nil =>
        obtain ⟨heq, -⟩ := List.cons.inj hpieces
        rw [← Piece.char.inj heq] at hblank
        exact absurd hblank (by decide)
      | cons p before => simp at hpieces
  have hop : Comparison.Names "contains".toList := by
    unfold Comparison.Names
    decide
  have hr : FitsClause "42" :=
    .of_cutInto hright (by decide) (by decide) (by decide) (by decide) (by decide)
  have hoperand : Operand.ofText "42" = ⟨.int 42, .number⟩ := rfl
  have hoperation : Operation.ofText "contains" = .contains := by
    decide
  have htext := Conditions.ofText_comparison hl hfree hop hr
  refine ⟨hl, hfree, hop, hr, by rw [hoperand], fun ids => ?_⟩
  have hs : WritesComparison "a" "contains" "42" [("condition", .str "a contains 42")] := .text
  rw [hs.branchParameters_eq htext, hoperand, hoperation]
  rfl

end Settings

end FlowGraph
