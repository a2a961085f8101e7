import FlowGraph.Proofs.Condition.Splitting

/-!
Spans of conditions. What an operand is taken for does not touch its spans: quotes around
it are no part of a span, and numbers and truth values have none. So the spans of a text
are those of its conditions' operands, one after the other.
-/

namespace FlowGraph

open Template

def Json.spans : Json → List (List Char)
  | .str s => spanTexts (pieces s.toList)
  | _ => []

def Condition.spans : Condition → List (List Char)
  | .compare left right _ _ => left.spans ++ right.spans
  | .holds text => spanTexts (pieces text.toList)

variable {cs : List Char} {ps l r : List Piece}

theorem Json.spans_str (hcut : CutInto cs ps) :
    (Json.str (String.ofList cs)).spans = spanTexts ps := by
  rw [Json.spans, String.toList_ofList, hcut.pieces_eq]

/-- Numbers have no spans, and a text that is taken for one had none. -/
theorem Json.spans_of_isNumber {v : Json} (hv : v.isNumber = true ∨ v = .null) : v.spans = [] := by
  rcases hv with hnumber | rfl
  · cases v with
    | int i => rfl
    | float x => rfl
    | _ => cases hnumber
  · rfl

namespace Operand

theorem spanTexts_of_not_mem (hcut : CutInto cs ps) (hcs : '$' ∉ cs) : spanTexts ps = [] := by
  induction hcut with
  | nil => rfl
  | char hc hrest ih => exact ih fun hmem => hcs (List.mem_cons_of_mem _ hmem)
  | span hbody hrest ih => exact absurd List.mem_cons_self hcs

theorem eq_of_between? {quote : Char} {inner : List Char}
    (hinner : unquote?.between? quote cs = some inner) : cs = quote :: (inner ++ [quote]) := by
  unfold unquote?.between? at hinner
  split at hinner
  · next hends =>
    obtain rfl := Option.some.inj hinner
    simp only [Bool.and_eq_true, decide_eq_true_eq] at hends
    obtain ⟨⟨hlength, hhead⟩, hlast⟩ := hends
    obtain ⟨rest, rfl⟩ := List.head?_eq_some_iff.mp hhead
    rcases List.eq_nil_or_concat rest with rfl | ⟨front, d, rfl⟩
    · simp at hlength
    · rw [List.concat_eq_append] at hlast ⊢
      obtain rfl : d = quote := by
        rw [← List.cons_append, List.getLast?_concat] at hlast
        exact Option.some.inj hlast
      rw [List.tail_cons, List.dropLast_concat]
  · cases hinner

theorem exists_of_unquote? {inner : List Char} (hinner : unquote? cs = some inner) :
    ∃ quote, (quote = '"' ∨ quote = '\'') ∧ cs = quote :: (inner ++ [quote]) := by
  unfold unquote? at hinner
  cases hdouble : unquote?.between? '"' cs with
  | some found =>
    rw [hdouble] at hinner
    obtain rfl : found = inner := Option.some.inj hinner
    exact ⟨'"', Or.inl rfl, eq_of_between? hdouble⟩
  | none =>
    rw [hdouble] at hinner
    exact ⟨'\'', Or.inr rfl, eq_of_between? hinner⟩

/-- Quotes around a text are two of its characters. -/
theorem exists_cutInto_of_quoted {quote : Char} {inner : List Char}
    (hquote : quote = '"' ∨ quote = '\'') (hcut : CutInto (quote :: (inner ++ [quote])) ps) :
    ∃ qs, CutInto inner qs ∧ spanTexts qs = spanTexts ps := by
  have hdollar : quote ≠ '$' ∧ quote ≠ '}' := by
    rcases hquote with rfl | rfl <;> decide
  generalize htext : quote :: (inner ++ [quote]) = text at hcut
  cases hcut with
  | nil => cases htext
  | @char c cs ps hc hrest =>
    obtain ⟨rfl, rfl⟩ := List.cons.inj htext
    have hsource := hrest.source_eq
    rcases List.eq_nil_or_concat ps with rfl | ⟨front, p, rfl⟩
    · exact absurd hsource.symm (by simp)
    · rw [List.concat_eq_append] at hrest hsource ⊢
      rw [source_append] at hsource
      cases p with
      | char d =>
        obtain ⟨hinner, -⟩ := List.append_inj' hsource rfl
        refine ⟨front, hinner ▸ hrest.of_append.1, ?_⟩
        simp [spanTexts, spanTexts_append]
      | span body =>
        have hlast := congrArg List.getLast? hsource
        have hbrace : (source front ++ source [.span body]).getLast? = some '}' := by
          simp only [source_cons, source_nil, List.append_nil, Piece.source, ← List.append_assoc]
          exact List.getLast?_concat
        rw [hbrace, List.getLast?_concat] at hlast
        exact absurd (Option.some.inj hlast).symm hdollar.2
  | span hbody hrest =>
    exact absurd (List.cons.inj htext).1 hdollar.1

theorem mem_of_isNumber (hcs : isNumber cs = true) :
    ∀ c ∈ cs, c = '-' ∨ c = '.' ∨ Decimal.isDigit c = true := by
  unfold isNumber at hcs
  simp only [Bool.and_eq_true] at hcs
  generalize hsigned : (if cs.head? = some '-' then cs.tail else cs) = body at hcs
  have hbody : ∀ c ∈ body, c = '.' ∨ Decimal.isDigit c = true := by
    intro c hc
    rw [← List.takeWhile_append_dropWhile (p := Decimal.isDigit) (l := body)] at hc
    rcases List.mem_append.mp hc with hwhole | hfraction
    · exact Or.inr (List.mem_takeWhile_imp hwhole)
    · obtain ⟨-, hrest⟩ := hcs
      split at hrest
      · next hnil =>
        rw [hnil] at hfraction
        cases hfraction
      · next d more hcons =>
        simp only [Bool.and_eq_true, decide_eq_true_eq, List.all_eq_true] at hrest
        rw [hcons] at hfraction
        rcases List.mem_cons.mp hfraction with rfl | hmore
        · exact Or.inl hrest.1.1
        · exact Or.inr (hrest.2 c hmore)
  intro c hc
  by_cases hminus : cs.head? = some '-'
  · obtain ⟨rest, rfl⟩ := List.head?_eq_some_iff.mp hminus
    rw [if_pos hminus, List.tail_cons] at hsigned
    subst hsigned
    rcases List.mem_cons.mp hc with rfl | hrest
    · exact Or.inl rfl
    · exact Or.inr (hbody c hrest)
  · rw [if_neg hminus] at hsigned
    subst hsigned
    exact Or.inr (hbody c hc)

theorem not_mem_of_lowerAscii {word : String} (hword : '$' ∉ word.toList)
    (hcs : Text.lowerAscii (String.ofList cs) = word) : '$' ∉ cs := by
  intro hmem
  apply hword
  have hlower : cs.map Char.toLower = word.toList := by
    rw [← hcs, Text.lowerAscii, String.toList_ofList, String.toList_ofList]
  rw [← hlower]
  exact List.mem_map.mpr ⟨'$', hmem, by decide⟩

/-- The value that an operand is taken for has the spans of its text. -/
theorem spans_ofChars (hcut : CutInto cs ps) : (ofChars cs).value.spans = spanTexts ps := by
  unfold ofChars
  cases hquoted : unquote? cs with
  | some inner =>
    obtain ⟨quote, hquote, rfl⟩ := exists_of_unquote? hquoted
    obtain ⟨qs, hinner, hqs⟩ := exists_cutInto_of_quoted hquote hcut
    simp only
    rw [Json.spans_str hinner, hqs]
  | none =>
    simp only
    split
    · next n hn =>
      split at hn
      · next hnumber =>
        have hvalue : n.isNumber = true ∨ n = .null := by
          rcases Json.numberOfText?_cases hn with hisNumber | ⟨hnull, -⟩
          · exact Or.inl hisNumber
          · exact Or.inr hnull
        have hdollar : '$' ∉ cs := by
          intro hmem
          rcases mem_of_isNumber hnumber '$' hmem with heq | heq | heq <;> revert heq <;> decide
        rw [Json.spans_of_isNumber hvalue, spanTexts_of_not_mem hcut hdollar]
      · cases hn
    · split
      · next htrue =>
        exact (spanTexts_of_not_mem hcut (not_mem_of_lowerAscii (by decide) htrue)).symm
      · next hfalse =>
        exact (spanTexts_of_not_mem hcut (not_mem_of_lowerAscii (by decide) hfalse)).symm
      · exact Json.spans_str hcut

end Operand

namespace Condition

/-- The operands of a clause have closed spans if the clause has. -/
theorem Operands.cutInto (h : Operands ps l r) (hcut : CutInto (source ps) ps) :
    CutInto (source l) l ∧ CutInto (source r) r := by
  obtain ⟨lead, gap, trail, rfl, -⟩ := h
  have hrest := hcut.of_append.2.of_append
  exact ⟨hrest.1, hrest.2.of_append.2.of_append.1⟩

/-- The operands of a clause have the spans of its text. -/
theorem spans_ofText (hcut : CutInto (source ps) ps) (hmarks : Unmarked ps) :
    (ofText (String.ofList (source ps))).spans = spanTexts ps := by
  cases hc : Comparison.ofClause? (shape ps) with
  | none =>
    obtain ⟨qs, hqs, -, htexts, -, hsource⟩ := exists_trimmed_pieces hcut hmarks
    rw [ofText_of_none hcut hmarks hc, ← hsource, Condition.spans, String.toList_ofList,
      hqs.pieces_eq, htexts]
  | some c =>
    obtain ⟨l, r, hps, hsome⟩ := exists_operands_of_some hc
    obtain ⟨hleft, hright⟩ := hps.cutInto hcut
    obtain ⟨qs, hqs, -, htexts, -, hsource⟩ :=
      exists_trimmed_pieces hright (hps.unmarked hmarks).2
    rw [ofText_of_some hcut hmarks hps hsome, ← hsource, ofOperands, Condition.spans,
      Json.spans_str hleft, Operand.spans_ofChars hqs, htexts, hps.spanTexts_eq]

end Condition

namespace Conditions

open Masked

def clauseSpans (clauses : List (List Char)) : List (List Char) :=
  (clauses.filter (· ≠ [])).flatMap fun clause => (Condition.ofText (String.ofList clause)).spans

theorem clauseSpans_cons (hcut : CutInto (source ps) ps) (hmarks : Unmarked ps)
    (clauses : List (List Char)) :
    clauseSpans (Text.trim (source ps) :: clauses) = spanTexts ps ++ clauseSpans clauses := by
  obtain ⟨qs, hqs, hqsMarks, htexts, -, hsource⟩ := exists_trimmed_pieces hcut hmarks
  rw [← hsource, ← htexts]
  by_cases hblank : source qs = []
  · rw [eq_nil_of_source_eq_nil hblank]
    rfl
  · have hspans := Condition.spans_ofText hqs hqsMarks
    simp [clauseSpans, hblank, hspans]

/-- The parts between the pairs have the spans of the whole. -/
theorem clauseSpans_parts {c : Char} {parts : List (List Piece)}
    (hparts : CutAtPairs (.char c) ps parts) (hcut : CutInto (source ps) ps)
    (hmarks : Unmarked ps) :
    clauseSpans (parts.map fun part => Text.trim (source part)) = spanTexts ps := by
  induction hparts with
  | @last qs hnone =>
    rw [List.map_cons, List.map_nil, clauseSpans_cons hcut hmarks]
    exact List.append_nil _
  | @cut part rest parts hpart hrest ih =>
    have hsep : part ++ .char c :: .char c :: rest = part ++ ([.char c, .char c] ++ rest) := rfl
    rw [hsep] at hcut hmarks ⊢
    obtain ⟨hpartMarks, hrestMarks⟩ := unmarked_append.mp hmarks
    have hothers := ih hcut.of_append.2.of_append.2 (unmarked_append.mp hrestMarks).2
    rw [List.map_cons, clauseSpans_cons hcut.of_append.1 hpartMarks, hothers]
    simp [spanTexts_append, spanTexts]

/-- Spans are opaque to what cuts a text. The text is split where two bars, or else two
ampersands, stand outside its spans, each part that is not blank has the condition that it
has alone, and the operands have the spans of the text, each once and in their order. -/
theorem ofText_splits_outside_spans (t : String) (ps : List Piece) (hcut : CutInto t.toList ps)
    (hmark : '\x01' ∉ t.toList) :
    ∃ sep combinator parts, Separates ps sep combinator ∧ CutAtPairs (.char sep) ps parts ∧
      ofText t = ⟨((parts.map fun part => Text.trim (source part)).filter (· ≠ [])).map
        fun clause => Condition.ofText (String.ofList clause), combinator⟩ ∧
      (ofText t).list.flatMap Condition.spans = spanTexts ps := by
  obtain ⟨sep, combinator, hsep⟩ := exists_separates ps
  obtain ⟨parts, hparts⟩ := exists_cutAtPairs (.char sep) ps
  have htext := ofText_eq hcut hmark hsep hparts
  have hspans := clauseSpans_parts hparts hcut.self (unmarked_of_cutInto hcut hmark)
  refine ⟨sep, combinator, parts, hsep, hparts, htext, ?_⟩
  rw [htext, List.flatMap_map]
  exact hspans

def eitherPieces : List Piece :=
  .span "a||b".toList ::
    (" == 1 || ".toList.map .char ++ .span "c".toList :: " > 2".toList.map .char)

theorem ofText_splits_between_spans :
    CutInto "$\x7ba||b\x7d == 1 || $\x7bc\x7d > 2".toList eitherPieces ∧
      '\x01' ∉ "$\x7ba||b\x7d == 1 || $\x7bc\x7d > 2".toList ∧
      (ofText "$\x7ba||b\x7d == 1 || $\x7bc\x7d > 2").combinator = .any ∧
      (ofText "$\x7ba||b\x7d == 1 || $\x7bc\x7d > 2").list.flatMap Condition.spans =
        ["$\x7ba||b\x7d".toList, "$\x7bc\x7d".toList] := by
  have hfirst : Balanced "a||b".toList := balanced_of_not_mem (by decide) (by decide)
  have hsecond : Balanced "c".toList := balanced_of_not_mem (by decide) (by decide)
  have hmiddle : CutInto " == 1 || ".toList (" == 1 || ".toList.map .char) :=
    cutInto_map_char (by decide)
  have hend : CutInto " > 2".toList (" > 2".toList.map .char) := cutInto_map_char (by decide)
  have hcut : CutInto "$\x7ba||b\x7d == 1 || $\x7bc\x7d > 2".toList eitherPieces :=
    .span hfirst (hmiddle.append (.span hsecond hend) fun hmeets => absurd hmeets.1 (by decide))
  have hmark : '\x01' ∉ "$\x7ba||b\x7d == 1 || $\x7bc\x7d > 2".toList := by
    decide
  obtain ⟨sep, combinator, parts, hsep, -, htext, hspans⟩ :=
    ofText_splits_outside_spans _ eitherPieces hcut hmark
  refine ⟨hcut, hmark, ?_, hspans⟩
  rw [htext]
  cases hsep with
  | bars hbars => rfl
  | ampersands hnone => exact absurd (by decide) hnone

end Conditions

end FlowGraph
