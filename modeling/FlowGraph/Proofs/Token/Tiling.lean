import FlowGraph.Proofs.Token.Lexing

/-!
Lexemes tile their source, and positions are counted from its start. The one way to cut a
source into whole lexemes is the one that is found; every token and every warning stands at
the true position of its lexeme, and a fault at that of the character where no lexeme ends.
-/

namespace FlowGraph

namespace Position

/-- The position of the character right after `before`: one line more than there are line
breaks in `before`, one column more than there are characters after the last of them. -/
def following (before : List Char) : Position where
  line := 1 + before.count '\n'
  column := 1 + (before.reverse.takeWhile (· ≠ '\n')).length

theorem following_concat (before : List Char) (c : Char) :
    following (before ++ [c]) = (following before).step c := by
  unfold following step
  by_cases hc : c = '\n'
  · subst hc
    simp [List.count_append, Nat.add_assoc]
  · simp [List.count_append, hc, Nat.add_comm]

/-- The invariant of counting: after any text the position is the true one again. -/
theorem after_following (before cs : List Char) :
    (following before).after cs = following (before ++ cs) := by
  induction cs generalizing before with
  | nil => rw [after_nil, List.append_nil]
  | cons c cs ih =>
    rw [after_cons, ← following_concat, ih, List.append_assoc, List.singleton_append]

end Position

/-- The lexemes make up the text as far as `rest`; each is whole and ends before what
follows it. -/
inductive Tiles (rest : List Char) : List Lexeme → List Char → Prop
  | nil : Tiles rest [] rest
  | cons {l : Lexeme} {ls : List Lexeme} {text : List Char} (hl : l.Whole)
      (hends : l.EndsBefore text) (htail : Tiles rest ls text) :
      Tiles rest (l :: ls) (l.source ++ text)

section Tiles

variable {rest text : List Char} {ls : List Lexeme}

theorem Tiles.text_eq (h : Tiles rest ls text) : text = ls.flatMap Lexeme.source ++ rest := by
  induction h with
  | nil => rfl
  | cons _ _ _ ih => rw [List.flatMap_cons, List.append_assoc, ← ih]

theorem Tiles.whole (h : Tiles rest ls text) : ∀ l ∈ ls, l.Whole := by
  induction h with
  | nil => exact fun l hl => nomatch hl
  | cons hl _ _ ih => exact List.forall_mem_cons.mpr ⟨hl, ih⟩

/-- A tiling of a beginning is what cutting finds there, and then it goes on with the rest. -/
theorem Tiles.lexemes_eq (h : Tiles rest ls text) :
    lexemes text = (ls ++ (lexemes rest).1, (lexemes rest).2) := by
  induction h with
  | nil => rfl
  | @cons l ls text hl hends _ ih =>
    obtain ⟨c, cs, hsource⟩ := List.exists_cons_of_ne_nil (Lexeme.source_ne_nil l)
    have hfirst : Lexeme.next c (cs ++ text) = .ok (l, text) :=
      Lexeme.next_of_whole hl hends (by rw [hsource, List.cons_append])
    rw [hsource, List.cons_append, lexemes_cons hfirst, ih]
    rfl

/-- Cutting goes on to the end of the source, or to a character that its fault is about. -/
theorem tiles_lexemes (cs : List Char) :
    (∃ ls, lexemes cs = (ls, none) ∧ Tiles [] ls cs) ∨
      ∃ ls fault c rest, lexemes cs = (ls, some fault) ∧ Tiles (c :: rest) ls cs ∧
        fault.At c rest := by
  fun_induction lexemes cs with
  | case1 => exact Or.inl ⟨[], rfl, .nil⟩
  | case2 c cs fault hnext =>
    exact Or.inr ⟨[], fault, c, cs, rfl, .nil, Lexeme.next_eq_error hnext⟩
  | case3 c cs l after hnext ls fault hrest ih =>
    obtain ⟨hsource, hl, hends⟩ := Lexeme.next_eq_ok_iff.mp hnext
    rw [hrest] at ih
    rw [hsource]
    rcases ih with ⟨ms, heq, htiles⟩ | ⟨ms, found, d, tail, heq, htiles, hat⟩
    · obtain ⟨rfl, rfl⟩ := Prod.mk.inj heq
      exact Or.inl ⟨l :: ls, rfl, .cons hl hends htiles⟩
    · obtain ⟨rfl, rfl⟩ := Prod.mk.inj heq
      exact Or.inr ⟨l :: ls, found, d, tail, rfl, .cons hl hends htiles, hat⟩

end Tiles

def atTruePositions (ls : List Lexeme) : List (Lexeme × Position) :=
  ls.mapIdx fun i l => (l, .following ((ls.take i).flatMap Lexeme.source))

theorem placed_following (before : List Char) (ls : List Lexeme) :
    placed (.following before) ls =
      ls.mapIdx fun i l => (l, .following (before ++ (ls.take i).flatMap Lexeme.source)) := by
  induction ls generalizing before with
  | nil => rfl
  | cons l ls ih =>
    rw [placed, Position.after_following, ih, List.mapIdx_cons]
    simp [List.append_assoc]

/-- Counting along the lexemes gives each of them its true position. -/
theorem placed_start (ls : List Lexeme) : placed .start ls = atTruePositions ls :=
  placed_following [] ls

/-- The tokens and warnings that a lexeme at a position stands for: one token, one warning, or
nothing at all. -/
inductive Reported : Lexeme × Position → List Token → List LexWarning → Prop
  | blank (c : Char) (p : Position) : Reported (.blank c, p) [] []
  | lineComment (body : List Char) (p : Position) : Reported (.lineComment body, p) [] []
  | blockComment (body : List Char) (p : Position) : Reported (.blockComment body, p) [] []
  | longString (body : List Char) (p : Position) :
      Reported (.longString body, p) [⟨.string, String.ofList (Text.trim body), p⟩] []
  | string (quote : Char) (body : List Char) (p : Position) :
      Reported (.string quote body, p) [⟨.string, String.ofList (Lexeme.unescape body), p⟩] []
  | number (first : Char) (more : List Char) (p : Position) :
      Reported (.number first more, p) [⟨.number, String.ofList (first :: more), p⟩] []
  | keyword {first : Char} {more : List Char} {kind : TokenKind} (p : Position)
      (hkind : TokenKind.ofKeyword? (String.ofList (first :: more)) = some kind) :
      Reported (.word first more, p) [⟨kind, String.ofList (first :: more), p⟩] []
  | identifier {first : Char} {more : List Char} (p : Position)
      (hkind : TokenKind.ofKeyword? (String.ofList (first :: more)) = none) :
      Reported (.word first more, p) [⟨.identifier, String.ofList (first :: more), p⟩] []
  | symbol (kind : TokenKind) (first : Char) (more : List Char) (p : Position) :
      Reported (.symbol kind first more, p) [⟨kind, String.ofList (first :: more), p⟩] []
  | skipped (c : Char) (p : Position) : Reported (.skipped c, p) [] [⟨c, p⟩]

inductive Reports : List (Lexeme × Position) → List Token → List LexWarning → Prop
  | nil : Reports [] [] []
  | cons {here : Lexeme × Position} {rest : List (Lexeme × Position)} {ts more : List Token}
      {ws others : List LexWarning} (hhere : Reported here ts ws)
      (hrest : Reports rest more others) : Reports (here :: rest) (ts ++ more) (ws ++ others)

/-- One lexeme has its token, its warning or neither. -/
theorem reported_placed (here : Lexeme × Position) :
    Reported here (placedToken? here).toList (placedWarning? here).toList := by
  obtain ⟨l, p⟩ := here
  cases l with
  | blank c => exact .blank c p
  | lineComment body => exact .lineComment body p
  | blockComment body => exact .blockComment body p
  | longString body => exact .longString body p
  | string quote body => exact .string quote body p
  | number first more => exact .number first more p
  | word first more =>
    have htoken : placedToken? (.word first more, p) =
        some ⟨(TokenKind.ofKeyword? (String.ofList (first :: more))).getD .identifier,
          String.ofList (first :: more), p⟩ := rfl
    rw [htoken]
    cases hkind : TokenKind.ofKeyword? (String.ofList (first :: more)) with
    | none => exact .identifier p hkind
    | some kind => exact .keyword p hkind
  | symbol kind first more => exact .symbol kind first more p
  | skipped c => exact .skipped c p

/-- The tokens and the warnings of lexemes, taken in order, leave out none and add none. -/
theorem reports_filterMap (placed : List (Lexeme × Position)) :
    Reports placed (placed.filterMap placedToken?) (placed.filterMap placedWarning?) := by
  induction placed with
  | nil => exact .nil
  | cons here rest ih =>
    have htokens : (here :: rest).filterMap placedToken? =
        (placedToken? here).toList ++ rest.filterMap placedToken? := by
      cases h : placedToken? here <;> simp [h]
    have hwarnings : (here :: rest).filterMap placedWarning? =
        (placedWarning? here).toList ++ rest.filterMap placedWarning? := by
      cases h : placedWarning? here <;> simp [h]
    rw [htokens, hwarnings]
    exact .cons (reported_placed here) ih

/-- A source that can be cut to its end is the concatenation of whole lexemes, in one way
only. Each string, number, word and symbol among them has one token and each stray character
has one warning, in order and at its true position; blanks and comments have neither. The end
of input is the last token and stands after the last character. A source that cannot be cut
so has its fault at the true position of one of its characters: where a comment or a quoted
text begins that has no end, or where nothing begins. -/
theorem scan_tiles (source : String) :
    match scan source with
    | .ok found =>
      ∃ ls tokens, Tiles [] ls source.toList ∧ (∀ ms, Tiles [] ms source.toList → ms = ls) ∧
        source.toList = ls.flatMap Lexeme.source ∧
        found.tokens = tokens ++ [⟨.eof, "", .following source.toList⟩] ∧
        Reports (atTruePositions ls) tokens found.warnings ∧ ∀ t ∈ tokens, t.kind ≠ .eof
    | .error e =>
      ∃ ls c rest, Tiles (c :: rest) ls source.toList ∧
        source.toList = ls.flatMap Lexeme.source ++ c :: rest ∧
        e.pos = .following (ls.flatMap Lexeme.source) ∧ e.fault.At c rest ∧
        ∀ ms, ¬ Tiles [] ms source.toList := by
  have hend (ls : List Lexeme) : Position.start.after (ls.flatMap Lexeme.source) =
      .following (ls.flatMap Lexeme.source) := Position.after_following [] _
  have hlexemes {ms : List Lexeme} (h : Tiles [] ms source.toList) :
      lexemes source.toList = (ms, none) := by
    rw [h.lexemes_eq, lexemes_nil, List.append_nil]
  unfold scan scanChars
  rcases tiles_lexemes source.toList with
    ⟨ls, hls, htiles⟩ | ⟨ls, fault, c, rest, hls, htiles, hat⟩
  · have hsource := htiles.text_eq
    rw [List.append_nil] at hsource
    simp only [hls, hend, placed_start]
    refine ⟨ls, _, htiles, ?_, hsource, ?_, reports_filterMap (atTruePositions ls), ?_⟩
    · intro ms hms
      rw [hls] at hlexemes
      exact (congrArg Prod.fst (hlexemes hms)).symm
    · rw [← hsource]
    · intro t ht
      obtain ⟨⟨l, p⟩, hl, htoken⟩ := List.mem_filterMap.mp ht
      obtain ⟨⟨kind, text⟩, hkind, rfl⟩ := Option.map_eq_some_iff.mp htoken
      rw [← placed_start] at hl
      exact (htiles.whole l (mem_of_mem_placed hl)).kind_ne_eof hkind
  · simp only [hls, hend]
    refine ⟨ls, c, rest, htiles, htiles.text_eq, rfl, hat, ?_⟩
    intro ms hms
    have heq := hlexemes hms
    rw [hls] at heq
    cases congrArg Prod.snd heq

-- Each stray character draws its own warning; the comment draws none.
example : (scan "a ?* // \\\nb").toOption =
    some ⟨[⟨.identifier, "a", ⟨1, 1⟩⟩, ⟨.identifier, "b", ⟨2, 1⟩⟩, ⟨.eof, "", ⟨2, 2⟩⟩],
      [⟨'?', ⟨1, 3⟩⟩, ⟨'*', ⟨1, 4⟩⟩]⟩ := by
  decide +kernel

end FlowGraph
