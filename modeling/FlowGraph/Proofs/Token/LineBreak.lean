import FlowGraph.Proofs.Token.Tiling

/-!
Sources joined by a line break. No lexeme goes on with a line break that follows it, so the
lexemes of a source that can be cut to its end stay the same when a line break and another
source come after it. The lexemes of that other source follow, as many lines further down
as the first source has.
-/

namespace FlowGraph

namespace Lexeme

/-- With more after it, a text begins as it did before, or with the line break. -/
theorem head?_before_newline (text rest : List Char) :
    (text ++ '\n' :: rest).head? = some '\n' ∨ (text ++ '\n' :: rest).head? = text.head? := by
  cases text with
  | nil => exact Or.inl rfl
  | cons c text => exact Or.inr rfl

theorem pair?_newline (c : Char) : pair? c '\n' = none := by
  unfold pair?
  split <;> simp_all

/-- The invariant of joining: what a lexeme ends before may be followed by a line break. -/
theorem EndsBefore.before_newline {l : Lexeme} {text : List Char} (h : l.EndsBefore text)
    (rest : List Char) : l.EndsBefore (text ++ '\n' :: rest) := by
  have hhead {P : Char → Prop} (hnewline : P '\n') (htext : ∀ c ∈ text.head?, P c) :
      ∀ c ∈ (text ++ '\n' :: rest).head?, P c := by
    intro c hc
    rcases head?_before_newline text rest with heq | heq
    · rw [heq] at hc
      cases hc
      exact hnewline
    · exact htext c (heq ▸ hc)
  cases l with
  | lineComment body => exact hhead rfl h
  | string quote body =>
    intro hempty heq
    have hquote : ∀ c ∈ (text ++ '\n' :: rest).head?, c ≠ '"' := by
      refine hhead (by decide) fun c hc hcq => ?_
      exact h hempty (hcq ▸ hc)
    exact hquote '"' heq rfl
  | number first more =>
    refine ⟨hhead (by decide) h.1, fun hpoint d tail heq => ?_⟩
    -- A point at the end of the text stands before the line break now.
    match text, heq with
    | [], heq => cases heq
    | [c], heq =>
      cases heq
      decide
    | c :: e :: text, heq =>
      cases heq
      exact h.2 hpoint d text rfl
  | word first more => exact hhead (by decide) h
  | skipped c => exact hhead (pair?_newline c) h
  | blank c => trivial
  | blockComment body => trivial
  | longString body => trivial
  | symbol kind first more => trivial

end Lexeme

/-- A text that is cut to its end is cut in the same way before a line break. -/
theorem Tiles.before_newline {ls : List Lexeme} {text : List Char} (h : Tiles [] ls text)
    (rest : List Char) : Tiles ('\n' :: rest) ls (text ++ '\n' :: rest) := by
  induction h with
  | nil => exact .nil
  | cons hl hends _ ih =>
    rw [List.append_assoc]
    exact .cons hl (hends.before_newline rest) ih

/-- Cutting goes on behind the line break as if nothing stood before it. -/
theorem lexemes_newline {ls : List Lexeme} {text : List Char} (h : Tiles [] ls text)
    (rest : List Char) : lexemes (text ++ '\n' :: rest) =
      (ls ++ .blank '\n' :: (lexemes rest).1, (lexemes rest).2) := by
  rw [(h.before_newline rest).lexemes_eq, lexemes_cons (Lexeme.next_eq_blank (by decide) rest)]

section Down

variable (n : Nat)

def Position.down (p : Position) : Position :=
  ⟨p.line + n, p.column⟩

def Token.down (t : Token) : Token :=
  { t with pos := t.pos.down n }

def LexWarning.down (w : LexWarning) : LexWarning :=
  { w with pos := w.pos.down n }

def LexError.down (e : LexError) : LexError :=
  { e with pos := e.pos.down n }

theorem Position.step_down (p : Position) (c : Char) :
    (p.down n).step c = (p.step c).down n := by
  unfold step down
  split
  · rw [Nat.add_right_comm]
  · rfl

theorem Position.after_down (p : Position) (cs : List Char) :
    (p.down n).after cs = (p.after cs).down n := by
  induction cs generalizing p with
  | nil => rfl
  | cons c cs ih => rw [after_cons, after_cons, step_down, ih]

/-- Lexemes that start further down all stand further down, in the same columns. -/
theorem placed_down (p : Position) (ls : List Lexeme) :
    placed (p.down n) ls = (placed p ls).map fun (l, q) => (l, q.down n) := by
  induction ls generalizing p with
  | nil => rfl
  | cons l ls ih => rw [placed, placed, Position.after_down, ih, List.map_cons]

/-- What is read off lexemes at their positions moves down with them. -/
theorem filterMap_placed_down {α : Type} {read : Lexeme × Position → Option α} {move : α → α}
    (hread : ∀ l q, read (l, q.down n) = (read (l, q)).map move) (p : Position)
    (ls : List Lexeme) :
    (placed (p.down n) ls).filterMap read = ((placed p ls).filterMap read).map move := by
  rw [placed_down, List.filterMap_map, List.map_filterMap]
  congr 1
  funext ⟨l, q⟩
  exact hread l q

theorem placedToken?_down (l : Lexeme) (p : Position) :
    placedToken? (l, p.down n) = (placedToken? (l, p)).map (Token.down n) := by
  simp only [placedToken?, Option.map_map]
  rfl

theorem placedWarning?_down (l : Lexeme) (p : Position) :
    placedWarning? (l, p.down n) = (placedWarning? (l, p)).map (LexWarning.down n) := by
  simp only [placedWarning?, Option.map_map]
  rfl

end Down

/-- Behind a text and a line break positions start anew, further down. -/
theorem Position.start_after_newline (text : List Char) :
    Position.start.after (text ++ ['\n']) = Position.start.down (1 + text.count '\n') := by
  have hstart : Position.start = .following [] := rfl
  rw [hstart, after_following, List.nil_append, following_concat]
  simp only [step, if_true, following, down, List.count_nil, List.reverse_nil, List.takeWhile_nil,
    List.length_nil]
  congr 1
  omega

section Scans

variable {cs : List Char} {ls ms : List Lexeme}

theorem scanChars_of_none (h : lexemes cs = (ls, none)) :
    scanChars cs = .ok ⟨(placed .start ls).filterMap placedToken? ++
      [⟨.eof, "", Position.start.after (ls.flatMap Lexeme.source)⟩],
      (placed .start ls).filterMap placedWarning?⟩ := by
  simp only [scanChars, h]

theorem scanChars_of_some {fault : LexFault} (h : lexemes cs = (ls, some fault)) :
    scanChars cs = .error ⟨fault, Position.start.after (ls.flatMap Lexeme.source)⟩ := by
  simp only [scanChars, h]

/-- The end of joined sources, counted from the second one. -/
theorem after_newline (hcs : cs = ls.flatMap Lexeme.source) :
    Position.start.after ((ls ++ .blank '\n' :: ms).flatMap Lexeme.source) =
      (Position.start.after (ms.flatMap Lexeme.source)).down (1 + cs.count '\n') := by
  have hsplit : (ls ++ .blank '\n' :: ms).flatMap Lexeme.source =
      (cs ++ ['\n']) ++ ms.flatMap Lexeme.source := by
    simp [hcs, Lexeme.source]
  rw [hsplit, Position.after_append, Position.start_after_newline, Position.after_down]

/-- The lexemes behind the line break are counted from the start of their own source. -/
theorem placed_newline (hcs : cs = ls.flatMap Lexeme.source) :
    placed .start (ls ++ .blank '\n' :: ms) =
      placed .start ls ++ (.blank '\n', Position.start.after cs) ::
        placed (Position.start.down (1 + cs.count '\n')) ms := by
  have hbreak : (Position.start.after cs).after ['\n'] =
      Position.start.down (1 + cs.count '\n') := by
    rw [← Position.after_append, Position.start_after_newline]
  rw [placed_append, ← hcs, placed]
  exact congrArg (fun p => placed .start ls ++ (.blank '\n', Position.start.after cs) ::
    placed p ms) hbreak

/-- What is found in two texts with a line break between them, both of which can be cut to
their ends. -/
theorem scanChars_newline {ds : List Char} {n : Nat} (hls : Tiles [] ls cs)
    (hms : lexemes ds = (ms, none)) (hn : n = 1 + cs.count '\n') :
    scanChars (cs ++ '\n' :: ds) =
      .ok ⟨(placed .start ls).filterMap placedToken? ++
          ((placed .start ms).filterMap placedToken?).map (Token.down n) ++
          [⟨.eof, "", (Position.start.after (ms.flatMap Lexeme.source)).down n⟩],
        (placed .start ls).filterMap placedWarning? ++
          ((placed .start ms).filterMap placedWarning?).map (LexWarning.down n)⟩ := by
  have hsource : cs = ls.flatMap Lexeme.source := by
    simpa using hls.text_eq
  have hjoined := lexemes_newline hls ds
  rw [hms] at hjoined
  rw [scanChars_of_none hjoined, placed_newline hsource, after_newline hsource, ← hn,
    List.filterMap_append, List.filterMap_append, ← filterMap_placed_down _ (placedToken?_down _),
    ← filterMap_placed_down _ (placedWarning?_down _)]
  rfl

end Scans

/-- A source that can be cut to its end leaves what follows a line break alone: the tokens
and warnings of the second source come after its own, without its end of input, and a fault
of the second source is the fault of both. All of them stand as many lines further down as
the first source has, in the same columns. -/
theorem scan_line_break (a b : String) (found : Scan) (h : scan a = .ok found) :
    ∃ tokens last, found.tokens = tokens ++ [⟨.eof, "", last⟩] ∧
      (∀ more, scan b = .ok more →
        scan (a ++ "\n" ++ b) =
          .ok ⟨tokens ++ more.tokens.map (Token.down (1 + a.toList.count '\n')),
            found.warnings ++ more.warnings.map (LexWarning.down (1 + a.toList.count '\n'))⟩) ∧
      ∀ e, scan b = .error e →
        scan (a ++ "\n" ++ b) = .error (e.down (1 + a.toList.count '\n')) := by
  have hchars : (a ++ "\n" ++ b).toList = a.toList ++ '\n' :: b.toList := by
    simp
  unfold scan at h ⊢
  rcases tiles_lexemes a.toList with ⟨ls, hls, htiles⟩ | ⟨ls, fault, c, rest, hls, -⟩
  · have hsource : a.toList = ls.flatMap Lexeme.source := by
      simpa using htiles.text_eq
    have hjoined := lexemes_newline htiles b.toList
    rw [scanChars_of_none hls] at h
    cases h
    rcases hms : lexemes b.toList with ⟨ms, _ | fault⟩
    · rw [hms] at hjoined
      refine ⟨_, _, rfl, fun more hmore => ?_, fun e he => ?_⟩
      · rw [scanChars_of_none hms] at hmore
        cases hmore
        rw [hchars, scanChars_of_none hjoined, placed_newline hsource, after_newline hsource]
        simp only [List.filterMap_append, List.filterMap_cons,
          filterMap_placed_down _ (placedToken?_down _),
          filterMap_placed_down _ (placedWarning?_down _), List.map_append, List.append_assoc]
        rfl
      · rw [scanChars_of_none hms] at he
        cases he
    · rw [hms] at hjoined
      refine ⟨_, _, rfl, fun more hmore => ?_, fun e he => ?_⟩
      · rw [scanChars_of_some hms] at hmore
        cases hmore
      · rw [scanChars_of_some hms] at he
        cases he
        rw [hchars, scanChars_of_some hjoined, after_newline hsource]
        rfl
  · rw [scanChars_of_some hls] at h
    cases h

def seams : String := "1.\n& \"\""

def seamsScan : Scan where
  tokens := [⟨.number, "1", ⟨1, 1⟩⟩, ⟨.dot, ".", ⟨1, 2⟩⟩, ⟨.string, "", ⟨2, 3⟩⟩, ⟨.eof, "", ⟨2, 5⟩⟩]
  warnings := [⟨'&', ⟨2, 1⟩⟩]

/-- The digit, the stray character and the quote that follow on the next line are not joined
to those before it, and a text that is left open there is found there. -/
theorem scan_line_break_seams :
    scan seams = .ok seamsScan ∧
    scan (seams ++ "\n" ++ "\"\" & 2") =
      .ok ⟨[⟨.number, "1", ⟨1, 1⟩⟩, ⟨.dot, ".", ⟨1, 2⟩⟩, ⟨.string, "", ⟨2, 3⟩⟩,
        ⟨.string, "", ⟨3, 1⟩⟩, ⟨.number, "2", ⟨3, 6⟩⟩, ⟨.eof, "", ⟨3, 7⟩⟩],
        [⟨'&', ⟨2, 1⟩⟩, ⟨'&', ⟨3, 4⟩⟩]⟩ ∧
    scan (seams ++ "\n" ++ "2\n '") = .error ⟨.openString, ⟨4, 2⟩⟩ := by
  have hseams : lexemes seams.toList = ([.number '1' [], .symbol .dot '.' [], .blank '\n',
      .skipped '&', .blank ' ', .string '"' []], none) := by
    decide +kernel
  have hmore : lexemes "\"\" & 2".toList = ([.string '"' [], .blank ' ', .skipped '&',
      .blank ' ', .number '2' []], none) := by
    decide +kernel
  have hopen : lexemes "2\n '".toList = ([.number '2' [], .blank '\n', .blank ' '],
      some .openString) := by
    decide +kernel
  have hfirst : scan seams = .ok seamsScan := scanChars_of_none hseams
  refine ⟨hfirst, ?_, ?_⟩
  · obtain ⟨tokens, last, htokens, hjoined, -⟩ :=
      scan_line_break seams "\"\" & 2" seamsScan hfirst
    have hinit := congrArg List.dropLast htokens
    rw [List.dropLast_concat] at hinit
    rw [hjoined _ (scanChars_of_none hmore), ← hinit]
    rfl
  · obtain ⟨-, -, -, -, hfails⟩ := scan_line_break seams "2\n '" seamsScan hfirst
    rw [hfails _ (scanChars_of_some hopen)]
    rfl

end FlowGraph
