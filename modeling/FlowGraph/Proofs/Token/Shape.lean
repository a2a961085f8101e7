import FlowGraph.Proofs.Text
import FlowGraph.Token.Scan

/-!
The shapes of lexemes, said without cutting. A lexeme is whole if its characters are those
of its kind, and it ends before a text that does not go on with it. At any place of a source
at most one whole lexeme ends before what follows, and this is the one that cutting takes;
where there is none, cutting stops.
-/

namespace FlowGraph

namespace Lexeme

open Text (takeWhile_append_stop)

/-- The body of a quoted text: behind a backslash any character, elsewhere neither the quote
nor a line break. -/
inductive Quoted (quote : Char) : List Char → Prop
  | nil : Quoted quote []
  | plain {c : Char} {cs : List Char} (hc : c ≠ '\\' ∧ c ≠ quote ∧ c ≠ '\n')
      (hcs : Quoted quote cs) : Quoted quote (c :: cs)
  | escaped (c : Char) {cs : List Char} (hcs : Quoted quote cs) : Quoted quote ('\\' :: c :: cs)

def Digits (cs : List Char) : Prop :=
  ∀ c ∈ cs, Decimal.isDigit c = true

def Fraction (cs : List Char) : Prop :=
  ∃ d ds, cs = '.' :: d :: ds ∧ Digits (d :: ds)

/-- The characters of a lexeme are those of its kind, up to its end. -/
def Whole : Lexeme → Prop
  | .blank c => c ∈ [' ', '\t', '\r', '\n']
  | .lineComment body => '\n' ∉ body
  | .blockComment body => ¬ ['*', '/'] <:+: body ++ ['*']
  | .longString body => ¬ ['"', '"', '"'] <:+: body ++ ['"', '"']
  | .string quote body => quote ∈ ['"', '\''] ∧ Quoted quote body
  | .number first more =>
    ∃ whole fraction, more = whole ++ fraction ∧ Digits whole ∧
      (Decimal.isDigit first = true ∨ first = '-' ∧ whole ≠ []) ∧
      (fraction = [] ∨ Fraction fraction)
  | .word first more => isWordStart first = true ∧ ∀ c ∈ more, isWordChar c = true
  | .symbol kind first more =>
    more = [] ∧ symbol? first = some kind ∨
      ∃ second, more = [second] ∧ pair? first second = some kind
  | .skipped c => c ∈ ['*', '?', '\\', '|', '&']

/-- What follows a lexeme does not go on with it. An empty text in double quotes is none
before a third quote, which opens a longer text. -/
def EndsBefore : Lexeme → List Char → Prop
  | .lineComment _, rest => ∀ c ∈ rest.head?, c = '\n'
  | .string quote body, rest => quote = '"' ∧ body = [] → rest.head? ≠ some '"'
  | .number _ more, rest =>
    (∀ c ∈ rest.head?, Decimal.isDigit c = false) ∧
      ('.' ∉ more → ∀ d tail, rest = '.' :: d :: tail → Decimal.isDigit d = false)
  | .word _ _, rest => ∀ c ∈ rest.head?, isWordChar c = false
  | .skipped c, rest => ∀ d ∈ rest.head?, pair? c d = none
  | _, _ => True

structure Cuts (mark : List Char) (close : List Char → Option (List Char × List Char)) : Prop where
  nonempty : mark ≠ []
  nil : close [] = none
  here (rest : List Char) : close (mark ++ rest) = some ([], rest)
  later {c : Char} {rest : List Char} (h : ¬ mark <+: c :: rest) :
    close (c :: rest) = (close rest).map fun (body, after) => (c :: body, after)

theorem cuts_closeComment : Cuts ['*', '/'] closeComment where
  nonempty := List.cons_ne_nil _ _
  nil := rfl
  here _ := rfl
  later h := by
    rw [closeComment]
    rintro rest rfl rfl
    exact h ⟨rest, rfl⟩

theorem cuts_closeLongString : Cuts ['"', '"', '"'] closeLongString where
  nonempty := List.cons_ne_nil _ _
  nil := rfl
  here _ := rfl
  later h := by
    rw [closeLongString]
    rintro rest rfl rfl
    exact h ⟨rest, rfl⟩

section Cuts

variable {mark : List Char} {close : List Char → Option (List Char × List Char)}

/-- There is no end exactly if the mark stands nowhere. -/
theorem Cuts.eq_none_iff (h : Cuts mark close) (cs : List Char) :
    close cs = none ↔ ¬ mark <:+: cs := by
  induction cs with
  | nil =>
    have hnot : ¬ mark <:+: [] := fun hmark => h.nonempty (List.infix_nil.mp hmark)
    exact iff_of_true h.nil hnot
  | cons c cs ih =>
    rw [List.infix_cons_iff]
    by_cases hhere : mark <+: c :: cs
    · obtain ⟨rest, hrest⟩ := hhere
      have hclose : close (c :: cs) = some ([], rest) := by rw [← hrest, h.here]
      rw [hclose]
      exact iff_of_false (Option.some_ne_none _) (fun hnot => hnot (Or.inl ⟨rest, hrest⟩))
    · rw [h.later hhere, Option.map_eq_none_iff, ih]
      simp [hhere]

/-- A mark that starts in the body ends in it or in the mark behind it. -/
theorem prefix_of_prefix_append {mark body rest : List Char} (hbody : body ≠ [])
    (h : mark <+: body ++ mark ++ rest) : mark <+: body ++ mark.dropLast := by
  have hlonger : body ++ mark.dropLast <+: body ++ mark ++ rest := by
    refine List.IsPrefix.trans ?_ (List.prefix_append (body ++ mark) rest)
    exact (List.prefix_append_right_inj body).mpr (List.dropLast_prefix mark)
  refine List.prefix_of_prefix_length_le h hlonger ?_
  have hpos := List.length_pos_iff.mpr hbody
  rw [List.length_append, List.length_dropLast]
  omega

/-- The body ends where the mark stands for the first time. -/
theorem Cuts.eq_some_iff (h : Cuts mark close) {cs body rest : List Char} :
    close cs = some (body, rest) ↔
      cs = body ++ mark ++ rest ∧ ¬ mark <:+: body ++ mark.dropLast := by
  have hpos := List.length_pos_iff.mpr h.nonempty
  induction cs generalizing body with
  | nil =>
    have hne : [] ≠ body ++ mark ++ rest := by
      intro heq
      have hlength := congrArg List.length heq
      rw [List.length_append, List.length_append, List.length_nil] at hlength
      omega
    rw [h.nil]
    exact iff_of_false (Option.some_ne_none _).symm (fun hbody => hne hbody.1)
  | cons c cs ih =>
    by_cases hhere : mark <+: c :: cs
    · obtain ⟨after, hafter⟩ := hhere
      have hclose : close (c :: cs) = some ([], after) := by rw [← hafter, h.here]
      rw [hclose]
      constructor
      · intro heq
        obtain ⟨rfl, rfl⟩ := Prod.mk.inj (Option.some.inj heq)
        refine ⟨hafter.symm, ?_⟩
        intro hinside
        have hle := hinside.length_le
        rw [List.nil_append, List.length_dropLast] at hle
        omega
      · rintro ⟨heq, hfirst⟩
        by_cases hbody : body = []
        · subst hbody
          have hrest : mark ++ after = mark ++ rest := hafter.trans heq
          rw [List.append_cancel_left hrest]
        · have hstart : mark <+: body ++ mark ++ rest := heq ▸ ⟨after, hafter⟩
          exact absurd (prefix_of_prefix_append hbody hstart).isInfix hfirst
    · rw [h.later hhere, Option.map_eq_some_iff]
      constructor
      · rintro ⟨⟨inner, after⟩, hinner, heq⟩
        obtain ⟨rfl, rfl⟩ := Prod.mk.inj heq
        obtain ⟨rfl, hfirst⟩ := ih.mp hinner
        refine ⟨rfl, ?_⟩
        rw [List.cons_append, List.infix_cons_iff]
        rintro (hstart | hinside)
        · apply hhere
          refine hstart.trans ?_
          rw [List.append_assoc, List.cons_prefix_cons]
          refine ⟨rfl, (List.prefix_append_right_inj inner).mpr ?_⟩
          exact (List.dropLast_prefix mark).trans (List.prefix_append mark after)
        · exact hfirst hinside
      · rintro ⟨heq, hfirst⟩
        cases body with
        | nil => exact absurd ⟨rest, heq.symm⟩ hhere
        | cons d inner =>
          obtain ⟨rfl, rfl⟩ := List.cons.inj heq
          rw [List.cons_append, List.infix_cons_iff] at hfirst
          exact ⟨(inner, rest), ih.mpr ⟨rfl, fun hinside => hfirst (Or.inr hinside)⟩, rfl⟩

end Cuts

theorem closeString_cons {quote c : Char} (hc : c ≠ '\\' ∧ c ≠ quote ∧ c ≠ '\n')
    (rest : List Char) :
    closeString quote (c :: rest) =
      (closeString quote rest).map fun (body, after) => (c :: body, after) := by
  rw [closeString]
  · simp [hc]
  · rintro d more rfl
    exact absurd rfl hc.1

/-- What stands before the closing quote has none that is not escaped. -/
theorem quoted_of_closeString {quote : Char} {cs body rest : List Char}
    (h : closeString quote cs = some (body, rest)) : Quoted quote body := by
  fun_induction closeString quote cs generalizing body with
  | case1 => cases h
  | case2 c tail ih =>
    obtain ⟨⟨inner, after⟩, hinner, heq⟩ := Option.map_eq_some_iff.mp h
    obtain ⟨rfl, rfl⟩ := Prod.mk.inj heq
    exact .escaped c (ih hinner)
  | case3 => cases h
  | case4 =>
    cases h
    exact .nil
  | case5 c tail _ hstop hquote ih =>
    obtain ⟨⟨inner, after⟩, hinner, heq⟩ := Option.map_eq_some_iff.mp h
    obtain ⟨rfl, rfl⟩ := Prod.mk.inj heq
    have hplain : c ≠ '\n' ∧ c ≠ '\\' := by simpa using hstop
    exact .plain ⟨hplain.2, hquote, hplain.1⟩ (ih hinner)

/-- A body without such a quote is closed by the first one behind it. -/
theorem closeString_of_quoted {quote : Char} {body : List Char} (h : Quoted quote body)
    (hquote : quote ≠ '\\' ∧ quote ≠ '\n') (rest : List Char) :
    closeString quote (body ++ quote :: rest) = some (body, rest) := by
  induction h with
  | nil =>
    rw [List.nil_append, closeString]
    · simp [hquote]
    · rintro c tail rfl
      exact absurd rfl hquote.1
  | plain hc _ ih =>
    rw [List.cons_append, closeString_cons hc, ih]
    rfl
  | escaped c _ ih =>
    rw [List.cons_append, List.cons_append, closeString, ih]
    rfl

theorem digits_takeWhile (cs : List Char) : Digits (cs.takeWhile Decimal.isDigit) :=
  List.all_eq_true.mp List.all_takeWhile

/-- Nothing that was dropped comes again at once. -/
theorem head?_dropWhile_eq_false {p : Char → Bool} {cs : List Char} :
    ∀ c ∈ (cs.dropWhile p).head?, p c = false := by
  intro c hc
  have hnot := List.head?_dropWhile_not p cs
  rw [hc] at hnot
  simpa using hnot

/-- A number takes all digits, then a point and all digits behind it if there are any. -/
theorem takeNumber_shape (c : Char) (cs : List Char) :
    (∃ fraction, (takeNumber cs).1 = cs.takeWhile Decimal.isDigit ++ fraction ∧
      (fraction = [] ∨ Fraction fraction)) ∧
    (number c (takeNumber cs).1).EndsBefore (takeNumber cs).2 := by
  have hstop : ∀ d ∈ (cs.dropWhile Decimal.isDigit).head?, Decimal.isDigit d = false :=
    head?_dropWhile_eq_false
  unfold takeNumber
  split
  · next d rest hdrop =>
    by_cases hd : Decimal.isDigit d = true
    · rw [if_pos hd]
      refine ⟨⟨'.' :: d :: rest.takeWhile Decimal.isDigit, rfl, Or.inr ⟨d, _, rfl, ?_⟩⟩,
        head?_dropWhile_eq_false, ?_⟩
      · intro e he
        rcases List.mem_cons.mp he with rfl | he
        · exact hd
        · exact digits_takeWhile rest e he
      · intro hpoint
        exact absurd (List.mem_append_right _ List.mem_cons_self) hpoint
    · rw [if_neg hd]
      refine ⟨⟨[], (List.append_nil _).symm, Or.inl rfl⟩, ?_, ?_⟩
      · rw [← hdrop]
        exact hstop
      · intro _ e tail heq
        cases heq
        simpa using hd
  · next hpoint =>
    refine ⟨⟨[], (List.append_nil _).symm, Or.inl rfl⟩, hstop, ?_⟩
    intro _ d tail heq
    exact absurd heq (hpoint d tail)

/-- Digits and a fraction that do not go on are taken as a whole. -/
theorem takeNumber_of_shape {c : Char} {whole fraction rest : List Char} (hwhole : Digits whole)
    (hfraction : fraction = [] ∨ Fraction fraction)
    (hends : (number c (whole ++ fraction)).EndsBefore rest) :
    takeNumber (whole ++ fraction ++ rest) = (whole ++ fraction, rest) := by
  obtain ⟨hdigit, hpoint⟩ := hends
  rcases hfraction with rfl | ⟨d, ds, rfl, hds⟩
  · rw [List.append_nil] at hpoint ⊢
    have hnone : '.' ∉ whole := fun hmem => absurd (hwhole '.' hmem) (by decide)
    obtain ⟨htake, hdrop⟩ := takeWhile_append_stop hwhole hdigit
    unfold takeNumber
    rw [htake, hdrop]
    split
    · next d tail =>
      have hd : Decimal.isDigit d = false := hpoint hnone d tail rfl
      simp [hd]
    · rfl
  · have hdot : ∀ e ∈ ('.' :: d :: ds ++ rest).head?, Decimal.isDigit e = false := by
      intro e he
      cases he
      decide
    obtain ⟨htake, hdrop⟩ := takeWhile_append_stop hwhole hdot
    have htail : ∀ e ∈ ds, Decimal.isDigit e = true := fun e he => hds e (List.mem_cons_of_mem d he)
    obtain ⟨htake', hdrop'⟩ := takeWhile_append_stop htail hdigit
    rw [List.append_assoc]
    unfold takeNumber
    rw [htake, hdrop]
    have hd : Decimal.isDigit d = true := hds d List.mem_cons_self
    simp [hd, htake', hdrop']

theorem isSpace_eq_true_iff {c : Char} : isSpace c = true ↔ c ∈ [' ', '\t', '\r', '\n'] := by
  simp [isSpace, or_assoc]

theorem isStray_eq_true_iff {c : Char} :
    isStray c = true ↔ c ∈ ['*', '?', '\\', '|', '&'] := by
  simp [isStray, or_assoc]

/-- What cutting takes is whole and ends before what is left. -/
theorem whole_of_next {c : Char} {cs rest : List Char} {l : Lexeme}
    (h : next c cs = .ok (l, rest)) : l.Whole ∧ l.EndsBefore rest := by
  unfold next at h
  split at h
  · next hspace =>
    cases h
    exact ⟨isSpace_eq_true_iff.mp hspace, trivial⟩
  split at h
  · cases h
    refine ⟨?_, ?_⟩
    · intro hmem
      have hline := List.all_eq_true.mp List.all_takeWhile '\n' hmem
      simp at hline
    · intro d hd
      simpa using head?_dropWhile_eq_false d hd
  split at h
  · split at h
    · next body after hclose =>
      cases h
      exact ⟨(cuts_closeComment.eq_some_iff.mp hclose).2, trivial⟩
    · cases h
  split at h
  · split at h
    · next body after hclose =>
      cases h
      exact ⟨(cuts_closeLongString.eq_some_iff.mp hclose).2, trivial⟩
    · cases h
  split at h
  · next hlong hquote =>
    split at h
    · next body after hclose =>
      cases h
      refine ⟨⟨?_, quoted_of_closeString hclose⟩, ?_⟩
      · simpa using hquote
      · rintro ⟨rfl, rfl⟩ hhead
        obtain ⟨tail, rfl⟩ := List.head?_eq_some_iff.mp hhead
        rw [closeString_eq hclose] at hlong
        simp at hlong
    · cases h
  split at h
  · next hnumber =>
    cases h
    obtain ⟨⟨fraction, hmore, hfraction⟩, hends⟩ := takeNumber_shape c cs
    refine ⟨⟨_, fraction, hmore, digits_takeWhile cs, ?_, hfraction⟩, hends⟩
    rcases Bool.or_eq_true_iff.mp hnumber with hdigit | hminus
    · exact Or.inl hdigit
    · cases cs with
      | nil => simp at hminus
      | cons d ds =>
        have hd : c = '-' ∧ Decimal.isDigit d = true := by simpa using hminus
        exact Or.inr ⟨hd.1, by simp [hd.2]⟩
  split at h
  · next hword =>
    cases h
    exact ⟨⟨hword, List.all_eq_true.mp List.all_takeWhile⟩, head?_dropWhile_eq_false⟩
  split at h
  · next kind hkind =>
    cases h
    obtain ⟨d, hd, hpair⟩ := Option.bind_eq_some_iff.mp hkind
    obtain ⟨tail, rfl⟩ := List.head?_eq_some_iff.mp hd
    exact ⟨Or.inr ⟨d, rfl, hpair⟩, trivial⟩
  next hpair =>
  split at h
  · next hstray =>
    cases h
    refine ⟨isStray_eq_true_iff.mp hstray, ?_⟩
    intro d hd
    rw [hd] at hpair
    exact hpair
  split at h
  · next kind hkind =>
    cases h
    exact ⟨Or.inl ⟨rfl, hkind⟩, trivial⟩
  · cases h

theorem not_isDigit_of_isWordStart {c : Char} (hc : isWordStart c = true) :
    Decimal.isDigit c = false := by
  simp only [isWordStart, Bool.or_eq_true, Bool.and_eq_true, decide_eq_true_eq, Char.le_def,
    UInt32.le_iff_toNat_le] at hc
  have hnot : ¬ Decimal.isDigit c = true := by
    intro hdigit
    simp only [Decimal.isDigit, Bool.and_eq_true, decide_eq_true_eq, Char.le_def,
      UInt32.le_iff_toNat_le] at hdigit
    rcases hc with (hlower | hupper) | rfl
    · exact absurd (Nat.le_trans hlower.1 hdigit.2) (by decide)
    · exact absurd (Nat.le_trans hupper.1 hdigit.2) (by decide)
    · exact absurd hdigit.2 (by decide)
  simpa using hnot

/-- A letter, a digit, an underscore or a minus starts no blank, comment or quoted
text. -/
theorem starts_of_isWordChar {c : Char} (hc : isWordChar c = true ∨ c = '-') :
    isSpace c = false ∧ c ≠ '/' ∧ c ≠ '"' ∧ c ≠ '\'' := by
  have hne (d : Char) (hd : isWordChar d = false ∧ d ≠ '-') : c ≠ d := by
    rintro rfl
    rcases hc with hc | hc
    · rw [hd.1] at hc
      cases hc
    · exact hd.2 hc
  refine ⟨?_, hne '/' (by decide), hne '"' (by decide), hne '\'' (by decide)⟩
  simp [isSpace, hne ' ' (by decide), hne '\t' (by decide), hne '\r' (by decide),
    hne '\n' (by decide)]

theorem next_eq_blank {c : Char} (hc : c ∈ [' ', '\t', '\r', '\n']) (rest : List Char) :
    next c rest = .ok (.blank c, rest) := by
  rw [next, if_pos (isSpace_eq_true_iff.mpr hc)]

theorem next_eq_lineComment {body rest : List Char} (hbody : '\n' ∉ body)
    (hends : ∀ c ∈ rest.head?, c = '\n') :
    next '/' ('/' :: body ++ rest) = .ok (.lineComment body, rest) := by
  have hplain : ∀ c ∈ body, (decide (c ≠ '\n')) = true := by
    intro c hc
    simpa using fun heq : c = '\n' => hbody (heq ▸ hc)
  have hstop : ∀ c ∈ rest.head?, (decide (c ≠ '\n')) = false := by
    intro c hc
    simpa using hends c hc
  obtain ⟨htake, hdrop⟩ := takeWhile_append_stop hplain hstop
  simp only [ne_eq, decide_not] at htake hdrop
  simp [next, isSpace, htake, hdrop]

theorem next_eq_blockComment {body : List Char} (hbody : ¬ ['*', '/'] <:+: body ++ ['*'])
    (rest : List Char) :
    next '/' ('*' :: body ++ ['*', '/'] ++ rest) = .ok (.blockComment body, rest) := by
  have hclose : closeComment (body ++ ['*', '/'] ++ rest) = some (body, rest) :=
    cuts_closeComment.eq_some_iff.mpr ⟨rfl, hbody⟩
  rw [List.cons_append, List.cons_append]
  simp only [next, List.head?_cons, List.tail_cons, hclose]
  rfl

theorem next_eq_longString {body : List Char} (hbody : ¬ ['"', '"', '"'] <:+: body ++ ['"', '"'])
    (rest : List Char) :
    next '"' ('"' :: '"' :: body ++ ['"', '"', '"'] ++ rest) = .ok (.longString body, rest) := by
  have hclose : closeLongString (body ++ ['"', '"', '"'] ++ rest) = some (body, rest) :=
    cuts_closeLongString.eq_some_iff.mpr ⟨rfl, hbody⟩
  have hdrop : ('"' :: '"' :: body ++ ['"', '"', '"'] ++ rest).drop 2 =
      body ++ ['"', '"', '"'] ++ rest := rfl
  simp only [next, hdrop, hclose]
  rfl

/-- The body starts with another character than the quote. -/
theorem Quoted.head?_ne {quote : Char} {body : List Char} (h : Quoted quote body)
    (hquote : quote ≠ '\\') : body.head? ≠ some quote := by
  cases h with
  | nil => simp
  | plain hc _ => simpa using hc.2.1
  | escaped c _ => simpa using Ne.symm hquote

theorem next_eq_string {quote : Char} {body rest : List Char} (hquote : quote ∈ ['"', '\''])
    (hbody : Quoted quote body) (hends : quote = '"' ∧ body = [] → rest.head? ≠ some '"') :
    next quote (body ++ quote :: rest) = .ok (.string quote body, rest) := by
  simp only [List.mem_cons, List.not_mem_nil, or_false] at hquote
  have hplain : quote ≠ '\\' ∧ quote ≠ '\n' := by
    rcases hquote with rfl | rfl <;> decide
  have hlong : ¬ (quote = '"' ∧ (body ++ quote :: rest).take 2 = ['"', '"']) := by
    rintro ⟨rfl, htake⟩
    have hhead := hbody.head?_ne hplain.1
    cases body with
    | nil =>
      refine hends ⟨rfl, rfl⟩ ?_
      cases rest with
      | nil => simp at htake
      | cons c rest => simpa using htake
    | cons c body => exact hhead (by simpa using congrArg List.head? htake)
  have hclose := closeString_of_quoted hbody hplain rest
  rcases hquote with rfl | rfl
  · simp only [true_and] at hlong
    simp [next, isSpace, hlong, hclose]
  · simp [next, isSpace, hclose]

theorem next_eq_number {c : Char} {whole fraction rest : List Char} (hwhole : Digits whole)
    (hc : Decimal.isDigit c = true ∨ c = '-' ∧ whole ≠ [])
    (hfraction : fraction = [] ∨ Fraction fraction)
    (hends : (number c (whole ++ fraction)).EndsBefore rest) :
    next c (whole ++ fraction ++ rest) = .ok (.number c (whole ++ fraction), rest) := by
  have hstart : isWordChar c = true ∨ c = '-' := by
    rcases hc with hc | ⟨hc, -⟩
    · simp [isWordChar, hc]
    · exact Or.inr hc
  have hnumber : (Decimal.isDigit c ||
      c = '-' && (whole ++ fraction ++ rest).head?.any Decimal.isDigit) = true := by
    rcases hc with hc | ⟨rfl, hne⟩
    · simp [hc]
    · obtain ⟨d, ds, rfl⟩ := List.exists_cons_of_ne_nil hne
      simp [hwhole d List.mem_cons_self]
  obtain ⟨hspace, hslash, hquote, hsingle⟩ := starts_of_isWordChar hstart
  unfold next
  simp only [hspace, hslash, hquote, hsingle, decide_false, Bool.false_and, Bool.or_false,
    Bool.false_eq_true, if_false, hnumber, if_true, takeNumber_of_shape hwhole hfraction hends]

theorem next_eq_word {c : Char} {cs rest : List Char} (hc : isWordStart c = true)
    (hcs : ∀ d ∈ cs, isWordChar d = true) (hends : ∀ d ∈ rest.head?, isWordChar d = false) :
    next c (cs ++ rest) = .ok (.word c cs, rest) := by
  have hword : isWordChar c = true := by simp [isWordChar, hc]
  have hminus : c ≠ '-' := by
    rintro rfl
    exact absurd hc (by decide)
  obtain ⟨hspace, hslash, hquote, hsingle⟩ := starts_of_isWordChar (Or.inl hword)
  obtain ⟨htake, hdrop⟩ := takeWhile_append_stop hcs hends
  simp [next, hspace, hslash, hquote, hsingle, not_isDigit_of_isWordStart hc, hminus, hc, htake,
    hdrop]

theorem next_eq_pair {c d : Char} {kind : TokenKind} (h : pair? c d = some kind)
    (rest : List Char) : next c (d :: rest) = .ok (.symbol kind c [d], rest) := by
  unfold pair? at h
  split at h <;> cases h <;> rfl

theorem next_eq_symbol {c : Char} {kind : TokenKind} (h : symbol? c = some kind)
    (rest : List Char) : next c rest = .ok (.symbol kind c [], rest) := by
  unfold symbol? at h
  split at h <;> cases h <;> cases rest <;> rfl

theorem next_eq_skipped {c : Char} {rest : List Char} (hc : c ∈ ['*', '?', '\\', '|', '&'])
    (hends : ∀ d ∈ rest.head?, pair? c d = none) : next c rest = .ok (.skipped c, rest) := by
  have hpair : rest.head?.bind (pair? c) = none := by
    cases hhead : rest.head? with
    | none => rfl
    | some d => exact hends d hhead
  simp only [List.mem_cons, List.not_mem_nil, or_false] at hc
  unfold next
  rw [hpair]
  rcases hc with rfl | rfl | rfl | rfl | rfl <;> rfl

/-- A whole lexeme that ends before what follows is what cutting takes. -/
theorem next_of_whole {c : Char} {cs rest : List Char} {l : Lexeme} (hl : l.Whole)
    (hends : l.EndsBefore rest) (h : c :: cs = l.source ++ rest) : next c cs = .ok (l, rest) := by
  cases l with
  | blank d =>
    obtain ⟨rfl, rfl⟩ := List.cons.inj h
    exact next_eq_blank hl cs
  | lineComment body =>
    obtain ⟨rfl, rfl⟩ := List.cons.inj h
    exact next_eq_lineComment hl hends
  | blockComment body =>
    obtain ⟨rfl, rfl⟩ := List.cons.inj h
    exact next_eq_blockComment hl rest
  | longString body =>
    obtain ⟨rfl, rfl⟩ := List.cons.inj h
    exact next_eq_longString hl rest
  | string quote body =>
    obtain ⟨rfl, hcs⟩ := List.cons.inj h
    have hbody : cs = body ++ c :: rest := by simpa using hcs
    rw [hbody]
    exact next_eq_string hl.1 hl.2 hends
  | number first more =>
    obtain ⟨rfl, rfl⟩ := List.cons.inj h
    obtain ⟨whole, fraction, rfl, hwhole, hfirst, hfraction⟩ := hl
    exact next_eq_number hwhole hfirst hfraction hends
  | word first more =>
    obtain ⟨rfl, rfl⟩ := List.cons.inj h
    exact next_eq_word hl.1 hl.2 hends
  | symbol kind first more =>
    obtain ⟨rfl, rfl⟩ := List.cons.inj h
    rcases hl with ⟨rfl, hkind⟩ | ⟨second, rfl, hkind⟩
    · exact next_eq_symbol hkind rest
    · exact next_eq_pair hkind rest
  | skipped d =>
    obtain ⟨rfl, rfl⟩ := List.cons.inj h
    exact next_eq_skipped hl hends

/-- Cutting takes a lexeme exactly if the text begins with it, it is whole and it does not go on. -/
theorem next_eq_ok_iff {c : Char} {cs rest : List Char} {l : Lexeme} :
    next c cs = .ok (l, rest) ↔ c :: cs = l.source ++ rest ∧ l.Whole ∧ l.EndsBefore rest :=
  ⟨fun h => ⟨next_source h, whole_of_next h⟩, fun h => next_of_whole h.2.1 h.2.2 h.1⟩

end Lexeme

/-- What a fault says of the character that it is at and of the text after it: a comment or a
quoted text begins there and has no end, or nothing begins there. -/
def LexFault.At (fault : LexFault) (c : Char) (rest : List Char) : Prop :=
  match fault with
  | .openComment => ∃ body, c :: rest = '/' :: '*' :: body ∧ ¬ ['*', '/'] <:+: body
  | .openLongString => ∃ body, c :: rest = '"' :: '"' :: '"' :: body ∧ ¬ ['"', '"', '"'] <:+: body
  | .openString =>
    c ∈ ['"', '\''] ∧ ¬ ['"', '"', '"'] <+: c :: rest ∧
      ∀ body, Lexeme.Quoted c body → ¬ body ++ [c] <+: rest
  | .character d =>
    d = c ∧ c ∉ ['"', '\''] ∧ ¬ ['/', '*'] <+: c :: rest ∧
      ∀ l : Lexeme, l.Whole → ¬ l.source <+: c :: rest

namespace Lexeme

theorem prefix_pair_iff {c d e : Char} {cs : List Char} :
    [d, e] <+: c :: cs ↔ c = d ∧ cs.head? = some e := by
  cases cs with
  | nil => simp
  | cons f cs => simp [eq_comm]

theorem not_closed_of_closeString {quote : Char} {cs body : List Char}
    (hquote : quote ≠ '\\' ∧ quote ≠ '\n') (h : closeString quote cs = none)
    (hbody : Quoted quote body) : ¬ body ++ [quote] <+: cs := by
  rintro ⟨rest, rfl⟩
  rw [List.append_assoc, List.singleton_append, closeString_of_quoted hbody hquote] at h
  cases h

structure Lone (c : Char) (cs : List Char) : Prop where
  space : isSpace c = false
  comment : ¬ (c = '/' ∧ (cs.head? = some '/' ∨ cs.head? = some '*'))
  quote : c ≠ '"' ∧ c ≠ '\''
  digit : Decimal.isDigit c = false
  minus : ¬ (c = '-' ∧ cs.head?.any Decimal.isDigit = true)
  word : isWordStart c = false
  pair : cs.head?.bind (pair? c) = none
  stray : isStray c = false
  symbol : symbol? c = none

/-- No whole lexeme begins where nothing was found to begin. -/
theorem Lone.not_starts {c : Char} {cs : List Char} (h : Lone c cs) {l : Lexeme}
    (hl : l.Whole) : ¬ l.source <+: c :: cs := by
  rintro ⟨rest, hrest⟩
  cases l with
  | blank d =>
    obtain ⟨rfl, rfl⟩ := List.cons.inj hrest
    have hspace := isSpace_eq_true_iff.mpr hl
    rw [h.space] at hspace
    cases hspace
  | lineComment body =>
    obtain ⟨rfl, rfl⟩ := List.cons.inj hrest
    exact h.comment ⟨rfl, Or.inl rfl⟩
  | blockComment body =>
    obtain ⟨rfl, rfl⟩ := List.cons.inj hrest
    exact h.comment ⟨rfl, Or.inr rfl⟩
  | longString body =>
    obtain ⟨rfl, rfl⟩ := List.cons.inj hrest
    exact h.quote.1 rfl
  | string quote body =>
    obtain ⟨rfl, -⟩ := List.cons.inj hrest
    have hquote : quote = '"' ∨ quote = '\'' := by simpa using hl.1
    exact hquote.elim h.quote.1 h.quote.2
  | number first more =>
    obtain ⟨rfl, rfl⟩ := List.cons.inj hrest
    obtain ⟨whole, fraction, rfl, hwhole, hdigit | ⟨hminus, hne⟩, -⟩ := hl
    · rw [h.digit] at hdigit
      cases hdigit
    · obtain ⟨d, ds, rfl⟩ := List.exists_cons_of_ne_nil hne
      exact h.minus ⟨hminus, by simpa using hwhole d List.mem_cons_self⟩
  | word first more =>
    obtain ⟨rfl, rfl⟩ := List.cons.inj hrest
    have hword := hl.1
    rw [h.word] at hword
    cases hword
  | symbol kind first more =>
    obtain ⟨rfl, rfl⟩ := List.cons.inj hrest
    rcases hl with ⟨rfl, hkind⟩ | ⟨second, rfl, hkind⟩
    · rw [h.symbol] at hkind
      cases hkind
    · have hpair : pair? first second = none := h.pair
      rw [hpair] at hkind
      cases hkind
  | skipped d =>
    obtain ⟨rfl, rfl⟩ := List.cons.inj hrest
    have hstray := isStray_eq_true_iff.mpr hl
    rw [h.stray] at hstray
    cases hstray

/-- Where cutting stops, its fault is true of the text. -/
theorem next_eq_error {c : Char} {cs : List Char} {fault : LexFault}
    (h : next c cs = .error fault) : fault.At c cs := by
  unfold next at h
  split at h
  · cases h
  next hspace =>
  split at h
  · cases h
  next hline =>
  split at h
  · next hc =>
    split at h
    · cases h
    · next hclose =>
      cases h
      have hopen : c = '/' ∧ cs.head? = some '*' := by simpa using hc
      obtain ⟨rfl, hhead⟩ := hopen
      obtain ⟨body, rfl⟩ := List.head?_eq_some_iff.mp hhead
      exact ⟨body, rfl, (cuts_closeComment.eq_none_iff body).mp hclose⟩
  next hcomment =>
  split at h
  · next hc =>
    split at h
    · cases h
    · next hclose =>
      cases h
      have hopen : c = '"' ∧ cs.take 2 = ['"', '"'] := by simpa using hc
      obtain ⟨rfl, htake⟩ := hopen
      have hcs : cs = '"' :: '"' :: cs.drop 2 := by
        conv => lhs; rw [← List.take_append_drop 2 cs, htake]
        rfl
      refine ⟨cs.drop 2, congrArg ('"' :: ·) hcs, (cuts_closeLongString.eq_none_iff _).mp hclose⟩
  next hlong =>
  split at h
  · next hc =>
    split at h
    · cases h
    · next hclose =>
      cases h
      have hquote : c = '"' ∨ c = '\'' := by simpa using hc
      have hplain : c ≠ '\\' ∧ c ≠ '\n' := by
        rcases hquote with rfl | rfl <;> decide
      refine ⟨by simpa using hquote, ?_, fun _ => not_closed_of_closeString hplain hclose⟩
      rintro ⟨tail, htail⟩
      obtain ⟨rfl, rfl⟩ := List.cons.inj htail
      simp at hlong
  next hquote =>
  split at h
  · cases h
  next hnumber =>
  split at h
  · cases h
  next hword =>
  split at h
  · cases h
  next hpair =>
  split at h
  · cases h
  next hstray =>
  split at h
  · cases h
  next hsymbol =>
  cases h
  have hlone : Lone c cs :=
    { space := by simpa using hspace
      comment := by
        rintro ⟨rfl, hhead | hhead⟩
        · simp [hhead] at hline
        · simp [hhead] at hcomment
      quote := by simpa using hquote
      digit := by simpa using fun hdigit : Decimal.isDigit c = true => hnumber (by simp [hdigit])
      minus := by
        rintro ⟨rfl, hhead⟩
        simp [hhead] at hnumber
      word := by simpa using hword
      pair := hpair
      stray := by simpa using hstray
      symbol := hsymbol }
  refine ⟨rfl, by simpa using hquote, ?_, fun l hl => hlone.not_starts hl⟩
  rw [prefix_pair_iff]
  exact fun hopen => hlone.comment ⟨hopen.1, Or.inr hopen.2⟩

end Lexeme

def IsWord (text : String) : Prop :=
  ∃ first more, text.toList = first :: more ∧ (Lexeme.word first more).Whole

theorem isWord_iff {text : String} :
    IsWord text ↔ text.toList.head?.any Lexeme.isWordStart = true ∧
      text.toList.tail.all Lexeme.isWordChar = true := by
  unfold IsWord
  cases text.toList with
  | nil => simp
  | cons first more => simp [Lexeme.Whole]

instance (text : String) : Decidable (IsWord text) :=
  decidable_of_iff _ isWord_iff.symm

theorem IsWord.isWordChar {text : String} (htext : IsWord text) :
    ∀ c ∈ text.toList, Lexeme.isWordChar c = true := by
  obtain ⟨first, more, hlist, hfirst, hmore⟩ := htext
  intro c hc
  rw [hlist] at hc
  rcases List.mem_cons.mp hc with rfl | hc
  · simp [Lexeme.isWordChar, hfirst]
  · exact hmore c hc

end FlowGraph
