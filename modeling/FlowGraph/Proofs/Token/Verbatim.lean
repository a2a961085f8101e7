import FlowGraph.Proofs.Token.Lexing

/-!
Texts that stand for themselves between double quotes. A text that is put there as it is
comes back as it is exactly if no quote, line break or backslash in it has a meaning of its
own, provided that the line goes on behind the text without another quote.
-/

namespace FlowGraph.Lexeme

def escapable : List Char :=
  ['n', 't', 'r', '\\', '"', '\'', '/']

/-- The text stands for itself between double quotes. -/
inductive Verbatim : List Char → Prop
  | nil : Verbatim []
  | plain {c : Char} {cs : List Char} (hc : c ≠ '\\' ∧ c ≠ '"' ∧ c ≠ '\n') (hcs : Verbatim cs) :
      Verbatim (c :: cs)
  | kept {c : Char} {cs : List Char} (hc : c ∉ escapable) (hcs : Verbatim cs) :
      Verbatim ('\\' :: c :: cs)

def isVerbatim : List Char → Bool
  | [] => true
  | '\\' :: c :: cs => c ∉ escapable && isVerbatim cs
  | c :: cs => c ≠ '\\' && c ≠ '"' && c ≠ '\n' && isVerbatim cs

variable {cs body rest after : List Char}

theorem isVerbatim_iff : isVerbatim cs = true ↔ Verbatim cs := by
  constructor
  · intro h
    fun_induction isVerbatim cs with
    | case1 => exact .nil
    | case2 c cs ih =>
      simp only [Bool.and_eq_true, decide_eq_true_eq] at h
      exact .kept h.1 (ih h.2)
    | case3 c cs _ ih =>
      simp only [Bool.and_eq_true, decide_eq_true_eq] at h
      exact .plain ⟨h.1.1.1, h.1.1.2, h.1.2⟩ (ih h.2)
  · intro h
    induction h with
    | nil => rfl
    | plain hc _ ih => simp [isVerbatim, hc, ih]
    | kept hc _ ih => simp [isVerbatim, hc, ih]

instance : DecidablePred Verbatim := fun _ =>
  decidable_of_iff _ isVerbatim_iff

theorem length_unescape_le (cs : List Char) : (unescape cs).length ≤ cs.length := by
  fun_induction unescape cs with
  | case1 => exact Nat.le_refl _
  | case2 | case3 | case4 | case5 | case6 | case7 =>
    simp only [List.length_cons]
    omega

theorem unescape_kept {c : Char} (hc : c ∉ escapable) (cs : List Char) :
    unescape ('\\' :: c :: cs) = '\\' :: c :: unescape cs := by
  simp only [escapable, List.mem_cons, List.not_mem_nil, or_false, not_or] at hc
  simp [unescape, hc]

/-- A backslash before one of these characters is lost. -/
theorem unescape_ne {c : Char} (hc : c ∈ escapable) (cs : List Char) :
    unescape ('\\' :: c :: cs) ≠ '\\' :: c :: cs := by
  intro heq
  have hlength := congrArg List.length heq
  have hle := length_unescape_le cs
  simp only [escapable, List.mem_cons, List.not_mem_nil, or_false] at hc
  rcases hc with rfl | rfl | rfl | rfl | rfl | rfl | rfl
  all_goals
    simp [unescape] at hlength
    omega

theorem Verbatim.quoted (hcs : Verbatim cs) : Quoted '"' cs := by
  induction hcs with
  | nil => exact .nil
  | plain hc _ ih => exact .plain hc ih
  | kept _ _ ih => exact .escaped _ ih

/-- Such a text is read as it is written. -/
theorem Verbatim.unescape_eq (hcs : Verbatim cs) : unescape cs = cs := by
  induction hcs with
  | nil => rfl
  | plain hc _ ih => rw [unescape_cons hc.1, ih]
  | kept hc _ ih => rw [unescape_kept hc, ih]

/-- A quoted text that is read as it is written has no backslash with a meaning. -/
theorem verbatim_of_quoted (hquoted : Quoted '"' cs) (hsame : unescape cs = cs) : Verbatim cs := by
  induction hquoted with
  | nil => exact .nil
  | plain hc _ ih =>
    rw [unescape_cons hc.1] at hsame
    exact .plain hc (ih (List.cons.inj hsame).2)
  | @escaped c cs _ ih =>
    by_cases hc : c ∈ escapable
    · exact absurd hsame (unescape_ne hc cs)
    · rw [unescape_kept hc] at hsame
      exact .kept hc (ih (List.cons.inj (List.cons.inj hsame).2).2)

/-- No quoted text goes beyond a line that does not end with a backslash. -/
theorem not_quoted_of_newline {quote c : Char} (hc : c ≠ '\\') (before after : List Char) :
    ¬ Quoted quote (before ++ c :: '\n' :: after) := by
  intro hquoted
  have hbreak : ¬ Quoted quote ('\n' :: after) := by
    intro h
    cases h with
    | plain hnewline => exact hnewline.2.2 rfl
  generalize htext : before ++ c :: '\n' :: after = text at hquoted
  induction hquoted generalizing before with
  | nil => simp at htext
  | plain _ hcs ih =>
    cases before with
    | nil =>
      obtain ⟨-, rfl⟩ := List.cons.inj htext
      exact hbreak hcs
    | cons d before => exact ih before (List.cons.inj htext).2
  | escaped d hcs ih =>
    match before, htext with
    | [], htext => exact hc (List.cons.inj htext).1
    | [_], htext =>
      obtain ⟨-, htext⟩ := List.cons.inj htext
      obtain ⟨-, rfl⟩ := List.cons.inj htext
      exact hbreak hcs
    | _ :: _ :: before, htext => exact ih before (List.cons.inj (List.cons.inj htext).2).2

theorem length_trim_le (cs : List Char) : (Text.trim cs).length ≤ cs.length := by
  obtain ⟨a, b, -, -, hcs, -, -⟩ := Text.exists_between cs
  have hlength := congrArg List.length hcs
  rw [List.length_append, List.length_append] at hlength
  omega

/-- What follows a quoted text: the line goes on without a quote, does not end with a
backslash, and no triple quote comes later. -/
structure Plainly (rest : List Char) : Prop where
  line : ∃ front c more, rest = front ++ c :: '\n' :: more ∧ '"' ∉ front ∧ c ≠ '"' ∧ c ≠ '\\'
  later : ¬ ['"', '"', '"'] <:+: '"' :: rest

/-- Of the triple quotes that end a text the last ones come later than the text itself. -/
theorem infix_of_closeLongString {xs : List Char} (hstart : xs.take 2 = ['"', '"'])
    (hclose : closeLongString (xs.drop 2) = some (body, after)) (hlength : cs.length ≤ body.length)
    (hxs : xs = cs ++ rest) : ['"', '"', '"'] <:+: rest := by
  have hsplit := List.take_append_drop 2 xs
  rw [hstart, closeLongString_eq hclose] at hsplit
  have hrest : rest = xs.drop cs.length := by
    rw [hxs, List.drop_left]
  have hdrop : xs.drop cs.length = (['"', '"'] ++ body).drop cs.length ++
      (['"', '"', '"'] ++ after) := by
    rw [← hsplit, ← List.drop_append_of_le_length (by simp; omega)]
    simp
  refine ⟨(['"', '"'] ++ body).drop cs.length, after, ?_⟩
  rw [hrest, hdrop, List.append_assoc]

/-- A text ends before a character that it does not have. -/
theorem exists_append_of_not_mem {c : Char} {a b x y : List Char} (hc : c ∉ a)
    (h : a ++ b = x ++ c :: y) : ∃ last, x = a ++ last := by
  rcases List.append_eq_append_iff.mp h with ⟨last, hx, -⟩ | ⟨more, ha, hmore⟩
  · exact ⟨last, hx⟩
  · cases more with
    | nil =>
      refine ⟨[], ?_⟩
      rw [ha, List.append_nil, List.append_nil]
    | cons d more =>
      obtain ⟨rfl, -⟩ := List.cons.inj hmore
      apply absurd _ hc
      rw [ha]
      exact List.mem_append_right x List.mem_cons_self

/-- A quoted text that comes back as the text before the quote ends with it. A longer one
would go beyond the line. -/
theorem eq_of_closeString (hrest : Plainly rest)
    (hclose : closeString '"' (cs ++ '"' :: rest) = some (body, after))
    (hsame : unescape body = cs) : body = cs := by
  have hquoted := quoted_of_closeString hclose
  have hle := length_unescape_le body
  rw [hsame] at hle
  rcases List.append_eq_append_iff.mp (closeString_eq hclose) with
    ⟨inside, hbody, hinside⟩ | ⟨missing, hcs, -⟩
  · cases inside with
    | nil => rw [hbody, List.append_nil]
    | cons d inside =>
      obtain ⟨rfl, hline⟩ := List.cons.inj hinside
      obtain ⟨front, c, more, hfront, hquote, hc, hslash⟩ := hrest.line
      have hend : front ++ [c, '\n'] ++ more = inside ++ '"' :: after := by
        rw [List.append_assoc]
        exact hfront.symm.trans hline
      have hplain : '"' ∉ front ++ [c, '\n'] := by
        simp only [List.mem_append, List.mem_cons, List.not_mem_nil, or_false, not_or]
        exact ⟨hquote, Ne.symm hc, by decide⟩
      obtain ⟨last, rfl⟩ := exists_append_of_not_mem hplain hend
      apply absurd hquoted
      have hsplit : body = (cs ++ '"' :: front) ++ c :: '\n' :: last := by
        simp [hbody, List.append_assoc]
      rw [hsplit]
      exact not_quoted_of_newline hslash _ _
  · -- The text is no longer than the body that it comes from.
    have hlength := congrArg List.length hcs
    rw [List.length_append] at hlength
    have hmissing : missing = [] := List.eq_nil_of_length_eq_zero (by omega)
    rw [hcs, hmissing, List.append_nil]

/-- What starts with a double quote. -/
theorem next_quote {xs : List Char} {l : Lexeme} (hnext : next '"' xs = .ok (l, after)) :
    (∃ body, xs.take 2 = ['"', '"'] ∧ closeLongString (xs.drop 2) = some (body, after) ∧
        l = .longString body) ∨
      ∃ body, closeString '"' xs = some (body, after) ∧ l = .string '"' body := by
  unfold next at hnext
  simp only [isSpace, Char.reduceEq, decide_false, decide_true, Bool.or_self, Bool.false_and,
    Bool.true_and, Bool.true_or, Bool.false_eq_true, if_false, if_true, decide_eq_true_eq] at hnext
  split at hnext
  · next hstart =>
    split at hnext
    · next body rest hclose =>
      cases hnext
      exact Or.inl ⟨body, hstart, hclose, rfl⟩
    · cases hnext
  · split at hnext
    · next body rest hclose =>
      cases hnext
      exact Or.inr ⟨body, hclose, rfl⟩
    · cases hnext

theorem exists_token_of_next_quote {xs : List Char} {l : Lexeme}
    (hnext : next '"' xs = .ok (l, after)) : ∃ text, l.token? = some (.string, text) := by
  rcases next_quote hnext with ⟨body, -, -, rfl⟩ | ⟨body, -, rfl⟩
  · exact ⟨_, rfl⟩
  · exact ⟨_, rfl⟩

/-- Only a text that stands for itself comes back as it was put between the quotes. -/
theorem verbatim_of_next {l : Lexeme} (hrest : Plainly rest)
    (hnext : next '"' (cs ++ '"' :: rest) = .ok (l, after))
    (htoken : l.token? = some (.string, String.ofList cs)) : Verbatim cs := by
  rcases next_quote hnext with ⟨body, hstart, hclose, rfl⟩ | ⟨body, hclose, rfl⟩
  · have htrim : Text.trim body = cs :=
      String.ofList_injective (congrArg Prod.snd (Option.some.inj htoken))
    have hlength : cs.length ≤ body.length := by
      rw [← htrim]
      exact length_trim_le body
    exact absurd (infix_of_closeLongString hstart hclose hlength rfl) hrest.later
  · have hsame : unescape body = cs :=
      String.ofList_injective (congrArg Prod.snd (Option.some.inj htoken))
    have hbody := eq_of_closeString hrest hclose hsame
    rw [hbody] at hsame
    exact verbatim_of_quoted (hbody ▸ quoted_of_closeString hclose) hsame

end FlowGraph.Lexeme
