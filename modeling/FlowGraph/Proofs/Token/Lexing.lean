import FlowGraph.Proofs.Token.Shape

/-!
Lexemes by what they start with. A symbol, a word, an integer or a quoted text that
stands at the start of a source is the first lexeme of it, provided that what follows
cannot be taken for more of it; the lexemes after it are those of the rest.
-/

namespace FlowGraph

theorem lexemes_nil : lexemes [] = ([], none) := by
  rw [lexemes]

/-- Cutting takes the first lexeme and goes on with what is left. -/
theorem lexemes_cons {c : Char} {cs rest : List Char} {l : Lexeme}
    (h : Lexeme.next c cs = .ok (l, rest)) :
    lexemes (c :: cs) = (l :: (lexemes rest).1, (lexemes rest).2) := by
  rw [lexemes]
  split
  · next fault hfault =>
    rw [h] at hfault
    cases hfault
  · next l' rest' hok =>
    rw [h] at hok
    cases hok
    rfl

/-- Cutting that comes to the end of a text has a first lexeme. -/
theorem exists_next_of_lexemes {c : Char} {cs : List Char} {ls : List Lexeme}
    (h : lexemes (c :: cs) = (ls, none)) :
    ∃ l rest, Lexeme.next c cs = .ok (l, rest) ∧ ls = l :: (lexemes rest).1 := by
  rw [lexemes] at h
  split at h
  · cases h
  · next l rest hnext => exact ⟨l, rest, hnext, (congrArg Prod.fst h).symm⟩

theorem placed_append (p : Position) (ls ms : List Lexeme) :
    placed p (ls ++ ms) = placed p ls ++ placed (p.after (ls.flatMap Lexeme.source)) ms := by
  induction ls generalizing p with
  | nil => rfl
  | cons l ls ih =>
    rw [List.cons_append, placed, placed, ih, List.flatMap_cons, Position.after_append]
    rfl

namespace Lexeme

/-- The characters that separate the parts of an expression. None of them goes on with a
word, a number or a quoted text. -/
def isDelimiter (c : Char) : Bool :=
  c = ',' || c = ':' || c = '(' || c = ')' || c = '[' || c = ']' || c = '{' || c = '}'

def Delimited (rest : List Char) : Prop :=
  ∀ c ∈ rest.head?, isDelimiter c = true

theorem delimited_nil : Delimited [] := by
  simp [Delimited]

theorem delimited_cons {c : Char} (hc : isDelimiter c = true) (rest : List Char) :
    Delimited (c :: rest) := by
  intro d hd
  cases hd
  exact hc

theorem isWordChar_of_isDelimiter {c : Char} (hc : isDelimiter c = true) :
    isWordChar c = false := by
  simp only [isDelimiter, Bool.or_eq_true, decide_eq_true_eq] at hc
  rcases hc with ((((((rfl | rfl) | rfl) | rfl) | rfl) | rfl) | rfl) | rfl <;> decide

theorem isDigit_of_isDelimiter {c : Char} (hc : isDelimiter c = true) :
    Decimal.isDigit c = false := by
  have hword := isWordChar_of_isDelimiter hc
  simp only [isWordChar, Bool.or_eq_false_iff] at hword
  exact hword.2

/-- Letters, digits and underscores before a delimiter are one word. -/
theorem next_word {c : Char} {cs rest : List Char} (hc : isWordStart c = true)
    (hcs : ∀ d ∈ cs, isWordChar d = true) (hrest : Delimited rest) :
    next c (cs ++ rest) = .ok (.word c cs, rest) :=
  next_eq_word hc hcs fun d hd => isWordChar_of_isDelimiter (hrest d hd)

/-- Neither a point nor a digit follows an integer. -/
theorem next_number {c : Char} {cs rest : List Char}
    (hc : Decimal.isDigit c = true ∨ c = '-' ∧ cs ≠ [])
    (hcs : ∀ d ∈ cs, Decimal.isDigit d = true) (hrest : Delimited rest) :
    next c (cs ++ rest) = .ok (.number c cs, rest) := by
  have hends : (number c (cs ++ [])).EndsBefore rest := by
    refine ⟨fun d hd => isDigit_of_isDelimiter (hrest d hd), ?_⟩
    rintro - d tail rfl
    exact absurd (hrest '.' rfl) (by decide)
  have hnext := next_eq_number hcs hc (Or.inl rfl) hends
  rwa [List.append_nil] at hnext

/-- A character inside double quotes: backslashes, double quotes and line breaks are
escaped, all others stand for themselves. -/
def escapeChar (c : Char) : List Char :=
  if c = '\\' then ['\\', '\\']
  else if c = '"' then ['\\', '"']
  else if c = '\n' then ['\\', 'n']
  else [c]

def escape (cs : List Char) : List Char :=
  cs.flatMap escapeChar

theorem escape_cons (c : Char) (cs : List Char) : escape (c :: cs) = escapeChar c ++ escape cs :=
  List.flatMap_cons

theorem unescape_cons {c : Char} (hc : c ≠ '\\') (rest : List Char) :
    unescape (c :: rest) = c :: unescape rest := by
  rw [unescape]
  rintro d more rfl
  exact absurd rfl hc

/-- Reading an escaped text gives the text back. -/
theorem unescape_escape (cs : List Char) : unescape (escape cs) = cs := by
  induction cs with
  | nil => rfl
  | cons c cs ih =>
    rw [escape_cons]
    unfold escapeChar
    split
    · next hc => simp [unescape, ih, hc]
    · split
      · next hc => simp [unescape, ih, hc]
      · split
        · next hc => simp [unescape, ih, hc]
        · next hslash _ _ => rw [List.singleton_append, unescape_cons hslash, ih]

/-- An escaped text does not end before its closing quote. -/
theorem quoted_escape (cs : List Char) : Quoted '"' (escape cs) := by
  induction cs with
  | nil => exact .nil
  | cons c cs ih =>
    rw [escape_cons]
    unfold escapeChar
    split
    · exact .escaped '\\' ih
    · next hslash =>
      split
      · exact .escaped '"' ih
      · next hquote =>
        split
        · exact .escaped 'n' ih
        · next hline => exact .plain ⟨hslash, hquote, hline⟩ ih

/-- No triple quote is seen in a quoted text, not even in the empty one. -/
theorem next_quoted (cs : List Char) {rest : List Char} (hrest : Delimited rest) :
    next '"' (escape cs ++ '"' :: rest) = .ok (.string '"' (escape cs), rest) := by
  refine next_eq_string List.mem_cons_self (quoted_escape cs) ?_
  intro _ hhead
  exact absurd (hrest '"' hhead) (by decide)

theorem ofKeyword?_ne_eof (word : String) : TokenKind.ofKeyword? word ≠ some .eof := by
  unfold TokenKind.ofKeyword?
  split <;> simp

theorem pair?_ne_eof (c d : Char) : pair? c d ≠ some .eof := by
  unfold pair?
  split <;> simp

theorem symbol?_ne_eof (c : Char) : symbol? c ≠ some .eof := by
  unfold symbol?
  split <;> simp

/-- No lexeme carries the token that stands for the end of input. -/
theorem Whole.kind_ne_eof {l : Lexeme} {kind : TokenKind} {text : String} (hl : l.Whole)
    (ht : l.token? = some (kind, text)) : kind ≠ .eof := by
  rintro rfl
  cases l with
  | word first more =>
    simp only [token?, Option.some.injEq, Prod.mk.injEq] at ht
    cases hk : TokenKind.ofKeyword? (String.ofList (first :: more)) with
    | none =>
      rw [hk] at ht
      cases ht.1
    | some kind =>
      rw [hk] at ht
      exact ofKeyword?_ne_eof _ (hk.trans (congrArg some ht.1))
  | symbol kind first more =>
    cases ht
    rcases hl with ⟨-, hkind⟩ | ⟨second, -, hkind⟩
    · exact symbol?_ne_eof first hkind
    · exact pair?_ne_eof first second hkind
  | blank | lineComment | blockComment | longString | string | number | skipped => cases ht

end Lexeme

theorem whole_of_mem_lexemes {cs : List Char} {l : Lexeme} (hl : l ∈ (lexemes cs).1) :
    l.Whole := by
  fun_induction lexemes cs with
  | case1 => cases hl
  | case2 => cases hl
  | case3 c rest first after hnext ls fault hrest ih =>
    rw [hrest] at ih
    rcases List.mem_cons.mp hl with rfl | hl
    · exact (Lexeme.whole_of_next hnext).1
    · exact ih hl

theorem mem_of_mem_placed {p q : Position} {l : Lexeme} {ls : List Lexeme}
    (h : (l, q) ∈ placed p ls) : l ∈ ls := by
  induction ls generalizing p with
  | nil => cases h
  | cons first ls ih =>
    rcases List.mem_cons.mp h with heq | hmem
    · exact List.mem_cons.mpr (Or.inl (congrArg Prod.fst heq))
    · exact List.mem_cons_of_mem first (ih hmem)

/-- The end of input is no lexeme's token; it is put behind all others. -/
theorem kind_ne_eof_of_mem_placed {p : Position} {ls : List Lexeme} (hls : ∀ l ∈ ls, l.Whole) :
    ∀ t ∈ (placed p ls).filterMap placedToken?, t.kind ≠ .eof := by
  intro t ht
  obtain ⟨⟨l, q⟩, hl, htoken⟩ := List.mem_filterMap.mp ht
  obtain ⟨⟨kind, text⟩, hkind, rfl⟩ := Option.map_eq_some_iff.mp htoken
  exact (hls l (mem_of_mem_placed hl)).kind_ne_eof hkind

end FlowGraph
