import FlowGraph.Json.Printer
import FlowGraph.Proofs.Decimal
import FlowGraph.Proofs.Grammar.Completeness
import FlowGraph.Proofs.Token.Lexing
import FlowGraph.Workflow.Source

/-!
Expressions written down and read back. The canonical text of an expression has no
blanks; texts stand in double quotes, and so do the keys of objects. It is cut into
tokens without a warning, and these are read as the expression again, whatever the texts
in it hold.
-/

namespace FlowGraph

namespace Expr

def quoted (text : String) : List Char :=
  '"' :: (Lexeme.escape text.toList ++ ['"'])

mutual

def written : Expr → List Char
  | .literal (.int i) => Decimal.ofInt i
  | .literal (.str text) => quoted text
  | .literal v => v.compactChars
  | .ident name => name.toList
  | .call name args => name.toList ++ '(' :: (writtenItems args ++ [')'])
  | .template text => quoted text
  | .object entries => '{' :: (writtenEntries entries ++ ['}'])
  | .array items => '[' :: (writtenItems items ++ [']'])

def writtenItems : List Expr → List Char
  | [] => []
  | [e] => written e
  | e :: f :: es => written e ++ ',' :: writtenItems (f :: es)

def writtenEntries : List (String × Expr) → List Char
  | [] => []
  | [(key, e)] => quoted key ++ ':' :: written e
  | (key, e) :: entry :: entries =>
    quoted key ++ ':' :: (written e ++ ',' :: writtenEntries (entry :: entries))

end

def IsName (name : String) : Prop :=
  IsWord name ∧ TokenKind.ofKeyword? name = none

/-- Expressions that the source language can write down: integers of 64 bits, booleans,
null, texts without spans, templates with spans, names, and what is built from these. -/
inductive Writable : Expr → Prop
  | int (i : Int) (hi : Decimal.inInt64 i = true) : Writable (.literal (.int i))
  | bool (b : Bool) : Writable (.literal (.bool b))
  | null : Writable (.literal .null)
  | text (s : String) (hs : ¬ Grammar.HasSpan s) : Writable (.literal (.str s))
  | template (s : String) (hs : Grammar.HasSpan s) : Writable (.template s)
  | ident (name : String) (hname : IsName name) : Writable (.ident name)
  | call (name : String) (args : List Expr) (hname : IsName name)
      (hargs : ∀ e ∈ args, Writable e) : Writable (.call name args)
  | object (entries : List (String × Expr)) (hentries : ∀ entry ∈ entries, Writable entry.2) :
      Writable (.object entries)
  | array (items : List Expr) (hitems : ∀ e ∈ items, Writable e) : Writable (.array items)

end Expr

def tokensAt (p : Position) (ls : List Lexeme) : List Token :=
  (placed p ls).filterMap placedToken?

/-- The tokens of the second lexemes start where the first ones end. -/
theorem tokensAt_append (p : Position) (ls ms : List Lexeme) :
    tokensAt p (ls ++ ms) =
      tokensAt p ls ++ tokensAt (p.after (ls.flatMap Lexeme.source)) ms := by
  rw [tokensAt, placed_append, List.filterMap_append]
  rfl

/-- Followed by nothing or by a delimiter, the characters are cut into lexemes of their
own; no character is passed over, and their tokens are as `reads` says, wherever they
stand. -/
def Spells (cs : List Char) (reads : List Token → Prop) : Prop :=
  ∃ ls, (∀ rest, Lexeme.Delimited rest →
      lexemes (cs ++ rest) = (ls ++ (lexemes rest).1, (lexemes rest).2)) ∧
    (∀ l ∈ ls, l.skipped? = none) ∧ ∀ p, reads (tokensAt p ls)

section Spelling

open Lexeme (Delimited isDelimiter)

variable {cs ds : List Char} {P Q R : List Token → Prop}

theorem spells_nil (h : P []) : Spells [] P :=
  ⟨[], fun _ _ => rfl, by simp, fun _ => h⟩

theorem Spells.mono (hc : Spells cs P) (h : ∀ ts, P ts → Q ts) : Spells cs Q := by
  obtain ⟨ls, hls, hskipped, hP⟩ := hc
  exact ⟨ls, hls, hskipped, fun p => h _ (hP p)⟩

theorem spells_lexeme {c : Char} {l : Lexeme} {kind : TokenKind} {text : String}
    (hnext : ∀ rest, Delimited rest → Lexeme.next c (cs ++ rest) = .ok (l, rest))
    (htoken : l.token? = some (kind, text)) (h : ∀ p, P [⟨kind, text, p⟩]) :
    Spells (c :: cs) P := by
  refine ⟨[l], ?_, ?_, ?_⟩
  · intro rest hrest
    exact lexemes_cons (hnext rest hrest)
  · intro m hm
    rw [List.mem_singleton.mp hm]
    cases l <;> simp [Lexeme.token?, Lexeme.skipped?] at htoken ⊢
  · intro p
    have htokens : tokensAt p [l] = [⟨kind, text, p⟩] := by
      simp [tokensAt, placed, placedToken?, htoken]
    rw [htokens]
    exact h p

/-- Two texts that are spelled can stand side by side if the second begins with a delimiter. -/
theorem Spells.append (hc : Spells cs P) (hd : Spells ds Q)
    (hbetween : ∀ rest, Delimited rest → Delimited (ds ++ rest))
    (h : ∀ ts us, P ts → Q us → R (ts ++ us)) : Spells (cs ++ ds) R := by
  obtain ⟨ls, hls, hskipped, hP⟩ := hc
  obtain ⟨ms, hms, hskipped', hQ⟩ := hd
  refine ⟨ls ++ ms, ?_, ?_, ?_⟩
  · intro rest hrest
    rw [List.append_assoc, hls _ (hbetween rest hrest), hms rest hrest, List.append_assoc]
  · intro l hl
    rcases List.mem_append.mp hl with hl | hl
    · exact hskipped l hl
    · exact hskipped' l hl
  · intro p
    rw [tokensAt_append]
    exact h _ _ (hP p) (hQ _)

def Led (kind : TokenKind) (Q : List Token → Prop) (ts : List Token) : Prop :=
  ∃ t rest, ts = t :: rest ∧ t.kind = kind ∧ Q rest

def Enclosed (opening closing : TokenKind) (Q : List Token → Prop) (ts : List Token) : Prop :=
  ∃ t inner u, ts = t :: (inner ++ [u]) ∧ t.kind = opening ∧ Q inner ∧ u.kind = closing

/-- A symbol of one character stands alone, whatever follows it. -/
theorem Spells.led {c : Char} {kind : TokenKind} (hd : Spells ds Q)
    (hkind : Lexeme.symbol? c = some kind) : Spells (c :: ds) (Led kind Q) := by
  obtain ⟨ls, hls, hskipped, hQ⟩ := hd
  refine ⟨.symbol kind c [] :: ls, ?_, ?_, ?_⟩
  · intro rest hrest
    have hfirst := Lexeme.next_eq_symbol hkind (ds ++ rest)
    rw [List.cons_append, lexemes_cons hfirst, hls rest hrest]
    rfl
  · intro l hl
    rcases List.mem_cons.mp hl with rfl | hl
    · rfl
    · exact hskipped l hl
  · intro p
    exact ⟨⟨kind, String.ofList [c], p⟩, _, rfl, rfl, hQ _⟩

theorem Spells.enclosed {o c : Char} {opening closing : TokenKind} (hd : Spells ds Q)
    (hopening : Lexeme.symbol? o = some opening) (hc : isDelimiter c = true)
    (hclosing : Lexeme.symbol? c = some closing) :
    Spells (o :: (ds ++ [c])) (Enclosed opening closing Q) := by
  have hlast : Spells [c] (Led closing (· = [])) :=
    (spells_nil (P := (· = [])) rfl).led hclosing
  have hinner : Spells (ds ++ [c]) fun ts =>
      ∃ inner u, ts = inner ++ [u] ∧ Q inner ∧ u.kind = closing := by
    refine hd.append hlast (fun rest _ => Lexeme.delimited_cons hc rest) ?_
    rintro inner us hinner ⟨u, _, rfl, hu, rfl⟩
    exact ⟨inner, u, rfl, hinner, hu⟩
  refine (hinner.led hopening).mono ?_
  rintro ts ⟨t, _, rfl, ht, inner, u, rfl, hinner, hu⟩
  exact ⟨t, inner, u, rfl, ht, hinner, hu⟩

end Spelling

namespace Expr

open Grammar (Expression Items Members)

def Single (kind : TokenKind) (text : String) (ts : List Token) : Prop :=
  ∃ t : Token, ts = [t] ∧ t.kind = kind ∧ t.text = text

/-- A text in double quotes is one token with that text, whatever stands in it. -/
theorem spells_quoted (text : String) : Spells (quoted text) (Single .string text) := by
  have htoken : (Lexeme.string '"' (Lexeme.escape text.toList)).token? = some (.string, text) := by
    simp [Lexeme.token?, Lexeme.unescape_escape]
  refine spells_lexeme ?_ htoken fun p => ⟨_, rfl, rfl, rfl⟩
  intro rest hrest
  rw [List.append_assoc]
  exact Lexeme.next_quoted text.toList hrest

/-- A word is one token, of the kind that its keyword has if it is one. -/
theorem spells_word {word : String} (hword : IsWord word) {kind : TokenKind}
    (hkind : (TokenKind.ofKeyword? word).getD .identifier = kind) :
    Spells word.toList (Single kind word) := by
  obtain ⟨c, cs, hlist, hc, hcs⟩ := hword
  have htoken : (Lexeme.word c cs).token? = some (kind, word) := by
    rw [Lexeme.token?, ← hlist, String.ofList_toList, hkind]
  rw [hlist]
  refine spells_lexeme ?_ htoken fun p => ⟨_, rfl, rfl, rfl⟩
  intro rest hrest
  exact Lexeme.next_word hc hcs hrest

theorem spells_name {name : String} (hname : IsName name) :
    Spells name.toList (Single .identifier name) := by
  obtain ⟨hword, hfree⟩ := hname
  exact spells_word hword (by rw [hfree]; rfl)

/-- The text of an integer has no point in it and is read as the integer. -/
theorem numberText_ofInt {i : Int} (hi : Decimal.inInt64 i = true) :
    Grammar.NumberText (String.ofList (Decimal.ofInt i)) (.int i) := by
  have hpoint : '.' ∉ Decimal.ofInt i := by
    have hdigits (n : Nat) : '.' ∉ Decimal.digits n := by
      intro hmem
      exact absurd (Decimal.isDigit_of_mem_digits hmem) (by decide)
    unfold Decimal.ofInt
    split
    · simp [hdigits]
    · exact hdigits _
  refine Grammar.NumberText.integer i ?_ ?_
  · rw [String.toList_ofList]
    exact hpoint
  · rw [String.toList_ofList]
    exact Decimal.int64?_ofInt hi

theorem spells_digits (n : Nat) :
    Spells (Decimal.digits n) (Single .number (String.ofList (Decimal.digits n))) := by
  have hall (d : Char) (hd : d ∈ Decimal.digits n) : Decimal.isDigit d = true :=
    Decimal.isDigit_of_mem_digits hd
  obtain ⟨c, cs, hdigits⟩ := List.exists_cons_of_ne_nil (Decimal.digits_ne_nil n)
  rw [hdigits] at hall ⊢
  obtain ⟨hc, hcs⟩ := List.forall_mem_cons.mp hall
  refine spells_lexeme ?_ (l := .number c cs) rfl fun p => ⟨_, rfl, rfl, rfl⟩
  intro rest hrest
  exact Lexeme.next_number (Or.inl hc) hcs hrest

theorem spells_minus (n : Nat) :
    Spells ('-' :: Decimal.digits n)
      (Single .number (String.ofList ('-' :: Decimal.digits n))) := by
  have hminus : '-' = '-' ∧ Decimal.digits n ≠ [] := ⟨rfl, Decimal.digits_ne_nil n⟩
  refine spells_lexeme ?_ (l := .number '-' (Decimal.digits n)) rfl fun p => ⟨_, rfl, rfl, rfl⟩
  intro rest hrest
  exact Lexeme.next_number (Or.inr hminus) (fun _ => Decimal.isDigit_of_mem_digits) hrest

/-- An integer of 64 bits is read as itself, with its sign. -/
theorem spells_int {i : Int} (hi : Decimal.inInt64 i = true) :
    Spells (Decimal.ofInt i) (Expression · (.literal (.int i))) := by
  have hsingle : Spells (Decimal.ofInt i) (Single .number (String.ofList (Decimal.ofInt i))) := by
    unfold Decimal.ofInt
    split
    · exact spells_minus _
    · exact spells_digits _
  refine hsingle.mono ?_
  rintro ts ⟨t, rfl, hk, htext⟩
  refine Expression.number t _ hk ?_
  rw [htext]
  exact numberText_ofInt hi

theorem spells_bool (b : Bool) :
    Spells (Json.bool b).compactChars (Expression · (.literal (.bool b))) := by
  cases b with
  | false =>
    refine (spells_word (show IsWord "false" by decide) rfl).mono ?_
    rintro ts ⟨t, rfl, hk, htext⟩
    have hread := Expression.boolean t hk
    rw [htext] at hread
    exact hread
  | true =>
    refine (spells_word (show IsWord "true" by decide) rfl).mono ?_
    rintro ts ⟨t, rfl, hk, htext⟩
    have hread := Expression.boolean t hk
    rw [htext] at hread
    exact hread

theorem spells_null : Spells Json.null.compactChars (Expression · (.literal .null)) := by
  refine (spells_word (show IsWord "null" by decide) rfl).mono ?_
  rintro ts ⟨t, rfl, hk, -⟩
  exact Expression.null t hk

def Entry (key : String) (e : Expr) (ts : List Token) : Prop :=
  ∃ k colon value, ts = k :: colon :: value ∧ k.kind = .string ∧ k.text = key ∧
    colon.kind = .colon ∧ Expression value e

theorem spells_entry (key : String) {e : Expr} (he : Spells (written e) (Expression · e)) :
    Spells (quoted key ++ ':' :: written e) (Entry key e) := by
  have hvalue : Spells (':' :: written e) (Led .colon (Expression · e)) := he.led rfl
  refine (spells_quoted key).append hvalue (fun rest _ => Lexeme.delimited_cons rfl _) ?_
  rintro ts us ⟨k, rfl, hk, htext⟩ ⟨colon, value, rfl, hcolon, hvalue⟩
  exact ⟨k, colon, value, rfl, hk, htext, hcolon, hvalue⟩

mutual

/-- The canonical text spells the expression, by induction over what it is built from. -/
theorem spells_written (e : Expr) (he : Writable e) : Spells (written e) (Expression · e) := by
  match e, he with
  | .literal (.int i), .int _ hi =>
    rw [written]
    exact spells_int hi
  | .literal (.bool b), _ => exact spells_bool b
  | .literal .null, _ => exact spells_null
  | .literal (.str text), .text _ hs =>
    rw [written]
    refine (spells_quoted text).mono ?_
    rintro ts ⟨t, rfl, hk, rfl⟩
    exact Expression.text t hk hs
  | .template text, .template _ hs =>
    rw [written]
    refine (spells_quoted text).mono ?_
    rintro ts ⟨t, rfl, hk, rfl⟩
    exact Expression.quoted t hk hs
  | .ident name, .ident _ hname =>
    rw [written]
    refine (spells_name hname).mono ?_
    rintro ts ⟨t, rfl, hk, rfl⟩
    exact Expression.ident t hk
  | .call name args, .call _ _ hname hargs =>
    rw [written]
    have hitems := (spells_writtenItems args hargs).enclosed (o := '(') (c := ')') rfl rfl rfl
    refine (spells_name hname).append hitems (fun rest _ => Lexeme.delimited_cons rfl _) ?_
    rintro ts us ⟨t, rfl, hk, rfl⟩ ⟨opening, inner, closing, rfl, ho, hinner, hc⟩
    exact Expression.call t opening closing inner args hk ho hinner hc
  | .object entries, .object _ hentries =>
    rw [written]
    have hmembers := spells_writtenEntries entries hentries
    refine (hmembers.enclosed rfl rfl rfl).mono ?_
    rintro ts ⟨opening, inner, closing, rfl, ho, hinner, hc⟩
    exact Expression.object opening closing inner entries ho hinner hc
  | .array items, .array _ hitems =>
    rw [written]
    have hes := spells_writtenItems items hitems
    refine (hes.enclosed rfl rfl rfl).mono ?_
    rintro ts ⟨opening, inner, closing, rfl, ho, hinner, hc⟩
    exact Expression.array opening closing inner items ho hinner hc

theorem spells_writtenItems (es : List Expr) (hes : ∀ e ∈ es, Writable e) :
    Spells (writtenItems es) (Items · es) := by
  match es with
  | [] => exact spells_nil Items.nil
  | [e] =>
    rw [writtenItems]
    refine (spells_written e (hes e (by simp))).mono ?_
    intro ts hts
    have hitems := Items.cons ts [] [] e [] hts Grammar.Optional.absent Items.nil
    rwa [List.append_nil, List.append_nil] at hitems
  | e :: f :: es =>
    rw [writtenItems]
    have he := spells_written e (hes e (by simp))
    have hmore := spells_writtenItems (f :: es) fun g hg => hes g (List.mem_cons_of_mem e hg)
    refine he.append (hmore.led (c := ',') rfl) (fun rest _ => Lexeme.delimited_cons rfl _) ?_
    rintro ts us hts ⟨comma, rest, rfl, hcomma, hrest⟩
    have hitems := Items.cons ts [comma] rest e (f :: es) hts (.present comma hcomma) hrest
    rwa [List.append_assoc] at hitems

theorem spells_writtenEntries (entries : List (String × Expr))
    (hentries : ∀ entry ∈ entries, Writable entry.2) :
    Spells (writtenEntries entries) (Members · entries) := by
  match entries with
  | [] => exact spells_nil Members.nil
  | [(key, e)] =>
    rw [writtenEntries]
    have he := spells_written e (hentries (key, e) (by simp))
    refine (spells_entry key he).mono ?_
    rintro ts ⟨k, colon, value, rfl, hk, rfl, hcolon, hvalue⟩
    have hmembers := Members.cons k colon value [] [] e [] (Or.inr hk) hcolon hvalue
      Grammar.Optional.absent Members.nil
    rwa [List.append_nil, List.append_nil] at hmembers
  | (key, e) :: entry :: entries =>
    rw [writtenEntries]
    have he := spells_written e (hentries (key, e) (by simp))
    have hmore := spells_writtenEntries (entry :: entries) fun g hg =>
      hentries g (List.mem_cons_of_mem (key, e) hg)
    have hentry := (spells_entry key he).append (hmore.led (c := ',') rfl)
      (fun rest _ => Lexeme.delimited_cons rfl _)
      (R := (Members · ((key, e) :: entry :: entries))) ?_
    · rwa [List.append_assoc, List.cons_append] at hentry
    · rintro ts us ⟨k, colon, value, rfl, hk, rfl, hcolon, hvalue⟩ ⟨comma, rest, rfl, hcomma, hrest⟩
      have hmembers := Members.cons k colon value [comma] rest e (entry :: entries) (Or.inr hk)
        hcolon hvalue (.present comma hcomma) hrest
      rwa [List.append_assoc] at hmembers

end

end Expr

/-- A whole source that is spelled gives its tokens and the end of input, and no
warning. -/
theorem scan_of_spells {cs : List Char} {P : List Token → Prop} (h : Spells cs P) :
    ∃ ts last, scan (String.ofList cs) = .ok ⟨ts ++ [last], []⟩ ∧ P ts ∧ last.kind = .eof ∧
      ∀ t ∈ ts, t.kind ≠ .eof := by
  obtain ⟨ls, hls, hskipped, hP⟩ := h
  have hlexemes : lexemes cs = (ls, none) := by
    have hall := hls [] Lexeme.delimited_nil
    rw [lexemes_nil, List.append_nil, List.append_nil] at hall
    exact hall
  have hwarnings : (placed .start ls).filterMap placedWarning? = [] := by
    refine List.filterMap_eq_nil_iff.mpr ?_
    rintro ⟨l, p⟩ hl
    simp [placedWarning?, hskipped l (mem_of_mem_placed hl)]
  refine ⟨tokensAt .start ls, ⟨.eof, "", Position.start.after (ls.flatMap Lexeme.source)⟩, ?_,
    hP .start, rfl, ?_⟩
  · rw [scan, String.toList_ofList, scanChars, hlexemes]
    change Except.ok _ = _
    rw [hwarnings]
    rfl
  · apply kind_ne_eof_of_mem_placed
    intro l hl
    have hmem : l ∈ (lexemes cs).1 := by
      rw [hlexemes]
      exact hl
    exact whole_of_mem_lexemes hmem

namespace Expr

theorem ofTokens_of_reads {tokens rest : List Token} {e : Expr}
    (h : (Parser.expr (Parser.beforeEnd tokens)).Reads e rest) : ofTokens tokens = .ok e := by
  obtain ⟨hshorter, hok⟩ := h
  rw [ofTokens, hok]
  rfl

/-- The canonical text of an expression is cut into tokens without warnings, and reading
an expression from them gives it back and stops at the end of input. -/
theorem reads_written (e : Expr) (he : Writable e) :
    ∃ ts last, scan (String.ofList e.written) = .ok ⟨ts ++ [last], []⟩ ∧ last.kind = .eof ∧
      Parser.beforeEnd (ts ++ [last]) = ts ∧ (Parser.expr ts).Reads e [] ∧
      Expr.ofTokens (ts ++ [last]) = .ok e := by
  obtain ⟨ts, last, hscan, hts, hlast, hinner⟩ := scan_of_spells (spells_written e he)
  have hbefore : Parser.beforeEnd (ts ++ [last]) = ts := by
    unfold Parser.beforeEnd
    rw [List.takeWhile_append_of_pos fun t ht => by simpa using hinner t ht]
    simp [hlast]
  have hread : (Parser.expr ts).Reads e [] := by
    have hread := Grammar.reads_of_expression hts [] (Parser.notFirst_nil .lparen)
    rwa [List.append_nil] at hread
  refine ⟨ts, last, hscan, hlast, hbefore, hread, ?_⟩
  rw [← hbefore] at hread
  exact ofTokens_of_reads hread

def lookalikes : Expr :=
  .call "env" [
    .object [("\"", .literal (.int (-9223372036854775808))), ("\"", .template "\\$\x7b\"\n")],
    .array [.literal (.str ""), .literal (.str "\"\"\""), .literal (.str "\\n"), .ident "_1"],
    .call "now" [], .literal (.bool false), .literal .null]

theorem writable_lookalikes : lookalikes.Writable := by
  have hspan : Grammar.HasSpan "\\$\x7b\"\n" := by
    unfold Grammar.HasSpan
    decide
  have hplain (text : String) (htext : text ∈ ["", "\"\"\"", "\\n"]) : ¬ Grammar.HasSpan text := by
    unfold Grammar.HasSpan
    revert text
    decide
  refine .call _ _ ⟨by decide, by decide⟩ ?_
  simp only [List.forall_mem_cons, List.not_mem_nil, false_imp_iff, implies_true, and_true]
  refine ⟨.object _ ?_, .array _ ?_, .call _ _ ⟨by decide, by decide⟩ (by simp), .bool _,
    .null⟩
  · simp only [List.forall_mem_cons, List.not_mem_nil, false_imp_iff, implies_true, and_true]
    exact ⟨.int _ (by decide), .template _ hspan⟩
  · simp only [List.forall_mem_cons, List.not_mem_nil, false_imp_iff, implies_true, and_true]
    exact ⟨.text _ (hplain _ (by decide)), .text _ (hplain _ (by decide)),
      .text _ (hplain _ (by decide)), .ident _ ⟨by decide, by decide⟩⟩

theorem reads_written_lookalikes :
    lookalikes.Writable ∧
      ∃ ts last, scan (String.ofList lookalikes.written) = .ok ⟨ts ++ [last], []⟩ ∧
        last.kind = .eof ∧ Parser.beforeEnd (ts ++ [last]) = ts ∧
        (Parser.expr ts).Reads lookalikes [] ∧ Expr.ofTokens (ts ++ [last]) = .ok lookalikes :=
  ⟨writable_lookalikes, reads_written lookalikes writable_lookalikes⟩

end Expr

end FlowGraph
