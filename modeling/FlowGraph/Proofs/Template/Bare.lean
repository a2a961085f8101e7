import FlowGraph.Proofs.Grammar.Soundness
import FlowGraph.Proofs.Scope.Expansion
import FlowGraph.Proofs.Token.LineBreak

/-!
Templates without quotes. Reading matches their braces token by token and does not look
into strings; expanding matches the braces of the joined text, those in strings among them.
The two find the same end exactly if every brace of the joined text has its partner, and so
they do for tokens of a source whose strings have no brace without one. Otherwise a span
ends too early, or nothing ends it.
-/

namespace FlowGraph

namespace Template

variable {a b body : List Char}

theorem Balanced.append (ha : Balanced a) (hb : Balanced b) : Balanced (a ++ b) := by
  induction ha with
  | nil => exact hb
  | char hopen hclose _ ih => exact .char hopen hclose ih
  | @braces inner cs hinner _ _ ih =>
    have hall := Balanced.braces hinner ih
    simpa using hall

/-- The scan ends with the text exactly if the text before the last brace is balanced. -/
theorem bodyLength?_concat_iff : bodyLength? 0 (body ++ ['}']) = some body.length ↔
    Balanced body := by
  constructor
  · intro hlength
    obtain ⟨early, late, hsplit, hsame, hearly⟩ := exists_closes_of_bodyLength? hlength
    have hbody : body = early := (List.append_inj hsplit hsame.symm).1
    rw [hbody]
    exact hearly
  · intro hbody
    exact hbody.bodyLength? []

/-- Where the scan of a span ends that is followed by nothing: at its end, at a brace before
it, or nowhere. -/
theorem closes_cases (body : List Char) :
    Balanced body ∨ (∃ early late, body = early ++ '}' :: late ∧ Balanced early) ∨
      Unclosed (body ++ ['}']) := by
  rcases closed_or_unclosed (body ++ ['}']) with ⟨early, rest, hsplit, hearly⟩ | hunclosed
  · rcases List.append_eq_append_iff.mp hsplit with ⟨tail, hearlyEq, htail⟩ | ⟨late, hbody, hlast⟩
    · -- The brace is not before the last one, so it is the last one.
      cases tail with
      | nil =>
        rw [List.append_nil] at hearlyEq
        exact Or.inl (hearlyEq ▸ hearly)
      | cons c tail =>
        have hcount := congrArg List.length htail
        simp at hcount
    · cases late with
      | nil =>
        rw [List.append_nil] at hbody
        exact Or.inl (hbody ▸ hearly)
      | cons c late =>
        obtain ⟨rfl, -⟩ := List.cons.inj hlast
        exact Or.inr (Or.inl ⟨early, late, hbody, hearly⟩)
  · exact Or.inr (Or.inr hunclosed)

end Template

namespace Token

def Scanned (t : Token) : Prop :=
  ∃ source found, scan source = .ok found ∧ t ∈ found.tokens

def braceKinds : List TokenKind :=
  [.lbrace, .rbrace, .templateStart]

/-- A token is a string, or its braces are those of its kind. -/
inductive Spelled (t : Token) : Prop
  | string (hkind : t.kind = .string)
  | lbrace (hkind : t.kind = .lbrace) (htext : t.text.toList = ['{'])
  | rbrace (hkind : t.kind = .rbrace) (htext : t.text.toList = ['}'])
  | templateStart (hkind : t.kind = .templateStart) (htext : t.text.toList = ['$', '{'])
  | plain (hkind : t.kind ∉ braceKinds) (htext : ∀ c ∈ t.text.toList, c ≠ '{' ∧ c ≠ '}')

variable {kind : TokenKind} {text : String} {p : Position}

theorem spelled_of_symbol {c : Char} (hkind : Lexeme.symbol? c = some kind) :
    Spelled ⟨kind, String.ofList [c], p⟩ := by
  unfold Lexeme.symbol? at hkind
  split at hkind
  all_goals
    cases hkind
  · exact .lbrace rfl String.toList_ofList
  · exact .rbrace rfl String.toList_ofList
  all_goals exact .plain (by simp [braceKinds]) (by simp)

theorem spelled_of_pair {c d : Char} (hkind : Lexeme.pair? c d = some kind) :
    Spelled ⟨kind, String.ofList [c, d], p⟩ := by
  unfold Lexeme.pair? at hkind
  split at hkind
  all_goals
    cases hkind
  · exact .plain (by simp [braceKinds]) (by simp)
  · exact .templateStart rfl String.toList_ofList
  all_goals exact .plain (by simp [braceKinds]) (by simp)

theorem ofKeyword?_not_brace (word : String) :
    (TokenKind.ofKeyword? word).getD .identifier ∉ braceKinds := by
  unfold TokenKind.ofKeyword?
  split <;> decide

theorem not_brace_of_isWordChar {c : Char} (hc : Lexeme.isWordChar c = true) :
    c ≠ '{' ∧ c ≠ '}' := by
  constructor
  all_goals
    intro heq
    subst heq
    revert hc
    decide

theorem not_brace_of_isDigit {c : Char} (hc : Decimal.isDigit c = true) : c ≠ '{' ∧ c ≠ '}' := by
  apply not_brace_of_isWordChar
  simp [Lexeme.isWordChar, hc]

theorem not_brace_of_number {first : Char} {more : List Char}
    (h : (Lexeme.number first more).Whole) : ∀ c ∈ first :: more, c ≠ '{' ∧ c ≠ '}' := by
  obtain ⟨whole, fraction, rfl, hwhole, hfirst, hfraction⟩ := h
  have hhead : first ≠ '{' ∧ first ≠ '}' := by
    rcases hfirst with hdigit | ⟨hminus, -⟩
    · exact not_brace_of_isDigit hdigit
    · subst hminus
      decide
  have hlast : ∀ c ∈ fraction, c ≠ '{' ∧ c ≠ '}' := by
    intro c hc
    rcases hfraction with hnone | ⟨d, ds, hpoint, hdigits⟩
    · rw [hnone] at hc
      cases hc
    · rw [hpoint] at hc
      rcases List.mem_cons.mp hc with hdot | hdigit
      · rw [hdot]
        decide
      · exact not_brace_of_isDigit (hdigits c hdigit)
  intro c hc
  rcases List.mem_cons.mp hc with rfl | hmore
  · exact hhead
  · rcases List.mem_append.mp hmore with hc | hc
    · exact not_brace_of_isDigit (hwhole c hc)
    · exact hlast c hc

/-- A whole lexeme has braces only in a text or in the brace that it is. -/
theorem spelled_of_lexeme {l : Lexeme} (hl : l.Whole) (ht : l.token? = some (kind, text)) :
    Spelled ⟨kind, text, p⟩ := by
  cases l with
  | longString body | string quote body =>
    cases ht
    exact .string rfl
  | number first more =>
    cases ht
    refine .plain (by simp [braceKinds]) ?_
    rw [String.toList_ofList]
    exact not_brace_of_number hl
  | word first more =>
    cases ht
    refine .plain (ofKeyword?_not_brace _) ?_
    rw [String.toList_ofList]
    intro c hc
    apply not_brace_of_isWordChar
    rcases List.mem_cons.mp hc with rfl | hmore
    · simp [Lexeme.isWordChar, hl.1]
    · exact hl.2 c hmore
  | symbol kind first more =>
    cases ht
    rcases hl with ⟨rfl, hkind⟩ | ⟨second, rfl, hkind⟩
    · exact spelled_of_symbol hkind
    · exact spelled_of_pair hkind
  | blank | lineComment | blockComment | skipped => cases ht

/-- Braces in a token of a source are those of its kind, unless the token is a string. -/
theorem Scanned.spelled {t : Token} (ht : t.Scanned) : t.Spelled := by
  obtain ⟨source, found, hscan, hmem⟩ := ht
  rcases hls : lexemes source.toList with ⟨ls, _ | fault⟩
  · rw [scan, scanChars_of_none hls] at hscan
    cases hscan
    rcases List.mem_append.mp hmem with htoken | hend
    · obtain ⟨⟨l, p⟩, hl, hplaced⟩ := List.mem_filterMap.mp htoken
      obtain ⟨⟨kind, text⟩, hkind, rfl⟩ := Option.map_eq_some_iff.mp hplaced
      have hmem : l ∈ (lexemes source.toList).1 := by
        rw [hls]
        exact mem_of_mem_placed hl
      exact spelled_of_lexeme (whole_of_mem_lexemes hmem) hkind
    · rw [List.mem_singleton.mp hend]
      exact .plain (by simp [braceKinds]) (by simp)
  · rw [scan, scanChars_of_some hls] at hscan
    cases hscan

end Token

namespace Grammar

theorem templatePiece_of_string {t : Token} (ht : t.kind = .string) :
    (Parser.templatePiece t).toList = '"' :: (t.text.toList ++ ['"']) := by
  simp [Parser.templatePiece, ht]

theorem templatePiece_of_ne_string {t : Token} (ht : t.kind ≠ .string) :
    Parser.templatePiece t = t.text := by
  simp [Parser.templatePiece, ht]

/-- What balanced tokens make up is balanced, if what their strings hold is. -/
theorem balanced_joined {inner : List Token} (hinner : Balanced inner)
    (hspelled : ∀ t ∈ inner, t.Spelled)
    (hstrings : ∀ t ∈ inner, t.kind = .string → Template.Balanced t.text.toList) :
    Template.Balanced (joined inner).toList := by
  induction hinner with
  | nil => exact .nil
  | plain t rest hopens hcloses hrest ih =>
    rw [List.forall_mem_cons] at hspelled hstrings
    have htail := ih hspelled.2 hstrings.2
    rw [joined_cons, String.toList_append]
    refine Template.Balanced.append ?_ htail
    by_cases hstring : t.kind = .string
    · have hquote : Template.Balanced ['"'] := .char (by decide) (by decide) .nil
      rw [templatePiece_of_string hstring]
      exact .char (by decide) (by decide) ((hstrings.1 hstring).append hquote)
    · rw [templatePiece_of_ne_string hstring]
      cases hspelled.1 with
      | string hkind => exact absurd hkind hstring
      | lbrace hkind => exact absurd (Or.inl hkind) hopens
      | rbrace hkind => exact absurd hkind hcloses
      | templateStart hkind => exact absurd (Or.inr hkind) hopens
      | plain _ htext =>
        apply Template.balanced_of_not_mem
        · intro hmem
          exact (htext _ hmem).1 rfl
        · intro hmem
          exact (htext _ hmem).2 rfl
  | nested opening closing inner rest hopens _ hcloses _ ihinner ihrest =>
    rw [List.cons_append, List.forall_mem_cons, List.forall_mem_append, List.forall_mem_cons]
      at hspelled hstrings
    obtain ⟨hopening, hspelledInner, hclosing, hspelledRest⟩ := hspelled
    obtain ⟨-, hstringsInner, -, hstringsRest⟩ := hstrings
    have hfirst := ihinner hspelledInner hstringsInner
    have hlast := ihrest hspelledRest hstringsRest
    have hbraces := Template.Balanced.braces hfirst hlast
    have hclose : (Parser.templatePiece closing).toList = ['}'] := by
      rw [templatePiece_of_ne_string (by rw [hcloses]; decide)]
      cases hclosing with
      | rbrace _ htext => exact htext
      | string hkind | lbrace hkind | templateStart hkind =>
        rw [hcloses] at hkind
        cases hkind
      | plain hkind =>
        rw [hcloses] at hkind
        exact absurd (by decide) hkind
    simp only [List.cons_append, joined_cons, joined_append, String.toList_append, hclose]
    cases hopening with
    | lbrace hkind htext =>
      rw [templatePiece_of_ne_string (by rw [hkind]; decide), htext]
      exact hbraces
    | templateStart hkind htext =>
      rw [templatePiece_of_ne_string (by rw [hkind]; decide), htext]
      exact .char (by decide) (by decide) hbraces
    | string hkind | rbrace hkind =>
      rcases hopens with heq | heq
      all_goals
        rw [hkind] at heq
        cases heq
    | plain hkind =>
      rcases hopens with heq | heq
      all_goals
        rw [heq] at hkind
        exact absurd (by decide) hkind

/-- What a template without quotes is made of. -/
theorem exists_inner_of_reads {t : Token} {ts rest : List Token} {text : String}
    (ht : t.kind = .templateStart) (hreads : (Parser.expr (t :: ts)).Reads (.template text) rest) :
    ∃ inner closing, ts = inner ++ closing :: rest ∧ closing.kind = .rbrace ∧ Balanced inner ∧
      text = Scope.spanOf (joined inner) := by
  obtain ⟨body, hends, heq⟩ := (Parser.expr_reads_template ht).mp hreads
  obtain ⟨inner, closing, hts, hinner, hclosing, hbody⟩ := closes_of_templateEnds hends
  cases hinner with
  | balanced _ hbalanced =>
    refine ⟨inner, closing, hts, hclosing, hbalanced, ?_⟩
    rw [Expr.template.inj heq, hbody, Scope.spanOf, String.append_assoc]

end Grammar

namespace Scope

open Template

/-- A span whose braces match is filled by itself, whatever follows it. -/
theorem expand_spanOf_append {s : Scope} {h : Host} {body filled : String}
    (hbody : Balanced body.toList) (hfills : s.Fills h body filled) (b : String) :
    s.expand h (spanOf body ++ b) = filled ++ s.expand h b := by
  have hcut : CutInto (spanOf body).toList [.span body.toList] := by
    rw [toList_spanOf]
    exact cutInto_span hbody
  have hlast : (spanOf body).toList.getLast? = some '}' := by
    rw [toList_spanOf]
    exact List.getLast?_concat
  have hseam : ¬ Meets (spanOf body).toList b.toList := by
    simp [Meets, hlast]
  rw [expand_append hcut hseam, (expand_spanOf hbody).mpr hfills]

/-- The scan of a span ends at its last brace exactly if the braces before it match. -/
theorem bodyLength?_spanOf_iff {body : String} :
    bodyLength? 0 ((spanOf body).toList.drop 2) = some ((spanOf body).toList.length - 3) ↔
      Balanced body.toList := by
  have hdrop : (spanOf body).toList.drop 2 = body.toList ++ ['}'] := by
    simp [spanOf]
  have hlength : (spanOf body).toList.length - 3 = body.toList.length := by
    simp [spanOf]
  rw [hdrop, hlength]
  exact bodyLength?_concat_iff

/-- Where expanding ends a span that is followed by nothing, and what it makes of it. -/
theorem expand_spanOf_cases (body : String) :
    (Balanced body.toList ∧
      ∀ (s : Scope) h filled, s.expand h (spanOf body) = filled ↔ s.Fills h body filled) ∨
    (∃ early late, body = early ++ "\x7d" ++ late ∧ Balanced early.toList ∧
      ∀ (s : Scope) h filled, s.Fills h early filled →
        s.expand h (spanOf body) = filled ++ s.expand h (late ++ "\x7d")) ∨
    (Unclosed (body.toList ++ ['}']) ∧
      ∀ (s : Scope) h, s.expand h (spanOf body) = spanOf body) := by
  rcases closes_cases body.toList with hbody | ⟨early, late, hbody, hearly⟩ | hopen
  · refine Or.inl ⟨hbody, ?_⟩
    intro s h filled
    exact expand_spanOf hbody
  · refine Or.inr (Or.inl ⟨String.ofList early, String.ofList late, ?_, ?_, ?_⟩)
    · apply String.toList_injective
      simp [hbody]
    · rwa [String.toList_ofList]
    · intro s h filled hfills
      have hsplit : spanOf body =
          spanOf (String.ofList early) ++ (String.ofList late ++ "\x7d") := by
        apply String.toList_injective
        simp [spanOf, hbody]
      rw [← String.toList_ofList (l := early)] at hearly
      rw [hsplit, expand_spanOf_append hearly hfills]
  · refine Or.inr (Or.inr ⟨hopen, ?_⟩)
    intro s h
    have hunclosed : Unclosed (body ++ "\x7d").toList := by
      rw [String.toList_append]
      exact hopen
    rw [spanOf, String.append_assoc, expand_of_unclosed hunclosed]

/-- A template without quotes is the span of its joined tokens, whose braces match token by
token. The scan of the text ends at its last character exactly if the braces of the joined
text match too. They do if the tokens stem from sources and the braces in each string
match; then the whole text gives way to what fills the span. Otherwise expanding ends the
span at a brace before the last, which is then kept, or it keeps the whole text. -/
theorem expand_bare_template {t : Token} {ts rest : List Token} {text : String}
    (ht : t.kind = .templateStart) (hreads : (Parser.expr (t :: ts)).Reads (.template text) rest) :
    ∃ inner closing, ts = inner ++ closing :: rest ∧ closing.kind = .rbrace ∧
      Grammar.Balanced inner ∧ text = spanOf (Grammar.joined inner) ∧
      (bodyLength? 0 (text.toList.drop 2) = some (text.toList.length - 3) ↔
        Balanced (Grammar.joined inner).toList) ∧
      ((∀ u ∈ inner, u.Scanned ∧ (u.kind = .string → Balanced u.text.toList)) →
        Balanced (Grammar.joined inner).toList) ∧
      ((Balanced (Grammar.joined inner).toList ∧
          ∀ (s : Scope) h filled,
            s.expand h text = filled ↔ s.Fills h (Grammar.joined inner) filled) ∨
        (∃ early late, Grammar.joined inner = early ++ "\x7d" ++ late ∧ Balanced early.toList ∧
          ∀ (s : Scope) h filled, s.Fills h early filled →
            s.expand h text = filled ++ s.expand h (late ++ "\x7d")) ∨
        (Unclosed ((Grammar.joined inner).toList ++ ['}']) ∧
          ∀ (s : Scope) h, s.expand h text = text)) := by
  obtain ⟨inner, closing, hts, hclosing, hinner, htext⟩ := Grammar.exists_inner_of_reads ht hreads
  subst htext
  refine ⟨inner, closing, hts, hclosing, hinner, rfl, bodyLength?_spanOf_iff, ?_,
    expand_spanOf_cases _⟩
  intro hmatch
  apply Grammar.balanced_joined hinner
  · intro u hu
    exact (hmatch u hu).1.spelled
  · intro u hu
    exact (hmatch u hu).2

def matchedTokens : List Token :=
  [⟨.templateStart, "$\x7b", ⟨1, 1⟩⟩, ⟨.lbrace, "\x7b", ⟨1, 3⟩⟩, ⟨.string, "\x7b\x7d", ⟨1, 4⟩⟩,
    ⟨.rbrace, "\x7d", ⟨1, 8⟩⟩, ⟨.rbrace, "\x7d", ⟨1, 9⟩⟩, ⟨.eof, "", ⟨1, 10⟩⟩]

theorem scan_matchedTokens : scan "$\x7b\x7b\"\x7b\x7d\"\x7d\x7d" = .ok ⟨matchedTokens, []⟩ := by
  have hls : lexemes "$\x7b\x7b\"\x7b\x7d\"\x7d\x7d".toList =
      ([.symbol .templateStart '$' ['{'], .symbol .lbrace '{' [], .string '"' ['{', '}'],
        .symbol .rbrace '}' [], .symbol .rbrace '}' []], none) := by
    decide +kernel
  rw [scan, scanChars_of_none hls]
  rfl

theorem scanned_of_mem_matchedTokens {t : Token} (ht : t ∈ matchedTokens) : t.Scanned :=
  ⟨_, _, scan_matchedTokens, ht⟩

theorem expand_matchedTokens :
    (Parser.expr matchedTokens).Reads (.template (spanOf "\x7b\"\x7b\x7d\"\x7d"))
        [⟨.eof, "", ⟨1, 10⟩⟩] ∧
      bodyLength? 0 "\x7b\"\x7b\x7d\"\x7d\x7d".toList = some 6 := by
  have hreads : (Parser.expr matchedTokens).Reads (.template (spanOf "\x7b\"\x7b\x7d\"\x7d"))
      [⟨.eof, "", ⟨1, 10⟩⟩] :=
    (Parser.expr_reads_template rfl).mpr ⟨_, ⟨by decide, rfl⟩, rfl⟩
  obtain ⟨inner, closing, hts, -, -, -, hends, hmatch, -⟩ := expand_bare_template rfl hreads
  have hinner : inner = [⟨.lbrace, "\x7b", ⟨1, 3⟩⟩, ⟨.string, "\x7b\x7d", ⟨1, 4⟩⟩,
      ⟨.rbrace, "\x7d", ⟨1, 8⟩⟩] := by
    have hsame := congrArg (fun ts => ts.dropLast.dropLast) hts
    simpa using hsame.symm
  refine ⟨hreads, hends.mpr (hmatch ?_)⟩
  subst hinner
  intro u hu
  refine ⟨scanned_of_mem_matchedTokens (List.mem_cons_of_mem _ (List.mem_append_left _ hu)), ?_⟩
  intro hstring
  simp only [List.mem_cons, List.not_mem_nil, or_false] at hu
  rcases hu with rfl | rfl | rfl
  · cases hstring
  · exact .braces .nil .nil
  · cases hstring

def unmatchedTokens : List Token :=
  [⟨.templateStart, "$\x7b", ⟨1, 1⟩⟩, ⟨.identifier, "now", ⟨1, 3⟩⟩, ⟨.lparen, "(", ⟨1, 6⟩⟩,
    ⟨.string, "\x7d", ⟨1, 7⟩⟩, ⟨.rparen, ")", ⟨1, 10⟩⟩, ⟨.rbrace, "\x7d", ⟨1, 11⟩⟩,
    ⟨.eof, "", ⟨1, 12⟩⟩]

/-- The brace in the string ends the span. The time is put in for the text up to it, and the
rest of the template is kept behind the time. -/
theorem expand_unmatchedTokens :
    scan "$\x7bnow(\"\x7d\")\x7d" = .ok ⟨unmatchedTokens, []⟩ ∧
      (Parser.expr unmatchedTokens).Reads (.template (spanOf "now(\"\x7d\")"))
        [⟨.eof, "", ⟨1, 12⟩⟩] ∧
      bodyLength? 0 "now(\"\x7d\")\x7d".toList = some 5 ∧
      "now(\"\x7d\")".length = 8 ∧
      ∀ h, ({} : Scope).expand h (spanOf "now(\"\x7d\")") = h.now ++ "\")\x7d" := by
  have hls : lexemes "$\x7bnow(\"\x7d\")\x7d".toList =
      ([.symbol .templateStart '$' ['{'], .word 'n' ['o', 'w'], .symbol .lparen '(' [],
        .string '"' ['}'], .symbol .rparen ')' [], .symbol .rbrace '}' []], none) := by
    decide +kernel
  have hreads : (Parser.expr unmatchedTokens).Reads (.template (spanOf "now(\"\x7d\")"))
      [⟨.eof, "", ⟨1, 12⟩⟩] :=
    (Parser.expr_reads_template rfl).mpr ⟨_, ⟨by decide, rfl⟩, rfl⟩
  refine ⟨?_, hreads, by decide, by decide, ?_⟩
  · rw [scan, scanChars_of_none hls]
    rfl
  · intro h
    have hearly : Balanced "now(\"".toList := balanced_of_not_mem (by decide) (by decide)
    have hfills : ({} : Scope).Fills h "now(\"" h.now := .now rfl rfl (by decide)
    have hsplit : spanOf "now(\"\x7d\")" = spanOf "now(\"" ++ "\")\x7d" := by decide
    have hkept : ({} : Scope).expand h "\")\x7d" = "\")\x7d" := by
      apply String.toList_injective
      rw [toList_expand, expand_of_not_infix _ (by decide)]
    rw [hsplit, expand_spanOf_append hearly hfills, hkept]

end Scope

end FlowGraph
