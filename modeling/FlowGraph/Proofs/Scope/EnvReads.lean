import FlowGraph.Proofs.Fields
import FlowGraph.Proofs.Scope.Expansion
import FlowGraph.Proofs.Token.Shape

/-!
Reads of the environment. A text reads an environment variable in a span, with the name in
quotes of either kind or without, and an expression reads it by a call. A name that is
declared is a word and never the text of such a read, so all of them get the same text.
-/

namespace FlowGraph

/-- A text with a bracket in it names nothing that is declared. -/
theorem Fields.get?_eq_none_of_bracket {α : Type} {fields : Fields α}
    (hfields : ∀ name ∈ fields.names, IsWord name) {cs : List Char} (hcs : '(' ∈ cs) :
    fields.get? (String.ofList cs) = none := by
  apply Fields.get?_eq_none_iff.mpr
  intro hmem
  have hbracket : Lexeme.isWordChar '(' = true :=
    (hfields _ hmem).isWordChar '(' (by rwa [String.toList_ofList])
  exact absurd hbracket (by decide)

namespace Template

/-- A name that a read can spell with quotes and without: none of its characters ends it
early or is a brace, and there are no blanks around it. -/
structure Spellable (name : List Char) : Prop where
  plain : ∀ c ∈ name, c ∉ ['"', '\'', ')', '{', '}']
  starts : Text.Starts name
  ends : Text.Ends name

def readText (before quote name after : List Char) : List Char :=
  "env(".toList ++ (before ++ (quote ++ (name ++ (quote ++ (after ++ [')'])))))

variable {lead before quote name after trail : List Char}

/-- Blanks and quotes do not count for the name that is read. -/
theorem envCall_readText (hname : Spellable name) (hquote : quote ∈ quotes)
    (hbefore : Text.Blank before) (hafter : Text.Blank after) :
    EnvCall (readText before quote name after) name := by
  have hunquoted : Unquoted name := by
    intro c hc
    have hplain := hname.plain c hc
    simp only [List.mem_cons, not_or] at hplain
    exact ⟨hplain.1, hplain.2.1, hplain.2.2.1⟩
  exact ⟨before, quote, name, quote, after, rfl, hbefore, hquote, hunquoted, hquote, hafter,
    (Text.trim_of_starts_ends hname.starts hname.ends).symm⟩

/-- The blanks around a read do not belong to it. -/
theorem trim_readText (hlead : Text.Blank lead) (htrail : Text.Blank trail) :
    Text.trim (lead ++ readText before quote name after ++ trail) =
      readText before quote name after := by
  apply Text.trim_of_between hlead htrail
  · intro c hc
    obtain rfl : 'e' = c := Option.some.inj hc
    rfl
  · intro c hc
    have hlast : readText before quote name after =
        "env(".toList ++ (before ++ (quote ++ (name ++ (quote ++ after)))) ++ [')'] := by
      simp [readText]
    rw [hlast, List.getLast?_concat] at hc
    obtain rfl : ')' = c := Option.some.inj hc
    rfl

section Braces

variable {c : Char} (hc : c = '{' ∨ c = '}')

include hc

theorem brace_not_mem_blank {cs : List Char} (hcs : Text.Blank cs) : c ∉ cs := by
  intro hmem
  have hblank := hcs c hmem
  rcases hc with rfl | rfl
  · exact absurd hblank (by decide)
  · exact absurd hblank (by decide)

theorem brace_not_mem_quote (hquote : quote ∈ quotes) : c ∉ quote := by
  have hplain : ∀ q ∈ quotes, '{' ∉ q ∧ '}' ∉ q := by decide
  rcases hc with rfl | rfl
  · exact (hplain quote hquote).1
  · exact (hplain quote hquote).2

theorem brace_not_mem_readText (hname : Spellable name) (hquote : quote ∈ quotes)
    (hbefore : Text.Blank before) (hafter : Text.Blank after) :
    c ∉ readText before quote name after := by
  have hspelled : c ∉ name := by
    intro hmem
    have hplain := hname.plain c hmem
    simp only [List.mem_cons, not_or] at hplain
    rcases hc with rfl | rfl
    · exact hplain.2.2.2.1 rfl
    · exact hplain.2.2.2.2.1 rfl
  have hfixed : c ∉ "env(".toList ∧ c ≠ ')' := by
    rcases hc with rfl | rfl
    · decide
    · decide
  have hquotes := brace_not_mem_quote hc hquote
  simp only [readText, List.mem_append, List.mem_singleton, not_or]
  exact ⟨hfixed.1, brace_not_mem_blank hc hbefore, hquotes, hspelled, hquotes,
    brace_not_mem_blank hc hafter, hfixed.2⟩

end Braces

/-- A read is all of its span, with the blanks around it. -/
theorem balanced_readText (hname : Spellable name) (hquote : quote ∈ quotes)
    (hlead : Text.Blank lead) (hbefore : Text.Blank before) (hafter : Text.Blank after)
    (htrail : Text.Blank trail) :
    Balanced (lead ++ readText before quote name after ++ trail) := by
  have hbrace {c : Char} (hc : c = '{' ∨ c = '}') :
      c ∉ lead ++ readText before quote name after ++ trail := by
    simp only [List.mem_append, not_or]
    exact ⟨⟨brace_not_mem_blank hc hlead,
      brace_not_mem_readText hc hname hquote hbefore hafter⟩, brace_not_mem_blank hc htrail⟩
  exact balanced_of_not_mem (hbrace (Or.inl rfl)) (hbrace (Or.inr rfl))

end Template

namespace Scope

open Template

theorem eval_env (s : Scope) (h : Host) (name : String) :
    s.eval h (.call "env" [.literal (.str name)]) = .ok (.str ((h.env name).getD "")) := by
  simp [eval, argument, Json.render, Host.envText]

/-- No declared name stands in the way of a read. -/
theorem fills_readText {s : Scope} {h : Host} (hvars : ∀ name ∈ s.vars.names, IsWord name)
    (hparams : ∀ name ∈ s.params.names, IsWord name) {body : String}
    {lead before quote name after trail : List Char}
    (hbody : body.toList = lead ++ readText before quote name after ++ trail)
    (hname : Spellable name) (hquote : quote ∈ quotes) (hlead : Text.Blank lead)
    (hbefore : Text.Blank before) (hafter : Text.Blank after) (htrail : Text.Blank trail) :
    s.Fills h body ((h.env (String.ofList name)).getD "") := by
  have hstrip : Text.strip body = String.ofList (readText before quote name after) := by
    rw [Text.strip, hbody, trim_readText hlead htrail]
  have hbracket : '(' ∈ readText before quote name after := by
    simp [readText]
  apply Fills.env
  · rw [hstrip]
    exact Fields.get?_eq_none_of_bracket hvars hbracket
  · rw [hstrip]
    exact Fields.get?_eq_none_of_bracket hparams hbracket
  · rw [hstrip, String.toList_ofList]
    simp [readText]
  · rw [hstrip, String.toList_ofList]
    exact envCall_readText hname hquote hbefore hafter

/-- A read in a span and a call get the same text. The span may have the name in double
quotes, in single quotes or in none, and blanks behind its brace, behind the opening bracket,
before the closing one and at its end; the text is that of the environment variable, or
empty if it is not set. -/
theorem expand_env_agrees (s : Scope) (h : Host) (hvars : ∀ name ∈ s.vars.names, IsWord name)
    (hparams : ∀ name ∈ s.params.names, IsWord name) (name : String)
    (hname : Spellable name.toList) (quote : String) (hquote : quote ∈ ["", "\"", "'"])
    (lead before after trail : String) (hlead : Text.Blank lead.toList)
    (hbefore : Text.Blank before.toList) (hafter : Text.Blank after.toList)
    (htrail : Text.Blank trail.toList) :
    s.expand h (spanOf (lead ++ ("env(" ++ before ++ quote ++ name ++ quote ++ after ++ ")") ++
        trail)) = (h.env name).getD "" ∧
      s.eval h (.call "env" [.literal (.str name)]) = .ok (.str ((h.env name).getD "")) := by
  refine ⟨?_, eval_env s h name⟩
  generalize htext : lead ++ ("env(" ++ before ++ quote ++ name ++ quote ++ after ++ ")") ++
    trail = body
  have hbody : body.toList =
      lead.toList ++ readText before.toList quote.toList name.toList after.toList ++
        trail.toList := by
    simp [← htext, readText]
  have hquotes : quote.toList ∈ quotes := by
    simp only [List.mem_cons, List.not_mem_nil, or_false] at hquote
    rcases hquote with rfl | rfl | rfl
    · decide
    · decide
    · decide
  have hbalanced : Balanced body.toList := by
    rw [hbody]
    exact balanced_readText hname hquotes hlead hbefore hafter htrail
  have hfills : s.Fills h body ((h.env (String.ofList name.toList)).getD "") :=
    fills_readText hvars hparams hbody hname hquotes hlead hbefore hafter htrail
  rw [String.ofList_toList] at hfills
  exact (expand_spanOf hbalanced).mpr hfills

def lookalikes : Scope where
  vars := [("env", .str "variable")]
  params := [("HOME", ⟨.string, .str "parameter"⟩)]

def oddlyNamed : Host where
  env name := if name = "HOME (old" then some "/srv" else none
  now := ""

theorem expand_env_agrees_oddlyNamed :
    lookalikes.expand oddlyNamed (spanOf "\tenv( 'HOME (old'\n) ") = "/srv" ∧
      lookalikes.eval oddlyNamed (.call "env" [.literal (.str "HOME (old")]) = .ok (.str "/srv") ∧
      lookalikes.expand { env := fun _ => none, now := "" } (spanOf "env(HOME (old)") = "" := by
  have hvars : ∀ name ∈ lookalikes.vars.names, IsWord name := by
    intro name hmem
    obtain rfl : name = "env" := List.mem_singleton.mp hmem
    decide
  have hparams : ∀ name ∈ lookalikes.params.names, IsWord name := by
    intro name hmem
    obtain rfl : name = "HOME" := List.mem_singleton.mp hmem
    decide
  have hodd : Spellable "HOME (old".toList := by
    refine ⟨by simp, ?_, ?_⟩
    · intro c hc
      obtain rfl : 'H' = c := Option.some.inj hc
      rfl
    · intro c hc
      obtain rfl : 'd' = c := Option.some.inj hc
      rfl
  obtain ⟨hquoted, hcall⟩ := expand_env_agrees lookalikes oddlyNamed hvars hparams "HOME (old" hodd
    "'" (by simp) "\t" " " "\n" " " (List.all_eq_true.mp rfl) (List.all_eq_true.mp rfl)
    (List.all_eq_true.mp rfl) (List.all_eq_true.mp rfl)
  obtain ⟨hunset, -⟩ := expand_env_agrees lookalikes { env := fun _ => none, now := "" } hvars
    hparams "HOME (old" hodd "" (by simp) "" "" "" "" Text.blank_nil Text.blank_nil Text.blank_nil
    Text.blank_nil
  exact ⟨hquoted, hcall, hunset⟩

end Scope

end FlowGraph
