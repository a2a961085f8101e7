import FlowGraph.Proofs.Scope.Binding
import FlowGraph.Proofs.Template
import FlowGraph.Proofs.Text

/-!
Expanding a text in a scope is one substitution from left to right: closed spans give way
to what their names stand for, all else is copied, and what has been put in is not looked
at again.
-/

namespace FlowGraph

namespace Template

def quotes : List (List Char) :=
  [[], ['"'], ['\'']]

def Unquoted (cs : List Char) : Prop :=
  ∀ c ∈ cs, c ≠ '"' ∧ c ≠ '\'' ∧ c ≠ ')'

/-- The text is a read of the environment variable of this name. The name may stand in
quotes, and blanks around it do not count, be they inside the quotes or outside. -/
def EnvCall (call name : List Char) : Prop :=
  ∃ before opening inner closing after,
    call = "env(".toList ++ (before ++ (opening ++ (inner ++ (closing ++ (after ++ [')']))))) ∧
    Text.Blank before ∧ opening ∈ quotes ∧ Unquoted inner ∧ closing ∈ quotes ∧
    Text.Blank after ∧ name = Text.trim inner

section EnvCall

open envName?

def isNamed (c : Char) : Bool :=
  !isQuote c && c != ')'

variable {before inner closing after cs : List Char}

theorem exists_append_dropQuote (cs : List Char) :
    ∃ opening ∈ quotes, cs = opening ++ dropQuote cs := by
  cases cs with
  | nil => exact ⟨[], by simp [quotes], rfl⟩
  | cons c cs =>
    by_cases hc : isQuote c = true
    · refine ⟨[c], ?_, by simp [dropQuote, hc]⟩
      simpa [quotes, isQuote] using hc
    · exact ⟨[], by simp [quotes], by simp [dropQuote, hc]⟩

theorem isNamed_eq_true_iff {c : Char} : isNamed c = true ↔ c ≠ '"' ∧ c ≠ '\'' ∧ c ≠ ')' := by
  simp [isNamed, isQuote, and_assoc]

theorem isNamed_of_isBlank {c : Char} (hc : Text.isBlank c = true) : isNamed c = true := by
  rw [isNamed_eq_true_iff]
  refine ⟨?_, ?_, ?_⟩
  all_goals
    rintro rfl
    revert hc
    decide

theorem envName?_eq (cs : List Char) :
    envName? ("env(".toList ++ cs) =
      if Text.trimStart (dropQuote ((dropQuote (Text.trimStart cs)).dropWhile isNamed)) = [')']
      then some (Text.trim ((dropQuote (Text.trimStart cs)).takeWhile isNamed))
      else none := by
  have hstart : Text.dropPrefix? "env(".toList ("env(".toList ++ cs) = some cs :=
    Text.dropPrefix?_eq_some_iff.mpr rfl
  unfold envName?
  rw [hstart]
  rfl

/-- A name that is found in a call is the one that the call reads. -/
theorem envCall_of_envName? {call name : List Char} (hname : envName? call = some name) :
    EnvCall call name := by
  cases hcall : Text.dropPrefix? "env(".toList call with
  | none =>
    unfold envName? at hname
    rw [hcall] at hname
    cases hname
  | some rest =>
    obtain rfl := Text.dropPrefix?_eq_some_iff.mp hcall
    rw [envName?_eq] at hname
    split at hname
    · next hend =>
      obtain ⟨before, hbefore, hrest⟩ := Text.exists_append_trimStart rest
      obtain ⟨opening, hopening, hopened⟩ := exists_append_dropQuote (Text.trimStart rest)
      obtain ⟨closing, hclosing, hclosed⟩ :=
        exists_append_dropQuote ((dropQuote (Text.trimStart rest)).dropWhile isNamed)
      obtain ⟨after, hafter, hlast⟩ := Text.exists_append_trimStart
        (dropQuote ((dropQuote (Text.trimStart rest)).dropWhile isNamed))
      refine ⟨before, opening, (dropQuote (Text.trimStart rest)).takeWhile isNamed, closing, after,
        ?_, hbefore, hopening, ?_, hclosing, hafter, (Option.some.inj hname).symm⟩
      · rw [← hend, ← hlast, ← hclosed, List.takeWhile_append_dropWhile, ← hopened, ← hrest]
      · intro c hc
        exact isNamed_eq_true_iff.mp (List.mem_takeWhile_imp hc)
    · cases hname

/-- A name, perhaps a quote, and the bracket at the end: how they are read. -/
theorem read_named (hinner : Unquoted inner) (hclosing : closing ∈ quotes)
    (hafter : Text.Blank after) (hcs : cs = inner ++ (closing ++ (after ++ [')']))) :
    Text.trimStart (dropQuote (cs.dropWhile isNamed)) = [')'] ∧
      Text.trim (cs.takeWhile isNamed) = Text.trim inner := by
  have hnamed : ∀ c ∈ inner, isNamed c = true := fun c hc => isNamed_eq_true_iff.mpr (hinner c hc)
  have hblank : ∀ c ∈ after, isNamed c = true := fun c hc => isNamed_of_isBlank (hafter c hc)
  have hend : Text.trimStart (after ++ [')']) = [')'] := Text.trimStart_append hafter
  subst hcs
  rw [List.dropWhile_append_of_pos hnamed, List.takeWhile_append_of_pos hnamed]
  have hcases : closing = [] ∨ closing = ['"'] ∨ closing = ['\''] := by
    simpa [quotes] using hclosing
  rcases hcases with rfl | rfl | rfl
  · rw [List.nil_append, List.dropWhile_append_of_pos hblank, List.takeWhile_append_of_pos hblank]
    have hstop : [')'].takeWhile isNamed = [] := rfl
    rw [hstop, List.append_nil]
    exact ⟨rfl, Text.trim_append_blank hafter⟩
  · exact ⟨hend, by simp [isNamed, isQuote]⟩
  · exact ⟨hend, by simp [isNamed, isQuote]⟩

/-- Where the name begins: behind the quote, or with its first character. If there is
neither, the closing quote is taken for the opening one. -/
theorem exists_named {opening : List Char} (hbefore : Text.Blank before)
    (hopening : opening ∈ quotes)
    (hinner : Unquoted inner) (hclosing : closing ∈ quotes) (hafter : Text.Blank after) :
    ∃ inner' closing' after', Unquoted inner' ∧ closing' ∈ quotes ∧ Text.Blank after' ∧
      Text.trim inner' = Text.trim inner ∧
      dropQuote (Text.trimStart (before ++ (opening ++ (inner ++ (closing ++ (after ++ [')'])))))) =
        inner' ++ (closing' ++ (after' ++ [')'])) := by
  have hnone : [] ∈ quotes := by simp [quotes]
  rw [Text.trimStart_append hbefore]
  have hcases : opening = [] ∨ opening = ['"'] ∨ opening = ['\''] := by
    simpa [quotes] using hopening
  rcases hcases with rfl | rfl | rfl
  · rw [List.nil_append]
    by_cases hblank : Text.Blank inner
    · have hempty : Text.trim inner = [] := Text.trim_eq_nil_iff.mpr hblank
      have hcases : closing = [] ∨ closing = ['"'] ∨ closing = ['\''] := by
        simpa [quotes] using hclosing
      rw [Text.trimStart_append hblank, hempty]
      rcases hcases with rfl | rfl | rfl
      · refine ⟨[], [], [], by simp [Unquoted], hnone, Text.blank_nil, rfl, ?_⟩
        rw [List.nil_append, Text.trimStart_append hafter]
        rfl
      · exact ⟨[], [], after, by simp [Unquoted], hnone, hafter, rfl, rfl⟩
      · exact ⟨[], [], after, by simp [Unquoted], hnone, hafter, rfl, rfl⟩
    · obtain ⟨a, ha, hsplit⟩ := Text.exists_append_trimStart inner
      have hne : Text.trimStart inner ≠ [] := fun hnil => hblank (Text.trimStart_eq_nil_iff.mp hnil)
      have hunquoted : Unquoted (Text.trimStart inner) := by
        intro c hc
        exact hinner c (hsplit ▸ List.mem_append_right a hc)
      refine ⟨Text.trimStart inner, closing, after, hunquoted, hclosing, hafter, ?_, ?_⟩
      · rw [← Text.trim_blank_append ha, ← hsplit]
      · have hstarts := (Text.starts_trimStart inner).append (b := closing ++ (after ++ [')'])) hne
        conv_lhs => rw [hsplit, List.append_assoc, Text.trimStart_append ha,
          Text.trimStart_of_starts hstarts]
        obtain ⟨c, cs, hcs⟩ := List.exists_cons_of_ne_nil hne
        have hc : isQuote c = false := by
          have hplain := hunquoted c (hcs ▸ List.mem_cons_self)
          simp [isQuote, hplain.1, hplain.2.1]
        rw [hcs]
        simp [dropQuote, hc]
  · exact ⟨inner, closing, after, hinner, hclosing, hafter, rfl, rfl⟩
  · exact ⟨inner, closing, after, hinner, hclosing, hafter, rfl, rfl⟩

/-- A call reads the environment exactly in the forms that `EnvCall` describes. -/
theorem envName?_eq_some_iff {call name : List Char} :
    envName? call = some name ↔ EnvCall call name := by
  refine ⟨envCall_of_envName?, ?_⟩
  rintro ⟨before, opening, inner, closing, after, rfl, hbefore, hopening, hinner, hclosing, hafter,
    rfl⟩
  obtain ⟨inner', closing', after', hinner', hclosing', hafter', htrim, hread⟩ :=
    exists_named hbefore hopening hinner hclosing hafter
  obtain ⟨hend, hname⟩ := read_named hinner' hclosing' hafter' hread
  rw [envName?_eq, if_pos hend, hname, htrim]

end EnvCall

end Template

namespace Scope

open Template

def spanOf (body : String) : String :=
  "$\x7b" ++ body ++ "\x7d"

theorem toList_spanOf (body : String) : (spanOf body).toList = (Piece.span body.toList).source := by
  simp [spanOf, Piece.source]

/-- What a span gives way to. Its trimmed body names a variable, else a parameter; only if
it names neither is it a built-in call. A span that nothing fills stays as it is. -/
inductive Fills (s : Scope) (h : Host) (body : String) : String → Prop
  | variable {v : Json} : s.vars.get? (Text.strip body) = some v → Fills s h body v.render
  | param {p : Bound} : s.vars.get? (Text.strip body) = none →
      s.params.get? (Text.strip body) = some p → p.value ≠ .null → Fills s h body p.value.render
  | unset {p : Bound} : s.vars.get? (Text.strip body) = none →
      s.params.get? (Text.strip body) = some p → p.value = .null → Fills s h body (spanOf body)
  | now : s.vars.get? (Text.strip body) = none → s.params.get? (Text.strip body) = none →
      "now(".toList <+: (Text.strip body).toList → Fills s h body h.now
  | env {name : List Char} : s.vars.get? (Text.strip body) = none →
      s.params.get? (Text.strip body) = none → ¬ "now(".toList <+: (Text.strip body).toList →
      EnvCall (Text.strip body).toList name →
      Fills s h body ((h.env (String.ofList name)).getD "")
  | unknown : s.vars.get? (Text.strip body) = none → s.params.get? (Text.strip body) = none →
      ¬ "now(".toList <+: (Text.strip body).toList →
      (∀ name, ¬ EnvCall (Text.strip body).toList name) → Fills s h body (spanOf body)

variable {s : Scope} {h : Host} {body : String}

section Calls

variable {name : List Char} (hvar : s.vars.get? (String.ofList name) = none)
  (hparam : s.params.get? (String.ofList name) = none)

include hvar hparam

theorem spanText?_now (hnow : "now(".toList <+: name) : s.spanText? h name = some h.now := by
  unfold spanText?
  rw [hvar, hparam]
  exact if_pos (Text.isSome_dropPrefix?_iff.mpr hnow)

theorem spanText?_env (hnow : ¬ "now(".toList <+: name) :
    s.spanText? h name =
      (envName? name).map fun key => (h.env (String.ofList key)).getD "" := by
  unfold spanText?
  rw [hvar, hparam]
  exact if_neg fun hstart => hnow (Text.isSome_dropPrefix?_iff.mp hstart)

end Calls

theorem spanText?_param {name : List Char} {p : Bound}
    (hvar : s.vars.get? (String.ofList name) = none)
    (hparam : s.params.get? (String.ofList name) = some p) :
    s.spanText? h name = if p.value.isNull then none else some p.value.render := by
  unfold spanText?
  rw [hvar, hparam]

theorem spanText?_variable {name : List Char} {v : Json}
    (hvar : s.vars.get? (String.ofList name) = some v) : s.spanText? h name = some v.render := by
  unfold spanText?
  rw [hvar]

/-- A span gives way to what its trimmed body stands for, or stays. -/
theorem fills_iff {t : String} :
    s.Fills h body t ↔ (s.spanText? h (Text.trim body.toList)).getD (spanOf body) = t := by
  have hstrip : (Text.strip body).toList = Text.trim body.toList := Text.toList_strip body
  constructor
  · intro hfills
    cases hfills with
    | «variable» hvar => rw [spanText?_variable hvar, Option.getD_some]
    | param hvar hparam hvalue =>
      have hnull := fun heq => hvalue (Json.isNull_eq_true_iff.mp heq)
      rw [spanText?_param hvar hparam, if_neg hnull, Option.getD_some]
    | unset hvar hparam hvalue =>
      rw [spanText?_param hvar hparam, if_pos (Json.isNull_eq_true_iff.mpr hvalue),
        Option.getD_none]
    | now hvar hparam hnow =>
      rw [hstrip] at hnow
      rw [spanText?_now hvar hparam hnow, Option.getD_some]
    | env hvar hparam hnow hcall =>
      rw [hstrip] at hnow hcall
      rw [spanText?_env hvar hparam hnow, envName?_eq_some_iff.mpr hcall, Option.map_some,
        Option.getD_some]
    | unknown hvar hparam hnow hcall =>
      rw [hstrip] at hnow hcall
      have hnone : envName? (Text.trim body.toList) = none :=
        Option.eq_none_iff_forall_ne_some.mpr fun name hname =>
          hcall name (envName?_eq_some_iff.mp hname)
      rw [spanText?_env hvar hparam hnow, hnone, Option.map_none, Option.getD_none]
  · rintro rfl
    cases hvar : s.vars.get? (Text.strip body) with
    | some v =>
      rw [spanText?_variable hvar]
      exact .variable hvar
    | none =>
      cases hparam : s.params.get? (Text.strip body) with
      | some p =>
        rw [spanText?_param hvar hparam]
        by_cases hnull : p.value.isNull = true
        · rw [if_pos hnull]
          exact .unset hvar hparam (Json.isNull_eq_true_iff.mp hnull)
        · rw [if_neg hnull]
          exact .param hvar hparam fun heq => hnull (Json.isNull_eq_true_iff.mpr heq)
      | none =>
        by_cases hnow : "now(".toList <+: Text.trim body.toList
        · rw [spanText?_now hvar hparam hnow, Option.getD_some]
          rw [← hstrip] at hnow
          exact .now hvar hparam hnow
        · rw [spanText?_env hvar hparam hnow]
          rw [← hstrip] at hnow ⊢
          cases hname : envName? (Text.strip body).toList with
          | some name => exact .env hvar hparam hnow (envName?_eq_some_iff.mp hname)
          | none =>
            refine .unknown hvar hparam hnow fun name hcall => ?_
            rw [← envName?_eq_some_iff, hname] at hcall
            cases hcall

theorem toList_expand (s : Scope) (h : Host) (t : String) :
    (s.expand h t).toList =
      Template.expand (fun body => (s.spanText? h (Text.trim body)).map String.toList)
        t.toList := by
  simp [expand]

/-- Texts behind each other are expanded each by itself, if no span opens between them. -/
theorem expand_append {a b : String} {ps : List Piece} (ha : CutInto a.toList ps)
    (hseam : ¬ Meets a.toList b.toList) : s.expand h (a ++ b) = s.expand h a ++ s.expand h b := by
  apply String.toList_injective
  rw [String.toList_append, toList_expand, toList_expand, toList_expand, String.toList_append]
  exact ha.expand_append _ hseam

theorem expand_of_unclosed {t : String} (ht : Unclosed t.toList) :
    s.expand h ("$\x7b" ++ t) = "$\x7b" ++ t := by
  apply String.toList_injective
  rw [toList_expand, String.toList_append]
  exact Template.expand_of_unclosed _ ht

/-- A closed span gives way to what fills it. -/
theorem expand_spanOf {t : String} (hbody : Balanced body.toList) :
    s.expand h (spanOf body) = t ↔ s.Fills h body t := by
  have hexpand : s.expand h (spanOf body) =
      (s.spanText? h (Text.trim body.toList)).getD (spanOf body) := by
    apply String.toList_injective
    rw [toList_expand, toList_spanOf, expand_span _ hbody]
    cases s.spanText? h (Text.trim body.toList) with
    | none => exact (toList_spanOf body).symm
    | some v => rfl
  rw [hexpand, fills_iff]

/-- Expanding is one substitution from left to right. It goes through texts that stand
behind each other one by one, unless a span opens where they meet or stays open in the
first; a text without spans is copied, and so is all from a span on that nothing closes;
a closed span gives way to what fills it, whatever stands before and behind, and what
fills it is not expanded again. -/
theorem expand_substitutes_once (s : Scope) (h : Host) :
    (∀ a b ps, CutInto a.toList ps → ¬ Meets a.toList b.toList →
      s.expand h (a ++ b) = s.expand h a ++ s.expand h b) ∧
    (∀ t, ¬ ['$', '{'] <:+: t.toList → s.expand h t = t) ∧
    (∀ a ps t, CutInto a.toList ps → Unclosed t.toList →
      s.expand h (a ++ ("$\x7b" ++ t)) = s.expand h a ++ ("$\x7b" ++ t)) ∧
    (∀ body t, Balanced body.toList → (s.expand h (spanOf body) = t ↔ s.Fills h body t)) ∧
    (∀ a ps body t b, CutInto a.toList ps → Balanced body.toList → s.Fills h body t →
      s.expand h (a ++ (spanOf body ++ b)) = s.expand h a ++ (t ++ s.expand h b)) := by
  refine ⟨fun a b ps ha hseam => expand_append ha hseam, ?_, ?_, ?_, ?_⟩
  · intro t ht
    apply String.toList_injective
    rw [toList_expand, expand_of_not_infix _ ht]
  · intro a ps t ha ht
    have hseam : ¬ Meets a.toList ("$\x7b" ++ t).toList := by
      simp [Meets]
    rw [expand_append ha hseam, expand_of_unclosed ht]
  · intro body t hbody
    exact expand_spanOf hbody
  · intro a ps body t b ha hbody hfills
    have hcut : CutInto (spanOf body).toList [.span body.toList] := by
      rw [toList_spanOf]
      exact cutInto_span hbody
    have hseam : ¬ Meets a.toList (spanOf body ++ b).toList := by
      simp [Meets, spanOf]
    have hlast : (spanOf body).toList.getLast? = some '}' := by
      rw [toList_spanOf]
      exact List.getLast?_concat
    have hnext : ¬ Meets (spanOf body).toList b.toList := by
      simp [Meets, hlast]
    rw [expand_append ha hseam, expand_append hcut hnext, (expand_spanOf hbody).mpr hfills]

def nested : Scope where
  vars := [("a", .str (spanOf "b")), ("b", .str "x")]

theorem expand_nested_once :
    nested.Fills { env := fun _ => none, now := "" } " a " (spanOf "b") ∧
      nested.Fills { env := fun _ => none, now := "" } "b" "x" ∧
      nested.expand { env := fun _ => none, now := "" } ("$" ++ (spanOf " a " ++ spanOf "b")) =
        "$" ++ (spanOf "b" ++ "x") := by
  obtain ⟨-, hcopied, -, hspan, hfilled⟩ :=
    expand_substitutes_once nested { env := fun _ => none, now := "" }
  have hdollar : CutInto "$".toList [.char '$'] := cutInto_map_char (by decide)
  have ha : Balanced " a ".toList := balanced_of_not_mem (by decide) (by decide)
  have hb : Balanced "b".toList := balanced_of_not_mem (by decide) (by decide)
  have hafills : nested.Fills { env := fun _ => none, now := "" } " a " (spanOf "b") :=
    .variable (v := .str (spanOf "b")) rfl
  have hbfills : nested.Fills { env := fun _ => none, now := "" } "b" "x" :=
    .variable (v := .str "x") rfl
  refine ⟨hafills, hbfills, ?_⟩
  rw [hfilled "$" _ " a " (spanOf "b") (spanOf "b") hdollar ha hafills, hcopied "$" (by decide),
    (hspan "b" "x" hb).mpr hbfills]

end Scope

end FlowGraph
