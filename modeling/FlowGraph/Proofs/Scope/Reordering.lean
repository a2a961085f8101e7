import FlowGraph.Proofs.Scope.Binding
import FlowGraph.Proofs.Template

/-!
Variables that do not depend on each other. An expression looks up the names that it
mentions and no others, so its value is the same in all scopes that agree on these. Two
neighbouring declarations that do not mention each other can change places: the scopes
that they make differ in the order of names only, and nothing after them can tell.
-/

namespace FlowGraph

def Template.names (text : String) : List String :=
  (Template.pieces text.toList).filterMap fun
    | .char _ => none
    | .span body => some (String.ofList (Text.trim body))

namespace Expr

mutual

/-- The names that an expression mentions, on their own or in a span of a text. -/
def mentions : Expr → List String
  | .literal _ => []
  | .ident name => [name]
  | .call _ args => mentionsItems args
  | .template text => Template.names text
  | .object entries => mentionsEntries entries
  | .array items => mentionsItems items

def mentionsItems : List Expr → List String
  | [] => []
  | e :: items => mentions e ++ mentionsItems items

def mentionsEntries : List (String × Expr) → List String
  | [] => []
  | (_, e) :: entries => mentions e ++ mentionsEntries entries

end

end Expr

namespace Template

theorem mem_names {text : String} {body : List Char} (hbody : .span body ∈ pieces text.toList) :
    String.ofList (Text.trim body) ∈ names text :=
  List.mem_filterMap.mpr ⟨.span body, hbody, rfl⟩

end Template

namespace Scope

def AgreeAt (s t : Scope) (name : String) : Prop :=
  s.vars.get? name = t.vars.get? name ∧ s.params.get? name = t.params.get? name

def Same (s t : Scope) : Prop :=
  ∀ name, AgreeAt s t name

variable {s t : Scope} {h : Host}

section Eval

theorem resolve_congr {name : String} (hname : AgreeAt s t name) :
    s.resolve name = t.resolve name := by
  unfold resolve
  rw [hname.1, hname.2]

theorem spanText?_congr {body : List Char} (hbody : AgreeAt s t (String.ofList body)) :
    s.spanText? h body = t.spanText? h body := by
  unfold spanText?
  rw [hbody.1, hbody.2]

/-- A text looks up the names in its spans and no others. -/
theorem expand_congr {text : String} (htext : ∀ name ∈ Template.names text, AgreeAt s t name) :
    s.expand h text = t.expand h text := by
  unfold expand
  rw [Template.expand_congr fun body hbody => ?_]
  rw [spanText?_congr (htext _ (Template.mem_names hbody))]

mutual

/-- An expression looks up the names that it mentions and no others. -/
theorem eval_congr (e : Expr) (he : ∀ name ∈ e.mentions, AgreeAt s t name) :
    s.eval h e = t.eval h e := by
  match e with
  | .literal v => rfl
  | .ident name =>
    rw [eval, eval, resolve_congr (he name List.mem_cons_self)]
  | .call name args =>
    have hargs : s.argument h name args = t.argument h name args := argument_congr name args he
    unfold eval
    rw [hargs]
  | .template text => rw [eval, eval, expand_congr he]
  | .object entries => rw [eval, eval, evalEntries_congr entries he]
  | .array items => rw [eval, eval, evalItems_congr items he]

theorem argument_congr (function : String) (args : List Expr)
    (hargs : ∀ name ∈ Expr.mentionsItems args, AgreeAt s t name) :
    s.argument h function args = t.argument h function args := by
  match args with
  | [] => rfl
  | e :: args =>
    have he := eval_congr e fun name hname => hargs name (List.mem_append_left _ hname)
    rw [argument, argument, he]

theorem evalItems_congr (items : List Expr)
    (hitems : ∀ name ∈ Expr.mentionsItems items, AgreeAt s t name) :
    s.evalItems h items = t.evalItems h items := by
  match items with
  | [] => rfl
  | e :: items =>
    have he := eval_congr e fun name hname => hitems name (List.mem_append_left _ hname)
    have hrest := evalItems_congr items fun name hname =>
      hitems name (List.mem_append_right _ hname)
    rw [evalItems, evalItems, he, hrest]

theorem evalEntries_congr (entries : List (String × Expr))
    (hentries : ∀ name ∈ Expr.mentionsEntries entries, AgreeAt s t name) :
    s.evalEntries h entries = t.evalEntries h entries := by
  match entries with
  | [] => rfl
  | (key, e) :: entries =>
    have he := eval_congr e fun name hname => hentries name (List.mem_append_left _ hname)
    have hrest := evalEntries_congr entries fun name hname =>
      hentries name (List.mem_append_right _ hname)
    rw [evalEntries, evalEntries, he, hrest]

end

end Eval

section Swap

variable {x y : Variable} {vars before after : List Variable}

theorem Same.set (hst : Same s t) (name : String) (v : Json) :
    Same { s with vars := s.vars.set name v } { t with vars := t.vars.set name v } := by
  intro other
  refine ⟨?_, (hst other).2⟩
  rw [Fields.get?_set, Fields.get?_set, (hst other).1]

/-- What is set under two names does not depend on which of them is set first. -/
theorem same_set_set (s : Scope) {name other : String} (hne : name ≠ other) (v w : Json) :
    Same { s with vars := (s.vars.set name v).set other w }
      { s with vars := (s.vars.set other w).set name v } := by
  intro key
  refine ⟨?_, rfl⟩
  simp only [Fields.get?_set]
  by_cases hkey : key = name
  · have hother : key ≠ other := hkey ▸ hne
    rw [if_neg hother, if_pos hkey, if_pos hkey]
  · rw [if_neg hkey, if_neg hkey]

/-- An expression does not see a variable that it does not mention. -/
theorem eval_set {e : Expr} {name : String} (hname : name ∉ e.mentions) (v : Json) :
    eval { s with vars := s.vars.set name v } h e = s.eval h e := by
  refine eval_congr e fun other hother => ⟨?_, rfl⟩
  have hne : other ≠ name := fun heq => hname (heq ▸ hother)
  rw [Fields.get?_set, if_neg hne]

theorem Same.exists_bindVariable {s' : Scope} (hst : Same s t)
    (hbind : s.bindVariable h x = .ok s') :
    ∃ t', t.bindVariable h x = .ok t' ∧ Same s' t' := by
  obtain ⟨v, hv, rfl⟩ := bindVariable_eq_ok_iff.mp hbind
  rw [eval_congr x.value fun name _ => hst name] at hv
  exact ⟨_, bindVariable_eq_ok_iff.mpr ⟨v, hv, rfl⟩, hst.set x.name v⟩

/-- Scopes in which all names stand for the same stay such ones. -/
theorem Same.exists_bindVariables {s' : Scope} (hst : Same s t)
    (hrun : s.bindVariables h vars = (s', none)) :
    ∃ t', t.bindVariables h vars = (t', none) ∧ Same s' t' := by
  induction vars generalizing s t with
  | nil =>
    cases hrun
    exact ⟨t, rfl, hst⟩
  | cons x vars ih =>
    obtain ⟨next, hx, hvars⟩ := advance_cons_eq_none_iff.mp hrun
    obtain ⟨next', hx', hnext⟩ := hst.exists_bindVariable hx
    obtain ⟨t', hvars', ht'⟩ := ih hnext hvars
    exact ⟨t', advance_cons_eq_none_iff.mpr ⟨next', hx', hvars'⟩, ht'⟩

/-- Neither of the two declarations sees what the other binds. -/
theorem exists_bindVariables_pair (hne : x.name ≠ y.name) (hx : y.name ∉ x.value.mentions)
    (hy : x.name ∉ y.value.mentions) (hrun : s.bindVariables h [x, y] = (t, none)) :
    ∃ u, s.bindVariables h [y, x] = (u, none) ∧ Same t u := by
  obtain ⟨next, hfirst, hrest⟩ := advance_cons_eq_none_iff.mp hrun
  obtain ⟨last, hsecond, hnil⟩ := advance_cons_eq_none_iff.mp hrest
  obtain ⟨v, hv, rfl⟩ := bindVariable_eq_ok_iff.mp hfirst
  obtain ⟨w, hw, rfl⟩ := bindVariable_eq_ok_iff.mp hsecond
  cases hnil
  rw [eval_set hy] at hw
  rw [← eval_set hx w] at hv
  refine ⟨_, ?_, same_set_set s hne v w⟩
  refine advance_cons_eq_none_iff.mpr ⟨_, bindVariable_eq_ok_iff.mpr ⟨w, hw, rfl⟩, ?_⟩
  exact advance_cons_eq_none_iff.mpr ⟨_, bindVariable_eq_ok_iff.mpr ⟨v, hv, rfl⟩, rfl⟩

/-- Nothing after the two declarations can tell their order. -/
theorem exists_bindVariables_swapped (hne : x.name ≠ y.name) (hx : y.name ∉ x.value.mentions)
    (hy : x.name ∉ y.value.mentions)
    (hrun : s.bindVariables h (before ++ [x, y] ++ after) = (t, none)) :
    ∃ u, s.bindVariables h (before ++ [y, x] ++ after) = (u, none) ∧ Same t u := by
  obtain ⟨middle, hbefore, hafter⟩ := advance_append_eq_none_iff.mp hrun
  obtain ⟨first, hfirst, hpair⟩ := advance_append_eq_none_iff.mp hbefore
  obtain ⟨middle', hpair', hsame⟩ := exists_bindVariables_pair hne hx hy hpair
  obtain ⟨u, hafter', htu⟩ := hsame.exists_bindVariables hafter
  have hbefore' := advance_append_eq_none_iff.mpr ⟨first, hfirst, hpair'⟩
  exact ⟨u, advance_append_eq_none_iff.mpr ⟨middle', hbefore', hafter'⟩, htu⟩

/-- Two neighbouring variables with different names that do not mention each other may be
declared in either order, whatever is declared before and after them: binding succeeds in
both orders or in neither, and all names stand for the same then. -/
theorem bindVariables_swap (s : Scope) (h : Host) (before after : List Variable) (x y : Variable)
    (hne : x.name ≠ y.name) (hx : y.name ∉ x.value.mentions) (hy : x.name ∉ y.value.mentions) :
    ((∃ t, s.bindVariables h (before ++ [x, y] ++ after) = (t, none)) ↔
      ∃ u, s.bindVariables h (before ++ [y, x] ++ after) = (u, none)) ∧
    ∀ t u, s.bindVariables h (before ++ [x, y] ++ after) = (t, none) →
      s.bindVariables h (before ++ [y, x] ++ after) = (u, none) →
        (∀ name, t.vars.get? name = u.vars.get? name) ∧
          ∀ name, t.params.get? name = u.params.get? name := by
  refine ⟨⟨?_, ?_⟩, ?_⟩
  · rintro ⟨t, ht⟩
    obtain ⟨u, hu, -⟩ := exists_bindVariables_swapped hne hx hy ht
    exact ⟨u, hu⟩
  · rintro ⟨u, hu⟩
    obtain ⟨t, ht, -⟩ := exists_bindVariables_swapped hne.symm hy hx hu
    exact ⟨t, ht⟩
  · intro t u ht hu
    obtain ⟨u', hu', hsame⟩ := exists_bindVariables_swapped hne hx hy ht
    obtain rfl : u' = u := congrArg Prod.fst (hu'.symm.trans hu)
    exact ⟨fun name => (hsame name).1, fun name => (hsame name).2⟩

def address : Variable where
  name := "address"
  value := .template "$\x7b root \x7d/$\x7benv(HOST)\x7d"
  pos := ⟨1, 1⟩

def request : Variable where
  name := "request"
  value := .array [.ident "root", .call "env" [.literal (.str "address")],
    .object [("address", .call "now" [])]]
  pos := ⟨2, 1⟩

def summary : Variable where
  name := "root"
  value := .template "$\x7baddress\x7d: $\x7brequest\x7d"
  pos := ⟨3, 1⟩

def rooted : Scope where
  params := [("root", ⟨.string, .str "top"⟩)]

def localHost : Host where
  env name := if name = "HOST" then some "here" else none
  now := "noon"

theorem bindVariables_swap_addresses :
    address.name ≠ request.name ∧ request.name ∉ address.value.mentions ∧
      address.name ∉ request.value.mentions ∧
      ∃ t u, rooted.bindVariables localHost [address, request, summary] = (t, none) ∧
        rooted.bindVariables localHost [request, address, summary] = (u, none) ∧
        (t.vars.get? "root").bind Json.str? =
          some "top/here: [\"top\",\"\",\x7b\"address\":\"noon\"\x7d]" ∧
        u.vars.get? "root" = t.vars.get? "root" := by
  have hne : address.name ≠ request.name := by decide
  have hx : request.name ∉ address.value.mentions := by decide +kernel
  have hy : address.name ∉ request.value.mentions := by decide
  obtain ⟨hboth, hsame⟩ :=
    bindVariables_swap rooted localHost [] [summary] address request hne hx hy
  have hnone : (rooted.bindVariables localHost [address, request, summary]).2.isNone = true := by
    decide +kernel
  have hvalue : ((rooted.bindVariables localHost [address, request, summary]).1.vars.get?
      "root").bind Json.str? =
        some "top/here: [\"top\",\"\",\x7b\"address\":\"noon\"\x7d]" := by
    decide +kernel
  have hrun : rooted.bindVariables localHost [address, request, summary] =
      ((rooted.bindVariables localHost [address, request, summary]).1, none) :=
    Prod.ext rfl (Option.isNone_iff_eq_none.mp hnone)
  obtain ⟨u, hu⟩ := hboth.mp ⟨_, hrun⟩
  exact ⟨hne, hx, hy, _, u, hrun, hu, hvalue, ((hsame _ u hrun hu).1 "root").symm⟩

end Swap

end Scope

end FlowGraph
