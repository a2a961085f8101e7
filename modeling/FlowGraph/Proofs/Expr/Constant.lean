import FlowGraph.Proofs.Except
import FlowGraph.Proofs.Fields
import FlowGraph.Scope
import Mathlib.Data.List.Forall2
import Mathlib.Data.List.Induction

/-!
Constants: expressions that have a value before there is a scope. What a constant folds to
is said without folding, by the literals in it; evaluation comes to the same value in every
scope and on every host. An expression that does not fold has something in it that only a
scope can settle.
-/

namespace FlowGraph

namespace Fields

variable {α : Type} {fields other : Fields α} {pairs : List (String × α)}

/-- The fields that pairs come to: a name stands where it first came, with the value that
came last. -/
structure Gathers (pairs : List (String × α)) (fields : Fields α) : Prop where
  names : fields.names = (pairs.map Prod.fst).eraseDups
  values : ∀ name, fields.get? name =
    ((pairs.filter fun pair => pair.1 = name).getLast?).map Prod.snd

theorem ofPairs_concat (pairs : List (String × α)) (pair : String × α) :
    ofPairs (pairs ++ [pair]) = (ofPairs pairs).set pair.1 pair.2 := by
  unfold ofPairs
  rw [List.foldl_append]
  rfl

/-- A name is put at the end unless it is there already. -/
theorem names_set (fields : Fields α) (name : String) (value : α) :
    (fields.set name value).names =
      if name ∈ fields.names then fields.names else fields.names ++ [name] := by
  by_cases hname : name ∈ fields.names
  · rw [if_pos hname]
    induction fields with
    | nil => cases hname
    | cons pair rest ih =>
      obtain ⟨key, old⟩ := pair
      by_cases hkey : key = name
      · rw [set, if_pos hkey]
        rfl
      · have hrest : name ∈ names rest := by
          rcases List.mem_cons.mp hname with heq | hmem
          · exact absurd heq.symm hkey
          · exact hmem
        have htail := ih hrest
        rw [set, if_neg hkey]
        simp only [names, List.map_cons] at htail ⊢
        rw [htail]
  · rw [if_neg hname, set_of_not_mem hname]
    simp [names]

-- By induction on the pairs from the last one on: that is how they are set.
/-- A name that comes again keeps its place and takes the later value. -/
theorem gathers_ofPairs (pairs : List (String × α)) : Gathers pairs (ofPairs pairs) := by
  induction pairs using List.reverseRecOn with
  | nil => exact ⟨rfl, fun _ => rfl⟩
  | append_singleton pairs pair ih =>
    constructor
    · rw [ofPairs_concat, names_set, ih.names, List.map_append, List.eraseDups_append]
      by_cases hname : pair.1 ∈ pairs.map Prod.fst
      · rw [if_pos (List.mem_eraseDups.mpr hname)]
        have hnone : [pair.1].removeAll (pairs.map Prod.fst) = [] := by
          simpa [List.removeAll] using hname
        rw [List.map_singleton, hnone]
        simp
      · rw [if_neg fun hmem => hname (List.mem_eraseDups.mp hmem)]
        have hone : [pair.1].removeAll (pairs.map Prod.fst) = [pair.1] := by
          simpa [List.removeAll] using hname
        rw [List.map_singleton, hone]
        rfl
    · intro name
      rw [ofPairs_concat, get?_set, ih.values, List.filter_append]
      by_cases hname : name = pair.1
      · have hlast : [pair].filter (fun p => p.1 = name) = [pair] := by
          simp [hname]
        rw [if_pos hname, hlast, List.getLast?_concat]
        rfl
      · have hnone : [pair].filter (fun p => p.1 = name) = [] := by
          simp [Ne.symm hname]
        rw [if_neg hname, hnone, List.append_nil]

theorem nodup_names_ofPairs (pairs : List (String × α)) : (ofPairs pairs).names.Nodup := by
  induction pairs using List.reverseRecOn with
  | nil => exact List.nodup_nil
  | append_singleton pairs pair ih =>
    rw [ofPairs_concat, names_set]
    by_cases hname : pair.1 ∈ (ofPairs pairs).names
    · rw [if_pos hname]
      exact ih
    · rw [if_neg hname]
      refine List.nodup_append.mpr ⟨ih, by simp, ?_⟩
      intro name hmem last hlast heq
      exact hname (List.mem_singleton.mp hlast ▸ heq ▸ hmem)

/-- Fields whose names stand once are known by their names and what these stand for. -/
theorem eq_of_names_eq (hnodup : fields.names.Nodup) (hnames : fields.names = other.names)
    (hvalues : ∀ name, fields.get? name = other.get? name) : fields = other := by
  induction fields generalizing other with
  | nil =>
    cases other with
    | nil => rfl
    | cons pair rest => cases hnames
  | cons pair rest ih =>
    obtain ⟨key, value⟩ := pair
    cases other with
    | nil => cases hnames
    | cons pair' rest' =>
      obtain ⟨key', value'⟩ := pair'
      obtain ⟨rfl, hrest⟩ : key = key' ∧ names rest = names rest' := List.cons.inj hnames
      obtain ⟨hfirst, hlater⟩ := List.nodup_cons.mp hnodup
      have hvalue : value = value' := by
        have hkey := hvalues key
        simpa [get?] using hkey
      have htail : ∀ name, get? rest name = get? rest' name := by
        intro name
        by_cases hname : key = name
        · subst hname
          have hmissing : key ∉ names rest' := hrest ▸ hfirst
          rw [get?_eq_none_iff.mpr hfirst, get?_eq_none_iff.mpr hmissing]
        · have hother := hvalues name
          simpa [get?, hname] using hother
      rw [hvalue, ih hlater hrest htail]

theorem Gathers.eq_ofPairs (hfields : Gathers pairs fields) : fields = ofPairs pairs := by
  have hset := gathers_ofPairs pairs
  have hnames : (ofPairs pairs).names = fields.names := by
    rw [hset.names, hfields.names]
  refine (eq_of_names_eq (nodup_names_ofPairs pairs) hnames ?_).symm
  intro name
  rw [hset.values, hfields.values]

end Fields

namespace Expr

inductive Open : Expr → Prop
  | ident (name : String) : Open (.ident name)
  | call (name : String) (args : List Expr) : Open (.call name args)
  | template (text : String) : Open (.template text)
  | item {e : Expr} {items : List Expr} (hmem : e ∈ items) (he : Open e) : Open (.array items)
  | entry {key : String} {e : Expr} {entries : List (String × Expr)} (hmem : (key, e) ∈ entries)
      (he : Open e) : Open (.object entries)

/-- The value of a constant: a literal stands for itself, an array for the values of its
items in their order, and an object for what its keys and the values of its entries come
to. -/
inductive Denotes : Expr → Json → Prop
  | literal (v : Json) : Denotes (.literal v) v
  | array {items : List Expr} {vs : List Json} (hitems : List.Forall₂ Denotes items vs) :
      Denotes (.array items) (.arr vs)
  | object {entries : List (String × Expr)} {vs : List Json} {fields : Fields Json}
      (hvalues : List.Forall₂ Denotes (entries.map Prod.snd) vs)
      (hfields : Fields.Gathers ((entries.map Prod.fst).zip vs) fields) :
      Denotes (.object entries) (.obj fields)

theorem foldItems?_cons_eq_some_iff {e : Expr} {items : List Expr} {vs : List Json} :
    foldItems? (e :: items) = some vs ↔
      ∃ v rest, fold? e = some v ∧ foldItems? items = some rest ∧ vs = v :: rest := by
  rw [foldItems?]
  cases fold? e <;> cases foldItems? items <;> simp [eq_comm]

theorem foldEntries?_cons_eq_some_iff {key : String} {e : Expr} {entries : List (String × Expr)}
    {pairs : List (String × Json)} :
    foldEntries? ((key, e) :: entries) = some pairs ↔
      ∃ v rest, fold? e = some v ∧ foldEntries? entries = some rest ∧
        pairs = (key, v) :: rest := by
  rw [foldEntries?]
  cases fold? e <;> cases foldEntries? entries <;> simp [eq_comm]

mutual

/-- An expression folds to the value that its literals come to, and to no other. -/
theorem fold?_eq_some_iff (e : Expr) (v : Json) : e.fold? = some v ↔ e.Denotes v := by
  match e with
  | .literal w =>
    constructor
    · intro hv
      cases hv
      exact .literal v
    · intro hv
      cases hv
      rfl
  | .ident name => exact ⟨(nomatch ·), (nomatch ·)⟩
  | .call name args => exact ⟨(nomatch ·), (nomatch ·)⟩
  | .template text => exact ⟨(nomatch ·), (nomatch ·)⟩
  | .array items =>
    rw [fold?, Option.map_eq_some_iff]
    constructor
    · rintro ⟨vs, hvs, rfl⟩
      exact .array ((foldItems?_eq_some_iff items vs).mp hvs)
    · intro hv
      cases hv with
      | array hitems => exact ⟨_, (foldItems?_eq_some_iff items _).mpr hitems, rfl⟩
  | .object entries =>
    rw [fold?, Option.map_eq_some_iff]
    constructor
    · rintro ⟨pairs, hpairs, rfl⟩
      obtain ⟨vs, hvalues, rfl⟩ := (foldEntries?_eq_some_iff entries pairs).mp hpairs
      exact .object hvalues (Fields.gathers_ofPairs _)
    · intro hv
      cases hv with
      | object hvalues hfields =>
        exact ⟨_, (foldEntries?_eq_some_iff entries _).mpr ⟨_, hvalues, rfl⟩,
          congrArg Json.obj hfields.eq_ofPairs.symm⟩

theorem foldItems?_eq_some_iff (items : List Expr) (vs : List Json) :
    foldItems? items = some vs ↔ List.Forall₂ Denotes items vs := by
  match items with
  | [] =>
    rw [List.forall₂_nil_left_iff, foldItems?, Option.some.injEq]
    exact eq_comm
  | e :: items =>
    rw [foldItems?_cons_eq_some_iff, List.forall₂_cons_left_iff]
    constructor
    · rintro ⟨v, rest, hv, hrest, rfl⟩
      exact ⟨v, rest, (fold?_eq_some_iff e v).mp hv, (foldItems?_eq_some_iff items rest).mp hrest,
        rfl⟩
    · rintro ⟨v, rest, hv, hrest, rfl⟩
      exact ⟨v, rest, (fold?_eq_some_iff e v).mpr hv,
        (foldItems?_eq_some_iff items rest).mpr hrest, rfl⟩

theorem foldEntries?_eq_some_iff (entries : List (String × Expr))
    (pairs : List (String × Json)) :
    foldEntries? entries = some pairs ↔
      ∃ vs, List.Forall₂ Denotes (entries.map Prod.snd) vs ∧
        pairs = (entries.map Prod.fst).zip vs := by
  match entries with
  | [] => simp [foldEntries?, eq_comm]
  | (key, e) :: entries =>
    rw [foldEntries?_cons_eq_some_iff]
    simp only [List.map_cons, List.forall₂_cons_left_iff]
    constructor
    · rintro ⟨v, rest, hv, hrest, rfl⟩
      obtain ⟨vs, hvs, rfl⟩ := (foldEntries?_eq_some_iff entries rest).mp hrest
      exact ⟨v :: vs, ⟨v, vs, (fold?_eq_some_iff e v).mp hv, hvs, rfl⟩, rfl⟩
    · rintro ⟨_, ⟨v, vs, hv, hvs, rfl⟩, rfl⟩
      have hrest := (foldEntries?_eq_some_iff entries _).mpr ⟨vs, hvs, rfl⟩
      exact ⟨v, _, (fold?_eq_some_iff e v).mpr hv, hrest, rfl⟩

end

mutual

/-- What keeps an expression from folding is a name, a call or a template in it. -/
theorem fold?_eq_none_iff (e : Expr) : e.fold? = none ↔ e.Open := by
  match e with
  | .literal v => exact ⟨(nomatch ·), (nomatch ·)⟩
  | .ident name => exact ⟨fun _ => .ident name, fun _ => rfl⟩
  | .call name args => exact ⟨fun _ => .call name args, fun _ => rfl⟩
  | .template text => exact ⟨fun _ => .template text, fun _ => rfl⟩
  | .array items =>
    rw [fold?, Option.map_eq_none_iff, foldItems?_eq_none_iff items]
    constructor
    · rintro ⟨e, hmem, he⟩
      exact .item hmem he
    · intro hopen
      cases hopen with
      | item hmem he => exact ⟨_, hmem, he⟩
  | .object entries =>
    rw [fold?, Option.map_eq_none_iff, foldEntries?_eq_none_iff entries]
    constructor
    · rintro ⟨⟨key, e⟩, hmem, he⟩
      exact .entry hmem he
    · intro hopen
      cases hopen with
      | entry hmem he => exact ⟨_, hmem, he⟩

theorem foldItems?_eq_none_iff (items : List Expr) :
    foldItems? items = none ↔ ∃ e ∈ items, e.Open := by
  match items with
  | [] => simp [foldItems?]
  | e :: items =>
    have hfirst := fold?_eq_none_iff e
    have hrest := foldItems?_eq_none_iff items
    rw [List.exists_mem_cons_iff, ← hfirst, ← hrest, foldItems?]
    cases fold? e <;> cases foldItems? items <;> simp

theorem foldEntries?_eq_none_iff (entries : List (String × Expr)) :
    foldEntries? entries = none ↔ ∃ entry ∈ entries, entry.2.Open := by
  match entries with
  | [] => simp [foldEntries?]
  | (key, e) :: entries =>
    have hfirst := fold?_eq_none_iff e
    have hrest := foldEntries?_eq_none_iff entries
    rw [List.exists_mem_cons_iff, ← hfirst, ← hrest, foldEntries?]
    cases fold? e <;> cases foldEntries? entries <;> simp

end

end Expr

namespace Scope

open FlowGraph.Expr

variable (s : Scope) (h : Host)

mutual

/-- Nothing that a constant is made of looks at the scope or the host. -/
theorem eval_of_fold? (e : Expr) {v : Json} (hv : e.fold? = some v) : s.eval h e = .ok v := by
  match e with
  | .literal w =>
    cases hv
    rfl
  | .array items =>
    obtain ⟨vs, hvs, rfl⟩ := Option.map_eq_some_iff.mp hv
    rw [eval, evalItems_of_foldItems? items hvs]
    rfl
  | .object entries =>
    obtain ⟨pairs, hpairs, rfl⟩ := Option.map_eq_some_iff.mp hv
    rw [eval, evalEntries_of_foldEntries? entries hpairs]
    rfl

theorem evalItems_of_foldItems? (items : List Expr) {vs : List Json}
    (hvs : foldItems? items = some vs) : s.evalItems h items = .ok vs := by
  match items with
  | [] =>
    cases hvs
    rfl
  | e :: items =>
    obtain ⟨v, rest, hv, hrest, rfl⟩ := foldItems?_cons_eq_some_iff.mp hvs
    rw [evalItems, eval_of_fold? e hv, evalItems_of_foldItems? items hrest]
    rfl

theorem evalEntries_of_foldEntries? (entries : List (String × Expr))
    {pairs : List (String × Json)} (hpairs : foldEntries? entries = some pairs) :
    s.evalEntries h entries = .ok pairs := by
  match entries with
  | [] =>
    cases hpairs
    rfl
  | (key, e) :: entries =>
    obtain ⟨v, rest, hv, hrest, rfl⟩ := foldEntries?_cons_eq_some_iff.mp hpairs
    rw [evalEntries, eval_of_fold? e hv, evalEntries_of_foldEntries? entries hrest]
    rfl

end

end Scope

namespace Expr

/-- An expression folds to the value that its literals come to, with the keys of every
object in it where they first came and the values that came last. It evaluates to the same
value in every scope and on every host. If it does not fold, a name, a call or a template
stands somewhere in it, and only then. -/
theorem fold?_agrees_with_eval (e : Expr) :
    (∀ v, e.fold? = some v ↔ e.Denotes v) ∧
    (∀ v, e.fold? = some v → ∀ (s : Scope) (h : Host), s.eval h e = .ok v) ∧
    (e.fold? = none ↔ e.Open) := by
  refine ⟨fun v => fold?_eq_some_iff e v, ?_, fold?_eq_none_iff e⟩
  intro v hv s h
  exact s.eval_of_fold? h e hv

def rewritten : Expr :=
  .array [.object [("a", .literal (.int 1)),
    ("b", .object [("c", .literal (.int 2)), ("c", .literal (.int 3))]),
    ("a", .literal (.int 4))]]

/-- A key that comes again keeps its place and takes the later value, at both depths, also
where a variable has the name of the key. -/
theorem fold?_agrees_rewritten :
    rewritten.fold? = some (.arr [.obj [("a", .int 4), ("b", .obj [("c", .int 3)])]]) ∧
      Scope.eval { vars := [("a", .null)] } { env := fun _ => none, now := "" } rewritten =
        .ok (.arr [.obj [("a", .int 4), ("b", .obj [("c", .int 3)])]]) := by
  obtain ⟨-, heval, -⟩ := fold?_agrees_with_eval rewritten
  exact ⟨rfl, heval _ rfl _ _⟩

end Expr

end FlowGraph
