import FlowGraph.Compile
import Mathlib.Data.List.Basic

/-!
The report on a declared workflow has one diagnostic for each violation of a rule: rule
after rule, and for one rule in the order of the declarations. Violations are said of the
places of declarations in their lists, and a list of diagnostics is held against the places
that it has to speak of.
-/

namespace FlowGraph

section Picks

variable {α : Type} {P Q : Nat → α → Prop} {a : α} {all picked : List α}

/-- What stands at the places that have the property: each of them once, in the order of the
places, and nothing else. -/
def Picks (P : Nat → α → Prop) (all picked : List α) : Prop :=
  ∃ places : List Nat, places.Pairwise (· < ·) ∧
    (∀ i, i ∈ places ↔ ∃ a, all[i]? = some a ∧ P i a) ∧
    places.map (all[·]?) = picked.map some

theorem picks_nil : Picks P [] [] :=
  ⟨[], .nil, by simp, rfl⟩

theorem Picks.congr (h : Picks P all picked) (hPQ : ∀ i a, P i a ↔ Q i a) :
    Picks Q all picked := by
  obtain ⟨places, horder, hplaces, hpicked⟩ := h
  refine ⟨places, horder, fun i => ?_, hpicked⟩
  rw [hplaces]
  exact exists_congr fun a => and_congr_right fun _ => hPQ i a

theorem Picks.take (h : Picks (fun i => P (i + 1)) all picked) (ha : P 0 a) :
    Picks P (a :: all) (a :: picked) := by
  obtain ⟨places, horder, hplaces, hpicked⟩ := h
  refine ⟨0 :: places.map (· + 1), ?_, fun i => ?_, ?_⟩
  · refine List.pairwise_cons.mpr ⟨?_, List.pairwise_map.mpr (horder.imp fun hlt => ?_)⟩
    · intro i hi
      obtain ⟨j, -, rfl⟩ := List.mem_map.mp hi
      exact Nat.succ_pos j
    · exact Nat.succ_lt_succ hlt
  · cases i with
    | zero => simpa using ha
    | succ i => simpa using hplaces i
  · simpa [Function.comp_def] using hpicked

theorem Picks.skip (h : Picks (fun i => P (i + 1)) all picked) (ha : ¬ P 0 a) :
    Picks P (a :: all) picked := by
  obtain ⟨places, horder, hplaces, hpicked⟩ := h
  refine ⟨places.map (· + 1), ?_, fun i => ?_, ?_⟩
  · exact List.pairwise_map.mpr (horder.imp Nat.succ_lt_succ)
  · cases i with
    | zero => simpa using ha
    | succ i => simpa using hplaces i
  · simpa [Function.comp_def] using hpicked

/-- A filter picks what has its property, wherever it stands. -/
theorem picks_filter {R : α → Prop} {p : α → Bool} (hp : ∀ a, p a = true ↔ R a) (all : List α) :
    Picks (fun _ => R) all (all.filter p) := by
  induction all with
  | nil => exact picks_nil
  | cons a all ih =>
    by_cases ha : p a = true
    · rw [List.filter_cons_of_pos ha]
      exact Picks.take ih ((hp a).mp ha)
    · rw [List.filter_cons_of_neg ha]
      exact Picks.skip ih (mt (hp a).mpr ha)

/-- Nothing is picked exactly if no place has the property. -/
theorem Picks.eq_nil_iff (h : Picks P all picked) :
    picked = [] ↔ ∀ i a, all[i]? = some a → ¬ P i a := by
  obtain ⟨places, -, hplaces, hpicked⟩ := h
  have hempty : picked = [] ↔ places = [] := by
    rw [← List.map_eq_nil_iff (f := some), ← hpicked, List.map_eq_nil_iff]
  rw [hempty, List.eq_nil_iff_forall_not_mem]
  refine forall_congr' fun i => ?_
  rw [hplaces, not_exists]
  exact forall_congr' fun a => not_and

end Picks

section Repeats

variable {α : Type} {name : α → String} {xs : List α}

/-- The name stands earlier in the list too. -/
def Repeats (name : α → String) (xs : List α) (i : Nat) (a : α) : Prop :=
  ∃ j < i, ∃ b, xs[j]? = some b ∧ name b = name a

theorem repeats_cons_succ {a b : α} {i : Nat} :
    Repeats name (a :: xs) (i + 1) b ↔ name a = name b ∨ Repeats name xs i b := by
  constructor
  · rintro ⟨j, hj, c, hc, hname⟩
    cases j with
    | zero =>
      obtain rfl : a = c := by simpa using hc
      exact Or.inl hname
    | succ j => exact Or.inr ⟨j, Nat.lt_of_succ_lt_succ hj, c, by simpa using hc, hname⟩
  · rintro (hname | ⟨j, hj, c, hc, hname⟩)
    · exact ⟨0, Nat.succ_pos i, a, rfl, hname⟩
    · exact ⟨j + 1, Nat.succ_lt_succ hj, c, by simpa using hc, hname⟩

/-- The scan remembers the names before the list as well. -/
theorem picks_repeated_go (seen : List String) (xs : List α) :
    Picks (fun i a => name a ∈ seen ∨ Repeats name xs i a) xs (repeated.go name seen xs) := by
  induction xs generalizing seen with
  | nil => exact picks_nil
  | cons a xs ih =>
    rw [repeated.go]
    by_cases hseen : name a ∈ seen
    · rw [if_pos (List.contains_iff_mem.mpr hseen)]
      refine Picks.take ((ih seen).congr fun i b => ?_) (Or.inl hseen)
      rw [repeats_cons_succ]
      constructor
      · exact Or.imp_right Or.inr
      · rintro (hb | hname | hb)
        · exact Or.inl hb
        · exact Or.inl (hname ▸ hseen)
        · exact Or.inr hb
    · rw [if_neg (mt List.contains_iff_mem.mp hseen)]
      refine Picks.skip ((ih (name a :: seen)).congr fun i b => ?_) ?_
      · rw [repeats_cons_succ, List.mem_cons, or_assoc, eq_comm]
        exact or_left_comm
      · rintro (hmem | ⟨j, hj, -⟩)
        · exact hseen hmem
        · exact Nat.not_lt_zero j hj

/-- Every occurrence of a name but the first is a repetition. -/
theorem picks_repeated (name : α → String) (xs : List α) :
    Picks (Repeats name xs) xs (repeated name xs) :=
  (picks_repeated_go [] xs).congr fun i a => by simp

-- Of several declarations of one name all but the first are picked.
example : repeated id ["a", "b", "a", "c", "a", "b"] = ["a", "a", "b"] := by
  decide

/-- No name is repeated exactly if all names are different. -/
theorem repeated_eq_nil_iff (name : α → String) (xs : List α) :
    repeated name xs = [] ↔ (xs.map name).Nodup := by
  rw [(picks_repeated name xs).eq_nil_iff, List.Nodup, List.pairwise_map,
    List.pairwise_iff_getElem]
  constructor
  · intro hnone i j hi hj hlt heq
    exact hnone j xs[j] (List.getElem?_eq_getElem hj)
      ⟨i, hlt, xs[i], List.getElem?_eq_getElem hi, heq⟩
  · rintro hdistinct j b hb ⟨i, hlt, a, ha, heq⟩
    obtain ⟨hi, rfl⟩ := List.getElem?_eq_some_iff.mp ha
    obtain ⟨hj, rfl⟩ := List.getElem?_eq_some_iff.mp hb
    exact hdistinct i j hi hj hlt heq

end Repeats

namespace Workflow

/-- A workflow that breaks no rule. -/
structure Coherent (w : Workflow) : Prop where
  params : (w.params.map Param.name).Nodup
  vars : (w.vars.map Variable.name).Nodup
  apart : ∀ v ∈ w.vars, ∀ p ∈ w.params, v.name ≠ p.name
  entries : (w.entries.map Entry.name).Nodup
  joined : ∀ c ∈ w.connections, ∀ e ∈ [c.source, c.target], ∃ entry ∈ w.entries,
    entry.name = e.node

def ends (w : Workflow) : List (String × Endpoint × Position) :=
  w.connections.flatMap fun c => [("source", c.source, c.pos), ("target", c.target, c.pos)]

def repeatedParam (p : Param) : Diagnostic where
  message := "duplicate parameter name '" ++ p.name ++ "'"
  pos := some p.pos
  rule := .duplicateParameter

def repeatedVariable (v : Variable) : Diagnostic where
  message := "duplicate variable name '" ++ v.name ++ "'"
  pos := some v.pos
  rule := .duplicateVariable

def repeatedEntry (e : Entry) : Diagnostic where
  message := "duplicate node name '" ++ e.name ++ "'"
  pos := some e.pos
  rule := .duplicateNode

def shadowing (v : Variable) : Diagnostic where
  message := "variable '" ++ v.name ++ "' conflicts with a parameter of the same name"
  pos := some v.pos
  rule := .variableShadowsParameter

def dangling : String × Endpoint × Position → Diagnostic
  | (role, e, pos) =>
    { message := "connection " ++ role ++ " node '" ++ e.node ++ "' is not declared"
      pos := some pos
      rule := .danglingConnection }

def unconnected (e : Entry) : Diagnostic where
  message := "node '" ++ e.name ++ "' is not connected"
  pos := some e.pos
  severity := .warning
  rule := .unconnectedNode

section

variable (w : Workflow)

theorem danglingConnections_eq :
    w.danglingConnections = (w.ends.filter fun place =>
      !(w.entries.map Entry.name).contains place.2.1.node).map dangling := by
  unfold danglingConnections ends
  rw [List.filter_flatMap, List.map_flatMap]
  refine List.flatMap_congr fun c _ => ?_
  have hends : [("source", c.source, c.pos), ("target", c.target, c.pos)] =
      (Connection.ends c).map fun side => (side.1, side.2, c.pos) := rfl
  rw [hends, List.filter_map, List.map_map]
  rfl

def faults : List Diagnostic :=
  w.duplicateParameters ++ w.duplicateVariables ++ w.shadowedParameters ++ w.duplicateEntries ++
    w.danglingConnections

/-- Errors come before warnings. -/
theorem report_eq_append : w.report = w.faults ++ w.unconnectedEntries := by
  simp [report, rules, faults]

/-- Every rule but the one about connections of entries reports errors. -/
theorem isError_of_mem_faults : ∀ d ∈ w.faults, d.isError = true := by
  rw [faults, danglingConnections_eq]
  simp only [List.forall_mem_append]
  refine ⟨⟨⟨⟨?_, ?_⟩, ?_⟩, ?_⟩, ?_⟩ <;>
  · intro d hd
    obtain ⟨_, -, rfl⟩ := List.mem_map.mp hd
    rfl

theorem isError_of_mem_unconnectedEntries : ∀ d ∈ w.unconnectedEntries, d.isError = false := by
  intro d hd
  obtain ⟨e, -, rfl⟩ := List.mem_map.mp hd
  rfl

theorem errorsOf_report : errorsOf w.report = w.faults := by
  have hwarnings : w.unconnectedEntries.filter Diagnostic.isError = [] := by
    refine List.filter_eq_nil_iff.mpr fun d hd => ?_
    rw [w.isError_of_mem_unconnectedEntries d hd]
    exact Bool.false_ne_true
  rw [errorsOf, report_eq_append, List.filter_append,
    List.filter_eq_self.mpr w.isError_of_mem_faults, hwarnings, List.append_nil]

theorem warningsOf_report : warningsOf w.report = w.unconnectedEntries := by
  have herrors : (w.faults.filter fun d => !d.isError) = [] := by
    refine List.filter_eq_nil_iff.mpr fun d hd => ?_
    simp [w.isError_of_mem_faults d hd]
  have hwarnings : (w.unconnectedEntries.filter fun d => !d.isError) = w.unconnectedEntries := by
    refine List.filter_eq_self.mpr fun d hd => ?_
    simp [w.isError_of_mem_unconnectedEntries d hd]
  rw [warningsOf, report_eq_append, List.filter_append, herrors, hwarnings, List.nil_append]

theorem picks_shadowing : Picks (fun _ v => ∃ p ∈ w.params, p.name = v.name) w.vars
    (w.vars.filter fun v => (w.params.map Param.name).contains v.name) :=
  picks_filter (fun v => by rw [List.contains_iff_mem, List.mem_map]) w.vars

/-- The ends that name no entry, in the order of the connections. -/
theorem picks_dangling : Picks (fun _ place => ∀ entry ∈ w.entries, entry.name ≠ place.2.1.node)
    w.ends (w.ends.filter fun place => !(w.entries.map Entry.name).contains place.2.1.node) :=
  picks_filter (fun place => by simp) w.ends

/-- The entries that no connection names, in the order of their declarations. -/
theorem picks_unconnected :
    Picks (fun _ entry => ∀ c ∈ w.connections, c.source.node ≠ entry.name ∧
        c.target.node ≠ entry.name) w.entries
      (w.entries.filter fun entry =>
        !(w.connections.flatMap fun c => [c.source.node, c.target.node]).contains entry.name) := by
  refine picks_filter (fun entry => ?_) w.entries
  have hmem : entry.name ∈ (w.connections.flatMap fun c => [c.source.node, c.target.node]) ↔
      ∃ c ∈ w.connections, entry.name = c.source.node ∨ entry.name = c.target.node := by
    simp
  rw [Bool.not_eq_true', Bool.eq_false_iff, Ne, List.contains_iff_mem, hmem]
  simp only [not_exists, not_and, not_or, ne_eq, eq_comm]

theorem shadowedParameters_eq_nil_iff :
    w.shadowedParameters = [] ↔ ∀ v ∈ w.vars, ∀ p ∈ w.params, v.name ≠ p.name := by
  simp only [shadowedParameters, List.map_eq_nil_iff, List.filter_eq_nil_iff,
    List.contains_iff_mem, List.mem_map, not_exists, not_and, ne_eq]
  exact forall₂_congr fun v _ => forall₂_congr fun p _ => not_congr eq_comm

theorem danglingConnections_eq_nil_iff : w.danglingConnections = [] ↔
    ∀ c ∈ w.connections, ∀ e ∈ [c.source, c.target], ∃ entry ∈ w.entries,
      entry.name = e.node := by
  have hresolved (name : String) : ¬ (!(w.entries.map Entry.name).contains name) = true ↔
      ∃ entry ∈ w.entries, entry.name = name := by
    rw [Bool.not_eq_true', Bool.not_eq_false, List.contains_iff_mem, List.mem_map]
  simp only [danglingConnections_eq, List.map_eq_nil_iff, List.filter_eq_nil_iff, hresolved, ends,
    List.mem_flatMap, forall_exists_index, and_imp]
  constructor
  · intro hall c hc e he
    rcases List.mem_pair.mp he with rfl | rfl
    · exact hall ("source", c.source, c.pos) c hc List.mem_cons_self
    · exact hall ("target", c.target, c.pos) c hc (List.mem_cons_of_mem _ List.mem_cons_self)
  · intro hall place c hc hplace
    rcases List.mem_pair.mp hplace with rfl | rfl
    · exact hall c hc c.source List.mem_cons_self
    · exact hall c hc c.target (List.mem_cons_of_mem _ List.mem_cons_self)

/-- No rule that reports errors finds anything exactly if the workflow is coherent. -/
theorem faults_eq_nil_iff : w.faults = [] ↔ w.Coherent := by
  simp only [faults, List.append_eq_nil_iff, duplicateParameters, duplicateVariables,
    duplicateEntries, List.map_eq_nil_iff, repeated_eq_nil_iff, shadowedParameters_eq_nil_iff,
    danglingConnections_eq_nil_iff]
  constructor
  · rintro ⟨⟨⟨⟨hparams, hvars⟩, hapart⟩, hentries⟩, hjoined⟩
    exact ⟨hparams, hvars, hapart, hentries, hjoined⟩
  · intro h
    exact ⟨⟨⟨⟨h.params, h.vars⟩, h.apart⟩, h.entries⟩, h.joined⟩

end

/-- A workflow has no errors exactly if it is coherent. Its errors are one for each parameter
and each variable whose name was declared before, one for each variable that is named like a
parameter, one for each entry whose name was declared before and one for each end of a
connection that names no entry; its warnings are one for each entry that no connection
names. They stand in this order, and those of one kind in the order of declaration. -/
theorem report_picks_violations (w : Workflow) :
    (errorsOf w.report = [] ↔ w.Coherent) ∧
    ∃ params vars shadows entries ends loose,
      Picks (Repeats Param.name w.params) w.params params ∧
      Picks (Repeats Variable.name w.vars) w.vars vars ∧
      Picks (fun _ v => ∃ p ∈ w.params, p.name = v.name) w.vars shadows ∧
      Picks (Repeats Entry.name w.entries) w.entries entries ∧
      Picks (fun _ place => ∀ entry ∈ w.entries, entry.name ≠ place.2.1.node) w.ends ends ∧
      Picks (fun _ entry => ∀ c ∈ w.connections, c.source.node ≠ entry.name ∧
        c.target.node ≠ entry.name) w.entries loose ∧
      errorsOf w.report =
        params.map repeatedParam ++ vars.map repeatedVariable ++ shadows.map shadowing ++
          entries.map repeatedEntry ++ ends.map dangling ∧
      warningsOf w.report = loose.map unconnected := by
  refine ⟨?_, _, _, _, _, _, _, picks_repeated _ _, picks_repeated _ _, w.picks_shadowing,
    picks_repeated _ _, w.picks_dangling, w.picks_unconnected, ?_, ?_⟩
  · rw [errorsOf_report, faults_eq_nil_iff]
  · rw [errorsOf_report, faults, danglingConnections_eq]
    rfl
  · rw [warningsOf_report]
    rfl

end Workflow

end FlowGraph
