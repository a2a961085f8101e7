import FlowGraph.Scope.Bind

/-!
What one declaration does to a scope. A parameter that is bound has a value that its
declaration admits, or none; names that are not declared keep what they stand for. A
series of declarations stops at the first that fails, in the scope that those before it
made.
-/

namespace FlowGraph

/-- What a declaration asks of a value: its type and all of its constraints. Bounds speak
of numbers only, and a pattern of texts only. -/
structure Param.Admits (p : Param) (v : Json) : Prop where
  type : p.type.accepts v = true
  min : ∀ min x, p.constraints.min = some min → v.float? = some x → ¬ x < min
  max : ∀ max x, p.constraints.max = some max → v.float? = some x → ¬ max < x
  pattern : ∀ pattern text, p.constraints.pattern = some pattern → v = .str text →
    ∃ r, Pattern.ofString? pattern = some r ∧ r.isMatch text = true
  allowed : ∀ values, p.constraints.allowed = some values → ∃ w ∈ values, w.same v = true

namespace Constraints

variable {c : Constraints} {v : Json}

theorem belowMin?_eq_none_iff :
    c.belowMin? v = none ↔ ∀ min x, c.min = some min → v.float? = some x → ¬ x < min := by
  unfold belowMin?
  cases v.float? with
  | none => simp
  | some x => cases c.min <;> simp

theorem aboveMax?_eq_none_iff :
    c.aboveMax? v = none ↔ ∀ max x, c.max = some max → v.float? = some x → ¬ max < x := by
  unfold aboveMax?
  cases v.float? with
  | none => simp
  | some x => cases c.max <;> simp

/-- A pattern that cannot be read refuses every text. -/
theorem noMatch?_eq_none_iff :
    c.noMatch? v = none ↔ ∀ pattern text, c.pattern = some pattern → v = .str text →
      ∃ r, Pattern.ofString? pattern = some r ∧ r.isMatch text = true := by
  unfold noMatch?
  cases c.pattern with
  | none => simp
  | some pattern =>
    cases v with
    | str text => cases hr : Pattern.ofString? pattern <;> simp [hr]
    | _ => simp

theorem notAllowed?_eq_none_iff :
    c.notAllowed? v = none ↔
      ∀ values, c.allowed = some values → ∃ w ∈ values, w.same v = true := by
  unfold notAllowed?
  cases c.allowed <;> simp

theorem violation?_eq_none_iff :
    c.violation? v = none ↔
      c.belowMin? v = none ∧ c.aboveMax? v = none ∧ c.noMatch? v = none ∧
        c.notAllowed? v = none := by
  unfold violation?
  simp only [Option.orElse_eq_orElse, Option.orElse_eq_or, Option.or_eq_none_iff]

end Constraints

theorem Json.isNull_eq_true_iff {v : Json} : v.isNull = true ↔ v = .null := by
  cases v <;> simp [Json.isNull]

namespace Param

/-- Null passes every declaration, whatever it asks for. -/
theorem violation?_eq_none_iff (p : Param) (v : Json) :
    p.violation? v = none ↔ v = .null ∨ p.Admits v := by
  unfold violation?
  by_cases hnull : v = .null
  · subst hnull
    simp [Json.isNull]
  · have hnot : ¬ v.isNull = true := fun h => hnull (Json.isNull_eq_true_iff.mp h)
    rw [if_neg hnot]
    constructor
    · intro h
      split at h
      · cases h
      · next htype =>
        obtain ⟨hmin, hmax, hpattern, hallowed⟩ := Constraints.violation?_eq_none_iff.mp h
        refine Or.inr ⟨by simpa using htype, ?_, ?_, ?_, ?_⟩
        · exact Constraints.belowMin?_eq_none_iff.mp hmin
        · exact Constraints.aboveMax?_eq_none_iff.mp hmax
        · exact Constraints.noMatch?_eq_none_iff.mp hpattern
        · exact Constraints.notAllowed?_eq_none_iff.mp hallowed
    · rintro (hv | ⟨htype, hmin, hmax, hpattern, hallowed⟩)
      · exact absurd hv hnull
      · rw [if_neg (by simp [htype])]
        refine Constraints.violation?_eq_none_iff.mpr ⟨?_, ?_, ?_, ?_⟩
        · exact Constraints.belowMin?_eq_none_iff.mpr hmin
        · exact Constraints.aboveMax?_eq_none_iff.mpr hmax
        · exact Constraints.noMatch?_eq_none_iff.mpr hpattern
        · exact Constraints.notAllowed?_eq_none_iff.mpr hallowed

end Param

namespace Scope

variable {s final : Scope} {h : Host} {given : Fields Json}

/-- A parameter is bound to its value if that is null or admitted by the declaration. -/
theorem bindParam_eq_ok_iff {p : Param} :
    s.bindParam h given p = .ok final ↔
      ∃ v, s.paramValue h given p = .ok v ∧ (v = .null ∨ p.Admits v) ∧
        final = { s with params := s.params.set p.name ⟨p.type, v⟩ } := by
  unfold bindParam
  cases hvalue : s.paramValue h given p with
  | error e => simp
  | ok v =>
    have hadmits := p.violation?_eq_none_iff v
    cases hviolation : p.violation? v with
    | some violation =>
      have hnot : ¬ (v = .null ∨ p.Admits v) := by
        rw [← hadmits, hviolation]
        simp
      simp [hviolation, hnot]
    | none =>
      have hyes : v = .null ∨ p.Admits v := hadmits.mp hviolation
      simp only [hviolation, hyes, Except.ok.injEq, true_and, exists_eq_left']
      exact eq_comm

theorem bindVariable_eq_ok_iff {x : Variable} :
    s.bindVariable h x = .ok final ↔
      ∃ v, s.eval h x.value = .ok v ∧ final = { s with vars := s.vars.set x.name v } := by
  unfold bindVariable
  cases s.eval h x.value <;> simp [eq_comm]

section Advance

variable {α : Type} {step : Scope → α → Except EvalError Scope}

theorem advance_append (s : Scope) (before after : List α) :
    s.advance step (before ++ after) =
      match s.advance step before with
      | (next, none) => next.advance step after
      | (last, some e) => (last, some e) := by
  induction before generalizing s with
  | nil => rfl
  | cons a before ih =>
    rw [List.cons_append, advance, advance]
    cases step s a with
    | ok next => exact ih next
    | error e => rfl

theorem advance_cons_eq_none_iff {a : α} {as : List α} :
    s.advance step (a :: as) = (final, none) ↔
      ∃ next, step s a = .ok next ∧ next.advance step as = (final, none) := by
  rw [advance]
  cases step s a <;> simp

/-- A series goes through exactly if its parts do, one from the scope of the other. -/
theorem advance_append_eq_none_iff {before after : List α} :
    s.advance step (before ++ after) = (final, none) ↔
      ∃ next, s.advance step before = (next, none) ∧ next.advance step after = (final, none) := by
  induction before generalizing s with
  | nil => simp [advance]
  | cons a before ih =>
    simp only [List.cons_append, advance_cons_eq_none_iff, ih]
    constructor
    · rintro ⟨first, hfirst, next, hbefore, hafter⟩
      exact ⟨next, ⟨first, hfirst, hbefore⟩, hafter⟩
    · rintro ⟨next, ⟨first, hfirst, hbefore⟩, hafter⟩
      exact ⟨first, hfirst, next, hbefore, hafter⟩

/-- A series that fails stops in the scope that the declarations before the failing one
made. -/
theorem advance_eq_some_iff {as : List α} {e : EvalError} :
    s.advance step as = (final, some e) ↔
      ∃ before a after, as = before ++ a :: after ∧ s.advance step before = (final, none) ∧
        step final a = .error e := by
  constructor
  · intro hfail
    induction as generalizing s with
    | nil => cases hfail
    | cons a as ih =>
      unfold advance at hfail
      cases hstep : step s a with
      | error e' =>
        rw [hstep] at hfail
        cases hfail
        exact ⟨[], a, as, rfl, rfl, hstep⟩
      | ok next =>
        rw [hstep] at hfail
        obtain ⟨before, b, after, rfl, hbefore, hb⟩ := ih hfail
        refine ⟨a :: before, b, after, rfl, ?_, hb⟩
        unfold advance
        rw [hstep]
        exact hbefore
  · rintro ⟨before, a, after, rfl, hbefore, ha⟩
    have hfirst : final.advance step (a :: after) = (final, some e) := by
      unfold advance
      rw [ha]
    rw [advance_append, hbefore]
    exact hfirst

/-- What every step keeps is kept by a series, also by one that fails. -/
theorem advance_induction {P : Scope → Prop} {as : List α} {result : Option EvalError}
    (hstep : ∀ s next, ∀ a ∈ as, P s → step s a = .ok next → P next) (hs : P s)
    (hrun : s.advance step as = (final, result)) : P final := by
  induction as generalizing s with
  | nil =>
    cases hrun
    exact hs
  | cons a as ih =>
    unfold advance at hrun
    cases ha : step s a with
    | error e =>
      rw [ha] at hrun
      cases hrun
      exact hs
    | ok next =>
      rw [ha] at hrun
      have hnext : P next := hstep s next a List.mem_cons_self hs ha
      refine ih ?_ hnext hrun
      intro s' next' b hb
      exact hstep s' next' b (List.mem_cons_of_mem a hb)

end Advance

/-- Parameters that are not declared keep their values, and so do all variables. -/
theorem bindParams_frame {params : List Param} {result : Option EvalError}
    (hrun : s.bindParams h given params = (final, result)) :
    final.vars = s.vars ∧
      ∀ name, (∀ p ∈ params, p.name ≠ name) → final.params.get? name = s.params.get? name := by
  refine advance_induction (P := fun t => t.vars = s.vars ∧ ∀ name, (∀ p ∈ params, p.name ≠ name) →
    t.params.get? name = s.params.get? name) ?_ ⟨rfl, fun _ _ => rfl⟩ hrun
  intro t next p hp ⟨hvars, hparams⟩ hbind
  obtain ⟨v, -, -, rfl⟩ := bindParam_eq_ok_iff.mp hbind
  refine ⟨hvars, ?_⟩
  intro name hname
  have hne : ¬ name = p.name := fun heq => hname p hp heq.symm
  rw [Fields.get?_set, if_neg hne]
  exact hparams name hname

/-- Variables that are not declared keep their values, and so do all parameters. -/
theorem bindVariables_frame {vars : List Variable} {result : Option EvalError}
    (hrun : s.bindVariables h vars = (final, result)) :
    final.params = s.params ∧
      ∀ name, (∀ x ∈ vars, x.name ≠ name) → final.vars.get? name = s.vars.get? name := by
  refine advance_induction (P := fun t => t.params = s.params ∧
    ∀ name, (∀ x ∈ vars, x.name ≠ name) → t.vars.get? name = s.vars.get? name) ?_
    ⟨rfl, fun _ _ => rfl⟩ hrun
  intro t next x hx ⟨hparams, hvars⟩ hbind
  obtain ⟨v, -, rfl⟩ := bindVariable_eq_ok_iff.mp hbind
  refine ⟨hparams, ?_⟩
  intro name hname
  have hne : ¬ name = x.name := fun heq => hname x hx heq.symm
  rw [Fields.get?_set, if_neg hne]
  exact hvars name hname

end Scope

end FlowGraph
