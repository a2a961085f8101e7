import FlowGraph.Proofs.Scope.Binding

/-!
Runs of a scope: parameters and variables are bound, expressions evaluated and texts
expanded in any order, and any of these may fail. After every run each bound parameter
has no value, or one that the declaration admits which bound its name last.
-/

namespace FlowGraph

/-- The parameter is what the declaration makes of it: of its type, and without a value
or with one that the declaration admits. -/
def Bound.Fits (b : Bound) (p : Param) : Prop :=
  b.type = p.type ∧ (b.value = .null ∨ p.Admits b.value)

namespace Scope

inductive Call where
  | bindParams (given : Fields Json) (params : List Param)
  | bindVariables (vars : List Variable)
  | eval (e : Expr)
  | expand (text : String)

inductive Reply where
  | done
  | value (v : Json)
  | text (t : String)

namespace Call

def run (s : Scope) (h : Host) : Call → Scope × Except EvalError Reply
  | .bindParams given params => answered (s.bindParams h given params)
  | .bindVariables vars => answered (s.bindVariables h vars)
  | .eval e => (s, (s.eval h e).map .value)
  | .expand text => (s, .ok (.text (s.expand h text)))
where
  answered : Scope × Option EvalError → Scope × Except EvalError Reply
    | (s, none) => (s, .ok .done)
    | (s, some e) => (s, .error e)

def isBinding : Call → Bool
  | .bindParams _ _ | .bindVariables _ => true
  | .eval _ | .expand _ => false

end Call

def bindable (s : Scope) (h : Host) (given : Fields Json) : List Param → List Param
  | [] => []
  | p :: rest =>
    match s.bindParam h given p with
    | .ok next => p :: next.bindable h given rest
    | .error _ => []

def Call.bound (s : Scope) (h : Host) : Call → List Param
  | .bindParams given params => s.bindable h given params
  | .bindVariables _ | .eval _ | .expand _ => []

def after (s : Scope) : List (Host × Call) → Scope
  | [] => s
  | (h, call) :: calls => (call.run s h).1.after calls

def history (s : Scope) : List (Host × Call) → List Param
  | [] => []
  | (h, call) :: calls => call.bound s h ++ (call.run s h).1.history calls

def LastOf (name : String) (declared : List Param) (p : Param) : Prop :=
  ∃ earlier later, declared = earlier ++ p :: later ∧ p.name = name ∧ ∀ q ∈ later, q.name ≠ name

theorem lastOf_concat (declared : List Param) (p : Param) :
    LastOf p.name (declared ++ [p]) p :=
  ⟨declared, [], rfl, rfl, by simp⟩

theorem LastOf.concat {name : String} {declared : List Param} {p q : Param}
    (hp : LastOf name declared p) (hq : q.name ≠ name) : LastOf name (declared ++ [q]) p := by
  obtain ⟨earlier, later, rfl, hname, hlater⟩ := hp
  refine ⟨earlier, later ++ [q], by simp, hname, ?_⟩
  intro r hr
  rcases List.mem_append.mp hr with hr | hr
  · exact hlater r hr
  · rw [List.mem_singleton.mp hr]
    exact hq

/-- The parameters of a scope are those declared, and each fits the declaration that
bound it last. -/
structure Sound (s : Scope) (declared : List Param) : Prop where
  fits : ∀ name b, s.params.get? name = some b → ∃ p, LastOf name declared p ∧ b.Fits p
  bound : ∀ p ∈ declared, ∃ b, s.params.get? p.name = some b

section Steps

variable {s next : Scope} {h : Host} {given : Fields Json} {declared : List Param}

theorem sound_empty : Sound {} [] := by
  refine ⟨?_, ?_⟩
  · intro name b hb
    cases hb
  · intro p hp
    cases hp

/-- The declaration that has just been bound is the last one of its name. -/
theorem Sound.bindParam (hs : s.Sound declared) {p : Param}
    (hbind : s.bindParam h given p = .ok next) : next.Sound (declared ++ [p]) := by
  obtain ⟨v, -, hv, rfl⟩ := bindParam_eq_ok_iff.mp hbind
  refine ⟨?_, ?_⟩
  · intro name b hb
    rw [Fields.get?_set] at hb
    split at hb
    · next hname =>
      cases hb
      rw [hname]
      exact ⟨p, lastOf_concat declared p, rfl, hv⟩
    · next hname =>
      obtain ⟨q, hq, hfits⟩ := hs.fits name b hb
      have hne : p.name ≠ name := fun heq => hname heq.symm
      exact ⟨q, hq.concat hne, hfits⟩
  · intro q hq
    rw [Fields.get?_set]
    split
    · exact ⟨_, rfl⟩
    · next hname =>
      rcases List.mem_append.mp hq with hq | hq
      · exact hs.bound q hq
      · exact absurd (congrArg Param.name (List.mem_singleton.mp hq)) hname

/-- Also a series that fails leaves what its first declarations bound. -/
theorem Sound.bindParams (hs : s.Sound declared) (params : List Param) :
    (s.bindParams h given params).1.Sound (declared ++ s.bindable h given params) := by
  induction params generalizing s declared with
  | nil =>
    rw [bindable, List.append_nil]
    exact hs
  | cons p rest ih =>
    unfold Scope.bindParams advance bindable
    cases hbind : s.bindParam h given p with
    | error e =>
      rw [List.append_nil]
      exact hs
    | ok next =>
      have hrest := ih (hs.bindParam hbind)
      rw [List.append_assoc] at hrest
      exact hrest

theorem Sound.of_params_eq (hs : s.Sound declared) (hparams : next.params = s.params) :
    next.Sound declared := by
  refine ⟨?_, ?_⟩
  · rw [hparams]
    exact hs.fits
  · rw [hparams]
    exact hs.bound

theorem fst_answered (result : Scope × Option EvalError) :
    (Call.run.answered result).1 = result.1 := by
  obtain ⟨s, _ | e⟩ := result <;> rfl

/-- No call leaves a parameter that its last declaration does not admit. -/
theorem Sound.run (hs : s.Sound declared) (call : Call) :
    (call.run s h).1.Sound (declared ++ call.bound s h) := by
  cases call with
  | bindParams given params =>
    rw [Call.run, fst_answered]
    exact hs.bindParams params
  | bindVariables vars =>
    have hframe : (s.bindVariables h vars).1.params = s.params := (bindVariables_frame rfl).1
    rw [Call.run, fst_answered, Call.bound, List.append_nil]
    exact hs.of_params_eq hframe
  | eval e =>
    rw [Call.bound, List.append_nil]
    exact hs
  | expand text =>
    rw [Call.bound, List.append_nil]
    exact hs

/-- So it is after any number of calls. -/
theorem Sound.after (hs : s.Sound declared) (calls : List (Host × Call)) :
    (s.after calls).Sound (declared ++ s.history calls) := by
  induction calls generalizing s declared with
  | nil =>
    rw [history, List.append_nil]
    exact hs
  | cons timed calls ih =>
    obtain ⟨h, call⟩ := timed
    have hrest := ih (hs.run (h := h) call)
    rw [List.append_assoc] at hrest
    exact hrest

end Steps

/-- Evaluations may be left out of a run. -/
theorem after_filter_isBinding (s : Scope) (calls : List (Host × Call)) :
    s.after (calls.filter fun timed => timed.2.isBinding) = s.after calls := by
  induction calls generalizing s with
  | nil => rfl
  | cons timed calls ih =>
    obtain ⟨h, call⟩ := timed
    cases call with
    | bindParams given params => exact ih _
    | bindVariables vars => exact ih _
    | eval e => exact ih s
    | expand text => exact ih s

theorem bindable_append {s final : Scope} {h : Host} {given : Fields Json} {before : List Param}
    (hbefore : s.bindParams h given before = (final, none)) (rest : List Param) :
    s.bindable h given (before ++ rest) = before ++ final.bindable h given rest := by
  induction before generalizing s with
  | nil =>
    cases hbefore
    rfl
  | cons p before ih =>
    unfold bindParams advance at hbefore
    rw [List.cons_append, bindable]
    cases hbind : s.bindParam h given p with
    | error e =>
      rw [hbind] at hbefore
      cases hbefore
    | ok next =>
      rw [hbind] at hbefore
      change p :: next.bindable h given (before ++ rest) = _
      rw [ih hbefore]
      rfl

/-- A call that fails has bound the declarations before the failing one. -/
theorem bindParams_eq_some {s final : Scope} {h : Host} {given : Fields Json} {params : List Param}
    {e : EvalError} (hfail : s.bindParams h given params = (final, some e)) :
    ∃ p rest, params = s.bindable h given params ++ p :: rest ∧
      s.bindParams h given (s.bindable h given params) = (final, none) ∧
      final.bindParam h given p = .error e := by
  obtain ⟨before, p, rest, rfl, hbefore, hp⟩ := advance_eq_some_iff.mp hfail
  have hstop : final.bindable h given (p :: rest) = [] := by
    unfold bindable
    rw [hp]
  have hbindable : s.bindable h given (before ++ p :: rest) = before := by
    rw [bindable_append hbefore, hstop, List.append_nil]
  rw [hbindable]
  exact ⟨p, rest, rfl, hbefore, hp⟩

/-- After any calls on a new scope, every bound parameter has the type that the last
declaration to bind it gave it, and no value or one that this declaration admits.
Evaluating and expanding leave the scope as it is. A call that fails leaves exactly what
its declarations before the failing one did. -/
theorem after_fits_last_declared :
    (∀ calls name b, (after {} calls).params.get? name = some b →
      ∃ p, LastOf name (history {} calls) p ∧ b.type = p.type ∧
        (b.value = .null ∨ p.Admits b.value)) ∧
    (∀ calls, ∀ p ∈ history {} calls, ∃ b, (after {} calls).params.get? p.name = some b) ∧
    (∀ s h e text, (Call.run s h (.eval e)).1 = s ∧ (Call.run s h (.expand text)).1 = s) ∧
    (∀ (s : Scope) calls, s.after (calls.filter fun timed => timed.2.isBinding) = s.after calls) ∧
    (∀ (s : Scope) h given params final e, s.bindParams h given params = (final, some e) →
      ∃ before p rest, params = before ++ p :: rest ∧ s.bindable h given params = before ∧
        s.bindParams h given before = (final, none) ∧ final.bindParam h given p = .error e ∧
        final.vars = s.vars ∧
        ((∀ q ∈ before, q.name ≠ p.name) →
          final.params.get? p.name = s.params.get? p.name)) ∧
    (∀ (s : Scope) h vars final e, s.bindVariables h vars = (final, some e) →
      ∃ before x rest, vars = before ++ x :: rest ∧ s.bindVariables h before = (final, none) ∧
        final.bindVariable h x = .error e ∧ final.params = s.params ∧
        ((∀ y ∈ before, y.name ≠ x.name) →
          final.vars.get? x.name = s.vars.get? x.name)) := by
  refine ⟨?_, ?_, ?_, after_filter_isBinding, ?_, ?_⟩
  · intro calls name b hb
    exact (sound_empty.after calls).fits name b hb
  · intro calls p hp
    exact (sound_empty.after calls).bound p hp
  · intro s h e text
    exact ⟨rfl, rfl⟩
  · intro s h given params final e hfail
    obtain ⟨p, rest, hparams, hbefore, hp⟩ := bindParams_eq_some hfail
    obtain ⟨hvars, hkept⟩ := bindParams_frame hbefore
    exact ⟨_, p, rest, hparams, rfl, hbefore, hp, hvars, hkept p.name⟩
  · intro s h vars final e hfail
    obtain ⟨before, x, rest, hvars, hbefore, hx⟩ := advance_eq_some_iff.mp hfail
    obtain ⟨hparams, hkept⟩ := bindVariables_frame hbefore
    exact ⟨before, x, rest, hvars, hbefore, hx, hparams, hkept x.name⟩

end Scope

end FlowGraph
