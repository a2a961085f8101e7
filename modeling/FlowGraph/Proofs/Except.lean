import Mathlib.Data.List.Basic

/-!
Computations that may fail. A bind succeeds exactly if both of its parts do, and a
series of steps fails with the error of the first step that fails.
-/

namespace FlowGraph

variable {ε α β σ : Type}

theorem bind_eq_ok {x : Except ε α} {f : α → Except ε β} {b : β} :
    x >>= f = .ok b ↔ ∃ a, x = .ok a ∧ f a = .ok b := by
  cases x <;> simp [bind, Except.bind]

theorem foldlM_eq_error_iff {step : σ → α → Except ε σ} {s : σ} {as : List α} {e : ε} :
    as.foldlM step s = .error e ↔
      ∃ before a after s', as = before ++ a :: after ∧
        before.foldlM step s = .ok s' ∧ step s' a = .error e := by
  induction as generalizing s with
  | nil => simp [pure, Except.pure]
  | cons a as ih =>
    rw [List.foldlM_cons]
    constructor
    · intro he
      cases hstep : step s a with
      | error e' =>
        rw [hstep] at he
        cases he
        exact ⟨[], a, as, s, rfl, rfl, hstep⟩
      | ok s₁ =>
        rw [hstep] at he
        obtain ⟨before, b, after, s', rfl, hbefore, hb⟩ := ih.mp he
        refine ⟨a :: before, b, after, s', rfl, ?_, hb⟩
        rw [List.foldlM_cons]
        exact bind_eq_ok.mpr ⟨s₁, hstep, hbefore⟩
    · rintro ⟨before, b, after, s', has, hbefore, hb⟩
      cases before with
      | nil =>
        obtain ⟨rfl, rfl⟩ := List.cons.inj has
        cases hbefore
        rw [hb]
        rfl
      | cons a' before =>
        obtain ⟨rfl, rfl⟩ := List.cons.inj has
        rw [List.foldlM_cons] at hbefore
        obtain ⟨s₁, hstep, hmore⟩ := bind_eq_ok.mp hbefore
        rw [hstep]
        exact ih.mpr ⟨before, b, after, s', rfl, hmore, hb⟩

end FlowGraph
