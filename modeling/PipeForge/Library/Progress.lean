import PipeForge.Library.Transition

/-!
# Bounded work

A rank counts what is left to do until a goal. Before the goal no step adds to it, and
every step that helps takes something off, so a run that makes as many helpful steps
as the rank it began with has met the goal on its way. Nothing is said about when a
helpful step is taken: that is the scheduler's.
-/

namespace PipeForge.Library.Transition

universe u v w

variable {σ : Type u} {α : Type v} {ε : Type w} {step : σ → α → σ × List ε}
variable {valid goal : σ → Prop} {helps : σ → α → Bool} {rank : σ → Nat}

structure Progress (step : σ → α → σ × List ε) (valid goal : σ → Prop) (helps : σ → α → Bool)
    (rank : σ → Nat) : Prop where
  keeps : ∀ s action, valid s → valid (step s action).1
  pays : ∀ s action, valid s → ¬ goal s → rank (step s action).1 + (helps s action).toNat ≤ rank s
  reached : ∀ s, valid s → rank s = 0 → goal s

/-- How many steps of a run helped. -/
def helpful (step : σ → α → σ × List ε) (helps : σ → α → Bool) (s : σ) : List α → Nat
  | [] => 0
  | action :: rest => (helps s action).toNat + helpful step helps (step s action).1 rest

/-- Enough helpful steps lead through the goal. -/
theorem Progress.reaches (progress : Progress step valid goal helps rank) {s : σ} (start : valid s)
    {actions : List α} (enough : rank s ≤ helpful step helps s actions) :
    ∃ front, front <+: actions ∧ goal (run step s front).1 := by
  induction actions generalizing s with
  | nil => exact ⟨[], List.prefix_rfl, progress.reached s start (Nat.le_zero.mp enough)⟩
  | cons action rest ih =>
    by_cases already : goal s
    · exact ⟨[], List.nil_prefix, already⟩
    · have paid := progress.pays s action start already
      simp only [helpful] at enough
      obtain ⟨front, shorter, there⟩ := ih (progress.keeps s action start) (by omega)
      exact ⟨action :: front, List.cons_prefix_cons.mpr ⟨rfl, shorter⟩, there⟩

end PipeForge.Library.Transition
