import PipeForge.Library.Transition

/-!
# Forward simulation

A system refines a more abstract one when each of its steps, from related states, is
matched by a run of the abstract system that emits the same events and ends in related
states. The matching run may be empty, for steps the abstract system does not have, or
longer than one step. Matching then extends to whole runs.

Where only states are compared, a view of the one system's state as a state of the other
takes the place of the relation.
-/

namespace PipeForge.Library.Transition

universe u v w u' v'

variable {σ : Type u} {α : Type v} {ε : Type w} {τ : Type u'} {β : Type v'}
variable {step : σ → α → σ × List ε} {model : τ → β → τ × List ε} {R : σ → τ → Prop}

/-- The abstract system can follow one step: `done` is where the step led. -/
def Matched (model : τ → β → τ × List ε) (R : σ → τ → Prop) (t : τ) (done : σ × List ε) : Prop :=
  ∃ actions, R done.1 (run model t actions).1 ∧ (run model t actions).2 = done.2

/-- A step the abstract system does not see. -/
theorem Matched.silent {t : τ} {s : σ} (related : R s t) : Matched model R t (s, []) :=
  ⟨[], related, rfl⟩

/-- A step that is one step of the abstract system. -/
theorem Matched.single {t : τ} {done : σ × List ε} (action : β)
    (related : R done.1 (model t action).1) (same : (model t action).2 = done.2) :
    Matched model R t done :=
  ⟨[action], related, by simpa [run] using same⟩

def Simulates (step : σ → α → σ × List ε) (model : τ → β → τ × List ε) (R : σ → τ → Prop) : Prop :=
  ∀ s t action, R s t → Matched model R t (step s action)

theorem Simulates.run (simulates : Simulates step model R) {s : σ} {t : τ} (related : R s t)
    (actions : List α) : Matched model R t (run step s actions) := by
  induction actions generalizing s t with
  | nil => exact .silent related
  | cons action rest ih =>
    obtain ⟨first, reached, emitted⟩ := simulates s t action related
    obtain ⟨later, final, others⟩ := ih reached
    refine ⟨first ++ later, ?_, ?_⟩
    · rw [run_append]
      exact final
    · rw [run_append, emitted, others]
      rfl

/-- What is seen of a system moves as another system does, so every run is seen as a run. -/
theorem run_viewed {ε' : Type w} {lower : τ → β → τ × List ε'} (view : σ → τ)
    (viewed : ∀ s action, ∃ steps, view (step s action).1 = (run lower (view s) steps).1) (s : σ)
    (actions : List α) : ∃ steps, view (run step s actions).1 = (run lower (view s) steps).1 := by
  induction actions generalizing s with
  | nil => exact ⟨[], rfl⟩
  | cons action rest ih =>
    obtain ⟨first, reached⟩ := viewed s action
    obtain ⟨later, final⟩ := ih (step s action).1
    refine ⟨first ++ later, ?_⟩
    rw [run_append, ← reached]
    exact final

end PipeForge.Library.Transition
