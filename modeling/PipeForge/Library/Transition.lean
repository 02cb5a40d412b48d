import Mathlib

/-!
# Runs of transition systems

A deterministic system maps a state and an action to the next state and the events it
emits; `run` collects the events of a whole action list. The induction over runs is
packaged once as an invariant rule, and once more with an assumption about each step.
`Admissible` specifies a system by its events alone: each has to be allowed after the
ones before it.
-/

namespace PipeForge.Library.Transition

universe u v w

section Deterministic
variable {σ : Type u} {α : Type v} {ε : Type w} (step : σ → α → σ × List ε)

def run (s : σ) : List α → σ × List ε
  | [] => (s, [])
  | action :: rest =>
    let first := step s action
    let later := run first.1 rest
    (later.1, first.2 ++ later.2)

/-- A run in two parts is the second part from where the first ended. -/
theorem run_append (s : σ) (front back : List α) :
    run step s (front ++ back) =
      ((run step (run step s front).1 back).1,
        (run step s front).2 ++ (run step (run step s front).1 back).2) := by
  induction front generalizing s with
  | nil => simp [run]
  | cons action rest ih => simp [run, ih, List.append_assoc]

/-- An invariant of state and history so far holds at the end of every run. -/
theorem run_invariant (P : σ → List ε → Prop) (s : σ) (past : List ε) (initial : P s past)
    (preserved : ∀ s past action, P s past →
      P (step s action).1 (past ++ (step s action).2)) (actions : List α) :
    P (run step s actions).1 (past ++ (run step s actions).2) := by
  induction actions generalizing s past with
  | nil => simpa [run] using initial
  | cons action rest ih =>
    have next := ih (step s action).1 _ (preserved s past action initial)
    simpa [run, List.append_assoc] using next

/-- Every step of a run satisfies an assumption about the state it is taken in. -/
def along (assumed : σ → α → Bool) (s : σ) : List α → Bool
  | [] => true
  | action :: rest => assumed s action && along assumed (step s action).1 rest

/-- An invariant that may use an assumption about each step. The assumption is needed only
if `trusted`, so that one induction serves what holds with it and what holds without. -/
theorem run_invariant_along (trusted : Prop) (assumed : σ → α → Bool) (P : σ → List ε → Prop)
    (s : σ) (past : List ε) (initial : P s past)
    (preserved : ∀ s past action, P s past → (trusted → assumed s action = true) →
      P (step s action).1 (past ++ (step s action).2))
    (actions : List α) (holds : trusted → along step assumed s actions = true) :
    P (run step s actions).1 (past ++ (run step s actions).2) := by
  induction actions generalizing s past with
  | nil => simpa [run] using initial
  | cons action rest ih =>
    have split := fun yes => Bool.and_eq_true_iff.mp (holds yes)
    have next := ih (step s action).1 _ (preserved s past action initial fun yes => (split yes).1)
      fun yes => (split yes).2
    simpa [run, List.append_assoc] using next

end Deterministic

section Histories
variable {ε : Type w}

inductive Admissible (allowed : List ε → ε → Prop) : List ε → Prop
  | nil : Admissible allowed []
  | snoc {past : List ε} {event : ε} (before : Admissible allowed past)
      (next : allowed past event) : Admissible allowed (past ++ [event])

variable {allowed : List ε → ε → Prop}

/-- Every event was allowed at its own time. -/
theorem Admissible.allowed_at {history : List ε} (admissible : Admissible allowed history)
    {front back : List ε} {event : ε} (split : history = front ++ event :: back) :
    allowed front event := by
  induction admissible generalizing back with
  | nil => simp at split
  | snoc before next ih =>
    rcases List.eq_nil_or_concat back with rfl | ⟨back', last, rfl⟩
    · obtain ⟨same, single⟩ := List.append_inj' split rfl
      cases single
      exact same ▸ next
    · rw [List.concat_eq_append, ← List.cons_append, ← List.append_assoc] at split
      exact ih (List.append_inj' split rfl).1

end Histories

end PipeForge.Library.Transition
