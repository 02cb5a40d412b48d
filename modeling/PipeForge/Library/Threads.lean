import Mathlib

/-!
# Threads over a lock

A fixed list of threads, each with a point of its own, of which one moves at a time.
What is true of the others stays true, sums over all threads change by what the one
that moved changes, and a lock that knows its holder keeps the points inside it apart.
-/

namespace PipeForge.Library.Threads

universe u

variable {α : Type u} {threads : List α} {i : Nat} {here next : α}

/-- After a move, a thread is the one that moved or an old one. -/
theorem set_cases {j : Nat} {found : α} (present : (threads.set i next)[j]? = some found) :
    (j = i ∧ found = next) ∨ (j ≠ i ∧ threads[j]? = some found) := by
  by_cases same : i = j
  · subst same
    rw [List.getElem?_set_self'] at present
    obtain ⟨_, -, rfl⟩ := Option.map_eq_some_iff.mp present
    exact Or.inl ⟨rfl, rfl⟩
  · rw [List.getElem?_set_ne same] at present
    exact Or.inr ⟨Ne.symm same, present⟩

theorem set_self (present : threads[i]? = some here) : (threads.set i next)[i]? = some next := by
  rw [List.getElem?_set_self', present]
  rfl

theorem set_here (present : threads[i]? = some here) : threads.set i here = threads := by
  apply List.ext_getElem?
  intro j
  by_cases same : i = j
  · subst same
    rw [set_self present, present]
  · rw [List.getElem?_set_ne same]

/-! ## Sums -/

def total (f : α → Nat) (threads : List α) : Nat := (threads.map f).sum

/-- Moving one thread changes a total by that thread's part. -/
theorem total_set (f : α → Nat) (present : threads[i]? = some here) (next : α) :
    total f (threads.set i next) + f here = total f threads + f next := by
  induction threads generalizing i with
  | nil => cases present
  | cons first rest ih =>
    cases i with
    | zero =>
      cases present
      simp only [total, List.set_cons_zero, List.map_cons, List.sum_cons]
      omega
    | succ i =>
      have later := ih (i := i) (by simpa using present)
      simp only [total, List.set_cons_succ, List.map_cons, List.sum_cons] at later ⊢
      omega

theorem total_le (f : α → Nat) (bound : Nat) (each : ∀ thread ∈ threads, f thread ≤ bound) :
    total f threads ≤ bound * threads.length := by
  have summed := List.sum_le_card_nsmul (threads.map f) bound (by simpa using each)
  simpa [total, Nat.mul_comm] using summed

theorem total_eq_zero {f : α → Nat} : total f threads = 0 ↔ ∀ thread ∈ threads, f thread = 0 := by
  simp [total, List.sum_eq_zero_iff]

/-! ## A lock -/

/-- The lock names the one thread that is inside it, if any. -/
def Held (inside : α → Bool) (holder : Option Nat) (threads : List α) : Prop :=
  ∀ i, holder = some i ↔ ∃ thread, threads[i]? = some thread ∧ inside thread = true

namespace Held
variable {inside : α → Bool} {holder : Option Nat}

/-- At most one thread is inside. -/
theorem exclusive (held : Held inside holder threads) {j : Nat} {other : α}
    (first : threads[i]? = some here) (second : threads[j]? = some other)
    (inFirst : inside here = true) (inSecond : inside other = true) : i = j := by
  have one := (held i).mpr ⟨here, first, inFirst⟩
  have two := (held j).mpr ⟨other, second, inSecond⟩
  exact Option.some.inj (one.symm.trans two)

/-- A thread moves and neither enters nor leaves. -/
theorem keep (held : Held inside holder threads) (present : threads[i]? = some here)
    (same : inside next = inside here) : Held inside holder (threads.set i next) := by
  intro j
  rw [held j]
  constructor
  · rintro ⟨thread, found, inThread⟩
    by_cases own : i = j
    · subst own
      cases present.symm.trans found
      exact ⟨next, set_self present, same.trans inThread⟩
    · exact ⟨thread, by rw [List.getElem?_set_ne own, found], inThread⟩
  · rintro ⟨thread, found, inThread⟩
    rcases set_cases found with ⟨rfl, rfl⟩ | ⟨-, before⟩
    · exact ⟨here, present, same.symm.trans inThread⟩
    · exact ⟨thread, before, inThread⟩

/-- A free resource may be taken by a thread that enters. -/
theorem acquire (held : Held inside none threads) (present : threads[i]? = some here)
    (enters : inside next = true) : Held inside (some i) (threads.set i next) := by
  intro j
  constructor
  · rintro ⟨⟩
    exact ⟨next, set_self present, enters⟩
  · rintro ⟨thread, found, inThread⟩
    rcases set_cases found with ⟨rfl, -⟩ | ⟨-, before⟩
    · rfl
    · cases (held j).mpr ⟨thread, before, inThread⟩

theorem release (held : Held inside holder threads) (present : threads[i]? = some here)
    (entered : inside here = true) (leaves : inside next = false) :
    Held inside none (threads.set i next) := by
  intro j
  constructor
  · rintro ⟨⟩
  · rintro ⟨thread, found, inThread⟩
    rcases set_cases found with ⟨-, rfl⟩ | ⟨other, before⟩
    · cases leaves.symm.trans inThread
    · exact absurd (held.exclusive before present inThread entered) other

end Held

end PipeForge.Library.Threads
