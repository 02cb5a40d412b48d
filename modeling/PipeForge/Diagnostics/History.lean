import PipeForge.Library.Transition
import PipeForge.Contracts.Types

/-!
# What a profiled program may observe

A diagnostic session seen from outside: scopes are admitted or refused, admitted
scopes end, and `finish` answers. `Allowed` says which of these may come next, from
the observations made so far and the event limit alone; there are no counters, no
table of threads and no file in it.

The results are about every history built that way: admitted scopes stay within the
limit, their tracks number the threads from one, and a scope ends at most once.
-/

namespace PipeForge.Diagnostics
open Contracts Library Transition

def traceThreadLimit : Nat := 128

/-- A scope that was admitted, with the track of its thread. -/
structure Scope (θ : Type) where
  id : Nat
  thread : θ
  track : Nat
  name : Bytes
  start : Int
  deriving DecidableEq, Repr

inductive Observation (θ : Type) where
  | admitted (scope : Scope θ)
  | refused (thread : θ)
  | ended (scope : Scope θ) (stop : Int)
  | finished (result : Bool)
  deriving DecidableEq, Repr

namespace Observation
variable {θ : Type}

@[simp] def admits : Observation θ → Option (Scope θ)
  | .admitted scope => some scope
  | _ => none

@[simp] def ends : Observation θ → Option (Scope θ × Int)
  | .ended scope stop => some (scope, stop)
  | _ => none

@[simp] def finishes : Observation θ → Bool
  | .finished _ => true
  | _ => false

@[simp] def refuses : Observation θ → Bool
  | .refused _ => true
  | _ => false

end Observation

abbrev History (θ : Type) := List (Observation θ)

namespace History

section
variable {θ : Type}

def admitted (h : History θ) : List (Scope θ) := h.filterMap Observation.admits

/-- The scopes that ended, with the times they did. -/
def ended (h : History θ) : List (Scope θ × Int) := h.filterMap Observation.ends

def endedScopes (h : History θ) : List (Scope θ) := h.ended.map (·.1)

def finishing (h : History θ) : Bool := h.any Observation.finishes

/-- Refusals before the first `finish`. -/
def dropped (h : History θ) : Nat :=
  (h.takeWhile fun o => !o.finishes).countP Observation.refuses

variable (h : History θ) (o : Observation θ)

@[simp] theorem admitted_snoc : admitted (h ++ [o]) = h.admitted ++ o.admits.toList := by
  unfold admitted
  rw [List.filterMap_append]
  cases o <;> rfl

@[simp] theorem ended_snoc : ended (h ++ [o]) = h.ended ++ o.ends.toList := by
  unfold ended
  rw [List.filterMap_append]
  cases o <;> rfl

@[simp] theorem endedScopes_snoc :
    endedScopes (h ++ [o]) = h.endedScopes ++ (o.ends.map (·.1)).toList := by
  unfold endedScopes
  rw [ended_snoc, List.map_append]
  cases o <;> rfl

@[simp] theorem finishing_snoc : finishing (h ++ [o]) = (h.finishing || o.finishes) := by
  simp [finishing]

/-- A refusal is counted as dropped as long as nobody has asked to finish. -/
theorem dropped_snoc :
    dropped (h ++ [o]) = if h.finishing = false ∧ o.refuses = true then h.dropped + 1
      else h.dropped := by
  have whole : (∀ x ∈ h, (!x.finishes) = true) ↔ h.finishing = false := by
    simp [finishing]
  unfold dropped
  rw [List.takeWhile_append]
  by_cases running : h.finishing = false
  · have all : h.takeWhile (fun o => !o.finishes) = h :=
      List.takeWhile_eq_self_iff.mpr (whole.mpr running)
    rw [if_pos (by rw [all]), all]
    cases o <;> simp [running]
  · have shorter : (h.takeWhile fun o => !o.finishes).length ≠ h.length := by
      intro same
      have all := (List.takeWhile_prefix _).eq_of_length same
      exact running (whole.mp (List.takeWhile_eq_self_iff.mp all))
    rw [if_neg shorter, if_neg (by tauto)]

end

variable {θ : Type} [DecidableEq θ]

def active (h : History θ) : List (Scope θ) :=
  h.admitted.filter fun scope => !h.endedScopes.contains scope

def threads (h : History θ) : Finset θ := (h.admitted.map (·.thread)).toFinset

/-- `finish` was called and nothing admitted is still running. -/
def Closed (h : History θ) : Prop := h.finishing = true ∧ h.active = []

instance (h : History θ) : Decidable h.Closed := inferInstanceAs (Decidable (_ ∧ _))

/-- A limit stands against another scope of the thread. -/
def Full (limit : Nat) (h : History θ) (thread : θ) : Prop :=
  limit ≤ h.admitted.length ∨ thread ∉ h.threads ∧ traceThreadLimit ≤ h.threads.card

/-- The track of a thread: the one it had, or the next number. -/
def Tracked (h : History θ) (thread : θ) (track : Nat) : Prop :=
  (∃ scope ∈ h.admitted, scope.thread = thread ∧ scope.track = track) ∨
    thread ∉ h.threads ∧ track = h.threads.card + 1

/-- What may be observed after a history. -/
def Allowed (limit : Nat) (h : History θ) : Observation θ → Prop
  | .admitted scope => h.finishing = false ∧ ¬ h.Full limit scope.thread ∧
      h.Tracked scope.thread scope.track ∧ ∀ other ∈ h.admitted, other.id ≠ scope.id
  | .refused thread => h.finishing = false → h.Full limit thread
  | .ended scope _ => scope ∈ h.active
  | .finished result => result = true ↔ h.active = []

/-- A scope is active if it was admitted and has not ended. -/
theorem mem_active {h : History θ} {scope : Scope θ} :
    scope ∈ h.active ↔ scope ∈ h.admitted ∧ scope ∉ h.endedScopes := by
  simp [active]

/-- A scope that is admitted becomes the last of the active ones. -/
theorem active_admitted {h : History θ} {scope : Scope θ} (fresh : scope ∉ h.endedScopes) :
    active (h ++ [Observation.admitted scope]) = h.active ++ [scope] := by
  unfold active
  rw [admitted_snoc, endedScopes_snoc, List.filter_append]
  simp [fresh]

theorem active_refused (h : History θ) (thread : θ) :
    active (h ++ [Observation.refused thread]) = h.active := by
  unfold active
  rw [admitted_snoc, endedScopes_snoc]
  simp

theorem active_ended (h : History θ) (scope : Scope θ) (stop : Int) :
    active (h ++ [Observation.ended scope stop]) = h.active.filter fun other => other != scope := by
  unfold active
  rw [admitted_snoc, endedScopes_snoc, List.filter_filter]
  simp only [Observation.admits, Option.toList_none, List.append_nil]
  apply List.filter_congr
  intro other _
  by_cases same : other = scope
  · simp [same]
  · simp [same, bne_iff_ne.mpr same]

theorem active_finished (h : History θ) (result : Bool) :
    active (h ++ [Observation.finished result]) = h.active := by
  unfold active
  rw [admitted_snoc, endedScopes_snoc]
  simp

theorem threads_admitted (h : History θ) (scope : Scope θ) :
    threads (h ++ [Observation.admitted scope]) = insert scope.thread h.threads := by
  simp [threads]

/-- The threads seen are those of the admitted scopes. -/
theorem mem_threads {h : History θ} {thread : θ} :
    thread ∈ h.threads ↔ ∃ scope ∈ h.admitted, scope.thread = thread := by
  simp [threads]

/-! ## Histories that keep the rules -/

section
variable {limit : Nat} {h : History θ} (legal : Admissible (Allowed limit) h)
include legal

/-- No more scopes are admitted than the limit allows. -/
theorem admitted_le : h.admitted.length ≤ limit := by
  induction legal with
  | nil => exact Nat.zero_le _
  | @snoc past o before next ih =>
    cases o with
    | admitted scope =>
      obtain ⟨-, room, -, -⟩ := next
      have below : (admitted past).length < limit := by
        by_contra reached
        exact room (.inl (by omega))
      simpa using below
    | refused thread => simpa using ih
    | ended scope stop => simpa using ih
    | finished result => simpa using ih

theorem endedScopes_subset : ∀ scope ∈ h.endedScopes, scope ∈ h.admitted := by
  induction legal with
  | nil =>
    intro scope member
    cases member
  | @snoc past o before next ih =>
    intro scope member
    rw [endedScopes_snoc, List.mem_append] at member
    rw [admitted_snoc, List.mem_append]
    left
    rcases member with earlier | now
    · exact ih scope earlier
    · cases o with
      | ended other stop =>
        cases List.mem_singleton.mp now
        exact (mem_active.mp next).1
      | _ => cases now

theorem endedScopes_nodup : h.endedScopes.Nodup := by
  induction legal with
  | nil => exact List.nodup_nil
  | @snoc past o before next ih =>
    rw [endedScopes_snoc]
    cases o with
    | ended scope stop =>
      have new := (mem_active.mp next).2
      refine List.nodup_append.mpr ⟨ih, List.nodup_singleton _, ?_⟩
      intro earlier old last same equal
      cases List.mem_singleton.mp same
      subst equal
      exact new old
    | _ => simpa using ih

theorem admitted_ids : (h.admitted.map (·.id)).Nodup := by
  induction legal with
  | nil => exact List.nodup_nil
  | @snoc past o before next ih =>
    rw [admitted_snoc, List.map_append]
    cases o with
    | admitted scope =>
      obtain ⟨-, -, -, fresh⟩ := next
      refine List.nodup_append.mpr ⟨ih, List.nodup_singleton _, ?_⟩
      intro earlier old last same equal
      obtain ⟨other, member, rfl⟩ := List.mem_map.mp old
      exact fresh other member (equal.trans (List.mem_singleton.mp same))
    | _ => simpa using ih

end

/-- The tracks number the threads from one. -/
structure Numbered (h : History θ) : Prop where
  few : h.threads.card ≤ traceThreadLimit
  range : ∀ scope ∈ h.admitted, 1 ≤ scope.track ∧ scope.track ≤ h.threads.card
  exactly : ∀ first ∈ h.admitted, ∀ second ∈ h.admitted,
    first.thread = second.thread ↔ first.track = second.track

theorem Numbered.known {h : History θ} {scope other : Scope θ} (numbered : h.Numbered)
    (member : other ∈ h.admitted) (thread : other.thread = scope.thread)
    (track : other.track = scope.track) : Numbered (h ++ [Observation.admitted scope]) := by
  have present : scope.thread ∈ h.threads := mem_threads.mpr ⟨other, member, thread⟩
  have same : threads (h ++ [Observation.admitted scope]) = h.threads := by
    rw [threads_admitted, Finset.insert_eq_of_mem present]
  have like (first : Scope θ) (found : first ∈ admitted (h ++ [Observation.admitted scope])) :
      ∃ twin ∈ h.admitted, twin.thread = first.thread ∧ twin.track = first.track := by
    rw [admitted_snoc] at found
    rcases List.mem_append.mp found with old | new
    · exact ⟨first, old, rfl, rfl⟩
    · cases List.mem_singleton.mp new
      exact ⟨other, member, thread, track⟩
  constructor
  · rw [same]
    exact numbered.few
  · intro first found
    obtain ⟨twin, old, -, number⟩ := like first found
    rw [same, ← number]
    exact numbered.range twin old
  · intro first found second found'
    obtain ⟨one, old, who, number⟩ := like first found
    obtain ⟨two, old', who', number'⟩ := like second found'
    rw [← who, ← who', ← number, ← number']
    exact numbered.exactly one old two old'

theorem Numbered.new {h : History θ} {scope : Scope θ} (numbered : h.Numbered)
    (absent : scope.thread ∉ h.threads) (room : h.threads.card < traceThreadLimit)
    (track : scope.track = h.threads.card + 1) : Numbered (h ++ [Observation.admitted scope]) := by
  have more : (threads (h ++ [Observation.admitted scope])).card = h.threads.card + 1 := by
    rw [threads_admitted, Finset.card_insert_of_notMem absent]
  have apart (old : Scope θ) (member : old ∈ h.admitted) :
      old.thread ≠ scope.thread ∧ old.track ≠ scope.track := by
    have small := (numbered.range old member).2
    refine ⟨?_, by omega⟩
    intro equal
    exact absent (mem_threads.mpr ⟨old, member, equal⟩)
  constructor
  · omega
  · intro first found
    rw [admitted_snoc] at found
    rcases List.mem_append.mp found with old | new
    · have inside := numbered.range first old
      omega
    · cases List.mem_singleton.mp new
      omega
  · intro first found second found'
    rw [admitted_snoc] at found found'
    rcases List.mem_append.mp found with old | new <;>
      rcases List.mem_append.mp found' with old' | new'
    · exact numbered.exactly first old second old'
    · cases List.mem_singleton.mp new'
      exact iff_of_false (apart first old).1 (apart first old).2
    · cases List.mem_singleton.mp new
      exact iff_of_false (apart second old').1.symm (apart second old').2.symm
    · cases List.mem_singleton.mp new
      cases List.mem_singleton.mp new'
      exact iff_of_true rfl rfl

theorem numbered_unchanged {h : History θ} {o : Observation θ} (none : o.admits = none)
    (numbered : h.Numbered) : Numbered (h ++ [o]) := by
  have same : admitted (h ++ [o]) = h.admitted := by
    rw [admitted_snoc, none, Option.toList_none, List.append_nil]
  have threads : threads (h ++ [o]) = h.threads := by
    rw [History.threads, same, History.threads]
  exact ⟨threads ▸ numbered.few, by rw [same, threads]; exact numbered.range,
    by rw [same]; exact numbered.exactly⟩

/-- In every legal history tracks number the threads in the order they were first seen. -/
theorem numbered {limit : Nat} {h : History θ} (legal : Admissible (Allowed limit) h) :
    h.Numbered := by
  induction legal with
  | nil =>
    refine ⟨Nat.zero_le _, ?_, ?_⟩
    · intro scope member
      cases member
    · intro scope member
      cases member
  | @snoc past o before next ih =>
    cases o with
    | admitted scope =>
      obtain ⟨-, room, known | new, -⟩ := next
      · obtain ⟨other, member, thread, track⟩ := known
        exact ih.known member thread track
      · have fewer : (threads past).card < traceThreadLimit := by
          by_contra reached
          exact room (.inr ⟨new.1, by omega⟩)
        exact ih.new new.1 fewer new.2
    | refused thread => exact numbered_unchanged rfl ih
    | ended scope stop => exact numbered_unchanged rfl ih
    | finished result => exact numbered_unchanged rfl ih

end History

end PipeForge.Diagnostics
