import PipeForge.Client.Threads
import PipeForge.Client.Withdrawal
import PipeForge.Library.Simulation
import PipeForge.Transport.Native

/-!
# Sleeping threads

The waits of writer, reader and monitor on the condition variable `changed_` (client.cpp).
In `Connection` a thread may enter its section at any time; here a thread that found its
predicate false is asleep and stays so until a section notifies, its wait times out, or it
wakes for no reason. The monitor sleeps between two passes no longer than the cancellation
slice and not beyond any deadline it has seen.

No wake-up is lost: a sleeping thread has nothing to do (`Attentive`), whichever sections
the other threads and the callers run.
-/

namespace PipeForge.Client
open Contracts Library Transport

/-- `cancellation_slice`. -/
def cancellationSlice : Nat := 5 * ticksPerMillisecond

namespace ConnectionState

/-- Whether a section calls `notify_all`. -/
def notifies (protobuf : Protocol.Protobuf) (s : ConnectionState) (action : Action) : Bool :=
  decide ((s.step protobuf action).1.notified ≠ s.notified)

/-- `wake` after the loop of the monitor's pass: entries that stay hold it down. -/
def wake (s : ConnectionState) : Time :=
  s.pending.entries.foldl
    (fun wake e =>
      match s.calls[e.2]? with
      | some call => if s.expired call then wake else min wake call.deadline
      | none => wake)
    (s.now + cancellationSlice)

end ConnectionState

/-- How the monitor rests. -/
inductive Rest where
  | awake
  | untimed
  | timed (limit : Time)
  deriving DecidableEq

structure Waiting where
  connection : ConnectionState
  /-- The writer is asleep. -/
  writer : Bool := false
  reader : Bool := false
  monitor : Rest := .awake

inductive WaitingAction where
  | act (action : Action)
  /-- A wait ends: it timed out, or without a reason. -/
  | wake (worker : Worker)

namespace Waiting
variable (w : Waiting)

def asleep : Worker → Bool
  | .writer => w.writer
  | .reader => w.reader
  | .monitor => w.monitor != .awake

/-- `notify_all`. -/
def notifyAll : Waiting := { w with writer := false, reader := false, monitor := .awake }

/-- The thread that ran a section on `s` goes to sleep if its predicate is false, the
monitor also after a pass. -/
def turnIn (s : ConnectionState) : Action → Waiting
  | .takeQueued =>
    if s.writer = .waiting ∧ s.closed = false ∧ s.queued = [] then { w with writer := true } else w
  | .readerConnected =>
    if s.reader = .starting ∧ s.closed = false ∧ s.connected = false then { w with reader := true }
    else w
  | .monitorConnected =>
    if s.monitor = .starting ∧ s.closed = false ∧ s.connected = false then
      { w with monitor := .untimed }
    else w
  | .monitorScan =>
    if s.monitor = .scanning ∧ s.closed = false then
      if s.pending.entries = [] then { w with monitor := .untimed }
      else if w.connection.monitor = .scanning then { w with monitor := .timed s.wake }
      else w
    else w
  | _ => w

/-- A section runs and may notify. -/
def advance (protobuf : Protocol.Protobuf) (action : Action) : Waiting :=
  let next := { w with connection := (w.connection.step protobuf action).1 }
  if w.connection.notifies protobuf action then next.notifyAll else next

def act (protobuf : Protocol.Protobuf) (action : Action) : Waiting :=
  if action.worker.any w.asleep then w
  else (w.advance protobuf action).turnIn w.connection action

def wake : Worker → Waiting
  | .writer => { w with writer := false }
  | .reader => { w with reader := false }
  | .monitor => { w with monitor := .awake }

/-- Emits nothing; the waits show in the state. -/
def step (protobuf : Protocol.Protobuf) (w : Waiting) : WaitingAction → Waiting × List Unit
  | .act action => (w.act protobuf action, [])
  | .wake worker => (w.wake worker, [])

def run (protobuf : Protocol.Protobuf) (opener : Bool) (actions : List WaitingAction) : Waiting :=
  (Transition.run (step protobuf) { connection := .initial opener } actions).1

end Waiting

/-! ## What a section without notification does -/

/-- Nobody has to be told of the difference: no flag is set and nothing is added. -/
structure Unannounced (s t : ConnectionState) : Prop where
  closed : t.closed = s.closed
  connected : t.connected = s.connected
  pending : ∀ e ∈ t.pending.entries, e ∈ s.pending.entries
  queued : ∀ entry ∈ t.queued, entry ∈ s.queued

namespace ConnectionState
variable {protobuf : Protocol.Protobuf} {s : ConnectionState}

/-- Nothing is added to the containers. -/
def Shrinks (s t : ConnectionState) : Prop :=
  (∀ e ∈ t.pending.entries, e ∈ s.pending.entries) ∧ ∀ entry ∈ t.queued, entry ∈ s.queued

theorem Shrinks.refl (s : ConnectionState) : s.Shrinks s := ⟨fun _ => id, fun _ => id⟩

theorem Shrinks.trans {t u : ConnectionState} (first : s.Shrinks t) (second : t.Shrinks u) :
    s.Shrinks u :=
  ⟨fun e member => first.1 e (second.1 e member), fun i member => first.2 i (second.2 i member)⟩

/-- A section that leaves the map and the queue alone adds nothing to them. -/
theorem shrinks_of_eq {t : ConnectionState} (pending : t.pending = s.pending)
    (queued : t.queued = s.queued) : s.Shrinks t := by
  rw [Shrinks, pending, queued]
  exact ⟨fun _ => id, fun _ => id⟩

theorem mem_erase {m : OrderedMap UInt64 Address} {id : UInt64} {e : UInt64 × Address}
    (member : e ∈ (m.erase id).entries) : e ∈ m.entries := List.mem_of_mem_filter member

theorem failLocked_shrinks (common : Failure) (specificId : UInt64) (specific : Failure) :
    s.Shrinks (s.failLocked common specificId specific) := by
  unfold failLocked
  split
  · exact .refl s
  · exact ⟨nofun, nofun⟩

theorem withdraw_shrinks (id : UInt64) (entry : Address) (cause : Failure) :
    s.Shrinks (s.withdraw id entry cause) :=
  ⟨fun _ => mem_erase, fun _ => List.mem_of_mem_filter⟩

theorem scan_shrinks (s : ConnectionState) (entries : List (UInt64 × Address)) :
    s.Shrinks (s.scan entries) := by
  induction entries generalizing s with
  | nil => exact .refl s
  | cons head rest ih =>
    unfold scan
    split
    · exact .refl s
    · split
      · split
        · exact failLocked_shrinks _ _ _
        · exact (withdraw_shrinks _ _ _).trans (ih _)
      · exact ih s

theorem takeQueued_shrinks : s.Shrinks s.takeQueued.1 := by
  unfold takeQueued
  split
  · split
    · exact .refl s
    · split
      · exact .refl s
      · rename_i front
        have rest : ∀ {entry}, entry ∈ _ → entry ∈ s.queued := fun member => by
          rw [front]
          exact List.mem_cons_of_mem _ member
        split
        · exact .refl s
        · split
          · exact ⟨fun _ => mem_erase, fun _ => rest⟩
          · exact ⟨fun _ => id, fun _ => rest⟩
  · exact .refl s

/-- A refused call leaves no trace. -/
theorem callAsync_refused (operation : Operation) (deadline : Time) (stop : StopToken) :
    (s.callAsync protobuf operation deadline stop).1.isOk = false →
      (s.callAsync protobuf operation deadline stop).2 = s := by
  unfold callAsync
  dsimp only
  repeat' split
  all_goals first | exact fun _ => rfl | (intro admitted; cases admitted)

/-- Only an admitted call adds to the containers. -/
theorem step_shrinks {action : Action}
    (refused : ∀ operation deadline stop, action = .call operation deadline stop →
      (s.callAsync protobuf operation deadline stop).1.isOk = false) :
    s.Shrinks (step protobuf s action).1 := by
  cases action with
  | connect endpoint deadline stop workers =>
    rcases s.connectAsync_eq endpoint deadline stop workers with
      same | ⟨-, -, same | ⟨count, t, common, -, elapsed, same⟩⟩
    · exact shrinks_of_eq (congrArg pending same :) (congrArg queued same :)
    · exact shrinks_of_eq (congrArg pending same :) (congrArg queued same :)
    · have created : s.Shrinks t :=
        shrinks_of_eq (congrArg pending elapsed.same :) (congrArg queued elapsed.same :)
      rw [step, same]
      exact created.trans (failLocked_shrinks _ _ _)
  | call operation deadline stop =>
    have same := callAsync_refused operation deadline stop (refused operation deadline stop rfl)
    change s.Shrinks (s.callAsync protobuf operation deadline stop).2
    rw [same]
    exact .refl s
  | close => exact failLocked_shrinks _ _ _
  | tick elapsed => exact .refl s
  | requestStop stop => exact .refl s
  | beginOpening =>
    rcases s.beginOpening_eq with kept | ⟨_, _, _, _, _, -, kept, -⟩
    · exact shrinks_of_eq (congrArg pending kept :) (congrArg queued kept :)
    · exact shrinks_of_eq (congrArg pending kept :) (congrArg queued kept :)
  | openReturned result =>
    rcases s.openReturned_eq result with kept | ⟨_, _, -, kept⟩
    · exact shrinks_of_eq (congrArg pending kept :) (congrArg queued kept :)
    · exact shrinks_of_eq (congrArg pending kept :) (congrArg queued kept :)
  | publishOpened =>
    simp only [step, publishOpened, failAll]
    repeat' split
    all_goals first | exact .refl s | exact failLocked_shrinks _ _ _
  | takeQueued => exact takeQueued_shrinks
  | sendReturned result =>
    simp only [step, sendReturned]
    repeat' split
    all_goals first | exact .refl s | exact failLocked_shrinks _ _ _
  | readerConnected =>
    obtain ⟨_, kept⟩ := s.readerConnected_eq
    exact shrinks_of_eq (congrArg pending kept :) (congrArg queued kept :)
  | readerLoop =>
    obtain ⟨_, kept⟩ := s.readerLoop_eq
    exact shrinks_of_eq (congrArg pending kept :) (congrArg queued kept :)
  | received payload =>
    simp only [step, received, failAll]
    repeat' split
    all_goals first
      | exact .refl s | exact failLocked_shrinks _ _ _ | exact ⟨fun _ => mem_erase, fun _ => id⟩
  | monitorConnected =>
    obtain ⟨_, kept⟩ := s.monitorConnected_eq
    exact shrinks_of_eq (congrArg pending kept :) (congrArg queued kept :)
  | monitorScan =>
    simp only [step, monitorScan]
    repeat' split
    all_goals first | exact .refl s | exact s.scan_shrinks _

/-- A connection that was published stays so. -/
theorem step_still_connected (connected : s.connected = true) (action : Action) :
    (step protobuf s action).1.connected = true := by
  by_cases publishes : action = .publishOpened
  · subst publishes
    simp only [step, publishOpened]
    repeat' split
    all_goals simp [failAll, connected]
  · rw [step_connected_kept publishes, connected]

/-- The flags the predicates of the waits read are as before, or all waits were notified. -/
def Announced (s t : ConnectionState) : Prop :=
  s.notified < t.notified ∨
    t.notified = s.notified ∧ t.closed = s.closed ∧ t.connected = s.connected

theorem Announced.refl (s : ConnectionState) : s.Announced s := Or.inr ⟨rfl, rfl, rfl⟩

theorem Announced.trans {t u : ConnectionState} (first : s.Announced t) (second : t.Announced u) :
    s.Announced u := by
  rcases first with told | ⟨same, closed, connected⟩
  · rcases second with again | ⟨same, -, -⟩
    · exact Or.inl (Nat.lt_trans told again)
    · exact Or.inl (same ▸ told)
  · rcases second with told | ⟨same', closed', connected'⟩
    · exact Or.inl (same ▸ told)
    · exact Or.inr ⟨same'.trans same, closed'.trans closed, connected'.trans connected⟩

/-- A section that leaves the flags and the count of notifications alone has nothing to announce.
-/
theorem announced_of_eq {t : ConnectionState} (notified : t.notified = s.notified)
    (closed : t.closed = s.closed) (connected : t.connected = s.connected) : s.Announced t :=
  Or.inr ⟨notified, closed, connected⟩

/-- `fail_locked` closes the connection and notifies in the same section. -/
theorem failLocked_announced (common : Failure) (specificId : UInt64) (specific : Failure) :
    s.Announced (s.failLocked common specificId specific) := by
  unfold failLocked
  split
  · exact .refl s
  · exact Or.inl (Nat.lt_succ_self s.notified)

theorem scan_announced (s : ConnectionState) (entries : List (UInt64 × Address)) :
    s.Announced (s.scan entries) := by
  induction entries generalizing s with
  | nil => exact .refl s
  | cons head rest ih =>
    unfold scan
    split
    · exact .refl s
    · split
      · split
        · exact failLocked_announced _ _ _
        · exact ih (s.withdraw _ _ _)
      · exact ih s

/-- Connecting announces only what `fail_locked` announces in it. -/
theorem connectAsync_announced (endpoint : WString) (deadline : Time) (stop : StopToken)
    (workers : Except CreationFailure Unit) :
    s.Announced (s.connectAsync endpoint deadline stop workers).2 := by
  rcases s.connectAsync_eq endpoint deadline stop workers with
    same | ⟨-, -, same | ⟨count, t, common, -, elapsed, same⟩⟩
  · rw [same]
    exact .refl s
  · rw [same]
    exact announced_of_eq rfl rfl rfl
  · have created : s.Announced t :=
      announced_of_eq (congrArg notified elapsed.same :) (congrArg closed elapsed.same :)
        (congrArg connected elapsed.same :)
    rw [same]
    exact created.trans (failLocked_announced _ _ _)

/-- Admission is announced. -/
theorem callAsync_notified (operation : Operation) (deadline : Time) (stop : StopToken) :
    (s.callAsync protobuf operation deadline stop).1.isOk = false ∨
      s.notified < (s.callAsync protobuf operation deadline stop).2.notified := by
  unfold callAsync
  dsimp only
  repeat' split
  all_goals first | exact Or.inl rfl | exact Or.inr (Nat.lt_succ_self s.notified)

/-- Every section that closes the session or publishes the connection calls `notify_all`. -/
theorem step_announced (s : ConnectionState) (action : Action) :
    s.Announced (step protobuf s action).1 := by
  cases action with
  | connect endpoint deadline stop workers => exact connectAsync_announced _ _ _ _
  | call operation deadline stop =>
    rcases s.callAsync_notified operation deadline stop with refused | told
    · change s.Announced (s.callAsync protobuf operation deadline stop).2
      rw [callAsync_refused operation deadline stop refused]
      exact .refl s
    · exact Or.inl told
  | close => exact failLocked_announced _ _ _
  | tick elapsed => exact .refl s
  | requestStop stop => exact .refl s
  | beginOpening =>
    have same := (s.elapse_elapsed .beginOpening).same
    exact announced_of_eq (congrArg notified same :) (congrArg closed same :)
      (congrArg connected same :)
  | openReturned result =>
    have same := (s.elapse_elapsed (.openReturned result)).same
    exact announced_of_eq (congrArg notified same :) (congrArg closed same :)
      (congrArg connected same :)
  | publishOpened =>
    simp only [step, publishOpened, failAll]
    repeat' split
    all_goals first
      | exact .refl s | exact failLocked_announced _ _ _ | exact Or.inl (Nat.lt_succ_self s.notified)
  | takeQueued =>
    simp only [step, takeQueued]
    repeat' split
    all_goals exact announced_of_eq rfl rfl rfl
  | sendReturned result =>
    simp only [step, sendReturned]
    repeat' split
    all_goals first | exact .refl s | exact failLocked_announced _ _ _
  | readerConnected =>
    obtain ⟨_, kept⟩ := s.readerConnected_eq
    exact announced_of_eq (congrArg notified kept :) (congrArg closed kept :)
      (congrArg connected kept :)
  | readerLoop =>
    obtain ⟨_, kept⟩ := s.readerLoop_eq
    exact announced_of_eq (congrArg notified kept :) (congrArg closed kept :)
      (congrArg connected kept :)
  | received payload =>
    simp only [step, received, failAll]
    repeat' split
    all_goals first | exact .refl s | exact failLocked_announced _ _ _
  | monitorConnected =>
    obtain ⟨_, kept⟩ := s.monitorConnected_eq
    exact announced_of_eq (congrArg notified kept :) (congrArg closed kept :)
      (congrArg connected kept :)
  | monitorScan =>
    simp only [step, monitorScan]
    repeat' split
    all_goals first | exact .refl s | exact s.scan_announced _

/-- What a silent section leaves true for whoever sleeps through it. -/
theorem step_unannounced {action : Action} (quiet : s.notifies protobuf action = false) :
    Unannounced s (step protobuf s action).1 := by
  have silent : (step protobuf s action).1.notified = s.notified :=
    not_not.mp (of_decide_eq_false quiet)
  obtain ⟨pending, queued⟩ : s.Shrinks (step protobuf s action).1 := by
    apply step_shrinks
    rintro operation deadline stop rfl
    rcases s.callAsync_notified operation deadline stop with refused | told
    · exact refused
    · exact absurd silent (Nat.ne_of_gt told)
  rcases s.step_announced action with told | ⟨-, closed, connected⟩
  · exact absurd silent (Nat.ne_of_gt told)
  · exact ⟨closed, connected, pending, queued⟩

/-- Time does not run backwards, and a request to stop is not taken back. -/
structure ClockOn (s t : ConnectionState) : Prop where
  now : s.now ≤ t.now
  stops : ∀ stop, s.stopRequested stop = true → t.stopRequested stop = true

theorem failLocked_clockOn (common : Failure) (specificId : UInt64) (specific : Failure) :
    s.ClockOn (s.failLocked common specificId specific) := by
  unfold failLocked
  split <;> exact ⟨Nat.le_refl _, fun _ => id⟩

theorem connectAsync_clockOn (endpoint : WString) (deadline : Time) (stop : StopToken)
    (workers : Except CreationFailure Unit) :
    s.ClockOn (s.connectAsync endpoint deadline stop workers).2 := by
  rcases s.connectAsync_eq endpoint deadline stop workers with
    same | ⟨-, -, same | ⟨count, t, common, -, elapsed, same⟩⟩
  · rw [same]
    exact ⟨Nat.le_refl _, fun _ => id⟩
  · rw [same]
    exact ⟨Nat.le_refl _, fun _ => id⟩
  · rw [same]
    have failed : t.ClockOn (t.failAll common) := failLocked_clockOn _ _ _
    exact ⟨Nat.le_trans elapsed.now failed.now,
      fun token asked => failed.stops token (elapsed.stops token asked)⟩

/-- Time does not run backwards. -/
theorem step_now (s : ConnectionState) (action : Action) : s.now ≤ (step protobuf s action).1.now := by
  cases action with
  | connect endpoint deadline stop workers =>
    exact (connectAsync_clockOn endpoint deadline stop workers).now
  | tick elapsed => exact Nat.le_add_right s.now elapsed
  | requestStop stop => exact Nat.le_refl s.now
  | _ => exact Nat.le_of_eq (s.step_frame rfl).now.symm

theorem step_stopRequested {stop : StopToken} (requested : s.stopRequested stop = true)
    (action : Action) : (step protobuf s action).1.stopRequested stop = true := by
  have kept : ∀ {t : ConnectionState}, t.stops = s.stops → t.stopRequested stop = true := by
    intro t same
    rw [stopRequested, same]
    exact requested
  cases action with
  | connect endpoint deadline token workers =>
    exact (connectAsync_clockOn endpoint deadline token workers).stops stop requested
  | tick elapsed => exact requested
  | requestStop other =>
    rw [stopRequested] at requested
    change (other :: s.stops).contains stop = true
    rw [List.contains_cons, requested, Bool.or_true]
  | _ => exact kept (s.step_frame rfl).stops

/-- A call that has expired stays so. -/
theorem step_expired {call : PendingCall} (expired : s.expired call = true) (action : Action) :
    (step protobuf s action).1.expired call = true := by
  rw [ConnectionState.expired, Bool.or_eq_true, decide_eq_true_eq] at expired ⊢
  rcases expired with stopped | late
  · exact Or.inl (step_stopRequested stopped action)
  · exact Or.inr (Nat.le_trans late (s.step_now action))

/-! ## The bounds of the monitor's wait -/

theorem foldl_le {α : Type} {f : Time → α → Time} (lower : ∀ wake e, f wake e ≤ wake)
    (entries : List α) (first : Time) : entries.foldl f first ≤ first := by
  induction entries generalizing first with
  | nil => exact Nat.le_refl first
  | cons head rest ih => exact Nat.le_trans (ih (f first head)) (lower first head)

/-- A minimum over the entries is at most what any one of them gives. -/
theorem foldl_le_of_mem {α : Type} {f : Time → α → Time} (lower : ∀ wake e, f wake e ≤ wake)
    {entries : List α} {e : α} (member : e ∈ entries) {bound : Time} (held : ∀ wake, f wake e ≤ bound)
    (first : Time) : entries.foldl f first ≤ bound := by
  induction entries generalizing first with
  | nil => cases member
  | cons head rest ih =>
    rcases List.mem_cons.mp member with rfl | later
    · exact Nat.le_trans (foldl_le lower rest _) (held first)
    · exact ih later _

theorem wake_lower (s : ConnectionState) (wake : Time) (e : UInt64 × Address) :
    (match s.calls[e.2]? with
      | some call => if s.expired call then wake else min wake call.deadline
      | none => wake) ≤ wake := by
  split
  · split
    · exact Nat.le_refl wake
    · exact Nat.min_le_left _ _
  · exact Nat.le_refl wake

/-- The monitor sleeps at most one slice at a time. -/
theorem wake_le (s : ConnectionState) : s.wake ≤ s.now + cancellationSlice :=
  foldl_le s.wake_lower _ _

theorem wake_le_deadline {e : UInt64 × Address} (member : e ∈ s.pending.entries) {call : PendingCall}
    (found : s.calls[e.2]? = some call) (current : s.expired call = false) :
    s.wake ≤ call.deadline := by
  refine foldl_le_of_mem s.wake_lower member (fun wake => ?_) _
  simp only [found, current, Bool.false_eq_true, if_false]
  exact Nat.min_le_right _ _

/-- The monitor goes on after a pass unless it has closed the session. -/
theorem scan_goes_on (s : ConnectionState) (entries : List (UInt64 × Address)) :
    ((s.scan entries).closed = s.closed ∧ (s.scan entries).monitor = s.monitor) ∨
      ((s.scan entries).closed = true ∧ (s.scan entries).monitor = .done) := by
  induction entries generalizing s with
  | nil => exact Or.inl ⟨rfl, rfl⟩
  | cons head rest ih =>
    unfold scan
    split
    · exact Or.inl ⟨rfl, rfl⟩
    · split
      · split
        · exact Or.inr ⟨failLocked_closed _ _ _, rfl⟩
        · exact ih (s.withdraw _ _ _)
      · exact ih s

/-- A pass that does not close the session leaves no expired entry behind. -/
theorem scan_clears (entries : List (UInt64 × Address)) (ledger : Ledger s.book)
    (opened : s.closed = false) (held : ∀ e ∈ entries, s.pending.find e.1 = some e.2)
    (distinct : entries.Pairwise fun a b => a.1 < b.1)
    (alive : (s.scan entries).closed = false) {e : UInt64 × Address} (member : e ∈ entries)
    {call : PendingCall} (found : s.calls[e.2]? = some call) (expired : s.expired call = true) :
    e ∉ (s.scan entries).pending.entries := by
  induction entries generalizing s with
  | nil => cases member
  | cons head rest ih =>
    obtain ⟨id, entry⟩ := head
    obtain ⟨above, tail⟩ := List.pairwise_cons.mp distinct
    have here := held (id, entry) List.mem_cons_self
    obtain ⟨first, present, numbered⟩ := ledger.keyed id entry here
    replace present : s.calls[entry]? = some first := present
    have later : ∀ e ∈ rest, (s.pending.erase id).find e.1 = some e.2 := by
      intro e member
      have less := above e member
      rw [OrderedMap.find_erase, if_neg fun equal => UInt64.lt_irrefl _ (equal ▸ less)]
      exact held e (List.mem_cons_of_mem _ member)
    unfold scan at alive ⊢
    simp only [present] at alive ⊢
    by_cases overdue : s.expired first = true
    · rw [if_pos overdue] at alive ⊢
      by_cases begun : first.progress ≠ .queued
      · rw [if_pos begun] at alive
        change (s.failLocked _ _ _).closed = false at alive
        rw [failLocked_closed] at alive
        cases alive
      rw [if_neg begun] at alive ⊢
      rcases List.mem_cons.mp member with rfl | among
      · intro still
        have kept := (scan_shrinks _ rest).1 _ still
        have gone := (OrderedMap.find_eq_some_iff _ _ _).mpr kept
        change (s.pending.erase id).find id = some entry at gone
        rw [OrderedMap.find_erase, if_pos rfl] at gone
        cases gone
      · subst numbered
        have other : e.2 ≠ entry := by
          intro same
          obtain ⟨there, foundThere, numberedThere⟩ :=
            ledger.keyed e.1 e.2 (held e (List.mem_cons_of_mem _ among))
          rw [same] at foundThere
          cases Option.some.inj (present.symm.trans foundThere)
          exact UInt64.lt_irrefl _ (numberedThere ▸ above e among)
        have elsewhere : (s.withdraw first.request.id entry (s.expiry first.stop)).calls[e.2]? =
            some call := by
          change (setValue s.calls entry _)[e.2]? = some call
          rw [setValue, lookup_modify]
          exact ⟨call, found, by rw [if_neg other]⟩
        exact ih (s := s.withdraw first.request.id entry (s.expiry first.stop))
          (ledger.resolve _ opened present here) opened later tail alive among elsewhere expired
    · rw [if_neg overdue] at alive ⊢
      rcases List.mem_cons.mp member with rfl | among
      · cases Option.some.inj (present.symm.trans found)
        exact absurd expired overdue
      · exact ih ledger opened (fun e member => held e (List.mem_cons_of_mem _ member)) tail alive
          among found expired

end ConnectionState

/-! ## Sleeping threads have nothing to do -/

/-- What a thread found when it went to sleep still holds: the predicate of its wait is
false, and the timed wait ends before any call it leaves pending is due. -/
structure Attentive (w : Waiting) : Prop where
  invariant : Invariant w.connection
  threads : Threads w.connection
  writer : w.writer = true →
    w.connection.writer = .waiting ∧ w.connection.closed = false ∧ w.connection.queued = []
  reader : w.reader = true →
    w.connection.reader = .starting ∧ w.connection.closed = false ∧ w.connection.connected = false
  untimed : w.monitor = .untimed → w.connection.closed = false ∧
    (w.connection.monitor = .starting ∧ w.connection.connected = false ∨
      w.connection.monitor = .scanning ∧ w.connection.pending.entries = [])
  timed : ∀ limit, w.monitor = .timed limit → w.connection.closed = false ∧
    w.connection.monitor = .scanning ∧ limit ≤ w.connection.now + cancellationSlice ∧
      ∀ e ∈ w.connection.pending.entries, ∀ call, w.connection.calls[e.2]? = some call →
        limit ≤ call.deadline

/-- Turning in is for the thread alone; the connection stays as the section left it. -/
theorem Waiting.turnIn_connection (w : Waiting) (s : ConnectionState) (action : Action) :
    (w.turnIn s action).connection = w.connection := by
  unfold Waiting.turnIn
  repeat' split
  all_goals rfl

/-- Seen from the connection a section with waits is the section. -/
theorem Waiting.advance_connection (w : Waiting) (protobuf : Protocol.Protobuf) (action : Action) :
    (w.advance protobuf action).connection = (w.connection.step protobuf action).1 := by
  unfold Waiting.advance
  dsimp only
  split <;> rfl

namespace Attentive
variable {protobuf : Protocol.Protobuf} {w : Waiting}

theorem initial (opener : Bool) : Attentive { connection := .initial opener } where
  invariant := ConnectionState.initial_invariant opener
  threads := .initial opener
  writer := nofun
  reader := nofun
  untimed := nofun
  timed := nofun

theorem wake (attentive : Attentive w) (worker : Worker) : Attentive (w.wake worker) := by
  cases worker with
  | writer => exact { attentive with writer := nofun }
  | reader => exact { attentive with reader := nofun }
  | monitor => exact { attentive with untimed := nofun, timed := nofun }

/-- An action is carried out by a thread that is awake, so a sleeper is some other thread. -/
theorem other_of_asleep {action : Action} (awake : action.worker.any w.asleep = false)
    {worker : Worker} (asleep : w.asleep worker = true) : action.worker ≠ some worker := by
  intro own
  rw [own, Option.any_some, asleep] at awake
  cases awake

/-- A call that is still pending was so before, with the same deadline. -/
theorem deadline_kept {s t : ConnectionState} (invariant : Invariant s) (since : Since s t)
    {e : UInt64 × Address} (member : e ∈ s.pending.entries) {call : PendingCall}
    (found : t.calls[e.2]? = some call) :
    ∃ old, s.calls[e.2]? = some old ∧ call.deadline = old.deadline := by
  obtain ⟨old, present, -⟩ :=
    invariant.ledger.keyed e.1 e.2 ((OrderedMap.find_eq_some_iff _ _ _).mpr member)
  obtain ⟨later, there, relation⟩ := since.keeps.calls e.2 old present
  cases Option.some.inj (there.symm.trans found)
  exact ⟨old, present, by rw [relation.same]⟩

/-- The sections of the others do not touch what a sleeper waits for, or they notify. -/
theorem undisturbed (attentive : Attentive w) {action : Action}
    (awake : action.worker.any w.asleep = false)
    (quiet : w.connection.notifies protobuf action = false) :
    Attentive { w with connection := (w.connection.step protobuf action).1 } := by
  have since := ConnectionState.step_since protobuf attentive.invariant action
  have same := ConnectionState.step_unannounced quiet
  refine ⟨since.invariant, attentive.threads.step action, ?_, ?_, ?_, ?_⟩
  · intro asleep
    obtain ⟨point, alive, empty⟩ := attentive.writer asleep
    have started := attentive.threads.started (Or.inl (by rw [point]; nofun))
    refine ⟨?_, same.closed.trans alive, ?_⟩
    · exact (ConnectionState.step_writer_frame started (other_of_asleep awake asleep)).trans point
    · apply List.eq_nil_iff_forall_not_mem.mpr
      intro entry member
      have before := same.queued entry member
      rw [empty] at before
      cases before
  · intro asleep
    obtain ⟨point, alive, apart⟩ := attentive.reader asleep
    have started := attentive.threads.started (Or.inr (Or.inl (by rw [point]; nofun)))
    exact ⟨(ConnectionState.step_reader_frame started (other_of_asleep awake asleep)).trans point,
      same.closed.trans alive, same.connected.trans apart⟩
  · intro asleep
    obtain ⟨alive, waits⟩ := attentive.untimed asleep
    have other : action.worker ≠ some .monitor :=
      other_of_asleep awake (by rw [Waiting.asleep, asleep]; rfl)
    have frame : w.connection.monitor ≠ .absent →
        (w.connection.step protobuf action).1.monitor = w.connection.monitor := fun present =>
      ConnectionState.step_monitor_frame (attentive.threads.started (Or.inr (Or.inr present))) other
    refine ⟨same.closed.trans alive, ?_⟩
    rcases waits with ⟨point, apart⟩ | ⟨point, empty⟩
    · exact Or.inl ⟨(frame (by rw [point]; nofun)).trans point, same.connected.trans apart⟩
    · refine Or.inr ⟨(frame (by rw [point]; nofun)).trans point, ?_⟩
      apply List.eq_nil_iff_forall_not_mem.mpr
      intro e member
      have before := same.pending e member
      rw [empty] at before
      cases before
  · intro limit asleep
    obtain ⟨alive, point, slice, due⟩ := attentive.timed limit asleep
    have started := attentive.threads.started (Or.inr (Or.inr (by rw [point]; nofun)))
    have other : action.worker ≠ some .monitor :=
      other_of_asleep awake (by rw [Waiting.asleep, asleep]; rfl)
    refine ⟨same.closed.trans alive,
      (ConnectionState.step_monitor_frame started other).trans point, ?_, ?_⟩
    · exact Nat.le_trans slice (Nat.add_le_add_right (w.connection.step_now action) _)
    · intro e member call found
      have before := same.pending e member
      obtain ⟨old, present, kept⟩ := deadline_kept attentive.invariant since before found
      rw [kept]
      exact due e before old present

/-- After a notification nobody sleeps, and there is nothing to prove about a sleeper. -/
theorem notified {s : ConnectionState} (invariant : Invariant s) (threads : Threads s) :
    Attentive { connection := s } where
  invariant := invariant
  threads := threads
  writer := nofun
  reader := nofun
  untimed := nofun
  timed := nofun

section
variable {s : ConnectionState} (attentive : Attentive w)
include attentive

/-- The writer turns in only where its wait predicate is false. -/
theorem writerTurnsIn (reached : w.connection = (s.step protobuf .takeQueued).1) :
    Attentive (w.turnIn s .takeQueued) := by
  simp only [Waiting.turnIn]
  split
  · rename_i idle
    obtain ⟨point, alive, empty⟩ := idle
    have same : w.connection = s := by
      rw [reached]
      simp [ConnectionState.step, ConnectionState.takeQueued, point, alive, empty]
    refine { attentive with writer := fun _ => ?_ }
    rw [same]
    exact ⟨point, alive, empty⟩
  · exact attentive

theorem readerTurnsIn (reached : w.connection = (s.step protobuf .readerConnected).1) :
    Attentive (w.turnIn s .readerConnected) := by
  simp only [Waiting.turnIn]
  split
  · rename_i idle
    obtain ⟨point, alive, apart⟩ := idle
    have same : w.connection = s := by
      rw [reached]
      simp [ConnectionState.step, ConnectionState.readerConnected, point, alive, apart]
    refine { attentive with reader := fun _ => ?_ }
    rw [same]
    exact ⟨point, alive, apart⟩
  · exact attentive

theorem monitorTurnsIn (reached : w.connection = (s.step protobuf .monitorConnected).1) :
    Attentive (w.turnIn s .monitorConnected) := by
  simp only [Waiting.turnIn]
  split
  · rename_i idle
    obtain ⟨point, alive, apart⟩ := idle
    have same : w.connection = s := by
      rw [reached]
      simp [ConnectionState.step, ConnectionState.monitorConnected, point, alive, apart]
    refine { attentive with
      untimed := fun _ => ?_
      timed := fun _ impossible => by cases impossible }
    rw [same]
    exact ⟨alive, Or.inl ⟨point, apart⟩⟩
  · exact attentive

/-- While it scans the monitor turns in with a wake time computed from the entries it left. -/
theorem scannerTurnsIn (invariant : Invariant s)
    (reached : w.connection = (s.step protobuf .monitorScan).1) :
    Attentive (w.turnIn s .monitorScan) := by
  simp only [Waiting.turnIn]
  split
  · rename_i scans
    obtain ⟨point, alive⟩ := scans
    have pass : w.connection = s.scan s.pending.entries := by
      rw [reached]
      simp [ConnectionState.step, ConnectionState.monitorScan, point, alive]
    split
    · rename_i empty
      have same : w.connection = s := by rw [pass, empty, ConnectionState.scan]
      refine { attentive with
        untimed := fun _ => ?_
        timed := fun _ impossible => by cases impossible }
      rw [same]
      exact ⟨alive, Or.inr ⟨point, empty⟩⟩
    · split
      · rename_i scanning
        have still : w.connection.closed = false := by
          rw [pass] at scanning ⊢
          rcases s.scan_goes_on s.pending.entries with ⟨same, -⟩ | ⟨-, done⟩
          · exact same.trans alive
          · cases done.symm.trans scanning
        refine { attentive with untimed := (fun impossible => by cases impossible), timed := ?_ }
        rintro _ ⟨⟩
        refine ⟨still, scanning, ?_, ?_⟩
        · rw [pass, ((Frame.refl s).scan _).now]
          exact s.wake_le
        · intro e member call found
          have before : e ∈ s.pending.entries := by
            rw [pass] at member
            exact (s.scan_shrinks _).1 e member
          have since := ConnectionState.step_since protobuf invariant .monitorScan
          rw [← reached] at since
          obtain ⟨old, present, kept⟩ := deadline_kept invariant since before found
          rw [kept]
          refine ConnectionState.wake_le_deadline before present ?_
          by_contra expired
          rw [pass] at member still
          exact ConnectionState.scan_clears s.pending.entries invariant.ledger alive
            (fun e member => (OrderedMap.find_eq_some_iff _ _ _).mpr member) s.pending.sorted still
            before present (Bool.ne_false_iff.mp expired) member
      · exact attentive
  · exact attentive

theorem turnIn (invariant : Invariant s) {action : Action}
    (reached : w.connection = (s.step protobuf action).1) : Attentive (w.turnIn s action) := by
  cases action with
  | takeQueued => exact writerTurnsIn attentive reached
  | readerConnected => exact readerTurnsIn attentive reached
  | monitorConnected => exact monitorTurnsIn attentive reached
  | monitorScan => exact scannerTurnsIn attentive invariant reached
  | _ => exact attentive

/-- A section run by a thread that is awake keeps everyone attentive: either it notified, or
nothing a sleeper waits for has changed. -/
theorem advance {action : Action} (awake : action.worker.any w.asleep = false) :
    Attentive (w.advance protobuf action) := by
  unfold Waiting.advance
  dsimp only
  split
  · have since := ConnectionState.step_since protobuf attentive.invariant action
    exact notified since.invariant (attentive.threads.step action)
  · rename_i quiet
    exact undisturbed attentive awake (Bool.eq_false_iff.mpr quiet)

theorem act (action : Action) : Attentive (w.act protobuf action) := by
  unfold Waiting.act
  split
  · exact attentive
  · rename_i awake
    exact turnIn (advance attentive (Bool.eq_false_iff.mpr awake)) attentive.invariant
      (w.advance_connection protobuf action)

theorem step (action : WaitingAction) : Attentive (w.step protobuf action).1 := by
  cases action with
  | act action => exact attentive.act action
  | wake worker => exact attentive.wake worker

end

/-- Along every run whoever sleeps has nothing to do. -/
theorem run (protobuf : Protocol.Protobuf) (opener : Bool) (actions : List WaitingAction) :
    Attentive (Waiting.run protobuf opener actions) :=
  Transition.run_invariant (Waiting.step protobuf) (fun w _ => Attentive w) _ [] (.initial opener)
    (fun _ _ action attentive => attentive.step action) actions

/-- A sleeping writer would do nothing if it ran. -/
theorem writer_idle (attentive : Attentive w) (asleep : w.writer = true) {action : Action}
    (own : action.worker = some .writer) :
    (w.connection.step protobuf action).1 = w.connection := by
  obtain ⟨point, alive, empty⟩ := attentive.writer asleep
  cases action with
  | beginOpening => simp [ConnectionState.step, ConnectionState.beginOpening, point]
  | openReturned result => simp [ConnectionState.step, ConnectionState.openReturned, point]
  | publishOpened => simp [ConnectionState.step, ConnectionState.publishOpened, point]
  | takeQueued => simp [ConnectionState.step, ConnectionState.takeQueued, point, alive, empty]
  | sendReturned result => simp [ConnectionState.step, ConnectionState.sendReturned, point]
  | _ => cases own

/-- A sleeping reader would do nothing if it ran. -/
theorem reader_idle (attentive : Attentive w) (asleep : w.reader = true) {action : Action}
    (own : action.worker = some .reader) :
    (w.connection.step protobuf action).1 = w.connection := by
  obtain ⟨point, alive, apart⟩ := attentive.reader asleep
  cases action with
  | readerConnected =>
    simp [ConnectionState.step, ConnectionState.readerConnected, point, alive, apart]
  | readerLoop => simp [ConnectionState.step, ConnectionState.readerLoop, point]
  | received payload => simp [ConnectionState.step, ConnectionState.received, point]
  | _ => cases own

/-- A monitor in its untimed wait would do nothing if it ran. -/
theorem monitor_idle (attentive : Attentive w) (asleep : w.monitor = .untimed) {action : Action}
    (own : action.worker = some .monitor) :
    (w.connection.step protobuf action).1 = w.connection := by
  obtain ⟨alive, ⟨point, apart⟩ | ⟨point, empty⟩⟩ := attentive.untimed asleep
  · cases action with
    | monitorConnected =>
      simp [ConnectionState.step, ConnectionState.monitorConnected, point, alive, apart]
    | monitorScan => simp [ConnectionState.step, ConnectionState.monitorScan, point]
    | _ => cases own
  · cases action with
    | monitorConnected => simp [ConnectionState.step, ConnectionState.monitorConnected, point]
    | monitorScan =>
      simp [ConnectionState.step, ConnectionState.monitorScan, point, alive, empty,
        ConnectionState.scan]
    | _ => cases own

/-- A timed wait ends before a call without a result is due. -/
theorem timed_due (attentive : Attentive w) {limit : Time} (asleep : w.monitor = .timed limit)
    {i : Address} {call : PendingCall} (found : w.connection.calls[i]? = some call)
    (unset : call.promise = []) : limit ≤ call.deadline := by
  have held := (attentive.invariant.ledger.unset i call found).mp unset
  have member := (OrderedMap.find_eq_some_iff _ _ _).mp held
  exact (attentive.timed limit asleep).2.2.2 _ member call found

end Attentive

/-- The waits end with the session. -/
theorem Attentive.awake {w : Waiting} (attentive : Attentive w)
    (closed : w.connection.closed = true) (worker : Worker) : w.asleep worker = false := by
  by_contra asleep
  rw [Bool.not_eq_false] at asleep
  have alive : w.connection.closed = false := by
    cases worker with
    | writer => exact (attentive.writer asleep).2.1
    | reader => exact (attentive.reader asleep).2.1
    | monitor =>
      cases rest : w.monitor with
      | awake =>
        rw [Waiting.asleep, rest] at asleep
        cases asleep
      | untimed => exact (attentive.untimed rest).1
      | timed limit => exact (attentive.timed limit rest).1
  cases alive.symm.trans closed

/-! ## The results -/

namespace Waiting

/-- An action of a thread that is awake is the section of the connection. -/
theorem act_connection {protobuf : Protocol.Protobuf} {w : Waiting} {action : Action}
    (awake : action.worker.any w.asleep = false) :
    (w.act protobuf action).connection = (w.connection.step protobuf action).1 := by
  rw [act, if_neg (Bool.eq_false_iff.mp awake), turnIn_connection, advance_connection]

/-- Sleeping only takes interleavings away: the connection moves as it does without it. -/
theorem run_connection (protobuf : Protocol.Protobuf) (opener : Bool)
    (actions : List WaitingAction) :
    ∃ steps, (run protobuf opener actions).connection =
      (ConnectionState.run protobuf opener steps).1 := by
  refine Transition.run_viewed Waiting.connection (fun w action => ?_) _ actions
  cases action with
  | act action =>
    cases asleep : action.worker.any w.asleep with
    | true => exact ⟨[], by simp only [step, act, asleep, if_true, Transition.run]⟩
    | false => exact ⟨[action], act_connection asleep⟩
  | wake worker => exact ⟨[], by cases worker <;> rfl⟩

/-- A wake-up is never missed. The section of a sleeping thread would change nothing, with
one exception: the monitor sleeps on while the clock runs, but at most for the cancellation
slice and never past the deadline of a call it has in its care. -/
theorem no_lost_wakeup (protobuf : Protocol.Protobuf) (opener : Bool)
    (actions : List WaitingAction) :
    let w := run protobuf opener actions
    (∀ worker action, action.worker = some worker → w.asleep worker = true →
      (w.connection.step protobuf action).1 = w.connection ∨
        worker = .monitor ∧ ∃ limit, w.monitor = .timed limit) ∧
    ∀ limit, w.monitor = .timed limit → limit ≤ w.connection.now + cancellationSlice ∧
      ∀ (i : Address) (call : PendingCall), w.connection.calls[i]? = some call →
        call.promise = [] → limit ≤ call.deadline := by
  intro w
  have attentive : Attentive w := .run protobuf opener actions
  refine ⟨fun worker action own asleep => ?_, fun limit timed => ?_⟩
  · cases worker with
    | writer => exact Or.inl (attentive.writer_idle asleep own)
    | reader => exact Or.inl (attentive.reader_idle asleep own)
    | monitor =>
      cases rest : w.monitor with
      | awake =>
        rw [Waiting.asleep, rest] at asleep
        cases asleep
      | untimed => exact Or.inl (attentive.monitor_idle rest own)
      | timed limit => exact Or.inr ⟨rfl, limit, rfl⟩
  · exact ⟨(attentive.timed limit timed).2.2.1, fun i call found unset =>
      attentive.timed_due timed found unset⟩

end Waiting

end PipeForge.Client
