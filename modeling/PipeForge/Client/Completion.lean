import PipeForge.Client.Sections

/-!
# Exactly-once completion

The ledger, the flags and the entry the writer holds over its send together are
the invariant of the scheduler. It holds in every reachable state, and what it
says about promises is the result: however the sections interleave, each promise
is set at most once, and all of them are set when the session has closed.
-/

namespace PipeForge.Client
open Contracts Library Transport

/-! ## Reachable states -/

structure Invariant (s : ConnectionState) : Prop where
  ledger : Ledger s.book
  control : Control s.flags
  busy : s.Busy

/-- Where a run that passed through `s` may end. -/
structure Since (s t : ConnectionState) : Prop where
  invariant : Invariant t
  keeps : Keeps s.book t.book
  later : s.flags.Later t.flags

namespace ConnectionState
variable {s : ConnectionState}

theorem initial_invariant (opener : Bool) : Invariant (initial opener) :=
  ⟨.initial opener, ⟨rfl, fun _ => ⟨rfl, rfl⟩, nofun, nofun⟩, nofun⟩

/-- One section moves the connection on and takes nothing back. -/
theorem step_since (protobuf : Protocol.Protobuf) (invariant : Invariant s) (action : Action) :
    Since s (step protobuf s action).1 := by
  obtain ⟨reply, turned, -⟩ := step_turn protobuf invariant.ledger invariant.busy action
  obtain ⟨moved, sends⟩ := step_flags (s := s) protobuf action
  obtain ⟨control, later⟩ := invariant.control.moves moved
  have keeps := Keeps.turn turned
  refine ⟨⟨invariant.ledger.turn turned, control, fun entry sending => ?_⟩, keeps, later⟩
  rcases sends entry sending with before | ⟨payload, handed⟩
  · obtain ⟨call, found, begun⟩ := invariant.busy entry before
    obtain ⟨later, present, relation⟩ := keeps.calls entry call found
    exact ⟨later, present, relation.begun begun⟩
  · exact turned.handed_begun handed

theorem run_since (protobuf : Protocol.Protobuf) (invariant : Invariant s) (actions : List Action) :
    Since s (Transition.run (step protobuf) s actions).1 := by
  refine Transition.run_invariant (step protobuf) (fun t _ => Since s t) s []
    ⟨invariant, .refl _, .refl _⟩ ?_ actions
  intro t _ action since
  have next := step_since protobuf since.invariant action
  exact ⟨next.invariant, since.keeps.trans next.keeps, since.later.trans next.later⟩

theorem run_invariant (protobuf : Protocol.Protobuf) (opener : Bool) (actions : List Action) :
    Invariant (run protobuf opener actions).1 :=
  (run_since protobuf (initial_invariant opener) actions).invariant

end ConnectionState

/-! ## The result -/

/-- Every promise is set at most once, and the containers say which are not. -/
structure ExactlyOnce (s : ConnectionState) : Prop where
  opening : s.opening.length ≤ 1
  promises : ∀ call ∈ s.calls, call.promise.length ≤ 1
  pending : ∀ id entry, s.pending.find id = some entry ↔
    ∃ call, s.calls[entry]? = some call ∧ call.request.id = id ∧ call.promise = []
  bounded : s.pending.size ≤ maxPendingCalls
  queued : ∀ entry, entry ∈ s.queued ↔ ∃ call, s.calls[entry]? = some call ∧
    s.pending.find call.request.id = some entry ∧ call.progress = .queued
  distinct : s.queued.Nodup
  ordered : (s.queued.filterMap fun entry => s.calls[entry]?).Pairwise
    fun a b => a.request.id < b.request.id
  nonzero : ∀ call ∈ s.calls, call.request.id ≠ 0
  increasing : s.calls.Pairwise fun a b => a.request.id < b.request.id

/-- Nothing is left to complete. -/
structure Finished (s : ConnectionState) : Prop where
  pending : s.pending = .empty
  queued : s.queued = []
  calls : ∀ call ∈ s.calls, call.promise.length = 1
  opening : s.started = true → s.opening.length = 1

/-- What a later state `t` still shows of an earlier one. -/
structure Follows (protobuf : Protocol.Protobuf) (s t : ConnectionState) : Prop where
  opening : s.opening <+: t.opening
  calls : ∀ (entry : Address) (call : PendingCall), s.calls[entry]? = some call →
    ∃ later, t.calls[entry]? = some later ∧ call.Later later
  finished : s.closed = true → Finished s
  final : s.closed = true → t.closed = true ∧ t.calls = s.calls ∧ t.opening = s.opening
  refused : t.closed = true → ∀ operation deadline stop,
    t.callAsync protobuf operation deadline stop = (.error { kind := .notConnected }, t)

/-- A pending call has no value yet, and a call that is no longer pending has exactly one. -/
theorem Invariant.exactlyOnce {s : ConnectionState} (invariant : Invariant s) : ExactlyOnce s := by
  obtain ⟨ledger, control, -⟩ := invariant
  have listed : ∀ {call}, call ∈ s.calls → ∃ i : Address, s.book.calls[i]? = some call :=
    fun member => List.mem_iff_getElem?.mp member
  exact {
    opening := by
      have opened := control.opened
      change s.opening.length = _ at opened
      rw [opened]
      split <;> omega
    promises := fun call member => by
      obtain ⟨i, found⟩ := listed member
      exact ledger.once i call found
    pending := fun id entry => by
      constructor
      · intro held
        obtain ⟨call, found, rfl⟩ := ledger.keyed id entry held
        exact ⟨call, found, rfl, (ledger.unset entry call found).mpr held⟩
      · intro given
        obtain ⟨call, found, rfl, unset⟩ := given
        exact (ledger.unset entry call found).mp unset
    bounded := ledger.few
    queued := ledger.queue
    distinct := ledger.nodup
    ordered := by
      refine List.Pairwise.filterMap _ ?_ ledger.sorted
      intro i j less first here second there
      exact ledger.order i j first second here there less
    nonzero := fun call member => by
      obtain ⟨i, found⟩ := listed member
      exact ledger.nonzero i call found
    increasing := by
      rw [List.pairwise_iff_getElem]
      intro i j hi hj less
      exact ledger.order i j _ _ (List.getElem?_eq_getElem hi) (List.getElem?_eq_getElem hj) less }

/-- A closed connection has no call left to wait for. -/
theorem Invariant.finished {s : ConnectionState} (invariant : Invariant s)
    (closed : s.closed = true) : Finished s := by
  obtain ⟨ledger, control, -⟩ := invariant
  obtain ⟨pending, queued⟩ := ledger.drained closed
  refine ⟨pending, queued, fun call member => ?_, fun started => ?_⟩
  · obtain ⟨i, found⟩ := List.mem_iff_getElem?.mp member
    have once := ledger.once i call found
    have set : call.promise ≠ [] := fun unset => by
      have held := (ledger.unset i call found).mp unset
      rw [pending] at held
      cases held
    have positive := List.length_pos_iff.mpr set
    omega
  · have done : s.openingDone = true := control.resolved closed started
    have opened := control.opened
    change s.opening.length = if s.openingDone then 1 else 0 at opened
    rw [opened, done]
    rfl

/-- What the invariant and the progress of a run say to a caller, in the words of the interface.
-/
theorem Since.follows {s t : ConnectionState} (protobuf : Protocol.Protobuf)
    (invariant : Invariant s) (since : Since s t) : Follows protobuf s t where
  opening := since.later.opening
  calls := since.keeps.calls
  finished := invariant.finished
  final closed := by
    obtain ⟨still, opening⟩ := since.later.closed closed
    exact ⟨still, congrArg Book.calls (since.keeps.closed closed), opening⟩
  refused closed operation deadline stop := by
    unfold ConnectionState.callAsync
    rw [if_pos (by simp [closed])]

/-- However the sections of its threads and callers interleave, the scheduler
completes every promise once and accepts nothing after it has closed. -/
theorem calls_complete_exactly_once (protobuf : Protocol.Protobuf) (opener : Bool)
    (actions later : List Action) :
    ExactlyOnce (ConnectionState.run protobuf opener actions).1 ∧
      Follows protobuf (ConnectionState.run protobuf opener actions).1
        (ConnectionState.run protobuf opener (actions ++ later)).1 := by
  have invariant := ConnectionState.run_invariant protobuf opener actions
  refine ⟨invariant.exactlyOnce, ?_⟩
  have since := ConnectionState.run_since protobuf invariant later
  have joined : (ConnectionState.run protobuf opener (actions ++ later)).1 =
      (Transition.run (ConnectionState.step protobuf)
        (ConnectionState.run protobuf opener actions).1 later).1 := by
    simp only [ConnectionState.run, Transition.run_append]
  rw [joined]
  exact since.follows protobuf invariant

end PipeForge.Client
