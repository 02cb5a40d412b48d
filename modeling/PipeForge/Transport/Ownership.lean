import PipeForge.Transport.Overlapped

/-!
# Who holds what during an overlapped operation

The points of the issuing thread fall into phases, and each phase says which resources
exist, whether the kernel may hold the request, and whether the callback is registered.
From that follows, for every order in which thread, kernel and stop requests take their
turns: nothing is used before it exists or after it is gone, and a call that has returned
leaves nothing behind. The drain in the destructor is never needed.
-/

namespace PipeForge.Transport
open Library

/-- How far a call has come: 5 while its request is pending, 6 and more on the way out. -/
def OperationPoint.phase : OperationPoint → Nat
  | .entered => 0
  | .creatingCompleted => 1
  | .creatingCancelled => 2
  | .registering => 3
  | .issuing => 4
  | .arming | .waiting _ | .cancelling _ | .completing _ _ | .abandoning _ _ => 5
  | .leaving _ | .fallback _ | .unregistering _ => 6
  | .closingCancelled _ => 7
  | .closingCompleted _ => 8
  | .freeing _ => 9
  | .returned _ => 10

/-- The drain in the destructor. -/
def OperationPoint.fallsBack : OperationPoint → Bool
  | .fallback _ => true
  | _ => false

/-- An event is open between two phases; a call that failed early never had it. -/
def EventHandle.fits (opens closes phase : Nat) : EventHandle → Prop
  | .empty => phase < opens ∨ 6 ≤ phase
  | .opened => opens ≤ phase ∧ phase ≤ closes
  | .closed => closes < phase

/-- The kernel has the request in phase 5 only. -/
def Request.fits (phase : Nat) : Request → Prop
  | .none => phase ≠ 5
  | .outstanding => phase = 5
  | .finished _ _ => 5 ≤ phase

def CallbackState.fits (phase : Nat) (event : EventHandle) : CallbackState → Prop
  | .absent => phase < 4 ∨ 6 ≤ phase
  | _ => 4 ≤ phase ∧ phase ≤ 6 ∧ event = .opened

section
variable {opens closes n m : Nat}

/-- An event that is left alone stays in order if neither bound is crossed with it. -/
theorem EventHandle.fits.later {handle : EventHandle} (fits : handle.fits opens closes n)
    (route : opens ≤ closes ∧ ((n < opens ∧ (m < opens ∨ 6 ≤ m)) ∨
      (opens ≤ n ∧ opens ≤ m ∧ (n ≤ closes ↔ m ≤ closes) ∧ (6 ≤ n → 6 ≤ m)))) :
    handle.fits opens closes m := by
  cases handle with
  | empty =>
    simp only [EventHandle.fits] at fits ⊢
    omega
  | opened =>
    simp only [EventHandle.fits] at fits ⊢
    omega
  | closed =>
    simp only [EventHandle.fits] at fits ⊢
    omega

/-- The request may stay as it is on any way around the phase in which the kernel has it. -/
theorem Request.fits.later {request : Request} (fits : request.fits n)
    (route : n ≠ 5 ∧ m ≠ 5 ∧ (5 ≤ n → 5 ≤ m)) : request.fits m := by
  cases request with
  | none => exact route.2.1
  | outstanding => exact absurd fits route.1
  | finished code transferred => exact route.2.2 fits

/-- A registered callback lives through phases 4 to 6 and must be gone after them. -/
theorem CallbackState.fits.later {callback : CallbackState} {event : EventHandle}
    (fits : callback.fits n event)
    (route : (n < 4 ∧ (m < 4 ∨ 6 ≤ m)) ∨ (4 ≤ n ∧ n ≤ 5 ∧ 4 ≤ m ∧ m ≤ 6) ∨ (6 < n ∧ 6 ≤ m)) :
    callback.fits m event := by
  cases callback with
  | absent =>
    simp only [CallbackState.fits] at fits ⊢
    omega
  | _ =>
    obtain ⟨lower, upper, open_⟩ := fits
    exact ⟨by omega, by omega, open_⟩

end

namespace Operation

structure Holds (phase : Nat) (o : Operation) : Prop where
  storage : o.storage = decide (1 ≤ phase ∧ phase ≤ 9)
  pending : o.pending = decide (phase = 5)
  request : o.request.fits phase
  completed : o.completed.fits 2 8 phase
  cancelled : o.cancelled.fits 3 7 phase
  callback : o.callback.fits phase o.cancelled
  /-- A stop that came during the operation is in the event or on its way there. -/
  heard : 4 ≤ phase → phase ≤ 5 → o.stopping = true → o.callback = .running ∨ o.signalled = true
  asked : o.signalled = true ∨ o.callback = .running → o.stopping = true
  unasked : o.callback = .registered → o.stopping = false
  told : o.callback = .done → o.signalled = true

/-- The invariant of a call. -/
structure Owned (o : Operation) : Prop where
  holds : Holds o.point.phase o
  safe : o.point.fallsBack = false

namespace Holds
variable {phase : Nat} {o : Operation}

/-- The operation record is there from its allocation until it is freed. -/
theorem storageLive (holds : Holds phase o) (lower : 1 ≤ phase) (upper : phase ≤ 9) :
    o.touchStorage.live = true := by
  rw [touchStorage, holds.storage]
  exact decide_eq_true ⟨lower, upper⟩

/-- From its creation until the end of the request the completion event is open. -/
theorem completedOpened (holds : Holds phase o) (lower : 2 ≤ phase) (upper : phase ≤ 5) :
    o.completed = .opened := by
  have fits := holds.completed
  cases event : o.completed with
  | opened => rfl
  | empty =>
    rw [event, EventHandle.fits] at fits
    omega
  | closed =>
    rw [event, EventHandle.fits] at fits
    omega

theorem cancelledOpened (holds : Holds phase o) (lower : 3 ≤ phase) (upper : phase ≤ 5) :
    o.cancelled = .opened := by
  have fits := holds.cancelled
  cases event : o.cancelled with
  | opened => rfl
  | empty =>
    rw [event, EventHandle.fits] at fits
    omega
  | closed =>
    rw [event, EventHandle.fits] at fits
    omega

theorem completedLive (holds : Holds phase o) (lower : 2 ≤ phase) (upper : phase ≤ 5) :
    o.touchCompleted.live = true := by
  rw [touchCompleted, holds.completedOpened lower upper]
  rfl

theorem cancelledLive (holds : Holds phase o) (lower : 3 ≤ phase) (upper : phase ≤ 5) :
    o.touchCancelled.live = true := by
  rw [touchCancelled, holds.cancelledOpened lower upper]
  rfl

/-- Where the thread stands inside a phase does not matter. -/
theorem move (holds : Holds phase o) (point : OperationPoint) : Holds phase { o with point } :=
  { holds with }

/-! ### From phase to phase -/

/-- The ways that change neither the events nor the request. -/
theorem advance (holds : Holds phase o) (next : Nat)
    (way : (phase, next) ∈ [(0, 1), (0, 10), (1, 6), (2, 6), (4, 6), (9, 10)]) {storage : Bool}
    (stored : storage = decide (1 ≤ next ∧ next ≤ 9)) : Holds next { o with storage } := by
  simp only [List.mem_cons, Prod.mk.injEq, List.not_mem_nil, or_false] at way
  exact {
    storage := stored
    pending := by
      rw [holds.pending]
      exact decide_eq_decide.mpr (by omega)
    request := holds.request.later (by omega)
    completed := holds.completed.later (by omega)
    cancelled := holds.cancelled.later (by omega)
    callback := holds.callback.later (by omega)
    heard := fun lower upper => by omega
    asked := holds.asked
    unasked := holds.unasked
    told := holds.told }

theorem openCompleted (holds : Holds 1 o) : Holds 2 { o with completed := .opened } where
  storage := holds.storage
  pending := holds.pending
  request := holds.request.later (by decide)
  completed := by simp [EventHandle.fits]
  cancelled := holds.cancelled.later (by decide)
  callback := holds.callback.later (by decide)
  heard := nofun
  asked := holds.asked
  unasked := holds.unasked
  told := holds.told

theorem openCancelled (holds : Holds 2 o) : Holds 3 { o with cancelled := .opened } where
  storage := holds.storage
  pending := holds.pending
  request := holds.request.later (by decide)
  completed := holds.completed.later (by decide)
  cancelled := by simp [EventHandle.fits]
  callback := by
    have absent := holds.callback
    cases state : o.callback with
    | absent => simp [CallbackState.fits]
    | _ =>
      rw [state, CallbackState.fits] at absent
      · omega
      · exact nofun
  heard := by omega
  asked := holds.asked
  unasked := holds.unasked
  told := holds.told

/-- The callback is registered for a stop to come. -/
theorem register (holds : Holds 3 o) (calm : o.stopping = false) :
    Holds 4 { o with callback := .registered } where
  storage := holds.storage
  pending := holds.pending
  request := holds.request.later (by decide)
  completed := holds.completed.later (by decide)
  cancelled := holds.cancelled.later (by decide)
  callback := ⟨by decide, by decide, holds.cancelledOpened (by decide) (by decide)⟩
  heard _ _ stopped := by
    rw [calm] at stopped
    cases stopped
  asked signalled := by
    rcases signalled with signalled | running
    · exact holds.asked (Or.inl signalled)
    · cases running
  unasked _ := calm
  told := nofun

/-- The stop came first. -/
theorem registerLate (holds : Holds 3 o) (stopped : o.stopping = true) :
    Holds 4 { o with callback := .done, signalled := true } where
  storage := holds.storage
  pending := holds.pending
  request := holds.request.later (by decide)
  completed := holds.completed.later (by decide)
  cancelled := holds.cancelled.later (by decide)
  callback := ⟨by decide, by decide, holds.cancelledOpened (by decide) (by decide)⟩
  heard _ _ _ := Or.inr rfl
  asked _ := stopped
  unasked := nofun
  told _ := rfl

/-- When the request is pending, the kernel owns the buffer until it is finished. -/
theorem issuePending (holds : Holds 4 o) :
    Holds 5 { o with pending := true, request := .outstanding } where
  storage := holds.storage
  pending := rfl
  request := rfl
  completed := holds.completed.later (by decide)
  cancelled := holds.cancelled.later (by decide)
  callback := holds.callback.later (by decide)
  heard _ _ := holds.heard (by decide) (by decide)
  asked := holds.asked
  unasked := holds.unasked
  told := holds.told

/-- The kernel has carried the request out at once. -/
theorem issueFinished (holds : Holds 4 o) {transferred : Nat} :
    Holds 6 { o with request := .succeeded transferred } where
  storage := holds.storage
  pending := holds.pending
  request := by simp [Request.succeeded, Request.fits]
  completed := holds.completed.later (by decide)
  cancelled := holds.cancelled.later (by decide)
  callback := holds.callback.later (by decide)
  heard := by omega
  asked := holds.asked
  unasked := holds.unasked
  told := holds.told

/-- The request is over, and with it the kernel's hold on the storage. -/
theorem settle (holds : Holds 5 o) (finished : o.request.isFinished = true) :
    Holds 6 { o with pending := false } where
  storage := holds.storage
  pending := rfl
  request := by
    cases request : o.request with
    | finished code transferred => simp [Request.fits]
    | _ =>
      rw [request] at finished
      cases finished
  completed := holds.completed.later (by decide)
  cancelled := holds.cancelled.later (by decide)
  callback := holds.callback.later (by decide)
  heard := by omega
  asked := holds.asked
  unasked := holds.unasked
  told := holds.told

/-- Unregistering waits for a callback that runs, so afterwards none can touch the event. -/
theorem unregister (holds : Holds 6 o) : Holds 7 { o with callback := .absent } where
  storage := holds.storage
  pending := holds.pending
  request := holds.request.later (by decide)
  completed := holds.completed.later (by decide)
  cancelled := holds.cancelled.later (by decide)
  callback := by simp [CallbackState.fits]
  heard := by omega
  asked signalled := by
    rcases signalled with signalled | running
    · exact holds.asked (Or.inl signalled)
    · cases running
  unasked := nofun
  told := nofun

/-- Behind the callback the event `cancelled_` is the thread's alone. -/
theorem alone (holds : Holds phase o) (late : 7 ≤ phase) : o.callback = .absent := by
  have fits := holds.callback
  cases state : o.callback with
  | absent => rfl
  | _ =>
    rw [state, CallbackState.fits] at fits
    · omega
    · exact nofun

/-- The cancellation event is closed when nobody can signal it any more. -/
theorem closeCancelled (holds : Holds 7 o) (handle : EventHandle)
    (closed : handle = if o.cancelled = .empty then .empty else .closed) :
    Holds 8 { o with cancelled := handle } where
  storage := holds.storage
  pending := holds.pending
  request := holds.request.later (by decide)
  completed := holds.completed.later (by decide)
  cancelled := by
    rw [closed]
    split <;> simp [EventHandle.fits]
  callback := by
    rw [holds.alone (by decide)]
    simp [CallbackState.fits]
  heard := by omega
  asked := holds.asked
  unasked := holds.unasked
  told := holds.told

/-- The completion event is closed when the kernel has let go of the request. -/
theorem closeCompleted (holds : Holds 8 o) (handle : EventHandle)
    (closed : handle = if o.completed = .empty then .empty else .closed) :
    Holds 9 { o with completed := handle } where
  storage := holds.storage
  pending := holds.pending
  request := holds.request.later (by decide)
  completed := by
    rw [closed]
    split <;> simp [EventHandle.fits]
  cancelled := holds.cancelled.later (by decide)
  callback := holds.callback.later (by decide)
  heard := by omega
  asked := holds.asked
  unasked := holds.unasked
  told := holds.told

/-! ### The other parties -/

/-- A stop finds the callback registered and starts it, or finds none. -/
theorem requestStop (holds : Holds phase o) : Holds phase o.requestStop := by
  by_cases registered : o.callback = .registered
  · have begun : o.requestStop = { o with stopping := true, callback := .running } := by
      simp [Operation.requestStop, registered]
    have fits := holds.callback
    rw [registered] at fits
    rw [begun]
    exact { holds with
      callback := fits
      heard := fun _ _ _ => Or.inl rfl
      asked := fun _ => rfl
      unasked := nofun
      told := nofun }
  · have kept : o.requestStop = { o with stopping := true } := by
      simp [Operation.requestStop, registered]
    rw [kept]
    exact { holds with
      heard := fun lower upper _ => by
        have fits := holds.callback
        cases state : o.callback with
        | absent =>
          rw [state, CallbackState.fits] at fits
          omega
        | registered => exact absurd state registered
        | running => exact Or.inl rfl
        | done => exact Or.inr (holds.told state)
      asked := fun _ => rfl
      unasked := fun state => absurd state registered }

/-- The callback signals an event that is still open. -/
theorem callbackRuns (holds : Holds phase o) (running : o.callback = .running) :
    Holds phase { o with callback := .done, signalled := true } := by
  have fits := holds.callback
  rw [running] at fits
  exact { holds with
    callback := fits
    heard := fun _ _ _ => Or.inr rfl
    asked := fun _ => holds.asked (Or.inr running)
    unasked := nofun
    told := fun _ => rfl }

/-- The kernel may finish the request at any time it has it. -/
theorem finish (holds : Holds phase o) (outstanding : o.request = .outstanding) (code : FinalCode)
    (transferred : Nat) : Holds phase { o with request := .finished code transferred } := by
  have fits := holds.request
  rw [outstanding] at fits
  exact { holds with request := Nat.le_of_eq fits.symm }

end Holds

/-! ## Every step -/

section
variable {call : Call} {deadline : Time} {o : Operation}

/-- What a step has to show: the invariant again, and that it used only what exists. -/
structure Sound (next : Operation × List Access) : Prop where
  owned : Owned next.1
  live : ∀ access ∈ next.2, access.live = true

theorem Owned.stay (owned : Owned o) : Sound (o, []) := ⟨owned, nofun⟩

/-- The drain in the destructor is never reached. -/
theorem Owned.unreached (owned : Owned o) (result : Result Nat) : o.point ≠ .fallback result := by
  intro here
  have safe := owned.safe
  rw [here] at safe
  cases safe

theorem Owned.at_ (owned : Owned o) {point : OperationPoint} (here : o.point = point) :
    Holds point.phase o := here ▸ owned.holds

/-- In front of and inside a request, operation and event are there. -/
theorem Holds.touched {phase : Nat} (holds : Holds phase o) (lower : 2 ≤ phase) (upper : phase ≤ 5) :
    ∀ access ∈ [o.touchStorage, o.touchCompleted], access.live = true := by
  simp only [List.forall_mem_cons, List.not_mem_nil, IsEmpty.forall_iff, implies_true, and_true]
  exact ⟨holds.storageLive (by omega) (by omega), holds.completedLive lower upper⟩

theorem Owned.requestStop (owned : Owned o) : Sound (o.requestStop, []) :=
  ⟨⟨owned.holds.requestStop, owned.safe⟩, nofun⟩

theorem Owned.callbackRuns (owned : Owned o) : Sound o.callbackRuns := by
  unfold Operation.callbackRuns
  split
  · rename_i running
    refine ⟨⟨owned.holds.callbackRuns running, owned.safe⟩, ?_⟩
    have fits := owned.holds.callback
    rw [running] at fits
    simp [touchCancelled, fits.2.2]
  · exact owned.stay

/-- The kernel writes to the operation while it is still there. -/
theorem Owned.finish (owned : Owned o) (code : FinalCode) (transferred : Nat) :
    Sound (o.finish call code transferred) := by
  unfold Operation.finish
  split
  · rename_i outstanding
    split
    · refine ⟨⟨owned.holds.finish outstanding code transferred, owned.safe⟩, ?_⟩
      have flying := owned.holds.request
      rw [outstanding] at flying
      exact owned.holds.touched (by rw [flying]; decide) (by rw [flying])
    · exact owned.stay
  · exact owned.stay

theorem Owned.enter (owned : Owned o) : Sound (o.enter deadline, []) := by
  unfold Operation.enter
  split
  · rename_i here
    have holds : Holds 0 o := owned.at_ here
    split
    · exact ⟨⟨(holds.advance 10 (by decide) holds.storage).move _, rfl⟩, nofun⟩
    · exact ⟨⟨(holds.advance 1 (by decide) rfl).move _, rfl⟩, nofun⟩
  · exact owned.stay

theorem Owned.createCompleted (owned : Owned o) (error : Option ErrorCode) :
    Sound (o.createCompleted error, []) := by
  unfold Operation.createCompleted
  split
  · rename_i here
    have holds : Holds 1 o := owned.at_ here
    exact ⟨⟨(holds.advance 6 (by decide) holds.storage).move _, rfl⟩, nofun⟩
  · rename_i here
    exact ⟨⟨(owned.at_ here).openCompleted.move _, rfl⟩, nofun⟩
  · exact owned.stay

theorem Owned.createCancelled (owned : Owned o) (error : Option ErrorCode) :
    Sound (o.createCancelled error, []) := by
  unfold Operation.createCancelled
  split
  · rename_i here
    have holds : Holds 2 o := owned.at_ here
    exact ⟨⟨(holds.advance 6 (by decide) holds.storage).move _, rfl⟩, nofun⟩
  · rename_i here
    exact ⟨⟨(owned.at_ here).openCancelled.move _, rfl⟩, nofun⟩
  · exact owned.stay

/-- Registering with a stop that was already requested runs the callback at once. -/
theorem Owned.register (owned : Owned o) : Sound o.register := by
  unfold Operation.register
  split
  · rename_i here
    have holds : Holds 3 o := owned.at_ here
    split
    · rename_i stopped
      refine ⟨⟨(holds.registerLate stopped).move _, rfl⟩, ?_⟩
      simpa using holds.cancelledLive (by decide) (by decide)
    · rename_i calm
      exact ⟨⟨(holds.register (Bool.eq_false_iff.mpr calm)).move _, rfl⟩, nofun⟩
  · exact owned.stay

/-- A request that is pending goes on to the wait, any other outcome leaves at once. -/
theorem Owned.issue (owned : Owned o) (outcome : Except ErrorCode Nat) :
    Sound (o.issue call outcome) := by
  unfold Operation.issue
  split
  · rename_i here
    have holds : Holds 4 o := owned.at_ here
    have touched := holds.touched (by decide) (by decide)
    have out := holds.advance 6 (by decide) holds.storage
    split
    · split
      · exact ⟨⟨holds.issueFinished.move _, rfl⟩, touched⟩
      · exact owned.stay
    · split
      · exact ⟨⟨out.move _, rfl⟩, touched⟩
      · split
        · exact ⟨⟨out.move _, rfl⟩, touched⟩
        · exact ⟨⟨holds.issuePending.move _, rfl⟩, touched⟩
  · exact owned.stay

theorem Owned.arm (owned : Owned o) : Sound (o.arm deadline, []) := by
  unfold Operation.arm
  split
  · rename_i here
    exact ⟨⟨(owned.at_ here).move _, rfl⟩, nofun⟩
  · exact owned.stay

/-- A wait that ended goes on to the result, or to the cancellation. -/
theorem Owned.wake (owned : Owned o) (wake : WakeResult) : Sound (o.wake wake) := by
  unfold Operation.wake
  split
  · rename_i here
    have holds : Holds 5 o := owned.at_ here
    refine ⟨⟨?_, ?_⟩, ?_⟩
    · dsimp only
      split
      · exact holds.move _
      · exact holds.move _
    · dsimp only
      split
      · rfl
      · rfl
    · simpa using ⟨holds.completedLive (by decide) (by decide),
        holds.cancelledLive (by decide) (by decide)⟩
  · exact owned.stay

/-- Cancellation is asked for while the request is still with the kernel. -/
theorem Owned.cancel (owned : Owned o) (error : UInt32) : Sound (o.cancel error) := by
  unfold Operation.cancel
  split
  · rename_i here
    have holds : Holds 5 o := owned.at_ here
    refine ⟨⟨holds.move _, rfl⟩, ?_⟩
    simpa using holds.storageLive (by decide) (by decide)
  · exact owned.stay

theorem status_incomplete {request : Request} {code : UInt32} (status : request.status = .error code) :
    code = errorIoIncomplete ∨ request.isFinished = true := by
  cases request with
  | finished code transferred => exact Or.inr rfl
  | _ =>
    cases status
    exact Or.inl rfl

/-- A count is reported for a request the kernel has finished. -/
theorem status_ok {request : Request} {transferred : Nat} (status : request.status = .ok transferred) :
    request = .succeeded transferred := by
  cases request with
  | finished code moved =>
    obtain ⟨value, final⟩ := code
    by_cases success : value = errorSuccess
    · subst success
      cases status
      rfl
    · simp [Request.status, success] at status
  | _ => cases status

/-- `complete` leaves phase 5 only behind the kernel. -/
theorem Owned.complete (owned : Owned o) : Sound o.complete := by
  unfold Operation.complete
  split
  · rename_i here
    have holds : Holds 5 o := owned.at_ here
    have touched := holds.touched (by decide) (by decide)
    split
    · exact owned.stay
    · split
      · rename_i status
        have finished : o.request.isFinished = true := by
          rw [status_ok status]
          rfl
        exact ⟨⟨(holds.settle finished).move _, rfl⟩, touched⟩
      · rename_i code status
        split
        · exact ⟨⟨holds.move _, rfl⟩, touched⟩
        · rename_i other
          have finished := (status_incomplete status).resolve_left other
          exact ⟨⟨(holds.settle finished).move _, rfl⟩, touched⟩
  · exact owned.stay

/-- The drain blocks until the request is final, and only then is the way out open. -/
theorem Owned.drain (owned : Owned o) : Sound o.drain := by
  unfold Operation.drain
  split
  · rename_i here finished
    have holds : Holds 5 o := owned.at_ here
    exact ⟨⟨(holds.settle (by rw [finished]; rfl)).move _, rfl⟩,
      holds.touched (by decide) (by decide)⟩
  · rename_i here _
    exact absurd here (owned.unreached _)
  · exact owned.stay

/-- The destructor finds no request pending. -/
theorem Owned.destroy (owned : Owned o) : Sound (o.destroy, []) := by
  unfold Operation.destroy
  split
  · rename_i here
    have holds : Holds 6 o := owned.at_ here
    have settled : ¬ o.pending = true := by
      rw [holds.pending]
      exact nofun
    rw [if_neg settled]
    exact ⟨⟨holds.move _, rfl⟩, nofun⟩
  · exact owned.stay

theorem Owned.unregister (owned : Owned o) : Sound (o.unregister, []) := by
  unfold Operation.unregister
  split
  · rename_i here
    split
    · exact owned.stay
    · exact ⟨⟨(owned.at_ here).unregister.move _, rfl⟩, nofun⟩
  · exact owned.stay

theorem Owned.closeCancelled (owned : Owned o) : Sound o.closeCancelled := by
  unfold Operation.closeCancelled
  split
  · rename_i here
    have holds : Holds 7 o := owned.at_ here
    have fits := holds.cancelled
    split
    · rename_i empty
      have closed := holds.closeCancelled o.cancelled (by simp [empty])
      exact ⟨⟨closed.move _, rfl⟩, nofun⟩
    · rename_i present
      have closed := holds.closeCancelled .closed (by simp [present])
      refine ⟨⟨closed.move _, rfl⟩, ?_⟩
      cases event : o.cancelled with
      | empty => exact absurd event present
      | opened => simp [touchCancelled, event]
      | closed =>
        rw [event] at fits
        exact absurd fits (Nat.lt_irrefl 7)
  · exact owned.stay

theorem Owned.closeCompleted (owned : Owned o) : Sound o.closeCompleted := by
  unfold Operation.closeCompleted
  split
  · rename_i here
    have holds : Holds 8 o := owned.at_ here
    have fits := holds.completed
    split
    · rename_i empty
      have closed := holds.closeCompleted o.completed (by simp [empty])
      exact ⟨⟨closed.move _, rfl⟩, nofun⟩
    · rename_i present
      have closed := holds.closeCompleted .closed (by simp [present])
      refine ⟨⟨closed.move _, rfl⟩, ?_⟩
      cases event : o.completed with
      | empty => exact absurd event present
      | opened => simp [touchCompleted, event]
      | closed =>
        rw [event] at fits
        exact absurd fits (Nat.lt_irrefl 8)
  · exact owned.stay

theorem Owned.free (owned : Owned o) : Sound (o.free, []) := by
  unfold Operation.free
  split
  · rename_i here
    have holds : Holds 9 o := owned.at_ here
    exact ⟨⟨(holds.advance 10 (by decide) rfl).move _, rfl⟩, nofun⟩
  · exact owned.stay

theorem Owned.initial (start : Time) (stopping : Bool) :
    Owned { now := start, stopping } where
  holds := by
    constructor <;> simp [OperationPoint.phase, Request.fits, EventHandle.fits, CallbackState.fits]
  safe := rfl

/-- Each step keeps ownership and touches only what exists. -/
theorem Owned.step (call : Call) (deadline : Time) (owned : Owned o) (action : OperationAction) :
    Sound (o.step call deadline action) := by
  cases action with
  | tick elapsed => exact ⟨⟨{ owned.holds with }, owned.safe⟩, nofun⟩
  | requestStop => exact owned.requestStop
  | callbackRuns => exact owned.callbackRuns
  | finish code transferred => exact owned.finish code transferred
  | enter => exact owned.enter
  | createCompleted error => exact owned.createCompleted error
  | createCancelled error => exact owned.createCancelled error
  | register => exact owned.register
  | issue outcome => exact owned.issue outcome
  | arm => exact owned.arm
  | wake wake => exact owned.wake wake
  | cancel error => exact owned.cancel error
  | complete => exact owned.complete
  | drain => exact owned.drain
  | destroy => exact owned.destroy
  | unregister => exact owned.unregister
  | closeCancelled => exact owned.closeCancelled
  | closeCompleted => exact owned.closeCompleted
  | free => exact owned.free

/-- In no run is a handle or the record touched before it exists or after it is gone. -/
theorem run_owned (call : Call) (deadline start : Time) (stopping : Bool)
    (actions : List OperationAction) :
    Owned (run call deadline start stopping actions).1 ∧
      ∀ access ∈ (run call deadline start stopping actions).2, access.live = true := by
  apply Transition.run_invariant (Operation.step call deadline)
    (fun o past => Owned o ∧ ∀ access ∈ past, access.live = true) _ []
  · exact ⟨.initial start stopping, nofun⟩
  · intro o past action before
    have sound := before.1.step call deadline action
    refine ⟨sound.owned, fun access used => ?_⟩
    rcases List.mem_append.mp used with earlier | now
    · exact before.2 access earlier
    · exact sound.live access now

/-- What a call that has returned leaves behind. -/
structure Released (o : Operation) : Prop where
  request : o.request ≠ .outstanding
  pending : o.pending = false
  storage : o.storage = false
  events : o.completed ≠ .opened ∧ o.cancelled ≠ .opened
  callback : o.callback = .absent

/-- A call that has returned has left nothing behind. -/
theorem Holds.released (holds : Holds 10 o) : Released o where
  request outstanding := by
    have fits := holds.request
    rw [outstanding] at fits
    cases fits
  pending := holds.pending
  storage := holds.storage
  events := by
    constructor
    · intro open_
      have fits := holds.completed
      rw [open_] at fits
      exact absurd fits.2 (by decide)
    · intro open_
      have fits := holds.cancelled
      rw [open_] at fits
      exact absurd fits.2 (by decide)
  callback := holds.alone (by decide)

end

end Operation

/-- In every order of thread, kernel and stop requests: no storage and no event is used
when it is not there, the call returns only when the kernel has let go of the request and
everything is released, and it never needs the drain in the destructor. -/
theorem overlapped_resources_live (call : Call) (deadline start : Time) (stopping : Bool)
    (actions : List OperationAction) :
    let ended := Operation.run call deadline start stopping actions
    (∀ access ∈ ended.2, access.live = true) ∧
      (∀ result, ended.1.point = .returned result → ended.1.Released) ∧
      ∀ result, ended.1.point ≠ .fallback result := by
  obtain ⟨owned, live⟩ := Operation.run_owned call deadline start stopping actions
  exact ⟨live, fun result back => (owned.at_ back).released, owned.unreached⟩

end PipeForge.Transport
