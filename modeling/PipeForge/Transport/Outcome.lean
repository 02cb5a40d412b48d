import PipeForge.Transport.Ownership

/-!
# What an overlapped operation reports

A success is what the kernel did, to the byte. A failure is one of the clock, of a stop
or of the kernel: if waits are as documented, a timeout is not reported before the
deadline, and a cancellation only after a stop or when the kernel aborted the request. A
failure does not say that nothing was moved: a request may be cancelled too late.

A deadline that is further away than the longest finite wait is the exception:
`remaining` cuts it, and `resolve_pending` reports the end of the cut wait as a timeout.
-/

namespace PipeForge.Transport
open Library

/-- 2^32 - 2 milliseconds, about 49.7 days. -/
def longestWait : Nat := largestWait * ticksPerMillisecond

/-- The deadline has passed; or it was finite but further away than the longest wait when
the call began, and that wait has passed instead. -/
def Late (deadline start now : Time) : Prop :=
  deadline ≤ now ∨
    (deadline ≠ deadlineMax ∧ start + longestWait < deadline ∧ start + longestWait ≤ now)

/-- The result of a call for the state it was decided in. What it says of the clock and of
stops is as good as the waits are: `trusted` stands for that. -/
structure Reported (trusted : Prop) (call : Call) (deadline start now : Time) (stopping : Bool)
    (request : Request) (result : Result Nat) : Prop where
  /-- What a success counts has been moved, and fits into the buffer. -/
  moved : ∀ count, result = .ok count → count ≤ call.count ∧
    (request = .succeeded count ∨ call = .accept ∧ count = 0)
  native : ∀ error, result = .error error → error.framing = none ∧
    error.kind ≠ .protocolViolation ∧ error.kind ≠ .invalidConfiguration
  timeout : trusted → ∀ error, result = .error error → error.kind = .timeout →
    Late deadline start now
  cancelled : trusted → ∀ error, result = .error error → error.kind = .cancelled →
    stopping = true ∨ error.nativeError = errorOperationAborted

section
variable {trusted : Prop} {call : Call} {deadline start now now' : Time} {stopping stopping' : Bool}
  {request request' : Request} {result : Result Nat}

/-- Late stays late. -/
theorem Late.later (late : Late deadline start now) (on : now ≤ now') : Late deadline start now' :=
  late.imp on.trans' (And.imp_right (And.imp_right on.trans'))

/-- The cut wait is an excuse for distant deadlines only. -/
theorem Late.of_cut (ends : deadline ≠ deadlineMax) (cut : start + longestWait ≤ now) :
    Late deadline start now := by
  rcases Nat.lt_or_ge (start + longestWait) deadline with distant | near
  · exact Or.inr ⟨ends, distant, cut⟩
  · exact Or.inl (near.trans cut)

/-- A result that was true when it was decided is true when it is handed on. -/
theorem Reported.later (reported : Reported trusted call deadline start now stopping request result)
    (on : now ≤ now') (stays : stopping = true → stopping' = true)
    (kept : ∀ code count, request = .finished code count → request' = .finished code count) :
    Reported trusted call deadline start now' stopping' request' result where
  moved count success := by
    obtain ⟨small, done⟩ := reported.moved count success
    exact ⟨small, done.imp_left (kept _ _)⟩
  native := reported.native
  timeout yes error failed kind := (reported.timeout yes error failed kind).later on
  cancelled yes error failed kind := (reported.cancelled yes error failed kind).imp_left stays

/-- A code of the kernel. -/
theorem reported_code (code : UInt32) :
    Reported trusted call deadline start now stopping request (.error (ioFailure code)) := by
  have kinds := ioFailure_kind code
  refine ⟨nofun, ?_, ?_, ?_⟩
  · rintro error ⟨⟩
    refine ⟨ioFailure_framing code, fun kind => ?_, fun kind => ?_⟩
    · simp [kind] at kinds
    · simp [kind] at kinds
  · rintro - error ⟨⟩ kind
    simp [kind] at kinds
  · rintro - error ⟨⟩ kind
    right
    rw [ioFailure_nativeError]
    exact ioFailure_cancelled code kind

/-- A refusal before the call is a fact of the clock or of the stop. -/
theorem reported_preflight {error : Failure}
    (refused : preflight stopping now deadline = some error) :
    Reported trusted call deadline start now stopping request (.error error) := by
  rcases preflight_kind refused with ⟨rfl, stopped⟩ | ⟨rfl, -, late⟩
  · refine ⟨nofun, ?_, ?_, ?_⟩
    · rintro _ ⟨⟩
      exact ⟨rfl, nofun, nofun⟩
    · rintro - _ ⟨⟩ ⟨⟩
    · exact fun _ _ _ _ => Or.inl stopped
  · refine ⟨nofun, ?_, ?_, ?_⟩
    · rintro _ ⟨⟩
      exact ⟨rfl, nofun, nofun⟩
    · exact fun _ _ _ _ => Or.inl late
    · rintro - _ ⟨⟩ ⟨⟩

/-- What the wait has seen. -/
structure WakeFits (deadline start now : Time) (stopping : Bool) (wake : WakeResult) : Prop where
  expired : wake.reason = .expired → Late deadline start now
  stopped : wake.reason = .stopped → stopping = true

/-- `resolve_pending` passes a drained result on, or names the reason the wait ended. -/
theorem reported_resolved {wake : WakeResult}
    (fits : trusted → WakeFits deadline start now stopping wake) (cancellationError : UInt32)
    {drained : Result Nat}
    (reported : Reported trusted call deadline start now stopping request drained) :
    Reported trusted call deadline start now stopping request
      (resolvePending wake cancellationError drained) := by
  unfold resolvePending
  split
  · exact reported
  · refine ⟨nofun, ?_, ?_, ?_⟩
    · rintro _ ⟨⟩
      cases wake.reason <;> exact ⟨rfl, nofun, nofun⟩
    · rintro yes _ ⟨⟩ kind
      cases reason : wake.reason with
      | expired => exact (fits yes).expired reason
      | _ => simp [reason] at kind
    · rintro yes _ ⟨⟩ kind
      cases reason : wake.reason with
      | stopped => exact Or.inl ((fits yes).stopped reason)
      | _ => simp [reason] at kind

end

/-- What the thread has in its hands at a point. -/
def OperationPoint.limit : OperationPoint → Option Time
  | .waiting expires => expires
  | _ => none

def OperationPoint.wake : OperationPoint → Option WakeResult
  | .cancelling wake | .completing wake _ | .abandoning wake _ => some wake
  | _ => none

def OperationPoint.result : OperationPoint → Option (Result Nat)
  | .leaving result | .fallback result | .unregistering result | .closingCancelled result
  | .closingCompleted result | .freeing result | .returned result => some result
  | _ => none

namespace Operation

structure Honest (trusted : Prop) (call : Call) (deadline start : Time) (o : Operation) : Prop where
  clock : start ≤ o.now
  counted : ∀ code count, o.request = .finished code count → count ≤ call.count
  limits : ∀ limit ∈ o.point.limit, Late deadline start limit
  wakes : ∀ wake ∈ o.point.wake, trusted → WakeFits deadline start o.now o.stopping wake
  reports : ∀ result ∈ o.point.result,
    Reported trusted call deadline start o.now o.stopping o.request result

namespace Honest
variable {trusted : Prop} {call : Call} {deadline start : Time} {o : Operation}

/-- The other parties take nothing back. -/
theorem later (honest : Honest trusted call deadline start o) {o' : Operation} (same : o'.point = o.point)
    (on : o.now ≤ o'.now) (stays : o.stopping = true → o'.stopping = true)
    (counted : ∀ code count, o'.request = .finished code count → count ≤ call.count)
    (kept : ∀ code count, o.request = .finished code count → o'.request = .finished code count) :
    Honest trusted call deadline start o' where
  clock := honest.clock.trans on
  counted := counted
  limits := same ▸ honest.limits
  wakes wake seen yes := by
    have fits := honest.wakes wake (same ▸ seen) yes
    exact ⟨fun expired => (fits.expired expired).later on, fun stopped => stays (fits.stopped stopped)⟩
  reports result given := (honest.reports result (same ▸ given)).later on stays kept

/-- The thread moves with nothing new to tell. -/
theorem move (honest : Honest trusted call deadline start o) (point : OperationPoint)
    (limit : point.limit = none) (wake : point.wake = none ∨ point.wake = o.point.wake)
    (result : point.result = none ∨ point.result = o.point.result) :
    Honest trusted call deadline start { o with point } where
  clock := honest.clock
  counted := honest.counted
  limits other given := by
    rw [limit] at given
    cases given
  wakes other given := by
    rcases wake with none | same
    · rw [none] at given
      cases given
    · exact honest.wakes other (same ▸ given)
  reports other given := by
    rcases result with none | same
    · rw [none] at given
      cases given
    · exact honest.reports other (same ▸ given)

/-- The thread has decided on a result. -/
theorem report (honest : Honest trusted call deadline start o) {result : Result Nat}
    (reported : Reported trusted call deadline start o.now o.stopping o.request result) :
    Honest trusted call deadline start { o with point := .leaving result } where
  clock := honest.clock
  counted := honest.counted
  limits := nofun
  wakes := nofun
  reports other given := by
    cases given
    exact reported

/-- Flags, events and storage do not matter here. -/
theorem same (honest : Honest trusted call deadline start o) (pending storage signalled : Bool)
    (completed cancelled : EventHandle) (callback : CallbackState) :
    Honest trusted call deadline start
      { o with pending, storage, signalled, completed, cancelled, callback } :=
  { honest with }

/-- The kernel may finish the request at any moment; what the thread has in its hands does not
depend on it. -/
theorem finish (honest : Honest trusted call deadline start o) (code : FinalCode) (transferred : Nat) :
    Honest trusted call deadline start (o.finish call code transferred).1 := by
  unfold Operation.finish
  split
  · rename_i outstanding
    split
    · rename_i small
      refine honest.later rfl le_rfl id ?_ ?_
      · rintro _ _ ⟨⟩
        exact small
      · rintro _ _ finished
        cases outstanding.symm.trans finished
    · exact honest
  · exact honest

/-- The check at the entry reports only what it saw. -/
theorem enter (honest : Honest trusted call deadline start o) :
    Honest trusted call deadline start (o.enter deadline) := by
  unfold Operation.enter
  split
  · split
    · rename_i refused
      exact { honest with
        limits := nofun
        wakes := nofun
        reports := fun other given => by
          cases given
          exact reported_preflight refused }
    · exact (honest.move .creatingCompleted rfl (Or.inl rfl) (Or.inl rfl)).same
        _ true _ _ _ _
  · exact honest

/-- A call that completes at once reports the count of the kernel, and one that fails its code.
-/
theorem issue (honest : Honest trusted call deadline start o) (outcome : Except ErrorCode Nat) :
    Honest trusted call deadline start (o.issue call outcome).1 := by
  unfold Operation.issue
  split
  · split
    · split
      · rename_i transferred small
        refine { clock := honest.clock, counted := ?_, limits := nofun, wakes := nofun, reports := ?_ }
        · rintro _ _ ⟨⟩
          exact small
        · rintro _ ⟨⟩
          refine ⟨?_, nofun, nofun, nofun⟩
          rintro _ ⟨⟩
          exact ⟨small, Or.inl rfl⟩
      · exact honest
    · split
      · rename_i connected
        apply honest.report
        refine ⟨?_, nofun, nofun, nofun⟩
        rintro _ ⟨⟩
        exact ⟨Nat.zero_le _, Or.inr ⟨connected.1, rfl⟩⟩
      · split
        · exact honest.report (reported_code _)
        · exact
            { clock := honest.clock
              counted := nofun
              limits := nofun
              wakes := nofun
              reports := nofun }
  · exact honest

/-- The limit of the wait is computed from the clock at the moment it begins. -/
theorem arm (honest : Honest trusted call deadline start o) :
    Honest trusted call deadline start (o.arm deadline) := by
  unfold Operation.arm
  split
  · refine { honest with limits := ?_, wakes := nofun, reports := nofun }
    intro limit expires
    obtain ⟨ends, passed⟩ := expiry_remaining expires
    rcases passed with deadline_ | longest
    · exact Or.inl deadline_
    · exact .of_cut ends ((Nat.add_le_add_right honest.clock _).trans longest)
  · exact honest

theorem wake (honest : Honest trusted call deadline start o)
    (seen : o.signalled = true → o.stopping = true) (wake : WakeResult)
    (documented : trusted → o.trueWake (.wake wake) = true) :
    Honest trusted call deadline start (o.wake wake).1 := by
  unfold Operation.wake
  split
  · rename_i expires here
    have fits : trusted → WakeFits deadline start o.now o.stopping wake := by
      intro yes
      have awake := documented yes
      constructor
      · intro expired
        simp only [trueWake, here, expired, Option.any_eq_true, decide_eq_true_eq] at awake
        obtain ⟨limit, given, passed⟩ := awake
        exact (honest.limits limit (by rw [here]; exact given)).later passed
      · intro stopped
        simp only [trueWake, here, stopped] at awake
        exact seen awake
    refine { honest with limits := ?_, wakes := ?_, reports := ?_ }
    · dsimp only
      split <;> exact nofun
    · dsimp only
      split
      · rintro _ ⟨⟩
        exact fits
      · rintro _ ⟨⟩
        exact fits
    · dsimp only
      split <;> exact nofun
  · exact honest

/-- The kernel's word, as `resolve_pending` passes it on. -/
theorem complete (honest : Honest trusted call deadline start o) :
    Honest trusted call deadline start o.complete.1 := by
  unfold Operation.complete
  split
  · rename_i wake cancellationError here
    have fits := honest.wakes wake (by rw [here]; rfl)
    split
    · exact honest
    · split
      · rename_i transferred status
        have success := status_ok status
        refine (honest.report (reported_resolved fits cancellationError ?_)).same false _ _ _ _ _
        refine ⟨?_, nofun, nofun, nofun⟩
        rintro _ ⟨⟩
        exact ⟨honest.counted _ transferred success, Or.inl success⟩
      · rename_i code _
        split
        · exact honest.move _ rfl (Or.inr (by rw [here]; rfl)) (Or.inl rfl)
        · exact (honest.report (reported_resolved fits cancellationError (reported_code code))).same
            false _ _ _ _ _
  · exact honest

/-- The count of a drained request is the count of the kernel. -/
theorem drain (honest : Honest trusted call deadline start o) : Honest trusted call deadline start o.drain.1 := by
  unfold Operation.drain
  split
  · rename_i wake cancellationError _ _ here _
    have fits := honest.wakes wake (by rw [here]; rfl)
    exact (honest.report (reported_resolved fits cancellationError (reported_code _))).same
      false _ _ _ _ _
  · rename_i here _
    exact honest.move _ rfl (Or.inl rfl) (Or.inr (by rw [here]; rfl))
  · exact honest

theorem initial (start : Time) (stopping : Bool) :
    Honest trusted call deadline start { now := start, stopping } where
  clock := le_rfl
  counted := nofun
  limits := nofun
  wakes := nofun
  reports := nofun

section
variable (honest : Honest trusted call deadline start o)
include honest

theorem callbackRuns : Honest trusted call deadline start o.callbackRuns.1 := by
  simp only [Operation.callbackRuns]
  split
  · exact honest.same _ _ true _ _ _
  · exact honest

theorem createCompleted (error : Option ErrorCode) :
    Honest trusted call deadline start (o.createCompleted error) := by
  simp only [Operation.createCompleted]
  split
  · exact honest.report (reported_code _)
  · have next := honest.move .creatingCancelled rfl (Or.inl rfl) (Or.inl rfl)
    exact next.same _ _ _ .opened _ _
  · exact honest

theorem createCancelled (error : Option ErrorCode) :
    Honest trusted call deadline start (o.createCancelled error) := by
  simp only [Operation.createCancelled]
  split
  · exact honest.report (reported_code _)
  · have next := honest.move .registering rfl (Or.inl rfl) (Or.inl rfl)
    exact next.same _ _ _ _ .opened _
  · exact honest

theorem register : Honest trusted call deadline start o.register.1 := by
  have issuing := honest.move .issuing rfl (Or.inl rfl) (Or.inl rfl)
  simp only [Operation.register]
  split
  · split
    · exact issuing.same _ _ true _ _ .done
    · exact issuing.same _ _ _ _ _ .registered
  · exact honest

/-- `CancelIoEx` is asked for what the wait has seen, and that is kept. -/
theorem cancel (error : UInt32) : Honest trusted call deadline start (o.cancel error).1 := by
  simp only [Operation.cancel]
  split
  · rename_i here
    exact honest.move _ rfl (Or.inr (by rw [here]; rfl)) (Or.inl rfl)
  · exact honest

/-- From here on the result is decided, and the way out only carries it. -/
theorem destroy : Honest trusted call deadline start o.destroy := by
  simp only [Operation.destroy]
  split
  · rename_i here
    split
    · exact honest.move _ rfl (Or.inl rfl) (Or.inr (by rw [here]; rfl))
    · exact honest.move _ rfl (Or.inl rfl) (Or.inr (by rw [here]; rfl))
  · exact honest

theorem unregister : Honest trusted call deadline start o.unregister := by
  simp only [Operation.unregister]
  split
  · rename_i result here
    split
    · exact honest
    · have next :=
        honest.move (.closingCancelled result) rfl (Or.inl rfl) (Or.inr (by rw [here]; rfl))
      exact next.same _ _ _ _ _ .absent
  · exact honest

theorem closeCancelled : Honest trusted call deadline start o.closeCancelled.1 := by
  simp only [Operation.closeCancelled]
  split
  · rename_i result here
    have next := honest.move (.closingCompleted result) rfl (Or.inl rfl) (Or.inr (by rw [here]; rfl))
    split
    · exact next
    · exact next.same _ _ _ _ .closed _
  · exact honest

theorem closeCompleted : Honest trusted call deadline start o.closeCompleted.1 := by
  simp only [Operation.closeCompleted]
  split
  · rename_i result here
    have next := honest.move (.freeing result) rfl (Or.inl rfl) (Or.inr (by rw [here]; rfl))
    split
    · exact next
    · exact next.same _ _ _ .closed _ _
  · exact honest

theorem free : Honest trusted call deadline start o.free := by
  simp only [Operation.free]
  split
  · rename_i result here
    have next := honest.move (.returned result) rfl (Or.inl rfl) (Or.inr (by rw [here]; rfl))
    exact next.same _ false _ _ _ _
  · exact honest

/-- One step keeps every report true: what is decided in it is true then, and what was
decided before does not depend on it. -/
theorem step (owned : Owned o) (action : OperationAction)
    (documented : trusted → o.trueWake action = true) :
    Honest trusted call deadline start (o.step call deadline action).1 := by
  cases action with
  | tick elapsed =>
    exact honest.later rfl (Nat.le_add_right _ _) id honest.counted fun _ _ => id
  | requestStop =>
    exact honest.later rfl le_rfl (fun _ => rfl) honest.counted fun _ _ => id
  | callbackRuns => exact honest.callbackRuns
  | finish code transferred => exact honest.finish code transferred
  | enter => exact honest.enter
  | createCompleted error => exact honest.createCompleted error
  | createCancelled error => exact honest.createCancelled error
  | register => exact honest.register
  | issue outcome => exact honest.issue outcome
  | arm => exact honest.arm
  | wake wake =>
    exact honest.wake (fun signalled => owned.holds.asked (Or.inl signalled)) wake documented
  | cancel error => exact honest.cancel error
  | complete => exact honest.complete
  | drain => exact honest.drain
  | destroy => exact honest.destroy
  | unregister => exact honest.unregister
  | closeCancelled => exact honest.closeCancelled
  | closeCompleted => exact honest.closeCompleted
  | free => exact honest.free

end

end Honest

/-- Every wait of the run was as documented. -/
def TrueWaits (call : Call) (deadline start : Time) (stopping : Bool)
    (actions : List OperationAction) : Prop :=
  Transition.along (Operation.step call deadline) trueWake { now := start, stopping } actions = true

/-- Every run is honest to the extent its waits were. -/
theorem run_honest (call : Call) (deadline start : Time) (stopping : Bool)
    (actions : List OperationAction) :
    Honest (TrueWaits call deadline start stopping actions) call deadline start
      (run call deadline start stopping actions).1 := by
  refine (Transition.run_invariant_along (Operation.step call deadline)
    (TrueWaits call deadline start stopping actions) trueWake
    (fun o _ => Owned o ∧ Honest _ call deadline start o) _ [] ?_ ?_ actions id).2
  · exact ⟨.initial start stopping, .initial start stopping⟩
  · intro o past action before documented
    exact ⟨(before.1.step call deadline action).owned,
      before.2.step before.1 action documented⟩

end Operation

/-- Whatever the kernel does, a success of `accept`, `read_some` and `write_some` counts
what was moved, within the buffer, and no failure blames the configuration or the
protocol. If its waits are as documented, a timeout is not early, but for the cut of
distant deadlines, and a cancellation follows a stop or an abort by the kernel. -/
theorem overlapped_result_true (call : Call) (deadline start : Time) (stopping : Bool)
    (actions : List OperationAction) (result : Result Nat)
    (back : (Operation.run call deadline start stopping actions).1.point = .returned result) :
    let ended := (Operation.run call deadline start stopping actions).1
    Reported (Operation.TrueWaits call deadline start stopping actions) call deadline start
      ended.now ended.stopping ended.request result := by
  apply (Operation.run_honest call deadline start stopping actions).reports result
  rw [back]
  rfl

/-- A write that a stop interrupts after the kernel has carried it out. -/
def cancelledTooLate : List OperationAction :=
  [.enter, .createCompleted none, .createCancelled none, .register, .issue (.error ioPending),
    .arm, .requestStop, .callbackRuns, .wake ⟨.stopped, 0⟩, .finish ⟨0, by decide⟩ 10,
    .cancel 1168, .complete, .destroy, .unregister, .closeCancelled, .closeCompleted, .free]

theorem overlapped_result_true_too_late :
    let ended := (Operation.run (.writeSome 10) 5000000 0 false cancelledTooLate).1
    ended.point = .returned (.error { kind := .cancelled, nativeError := 1168 }) ∧
      ended.request = .succeeded 10 ∧
      Operation.TrueWaits (.writeSome 10) 5000000 0 false cancelledTooLate ∧
      Reported (Operation.TrueWaits (.writeSome 10) 5000000 0 false cancelledTooLate)
        (.writeSome 10) 5000000 0 ended.now ended.stopping ended.request
        (.error { kind := .cancelled, nativeError := 1168 }) :=
  ⟨rfl, rfl, rfl, overlapped_result_true (.writeSome 10) 5000000 0 false cancelledTooLate _ rfl⟩

/-- A request without an answer, left at the end of the longest wait. -/
def cutWait : List OperationAction :=
  [.enter, .createCompleted none, .createCancelled none, .register, .issue (.error ioPending),
    .arm, .tick longestWait, .wake ⟨.expired, 0⟩, .cancel 0, .finish abortedCode 0,
    .complete, .destroy, .unregister, .closeCancelled, .closeCompleted, .free]

-- The cut does happen: a read with sixty days left times out after the longest wait.
example :
    let ended := (Operation.run (.readSome 1) 5184000000000000 0 false cutWait).1
    Operation.TrueWaits (.readSome 1) 5184000000000000 0 false cutWait ∧
      ended.point = .returned (.error { kind := .timeout, nativeError := errorOperationAborted }) ∧
      ended.now < 5184000000000000 :=
  ⟨rfl, rfl, by decide⟩

end PipeForge.Transport
