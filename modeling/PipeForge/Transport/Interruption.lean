import PipeForge.Library.Progress
import PipeForge.Transport.Ownership

/-!
# A stop interrupts an overlapped operation

After a stop request the call returns in a bounded number of steps, wherever the stop
finds it: the event is set or the callback is about to set it, so the wait ends; then the
kernel is asked to cancel, and once it has let go of the request nothing else is waited
for. The steps counted are those of the thread, the callback, the kernel finishing a
request it was asked to cancel, and a wait that returns because an event is set or its
limit has passed. A wait nobody has a reason to end is not counted on.
-/

namespace PipeForge.Transport
open Library

/-- How many steps the thread has left at a point, at most. -/
def OperationPoint.rank : OperationPoint → Nat
  | .entered => 15
  | .creatingCompleted => 14
  | .creatingCancelled => 13
  | .registering => 12
  | .issuing => 11
  | .arming => 9
  | .waiting _ => 8
  | .cancelling wake => if wake.reason = .completed then 8 else 7
  | .completing wake _ => if wake.reason = .completed then 7 else 6
  | .abandoning _ _ => 6
  | .leaving _ | .fallback _ => 5
  | .unregistering _ => 4
  | .closingCancelled _ => 3
  | .closingCompleted _ => 2
  | .freeing _ => 1
  | .returned _ => 0

/-- The thread blocks in `GetOverlappedResult` after it asked for cancellation. -/
def OperationPoint.drains : OperationPoint → Bool
  | .completing wake _ => wake.reason != .completed
  | .abandoning _ _ => true
  | _ => false

namespace Operation

def rank (o : Operation) : Nat :=
  o.point.rank + (o.callback == .running).toNat + (o.request == .outstanding).toNat

/-- Whether the kernel has to end a wait, and may say so. -/
def wakes (o : Operation) (expires : Option Time) : WakeReason → Bool
  | .completed => o.request.isFinished
  | .stopped => o.signalled
  | .expired => expires.any (· ≤ o.now)
  | .failed => false

/-- The steps somebody owes: the thread at its point unless it is blocked there, the
callback that has begun, and the kernel for a request it was asked to cancel and for a
wait with an event that is set or a limit that has passed. -/
@[simp]
def due (call : Call) (o : Operation) : OperationAction → Bool
  | .callbackRuns => o.callback == .running
  | .finish _ transferred =>
    o.request == .outstanding && o.point.drains && decide (transferred ≤ call.count)
  | action =>
    match o.point, action with
    | .entered, .enter | .creatingCompleted, .createCompleted _ => true
    | .creatingCancelled, .createCancelled _ | .registering, .register => true
    | .issuing, .issue (.ok transferred) => decide (transferred ≤ call.count)
    | .issuing, .issue (.error _) | .arming, .arm => true
    | .waiting expires, .wake wake => o.wakes expires wake.reason
    | .cancelling _, .cancel _ => true
    | .completing wake _, .complete => wake.reason == .completed || o.request.isFinished
    | .abandoning _ _, .drain => o.request.isFinished
    | .leaving _, .destroy => true
    | .unregistering _, .unregister => o.callback != .running
    | .closingCancelled _, .closeCancelled | .closingCompleted _, .closeCompleted => true
    | .freeing _, .free => true
    | _, _ => false

section
variable {call : Call} {deadline : Time} {o : Operation}

/-- A stop stays requested. -/
theorem step_stopping (stopped : o.stopping = true) (action : OperationAction) :
    (o.step call deadline action).1.stopping = true := by
  cases action <;>
    simp only [step, requestStop, callbackRuns, finish, enter, createCompleted, createCancelled,
      register, issue, arm, wake, cancel, complete, drain, destroy, unregister, closeCancelled,
      closeCompleted, free] <;>
    repeat' split
  all_goals exact stopped

/-- A step that takes something off may count as owed. -/
theorem pays_of_lt {o' : Operation} (less : o'.rank < o.rank) (owed : Bool) :
    o'.rank + owed.toNat ≤ o.rank := by
  have once := Bool.toNat_le owed
  omega

/-- The thread moves on and takes the rest with it. -/
theorem pays_of_move {here point : OperationPoint} (stands : o.point = here)
    (less : point.rank < here.rank) (owed : Bool) : { o with point }.rank + owed.toNat ≤ o.rank := by
  apply pays_of_lt
  rw [rank, rank, stands]
  exact Nat.add_lt_add_right (Nat.add_lt_add_right less _) _

theorem requestStop_rank (owned : Owned o) (stopped : o.stopping = true) :
    o.requestStop.rank = o.rank := by
  have calm : o.callback ≠ .registered := by
    intro registered
    cases stopped.symm.trans (owned.holds.unasked registered)
  simp [requestStop, rank, calm]

/-- The callback runs once, and that is one step paid. -/
theorem callbackRuns_rank : o.callbackRuns.1.rank + (o.callback == .running).toNat ≤ o.rank := by
  unfold callbackRuns
  split
  · rename_i running
    simp [rank, running]
  · rename_i other
    have idle : (o.callback == .running) = false := by simpa using other
    simp [idle]

/-- The kernel's end of the request is one step paid. -/
theorem finish_rank (code : FinalCode) (transferred : Nat) :
    (o.finish call code transferred).1.rank + (o.due call (.finish code transferred)).toNat ≤
      o.rank := by
  unfold finish
  split
  · rename_i outstanding
    split
    · apply pays_of_lt
      simp [rank, outstanding]
    · rename_i large
      simp [due, large]
  · rename_i other
    have idle : (o.request == .outstanding) = false := by simpa using other
    simp [due, idle]

/-- Issuing the request brings the thread on by more than the outstanding request costs. -/
theorem issue_rank (outcome : Except ErrorCode Nat) :
    (o.issue call outcome).1.rank + (o.due call (.issue outcome)).toNat ≤ o.rank := by
  cases here : o.point with
  | issuing =>
    simp only [issue, here]
    split
    · split
      · rename_i transferred _
        apply pays_of_lt
        have ended : (Request.succeeded transferred == .outstanding) = false := rfl
        simp only [rank, here, OperationPoint.rank, ended, Bool.toNat_false]
        omega
      · rename_i large
        simp [due, here, large]
    · split
      · exact pays_of_move here (by simp [OperationPoint.rank]) _
      · split
        · exact pays_of_move here (by simp [OperationPoint.rank]) _
        · apply pays_of_lt
          simp only [rank, here, OperationPoint.rank, beq_self_eq_true, Bool.toNat_true]
          omega
  | _ => simp [issue, due, here]

theorem wake_rank (wake : WakeResult) :
    (o.wake wake).1.rank + (o.due call (.wake wake)).toNat ≤ o.rank := by
  cases here : o.point with
  | waiting expires =>
    simp only [Operation.wake, here]
    apply pays_of_move here
    by_cases completed : wake.reason = .completed
    · simp [completed, OperationPoint.rank]
    · simp [completed, OperationPoint.rank]
  | _ => simp [Operation.wake, due, here]

theorem complete_rank : o.complete.1.rank + (o.due call .complete).toNat ≤ o.rank := by
  cases here : o.point with
  | completing wake cancellationError =>
    have left : ∀ result, (OperationPoint.leaving result).rank <
        (OperationPoint.completing wake cancellationError).rank := by
      intro result
      simp only [OperationPoint.rank]
      split <;> decide
    simp only [complete, here]
    split
    · rename_i blocked
      simp [due, here, blocked]
    · rename_i free
      split
      · exact pays_of_move here (left _) _
      · rename_i code status
        split
        · rename_i incomplete
          -- A wait for the kernel has ended, so the code is not the one of an unfinished request.
          have polled : wake.reason = .completed := by
            by_contra waited
            have finished : o.request.isFinished = true := by simpa [waited] using free
            cases request : o.request with
            | finished final transferred =>
              simp only [request, Request.status] at status
              split at status
              · cases status
              · cases status
                exact final.property incomplete
            | _ =>
              rw [request] at finished
              cases finished
          exact pays_of_move here (by simp [OperationPoint.rank, polled]) _
        · exact pays_of_move here (left _) _
  | _ => simp [complete, due, here]

/-- `GetOverlappedResult` returns once the kernel has let go of the request. -/
theorem drain_rank (owned : Owned o) : o.drain.1.rank + (o.due call .drain).toNat ≤ o.rank := by
  unfold drain
  split
  · rename_i here _
    exact pays_of_move here (by simp [OperationPoint.rank]) _
  · rename_i here _
    exact absurd here (owned.unreached _)
  · rename_i blocked _
    have idle : o.due call .drain = false := by
      cases here : o.point with
      | abandoning wake cancellationError =>
        cases request : o.request with
        | finished code transferred => exact absurd request (blocked _ _ _ _ here)
        | _ => simp [due, here, request, Request.isFinished]
      | _ => simp [due, here]
    rw [idle]
    exact le_rfl

theorem enter_rank : (o.enter deadline).rank + (o.due call .enter).toNat ≤ o.rank := by
  cases here : o.point with
  | entered =>
    simp only [enter, here]
    split
    · exact pays_of_move here (by simp [OperationPoint.rank]) _
    · exact pays_of_move here (by simp [OperationPoint.rank]) _
  | _ => simp [enter, due, here]

theorem createCompleted_rank (error : Option ErrorCode) :
    (o.createCompleted error).rank + (o.due call (.createCompleted error)).toNat ≤ o.rank := by
  cases here : o.point with
  | creatingCompleted =>
    cases error with
    | none =>
      simp only [createCompleted, here]
      exact pays_of_move here (by simp [OperationPoint.rank]) _
    | some code =>
      simp only [createCompleted, here]
      exact pays_of_move here (by simp [OperationPoint.rank]) _
  | _ => simp [createCompleted, due, here]

theorem createCancelled_rank (error : Option ErrorCode) :
    (o.createCancelled error).rank + (o.due call (.createCancelled error)).toNat ≤ o.rank := by
  cases here : o.point with
  | creatingCancelled =>
    cases error with
    | none =>
      simp only [createCancelled, here]
      exact pays_of_move here (by simp [OperationPoint.rank]) _
    | some code =>
      simp only [createCancelled, here]
      exact pays_of_move here (by simp [OperationPoint.rank]) _
  | _ => simp [createCancelled, due, here]

/-- After a stop the callback runs inside its registration, so it is never left running. -/
theorem register_rank (stopped : o.stopping = true) :
    o.register.1.rank + (o.due call .register).toNat ≤ o.rank := by
  cases here : o.point with
  | registering =>
    simp only [register, here, stopped, if_true]
    apply pays_of_lt
    have ended : (CallbackState.done == .running) = false := rfl
    simp only [rank, here, OperationPoint.rank, ended, Bool.toNat_false]
    omega
  | _ => simp [register, due, here]

theorem arm_rank : (o.arm deadline).rank + (o.due call .arm).toNat ≤ o.rank := by
  cases here : o.point with
  | arming =>
    simp only [arm, here]
    exact pays_of_move here (by simp [OperationPoint.rank]) _
  | _ => simp [arm, due, here]

theorem cancel_rank (error : UInt32) :
    (o.cancel error).1.rank + (o.due call (.cancel error)).toNat ≤ o.rank := by
  cases here : o.point with
  | cancelling wake =>
    simp only [cancel, here]
    apply pays_of_move here
    simp only [OperationPoint.rank]
    split <;> decide
  | _ => simp [cancel, due, here]

/-- Nothing is pending on the way out, so the destructor does not drain again. -/
theorem destroy_rank (owned : Owned o) : o.destroy.rank + (o.due call .destroy).toNat ≤ o.rank := by
  cases here : o.point with
  | leaving result =>
    have settled : ¬ o.pending = true := by
      rw [(owned.at_ here).pending]
      exact Bool.false_ne_true
    simp only [destroy, here, if_neg settled]
    exact pays_of_move here (by simp [OperationPoint.rank]) _
  | _ => simp [destroy, due, here]

/-- Unregistering waits for a callback that runs, and that wait is not the thread's to pay. -/
theorem unregister_rank : o.unregister.rank + (o.due call .unregister).toNat ≤ o.rank := by
  cases here : o.point with
  | unregistering result =>
    simp only [unregister, here]
    split
    · rename_i running
      simp [due, here, running]
    · rename_i idle
      apply pays_of_lt
      have ended : (CallbackState.absent == .running) = false := rfl
      simp only [rank, here, OperationPoint.rank, ended, Bool.toNat_false]
      omega
  | _ => simp [unregister, due, here]

theorem closeCancelled_rank :
    o.closeCancelled.1.rank + (o.due call .closeCancelled).toNat ≤ o.rank := by
  cases here : o.point with
  | closingCancelled result =>
    simp only [closeCancelled, here]
    split
    · exact pays_of_move here (by simp [OperationPoint.rank]) _
    · exact pays_of_move here (by simp [OperationPoint.rank]) _
  | _ => simp [closeCancelled, due, here]

theorem closeCompleted_rank :
    o.closeCompleted.1.rank + (o.due call .closeCompleted).toNat ≤ o.rank := by
  cases here : o.point with
  | closingCompleted result =>
    simp only [closeCompleted, here]
    split
    · exact pays_of_move here (by simp [OperationPoint.rank]) _
    · exact pays_of_move here (by simp [OperationPoint.rank]) _
  | _ => simp [closeCompleted, due, here]

theorem free_rank : o.free.rank + (o.due call .free).toNat ≤ o.rank := by
  cases here : o.point with
  | freeing result =>
    simp only [free, here]
    exact pays_of_move here (by simp [OperationPoint.rank]) _
  | _ => simp [free, due, here]

/-- After a stop every step that is owed takes one off the rank, and none adds to it. -/
theorem step_rank (owned : Owned o) (stopped : o.stopping = true) (action : OperationAction) :
    (o.step call deadline action).1.rank + (o.due call action).toNat ≤ o.rank := by
  cases action with
  | tick elapsed =>
    have idle : o.due call (.tick elapsed) = false := by cases here : o.point <;> simp [due, here]
    rw [idle]
    exact le_rfl
  | requestStop =>
    have idle : o.due call .requestStop = false := by cases here : o.point <;> simp [due, here]
    rw [idle]
    exact (requestStop_rank owned stopped).le
  | callbackRuns => exact callbackRuns_rank
  | finish code transferred => exact finish_rank code transferred
  | enter => exact enter_rank
  | createCompleted error => exact createCompleted_rank error
  | createCancelled error => exact createCancelled_rank error
  | register => exact register_rank stopped
  | issue outcome => exact issue_rank outcome
  | arm => exact arm_rank
  | wake wake => exact wake_rank wake
  | cancel error => exact cancel_rank error
  | complete => exact complete_rank
  | drain => exact drain_rank owned
  | destroy => exact destroy_rank owned
  | unregister => exact unregister_rank
  | closeCancelled => exact closeCancelled_rank
  | closeCompleted => exact closeCompleted_rank
  | free => exact free_rank

/-- A stopped call that has not returned has a next step: in the wait because the stop
is in the event or on its way there. -/
theorem due_exists (owned : Owned o) (stopped : o.stopping = true)
    (inside : ∀ result, o.point ≠ .returned result) : ∃ action, o.due call action = true := by
  cases here : o.point with
  | entered => exact ⟨.enter, by simp [due, here]⟩
  | creatingCompleted => exact ⟨.createCompleted none, by simp [due, here]⟩
  | creatingCancelled => exact ⟨.createCancelled none, by simp [due, here]⟩
  | registering => exact ⟨.register, by simp [due, here]⟩
  | issuing => exact ⟨.issue (.ok 0), by simp [due, here]⟩
  | arming => exact ⟨.arm, by simp [due, here]⟩
  | waiting expires =>
    have holds : Holds 5 o := owned.at_ here
    rcases holds.heard (by decide) (by decide) stopped with running | signalled
    · exact ⟨.callbackRuns, by simp [due, running]⟩
    · exact ⟨.wake ⟨.stopped, 0⟩, by simp [due, here, wakes, signalled]⟩
  | cancelling wake => exact ⟨.cancel 0, by simp [due, here]⟩
  | completing wake cancellationError =>
    have fits := (owned.at_ here).request
    cases request : o.request with
    | none =>
      rw [request] at fits
      exact absurd rfl fits
    | finished code transferred =>
      exact ⟨.complete, by simp [due, here, request, Request.isFinished]⟩
    | outstanding =>
      by_cases completed : wake.reason = .completed
      · exact ⟨.complete, by simp [due, here, completed]⟩
      · exact ⟨.finish ⟨0, by decide⟩ 0, by simp [due, here, request, OperationPoint.drains, completed]⟩
  | abandoning wake cancellationError =>
    have fits := (owned.at_ here).request
    cases request : o.request with
    | none =>
      rw [request] at fits
      exact absurd rfl fits
    | finished code transferred =>
      exact ⟨.drain, by simp [due, here, request, Request.isFinished]⟩
    | outstanding => exact ⟨.finish ⟨0, by decide⟩ 0, by simp [due, here, request, OperationPoint.drains]⟩
  | leaving result => exact ⟨.destroy, by simp [due, here]⟩
  | fallback result => exact absurd here (owned.unreached result)
  | unregistering result =>
    by_cases running : o.callback = .running
    · exact ⟨.callbackRuns, by simp [due, running]⟩
    · exact ⟨.unregister, by simp [due, here, running]⟩
  | closingCancelled result => exact ⟨.closeCancelled, by simp [due, here]⟩
  | closingCompleted result => exact ⟨.closeCompleted, by simp [due, here]⟩
  | freeing result => exact ⟨.free, by simp [due, here]⟩
  | returned result => exact absurd here (inside result)

/-- The call has returned. -/
def Back (o : Operation) : Prop := ∃ result, o.point = .returned result

/-- Nothing left to pay means that the call has returned. -/
theorem back_of_rank (none : o.rank = 0) : o.Back := by
  have point : o.point.rank = 0 := by
    rw [rank] at none
    omega
  cases here : o.point with
  | returned result => exact ⟨result, here⟩
  | _ => simp [here, OperationPoint.rank, ite_eq_iff] at point

/-- From any state seventeen steps are enough. -/
theorem rank_le (o : Operation) : o.rank ≤ 17 := by
  have callback := Bool.toNat_le (o.callback == .running)
  have request := Bool.toNat_le (o.request == .outstanding)
  have point : o.point.rank ≤ 15 := by
    unfold OperationPoint.rank
    repeat' split
    all_goals decide
  rw [rank]
  omega

/-- Owing steps, paying them and being back: the three parts of the argument together. -/
theorem stop_progress (call : Call) (deadline : Time) :
    Transition.Progress (step call deadline) (fun o => Owned o ∧ o.stopping = true) Back (due call)
      rank where
  keeps _ action valid :=
    ⟨(valid.1.step call deadline action).owned, step_stopping valid.2 action⟩
  pays _ action valid _ := step_rank valid.1 valid.2 action
  reached _ _ none := back_of_rank none

end

end Operation

end PipeForge.Transport
