import PipeForge.Library.Transition
import PipeForge.Transport.Native
import PipeForge.Transport.Stream

/-!
# Overlapped operations

`accept`, `read_some` and `write_some` with the `overlapped_operation` they keep on the
stack (transport/windows/native.cpp) and `resolve_pending` (transport/completion.cpp).
Three parties take turns in any order: the thread that issues the request, the kernel
that carries it out, and the thread that requests a stop and runs the callback.

The kernel holds a pointer into the operation and into the buffer from the moment a
request is pending until it has finished it, and the callback holds an event handle.
Every use of such a resource is an event that says whether the resource still existed.
The kernel may take any time, finish a request that is being cancelled, and let a wait
return at any time and for any reason; it moves no more bytes than it was asked. What is
documented of a wait is no part of a step: `trueWake` states it for the results that need it.
-/

namespace PipeForge.Transport
open Contracts Library

/-- The three calls, with the size of the buffer. -/
inductive Call where
  | accept
  | readSome (size : Nat)
  | writeSome (size : Nat)
  deriving DecidableEq

/-- The bytes the kernel is asked to move. -/
def Call.count : Call → Nat
  | .accept => 0
  | .readSome size | .writeSome size => min size bufferBytes

inductive WakeReason where
  | completed | expired | stopped | failed
  deriving DecidableEq

structure WakeResult where
  reason : WakeReason := .failed
  nativeError : UInt32 := 0
  deriving DecidableEq

/-- The part of `resolve_pending` behind `complete`: what the operation ended with, after
the wait and the error of `cancel`. -/
def resolvePending (wake : WakeResult) (cancellationError : UInt32) (drained : Result Nat) :
    Result Nat :=
  if wake.reason = .completed then drained
  else
    let nativeError :=
      if wake.reason = .failed then wake.nativeError
      else
        match drained with
        | .error completionError => completionError.nativeError
        | .ok _ => cancellationError
    let kind : FailureKind :=
      match wake.reason with
      | .expired => .timeout
      | .stopped => .cancelled
      | _ => .ioFailure
    .error { kind, nativeError }

/-- Where the issuing thread stands. -/
inductive OperationPoint where
  | entered
  /-- In the constructor. -/
  | creatingCompleted
  | creatingCancelled
  | registering
  | issuing
  /-- The request is pending; `wait` is about to compute its limit. -/
  | arming
  | waiting (expires : Option Time)
  | cancelling (wake : WakeResult)
  | completing (wake : WakeResult) (cancellationError : UInt32)
  /-- In `complete` after `ERROR_IO_INCOMPLETE`. -/
  | abandoning (wake : WakeResult) (cancellationError : UInt32)
  /-- In the destructor, with the result to return. -/
  | leaving (result : Result Nat)
  | fallback (result : Result Nat)
  | unregistering (result : Result Nat)
  | closingCancelled (result : Result Nat)
  | closingCompleted (result : Result Nat)
  | freeing (result : Result Nat)
  | returned (result : Result Nat)

/-- A `unique_handle` of an event. -/
inductive EventHandle where
  | empty | opened | closed
  deriving DecidableEq

inductive CallbackState where
  | absent | registered | running | done
  deriving DecidableEq

/-- How a request ended. That it has not ended is no way to end. -/
abbrev FinalCode := { code : UInt32 // code ≠ errorIoIncomplete }

/-- How a request ends that was cancelled in time. -/
def abortedCode : FinalCode := ⟨errorOperationAborted, by decide⟩

/-- The request as the kernel has it. -/
inductive Request where
  | none
  | outstanding
  | finished (code : FinalCode) (transferred : Nat)
  deriving DecidableEq

def Request.isFinished : Request → Bool
  | .finished _ _ => true
  | _ => false

/-- What `GetOverlappedResult` reports when it does not wait. -/
def Request.status : Request → Except UInt32 Nat
  | .finished code transferred =>
    if code.val = errorSuccess then .ok transferred else .error code.val
  | _ => .error errorIoIncomplete

/-- A request that succeeded. -/
def Request.succeeded (transferred : Nat) : Request := .finished ⟨errorSuccess, by decide⟩ transferred

inductive Resource where
  /-- `operation_` and the buffer. -/
  | storage
  | completed
  | cancelled
  deriving DecidableEq

/-- A use of a resource and whether it existed. -/
structure Access where
  resource : Resource
  live : Bool
  deriving DecidableEq

structure Operation where
  now : Time
  stopping : Bool := false
  point : OperationPoint := .entered
  pending : Bool := false
  storage : Bool := false
  completed : EventHandle := .empty
  cancelled : EventHandle := .empty
  /-- `cancelled_` has been set. -/
  signalled : Bool := false
  callback : CallbackState := .absent
  request : Request := .none

/-- A failed Win32 call reports some error. -/
abbrev ErrorCode := { code : UInt32 // code ≠ errorSuccess }

/-- `ERROR_IO_PENDING`, the answer of an operation that completes later. -/
def ioPending : ErrorCode :=
  ⟨errorIoPending, by decide⟩

inductive OperationAction where
  | tick (elapsed : Nat)
  /-- Another thread stops the source; its callback runs there. -/
  | requestStop
  | callbackRuns
  /-- The kernel is done with a pending request. -/
  | finish (code : FinalCode) (transferred : Nat)
  | enter
  | createCompleted (error : Option ErrorCode)
  | createCancelled (error : Option ErrorCode)
  | register
  /-- `ConnectNamedPipe`, `ReadFile` or `WriteFile` returns. -/
  | issue (outcome : Except ErrorCode Nat)
  | arm
  | wake (wake : WakeResult)
  | cancel (error : UInt32)
  | complete
  | drain
  | destroy
  | unregister
  | closeCancelled
  | closeCompleted
  | free

namespace Operation
variable (call : Call) (deadline : Time) (o : Operation)

def touchStorage : Access := ⟨.storage, o.storage⟩
def touchCompleted : Access := ⟨.completed, o.completed == .opened⟩
def touchCancelled : Access := ⟨.cancelled, o.cancelled == .opened⟩

def requestStop : Operation :=
  { o with
    stopping := true
    callback := if o.callback = .registered then .running else o.callback }

/-- `signal_event`. -/
def callbackRuns : Operation × List Access :=
  match o.callback with
  | .running => ({ o with callback := .done, signalled := true }, [o.touchCancelled])
  | _ => (o, [])

/-- The kernel writes the status and sets the event; it moves no more than it was asked. -/
def finish (code : FinalCode) (transferred : Nat) : Operation × List Access :=
  match o.request with
  | .outstanding =>
    if transferred ≤ call.count then
      ({ o with request := .finished code transferred }, [o.touchStorage, o.touchCompleted])
    else (o, [])
  | _ => (o, [])

def enter : Operation :=
  match o.point with
  | .entered =>
    match preflight o.stopping o.now deadline with
    | some error => { o with point := .returned (.error error) }
    | none => { o with point := .creatingCompleted, storage := true }
  | _ => o

/-- A failed `CreateEventW` ends the constructor, and `setup_error` the call. -/
def createCompleted (error : Option ErrorCode) : Operation :=
  match o.point, error with
  | .creatingCompleted, some code => { o with point := .leaving (.error (ioFailure code.val)) }
  | .creatingCompleted, none => { o with point := .creatingCancelled, completed := .opened }
  | _, _ => o

def createCancelled (error : Option ErrorCode) : Operation :=
  match o.point, error with
  | .creatingCancelled, some code => { o with point := .leaving (.error (ioFailure code.val)) }
  | .creatingCancelled, none => { o with point := .registering, cancelled := .opened }
  | _, _ => o

/-- A callback for a stop that was already requested runs at once. -/
def register : Operation × List Access :=
  match o.point with
  | .registering =>
    if o.stopping then
      ({ o with point := .issuing, callback := .done, signalled := true }, [o.touchCancelled])
    else ({ o with point := .issuing, callback := .registered }, [])
  | _ => (o, [])

def issue (outcome : Except ErrorCode Nat) : Operation × List Access :=
  match o.point with
  | .issuing =>
    match outcome with
    | .ok transferred =>
      if transferred ≤ call.count then
        ({ o with point := .leaving (.ok transferred), request := .succeeded transferred },
          [o.touchStorage, o.touchCompleted])
      else (o, [])
    | .error code =>
      if call = .accept ∧ code.val = errorPipeConnected then
        ({ o with point := .leaving (.ok 0) }, [o.touchStorage, o.touchCompleted])
      else if code.val ≠ errorIoPending then
        ({ o with point := .leaving (.error (ioFailure code.val)) },
          [o.touchStorage, o.touchCompleted])
      else
        ({ o with point := .arming, pending := true, request := .outstanding },
          [o.touchStorage, o.touchCompleted])
  | _ => (o, [])

def arm : Operation :=
  match o.point with
  | .arming => { o with point := .waiting (expiry (remaining deadline o.now) o.now) }
  | _ => o

def wake (wake : WakeResult) : Operation × List Access :=
  match o.point with
  | .waiting _ =>
    ({ o with
        point := if wake.reason = .completed then .completing wake errorSuccess
          else .cancelling wake },
      [o.touchCompleted, o.touchCancelled])
  | _ => (o, [])

/-- `CancelIoEx` asks the kernel; what becomes of the request is the kernel's. -/
def cancel (error : UInt32) : Operation × List Access :=
  match o.point with
  | .cancelling wake => ({ o with point := .completing wake error }, [o.touchStorage])
  | _ => (o, [])

/-- `complete` up to its second `GetOverlappedResult`. The first one waits for the kernel
unless the wait has reported a completion. -/
def complete : Operation × List Access :=
  match o.point with
  | .completing wake cancellationError =>
    if wake.reason ≠ .completed ∧ o.request.isFinished = false then (o, [])
    else
      match o.request.status with
      | .ok transferred =>
        ({ o with
            point := .leaving (resolvePending wake cancellationError (.ok transferred))
            pending := false },
          [o.touchStorage, o.touchCompleted])
      | .error code =>
        if code = errorIoIncomplete then
          ({ o with point := .abandoning wake cancellationError },
            [o.touchStorage, o.touchCompleted])
        else
          ({ o with
              point := .leaving (resolvePending wake cancellationError (.error (ioFailure code)))
              pending := false },
            [o.touchStorage, o.touchCompleted])
  | _ => (o, [])

/-- The waits for the kernel in `complete` and in the destructor. -/
def drain : Operation × List Access :=
  match o.point, o.request with
  | .abandoning wake cancellationError, .finished _ _ =>
    ({ o with
        point := .leaving
          (resolvePending wake cancellationError (.error (ioFailure errorIoIncomplete)))
        pending := false },
      [o.touchStorage, o.touchCompleted])
  | .fallback result, .finished _ _ =>
    ({ o with point := .unregistering result }, [o.touchStorage, o.touchCompleted])
  | _, _ => (o, [])

def destroy : Operation :=
  match o.point with
  | .leaving result =>
    { o with point := if o.pending then .fallback result else .unregistering result }
  | _ => o

/-- `~stop_callback` waits for a callback that is running. -/
def unregister : Operation :=
  match o.point with
  | .unregistering result =>
    if o.callback = .running then o
    else { o with point := .closingCancelled result, callback := .absent }
  | _ => o

def closeCancelled : Operation × List Access :=
  match o.point with
  | .closingCancelled result =>
    if o.cancelled = .empty then ({ o with point := .closingCompleted result }, [])
    else ({ o with point := .closingCompleted result, cancelled := .closed }, [o.touchCancelled])
  | _ => (o, [])

def closeCompleted : Operation × List Access :=
  match o.point with
  | .closingCompleted result =>
    if o.completed = .empty then ({ o with point := .freeing result }, [])
    else ({ o with point := .freeing result, completed := .closed }, [o.touchCompleted])
  | _ => (o, [])

/-- The operation leaves the stack and the call returns. -/
def free : Operation :=
  match o.point with
  | .freeing result => { o with point := .returned result, storage := false }
  | _ => o

def step : OperationAction → Operation × List Access
  | .tick elapsed => ({ o with now := o.now + elapsed }, [])
  | .requestStop => (o.requestStop, [])
  | .callbackRuns => o.callbackRuns
  | .finish code transferred => o.finish call code transferred
  | .enter => (o.enter deadline, [])
  | .createCompleted error => (o.createCompleted error, [])
  | .createCancelled error => (o.createCancelled error, [])
  | .register => o.register
  | .issue outcome => o.issue call outcome
  | .arm => (o.arm deadline, [])
  | .wake wake => o.wake wake
  | .cancel error => o.cancel error
  | .complete => o.complete
  | .drain => o.drain
  | .destroy => (o.destroy, [])
  | .unregister => (o.unregister, [])
  | .closeCancelled => o.closeCancelled
  | .closeCompleted => o.closeCompleted
  | .free => (o.free, [])

/-- `WaitForMultipleObjects` as documented: it names an event that has been set, and it
does not time out before its limit. -/
def trueWake : OperationAction → Bool
  | .wake wake =>
    match o.point, wake.reason with
    | .waiting _, .stopped => o.signalled
    | .waiting expires, .expired => expires.any (· ≤ o.now)
    | _, _ => true
  | _ => true

def run (call : Call) (deadline : Time) (start : Time) (stopping : Bool)
    (actions : List OperationAction) : Operation × List Access :=
  Transition.run (step call deadline) { now := start, stopping } actions

end Operation

end PipeForge.Transport
