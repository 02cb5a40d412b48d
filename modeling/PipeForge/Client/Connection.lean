import PipeForge.Library.OrderedMap
import PipeForge.Library.SizeT
import PipeForge.Library.Transition
import PipeForge.Protocol.Codec
import PipeForge.Transport.Types

/-!
# The client scheduler

`connection_state` of client.cpp. Each critical section of its mutex is one
function on the state, and a run is any sequence of them: API calls from any
number of submitters, the writer, reader and monitor threads at their own program
points, and an environment that advances the clock, requests stops and chooses
every channel result.

While `connect_async` creates the threads it holds the mutex. Nobody enters a section then, but
the first threads run already: the writer may be with the connector when the creation of a
later one fails. Such a failure comes with what went on until then.

A call entry lives in the list `calls` at an address that `pending` and `queued`
share, as the shared pointers do. A promise is the list of values it was given,
so a second `set_value` would show. Joining threads and closing the channel after
`close` touch none of this and are left out, as is logging.
-/

namespace PipeForge.Client
open Contracts Library Transport

def maxPendingCalls : Nat := 16

inductive FailureKind where
  | invalidRequest | notConnected | quotaExceeded | timeout | cancelled | disconnected
  | accessDenied | protocolViolation | transportFailure | internalFailure
  deriving DecidableEq, Repr

structure Failure where
  kind : FailureKind := .transportFailure
  nativeError : UInt32 := 0
  deriving DecidableEq, Repr

abbrev ConnectResult := Except Failure Unit

abbrev CallResult := Except Failure Response

def translate (error : Transport.Failure) : Failure :=
  match error.kind with
  | .timeout => { kind := .timeout, nativeError := error.nativeError }
  | .cancelled => { kind := .cancelled, nativeError := error.nativeError }
  | .disconnected => { kind := .disconnected, nativeError := error.nativeError }
  | .accessDenied => { kind := .accessDenied, nativeError := error.nativeError }
  | .protocolViolation => { kind := .protocolViolation, nativeError := error.nativeError }
  | .invalidConfiguration => { kind := .invalidRequest, nativeError := error.nativeError }
  | .ioFailure => { kind := .transportFailure, nativeError := error.nativeError }

/-- `matches`: the outcome is one the operation can have. -/
def matchesOutcome : Operation → Outcome → Bool
  | _, .error _ => true
  | .listClasses _ _, .classes _ => true
  | .describeClass name, .description description => decide (description.name = name)
  | .putValue data, .valueRecord record => record.data.sameAs data
  | .getValue id, .valueRecord record => decide (record.id = id)
  | .listValues _ _, .values _ => true
  | .createObject className _, .object object => decide (object.className = className)
  | .getObject id, .object object => decide (object.id = id)
  | .releaseObject _, .released => true
  | .getAttribute _ _, .value _ => true
  | .invokeMethod _ _ _, .value _ => true
  | _, _ => false

/-! ## State -/

inductive Phase where
  | queued | writing | sent
  deriving DecidableEq, Repr

/-- Stop tokens are numbered by their source. -/
abbrev StopToken := Nat

abbrev Address := Nat

structure PendingCall where
  request : Request
  encoded : Bytes
  deadline : Time
  stop : StopToken
  promise : List CallResult := []
  progress : Phase := .queued
  deriving DecidableEq, Repr

/-- Where the writer thread stands outside the mutex. `opened` holds the result of
the connector; its flag tells whether the channel pointer is set. -/
inductive WriterPoint where
  | absent
  | starting (endpoint : WString) (deadline : Time) (stop : StopToken)
  | opening (deadline : Time) (stop : StopToken)
  | opened (deadline : Time) (result : Transport.Result Bool)
  | waiting
  | sending (entry : Address)
  | done
  deriving DecidableEq

inductive ReaderPoint where
  | absent | starting | looping | receiving | done
  deriving DecidableEq, Repr

inductive MonitorPoint where
  | absent | starting | scanning | done
  deriving DecidableEq, Repr

structure ConnectionState where
  /-- `open_` holds a connector. -/
  opener : Bool
  now : Time
  /-- Tokens whose stop was requested. -/
  stops : List StopToken
  /-- `shutdown_.stop_requested()`. -/
  shutdown : Bool
  opening : List ConnectResult
  calls : List PendingCall
  pending : OrderedMap UInt64 Address
  queued : List Address
  nextId : UInt64
  started : Bool
  connected : Bool
  openingDone : Bool
  closed : Bool
  /-- How often `changed_.notify_all()` was called. -/
  notified : Nat
  writer : WriterPoint
  reader : ReaderPoint
  monitor : MonitorPoint

/-- What may happen while the mutex is held by the controller. -/
inductive Meanwhile where
  | tick (elapsed : Nat)
  | requestStop (stop : StopToken)
  | beginOpening
  | openReturned (result : Transport.Result Bool)

/-- A thread could not be created: how many were before it, what happened before the
exception was caught, and its code. -/
structure CreationFailure where
  created : Nat
  meanwhile : List Meanwhile := []
  code : UInt32

def maxRequestId : UInt64 := 18446744073709551615

/-- The payload the writer passes to `channel::send` when it leaves the mutex. -/
structure Handed where
  entry : Address
  payload : Bytes
  deriving DecidableEq, Repr

def setValue (calls : List PendingCall) (entry : Address) (value : CallResult) :
    List PendingCall :=
  calls.modify entry fun call => { call with promise := call.promise ++ [value] }

def setProgress (calls : List PendingCall) (entry : Address) (progress : Phase) :
    List PendingCall :=
  calls.modify entry fun call => { call with progress }

/-- The loop of `fail_locked` over the pending entries. -/
def settle (value : UInt64 → CallResult) (entries : List (UInt64 × Address))
    (calls : List PendingCall) : List PendingCall :=
  entries.foldl (fun calls entry => setValue calls entry.2 (value entry.1)) calls

namespace ConnectionState

def initial (opener : Bool) : ConnectionState :=
  { opener
    now := 0
    stops := []
    shutdown := false
    opening := []
    calls := []
    pending := .empty
    queued := []
    nextId := 1
    started := false
    connected := false
    openingDone := false
    closed := false
    notified := 0
    writer := .absent
    reader := .absent
    monitor := .absent }

section
variable (s : ConnectionState)

def stopRequested (stop : StopToken) : Bool := s.stops.contains stop

/-- The test made of an entry under the mutex: cancelled or past its deadline. -/
def expired (call : PendingCall) : Bool :=
  s.stopRequested call.stop || decide (call.deadline ≤ s.now)

def expiry (stop : StopToken) : Failure :=
  { kind := if s.stopRequested stop then .cancelled else .timeout }

def failLocked (common : Failure) (specificId : UInt64) (specific : Failure) : ConnectionState :=
  if s.closed then s
  else
    { s with
      closed := true
      shutdown := true
      opening := if s.started && !s.openingDone then s.opening ++ [.error common] else s.opening
      openingDone := s.openingDone || s.started
      calls := settle (fun id => .error (if id = specificId then specific else common))
        s.pending.entries s.calls
      pending := .empty
      queued := []
      notified := s.notified + 1 }

/-- `fail_locked` with its default arguments. -/
def failAll (common : Failure) : ConnectionState := s.failLocked common 0 {}

/-! ### Environment -/

/-- The stop callback of a connector in progress forwards the request. -/
def requestStop (stop : StopToken) : ConnectionState :=
  { s with
    stops := stop :: s.stops
    shutdown :=
      match s.writer with
      | .opening _ connectStop => s.shutdown || decide (connectStop = stop)
      | _ => s.shutdown }

/-! ### The writer at the connector -/

/-- Registering the callback runs it at once if the stop was already requested. -/
def beginOpening : ConnectionState :=
  match s.writer with
  | .starting _ deadline stop =>
    let s := { s with shutdown := s.shutdown || s.stopRequested stop }
    if s.shutdown then { s with writer := .opened deadline (.error { kind := .cancelled }) }
    else { s with writer := .opening deadline stop }
  | _ => s

def openReturned (result : Transport.Result Bool) : ConnectionState :=
  match s.writer with
  | .opening deadline _ => { s with writer := .opened deadline result }
  | _ => s

/-! ### API -/

/-- The first `count` of writer, reader and monitor have been created. -/
def spawn (endpoint : WString) (deadline : Time) (stop : StopToken) (count : Nat) :
    ConnectionState :=
  { s with
    writer := if 1 ≤ count then .starting endpoint deadline stop else s.writer
    reader := if 2 ≤ count then .starting else s.reader
    monitor := if 3 ≤ count then .starting else s.monitor }

/-- What goes on without the mutex. -/
def elapse (s : ConnectionState) : Meanwhile → ConnectionState
  | .tick elapsed => { s with now := s.now + elapsed }
  | .requestStop stop => s.requestStop stop
  | .beginOpening => s.beginOpening
  | .openReturned result => s.openReturned result

/-- The threads that could be created run while the mutex is still held. -/
def spawnSome (endpoint : WString) (deadline : Time) (stop : StopToken)
    (failure : CreationFailure) : ConnectionState :=
  failure.meanwhile.foldl elapse (s.spawn endpoint deadline stop (min failure.created 2))

/-- The returned failure is a future made ready on the spot; otherwise the opening
promise's future is returned. `workers` is how the creation of the threads ends. -/
def connectAsync (endpoint : WString) (deadline : Time) (stop : StopToken)
    (workers : Except CreationFailure Unit) : Option Failure × ConnectionState :=
  if s.started || s.closed || !s.opener || !validEndpoint endpoint then
    (some { kind := .invalidRequest }, s)
  else
    let s := { s with started := true }
    if s.stopRequested stop || decide (deadline ≤ s.now) then
      (none, s.failAll (s.expiry stop))
    else
      match workers with
      | .ok () => (none, s.spawn endpoint deadline stop 3)
      | .error failure =>
        (none, (s.spawnSome endpoint deadline stop failure).failAll
          { kind := .internalFailure, nativeError := failure.code })

/-- An admitted call returns the address of its entry, whose promise is unset. -/
def callAsync (protobuf : Protocol.Protobuf) (operation : Operation) (deadline : Time)
    (stop : StopToken) : Except Failure Address × ConnectionState :=
  if !s.connected || s.closed then (.error { kind := .notConnected }, s)
  else if s.stopRequested stop then (.error { kind := .cancelled }, s)
  else if deadline ≤ s.now then (.error { kind := .timeout }, s)
  else if s.pending.size ≥ maxPendingCalls ∨ s.nextId = maxRequestId then
    (.error { kind := .quotaExceeded }, s)
  else
    let request : Request := { id := s.nextId, body := operation }
    match Protocol.encodeRequest protobuf request with
    | .error _ => (.error { kind := .invalidRequest }, s)
    | .ok encoded =>
      let entry := s.calls.length
      (.ok entry,
        { s with
          nextId := s.nextId + 1
          calls := s.calls ++ [{ request, encoded, deadline, stop }]
          pending := s.pending.emplace request.id entry
          queued := s.queued ++ [entry]
          notified := s.notified + 1 })

def close : ConnectionState := s.failAll { kind := .cancelled }

/-! ### Writer -/

def publishOpened : ConnectionState :=
  match s.writer with
  | .opened deadline result =>
    match result with
    | .error error => { s.failAll (translate error) with writer := .done }
    | .ok present =>
      if s.closed then { s with writer := .done }
      else if !present then { s.failAll { kind := .internalFailure } with writer := .done }
      else if s.shutdown then { s.failAll { kind := .cancelled } with writer := .done }
      else if deadline ≤ s.now then { s.failAll { kind := .timeout } with writer := .done }
      else
        { s with
          connected := true
          openingDone := true
          opening := s.opening ++ [.ok ()]
          notified := s.notified + 1
          writer := .waiting }
  | _ => s

def takeQueued : ConnectionState × List Handed :=
  match s.writer with
  | .waiting =>
    if s.closed then ({ s with writer := .done }, [])
    else
      match s.queued with
      | [] => (s, [])
      | entry :: rest =>
        match s.calls[entry]? with
        | none => (s, [])
        | some call =>
          if s.expired call then
            ({ s with
              queued := rest
              calls := setValue s.calls entry (.error (s.expiry call.stop))
              pending := s.pending.erase call.request.id }, [])
          else
            ({ s with
              queued := rest
              calls := setProgress s.calls entry .writing
              writer := .sending entry }, [⟨entry, call.encoded⟩])
  | _ => (s, [])

def sendReturned (result : Transport.Result Nat) : ConnectionState :=
  match s.writer with
  | .sending entry =>
    if s.closed then { s with writer := .done }
    else
      match s.calls[entry]? with
      | none => s
      | some call =>
        match result with
        | .error error =>
          { s.failLocked { kind := .disconnected } call.request.id (translate error) with
            writer := .done }
        | .ok _ =>
          -- A fast peer may already have completed the promise.
          if s.pending.contains call.request.id then
            { s with calls := setProgress s.calls entry .sent, writer := .waiting }
          else { s with writer := .waiting }
  | _ => s

/-! ### Reader -/

def readerConnected : ConnectionState :=
  match s.reader with
  | .starting =>
    if s.closed then { s with reader := .done }
    else if s.connected then { s with reader := .looping }
    else s
  | _ => s

def readerLoop : ConnectionState :=
  match s.reader with
  | .looping => if s.shutdown then { s with reader := .done } else { s with reader := .receiving }
  | _ => s

def received (protobuf : Protocol.Protobuf) (payload : Transport.Result Bytes) :
    ConnectionState :=
  match s.reader with
  | .receiving =>
    if s.closed then { s with reader := .done }
    else
      match payload with
      | .error error => { s.failAll (translate error) with reader := .done }
      | .ok bytes =>
        match Protocol.decodeResponse protobuf bytes with
        | .error _ => { s.failAll { kind := .protocolViolation } with reader := .done }
        | .ok response =>
          match s.pending.find response.id with
          | none => { s.failAll { kind := .protocolViolation } with reader := .done }
          | some entry =>
            match s.calls[entry]? with
            | none => s
            | some call =>
              if call.progress = .queued ∨
                  matchesOutcome call.request.body response.body = false then
                { s.failAll { kind := .protocolViolation } with reader := .done }
              else if s.expired call then
                { s.failLocked { kind := .disconnected } response.id (s.expiry call.stop) with
                  reader := .done }
              else
                { s with
                  calls := setValue s.calls entry (.ok response)
                  pending := s.pending.erase response.id
                  reader := .looping }
  | _ => s

/-! ### Monitor -/

def monitorConnected : ConnectionState :=
  match s.monitor with
  | .starting =>
    if s.closed then { s with monitor := .done }
    else if s.connected then { s with monitor := .scanning }
    else s
  | _ => s

/-- A queued entry is completed and erased from the queue and the map. -/
def withdraw (id : UInt64) (entry : Address) (cause : Failure) : ConnectionState :=
  { s with
    calls := setValue s.calls entry (.error cause)
    queued := s.queued.filter fun other => decide (other ≠ entry)
    pending := s.pending.erase id }

end

/-- One pass over the pending entries; it ends early when a call that was already
handed to the channel has expired. -/
def scan (s : ConnectionState) : List (UInt64 × Address) → ConnectionState
  | [] => s
  | (id, entry) :: rest =>
    match s.calls[entry]? with
    | none => s
    | some call =>
      if s.expired call then
        if call.progress ≠ .queued then
          { s.failLocked { kind := .disconnected } id (s.expiry call.stop) with monitor := .done }
        else
          scan (s.withdraw id entry (s.expiry call.stop)) rest
      else scan s rest

def monitorScan (s : ConnectionState) : ConnectionState :=
  match s.monitor with
  | .scanning => if s.closed then { s with monitor := .done } else s.scan s.pending.entries
  | _ => s

end ConnectionState

/-! ## Runs -/

inductive Action where
  | connect (endpoint : WString) (deadline : Time) (stop : StopToken)
      (workers : Except CreationFailure Unit)
  | call (operation : Operation) (deadline : Time) (stop : StopToken)
  | close
  | tick (elapsed : Nat)
  | requestStop (stop : StopToken)
  | beginOpening
  | openReturned (result : Transport.Result Bool)
  | publishOpened
  | takeQueued
  | sendReturned (result : Transport.Result Nat)
  | readerConnected
  | readerLoop
  | received (payload : Transport.Result Bytes)
  | monitorConnected
  | monitorScan

namespace ConnectionState

def step (protobuf : Protocol.Protobuf) (s : ConnectionState) : Action → ConnectionState × List Handed
  | .connect endpoint deadline stop workers =>
    ((s.connectAsync endpoint deadline stop workers).2, [])
  | .call operation deadline stop => ((s.callAsync protobuf operation deadline stop).2, [])
  | .close => (s.close, [])
  | .tick elapsed => ({ s with now := s.now + elapsed }, [])
  | .requestStop stop => (s.requestStop stop, [])
  | .beginOpening => (s.beginOpening, [])
  | .openReturned result => (s.openReturned result, [])
  | .publishOpened => (s.publishOpened, [])
  | .takeQueued => s.takeQueued
  | .sendReturned result => (s.sendReturned result, [])
  | .readerConnected => (s.readerConnected, [])
  | .readerLoop => (s.readerLoop, [])
  | .received payload => (s.received protobuf payload, [])
  | .monitorConnected => (s.monitorConnected, [])
  | .monitorScan => (s.monitorScan, [])

def run (protobuf : Protocol.Protobuf) (opener : Bool) (actions : List Action) :
    ConnectionState × List Handed :=
  Transition.run (step protobuf) (initial opener) actions

end ConnectionState

end PipeForge.Client
