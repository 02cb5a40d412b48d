import PipeForge.Client.Threads
import PipeForge.EndToEnd.System
import PipeForge.Server.Host
import PipeForge.Transport.Delivery

/-!
# Client and server over a pipe

The client connection and the server session of `System`, joined by the real streams
instead of payload channels. The client's channel forwards to a `pipe_stream`
(windows_channel.cpp), the server's worker uses its own, and between them the kernel
keeps two first-in first-out queues of bytes. The calls of `send` and `receive` are no
longer steps: they run through the write and read loops of the stream, a piece at a
time, while every other thread goes on.

A result that a stream has returned waits in its `End` until the caller reaches the
section that handles it. What the kernel reports, and how it cuts the bytes, is the
environment's choice; bytes are neither lost nor reordered as long as reads succeed,
and a failed or empty read may come at any time. A write that is reported as failed may
have put bytes into the pipe all the same: the request was cancelled too late.
-/

namespace PipeForge.EndToEnd
open Contracts Library Protocol Domain Server Transport

/-- One end of the pipe: the stream with the I/O it made, and the results of `send`
and `receive` that their callers have not handled yet. -/
structure End where
  stream : PipeStream := {}
  past : List Transport.Event := []
  /-- What the kernel took in a write that failed. -/
  leaked : Bytes := []
  sent : Option (Transport.Result Nat) := none
  received : Option (Transport.Result Bytes) := none

/-- The pieces of the two calls, with what the kernel or `preflight` reports. A failed
write comes with the number of bytes that the kernel took nevertheless. -/
inductive Io where
  | send (preflight : Option NativeFailure)
  | wrote (written : Except (NativeFailure × Nat) Nat)
  | receive
  | checked (preflight : Option NativeFailure)
  | read (received : Except NativeFailure Chunk)

def sentResult : Transport.Event → Option (Transport.Result Nat)
  | .sent result => some result
  | _ => none

def receivedResult : Transport.Event → Option (Transport.Result Bytes)
  | .received result => some result
  | _ => none

namespace End
variable (e : End)

/-- The end after a step of its stream. -/
def after (done : PipeStream × List Transport.Event) : End where
  stream := done.1
  past := e.past ++ done.2
  leaked := e.leaked
  sent := (done.2.findSome? sentResult).or e.sent
  received := (done.2.findSome? receivedResult).or e.received

/-- What the stream does next. A call begins when its caller is inside it and holds no
result yet, and the kernel delivers the oldest bytes of the `inbox`. -/
def io (sending : Option Bytes) (receiving : Bool) (inbox : Bytes) :
    Io → PipeStream × List Transport.Event
  | .send refusal =>
    match sending, e.sent with
    | some payload, none => e.stream.send payload (refusal.map Subtype.val)
    | _, _ => (e.stream, [])
  | .wrote written => e.stream.wrote (written.mapError (·.1.val))
  | .receive =>
    if receiving && e.received.isNone then e.stream.receive else (e.stream, [])
  | .checked refusal => e.stream.checked (refusal.map Subtype.val)
  | .read (.ok chunk) =>
    if chunk.val.isPrefixOf inbox then e.stream.read (.ok chunk) else (e.stream, [])
  | .read (.error error) => e.stream.read (.error error.val)

/-- What a failed write leaves in the pipe. -/
def leaks : Io → Bytes
  | .wrote (.error (_, count)) =>
    match e.stream.sender with
    | .writing _ remaining => remaining.take count
    | .idle => []
  | _ => []

def leak (bytes : Bytes) : End := { e with leaked := e.leaked ++ bytes }

end End

structure Wire where
  client : Client.ConnectionState
  /-- The client's end of the pipe. -/
  near : End
  /-- The server's. -/
  far : End
  /-- What the kernel took from the client and has not delivered yet. -/
  toServer : Bytes
  toClient : Bytes
  server : ServerState
  session : Session
  others : List SessionStore

/-- The payload the writer is inside `channel::send` with. -/
def clientSends (client : Client.ConnectionState) : Option Bytes :=
  match client.writer with
  | .sending entry => client.calls[entry]?.map (·.encoded)
  | _ => none

def clientReceives (client : Client.ConnectionState) : Bool := decide (client.reader = .receiving)

def serverSends (session : Session) : Option Bytes :=
  match session.point with
  | .replying encoded => some encoded
  | _ => none

def serverReceives (session : Session) : Bool := decide (session.point = .receiving)

/-- Sections that follow no I/O call are taken as they are; those that do are the
actions `clientSent`, `clientReceived`, `serverReceived` and `serverSent`. -/
inductive WireAction where
  | client (action : Client.Action)
  | clientSent
  | clientReceived
  /-- `channel::close`, once both directions have returned. -/
  | clientHangsUp
  | near (io : Io)
  | far (io : Io)
  | serverLoop
  | serverReceived
  | serverRefuse (failure : Transport.Failure)
  | serverHandle
  | serverSent
  | serverFinish
  | serverStop
  | other (action : Domain.Action)

/-- The invariant that a fresh stream carries. -/
theorem buffer_full : (List.replicate bufferBytes (0 : UInt8)).length = bufferBytes :=
  List.length_replicate

namespace Wire

def start (opener : Bool) (limits : SessionLimits) (first : UInt64) : Wire :=
  { client := .initial opener
    near := { stream := { state := { full := buffer_full } } }
    far := { stream := { state := { full := buffer_full } } }
    toServer := []
    toClient := []
    server := ⟨⟨first⟩, {}, false⟩
    session := .start limits
    others := [] }

section
variable (protobuf : Protobuf) (registry : ClassRegistry) (w : Wire)

def stepClient (action : Client.Action) : Wire :=
  match action with
  | .sendReturned _ | .received _ => w
  | _ => { w with client := (w.client.step protobuf action).1 }

def stepClientSent : Wire :=
  match w.near.sent with
  | some result =>
    { w with client := w.client.sendReturned result, near := { w.near with sent := none } }
  | none => w

def stepClientReceived : Wire :=
  match w.near.received with
  | some result =>
    { w with
      client := w.client.received protobuf result
      near := { w.near with received := none } }
  | none => w

def hangUp : Wire :=
  match w.client.writer with
  | .done =>
    if w.client.reader.finished then { w with near := w.near.after (w.near.stream.close, []) } else w
  | _ => w

/-- The client's stream moves: the kernel takes and delivers bytes. -/
def stepNear (io : Io) : Wire :=
  let done := w.near.io (clientSends w.client) (clientReceives w.client) w.toClient io
  { w with
    near := (w.near.after done).leak (w.near.leaks io)
    toServer := w.toServer ++ outgoing done.2 ++ w.near.leaks io
    toClient := w.toClient.drop (incoming done.2).length }

def stepFar (io : Io) : Wire :=
  let done := w.far.io (serverSends w.session) (serverReceives w.session) w.toServer io
  { w with
    far := (w.far.after done).leak (w.far.leaks io)
    toClient := w.toClient ++ outgoing done.2 ++ w.far.leaks io
    toServer := w.toServer.drop (incoming done.2).length }

def stepServerReceived : Wire :=
  match w.far.received with
  | some result =>
    let next := w.session.received w.server result
    { w with server := next.1, session := next.2, far := { w.far with received := none } }
  | none => w

def stepServerSent : Wire :=
  match w.far.sent with
  | some result =>
    let next := w.session.sent w.server result
    { w with server := next.1, session := next.2, far := { w.far with sent := none } }
  | none => w

/-- What the gate section executes for this session. -/
def executions : List Execution :=
  match w.session.point with
  | .dispatching payload =>
    match executes protobuf payload with
    | none => []
    | some request =>
      [⟨request, (w.session.store.execute registry w.server.ids request.body).outcome⟩]
  | _ => []

def step : WireAction → Wire × List Execution
  | .client action => (w.stepClient protobuf action, [])
  | .clientSent => (w.stepClientSent, [])
  | .clientReceived => (w.stepClientReceived protobuf, [])
  | .clientHangsUp => (w.hangUp, [])
  | .near io => (w.stepNear io, [])
  | .far io => (w.stepFar io, [])
  | .serverLoop => ({ w with session := w.session.loop w.server }, [])
  | .serverReceived => (w.stepServerReceived, [])
  | .serverRefuse failure =>
    let next := w.session.refused w.server failure
    ({ w with server := next.1, session := next.2 }, [])
  | .serverHandle =>
    let next := w.session.handled w.server protobuf registry
    ({ w with server := next.1, session := next.2 }, w.executions protobuf registry)
  | .serverSent => (w.stepServerSent, [])
  | .serverFinish => ({ w with session := w.session.finish }, [])
  | .serverStop => ({ w with server := { w.server with stopping := true } }, [])
  | .other action =>
    let next := World.step registry ⟨w.server.ids, w.others⟩ action
    ({ w with server := { w.server with ids := next.1.ids }, others := next.1.sessions }, [])

end

def run (protobuf : Protobuf) (registry : ClassRegistry) (opener : Bool) (limits : SessionLimits)
    (first : UInt64) (actions : List WireAction) : Wire × List Execution :=
  Transition.run (step protobuf registry) (start opener limits first) actions

end Wire

end PipeForge.EndToEnd
