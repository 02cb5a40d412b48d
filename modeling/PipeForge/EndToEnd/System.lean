import PipeForge.Client.Connection
import PipeForge.Server.Session

/-!
# Client and server over two payload channels

One client connection and one server session joined by two lossless first-in
first-out channels of payloads, next to any other sessions that share the
server's identifier source. A channel never alters, repeats or reorders a payload;
a payload still inside a `send` that fails is lost, one that was delivered is not.

Every step is a critical section of the client, a section of the server loop, a
delivery, or something another session does. Channel results are chosen by the
environment within what `permits` allows. The events of a run are the calls of
`session_store::execute` made for this session, with their outcomes.
-/

namespace PipeForge.EndToEnd
open Contracts Protocol Domain Server

/-- One direction: the payload its sender is inside `send` with, if that has not
been delivered yet, and the delivered payloads in order. -/
structure Channel where
  sending : Option Bytes
  inFlight : List Bytes

namespace Channel

def empty : Channel := ⟨none, []⟩

def send (c : Channel) (payload : Bytes) : Channel := { c with sending := some payload }

def deliver (c : Channel) : Channel := ⟨none, c.inFlight ++ c.sending.toList⟩

/-- The sender's `send` has returned. -/
def returned (c : Channel) : Channel := { c with sending := none }

def take (c : Channel) : Channel := { c with inFlight := c.inFlight.tail }

/-- Everything that may still arrive, in order of arrival. -/
def payloads (c : Channel) : List Bytes := c.inFlight ++ c.sending.toList

theorem deliver_payloads (c : Channel) : c.deliver.payloads = c.payloads := by
  simp [deliver, payloads]

theorem returned_payloads (c : Channel) : c.returned.payloads.Sublist c.payloads := by
  simp [returned, payloads]

theorem send_payloads (c : Channel) (payload : Bytes) :
    (c.send payload).payloads.Sublist (c.payloads ++ [payload]) := by
  simp [send, payloads]

/-- Taking the oldest delivered payload leaves the others in order. -/
theorem take_payloads (c : Channel) {payload : Bytes} (oldest : c.inFlight.head? = some payload) :
    c.payloads = payload :: c.take.payloads := by
  simp only [payloads, take]
  rw [← List.cons_append, List.cons_head?_tail oldest]

end Channel

structure Execution where
  request : Request
  outcome : Outcome
  deriving DecidableEq, Repr

structure System where
  client : Client.ConnectionState
  toServer : Channel
  toClient : Channel
  server : ServerState
  session : Session
  /-- The stores of the other sessions. -/
  others : List SessionStore

inductive Action where
  | client (action : Client.Action)
  | deliverRequest
  | deliverReply
  | serverLoop
  | serverReceive (failure : Option Transport.Failure)
  | serverRefuse (failure : Transport.Failure)
  | serverHandle
  | serverSent (result : Transport.Result Nat)
  | serverFinish
  | serverStop
  | other (action : Domain.Action)

namespace System

def start (opener : Bool) (limits : SessionLimits) (first : UInt64) : System :=
  { client := .initial opener
    toServer := .empty
    toClient := .empty
    server := ⟨⟨first⟩, {}, false⟩
    session := .start limits
    others := [] }

/-- The channel results a client section can meet. A send succeeds only once its
payload is delivered, a receive returns the oldest payload, and a channel of whole
payloads has no framing to violate. -/
def permits (s : System) : Client.Action → Bool
  | .sendReturned (.ok _) => s.toServer.sending.isNone
  | .received (.ok payload) =>
    decide (s.client.reader = .receiving) && decide (s.toClient.inFlight.head? = some payload)
  | .received (.error error) => decide (error.kind ≠ .protocolViolation)
  | _ => true

/-- The request channel after a client section that handed over `handed`. -/
def requestChannel (s : System) (action : Client.Action) (handed : List Client.Handed) : Channel :=
  match action, handed with
  | .sendReturned _, _ => s.toServer.returned
  | _, one :: _ => s.toServer.send one.payload
  | _, [] => s.toServer

def replyChannel (s : System) : Client.Action → Channel
  | .received (.ok _) => s.toClient.take
  | _ => s.toClient

def stepClient (protobuf : Protobuf) (s : System) (action : Client.Action) : System :=
  if s.permits action then
    let next := s.client.step protobuf action
    { s with
      client := next.1
      toServer := s.requestChannel action next.2
      toClient := s.replyChannel action }
  else s

/-- What the gate section executes for this session. -/
def executions (protobuf : Protobuf) (registry : ClassRegistry) (s : System) : List Execution :=
  match s.session.point with
  | .dispatching payload =>
    match executes protobuf payload with
    | none => []
    | some request =>
      [⟨request, (s.session.store.execute registry s.server.ids request.body).outcome⟩]
  | _ => []

def stepHandle (protobuf : Protobuf) (registry : ClassRegistry) (s : System) : System :=
  let next := s.session.handled s.server protobuf registry
  { s with
    server := next.1
    session := next.2
    toClient :=
      match s.session.point, next.2.point with
      | .dispatching _, .replying encoded => s.toClient.send encoded
      | _, _ => s.toClient }

def stepReceive (s : System) (failure : Option Transport.Failure) : System :=
  match s.session.point, failure, s.toServer.inFlight with
  | .receiving, some error, _ =>
    let next := s.session.received s.server (.error error)
    { s with server := next.1, session := next.2 }
  | .receiving, none, payload :: _ =>
    let next := s.session.received s.server (.ok payload)
    { s with server := next.1, session := next.2, toServer := s.toServer.take }
  | _, _, _ => s

/-- The server's `send` too succeeds only once its payload is delivered. -/
def stepSent (s : System) (result : Transport.Result Nat) : System :=
  match s.session.point with
  | .replying _ =>
    if result.isOk && s.toClient.sending.isSome then s
    else
      let next := s.session.sent s.server result
      { s with server := next.1, session := next.2, toClient := s.toClient.returned }
  | _ => s

def step (protobuf : Protobuf) (registry : ClassRegistry) (s : System) :
    Action → System × List Execution
  | .client action => (s.stepClient protobuf action, [])
  | .deliverRequest => ({ s with toServer := s.toServer.deliver }, [])
  | .deliverReply => ({ s with toClient := s.toClient.deliver }, [])
  | .serverLoop => ({ s with session := s.session.loop s.server }, [])
  | .serverReceive failure => (s.stepReceive failure, [])
  | .serverRefuse failure =>
    let next := s.session.refused s.server failure
    ({ s with server := next.1, session := next.2 }, [])
  | .serverHandle => (s.stepHandle protobuf registry, s.executions protobuf registry)
  | .serverSent result => (s.stepSent result, [])
  | .serverFinish => ({ s with session := s.session.finish }, [])
  | .serverStop => ({ s with server := { s.server with stopping := true } }, [])
  | .other action =>
    let next := World.step registry ⟨s.server.ids, s.others⟩ action
    ({ s with server := { s.server with ids := next.1.ids }, others := next.1.sessions }, [])

/-- A run from the first connection, with the executions it made. -/
def run (protobuf : Protobuf) (registry : ClassRegistry) (opener : Bool) (limits : SessionLimits)
    (first : UInt64) (actions : List Action) : System × List Execution :=
  Library.Transition.run (step protobuf registry) (start opener limits first) actions

end System

end PipeForge.EndToEnd
