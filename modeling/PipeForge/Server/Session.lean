import PipeForge.Server.Dispatcher
import PipeForge.Transport.Types

/-!
# The session loop of the server

`server_state::serve`, `dispatch` and `record` (transport/windows/server.cpp), and
the close of the store that follows them in `run`. Each function is the work
between two blocking calls, so a run alternates them with the results of the
stream and of the domain gate. Logging and the accept loop are left out.
-/

namespace PipeForge.Server
open Contracts Protocol Domain

/-- The counters of `server_state`. The source has `std::uint64_t` for the first three; here
they do not wrap. -/
structure Statistics where
  completed : Nat := 0
  protocolErrors : Nat := 0
  ioErrors : Nat := 0
  lastError : UInt32 := 0
  deriving DecidableEq, Repr

/-- What the sessions of a server share. -/
structure ServerState where
  ids : IdentifierSource
  statistics : Statistics
  /-- `shutdown_.stop_requested()`. -/
  stopping : Bool

def Statistics.record (statistics : Statistics) (stopping : Bool) (error : Transport.Failure) :
    Statistics :=
  let counted :=
    if error.kind = .protocolViolation then
      { statistics with protocolErrors := statistics.protocolErrors + 1 }
    else if error.kind ≠ .disconnected ∧ stopping = false then
      { statistics with ioErrors := statistics.ioErrors + 1 }
    else statistics
  if error.nativeError ≠ 0 then { counted with lastError := error.nativeError } else counted

def ServerState.record (server : ServerState) (error : Transport.Failure) : ServerState :=
  { server with statistics := server.statistics.record server.stopping error }

/-- Where the worker stands: at the head of the loop, in `receive`, before the
domain gate, in `send`, or past the loop. -/
inductive Point where
  | looping
  | receiving
  | dispatching (payload : Bytes)
  | replying (encoded : Bytes)
  | closing
  | ended
  deriving DecidableEq, Repr

structure Session where
  point : Point
  store : SessionStore

namespace Session

def start (limits : SessionLimits) : Session := ⟨.looping, .create limits⟩

section
variable (server : ServerState) (session : Session)

def loop : Session :=
  match session.point with
  | .looping =>
    if server.stopping then { session with point := .closing }
    else { session with point := .receiving }
  | _ => session

def received (payload : Transport.Result Bytes) : ServerState × Session :=
  match session.point with
  | .receiving =>
    match payload with
    | .error error => (server.record error, { session with point := .closing })
    | .ok payload => (server, { session with point := .dispatching payload })
  | _ => (server, session)

/-- The deadline passed or a stop was requested before the request could run. -/
def refused (error : Transport.Failure) : ServerState × Session :=
  match session.point with
  | .dispatching _ => (server.record error, { session with point := .closing })
  | _ => (server, session)

/-- The request runs inside the gate and its reply is encoded. -/
def handled (protobuf : Protobuf) (registry : ClassRegistry) : ServerState × Session :=
  match session.point with
  | .dispatching payload =>
    let statistics :=
      match decodeRequest protobuf payload with
      | .error _ =>
        { server.statistics with protocolErrors := server.statistics.protocolErrors + 1 }
      | .ok _ => server.statistics
    let served := dispatch protobuf registry server.ids session.store payload
    let server := { server with ids := served.ids, statistics }
    match served.encoded with
    | none => (server, ⟨.closing, served.store⟩)
    | some (.error _) =>
      (server.record { kind := .protocolViolation }, ⟨.closing, served.store⟩)
    | some (.ok encoded) => (server, ⟨.replying encoded, served.store⟩)
  | _ => (server, session)

def sent (result : Transport.Result Nat) : ServerState × Session :=
  match session.point with
  | .replying _ =>
    match result with
    | .error error => (server.record error, { session with point := .closing })
    | .ok _ =>
      ({ server with
        statistics := { server.statistics with completed := server.statistics.completed + 1 } },
        { session with point := .looping })
  | _ => (server, session)

def finish : Session :=
  match session.point with
  | .closing => ⟨.ended, session.store.close⟩
  | _ => session

end

end Session

/-- The request that `process` passes to `session_store::execute`, if it does. -/
def executes (protobuf : Protobuf) (payload : Bytes) : Option Request :=
  match decodeRequest protobuf payload with
  | .error _ => none
  | .ok request =>
    if request.id = 0 ∨ request.protocolVersion ≠ version then none else some request

section
variable {protobuf : Protobuf} {payload : Bytes} {request : Request}

theorem executes_decoded (decoded : decodeRequest protobuf payload = .ok request) :
    executes protobuf payload = some request := by
  obtain ⟨nonzero, supported⟩ := decodeRequest_supported decoded
  simp only [executes, decoded, nonzero, supported, ne_eq, not_true_eq_false, or_self, if_false]

/-- A decoded request whose outcome encodes is executed and replied to. -/
theorem handled_executed (decoded : decodeRequest protobuf payload = .ok request)
    (registry : ClassRegistry) (server : ServerState) (session : Session)
    (point : session.point = .dispatching payload) {encoded : Bytes}
    (replied : encodeResponse protobuf ⟨request.id,
      (session.store.execute registry server.ids request.body).outcome, version⟩ = .ok encoded) :
    session.handled server protobuf registry =
      ({ server with ids := (session.store.execute registry server.ids request.body).ids },
        ⟨.replying encoded, (session.store.execute registry server.ids request.body).store⟩) := by
  simp only [Session.handled, point, decoded, dispatch, handle_executed _ _ _ decoded, reply, replied]

end

end PipeForge.Server
