import PipeForge.Library.Simulation
import PipeForge.Server.Host
import PipeForge.Transport.Native

/-!
# The workers of a server

`server_state::run`, `serve` and `dispatch` (transport/windows/server.cpp) as the
threads run them: one worker for each pipe instance, all over one domain gate, one
identifier source and one set of counters. A section of a worker is what it does
between two points where others can intervene: blocking calls, and the places where it
takes or gives back the gate. The dispatcher reads the identifiers when it begins and
writes them when it is done, so that without the gate two requests could be given the
same identifier.

`Host` treats the handling of a request as one step and knows neither the gate nor the
deadline; that the workers implement it is the subject of `Server.Gate`.
-/

namespace PipeForge.Server
open Contracts Library Protocol Domain Transport

theorem preflight_native {stopping : Bool} {now deadline : Time} (error : Transport.Failure)
    (refused : error ∈ Transport.preflight stopping now deadline) : error.kind ≠ .protocolViolation := by
  rcases preflight_kind refused with ⟨rfl, -⟩ | ⟨rfl, -⟩ <;> exact nofun

def preflight (stopping : Bool) (now deadline : Time) : Option NativeFailure :=
  (Transport.preflight stopping now deadline).pmap Subtype.mk preflight_native

/-- Where a worker stands towards the gate: away from it, before the test in the wait
loop, in `try_lock_for` or the final lock, inside, or inside the dispatcher. -/
inductive GatePoint where
  | outside
  | checking
  | waiting
  | holding
  | executing (ids : IdentifierSource)

/-- An accepted session, with the number of its connection. -/
structure Connection where
  number : Nat
  serving : Serving
  deadline : Time := 0
  gate : GatePoint := .outside

/-- Where a worker stands in `run`. Past `store.close()` a session is left, and then the
pipe is disconnected. -/
inductive WorkerPoint where
  | head
  | accepting
  | connected (connection : Connection)
  | leaving
  | disconnecting
  | returned

structure Pool where
  server : ServerState
  /-- `options_.request_timeout` and `options_.storage`. -/
  timeout : Time
  limits : SessionLimits
  now : Time
  /-- The worker that holds `domain_gate_`. -/
  gate : Option Nat
  /-- `connections_` and `active_`, without the wrap of `std::uint64_t` and `std::size_t`. -/
  connections : Nat
  active : Nat
  workers : List WorkerPoint

/-- The sections, with the results of the calls before them. -/
inductive Work where
  | head
  | accepted (result : Except NativeFailure Unit)
  | loop
  | received (payload : Transport.Result Bytes)
  | check
  | acquire
  /-- `try_lock_for` gives up. -/
  | slice
  | recheck
  | commit
  | sent (result : Except NativeFailure Nat)
  | close
  | left
  | disconnected (failure : Option NativeFailure)

inductive PoolAction where
  | work (worker : Nat) (work : Work)
  | stop
  | tick (elapsed : Time)

/-- The gate point that goes with a point of the session between two calls. -/
def Session.gatePoint (session : Session) : GatePoint :=
  match session.point with
  | .dispatching _ => .checking
  | .closing => .waiting
  | _ => .outside

namespace Pool
variable (protobuf : Protobuf) (registry : ClassRegistry) (pool : Pool)

/-- A turn of a session over the given shared state. -/
def turn (server : ServerState) (c : Connection) (turn : Turn) :
    ServerState × Connection × List Seen :=
  let done := c.serving.step protobuf registry server turn
  (done.1, { c with serving := done.2.1, gate := done.2.1.session.gatePoint },
    [⟨c.number, c.serving.round, done.2.2,
      done.1.statistics.protocolErrors - server.statistics.protocolErrors,
      done.1.statistics.completed - server.statistics.completed⟩])

/-- A worker inside a session moves on with its turn. -/
def serve (c : Connection) (turn : Turn) : Pool × WorkerPoint × List Seen :=
  let done := Pool.turn protobuf registry pool.server c turn
  ({ pool with server := done.1 }, .connected done.2.1, done.2.2)

/-- The same, giving back the gate. -/
def serveAndRelease (server : ServerState) (c : Connection) (turn : Turn) :
    Pool × WorkerPoint × List Seen :=
  let done := Pool.turn protobuf registry server c turn
  ({ pool with server := done.1, gate := none }, .connected done.2.1, done.2.2)

def accepted (result : Except NativeFailure Unit) : Pool × WorkerPoint × List Seen :=
  match result with
  | .ok () =>
    ({ pool with connections := pool.connections + 1, active := pool.active + 1 },
      .connected { number := pool.connections, serving := { session := .start pool.limits } }, [])
  | .error error =>
    if pool.server.stopping then (pool, .returned, [])
    else if error.val.kind = .disconnected then
      ({ pool with server := pool.server.record error.val }, .head, [])
    else
      ({ pool with server := { pool.server.record error.val with stopping := true } }, .returned, [])

/-- A section of the worker `i` with an open session. -/
def connected (i : Nat) (c : Connection) : Work → Pool × WorkerPoint × List Seen
  | .loop =>
    match c.serving.session.point with
    | .looping =>
      pool.serve protobuf registry { c with deadline := pool.now + pool.timeout } .loop
    | _ => (pool, .connected c, [])
  | .received payload =>
    match c.serving.session.point with
    | .receiving => pool.serve protobuf registry c (.received payload)
    | _ => (pool, .connected c, [])
  | .check =>
    match c.gate with
    | .checking =>
      match preflight pool.server.stopping pool.now c.deadline with
      | some error => pool.serve protobuf registry c (.refused error)
      | none => (pool, .connected { c with gate := .waiting }, [])
    | _ => (pool, .connected c, [])
  | .acquire =>
    match c.gate, pool.gate with
    | .waiting, none => ({ pool with gate := some i }, .connected { c with gate := .holding }, [])
    | _, _ => (pool, .connected c, [])
  | .slice =>
    match c.gate, c.serving.session.point with
    | .waiting, .dispatching _ => (pool, .connected { c with gate := .checking }, [])
    | _, _ => (pool, .connected c, [])
  | .recheck =>
    match c.gate, c.serving.session.point with
    | .holding, .dispatching _ =>
      match preflight pool.server.stopping pool.now c.deadline with
      | some error => pool.serveAndRelease protobuf registry pool.server c (.refused error)
      | none => (pool, .connected { c with gate := .executing pool.server.ids }, [])
    | _, _ => (pool, .connected c, [])
  | .commit =>
    match c.gate with
    | .executing ids =>
      pool.serveAndRelease protobuf registry { pool.server with ids } c .handled
    | _ => (pool, .connected c, [])
  | .sent result =>
    match c.serving.session.point with
    | .replying _ => pool.serve protobuf registry c (.sent result)
    | _ => (pool, .connected c, [])
  | .close =>
    match c.gate, c.serving.session.point with
    | .holding, .closing =>
      let done := pool.serveAndRelease protobuf registry pool.server c .finish
      (done.1, .leaving, done.2.2)
    | _, _ => (pool, .connected c, [])
  | _ => (pool, .connected c, [])

def work (i : Nat) (point : WorkerPoint) (section_ : Work) : Pool × WorkerPoint × List Seen :=
  match point, section_ with
  | .head, .head => (pool, if pool.server.stopping then .returned else .accepting, [])
  | .accepting, .accepted result => pool.accepted result
  | .connected c, section_ => pool.connected protobuf registry i c section_
  | .leaving, .left => ({ pool with active := pool.active - 1 }, .disconnecting, [])
  | .disconnecting, .disconnected none => (pool, .head, [])
  | .disconnecting, .disconnected (some error) =>
    ({ pool with server := { pool.server.record error.val with stopping := true } }, .head, [])
  | point, _ => (pool, point, [])

def step : PoolAction → Pool × List Seen
  | .work i section_ =>
    match pool.workers[i]? with
    | none => (pool, [])
    | some point =>
      let done := pool.work protobuf registry i point section_
      ({ done.1 with workers := pool.workers.set i done.2.1 }, done.2.2)
  | .stop => ({ pool with server := { pool.server with stopping := true } }, [])
  | .tick elapsed => ({ pool with now := pool.now + elapsed }, [])

/-- `launch` has created a worker for each pipe instance. -/
def launch (sessions : Nat) (timeout : Time) (limits : SessionLimits) (first : UInt64) : Pool :=
  { server := ⟨⟨first⟩, {}, false⟩
    timeout
    limits
    now := 0
    gate := none
    connections := 0
    active := 0
    workers := List.replicate sessions .head }

def run (sessions : Nat) (timeout : Time) (limits : SessionLimits) (first : UInt64)
    (actions : List PoolAction) : Pool × List Seen :=
  Transition.run (step protobuf registry) (launch sessions timeout limits first) actions

end Pool

end PipeForge.Server
