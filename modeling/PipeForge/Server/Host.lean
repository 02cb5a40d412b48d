import PipeForge.Server.Session

/-!
# The sessions of one server

Any number of sessions, each at its own place in `serve`, and the state they share
(transport/windows/server.cpp). A turn is what a worker does between two blocking
calls, with the result of the first; turns of the sessions interleave freely with
the calls of `server_state::run` and `request_stop`. The log of a run keeps for
every turn what an observer sees of it and how far it moved the counters.

`Moved` is what a turn of a session with a sound store can do.
-/

namespace PipeForge.Server
open Contracts Library Protocol Domain

/-! ## Sessions of one server -/

/-- What `preflight`, `accept`, `write_some` and the disconnect report. A reply has
a frame, so only `receive` finds a protocol violation. -/
abbrev NativeFailure := { error : Transport.Failure // error.kind ≠ .protocolViolation }

/-- A session with the payload `serve` holds and the number of its iterations. -/
structure Serving where
  session : Session
  payload : Bytes := []
  round : Nat := 0

inductive Turn where
  | loop
  | received (payload : Transport.Result Bytes)
  | refused (error : NativeFailure)
  | handled
  | sent (result : Except NativeFailure Nat)
  | finish

/-- What can be seen of a turn without the counters. -/
inductive Observation where
  /-- The session ends by a failure of frame or envelope. -/
  | terminal
  /-- A payload fails to decode and the session survives. -/
  | recoverable
  /-- The response to a dispatched request was sent. -/
  | answered
  /-- The response to a recoverable failure was sent. -/
  | apologised
  deriving DecidableEq, Repr

namespace Serving
variable (w : Serving)

def seenReceived (payload : Transport.Result Bytes) : Option Observation :=
  match w.session.point, payload with
  | .receiving, .error error => if error.kind = .protocolViolation then some .terminal else none
  | _, _ => none

def seenHandled (protobuf : Protobuf) : Option Observation :=
  match w.session.point with
  | .dispatching payload =>
    match decodeRequest protobuf payload with
    | .error failure =>
      match reject failure with
      | .error _ => some .terminal
      | .ok _ => some .recoverable
    | .ok _ => none
  | _ => none

def seenSent (protobuf : Protobuf) (result : Except NativeFailure Nat) : Option Observation :=
  match w.session.point, result with
  | .replying _, .ok _ =>
    match decodeRequest protobuf w.payload with
    | .error _ => some .apologised
    | .ok _ => some .answered
  | _, _ => none

def keep (payload : Transport.Result Bytes) : Bytes :=
  match w.session.point, payload with
  | .receiving, .ok payload => payload
  | _, _ => w.payload

def nextRound : Nat :=
  match w.session.point with
  | .looping => w.round + 1
  | _ => w.round

def step (protobuf : Protobuf) (registry : ClassRegistry) (server : ServerState) :
    Turn → ServerState × Serving × Option Observation
  | .loop => (server, ⟨w.session.loop server, w.payload, w.nextRound⟩, none)
  | .received payload =>
    let done := w.session.received server payload
    (done.1, ⟨done.2, w.keep payload, w.round⟩, w.seenReceived payload)
  | .refused error =>
    let done := w.session.refused server error.val
    (done.1, { w with session := done.2 }, none)
  | .handled =>
    let done := w.session.handled server protobuf registry
    (done.1, { w with session := done.2 }, w.seenHandled protobuf)
  | .sent result =>
    let done := w.session.sent server (result.mapError Subtype.val)
    (done.1, { w with session := done.2 }, w.seenSent protobuf result)
  | .finish => (server, { w with session := w.session.finish }, none)

end Serving

structure Host where
  server : ServerState
  sessions : List Serving

/-- `stop` is `request_stop`; the failed calls are those of `server_state::run`. -/
inductive HostAction where
  | accept (limits : SessionLimits)
  | acceptFailed (error : NativeFailure)
  | disconnectFailed (error : NativeFailure)
  | stop
  | serve (session : Nat) (turn : Turn)

/-- A turn of a session in the log, with how far it moved the two counters. -/
structure Seen where
  session : Nat
  round : Nat
  what : Option Observation
  protocolErrors : Nat
  completed : Nat
  deriving DecidableEq, Repr

namespace Host

/-- Turns of a session that does not exist do nothing. -/
def step (protobuf : Protobuf) (registry : ClassRegistry) (host : Host) :
    HostAction → Host × List Seen
  | .accept limits => ({ host with sessions := host.sessions ++ [{ session := .start limits }] }, [])
  | .acceptFailed error =>
    if host.server.stopping then (host, [])
    else if error.val.kind = .disconnected then
      ({ host with server := host.server.record error.val }, [])
    else ({ host with server := { host.server.record error.val with stopping := true } }, [])
  | .disconnectFailed error =>
    ({ host with server := { host.server.record error.val with stopping := true } }, [])
  | .stop => ({ host with server := { host.server with stopping := true } }, [])
  | .serve session turn =>
    match host.sessions[session]? with
    | none => (host, [])
    | some w =>
      let done := w.step protobuf registry host.server turn
      (⟨done.1, host.sessions.set session done.2.1⟩,
        [⟨session, w.round, done.2.2,
          done.1.statistics.protocolErrors - host.server.statistics.protocolErrors,
          done.1.statistics.completed - host.server.statistics.completed⟩])

def start (first : UInt64) : Host := ⟨⟨⟨first⟩, {}, false⟩, []⟩

def run (protobuf : Protobuf) (registry : ClassRegistry) (first : UInt64)
    (actions : List HostAction) : Host × List Seen :=
  Transition.run (step protobuf registry) (start first) actions

end Host

/-! ## What a turn can do -/

/-- The decoder refuses the payload in a way that `reject` answers. -/
def Recoverable (protobuf : Protobuf) (payload : Bytes) : Prop :=
  ∃ failure response, decodeRequest protobuf payload = .error failure ∧
    reject failure = .ok response

def ServerState.countFailure (server : ServerState) : ServerState :=
  { server with statistics :=
    { server.statistics with protocolErrors := server.statistics.protocolErrors + 1 } }

def ServerState.countCompleted (server : ServerState) : ServerState :=
  { server with statistics :=
    { server.statistics with completed := server.statistics.completed + 1 } }

/-- Within an iteration of the loop. -/
def Point.busy : Point → Bool
  | .receiving | .dispatching _ | .replying _ => true
  | _ => false

/-- Past the loop. -/
def Point.past : Point → Bool
  | .closing | .ended => true
  | _ => false

def Serving.at_ (w : Serving) (point : Point) : Serving :=
  { w with session := { w.session with point } }

/-- The turns of a session, by the point they leave. -/
inductive Moved (protobuf : Protobuf) (registry : ClassRegistry) (server : ServerState)
    (w : Serving) : ServerState → Serving → Option Observation → Prop
  | idle : Moved protobuf registry server w server w none
  | iterated (next : Point) (head : w.session.point = .looping)
      (enters : next = .receiving ∨ next = .closing) :
      Moved protobuf registry server w server { w.at_ next with round := w.round + 1 } none
  | received (payload : Bytes) (reading : w.session.point = .receiving) :
      Moved protobuf registry server w server { w.at_ (.dispatching payload) with payload } none
  | violated (error : Transport.Failure) (reading : w.session.point = .receiving)
      (kind : error.kind = .protocolViolation) :
      Moved protobuf registry server w (server.record error) (w.at_ .closing) (some .terminal)
  | broken (error : NativeFailure) (busy : w.session.point.busy = true) :
      Moved protobuf registry server w (server.record error.val) (w.at_ .closing) none
  | executed (payload : Bytes) (request : Request) (encoded : Bytes)
      (gate : w.session.point = .dispatching payload)
      (decoded : decodeRequest protobuf payload = .ok request)
      (fits : validLength encoded.length) :
      Moved protobuf registry server w
        { server with ids := (w.session.store.execute registry server.ids request.body).ids }
        { w with session := ⟨.replying encoded,
          (w.session.store.execute registry server.ids request.body).store⟩ } none
  | rejected (payload : Bytes) (encoded : Bytes) (gate : w.session.point = .dispatching payload)
      (recoverable : Recoverable protobuf payload) (fits : validLength encoded.length) :
      Moved protobuf registry server w server.countFailure (w.at_ (.replying encoded))
        (some .recoverable)
  | abandoned (payload : Bytes) (gate : w.session.point = .dispatching payload)
      (fatal : ¬ Recoverable protobuf payload) :
      Moved protobuf registry server w server.countFailure (w.at_ .closing) (some .terminal)
  | answered (encoded : Bytes) (request : Request) (writing : w.session.point = .replying encoded)
      (decoded : decodeRequest protobuf w.payload = .ok request) :
      Moved protobuf registry server w server.countCompleted (w.at_ .looping) (some .answered)
  | apologised (encoded : Bytes) (failure : Failure)
      (writing : w.session.point = .replying encoded)
      (failed : decodeRequest protobuf w.payload = .error failure) :
      Moved protobuf registry server w server.countCompleted (w.at_ .looping) (some .apologised)
  | finished (left : w.session.point = .closing) :
      Moved protobuf registry server w server
        { w with session := ⟨.ended, w.session.store.close⟩ } none

section
variable {protobuf : Protobuf} {registry : ClassRegistry} {server : ServerState} {w : Serving}

/-- A payload passes the gate: it is executed and answered, or refused. That the
codec refuses the answer is not among the cases, since the store is sound. -/
theorem Serving.handled_moved (conforms : protobuf.Conforms)
    (sound : Sound registry server.ids w.session.store) {payload : Bytes}
    (gate : w.session.point = .dispatching payload) :
    let done := w.step protobuf registry server .handled
    Moved protobuf registry server w done.1 done.2.1 done.2.2 := by
  cases decoded : decodeRequest protobuf payload with
  | ok request =>
    obtain ⟨encoded, replied⟩ := encodeResponse_sound conforms
      (execute_soundOutcome sound request.body) (decodeRequest_supported decoded).1
    have done := handled_executed decoded registry server w.session gate replied
    simp only [Serving.step, Serving.seenHandled, gate, decoded, done]
    exact .executed payload request encoded gate decoded (encodeResponse_fits conforms replied)
  | error failure =>
    rcases decodeRequest_failure decoded with closing | ⟨message, -, correlated⟩
    · have fatal : ¬ Recoverable protobuf payload := by
        intro recoverable
        obtain ⟨found, response, failed, answered⟩ := recoverable
        cases decoded.symm.trans failed
        rw [reject_closing closing] at answered
        cases answered
      simp only [Serving.step, Session.handled, Serving.seenHandled, gate, decoded, dispatch,
        handle, reject_closing closing, reply]
      exact .abandoned payload gate fatal
    · have answer := reject_correlated correlated
      have fixed : SoundOutcome (.error (makeError (rejectCode failure.code))) := ⟨_, rfl⟩
      obtain ⟨encoded, replied⟩ := encodeResponse_sound conforms fixed correlated.nonzero
      simp only [Serving.step, Session.handled, Serving.seenHandled, gate, decoded, dispatch,
        handle, answer, reply, replied]
      exact .rejected payload encoded gate ⟨failure, _, decoded, answer⟩
        (encodeResponse_fits conforms replied)

/-- A turn of a session is one of the moves listed, with what the counters see of it. -/
theorem Serving.step_moved (conforms : protobuf.Conforms)
    (sound : Sound registry server.ids w.session.store) (turn : Turn) :
    let done := w.step protobuf registry server turn
    Moved protobuf registry server w done.1 done.2.1 done.2.2 := by
  cases turn with
  | loop =>
    cases point : w.session.point with
    | looping =>
      simp only [Serving.step, Session.loop, Serving.nextRound, point]
      split
      · exact .iterated .closing point (Or.inr rfl)
      · exact .iterated .receiving point (Or.inl rfl)
    | _ =>
      simp only [Serving.step, Session.loop, Serving.nextRound, point]
      exact .idle
  | received payload =>
    cases point : w.session.point with
    | receiving =>
      cases payload with
      | ok payload =>
        simp only [Serving.step, Session.received, Serving.keep, Serving.seenReceived, point]
        exact .received payload point
      | error error =>
        simp only [Serving.step, Session.received, Serving.keep, Serving.seenReceived, point]
        split
        · rename_i kind
          exact .violated error point kind
        · rename_i kind
          exact .broken ⟨error, kind⟩ (by rw [point]; rfl)
    | _ =>
      simp only [Serving.step, Session.received, Serving.keep, Serving.seenReceived, point]
      exact .idle
  | refused error =>
    cases point : w.session.point with
    | dispatching payload =>
      simp only [Serving.step, Session.refused, point]
      exact .broken error (by rw [point]; rfl)
    | _ =>
      simp only [Serving.step, Session.refused, point]
      exact .idle
  | handled =>
    cases point : w.session.point with
    | dispatching payload => exact Serving.handled_moved conforms sound point
    | _ =>
      simp only [Serving.step, Session.handled, Serving.seenHandled, point]
      exact .idle
  | sent result =>
    cases point : w.session.point with
    | replying encoded =>
      cases result with
      | error error =>
        simp only [Serving.step, Session.sent, Serving.seenSent, point]
        exact .broken error (by rw [point]; rfl)
      | ok size =>
        cases decoded : decodeRequest protobuf w.payload with
        | ok request =>
          simp only [Serving.step, Session.sent, Serving.seenSent, point, decoded]
          exact .answered encoded request point decoded
        | error failure =>
          simp only [Serving.step, Session.sent, Serving.seenSent, point, decoded]
          exact .apologised encoded failure point decoded
    | _ =>
      simp only [Serving.step, Session.sent, Serving.seenSent, point]
      exact .idle
  | finish =>
    cases point : w.session.point with
    | closing =>
      simp only [Serving.step, Session.finish, point]
      exact .finished point
    | _ =>
      simp only [Serving.step, Session.finish, point]
      exact .idle

/-- What the source adds to its counters on an observation. -/
def failureCharge : Option Observation → Nat
  | some .terminal | some .recoverable => 1
  | _ => 0

def completedCharge : Option Observation → Nat
  | some .answered | some .apologised => 1
  | _ => 0

/-- A failure of the system is not counted as a protocol error. -/
theorem record_counters (server : ServerState) (error : NativeFailure) :
    (server.record error.val).statistics.protocolErrors = server.statistics.protocolErrors ∧
      (server.record error.val).statistics.completed = server.statistics.completed := by
  simp only [ServerState.record, Statistics.record, if_neg error.property]
  constructor <;> split <;> split <;> rfl

theorem record_violation {error : Transport.Failure} (kind : error.kind = .protocolViolation) :
    (server.record error).statistics.protocolErrors = server.statistics.protocolErrors + 1 ∧
      (server.record error).statistics.completed = server.statistics.completed := by
  simp only [ServerState.record, Statistics.record, if_pos kind]
  constructor <;> split <;> rfl

namespace Moved
variable {server' : ServerState} {w' : Serving} {what : Option Observation}

/-- Each move changes the counters by what it was seen as. -/
theorem counters (moved : Moved protobuf registry server w server' w' what) :
    server'.statistics.protocolErrors =
        server.statistics.protocolErrors + failureCharge what ∧
      server'.statistics.completed = server.statistics.completed + completedCharge what := by
  cases moved with
  | violated error reading kind => exact record_violation kind
  | broken error busy => exact record_counters server error
  | _ => exact ⟨rfl, rfl⟩

theorem sound (sound : Sound registry server.ids w.session.store)
    (moved : Moved protobuf registry server w server' w' what) :
    Sound registry server'.ids w'.session.store ∧ server.ids.Advances server'.ids := by
  cases moved with
  | executed payload request encoded gate decoded fits =>
    exact effect_sound sound (execute_effect registry w.session.store server.ids request.body)
  | finished left => exact ⟨sound.close, server.ids.advances_refl⟩
  | _ => exact ⟨sound, server.ids.advances_refl⟩

/-- The payload before the gate is the one the loop holds. -/
theorem held (held : ∀ payload, w.session.point = .dispatching payload → w.payload = payload)
    (moved : Moved protobuf registry server w server' w' what) :
    ∀ payload, w'.session.point = .dispatching payload → w'.payload = payload := by
  cases moved with
  | idle => exact held
  | iterated next head enters =>
    intro payload gate
    rcases enters with rfl | rfl <;> cases gate
  | received =>
    intro payload gate
    cases gate
    rfl
  | _ => nofun

/-- A payload that did not decode is answered after a recoverable failure only. -/
theorem owed (held : ∀ payload, w.session.point = .dispatching payload → w.payload = payload)
    (moved : Moved protobuf registry server w server' w' what) {encoded : Bytes}
    (writing : w'.session.point = .replying encoded) {failure : Failure}
    (failed : decodeRequest protobuf w'.payload = .error failure) :
    what = some .recoverable ∨ w' = w := by
  cases moved with
  | idle => exact Or.inr rfl
  | rejected => exact Or.inl rfl
  | executed payload request encoded gate decoded fits =>
    rw [held payload gate, decoded] at failed
    cases failed
  | iterated next head enters => rcases enters with rfl | rfl <;> cases writing
  | _ => cases writing

theorem framed (framed : ∀ encoded, w.session.point = .replying encoded → validLength encoded.length)
    (moved : Moved protobuf registry server w server' w' what) :
    ∀ encoded, w'.session.point = .replying encoded → validLength encoded.length := by
  cases moved with
  | idle => exact framed
  | executed payload request reply gate decoded fits =>
    intro encoded writing
    cases writing
    exact fits
  | rejected payload reply gate recoverable fits =>
    intro encoded writing
    cases writing
    exact fits
  | iterated next head enters =>
    intro encoded writing
    rcases enters with rfl | rfl <;> cases writing
  | _ => nofun

theorem past (moved : Moved protobuf registry server w server' w' what)
    (left : w.session.point.past = true) : what = none ∧ w'.session.point.past = true := by
  cases moved <;> simp_all [Point.past, Point.busy, Serving.at_]

theorem of_terminal (moved : Moved protobuf registry server w server' w' (some .terminal)) :
    w.session.point.busy = true ∧ w'.session.point.past = true := by
  cases moved <;> simp_all [Point.past, Point.busy, Serving.at_]

theorem of_answered (moved : Moved protobuf registry server w server' w' (some .answered)) :
    w.session.point.busy = true ∧ w'.session.point.busy = false := by
  cases moved with
  | answered encoded request writing decoded => exact ⟨by rw [writing]; rfl, rfl⟩

theorem of_apologised (moved : Moved protobuf registry server w server' w' (some .apologised)) :
    ∃ encoded failure, w.session.point = .replying encoded ∧
      decodeRequest protobuf w.payload = .error failure := by
  cases moved with
  | apologised encoded failure writing failed => exact ⟨encoded, failure, writing, failed⟩

theorem round_le (moved : Moved protobuf registry server w server' w' what) :
    w.round ≤ w'.round := by
  cases moved with
  | iterated => exact Nat.le_succ _
  | _ => exact Nat.le_refl _

/-- A session enters an iteration only at the head of the loop. -/
theorem idle_round (moved : Moved protobuf registry server w server' w' what)
    (idle : w.session.point.busy = false) (same : w'.round = w.round) :
    w'.session.point.busy = false := by
  cases moved with
  | iterated => exact absurd same (Nat.succ_ne_self _)
  | _ => simp_all [Point.busy]

end Moved

end

end PipeForge.Server
