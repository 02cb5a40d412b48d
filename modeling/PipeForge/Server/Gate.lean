import PipeForge.Library.Threads
import PipeForge.Server.Workers

/-!
# The domain gate

`Advance` lists what a section of a worker can do. From it: one worker at a time is
inside the gate, the identifiers it works with are the current ones, and a request
begins only before its deadline and without a stop request. So the workers implement
`Host`, where the handling of a request is one step: the same log of turns, the same
counters and the same stores, for every interleaving of the workers.
-/

namespace PipeForge.Server
open Contracts Library Protocol Domain Transport

/-! ## What a section can do -/

def GatePoint.inside : GatePoint → Bool
  | .holding | .executing _ => true
  | _ => false

def WorkerPoint.inside : WorkerPoint → Bool
  | .connected c => c.gate.inside
  | _ => false

/-- The points of a session at which its worker stands so towards the gate. -/
def GatePoint.fits : GatePoint → Point → Bool
  | .outside, .looping | .outside, .receiving | .outside, .replying _ => true
  | .checking, .dispatching _ | .executing _, .dispatching _ => true
  | .waiting, .dispatching _ | .waiting, .closing => true
  | .holding, .dispatching _ | .holding, .closing => true
  | _, _ => false

/-- Between the gate and the next one. -/
def Point.away : Point → Bool
  | .looping | .receiving | .replying _ => true
  | _ => false

theorem GatePoint.fits_away {gate : GatePoint} {point : Point} (fits : gate.fits point = true)
    (away : point.away = true) : gate = .outside := by
  cases point with
  | looping | receiving | replying =>
    cases gate with
    | outside => rfl
    | _ => cases fits
  | _ => cases away

/-- The turns a worker takes away from the gate, by the point they leave. -/
def Turn.away : Turn → Point → Bool
  | .loop, .looping | .received _, .receiving | .refused _, .dispatching _ => true
  | .sent _, .replying _ => true
  | _, _ => false

theorem Turn.away_plain {turn : Turn} {point : Point} (away : turn.away point = true) :
    turn ≠ .finish ∧ turn ≠ .handled := by
  constructor
  · rintro rfl
    cases point <;> cases away
  · rintro rfl
    cases point <;> cases away

/-- Where a section of the worker `i` can lead from a point: shared state, next point
and log. -/
inductive Advance (protobuf : Protobuf) (registry : ClassRegistry) (pool : Pool) (i : Nat) :
    WorkerPoint → Pool × WorkerPoint × List Seen → Prop
  | idle (point : WorkerPoint) : Advance protobuf registry pool i point (pool, point, [])
  | entered (alive : pool.server.stopping = false) :
      Advance protobuf registry pool i .head (pool, .accepting, [])
  | stopped (ended : pool.server.stopping = true) :
      Advance protobuf registry pool i .head (pool, .returned, [])
  | accepted :
      Advance protobuf registry pool i .accepting
        ({ pool with connections := pool.connections + 1, active := pool.active + 1 },
          .connected { number := pool.connections, serving := { session := .start pool.limits } }, [])
  | withdrew (ended : pool.server.stopping = true) :
      Advance protobuf registry pool i .accepting (pool, .returned, [])
  | retried (error : NativeFailure) (alive : pool.server.stopping = false)
      (kind : error.val.kind = .disconnected) :
      Advance protobuf registry pool i .accepting
        ({ pool with server := pool.server.record error.val }, .head, [])
  | broke (error : NativeFailure) (alive : pool.server.stopping = false)
      (kind : error.val.kind ≠ .disconnected) :
      Advance protobuf registry pool i .accepting
        ({ pool with server := { pool.server.record error.val with stopping := true } }, .returned, [])
  | turned (c : Connection) (deadline : Time) (turn : Turn) (outside : c.gate.inside = false)
      (away : turn.away c.serving.session.point = true) :
      Advance protobuf registry pool i (.connected c)
        (pool.serve protobuf registry { c with deadline } turn)
  | approached (c : Connection) (checking : c.gate = .checking) :
      Advance protobuf registry pool i (.connected c)
        (pool, .connected { c with gate := .waiting }, [])
  | timedOut (c : Connection) (payload : Bytes) (waiting : c.gate = .waiting)
      (point : c.serving.session.point = .dispatching payload) :
      Advance protobuf registry pool i (.connected c)
        (pool, .connected { c with gate := .checking }, [])
  | acquired (c : Connection) (waiting : c.gate = .waiting) (free : pool.gate = none) :
      Advance protobuf registry pool i (.connected c)
        ({ pool with gate := some i }, .connected { c with gate := .holding }, [])
  | began (c : Connection) (payload : Bytes) (holding : c.gate = .holding)
      (point : c.serving.session.point = .dispatching payload)
      (alive : pool.server.stopping = false) (timely : pool.now < c.deadline) :
      Advance protobuf registry pool i (.connected c)
        (pool, .connected { c with gate := .executing pool.server.ids }, [])
  | refused (c : Connection) (payload : Bytes) (error : NativeFailure) (holding : c.gate = .holding)
      (point : c.serving.session.point = .dispatching payload) :
      Advance protobuf registry pool i (.connected c)
        (pool.serveAndRelease protobuf registry pool.server c (.refused error))
  | committed (c : Connection) (ids : IdentifierSource) (executing : c.gate = .executing ids) :
      Advance protobuf registry pool i (.connected c)
        (pool.serveAndRelease protobuf registry { pool.server with ids } c .handled)
  | closed (c : Connection) (holding : c.gate = .holding)
      (point : c.serving.session.point = .closing) :
      Advance protobuf registry pool i (.connected c)
        ((pool.serveAndRelease protobuf registry pool.server c .finish).1, .leaving,
          (pool.serveAndRelease protobuf registry pool.server c .finish).2.2)
  | left :
      Advance protobuf registry pool i .leaving
        ({ pool with active := pool.active - 1 }, .disconnecting, [])
  | parted : Advance protobuf registry pool i .disconnecting (pool, .head, [])
  | failed (error : NativeFailure) :
      Advance protobuf registry pool i .disconnecting
        ({ pool with server := { pool.server.record error.val with stopping := true } }, .head, [])

section
variable {protobuf : Protobuf} {registry : ClassRegistry} {pool : Pool} {i : Nat}

/-- Past the check there is time left and no stop. -/
theorem preflight_none {stopping : Bool} {now deadline : Time}
    (passed : preflight stopping now deadline = none) : stopping = false ∧ now < deadline :=
  preflight_passed (Option.pmap_eq_none_iff.mp passed)

theorem preflight_some {stopping : Bool} {now deadline : Time} (ended : stopping = true) :
    ∃ error, preflight stopping now deadline = some error := by
  subst ended
  exact ⟨_, rfl⟩

/-- What `accept` can lead to, with the checks passed on the way. -/
theorem accepted_advance (result : Except NativeFailure Unit) :
    Advance protobuf registry pool i .accepting (pool.accepted result) := by
  cases result with
  | ok _ => exact .accepted
  | error error =>
    simp only [Pool.accepted]
    split
    · rename_i ended
      exact .withdrew ended
    · rename_i alive
      split
      · rename_i kind
        exact .retried error (Bool.eq_false_iff.mpr alive) kind
      · rename_i kind
        exact .broke error (Bool.eq_false_iff.mpr alive) kind

/-- What a section of a connected worker can lead to; only the gate's holder commits or closes.
-/
theorem connected_advance {c : Connection} (fits : c.gate.fits c.serving.session.point = true)
    (section_ : Work) :
    Advance protobuf registry pool i (.connected c)
      (pool.connected protobuf registry i c section_) := by
  have outside : c.serving.session.point.away = true → c.gate.inside = false := by
    intro away
    rw [GatePoint.fits_away fits away]
    rfl
  cases section_ with
  | loop =>
    simp only [Pool.connected]
    split
    · rename_i looping
      exact .turned c _ .loop (outside (by rw [looping]; rfl)) (by rw [looping]; rfl)
    · exact .idle _
  | received payload =>
    simp only [Pool.connected]
    split
    · rename_i receiving
      exact .turned c c.deadline (.received payload) (outside (by rw [receiving]; rfl))
        (by rw [receiving]; rfl)
    · exact .idle _
  | check =>
    simp only [Pool.connected]
    split
    · rename_i checking
      split
      · rename_i error _
        have point : ∃ payload, c.serving.session.point = .dispatching payload := by
          rw [checking] at fits
          cases here : c.serving.session.point <;> simp [GatePoint.fits, here] at fits ⊢
        obtain ⟨payload, point⟩ := point
        exact .turned c c.deadline (.refused error) (by rw [checking]; rfl) (by rw [point]; rfl)
      · exact .approached c checking
    · exact .idle _
  | acquire =>
    simp only [Pool.connected]
    split
    · rename_i waiting free
      exact .acquired c waiting free
    · exact .idle _
  | slice =>
    simp only [Pool.connected]
    split
    · rename_i payload waiting point
      exact .timedOut c payload waiting point
    · exact .idle _
  | recheck =>
    simp only [Pool.connected]
    split
    · rename_i payload holding point
      split
      · rename_i error _
        exact .refused c payload error holding point
      · rename_i passed
        obtain ⟨alive, timely⟩ := preflight_none passed
        exact .began c payload holding point alive timely
    · exact .idle _
  | commit =>
    simp only [Pool.connected]
    split
    · rename_i ids executing
      exact .committed c ids executing
    · exact .idle _
  | sent result =>
    simp only [Pool.connected]
    split
    · rename_i encoded replying
      exact .turned c c.deadline (.sent result) (outside (by rw [replying]; rfl))
        (by rw [replying]; rfl)
    · exact .idle _
  | close =>
    simp only [Pool.connected]
    split
    · rename_i holding closing
      exact .closed c holding closing
    · exact .idle _
  | _ => exact .idle _

theorem work_advance {point : WorkerPoint}
    (fits : ∀ c, point = .connected c → c.gate.fits c.serving.session.point = true)
    (section_ : Work) :
    Advance protobuf registry pool i point (pool.work protobuf registry i point section_) := by
  cases point with
  | connected c => exact connected_advance (fits c rfl) section_
  | head =>
    cases section_ with
    | head =>
      simp only [Pool.work]
      split
      · rename_i ended
        exact .stopped ended
      · rename_i alive
        exact .entered (Bool.eq_false_iff.mpr alive)
    | _ => exact .idle _
  | accepting =>
    cases section_ with
    | accepted result => exact accepted_advance result
    | _ => exact .idle _
  | leaving =>
    cases section_ with
    | left => exact .left
    | _ => exact .idle _
  | disconnecting =>
    cases section_ with
    | disconnected failure =>
      cases failure with
      | none => exact .parted
      | some error => exact .failed error
    | _ => exact .idle _
  | returned =>
    cases section_ with
    | _ => exact .idle _

end

/-! ## Turns -/

section
variable (protobuf : Protobuf) (registry : ClassRegistry) (server : ServerState) (w : Serving)

/-- Only handling a request touches the identifiers. -/
theorem Serving.step_ids {turn : Turn} (other : turn ≠ .handled) :
    (w.step protobuf registry server turn).1.ids = server.ids := by
  cases turn with
  | loop => rfl
  | received payload =>
    simp only [Serving.step, Session.received]
    repeat' split
    all_goals rfl
  | refused error =>
    simp only [Serving.step, Session.refused]
    split <;> rfl
  | handled => exact absurd rfl other
  | sent result =>
    simp only [Serving.step, Session.sent]
    repeat' split
    all_goals rfl
  | finish => rfl

/-- Nothing but `request_stop` and a broken pipe stops the server. -/
theorem Serving.step_stopping (turn : Turn) :
    (w.step protobuf registry server turn).1.stopping = server.stopping := by
  cases turn with
  | loop => rfl
  | received payload =>
    simp only [Serving.step, Session.received]
    repeat' split
    all_goals rfl
  | refused error =>
    simp only [Serving.step, Session.refused]
    split <;> rfl
  | handled =>
    simp only [Serving.step, Session.handled]
    repeat' split
    all_goals rfl
  | sent result =>
    simp only [Serving.step, Session.sent]
    repeat' split
    all_goals rfl
  | finish => rfl

/-- A session is ended only by its last turn. -/
theorem Serving.step_open {turn : Turn} (other : turn ≠ .finish)
    (live : w.session.point ≠ .ended) :
    (w.step protobuf registry server turn).2.1.session.point ≠ .ended := by
  cases turn with
  | loop =>
    simp only [Serving.step, Session.loop]
    repeat' split
    all_goals first | exact live | (intro ended; cases ended)
  | received payload =>
    simp only [Serving.step, Session.received]
    repeat' split
    all_goals first | exact live | (intro ended; cases ended)
  | refused error =>
    simp only [Serving.step, Session.refused]
    split <;> first | exact live | (intro ended; cases ended)
  | handled =>
    simp only [Serving.step, Session.handled]
    repeat' split
    all_goals first | exact live | (intro ended; cases ended)
  | sent result =>
    simp only [Serving.step, Session.sent]
    repeat' split
    all_goals first | exact live | (intro ended; cases ended)
  | finish => exact absurd rfl other

end

theorem Session.gatePoint_fits {session : Session} (live : session.point ≠ .ended) :
    session.gatePoint.fits session.point = true := by
  unfold Session.gatePoint
  cases point : session.point with
  | ended => exact absurd point live
  | _ => rfl

theorem Session.gatePoint_outside (session : Session) : session.gatePoint.inside = false := by
  unfold Session.gatePoint
  split <;> rfl

theorem GatePoint.fits_live {gate : GatePoint} {point : Point} (fits : gate.fits point = true) :
    point ≠ .ended := by
  rintro rfl
  cases gate <;> cases fits

/-! ## The invariant -/

/-- Sessions accepted and not left yet. -/
def WorkerPoint.live : WorkerPoint → Nat
  | .connected _ | .leaving => 1
  | _ => 0

structure Gated (pool : Pool) : Prop where
  fits : ∀ (i : Nat) (c : Connection), pool.workers[i]? = some (.connected c) →
    c.gate.fits c.serving.session.point = true
  gate : Threads.Held WorkerPoint.inside pool.gate pool.workers
  /-- The dispatcher works with the identifiers as they are. -/
  fresh : ∀ (i : Nat) (c : Connection) (ids : IdentifierSource),
    pool.workers[i]? = some (.connected c) → c.gate = .executing ids → ids = pool.server.ids
  counted : pool.active = Threads.total WorkerPoint.live pool.workers

namespace Gated
variable {protobuf : Protobuf} {registry : ClassRegistry} {pool pool' : Pool} {i : Nat}
variable {point point' : WorkerPoint}

/-- A host that has just been launched has its gate free. -/
theorem launch (sessions : Nat) (timeout : Time) (limits : SessionLimits) (first : UInt64) :
    Gated (.launch sessions timeout limits first) := by
  have heads : ∀ (i : Nat) (point : WorkerPoint),
      (Pool.launch sessions timeout limits first).workers[i]? = some point → point = .head := by
    intro i point found
    exact List.eq_of_mem_replicate (List.mem_of_getElem? found)
  refine ⟨fun i c found => ?_, fun i => ⟨nofun, ?_⟩, fun i c ids found => ?_, ?_⟩
  · cases heads i _ found
  · rintro ⟨point, found, inside⟩
    rw [heads i point found] at inside
    cases inside
  · cases heads i _ found
  · simp [Pool.launch, Threads.total, WorkerPoint.live]

/-- A worker moves; `pool'` is the shared state after that. -/
theorem move (gated : Gated pool) (found : pool.workers[i]? = some point)
    (fits : ∀ c, point' = .connected c → c.gate.fits c.serving.session.point = true)
    (gate : Threads.Held WorkerPoint.inside pool'.gate (pool.workers.set i point'))
    (own : ∀ c ids, point' = .connected c → c.gate = .executing ids → ids = pool'.server.ids)
    (others : pool'.server.ids = pool.server.ids ∨ point.inside = true)
    (counted : pool'.active + point.live = pool.active + point'.live) :
    Gated { pool' with workers := pool.workers.set i point' } := by
  refine ⟨fun j c present => ?_, gate, fun j c ids present executing => ?_, ?_⟩
  · rcases Threads.set_cases present with ⟨-, same⟩ | ⟨-, before⟩
    · exact fits c same.symm
    · exact gated.fits j c before
  · rcases Threads.set_cases present with ⟨-, same⟩ | ⟨other, before⟩
    · exact own c ids same.symm executing
    · rcases others with same | inside
      · rw [gated.fresh j c ids before executing]
        exact same.symm
      · -- Two workers would be inside.
        have within : WorkerPoint.inside (.connected c) = true := by
          simp only [WorkerPoint.inside, executing]
          rfl
        exact absurd (gated.gate.exclusive before found within inside) other
  · have changed := Threads.total_set WorkerPoint.live found point'
    have before := gated.counted
    change pool'.active = Threads.total WorkerPoint.live (pool.workers.set i point')
    omega

/-- A worker moves from and to points outside the gate. -/
theorem moveOutside (gated : Gated pool) (found : pool.workers[i]? = some point)
    (fits : ∀ c, point' = .connected c → c.gate.fits c.serving.session.point = true)
    (outside : point.inside = false) (outside' : point'.inside = false)
    (gate : pool'.gate = pool.gate) (ids : pool'.server.ids = pool.server.ids)
    (counted : pool'.active + point.live = pool.active + point'.live) :
    Gated { pool' with workers := pool.workers.set i point' } := by
  refine gated.move found fits ?_ (fun c ids same executing => ?_) (Or.inl ids) counted
  · rw [gate]
    exact gated.gate.keep found (outside'.trans outside.symm)
  · rw [same, WorkerPoint.inside, executing] at outside'
    cases outside'

/-- A worker with a session takes a turn and gives the gate back. -/
theorem release (gated : Gated pool) {c : Connection}
    (found : pool.workers[i]? = some (.connected c)) (inside : c.gate.inside = true)
    (turn : Turn) (other : turn ≠ .finish) (server : ServerState) :
    let done := pool.serveAndRelease protobuf registry server c turn
    Gated { done.1 with workers := pool.workers.set i done.2.1 } := by
  have live := GatePoint.fits_live (gated.fits i c found)
  refine gated.move found (fun next same => ?_) ?_ (fun next ids same executing => ?_)
    (Or.inr inside) rfl
  · cases same
    exact Session.gatePoint_fits (Serving.step_open protobuf registry server c.serving other live)
  · exact gated.gate.release found inside (Session.gatePoint_outside _)
  · cases same
    have outside := Session.gatePoint_outside
      (c.serving.step protobuf registry server turn).2.1.session
    rw [show (c.serving.step protobuf registry server turn).2.1.session.gatePoint = _ from
      executing] at outside
    cases outside

/-- Whoever moves, at most one worker is inside, and the gate knows which. -/
theorem advance (gated : Gated pool) (found : pool.workers[i]? = some point)
    {done : Pool × WorkerPoint × List Seen}
    (taken : Advance protobuf registry pool i point done) :
    Gated { done.1 with workers := pool.workers.set i done.2.1 } := by
  cases taken with
  | idle =>
    rw [Threads.set_here found]
    exact gated
  | entered alive => exact gated.moveOutside found nofun rfl rfl rfl rfl rfl
  | stopped ended => exact gated.moveOutside found nofun rfl rfl rfl rfl rfl
  | accepted =>
    refine gated.moveOutside found (fun c same => ?_) rfl rfl rfl rfl rfl
    cases same
    rfl
  | withdrew ended => exact gated.moveOutside found nofun rfl rfl rfl rfl rfl
  | retried error alive kind => exact gated.moveOutside found nofun rfl rfl rfl rfl rfl
  | broke error alive kind => exact gated.moveOutside found nofun rfl rfl rfl rfl rfl
  | turned c deadline turn outside away =>
    have live := GatePoint.fits_live (gated.fits i c found)
    have other := Turn.away_plain away
    refine gated.moveOutside found (fun next same => ?_) outside (Session.gatePoint_outside _) rfl
      (Serving.step_ids protobuf registry pool.server c.serving other.2) rfl
    cases same
    exact Session.gatePoint_fits
      (Serving.step_open protobuf registry pool.server c.serving other.1 live)
  | approached c checking =>
    have fits := gated.fits i c found
    refine gated.moveOutside found (fun next same => ?_) (by rw [WorkerPoint.inside, checking]; rfl)
      rfl rfl rfl rfl
    cases same
    rw [checking] at fits
    cases point : c.serving.session.point <;> simp [GatePoint.fits, point] at fits ⊢
  | timedOut c payload waiting point =>
    refine gated.moveOutside found (fun next same => ?_) (by rw [WorkerPoint.inside, waiting]; rfl)
      rfl rfl rfl rfl
    cases same
    simp [GatePoint.fits, point]
  | acquired c waiting free =>
    have fits := gated.fits i c found
    have held := gated.gate
    rw [free] at held
    refine gated.move found (fun next same => ?_) (held.acquire found rfl)
      (fun next ids same executing => ?_) (Or.inl rfl) rfl
    · cases same
      rw [waiting] at fits
      cases point : c.serving.session.point <;> simp [GatePoint.fits, point] at fits ⊢
    · cases same
      cases executing
  | began c payload holding point alive timely =>
    refine gated.move found (fun next same => ?_) ?_ (fun next ids same executing => ?_) (Or.inl rfl)
      rfl
    · cases same
      simp [GatePoint.fits, point]
    · exact gated.gate.keep found (by simp only [WorkerPoint.inside, holding]; rfl)
    · cases same
      cases executing
      rfl
  | refused c payload error holding point =>
    exact gated.release found (by rw [holding]; rfl) (.refused error) nofun pool.server
  | committed c ids executing =>
    exact gated.release found (by rw [executing]; rfl) .handled nofun { pool.server with ids }
  | closed c holding point =>
    refine gated.move found nofun ?_ nofun (Or.inr (by rw [WorkerPoint.inside, holding]; rfl)) rfl
    exact gated.gate.release found (by rw [WorkerPoint.inside, holding]; rfl) rfl
  | left =>
    refine gated.moveOutside found nofun rfl rfl rfl rfl ?_
    have counted := Threads.total_set WorkerPoint.live found .disconnecting
    have before := gated.counted
    simp only [WorkerPoint.live] at counted ⊢
    omega
  | parted => exact gated.moveOutside found nofun rfl rfl rfl rfl rfl
  | failed error => exact gated.moveOutside found nofun rfl rfl rfl rfl rfl

theorem step (protobuf : Protobuf) (registry : ClassRegistry) (gated : Gated pool)
    (action : PoolAction) :
    Gated (pool.step protobuf registry action).1 := by
  cases action with
  | work i section_ =>
    simp only [Pool.step]
    split
    · exact gated
    · rename_i point found
      apply gated.advance found
      apply work_advance
      rintro c rfl
      exact gated.fits i c found
  | stop => exact ⟨gated.fits, gated.gate, gated.fresh, gated.counted⟩
  | tick elapsed => exact ⟨gated.fits, gated.gate, gated.fresh, gated.counted⟩

end Gated

/-! ## The workers implement the host -/

/-- What of a worker's point `Host` knows. -/
def WorkerPoint.session : WorkerPoint → Option (Nat × Serving)
  | .connected c => some (c.number, c.serving)
  | _ => none

/-- A session that is over: its loop left and its store closed. -/
def Serving.Over (w : Serving) : Prop :=
  w.session.point = .ended ∧ ∃ store : SessionStore, w.session.store = store.close

/-- The sessions of the host are those of the workers, and those that are over. -/
structure Hosts (pool : Pool) (host : Host) : Prop where
  gated : Gated pool
  server : host.server = pool.server
  counted : host.sessions.length = pool.connections
  live : ∀ (i : Nat) (point : WorkerPoint) (number : Nat) (w : Serving),
    pool.workers[i]? = some point → point.session = some (number, w) →
    host.sessions[number]? = some w
  owned : ∀ (number : Nat) (w : Serving), host.sessions[number]? = some w →
    w.Over ∨ ∃ (i : Nat) (point : WorkerPoint),
      pool.workers[i]? = some point ∧ point.session = some (number, w)
  distinct : ∀ (i j : Nat) (one two : WorkerPoint) (number : Nat) (v w : Serving),
    pool.workers[i]? = some one → pool.workers[j]? = some two →
    one.session = some (number, v) → two.session = some (number, w) → i = j

namespace Hosts
variable {protobuf : Protobuf} {registry : ClassRegistry} {pool pool' : Pool} {host : Host}
variable {i : Nat} {point point' : WorkerPoint}

theorem launch (sessions : Nat) (timeout : Time) (limits : SessionLimits) (first : UInt64) :
    Hosts (.launch sessions timeout limits first) (.start first) := by
  have heads : ∀ (i : Nat) (point : WorkerPoint),
      (Pool.launch sessions timeout limits first).workers[i]? = some point → point = .head := by
    intro i point found
    exact List.eq_of_mem_replicate (List.mem_of_getElem? found)
  refine ⟨.launch sessions timeout limits first, rfl, rfl, ?_, nofun, ?_⟩
  · intro i point number w found session
    rw [heads i point found] at session
    cases session
  · intro i j one two number v w found _ session
    rw [heads i one found] at session
    cases session

/-- A worker moves and its session does not. -/
theorem move (hosts : Hosts pool host) (found : pool.workers[i]? = some point)
    (gated : Gated { pool' with workers := pool.workers.set i point' })
    (counted : pool'.connections = pool.connections) (same : point'.session = point.session) :
    Hosts { pool' with workers := pool.workers.set i point' }
      { host with server := pool'.server } := by
  -- Before and after the move, a session belongs to the same worker.
  have back : ∀ (j : Nat) (next : WorkerPoint), (pool.workers.set i point')[j]? = some next →
      ∃ before, pool.workers[j]? = some before ∧ next.session = before.session := by
    intro j next present
    rcases Threads.set_cases present with ⟨rfl, rfl⟩ | ⟨-, before⟩
    · exact ⟨point, found, same⟩
    · exact ⟨next, before, rfl⟩
  refine ⟨gated, rfl, hosts.counted.trans counted.symm, ?_, ?_, ?_⟩
  · intro j next number w present session
    obtain ⟨before, there, equal⟩ := back j next present
    exact hosts.live j before number w there (equal.symm.trans session)
  · intro number w present
    rcases hosts.owned number w present with ended | ⟨j, before, there, session⟩
    · exact Or.inl ended
    · right
      by_cases own : i = j
      · subst own
        cases found.symm.trans there
        exact ⟨i, point', Threads.set_self found, same.trans session⟩
      · exact ⟨j, before, by rw [List.getElem?_set_ne own, there], session⟩
  · intro j k one two number v w first second left right
    obtain ⟨before, there, equal⟩ := back j one first
    obtain ⟨after, here, equal'⟩ := back k two second
    exact hosts.distinct j k before after number v w there here (equal.symm.trans left)
      (equal'.symm.trans right)

/-- A worker takes a turn in its session, which is one of the host. -/
theorem turn (hosts : Hosts pool host) {c : Connection}
    (found : pool.workers[i]? = some (.connected c)) (w : Serving)
    (gated : Gated { pool' with workers := pool.workers.set i point' })
    (server : ServerState) (updated : pool'.server = server)
    (counted : pool'.connections = pool.connections)
    (session : point'.session = some (c.number, w) ∨
      (point'.session = none ∧ w.Over)) :
    Hosts { pool' with workers := pool.workers.set i point' }
      ⟨server, host.sessions.set c.number w⟩ := by
  have own := hosts.live i (.connected c) c.number c.serving found rfl
  -- Other workers have other sessions.
  have apart : ∀ (j : Nat) (other : WorkerPoint) (number : Nat) (v : Serving), j ≠ i →
      pool.workers[j]? = some other → other.session = some (number, v) → c.number ≠ number := by
    rintro j other number v different there here rfl
    exact different (hosts.distinct j i other (.connected c) c.number v c.serving there found here rfl)
  refine ⟨gated, updated.symm, ?_, ?_, ?_, ?_⟩
  · simpa using hosts.counted.trans counted.symm
  · intro j next number v present here
    rcases Threads.set_cases present with ⟨rfl, rfl⟩ | ⟨different, before⟩
    · rcases session with mine | ⟨none, -⟩
      · cases here.symm.trans mine
        exact Threads.set_self own
      · cases here.symm.trans none
    · rw [List.getElem?_set_ne (apart j next number v different before here)]
      exact hosts.live j next number v before here
  · intro number v present
    rcases Threads.set_cases present with ⟨rfl, rfl⟩ | ⟨different, before⟩
    · rcases session with mine | ⟨-, ended⟩
      · exact Or.inr ⟨i, point', Threads.set_self found, mine⟩
      · exact Or.inl ended
    · rcases hosts.owned number v before with ended | ⟨j, other, there, here⟩
      · exact Or.inl ended
      · refine Or.inr ⟨j, other, ?_, here⟩
        have elsewhere : i ≠ j := by
          rintro rfl
          cases found.symm.trans there
          cases here
          exact different rfl
        rw [List.getElem?_set_ne elsewhere, there]
  · intro j k one two number v w' first second left right
    rcases Threads.set_cases first with ⟨rfl, rfl⟩ | ⟨first', before⟩
    · rcases Threads.set_cases second with ⟨rfl, -⟩ | ⟨second', there⟩
      · rfl
      · rcases session with mine | ⟨none, -⟩
        · cases left.symm.trans mine
          exact absurd rfl (apart k two _ w' second' there right)
        · cases left.symm.trans none
    · rcases Threads.set_cases second with ⟨rfl, rfl⟩ | ⟨-, there⟩
      · rcases session with mine | ⟨none, -⟩
        · cases right.symm.trans mine
          exact absurd rfl (apart j one _ v first' before left)
        · cases right.symm.trans none
      · exact hosts.distinct j k one two number v w' before there left right

/-- A connection is accepted, with the number of sessions so far as its number. -/
theorem accept (hosts : Hosts pool host) (found : pool.workers[i]? = some point)
    (idle : point.session = none) (w : Serving)
    (gated : Gated { pool' with workers := pool.workers.set i point' })
    (server : pool'.server = pool.server) (counted : pool'.connections = pool.connections + 1)
    (session : point'.session = some (pool.connections, w)) :
    Hosts { pool' with workers := pool.workers.set i point' }
      { host with sessions := host.sessions ++ [w] } := by
  have fresh : ∀ (j : Nat) (other : WorkerPoint) (number : Nat) (v : Serving),
      pool.workers[j]? = some other → other.session = some (number, v) →
      number < host.sessions.length := by
    intro j other number v there here
    exact (List.getElem?_eq_some_iff.mp (hosts.live j other number v there here)).1
  refine ⟨gated, hosts.server.trans server.symm, ?_, ?_, ?_, ?_⟩
  · simp [hosts.counted, counted]
  · intro j next number v present here
    rcases Threads.set_cases present with ⟨rfl, rfl⟩ | ⟨-, before⟩
    · cases here.symm.trans session
      rw [← hosts.counted]
      exact List.getElem?_concat_length
    · rw [List.getElem?_append_left (fresh j next number v before here)]
      exact hosts.live j next number v before here
  · intro number v present
    by_cases old : number < host.sessions.length
    · rw [List.getElem?_append_left old] at present
      rcases hosts.owned number v present with ended | ⟨j, other, there, here⟩
      · exact Or.inl ended
      · refine Or.inr ⟨j, other, ?_, here⟩
        have elsewhere : i ≠ j := by
          rintro rfl
          cases found.symm.trans there
          cases idle.symm.trans here
        rw [List.getElem?_set_ne elsewhere, there]
    · have last : number = host.sessions.length := by
        have inside := (List.getElem?_eq_some_iff.mp present).1
        simp only [List.length_append, List.length_singleton] at inside
        omega
      subst last
      cases List.getElem?_concat_length.symm.trans present
      exact Or.inr ⟨i, point', Threads.set_self found, by rw [hosts.counted]; exact session⟩
  · intro j k one two number v w' first second left right
    rcases Threads.set_cases first with ⟨rfl, rfl⟩ | ⟨-, before⟩
    · rcases Threads.set_cases second with ⟨rfl, -⟩ | ⟨-, there⟩
      · rfl
      · cases left.symm.trans session
        have less := fresh k two _ w' there right
        rw [hosts.counted] at less
        exact absurd less (Nat.lt_irrefl _)
    · rcases Threads.set_cases second with ⟨rfl, rfl⟩ | ⟨-, there⟩
      · cases right.symm.trans session
        have less := fresh j one _ v before left
        rw [hosts.counted] at less
        exact absurd less (Nat.lt_irrefl _)
      · exact hosts.distinct j k one two number v w' before there left right

/-- The same without a change of the shared state. -/
theorem silent (hosts : Hosts pool host) (found : pool.workers[i]? = some point)
    (gated : Gated { pool' with workers := pool.workers.set i point' })
    (counted : pool'.connections = pool.connections) (same : point'.session = point.session)
    (server : pool'.server = pool.server) :
    Hosts { pool' with workers := pool.workers.set i point' } host := by
  have moved := hosts.move found gated counted same
  have unchanged : { host with server := pool'.server } = host := by rw [server, ← hosts.server]
  rw [unchanged] at moved
  exact moved

/-- A turn of a session of the host. -/
theorem serve_eq (protobuf : Protobuf) (registry : ClassRegistry) (hosts : Hosts pool host) {c : Connection}
    (found : pool.workers[i]? = some (.connected c)) (turn : Turn) :
    host.step protobuf registry (.serve c.number turn) =
      let done := Pool.turn protobuf registry pool.server c turn
      (⟨done.1, host.sessions.set c.number done.2.1.serving⟩, done.2.2) := by
  have own := hosts.live i (.connected c) c.number c.serving found rfl
  simp only [Host.step, own, hosts.server, Pool.turn]

/-- A section of a worker is a step of the host, or nothing the host can see. -/
theorem advance (hosts : Hosts pool host) (found : pool.workers[i]? = some point)
    {done : Pool × WorkerPoint × List Seen}
    (taken : Advance protobuf registry pool i point done) :
    Transition.Matched (Host.step protobuf registry) Hosts host
      ({ done.1 with workers := pool.workers.set i done.2.1 }, done.2.2) := by
  have gated := hosts.gated.advance found taken
  cases taken with
  | idle => exact .silent (hosts.silent found gated rfl rfl rfl)
  | entered alive => exact .silent (hosts.silent found gated rfl rfl rfl)
  | stopped ended => exact .silent (hosts.silent found gated rfl rfl rfl)
  | accepted =>
    exact .single (.accept pool.limits) (hosts.accept found rfl _ gated rfl rfl rfl) rfl
  | withdrew ended => exact .silent (hosts.silent found gated rfl rfl rfl)
  | retried error alive kind =>
    have stepped : host.step protobuf registry (.acceptFailed error) =
        ({ host with server := pool.server.record error.val }, []) := by
      simp only [Host.step, hosts.server, alive, Bool.false_eq_true, if_false, kind, if_true]
    apply Transition.Matched.single (.acceptFailed error)
    · rw [stepped]
      exact hosts.move found gated rfl rfl
    · rw [stepped]
  | broke error alive kind =>
    have stepped : host.step protobuf registry (.acceptFailed error) =
        ({ host with server := { pool.server.record error.val with stopping := true } }, []) := by
      simp only [Host.step, hosts.server, alive, Bool.false_eq_true, if_false, kind]
    apply Transition.Matched.single (.acceptFailed error)
    · rw [stepped]
      exact hosts.move found gated rfl rfl
    · rw [stepped]
  | turned c deadline turn outside away =>
    have stepped := hosts.serve_eq protobuf registry found turn
    apply Transition.Matched.single (.serve c.number turn)
    · rw [stepped]
      exact hosts.turn found _ gated _ rfl rfl (Or.inl rfl)
    · rw [stepped]
      rfl
  | approached c checking => exact .silent (hosts.silent found gated rfl rfl rfl)
  | timedOut c payload waiting point => exact .silent (hosts.silent found gated rfl rfl rfl)
  | acquired c waiting free => exact .silent (hosts.silent found gated rfl rfl rfl)
  | began c payload holding point alive timely =>
    exact .silent (hosts.silent found gated rfl rfl rfl)
  | refused c payload error holding point =>
    have stepped := hosts.serve_eq protobuf registry found
      (.refused error)
    apply Transition.Matched.single (.serve c.number (.refused error))
    · rw [stepped]
      exact hosts.turn found _ gated _ rfl rfl (Or.inl rfl)
    · rw [stepped]
      rfl
  | committed c ids executing =>
    -- Nobody else has been inside, so the identifiers are those the dispatcher began with.
    have current : { pool.server with ids } = pool.server := by
      rw [hosts.gated.fresh i c ids found executing]
    have stepped := hosts.serve_eq protobuf registry found .handled
    apply Transition.Matched.single (.serve c.number .handled)
    · rw [stepped]
      refine hosts.turn found _ gated _ ?_ rfl (Or.inl ?_)
      · rw [current]
        rfl
      · rw [current]
        rfl
    · rw [stepped, current]
      rfl
  | closed c holding point =>
    have stepped := hosts.serve_eq protobuf registry found .finish
    apply Transition.Matched.single (.serve c.number .finish)
    · rw [stepped]
      refine hosts.turn found _ gated _ rfl rfl (Or.inr ⟨rfl, ?_, c.serving.session.store, ?_⟩)
      · simp only [Pool.turn, Serving.step, Session.finish, point]
      · simp only [Pool.turn, Serving.step, Session.finish, point]
    · rw [stepped]
      rfl
  | left => exact .silent (hosts.silent found gated rfl rfl rfl)
  | parted => exact .silent (hosts.silent found gated rfl rfl rfl)
  | failed error =>
    have stepped : host.step protobuf registry (.disconnectFailed error) =
        ({ host with server := { pool.server.record error.val with stopping := true } }, []) := by
      simp only [Host.step, hosts.server]
    apply Transition.Matched.single (.disconnectFailed error)
    · rw [stepped]
      exact hosts.move found gated rfl rfl
    · rw [stepped]

/-- The pool with its gate simulates the host that serves one request at a time. -/
theorem simulates (protobuf : Protobuf) (registry : ClassRegistry) :
    Transition.Simulates (Pool.step protobuf registry) (Host.step protobuf registry) Hosts := by
  intro pool host action hosts
  cases action with
  | work i section_ =>
    simp only [Pool.step]
    split
    · exact .silent hosts
    · rename_i point found
      apply hosts.advance found
      apply work_advance
      rintro c rfl
      exact hosts.gated.fits i c found
  | stop =>
    have gated := hosts.gated.step protobuf registry .stop
    apply Transition.Matched.single .stop
    · simp only [Host.step, hosts.server]
      exact { hosts with gated, server := rfl }
    · rfl
  | tick elapsed =>
    have gated := hosts.gated.step protobuf registry (.tick elapsed)
    exact .silent { hosts with gated }

end Hosts

theorem Pool.run_gated (protobuf : Protobuf) (registry : ClassRegistry) (sessions : Nat)
    (timeout : Time) (limits : SessionLimits) (first : UInt64) (actions : List PoolAction) :
    Gated (Pool.run protobuf registry sessions timeout limits first actions).1 :=
  Transition.run_invariant (Pool.step protobuf registry) (fun pool _ => Gated pool) _ []
    (.launch sessions timeout limits first)
    (fun _ _ action gated => gated.step protobuf registry action) actions

/-! ## The results -/

/-- What the gate gives in a state of the workers, for every section that may come next. -/
structure Serialised (protobuf : Protobuf) (registry : ClassRegistry) (pool : Pool) : Prop where
  exclusive : ∀ (i j : Nat) (one two : WorkerPoint), pool.workers[i]? = some one →
    pool.workers[j]? = some two → one.inside = true → two.inside = true → i = j
  /-- The identifiers change by the commit of the request that is inside, which began
  with the ones there are. -/
  mutation : ∀ i section_,
    (pool.step protobuf registry (.work i section_)).1.server.ids ≠ pool.server.ids →
    ∃ c, pool.workers[i]? = some (.connected c) ∧ c.gate = .executing pool.server.ids
  /-- A request begins inside the gate, in time and before a stop. -/
  timely : ∀ (i : Nat) (section_ : Work) (c : Connection) (ids : IdentifierSource),
    (pool.step protobuf registry (.work i section_)).1.workers[i]? = some (.connected c) →
    c.gate = .executing ids →
    pool.workers[i]? = some (.connected c) ∨
      (pool.gate = some i ∧ pool.server.stopping = false ∧ pool.now < c.deadline)
  /-- A store is closed inside the gate too. -/
  cleanup : ∀ (i : Nat) (section_ : Work),
    (pool.step protobuf registry (.work i section_)).1.workers[i]? = some .leaving →
    pool.workers[i]? = some .leaving ∨ pool.gate = some i
  /-- `active_` is the number of sessions accepted and not left. -/
  active : pool.active = Threads.total WorkerPoint.live pool.workers ∧
    pool.active ≤ pool.workers.length

namespace Advance
variable {protobuf : Protobuf} {registry : ClassRegistry} {pool : Pool} {i : Nat}
variable {point : WorkerPoint} {done : Pool × WorkerPoint × List Seen}

/-- Identifiers change only by the commit of whoever is executing. -/
theorem ids (taken : Advance protobuf registry pool i point done) :
    done.1.server.ids = pool.server.ids ∨
      ∃ c ids, point = .connected c ∧ c.gate = .executing ids := by
  cases taken with
  | committed c ids executing => exact Or.inr ⟨c, ids, rfl, executing⟩
  | turned c deadline turn outside away =>
    exact Or.inl (Serving.step_ids protobuf registry pool.server c.serving (Turn.away_plain away).2)
  | refused c payload error holding point =>
    have other : Turn.refused error ≠ .handled := nofun
    exact Or.inl (Serving.step_ids protobuf registry pool.server c.serving other)
  | _ => exact Or.inl rfl

/-- A request begins inside the gate, in time and before a stop. -/
theorem begins (taken : Advance protobuf registry pool i point done) {c : Connection}
    {ids : IdentifierSource} (here : done.2.1 = .connected c) (executing : c.gate = .executing ids) :
    point = .connected c ∨
      (point.inside = true ∧ pool.server.stopping = false ∧ pool.now < c.deadline) := by
  -- A turn leads to a point outside the gate.
  have released : ∀ session : Session, session.gatePoint ≠ .executing ids := by
    intro session same
    have outside := session.gatePoint_outside
    rw [same] at outside
    cases outside
  cases taken with
  | idle => exact Or.inl here
  | began before payload holding point alive timely =>
    cases here
    exact Or.inr ⟨by rw [WorkerPoint.inside, holding]; rfl, alive, timely⟩
  | turned before deadline turn outside away =>
    cases here
    exact absurd executing (released _)
  | refused before payload error holding point =>
    cases here
    exact absurd executing (released _)
  | committed before ids' inside =>
    cases here
    exact absurd executing (released _)
  | _ =>
    cases here
    try cases executing

theorem leaves (taken : Advance protobuf registry pool i point done) (here : done.2.1 = .leaving) :
    point = .leaving ∨ point.inside = true := by
  cases taken with
  | idle => exact Or.inl here
  | closed c holding point => exact Or.inr (by rw [WorkerPoint.inside, holding]; rfl)
  | _ => cases here

end Advance

/-- What the gate is for follows from who may be inside. -/
theorem Gated.serialised {pool : Pool} (gated : Gated pool) (protobuf : Protobuf)
    (registry : ClassRegistry) : Serialised protobuf registry pool := by
  -- Where the section leads, if there is such a worker.
  have stepped : ∀ (i : Nat) (section_ : Work), pool.workers[i]? = none ∧
      pool.step protobuf registry (.work i section_) = (pool, []) ∨
      ∃ point done, pool.workers[i]? = some point ∧ Advance protobuf registry pool i point done ∧
        pool.step protobuf registry (.work i section_) =
          ({ done.1 with workers := pool.workers.set i done.2.1 }, done.2.2) ∧
        (pool.workers.set i done.2.1)[i]? = some done.2.1 := by
    intro i section_
    cases found : pool.workers[i]? with
    | none => exact Or.inl ⟨rfl, by simp only [Pool.step, found]⟩
    | some point =>
      refine Or.inr ⟨point, _, rfl, work_advance ?_ section_, by simp only [Pool.step, found],
        Threads.set_self found⟩
      rintro c rfl
      exact gated.fits i c found
  refine ⟨fun i j one two first second => gated.gate.exclusive first second,
    fun i section_ changed => ?_, fun i section_ c ids present executing => ?_,
    fun i section_ present => ?_, gated.counted, ?_⟩
  · rcases stepped i section_ with ⟨-, same⟩ | ⟨point, done, found, taken, result, -⟩
    · rw [same] at changed
      exact absurd rfl changed
    · rw [result] at changed
      rcases taken.ids with same | ⟨c, ids, rfl, executing⟩
      · exact absurd same changed
      · refine ⟨c, found, ?_⟩
        rw [executing, gated.fresh i c ids found executing]
  · rcases stepped i section_ with ⟨none, same⟩ | ⟨point, done, found, taken, result, there⟩
    · rw [same] at present
      cases none.symm.trans present
    · rw [result] at present
      have here := Option.some.inj (there.symm.trans present)
      rcases taken.begins here executing with rfl | ⟨inside, alive, timely⟩
      · exact Or.inl found
      · exact Or.inr ⟨(gated.gate i).mpr ⟨point, found, inside⟩, alive, timely⟩
  · rcases stepped i section_ with ⟨none, same⟩ | ⟨point, done, found, taken, result, there⟩
    · rw [same] at present
      cases none.symm.trans present
    · rw [result] at present
      have here := Option.some.inj (there.symm.trans present)
      rcases taken.leaves here with rfl | inside
      · exact Or.inl found
      · exact Or.inr ((gated.gate i).mpr ⟨point, found, inside⟩)
  · rw [gated.counted]
    have bound : Threads.total WorkerPoint.live pool.workers ≤ 1 * pool.workers.length :=
      Threads.total_le WorkerPoint.live 1 fun point _ => by cases point <;> simp [WorkerPoint.live]
    rwa [Nat.one_mul] at bound

/-- For every interleaving of the workers, stops and the clock, one request at a time is
inside the gate, and it got there in time. -/
theorem gate_serialises_requests (protobuf : Protobuf) (registry : ClassRegistry) (sessions : Nat)
    (timeout : Time) (limits : SessionLimits) (first : UInt64) (actions : List PoolAction) :
    Serialised protobuf registry
      (Pool.run protobuf registry sessions timeout limits first actions).1 :=
  (Pool.run_gated protobuf registry sessions timeout limits first actions).serialised protobuf registry

/-- The workers do what the host of whole turns does: the same log, counters and
identifiers, and the stores of its sessions. -/
theorem workers_implement_host (protobuf : Protobuf) (registry : ClassRegistry) (sessions : Nat)
    (timeout : Time) (limits : SessionLimits) (first : UInt64) (actions : List PoolAction) :
    ∃ turns : List HostAction,
      let pool := (Pool.run protobuf registry sessions timeout limits first actions).1
      let host := (Host.run protobuf registry first turns).1
      host.server = pool.server ∧ host.sessions.length = pool.connections ∧
        (∀ (i : Nat) (c : Connection), pool.workers[i]? = some (.connected c) →
          host.sessions[c.number]? = some c.serving) ∧
        (∀ w ∈ host.sessions, w.Over ∨ ∃ c, .connected c ∈ pool.workers ∧ c.serving = w) ∧
        (Host.run protobuf registry first turns).2 =
          (Pool.run protobuf registry sessions timeout limits first actions).2 := by
  obtain ⟨turns, hosts, same⟩ := (Hosts.simulates protobuf registry).run
    (Hosts.launch sessions timeout limits first) actions
  refine ⟨turns, hosts.server, hosts.counted, fun i c found => ?_, fun w member => ?_, same⟩
  · exact hosts.live i (.connected c) c.number c.serving found rfl
  · obtain ⟨number, present⟩ := List.mem_iff_getElem?.mp member
    rcases hosts.owned number w present with ended | ⟨i, point, found, session⟩
    · exact Or.inl ended
    · cases point with
      | connected c =>
        cases session
        exact Or.inr ⟨c, List.mem_of_getElem? found, rfl⟩
      | _ => cases session

end PipeForge.Server
