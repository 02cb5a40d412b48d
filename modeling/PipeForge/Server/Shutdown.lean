import PipeForge.Library.Progress
import PipeForge.Server.Gate

/-!
# Stopping a server

After `request_stop` every worker leaves in a bounded number of sections: a request in
front of the gate is refused at its next test, a request inside is finished and
answered at most, and no new session gets past the head of its loop. The worker inside
the gate waits for nobody, so `stop()`, which joins the workers, hangs on nothing but
the I/O they have begun. What is left behind is quiet: no worker is inside a session, none
counts as active, the gate is free and the counters are final.
-/

namespace PipeForge.Server
open Contracts Library Protocol Domain Transport

/-- The section a worker stands before, given whether the gate is free. A worker inside
a call stands before the section that handles the result. -/
@[simp]
def WorkerPoint.due (free : Bool) : WorkerPoint → Work → Bool
  | .head, .head | .accepting, .accepted _ | .leaving, .left => true
  | .disconnecting, .disconnected _ => true
  | .connected c, section_ =>
    match section_, c.gate, c.serving.session.point with
    | .loop, .outside, .looping | .received _, .outside, .receiving => true
    | .sent _, .outside, .replying _ => true
    | .check, .checking, .dispatching _ => true
    | .acquire, .waiting, _ => free
    | .slice, .waiting, .dispatching _ => true
    | .recheck, .holding, .dispatching _ | .commit, .executing _, _ => true
    | .close, .holding, .closing => true
    | _, _, _ => false
  | _, _ => false

def Pool.due (pool : Pool) : PoolAction → Bool
  | .work i section_ =>
    match pool.workers[i]? with
    | some point => point.due pool.gate.isNone section_
    | none => false
  | _ => false

/-- How many sections a worker still runs after a stop, at most. -/
def Connection.rank (c : Connection) : Nat :=
  match c.gate, c.serving.session.point with
  | .holding, .closing => 4
  | .waiting, .closing => 5
  | .outside, .looping | .checking, _ | .holding, _ => 6
  | .outside, _ | .waiting, _ => 7
  | .executing _, _ => 8

def WorkerPoint.rank : WorkerPoint → Nat
  | .returned => 0
  | .head => 1
  | .disconnecting => 2
  | .leaving => 3
  | .connected c => c.rank
  | .accepting => 8

def Pool.rank (pool : Pool) : Nat := Threads.total WorkerPoint.rank pool.workers

section
variable {protobuf : Protobuf} {registry : ClassRegistry} {pool : Pool} {i : Nat}

/-- A connected worker is four to eight sections away from its end. -/
theorem Connection.rank_bounds (c : Connection) : 4 ≤ c.rank ∧ c.rank ≤ 8 := by
  unfold Connection.rank
  split <;> decide

theorem WorkerPoint.rank_le (point : WorkerPoint) : point.rank ≤ 8 := by
  cases point with
  | connected c => exact c.rank_bounds.2
  | _ => decide

theorem WorkerPoint.rank_eq_zero {point : WorkerPoint} : point.rank = 0 ↔ point = .returned := by
  cases point with
  | connected c =>
    have bounds := c.rank_bounds
    simp only [WorkerPoint.rank, reduceCtorEq, iff_false]
    omega
  | _ => simp [WorkerPoint.rank]

/-! ## What a turn leaves to do -/

/-- The rank of a session that its worker has just taken a turn in. -/
theorem turn_rank (server : ServerState) (c : Connection) (turn : Turn) :
    (Pool.turn protobuf registry server c turn).2.1.rank =
      match (c.serving.step protobuf registry server turn).2.1.session.point with
      | .looping | .dispatching _ => 6
      | .closing => 5
      | _ => 7 := by
  unfold Connection.rank
  simp only [Pool.turn, Session.gatePoint]
  cases (c.serving.step protobuf registry server turn).2.1.session.point <;> rfl

variable {server : ServerState} {c : Connection}

/-- A session that sees the stop goes on to its close. -/
theorem loop_rank (ended : server.stopping = true) (point : c.serving.session.point = .looping) :
    (Pool.turn protobuf registry server c .loop).2.1.rank = 5 := by
  rw [turn_rank]
  simp only [Serving.step, Session.loop, point, ended, if_true]

theorem received_rank (payload : Transport.Result Bytes)
    (point : c.serving.session.point = .receiving) :
    (Pool.turn protobuf registry server c (.received payload)).2.1.rank ≤ 6 := by
  rw [turn_rank]
  cases payload <;> simp [Serving.step, Session.received, point]

/-- A request refused at the gate ends its session. -/
theorem refused_rank (error : NativeFailure) {payload : Bytes}
    (point : c.serving.session.point = .dispatching payload) :
    (Pool.turn protobuf registry server c (.refused error)).2.1.rank = 5 := by
  rw [turn_rank]
  simp only [Serving.step, Session.refused, point]

theorem handled_rank :
    (Pool.turn protobuf registry server c .handled).2.1.rank ≤ 7 := by
  rw [turn_rank]
  split <;> decide

theorem sent_rank (result : Except NativeFailure Nat) {encoded : Bytes}
    (point : c.serving.session.point = .replying encoded) :
    (Pool.turn protobuf registry server c (.sent result)).2.1.rank ≤ 6 := by
  rw [turn_rank]
  cases result with
  | ok size => simp [Serving.step, Session.sent, point, Except.mapError]
  | error error => simp [Serving.step, Session.sent, point, Except.mapError]

/-! ## What a section takes off -/

/-- A section that moves its worker takes off at least one. -/
theorem pays_of_lt (next : WorkerPoint) (due : Bool) (before after : Nat)
    (small : next.rank ≤ after) (rank : c.rank = before) (less : after < before) :
    next.rank + due.toNat ≤ c.rank := by
  have once := Bool.toNat_le due
  omega

/-- A section that is not due does nothing. -/
theorem rests {due : Bool} (undue : due = false) :
    WorkerPoint.rank (.connected c) + due.toNat ≤ c.rank := by
  rw [undue]
  exact Nat.le_refl _

theorem loop_pays (fits : c.gate.fits c.serving.session.point = true)
    (ended : pool.server.stopping = true) :
    (pool.connected protobuf registry i c .loop).2.1.rank +
      (WorkerPoint.due pool.gate.isNone (.connected c) .loop).toNat ≤ c.rank := by
  cases point : c.serving.session.point with
  | looping =>
    have outside := GatePoint.fits_away fits (by rw [point]; rfl)
    simp only [Pool.connected, point]
    exact pays_of_lt _ _ 6 5 (Nat.le_of_eq (loop_rank ended point))
      (by simp only [Connection.rank, outside, point]) (by decide)
  | _ =>
    simp only [Pool.connected, point]
    exact rests (by cases gate : c.gate <;> simp [WorkerPoint.due, gate, point])

theorem received_pays (payload : Transport.Result Bytes)
    (fits : c.gate.fits c.serving.session.point = true) :
    (pool.connected protobuf registry i c (.received payload)).2.1.rank +
      (WorkerPoint.due pool.gate.isNone (.connected c) (.received payload)).toNat ≤ c.rank := by
  cases point : c.serving.session.point with
  | receiving =>
    have outside := GatePoint.fits_away fits (by rw [point]; rfl)
    simp only [Pool.connected, point]
    exact pays_of_lt _ _ 7 6 (received_rank payload point)
      (by simp only [Connection.rank, outside, point]) (by decide)
  | _ =>
    simp only [Pool.connected, point]
    exact rests (by cases gate : c.gate <;> simp [WorkerPoint.due, gate, point])

theorem sent_pays (result : Except NativeFailure Nat)
    (fits : c.gate.fits c.serving.session.point = true) :
    (pool.connected protobuf registry i c (.sent result)).2.1.rank +
      (WorkerPoint.due pool.gate.isNone (.connected c) (.sent result)).toNat ≤ c.rank := by
  cases point : c.serving.session.point with
  | replying encoded =>
    have outside := GatePoint.fits_away fits (by rw [point]; rfl)
    simp only [Pool.connected, point]
    exact pays_of_lt _ _ 7 6 (sent_rank result point)
      (by simp only [Connection.rank, outside, point]) (by decide)
  | _ =>
    simp only [Pool.connected, point]
    exact rests (by cases gate : c.gate <;> simp [WorkerPoint.due, gate, point])

/-- Before the gate a stop is seen, and the request is refused. -/
theorem check_pays (fits : c.gate.fits c.serving.session.point = true)
    (ended : pool.server.stopping = true) :
    (pool.connected protobuf registry i c .check).2.1.rank +
      (WorkerPoint.due pool.gate.isNone (.connected c) .check).toNat ≤ c.rank := by
  obtain ⟨error, refuses⟩ : ∃ error, preflight pool.server.stopping pool.now c.deadline = some error :=
    preflight_some ended
  cases gate : c.gate with
  | checking =>
    cases point : c.serving.session.point with
    | dispatching payload =>
      simp only [Pool.connected, gate, refuses]
      exact pays_of_lt _ _ 6 5 (Nat.le_of_eq (refused_rank error point))
        (by simp only [Connection.rank, gate, point]) (by decide)
    | _ => simp [GatePoint.fits, gate, point] at fits
  | _ =>
    simp only [Pool.connected, gate]
    exact rests (by simp [WorkerPoint.due, gate])

theorem acquire_pays (fits : c.gate.fits c.serving.session.point = true) :
    (pool.connected protobuf registry i c .acquire).2.1.rank +
      (WorkerPoint.due pool.gate.isNone (.connected c) .acquire).toNat ≤ c.rank := by
  cases gate : c.gate with
  | waiting =>
    cases held : pool.gate with
    | some holder =>
      simp only [Pool.connected, gate, held]
      exact rests (by simp [WorkerPoint.due, gate])
    | none =>
      simp only [Pool.connected, gate, held]
      cases point : c.serving.session.point with
      | closing =>
        exact pays_of_lt _ _ 5 4 (by simp [WorkerPoint.rank, Connection.rank, point])
          (by simp only [Connection.rank, gate, point]) (by decide)
      | dispatching payload =>
        exact pays_of_lt _ _ 7 6 (by simp [WorkerPoint.rank, Connection.rank, point])
          (by simp only [Connection.rank, gate, point]) (by decide)
      | _ => simp [GatePoint.fits, gate, point] at fits
  | _ =>
    simp only [Pool.connected, gate]
    exact rests (by simp [WorkerPoint.due, gate])

/-- The wait for the gate is cut into slices, and after each the stop is looked for again. -/
theorem slice_pays :
    (pool.connected protobuf registry i c .slice).2.1.rank +
      (WorkerPoint.due pool.gate.isNone (.connected c) .slice).toNat ≤ c.rank := by
  cases gate : c.gate with
  | waiting =>
    cases point : c.serving.session.point with
    | dispatching payload =>
      simp only [Pool.connected, gate, point]
      exact pays_of_lt _ _ 7 6 (by simp [WorkerPoint.rank, Connection.rank])
        (by simp only [Connection.rank, gate, point]) (by decide)
    | _ =>
      simp only [Pool.connected, gate, point]
      exact rests (by simp [WorkerPoint.due, gate, point])
  | _ =>
    simp only [Pool.connected, gate]
    exact rests (by simp [WorkerPoint.due, gate])

/-- Inside the gate the stop is looked for once more before the request is executed. -/
theorem recheck_pays (ended : pool.server.stopping = true) :
    (pool.connected protobuf registry i c .recheck).2.1.rank +
      (WorkerPoint.due pool.gate.isNone (.connected c) .recheck).toNat ≤ c.rank := by
  obtain ⟨error, refuses⟩ : ∃ error, preflight pool.server.stopping pool.now c.deadline = some error :=
    preflight_some ended
  cases gate : c.gate with
  | holding =>
    cases point : c.serving.session.point with
    | dispatching payload =>
      simp only [Pool.connected, gate, point, refuses]
      exact pays_of_lt _ _ 6 5 (Nat.le_of_eq (refused_rank error point))
        (by simp only [Connection.rank, gate, point]) (by decide)
    | _ =>
      simp only [Pool.connected, gate, point]
      exact rests (by simp [WorkerPoint.due, gate, point])
  | _ =>
    simp only [Pool.connected, gate]
    exact rests (by simp [WorkerPoint.due, gate])

/-- What is being executed is committed, stop or not. -/
theorem commit_pays :
    (pool.connected protobuf registry i c .commit).2.1.rank +
      (WorkerPoint.due pool.gate.isNone (.connected c) .commit).toNat ≤ c.rank := by
  cases gate : c.gate with
  | executing ids =>
    simp only [Pool.connected, gate]
    exact pays_of_lt _ _ 8 7 handled_rank (by simp only [Connection.rank, gate]) (by decide)
  | _ =>
    simp only [Pool.connected, gate]
    exact rests (by simp [WorkerPoint.due, gate])

theorem close_pays :
    (pool.connected protobuf registry i c .close).2.1.rank +
      (WorkerPoint.due pool.gate.isNone (.connected c) .close).toNat ≤ c.rank := by
  cases gate : c.gate with
  | holding =>
    cases point : c.serving.session.point with
    | closing =>
      simp only [Pool.connected, gate, point]
      exact pays_of_lt _ _ 4 3 (Nat.le_refl 3) (by simp only [Connection.rank, gate, point])
        (by decide)
    | _ =>
      simp only [Pool.connected, gate, point]
      exact rests (by simp [WorkerPoint.due, gate, point])
  | _ =>
    simp only [Pool.connected, gate]
    exact rests (by simp [WorkerPoint.due, gate])

/-- After a stop, a section that is due brings its worker nearer to the end. -/
theorem connected_rank (fits : c.gate.fits c.serving.session.point = true)
    (ended : pool.server.stopping = true) (section_ : Work) :
    (pool.connected protobuf registry i c section_).2.1.rank +
      (WorkerPoint.due pool.gate.isNone (.connected c) section_).toNat ≤ c.rank := by
  cases section_ with
  | loop => exact loop_pays fits ended
  | received payload => exact received_pays payload fits
  | sent result => exact sent_pays result fits
  | check => exact check_pays fits ended
  | acquire => exact acquire_pays fits
  | slice => exact slice_pays
  | recheck => exact recheck_pays ended
  | commit => exact commit_pays
  | close => exact close_pays
  | _ => exact rests rfl

/-- While the server stops, each due section brings its worker one nearer to the end, and no
section takes it back. -/
theorem work_rank (protobuf : Protobuf) (registry : ClassRegistry) (i : Nat) {point : WorkerPoint}
    (fits : ∀ c, point = .connected c → c.gate.fits c.serving.session.point = true)
    (ended : pool.server.stopping = true) (section_ : Work) :
    (pool.work protobuf registry i point section_).2.1.rank +
      (point.due pool.gate.isNone section_).toNat ≤ point.rank := by
  cases point with
  | connected c => exact connected_rank (fits c rfl) ended section_
  | head =>
    cases section_ with
    | head => simp [Pool.work, ended, WorkerPoint.rank, WorkerPoint.due]
    | _ => exact Nat.le_refl _
  | accepting =>
    cases section_ with
    | accepted result =>
      cases result with
      | ok _ =>
        simp [Pool.work, Pool.accepted, WorkerPoint.rank, WorkerPoint.due, Connection.rank,
          Session.start]
      | error error => simp [Pool.work, Pool.accepted, ended, WorkerPoint.rank, WorkerPoint.due]
    | _ => exact Nat.le_refl _
  | leaving =>
    cases section_ with
    | left => exact Nat.le_refl _
    | _ => exact Nat.le_refl _
  | disconnecting =>
    cases section_ with
    | disconnected failure => cases failure <;> exact Nat.le_refl _
    | _ => exact Nat.le_refl _
  | returned =>
    cases section_ with
    | _ => exact Nat.le_refl _

/-- A worker inside the gate waits for nobody. -/
theorem due_inside {point : WorkerPoint}
    (fits : ∀ c, point = .connected c → c.gate.fits c.serving.session.point = true)
    (inside : point.inside = true) (free : Bool) : ∃ section_, point.due free section_ = true := by
  cases point with
  | connected c =>
    have fits := fits c rfl
    cases gate : c.gate with
    | executing ids => exact ⟨.commit, by simp [WorkerPoint.due, gate]⟩
    | holding =>
      cases point : c.serving.session.point with
      | dispatching payload => exact ⟨.recheck, by simp [WorkerPoint.due, gate, point]⟩
      | closing => exact ⟨.close, by simp [WorkerPoint.due, gate, point]⟩
      | _ => simp [GatePoint.fits, gate, point] at fits
    | _ => simp [WorkerPoint.inside, GatePoint.inside, gate] at inside
  | _ => cases inside

/-- With a free gate no worker waits for another. -/
theorem due_free {point : WorkerPoint}
    (fits : ∀ c, point = .connected c → c.gate.fits c.serving.session.point = true)
    (unfinished : point ≠ .returned) : ∃ section_, point.due true section_ = true := by
  by_cases inside : point.inside = true
  · exact due_inside fits inside true
  · cases point with
    | head => exact ⟨.head, rfl⟩
    | accepting => exact ⟨.accepted (.ok ()), rfl⟩
    | leaving => exact ⟨.left, rfl⟩
    | disconnecting => exact ⟨.disconnected none, rfl⟩
    | returned => exact absurd rfl unfinished
    | connected c =>
      have fits := fits c rfl
      cases gate : c.gate with
      | waiting => exact ⟨.acquire, by simp [WorkerPoint.due, gate]⟩
      | checking =>
        cases point : c.serving.session.point with
        | dispatching payload => exact ⟨.check, by simp [WorkerPoint.due, gate, point]⟩
        | _ => simp [GatePoint.fits, gate, point] at fits
      | outside =>
        cases point : c.serving.session.point with
        | looping => exact ⟨.loop, by simp [WorkerPoint.due, gate, point]⟩
        | receiving => exact ⟨.received (.ok []), by simp [WorkerPoint.due, gate, point]⟩
        | replying encoded => exact ⟨.sent (.ok 0), by simp [WorkerPoint.due, gate, point]⟩
        | _ => simp [GatePoint.fits, gate, point] at fits
      | _ => simp [WorkerPoint.inside, GatePoint.inside, gate] at inside

/-- Some worker can go on as long as one has not returned. -/
theorem Gated.due (gated : Gated pool) {point : WorkerPoint} (member : point ∈ pool.workers)
    (unfinished : point ≠ .returned) : ∃ action, pool.due action = true := by
  have each : ∀ {j : Nat} {other : WorkerPoint}, pool.workers[j]? = some other →
      ∀ c, other = .connected c → c.gate.fits c.serving.session.point = true := by
    rintro j other found c rfl
    exact gated.fits j c found
  cases held : pool.gate with
  | none =>
    obtain ⟨j, found⟩ := List.mem_iff_getElem?.mp member
    obtain ⟨section_, due⟩ := due_free (each found) unfinished
    exact ⟨.work j section_, by simp only [Pool.due, found, held]; exact due⟩
  | some j =>
    obtain ⟨holder, found, inside⟩ := (gated.gate j).mp held
    obtain ⟨section_, due⟩ := due_inside (each found) inside false
    exact ⟨.work j section_, by simp only [Pool.due, found, held]; exact due⟩

end

/-! ## The result -/

/-- All workers have returned. -/
def Pool.Joined (pool : Pool) : Prop := ∀ point ∈ pool.workers, point = .returned

theorem Pool.step_stopping {protobuf : Protobuf} {registry : ClassRegistry} {pool : Pool}
    (gated : Gated pool) (ended : pool.server.stopping = true) (action : PoolAction) :
    (pool.step protobuf registry action).1.server.stopping = true := by
  cases action with
  | work i section_ =>
    simp only [Pool.step]
    split
    · exact ended
    · rename_i point found
      have taken : Advance protobuf registry pool i point
          (pool.work protobuf registry i point section_) := by
        apply work_advance
        rintro c rfl
        exact gated.fits i c found
      generalize pool.work protobuf registry i point section_ = done at taken
      cases taken with
      | turned c deadline turn outside away =>
        exact (Serving.step_stopping protobuf registry pool.server c.serving turn).trans ended
      | refused c payload error holding point =>
        exact (Serving.step_stopping protobuf registry pool.server c.serving _).trans ended
      | committed c ids executing =>
        exact (Serving.step_stopping protobuf registry _ c.serving _).trans ended
      | closed c holding point => exact ended
      | broke error alive kind => rfl
      | failed error => rfl
      | _ => exact ended
  | stop => rfl
  | tick elapsed => exact ended

/-- The ranks of all workers together bound the sections until they can be joined. -/
theorem shutdown_progress (protobuf : Protobuf) (registry : ClassRegistry) :
    Transition.Progress (Pool.step protobuf registry)
      (fun pool => Gated pool ∧ pool.server.stopping = true) Pool.Joined Pool.due Pool.rank where
  keeps pool action valid :=
    ⟨valid.1.step protobuf registry action, Pool.step_stopping valid.1 valid.2 action⟩
  pays pool action valid _ := by
    cases action with
    | work i section_ =>
      cases found : pool.workers[i]? with
      | none =>
        simp only [Pool.step, Pool.due, found]
        exact Nat.le_refl _
      | some point =>
        have each : ∀ c, point = .connected c → c.gate.fits c.serving.session.point = true := by
          rintro c rfl
          exact valid.1.fits i c found
        have paid := work_rank protobuf registry i each valid.2 section_
        have changed := Threads.total_set WorkerPoint.rank found
          (pool.work protobuf registry i point section_).2.1
        simp only [Pool.step, Pool.due, Pool.rank, found]
        omega
    | stop => exact Nat.le_refl _
    | tick elapsed => exact Nat.le_refl _
  reached pool _ zero point member :=
    WorkerPoint.rank_eq_zero.mp (Threads.total_eq_zero.mp zero point member)

/-- What the workers leave behind. -/
structure Quiet (protobuf : Protobuf) (registry : ClassRegistry) (pool : Pool) : Prop where
  joined : pool.Joined
  inactive : pool.active = 0
  free : pool.gate = none
  /-- The counters are final. -/
  final : ∀ later, let after := (Transition.run (Pool.step protobuf registry) pool later).1
    after.server.statistics = pool.server.statistics ∧ after.connections = pool.connections ∧
      after.active = 0

theorem Pool.Joined.step {pool : Pool} (joined : pool.Joined) (protobuf : Protobuf)
    (registry : ClassRegistry) (action : PoolAction) :
    let after := (pool.step protobuf registry action).1
    after.Joined ∧ after.server.statistics = pool.server.statistics ∧
      after.connections = pool.connections ∧ after.active = pool.active := by
  cases action with
  | work i section_ =>
    cases found : pool.workers[i]? with
    | none =>
      simp only [Pool.step, found, and_self, and_true]
      exact joined
    | some point =>
      cases joined point (List.mem_of_getElem? found)
      have stays : pool.work protobuf registry i .returned section_ = (pool, .returned, []) := by
        cases section_ <;> rfl
      simp only [Pool.step, found, stays, Threads.set_here found, and_self, and_true]
      exact joined
  | stop => exact ⟨joined, rfl, rfl, rfl⟩
  | tick elapsed => exact ⟨joined, rfl, rfl, rfl⟩

/-- A pool whose workers have returned does nothing any more. -/
theorem Gated.quiet {pool : Pool} (gated : Gated pool) (protobuf : Protobuf)
    (registry : ClassRegistry) (joined : pool.Joined) : Quiet protobuf registry pool := by
  have inactive : pool.active = 0 := by
    rw [gated.counted]
    apply Threads.total_eq_zero.mpr
    intro point member
    rw [joined point member]
    rfl
  refine ⟨joined, inactive, ?_, fun later => ?_⟩
  · cases held : pool.gate with
    | none => rfl
    | some i =>
      obtain ⟨point, found, inside⟩ := (gated.gate i).mp held
      rw [joined point (List.mem_of_getElem? found)] at inside
      cases inside
  · have kept := Transition.run_invariant (Pool.step protobuf registry)
      (fun after _ => after.Joined ∧ after.server.statistics = pool.server.statistics ∧
        after.connections = pool.connections ∧ after.active = pool.active) pool []
      ⟨joined, rfl, rfl, rfl⟩
      (fun after _ action before => by
        obtain ⟨next, statistics, connections, active⟩ :=
          before.1.step protobuf registry action
        exact ⟨next, statistics.trans before.2.1, connections.trans before.2.2.1,
          active.trans before.2.2.2⟩) later
    exact ⟨kept.2.1, kept.2.2.1, kept.2.2.2.trans inactive⟩

/-- There are as many workers as sessions, whatever happens. -/
theorem Pool.run_workers (protobuf : Protobuf) (registry : ClassRegistry) (sessions : Nat)
    (timeout : Time) (limits : SessionLimits) (first : UInt64) (actions : List PoolAction) :
    (Pool.run protobuf registry sessions timeout limits first actions).1.workers.length =
      sessions := by
  refine Transition.run_invariant (Pool.step protobuf registry)
    (fun pool _ => pool.workers.length = sessions) _ [] List.length_replicate ?_ actions
  intro pool _ action same
  cases action with
  | work i section_ =>
    simp only [Pool.step]
    split
    · exact same
    · rw [← same]
      exact List.length_set
  | stop => exact same
  | tick elapsed => exact same

/-- Once a stop is requested, at most eight sections of each worker are left. While a
worker has not returned, some worker can go on, and after that many sections the server
is quiet, whatever happens between them. -/
theorem stop_joins_workers (protobuf : Protobuf) (registry : ClassRegistry) (sessions : Nat)
    (timeout : Time) (limits : SessionLimits) (first : UInt64) (before : List PoolAction)
    (ended : (Pool.run protobuf registry sessions timeout limits first before).1.server.stopping =
      true) :
    let pool := (Pool.run protobuf registry sessions timeout limits first before).1
    pool.rank ≤ 8 * sessions ∧
      (¬ pool.Joined → ∃ action, pool.due action = true) ∧
      ∀ actions, pool.rank ≤
          Transition.helpful (Pool.step protobuf registry) Pool.due pool actions →
        ∃ front, front <+: actions ∧ Quiet protobuf registry
          (Pool.run protobuf registry sessions timeout limits first (before ++ front)).1 := by
  have gated := Pool.run_gated protobuf registry sessions timeout limits first before
  refine ⟨?_, fun unfinished => ?_, fun actions enough => ?_⟩
  · have bound : (Pool.run protobuf registry sessions timeout limits first before).1.rank ≤ _ :=
      Threads.total_le WorkerPoint.rank 8 fun point _ => point.rank_le
    rwa [Pool.run_workers] at bound
  · obtain ⟨point, member, other⟩ : ∃ point ∈ (Pool.run protobuf registry sessions timeout limits
        first before).1.workers, point ≠ .returned := by
      by_contra none
      apply unfinished
      intro point member
      by_contra other
      exact none ⟨point, member, other⟩
    exact gated.due member other
  · obtain ⟨front, shorter, joined⟩ :=
      (shutdown_progress protobuf registry).reaches ⟨gated, ended⟩ enough
    have after := Pool.run_gated protobuf registry sessions timeout limits first (before ++ front)
    refine ⟨front, shorter, after.quiet protobuf registry ?_⟩
    rw [Pool.run, Transition.run_append]
    exact joined

/-- Two sessions with a request each; one is inside the gate and the other waits for it
when the stop comes. -/
def stoppedAtGate : List PoolAction :=
  [.work 0 .head, .work 1 .head, .work 0 (.accepted (.ok ())), .work 1 (.accepted (.ok ())),
    .work 0 .loop, .work 1 .loop, .work 0 (.received (.ok [8, 1, 16, 1, 114, 2, 16, 2])),
    .work 0 .check, .work 0 .acquire, .work 0 .recheck,
    .work 1 (.received (.ok [8, 1, 16, 1, 114, 2, 16, 2])), .work 1 .check, .stop]

/-- The first finishes its request and answers; the second is refused. -/
def workersLeave : List PoolAction :=
  [.work 1 .slice, .work 1 .check, .work 0 .commit, .work 0 (.sent (.ok 10)), .work 1 .acquire,
    .work 0 .loop, .work 1 .close, .work 0 .acquire, .work 0 .close, .work 0 .left, .work 1 .left,
    .work 1 (.disconnected none), .work 0 (.disconnected none), .work 0 .head, .work 1 .head]

theorem stop_joins_workers_at_gate :
    (Pool.run referenceProtobuf builtinRegistry 2 100 ⟨4, 4, 4096⟩ 1 stoppedAtGate).1.rank = 15 ∧
      ∃ front, front <+: workersLeave ∧ Quiet referenceProtobuf builtinRegistry
        (Pool.run referenceProtobuf builtinRegistry 2 100 ⟨4, 4, 4096⟩ 1
          (stoppedAtGate ++ front)).1 :=
  ⟨by decide,
    (stop_joins_workers referenceProtobuf builtinRegistry 2 100 ⟨4, 4, 4096⟩ 1 stoppedAtGate
      (by decide)).2.2 workersLeave (by decide)⟩

end PipeForge.Server
