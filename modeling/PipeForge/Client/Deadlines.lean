import PipeForge.Client.Waiting
import PipeForge.Library.Progress
import PipeForge.Protocol.Reference

/-!
# The monitor keeps deadlines

A call whose deadline has passed, or whose stop was requested, is settled by the monitor's
next pass (client.cpp). A pass is never far: an admitted call finds the monitor on duty,
and its wait has ended once a deadline has passed. Only a stop, which notifies nobody,
waits for the end of the cancellation slice.
-/

namespace PipeForge.Client
open Contracts Library Transport

namespace ConnectionState
variable {protobuf : Protocol.Protobuf} {s : ConnectionState}

/-- Only `connect` starts a session. -/
theorem step_started {action : Action}
    (other : ∀ endpoint deadline stop workers, action ≠ .connect endpoint deadline stop workers) :
    (step protobuf s action).1.started = s.started := by
  cases action with
  | connect endpoint deadline stop workers => exact absurd rfl (other endpoint deadline stop workers)
  | tick | requestStop => rfl
  | _ => exact (s.step_frame rfl).started

end ConnectionState

/-! ## The monitor is on duty -/

/-- A started session has a monitor until it is closed, and takes calls once it is connected. -/
structure Watched (s : ConnectionState) : Prop where
  onDuty : s.started = true → s.closed = false → s.monitor.finished = false
  admitted : s.pending.entries ≠ [] → s.connected = true

namespace Watched
variable {protobuf : Protocol.Protobuf} {s : ConnectionState}

theorem initial (opener : Bool) : Watched (.initial opener) where
  onDuty := nofun
  admitted nonempty := absurd rfl nonempty

/-- A successful `connect_async` has put the monitor on duty; a failed one is closed. -/
theorem connect_onDuty (watched : Watched s) (endpoint : WString) (deadline : Time)
    (stop : StopToken) (workers : Except CreationFailure Unit)
    (started : (s.connectAsync endpoint deadline stop workers).2.started = true)
    (alive : (s.connectAsync endpoint deadline stop workers).2.closed = false) :
    (s.connectAsync endpoint deadline stop workers).2.monitor.finished = false := by
  rcases s.connectAsync_eq endpoint deadline stop workers with
    same | ⟨-, -, same | ⟨_, _, _, -, -, same⟩⟩
  · rw [same] at started alive ⊢
    exact watched.onDuty started alive
  · rw [same]
    rfl
  · rw [same, ConnectionState.failAll, ConnectionState.failLocked_closed] at alive
    cases alive

theorem monitorConnected_onDuty (present : s.monitor.finished = false) (alive : s.closed = false) :
    s.monitorConnected.monitor.finished = false := by
  unfold ConnectionState.monitorConnected
  split
  · rename_i starting
    split
    · rename_i closed
      cases alive.symm.trans closed
    · split
      · rfl
      · exact present
  · exact present

/-- The monitor leaves duty only by closing the connection. -/
theorem monitorScan_onDuty (present : s.monitor.finished = false) (opened : s.closed = false)
    (alive : s.monitorScan.closed = false) : s.monitorScan.monitor.finished = false := by
  unfold ConnectionState.monitorScan at alive ⊢
  split
  · rename_i scanning
    simp only [scanning, opened, Bool.false_eq_true, if_false] at alive ⊢
    rcases s.scan_goes_on s.pending.entries with ⟨-, same⟩ | ⟨closed, -⟩
    · rw [same]
      exact present
    · cases alive.symm.trans closed
  · exact present

/-- As long as the connection is open and started, the monitor is on duty. -/
theorem step_onDuty (watched : Watched s) (invariant : Invariant s) {action : Action}
    (started : (s.step protobuf action).1.started = true)
    (alive : (s.step protobuf action).1.closed = false) :
    (s.step protobuf action).1.monitor.finished = false := by
  have opened : s.closed = false := by
    by_contra closed
    have still := (ConnectionState.step_since protobuf invariant action).later.closed
      (Bool.ne_false_iff.mp closed)
    cases alive.symm.trans still.1
  by_cases first : ∃ endpoint deadline stop workers, action = .connect endpoint deadline stop workers
  · obtain ⟨endpoint, deadline, stop, workers, rfl⟩ := first
    exact watched.connect_onDuty endpoint deadline stop workers started alive
  rw [ConnectionState.step_started fun endpoint deadline stop workers connects =>
    first ⟨endpoint, deadline, stop, workers, connects⟩] at started
  have present := watched.onDuty started opened
  by_cases own : action.worker = some .monitor
  · cases action with
    | monitorConnected => exact monitorConnected_onDuty present opened
    | monitorScan => exact monitorScan_onDuty present opened alive
    | _ => cases own
  · rw [ConnectionState.step_monitor_frame started own]
    exact present

/-- Only a connected connection admits calls. -/
theorem callAsync_connected {operation : Operation} {deadline : Time} {stop : StopToken}
    (admitted : (s.callAsync protobuf operation deadline stop).1.isOk = true) :
    s.connected = true := by
  by_contra apart
  simp [ConnectionState.callAsync, Bool.eq_false_iff.mpr apart, Except.isOk, Except.toBool] at admitted

theorem step_admitted (watched : Watched s) {action : Action}
    (nonempty : (s.step protobuf action).1.pending.entries ≠ []) : s.connected = true := by
  by_contra apart
  have shrinks : s.Shrinks (s.step protobuf action).1 := by
    apply ConnectionState.step_shrinks
    rintro operation deadline stop rfl
    exact Bool.eq_false_iff.mpr fun admitted => apart (callAsync_connected admitted)
  obtain ⟨e, member⟩ := List.exists_mem_of_ne_nil _ nonempty
  exact apart (watched.admitted (List.ne_nil_of_mem (shrinks.1 e member)))

theorem step (watched : Watched s) (invariant : Invariant s) (action : Action) :
    Watched (s.step protobuf action).1 where
  onDuty started alive := watched.step_onDuty invariant started alive
  admitted nonempty :=
    ConnectionState.step_still_connected (watched.step_admitted nonempty) action

end Watched

/-! ## What is owed -/

/-- How far the monitor is from the end of a pass. -/
def MonitorPoint.distance : MonitorPoint → Rest → Nat
  | .starting, _ => 2
  | .scanning, .awake => 1
  | .scanning, _ => 2
  | .absent, _ | .done, _ => 0

/-- A thread that has been woken is no farther from its scan than one asleep. -/
theorem MonitorPoint.distance_awake (point : MonitorPoint) (rest : Rest) :
    point.distance .awake ≤ point.distance rest := by
  cases point <;> cases rest <;> simp [MonitorPoint.distance]

namespace Waiting
variable {protobuf : Protocol.Protobuf} {w : Waiting} {entry : Address}

def distance (w : Waiting) : Nat := w.connection.monitor.distance w.monitor

/-- The steps that bring it there. A timed wait is over at its limit. -/
def owed (w : Waiting) : WaitingAction → Bool
  | .act .monitorConnected => decide (w.connection.monitor = .starting ∧ w.monitor = .awake)
  | .act .monitorScan => decide (w.connection.monitor = .scanning ∧ w.monitor = .awake)
  | .wake .monitor =>
    match w.monitor with
    | .timed limit => decide (limit ≤ w.connection.now)
    | _ => false
  | _ => false

/-- The promise of the call has a value. -/
def settled (w : Waiting) (entry : Address) : Bool :=
  w.connection.calls[entry]?.any fun call => call.promise != []

def rank (entry : Address) (w : Waiting) : Nat := if w.settled entry then 0 else w.distance

theorem rank_le_distance (entry : Address) (w : Waiting) : w.rank entry ≤ w.distance := by
  unfold rank
  split
  · exact Nat.zero_le _
  · exact Nat.le_refl _

/-- Two steps of the monitor are the most a call is away from being settled. -/
theorem rank_le (entry : Address) (w : Waiting) : w.rank entry ≤ 2 := by
  apply Nat.le_trans (rank_le_distance entry w)
  unfold distance MonitorPoint.distance
  split <;> decide

/-- The call is one the monitor has to settle. -/
structure Overdue (entry : Address) (w : Waiting) : Prop where
  attentive : Attentive w
  watched : Watched w.connection
  expired : ∃ call, w.connection.calls[entry]? = some call ∧ w.connection.expired call = true

/-- The call is still pending in an open session, and the monitor has passed its first wait
or has no reason to stay in it. -/
structure Unsettled (entry : Address) (call : PendingCall) (w : Waiting) : Prop where
  found : w.connection.calls[entry]? = some call
  expired : w.connection.expired call = true
  unset : call.promise = []
  pending : (call.request.id, entry) ∈ w.connection.pending.entries
  alive : w.connection.closed = false
  connected : w.connection.connected = true
  started : w.connection.started = true
  duty : w.connection.monitor = .starting ∧ w.monitor = .awake ∨ w.connection.monitor = .scanning

/-- A call that is overdue and not settled is still in the map for the scan to find. -/
theorem Overdue.unsettled (overdue : Overdue entry w) (open_ : w.settled entry = false) :
    ∃ call, Unsettled entry call w := by
  obtain ⟨attentive, watched, call, found, expired⟩ := overdue
  have unset : call.promise = [] := by
    simpa [settled, found] using open_
  have held := (attentive.invariant.ledger.unset entry call found).mp unset
  have pending := (OrderedMap.find_eq_some_iff _ _ _).mp held
  have connected := watched.admitted (List.ne_nil_of_mem pending)
  have started := (attentive.threads.behind connected).1
  have alive : w.connection.closed = false := by
    by_contra closed
    have drained := (attentive.invariant.ledger.drained (Bool.ne_false_iff.mp closed)).1
    rw [drained] at pending
    cases pending
  refine ⟨call, found, expired, unset, pending, alive, connected, started, ?_⟩
  have present := watched.onDuty started alive
  cases point : w.connection.monitor with
  | absent | done =>
    rw [point] at present
    cases present
  | scanning => exact Or.inr rfl
  | starting =>
    refine Or.inl ⟨rfl, ?_⟩
    cases rest : w.monitor with
    | awake => rfl
    | untimed =>
      obtain ⟨-, ⟨-, apart⟩ | ⟨scanning, -⟩⟩ := attentive.untimed rest
      · cases apart.symm.trans connected
      · cases scanning.symm.trans point
    | timed limit => cases (attentive.timed limit rest).2.1.symm.trans point

theorem settled_of_promise {call : PendingCall} (found : w.connection.calls[entry]? = some call)
    (set : call.promise ≠ []) : w.settled entry = true := by
  simp [settled, found, set]

/-- A pass settles an expired call, one way or another. -/
theorem scan_settles {call : PendingCall} (attentive : Attentive w)
    (unsettled : Unsettled entry call w) (scanning : w.connection.monitor = .scanning)
    {next : Waiting} (reached : next.connection = (w.connection.step protobuf .monitorScan).1) :
    next.settled entry = true := by
  have since := ConnectionState.step_since protobuf attentive.invariant .monitorScan
  have pass : (w.connection.step protobuf .monitorScan).1 =
      w.connection.scan w.connection.pending.entries := by
    simp [ConnectionState.step, ConnectionState.monitorScan, scanning, unsettled.alive]
  rw [← reached] at since pass
  obtain ⟨later, there, relation⟩ := since.keeps.calls entry call unsettled.found
  refine settled_of_promise there fun unset => ?_
  have held := (since.invariant.ledger.unset entry later there).mp unset
  rw [relation.request] at held
  by_cases closed : next.connection.closed = true
  · have drained := (since.invariant.ledger.drained closed).1
    rw [drained] at held
    cases held
  · rw [pass] at closed
    have gone := ConnectionState.scan_clears w.connection.pending.entries attentive.invariant.ledger
      unsettled.alive (fun e member => (OrderedMap.find_eq_some_iff _ _ _).mpr member)
      w.connection.pending.sorted (Bool.eq_false_iff.mpr closed) unsettled.pending unsettled.found
      unsettled.expired
    rw [← pass] at gone
    exact gone ((OrderedMap.find_eq_some_iff _ _ _).mp held)

theorem advance_distance (started : w.connection.started = true) {action : Action}
    (other : action.worker ≠ some .monitor) : (w.advance protobuf action).distance ≤ w.distance := by
  rw [distance, advance_connection, ConnectionState.step_monitor_frame started other]
  unfold advance
  dsimp only
  split
  · exact MonitorPoint.distance_awake _ _
  · exact Nat.le_refl _

theorem distance_of {next : Waiting} {point : MonitorPoint} {rest : Rest}
    (here : next.connection.monitor = point) (rests : next.monitor = rest) :
    next.distance = point.distance rest := by
  rw [distance, here, rests]

/-- Without a notification in between the awake monitor stays awake. -/
theorem advance_awake (awake : w.monitor = .awake) (action : Action) :
    (w.advance protobuf action).monitor = .awake := by
  unfold advance
  dsimp only
  split
  · rfl
  · exact awake

/-- A connected session lets the monitor past its first wait. -/
theorem monitorConnected_pays {call : PendingCall} (unsettled : Unsettled entry call w) :
    (w.act protobuf .monitorConnected).distance + (w.owed (.act .monitorConnected)).toNat ≤
      w.distance := by
  unfold act
  split
  · rename_i asleep
    have resting : w.monitor ≠ .awake := by simpa [Action.worker, Waiting.asleep] using asleep
    simp [owed, resting]
  · rename_i awake
    replace awake : w.monitor = .awake := by simpa [Action.worker, Waiting.asleep] using awake
    have here : ((w.advance protobuf .monitorConnected).turnIn w.connection .monitorConnected) =
        w.advance protobuf .monitorConnected := by simp [turnIn, unsettled.connected]
    have point : (w.advance protobuf .monitorConnected).connection.monitor = .scanning := by
      rw [advance_connection]
      rcases unsettled.duty with ⟨starting, -⟩ | scanning
      · simp [ConnectionState.step, ConnectionState.monitorConnected, starting, unsettled.alive,
          unsettled.connected]
      · simp [ConnectionState.step, ConnectionState.monitorConnected, scanning]
    rw [here, distance_of point (advance_awake awake _)]
    rcases unsettled.duty with ⟨starting, -⟩ | scanning
    · rw [distance_of starting awake]
      simp [owed, starting, awake, MonitorPoint.distance]
    · rw [distance_of scanning awake]
      simp [owed, scanning]

/-- The pass settles the call, so nothing is left to pay. -/
theorem monitorScan_pays {call : PendingCall} (attentive : Attentive w)
    (unsettled : Unsettled entry call w) :
    (w.act protobuf .monitorScan).rank entry + (w.owed (.act .monitorScan)).toNat ≤ w.distance := by
  unfold act
  split
  · rename_i asleep
    have resting : w.monitor ≠ .awake := by simpa [Action.worker, Waiting.asleep] using asleep
    simpa [owed, resting] using rank_le_distance entry w
  · rename_i awake
    replace awake : w.monitor = .awake := by simpa [Action.worker, Waiting.asleep] using awake
    rcases unsettled.duty with ⟨starting, -⟩ | scanning
    · have here : ((w.advance protobuf .monitorScan).turnIn w.connection .monitorScan) =
          w.advance protobuf .monitorScan := by simp [turnIn, starting]
      have point : (w.advance protobuf .monitorScan).connection.monitor = .starting := by
        rw [advance_connection]
        simp [ConnectionState.step, ConnectionState.monitorScan, starting]
      have near := rank_le_distance entry (w.advance protobuf .monitorScan)
      rw [distance_of point (advance_awake awake _)] at near
      rw [here, distance_of starting awake]
      simpa [owed, starting] using near
    · have done : ((w.advance protobuf .monitorScan).turnIn w.connection .monitorScan).settled entry =
          true :=
        scan_settles attentive unsettled scanning
          ((turnIn_connection _ _ _).trans (w.advance_connection protobuf _))
      rw [rank, if_pos done, distance_of scanning awake]
      simp [owed, scanning, awake, MonitorPoint.distance]

theorem wake_pays {call : PendingCall} (unsettled : Unsettled entry call w) (worker : Worker) :
    (w.wake worker).distance + (w.owed (.wake worker)).toNat ≤ w.distance := by
  cases worker with
  | writer | reader => exact Nat.le_refl _
  | monitor =>
    rcases unsettled.duty with ⟨starting, awake⟩ | scanning
    · simp [wake, owed, awake, distance, starting, MonitorPoint.distance]
    · cases rest : w.monitor with
      | awake => simp [wake, owed, rest, distance, scanning, MonitorPoint.distance]
      | untimed => simp [wake, owed, rest, distance, scanning, MonitorPoint.distance]
      | timed limit =>
        have once := Bool.toNat_le (decide (limit ≤ w.connection.now))
        simp only [wake, owed, rest, distance, scanning, MonitorPoint.distance]
        omega

/-- Whatever section runs, the way to the scan gets shorter by what was owed and never longer. -/
theorem act_pays {call : PendingCall} (attentive : Attentive w)
    (unsettled : Unsettled entry call w) (action : Action) :
    (w.act protobuf action).rank entry + (w.owed (.act action)).toNat ≤ w.distance := by
  by_cases own : action.worker = some .monitor
  · cases action with
    | monitorConnected =>
      have near := rank_le_distance entry (w.act protobuf .monitorConnected)
      exact Nat.le_trans (Nat.add_le_add_right near _) (monitorConnected_pays unsettled)
    | monitorScan => exact monitorScan_pays attentive unsettled
    | _ => cases own
  · have idle : w.owed (.act action) = false := by
      cases action with
      | monitorConnected | monitorScan => exact absurd rfl own
      | _ => rfl
    rw [idle]
    unfold act
    split
    · exact rank_le_distance entry w
    · have kept : ((w.advance protobuf action).turnIn w.connection action).distance =
          (w.advance protobuf action).distance := by
        cases action with
        | monitorConnected | monitorScan => exact absurd rfl own
        | takeQueued | readerConnected =>
          simp only [turnIn]
          split <;> rfl
        | _ => rfl
      have near := rank_le_distance entry
        ((w.advance protobuf action).turnIn w.connection action)
      rw [kept] at near
      exact Nat.le_trans near (advance_distance unsettled.started own)

/-- Waking moves no thread, and a thread that may run runs a section. -/
theorem step_connection (protobuf : Protocol.Protobuf) (w : Waiting) (action : WaitingAction) :
    (step protobuf w action).1.connection = w.connection ∨
      ∃ taken, (step protobuf w action).1.connection = (w.connection.step protobuf taken).1 := by
  cases action with
  | wake worker => cases worker <;> exact Or.inl rfl
  | act action =>
    by_cases asleep : action.worker.any w.asleep = true
    · refine Or.inl ?_
      rw [step, act, if_pos asleep]
    · refine Or.inr ⟨action, ?_⟩
      rw [step, act, if_neg asleep, turnIn_connection, advance_connection]

theorem step_watched (attentive : Attentive w) (watched : Watched w.connection)
    (action : WaitingAction) : Watched (step protobuf w action).1.connection := by
  rcases step_connection protobuf w action with same | ⟨taken, moved⟩
  · rw [same]
    exact watched
  · rw [moved]
    exact watched.step attentive.invariant taken

theorem Overdue.step (overdue : Overdue entry w) (action : WaitingAction) :
    Overdue entry (Waiting.step protobuf w action).1 := by
  obtain ⟨attentive, watched, call, found, expired⟩ := overdue
  refine ⟨attentive.step action, step_watched attentive watched action, ?_⟩
  rcases step_connection protobuf w action with same | ⟨taken, moved⟩
  · rw [same]
    exact ⟨call, found, expired⟩
  · have since := ConnectionState.step_since protobuf attentive.invariant taken
    obtain ⟨later, there, relation⟩ := since.keeps.calls entry call found
    rw [moved]
    refine ⟨later, there, ?_⟩
    rw [relation.same]
    exact ConnectionState.step_expired expired taken

/-- The rank bounds the sections the monitor still owes before the call is settled. -/
theorem settle_progress (protobuf : Protocol.Protobuf) (entry : Address) :
    Transition.Progress (step protobuf) (Overdue entry) (fun w => w.settled entry = true) owed
      (rank entry) where
  keeps _ action overdue := overdue.step action
  pays w action overdue open_ := by
    obtain ⟨call, unsettled⟩ := overdue.unsettled (Bool.eq_false_iff.mpr open_)
    have rest : w.rank entry = w.distance := by rw [rank, if_neg open_]
    rw [rest]
    cases action with
    | act action => exact act_pays overdue.attentive unsettled action
    | wake worker =>
      have near := rank_le_distance entry (w.wake worker)
      exact Nat.le_trans (Nat.add_le_add_right near _) (wake_pays unsettled worker)
  reached w overdue zero := by
    by_contra open_
    obtain ⟨call, unsettled⟩ := overdue.unsettled (Bool.eq_false_iff.mpr open_)
    rw [rank, if_neg open_] at zero
    rcases unsettled.duty with ⟨starting, awake⟩ | scanning
    · rw [distance_of starting awake] at zero
      cases zero
    · cases rest : w.monitor <;> rw [distance_of scanning rest] at zero <;> cases zero

/-- The monitor can go on at once, unless it sleeps on after a stop. -/
theorem owed_exists {call : PendingCall} (attentive : Attentive w)
    (unsettled : Unsettled entry call w) :
    (∃ action, w.owed action = true) ∨
      w.connection.now < call.deadline ∧
        ∃ limit, w.monitor = .timed limit ∧ limit ≤ w.connection.now + cancellationSlice := by
  rcases unsettled.duty with ⟨starting, awake⟩ | scanning
  · exact Or.inl ⟨.act .monitorConnected, by simp [owed, starting, awake]⟩
  · cases rest : w.monitor with
    | awake => exact Or.inl ⟨.act .monitorScan, by simp [owed, scanning, rest]⟩
    | untimed =>
      obtain ⟨-, ⟨starting, -⟩ | ⟨-, empty⟩⟩ := attentive.untimed rest
      · cases starting.symm.trans scanning
      · exact absurd empty (List.ne_nil_of_mem unsettled.pending)
    | timed limit =>
      have due := attentive.timed_due rest unsettled.found unsettled.unset
      by_cases passed : limit ≤ w.connection.now
      · exact Or.inl ⟨.wake .monitor, by simp [owed, rest, passed]⟩
      · exact Or.inr ⟨Nat.lt_of_lt_of_le (Nat.lt_of_not_le passed) due, limit, rfl,
          (attentive.timed limit rest).2.2.1⟩

/-- The watch is kept along every run, waits included. -/
theorem run_watched (protobuf : Protocol.Protobuf) (opener : Bool) (actions : List WaitingAction) :
    Watched (run protobuf opener actions).connection :=
  (Transition.run_invariant (step protobuf) (fun w _ => Attentive w ∧ Watched w.connection) _ []
    ⟨.initial opener, .initial opener⟩
    (fun _ _ action valid => ⟨valid.1.step action, step_watched valid.1 valid.2 action⟩) actions).2

end Waiting

/-- An expired call is settled within two steps that the monitor owes. Past its deadline
such a step is always possible; a call that was stopped earlier may have to wait, but no
longer than the cancellation slice. -/
theorem monitor_settles_expired (protobuf : Protocol.Protobuf) (opener : Bool)
    (before : List WaitingAction) (entry : Address) (call : PendingCall)
    (found : (Waiting.run protobuf opener before).connection.calls[entry]? = some call)
    (expired : (Waiting.run protobuf opener before).connection.expired call = true) :
    let w := Waiting.run protobuf opener before
    (w.settled entry = false → (∃ action, w.owed action = true) ∨
      w.connection.now < call.deadline ∧
        ∃ limit, w.monitor = .timed limit ∧ limit ≤ w.connection.now + cancellationSlice) ∧
    ∀ actions, 2 ≤ Transition.helpful (Waiting.step protobuf) Waiting.owed w actions →
      ∃ front, front <+: actions ∧
        (Waiting.run protobuf opener (before ++ front)).settled entry = true := by
  have overdue : Waiting.Overdue entry (Waiting.run protobuf opener before) :=
    ⟨.run protobuf opener before, Waiting.run_watched protobuf opener before, call, found, expired⟩
  refine ⟨fun open_ => ?_, fun actions enough => ?_⟩
  · obtain ⟨same, unsettled⟩ := overdue.unsettled open_
    cases Option.some.inj (unsettled.found.symm.trans found)
    exact Waiting.owed_exists overdue.attentive unsettled
  · obtain ⟨front, shorter, settled⟩ := (Waiting.settle_progress protobuf entry).reaches overdue
      (Nat.le_trans (Waiting.rank_le entry _) enough)
    refine ⟨front, shorter, ?_⟩
    rw [Waiting.run, Transition.run_append]
    exact settled

/-- A call is stopped while the monitor sleeps after a pass. -/
def stoppedAsleep : List WaitingAction :=
  [.act (.connect (pipeRoot ++ [0x61]) 90000000 0 (.ok ())), .act .beginOpening,
    .act (.openReturned (.ok true)), .act .publishOpened, .act .monitorConnected, .act .monitorScan,
    .act (.call (.listValues 0 2) 90000000 1), .act .monitorScan, .act (.requestStop 1)]

/-- The monitor's wait has to time out before it can see the stop. -/
def monitorSees : List WaitingAction :=
  [.act (.tick 5000000), .act .takeQueued, .wake .monitor, .act .monitorScan]

theorem stoppedAsleep_admits :
    (Waiting.run Protocol.referenceProtobuf true stoppedAsleep).connection.calls[0]?.isSome = true := by
  decide

theorem monitor_settles_expired_stopped :
    (Waiting.run Protocol.referenceProtobuf true stoppedAsleep).monitor = .timed 5000000 ∧
      ∃ front, front <+: monitorSees ∧
        (Waiting.run Protocol.referenceProtobuf true (stoppedAsleep ++ front)).settled 0 = true :=
  ⟨by decide +kernel,
    (monitor_settles_expired Protocol.referenceProtobuf true stoppedAsleep 0
      (Option.get _ stoppedAsleep_admits) (Option.some_get stoppedAsleep_admits).symm
      (by decide)).2 monitorSees (by decide)⟩

end PipeForge.Client
