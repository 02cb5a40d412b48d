import PipeForge.Client.Waiting
import PipeForge.Library.Progress
import PipeForge.Protocol.Reference

/-!
# Closing a connection

`close()` (client.cpp) run by the controller next to the three threads: it fails the
session, joins writer, reader and monitor in this order, and closes the channel. The
same happens when `connect_async` could not create all threads. The controller owns
`connect` and `close`, so neither begins while it is inside a close.

The threads are those of `Waiting`: one that is asleep on `changed_` runs nothing until it is
notified, so a join would wait for it forever if `fail_locked` did not wake it.

The channel is the pointer the writer publishes; the interface asks that it is closed
only after both directions have returned.
-/

namespace PipeForge.Client
open Contracts Library Transport

inductive ChannelState where
  | usable | closed
  deriving DecidableEq, Repr

/-- Where the controller stands: outside of `close`, at a join, or behind the joins. -/
inductive Controller where
  | free
  | joining (worker : Worker)
  | releasing
  deriving DecidableEq, Repr

structure Lifecycle where
  waiting : Waiting
  controller : Controller
  /-- `channel_`, empty while the pointer is null. -/
  channel : Option ChannelState

/-- The event that `close` has returned. -/
inductive CloseReturned where
  | mk
  deriving DecidableEq

inductive LifecycleAction where
  | «section» (action : Action)
  /-- A wait ends without a notification. -/
  | wake (worker : Worker)
  /-- The join the controller waits in returns. -/
  | joined
  | releaseChannel

namespace Lifecycle

def initial (opener : Bool) : Lifecycle := ⟨{ connection := .initial opener }, .free, none⟩

section
variable (l : Lifecycle)

abbrev connection : ConnectionState := l.waiting.connection

def finished : Worker → Bool
  | .writer => l.connection.writer.finished
  | .reader => l.connection.reader.finished
  | .monitor => l.connection.monitor.finished

/-- `connect_async` reaches its handler for failed thread creation. -/
def catches (endpoint : WString) (deadline : Time) (stop : StopToken)
    (workers : Except CreationFailure Unit) : Bool :=
  let s := l.connection
  !(s.started || s.closed || !s.opener || !validEndpoint endpoint) &&
    !(s.stopRequested stop || decide (deadline ≤ s.now)) && !workers.isOk

/-- The writer stores what the connector opened, even if the session has closed. -/
def published : Option ChannelState :=
  match l.connection.writer with
  | .opened _ (.ok present) => if present then some .usable else none
  | _ => l.channel

/-- The thread that would run the section is asleep. -/
def rests (action : Action) : Bool := action.worker.any l.waiting.asleep

def stepSection (protobuf : Protocol.Protobuf) (action : Action) : Lifecycle :=
  let next := l.waiting.act protobuf action
  match action, l.controller with
  | .connect endpoint deadline stop workers, .free =>
    if l.catches endpoint deadline stop workers then
      { l with waiting := next.act protobuf .close, controller := .joining .writer }
    else { l with waiting := next }
  | .connect .., _ => l
  | .close, .free => { l with waiting := next, controller := .joining .writer }
  | .close, _ => l
  | .publishOpened, _ =>
    if l.rests .publishOpened then l else { l with waiting := next, channel := l.published }
  | _, _ => { l with waiting := next }

def stepJoined : Lifecycle :=
  match l.controller with
  | .joining worker =>
    if l.finished worker then
      { l with
        controller :=
          match worker with
          | .writer => .joining .reader
          | .reader => .joining .monitor
          | .monitor => .releasing }
    else l
  | _ => l

def step (protobuf : Protocol.Protobuf) : LifecycleAction → Lifecycle × List CloseReturned
  | .section action => (l.stepSection protobuf action, [])
  | .wake worker => ({ l with waiting := l.waiting.wake worker }, [])
  | .joined => (l.stepJoined, [])
  | .releaseChannel =>
    match l.controller with
    | .releasing => ({ l with controller := .free, channel := l.channel.map fun _ => .closed }, [.mk])
    | _ => (l, [])

end

def run (protobuf : Protocol.Protobuf) (opener : Bool) (actions : List LifecycleAction) :
    Lifecycle × List CloseReturned :=
  Transition.run (step · protobuf) (initial opener) actions

/-- A section is run as it is, is held back while the controller is busy, or is followed by the
close that failed thread creation asks for. -/
theorem stepSection_waiting (l : Lifecycle) (protobuf : Protocol.Protobuf) (action : Action) :
    (l.stepSection protobuf action).waiting = l.waiting ∨
      (l.stepSection protobuf action).waiting = l.waiting.act protobuf action ∨
      (l.stepSection protobuf action).waiting =
        (l.waiting.act protobuf action).act protobuf .close := by
  unfold stepSection
  repeat' split
  all_goals first | exact Or.inl rfl | exact Or.inr (Or.inl rfl) | exact Or.inr (Or.inr rfl)

/-- The controller only takes interleavings away: the threads move as they do without it. -/
theorem run_waiting (protobuf : Protocol.Protobuf) (opener : Bool)
    (actions : List LifecycleAction) :
    ∃ steps, (run protobuf opener actions).1.waiting = Waiting.run protobuf opener steps := by
  refine Transition.run_viewed Lifecycle.waiting (fun l action => ?_) _ actions
  cases action with
  | «section» action =>
    rcases l.stepSection_waiting protobuf action with same | same | same
    · exact ⟨[], same⟩
    · exact ⟨[.act action], same⟩
    · exact ⟨[.act action, .act .close], same⟩
  | wake worker => exact ⟨[.wake worker], rfl⟩
  | joined =>
    refine ⟨[], ?_⟩
    simp only [step, stepJoined]
    repeat' split
    all_goals rfl
  | releaseChannel =>
    refine ⟨[], ?_⟩
    simp only [step]
    split <;> rfl

end Lifecycle

/-! ## What the order of the joins gives -/

/-- The threads joined so far. -/
def Controller.past : Controller → Worker → Bool
  | .free, _ => false
  | .joining worker, other =>
    match worker, other with
    | .reader, .writer => true
    | .monitor, .writer | .monitor, .reader => true
    | _, _ => false
  | .releasing, _ => true

structure Orderly (l : Lifecycle) (returned : List CloseReturned) : Prop where
  attentive : Attentive l.waiting
  busy : l.controller ≠ .free → l.connection.closed = true
  joined : ∀ worker, l.controller.past worker = true → l.finished worker = true
  /-- The threads behind the wait have a channel. -/
  present : l.connection.connected = true → l.channel.isSome = true
  drained : l.channel = some .closed → l.connection.closed = true ∧ l.connection.rank = 0
  done : returned ≠ [] → l.connection.closed = true ∧ l.connection.rank = 0 ∧
    l.channel ≠ some .usable

namespace Orderly
variable {protobuf : Protocol.Protobuf} {l : Lifecycle} {returned : List CloseReturned}

theorem initial (opener : Bool) : Orderly (.initial opener) [] where
  attentive := .initial opener
  busy away := absurd rfl away
  joined worker past := by cases past
  present := nofun
  drained := nofun
  done some := absurd rfl some

theorem rank_zero : l.connection.rank = 0 ↔ ∀ worker, l.finished worker = true := by
  rw [ConnectionState.rank, Nat.add_eq_zero_iff, Nat.add_eq_zero_iff, WriterPoint.rank_eq_zero,
    ReaderPoint.rank_eq_zero, MonitorPoint.rank_eq_zero]
  constructor
  · rintro ⟨⟨writer, reader⟩, monitor⟩ worker
    cases worker with
    | writer => exact writer
    | reader => exact reader
    | monitor => exact monitor
  · exact fun all => ⟨⟨all .writer, all .reader⟩, all .monitor⟩

section
variable (orderly : Orderly l returned)
include orderly

/-- A closed connection has asked its threads to leave. -/
theorem shut (closed : l.connection.closed = true) : l.connection.shutdown = true :=
  orderly.attentive.threads.ended closed

/-- Once the session has closed, every thread can run its section. -/
theorem stirring (closed : l.connection.closed = true) (action : Action) :
    l.rests action = false := by
  unfold Lifecycle.rests
  cases own : action.worker with
  | none => rfl
  | some worker => exact orderly.attentive.awake closed worker

/-- Closed and left by all threads stays so. -/
theorem settled (protobuf : Protocol.Protobuf) (action : Action) (closed : l.connection.closed = true)
    (left : l.connection.rank = 0) :
    (l.connection.step protobuf action).1.closed = true ∧
      (l.connection.step protobuf action).1.rank = 0 := by
  have since := ConnectionState.step_since protobuf orderly.attentive.invariant action
  have paid := (ConnectionState.step_rank protobuf closed (orderly.shut closed) action).1
  exact ⟨(since.later.closed closed).1, by omega⟩

/-- A thread that left a closed connection does not come back. -/
theorem finished_stays (closed : l.connection.closed = true) (action : Action) (worker : Worker)
    (finished : l.finished worker = true) {next : Lifecycle}
    (moved : next.connection = (l.connection.step protobuf action).1) :
    next.finished worker = true := by
  obtain ⟨-, writer, reader, monitor⟩ := ConnectionState.step_rank protobuf closed
    (orderly.shut closed) action
  rw [← moved] at writer reader monitor
  cases worker with
  | writer =>
    rw [Lifecycle.finished, ← WriterPoint.rank_eq_zero] at finished ⊢
    exact Nat.le_zero.mp (finished ▸ writer)
  | reader =>
    rw [Lifecycle.finished, ← ReaderPoint.rank_eq_zero] at finished ⊢
    exact Nat.le_zero.mp (finished ▸ reader)
  | monitor =>
    rw [Lifecycle.finished, ← MonitorPoint.rank_eq_zero] at finished ⊢
    exact Nat.le_zero.mp (finished ▸ monitor)

/-- A section runs; it may set the channel pointer. -/
theorem advance {action : Action} (runs : l.rests action = false) (channel : Option ChannelState)
    (present : (l.connection.step protobuf action).1.connected = true → channel.isSome = true)
    (ended : channel = some .closed → l.channel = some .closed)
    (kept : l.connection.rank = 0 → channel = l.channel) :
    Orderly { l with waiting := l.waiting.act protobuf action, channel } returned := by
  have moved : (l.waiting.act protobuf action).connection =
      (l.connection.step protobuf action).1 := Waiting.act_connection runs
  have since := ConnectionState.step_since protobuf orderly.attentive.invariant action
  refine ⟨orderly.attentive.act action, fun away => ?_, fun worker past => ?_, ?_,
    fun closed => ?_, fun some => ?_⟩
  · rw [Lifecycle.connection, moved]
    exact (since.later.closed (orderly.busy away)).1
  · have away : l.controller ≠ .free := by
      intro free
      rw [free] at past
      cases past
    exact orderly.finished_stays (orderly.busy away) action worker (orderly.joined worker past) moved
  · rw [Lifecycle.connection, moved]
    exact present
  · obtain ⟨closed, left⟩ := orderly.drained (ended closed)
    rw [Lifecycle.connection, moved]
    exact orderly.settled protobuf action closed left
  · obtain ⟨closed, left, unusable⟩ := orderly.done some
    obtain ⟨closed', left'⟩ := orderly.settled protobuf action closed left
    rw [Lifecycle.connection, moved, kept left]
    exact ⟨closed', left', unusable⟩

/-- Every section but the publishing one leaves the channel to its owner. -/
theorem plain (protobuf : Protocol.Protobuf) (action : Action) (other : action ≠ .publishOpened) :
    Orderly { l with waiting := l.waiting.act protobuf action } returned := by
  cases rests : l.rests action with
  | true =>
    rw [Waiting.act, if_pos (show action.worker.any l.waiting.asleep = true from rests)]
    exact orderly
  | false =>
    refine orderly.advance rests l.channel (fun connected => ?_) id fun _ => rfl
    rcases ConnectionState.step_connected connected with before | ⟨published, -⟩
    · exact orderly.present before
    · exact absurd published other

/-- Publishing stores the channel the connector opened, even in a session that has closed. -/
theorem publish (runs : l.rests .publishOpened = false) :
    Orderly { l with
      waiting := l.waiting.act protobuf .publishOpened
      channel := l.published } returned := by
  refine orderly.advance runs l.published (fun connected => ?_) (fun closed => ?_) fun left => ?_
  · rcases ConnectionState.step_connected connected with before | ⟨-, deadline, opened⟩
    · obtain ⟨-, -, ahead⟩ := orderly.attentive.threads.behind before
      unfold Lifecycle.published
      split
      · rename_i opened
        rw [opened] at ahead
        cases ahead
      · exact orderly.present before
    · simp [Lifecycle.published, opened]
  · unfold Lifecycle.published at closed
    split at closed
    · split at closed
      · cases closed
      · cases closed
    · exact closed
  · -- A thread that has left publishes nothing.
    have finished := rank_zero.mp left .writer
    unfold Lifecycle.published
    split
    · rename_i opened
      simp [Lifecycle.finished, opened, WriterPoint.finished] at finished
    · rfl

/-- The controller fails the session and turns to the joins. -/
theorem begin (protobuf : Protocol.Protobuf) :
    Orderly { l with waiting := l.waiting.act protobuf .close, controller := .joining .writer }
      returned := by
  have closed := orderly.plain protobuf .close nofun
  refine ⟨closed.attentive, fun _ => ?_, fun worker past => ?_, closed.present, closed.drained,
    closed.done⟩
  · rw [Lifecycle.connection, Waiting.act_connection rfl]
    exact ConnectionState.failLocked_closed _ _ _
  · cases worker <;> cases past

theorem sectionStep (action : Action) : Orderly (l.stepSection protobuf action) returned := by
  cases action with
  | connect endpoint deadline stop workers =>
    have plain := orderly.plain protobuf (.connect endpoint deadline stop workers) nofun
    cases point : l.controller with
    | free =>
      rw [point] at plain
      simp only [Lifecycle.stepSection, point]
      split
      · exact plain.begin protobuf
      · exact plain
    | joining worker =>
      simp only [Lifecycle.stepSection, point]
      exact orderly
    | releasing =>
      simp only [Lifecycle.stepSection, point]
      exact orderly
  | close =>
    cases point : l.controller with
    | free =>
      simp only [Lifecycle.stepSection, point]
      exact orderly.begin protobuf
    | joining worker =>
      simp only [Lifecycle.stepSection, point]
      exact orderly
    | releasing =>
      simp only [Lifecycle.stepSection, point]
      exact orderly
  | publishOpened =>
    simp only [Lifecycle.stepSection]
    split
    · exact orderly
    · rename_i runs
      exact orderly.publish (Bool.eq_false_iff.mpr runs)
  | _ => exact orderly.plain protobuf _ nofun

theorem wakeStep (worker : Worker) :
    Orderly { l with waiting := l.waiting.wake worker } returned := by
  have same : (l.waiting.wake worker).connection = l.connection := by cases worker <;> rfl
  have finished (other : Worker) : Lifecycle.finished { l with waiting := l.waiting.wake worker } other =
      l.finished other := by
    cases other <;> simp only [Lifecycle.finished, Lifecycle.connection, same]
  refine ⟨orderly.attentive.wake worker, ?_, fun other past => ?_, ?_, ?_, ?_⟩
  · rw [Lifecycle.connection, same]
    exact orderly.busy
  · rw [finished]
    exact orderly.joined other past
  · rw [Lifecycle.connection, same]
    exact orderly.present
  · rw [Lifecycle.connection, same]
    exact orderly.drained
  · rw [Lifecycle.connection, same]
    exact orderly.done

/-- `join` returns for a thread that has left, and the controller goes on with the next. -/
theorem joinedStep : Orderly l.stepJoined returned := by
  unfold Lifecycle.stepJoined
  split
  · rename_i worker joining
    split
    · rename_i finished
      have closed := orderly.busy (by rw [joining]; exact nofun)
      refine ⟨orderly.attentive, fun _ => closed, fun other past => ?_, orderly.present,
        orderly.drained, orderly.done⟩
      have before := orderly.joined other
      rw [joining] at before
      change l.finished other = true
      cases worker <;> cases other <;> first | exact finished | exact before rfl | cases past
    · exact orderly
  · exact orderly

/-- The channel is closed when the last thread has been joined, and with it `close` returns. -/
theorem releaseStep (releasing : l.controller = .releasing) :
    Orderly { l with controller := .free, channel := l.channel.map fun _ => .closed }
      (returned ++ [.mk]) := by
  have closed := orderly.busy (by rw [releasing]; exact nofun)
  have left : l.connection.rank = 0 :=
    rank_zero.mpr fun worker => orderly.joined worker (by rw [releasing]; rfl)
  refine ⟨orderly.attentive, fun away => absurd rfl away, fun worker past => ?_,
    fun connected => ?_, fun _ => ⟨closed, left⟩, fun _ => ⟨closed, left, ?_⟩⟩
  · cases past
  · simpa using orderly.present connected
  · cases l.channel with
    | none => exact nofun
    | some state => exact nofun

/-- Each step keeps the order of leaving, joining and closing. -/
theorem step (protobuf : Protocol.Protobuf) (action : LifecycleAction) :
    Orderly (l.step protobuf action).1 (returned ++ (l.step protobuf action).2) := by
  cases action with
  | «section» action =>
    rw [show (l.step protobuf (.section action)).2 = [] from rfl, List.append_nil]
    exact orderly.sectionStep action
  | wake worker =>
    rw [show (l.step protobuf (.wake worker)).2 = [] from rfl, List.append_nil]
    exact orderly.wakeStep worker
  | joined =>
    rw [show (l.step protobuf .joined).2 = [] from rfl, List.append_nil]
    exact orderly.joinedStep
  | releaseChannel =>
    simp only [Lifecycle.step]
    split
    · rename_i releasing
      exact orderly.releaseStep releasing
    · rw [List.append_nil]
      exact orderly

end

theorem run (protobuf : Protocol.Protobuf) (opener : Bool) (actions : List LifecycleAction) :
    Orderly (Lifecycle.run protobuf opener actions).1 (Lifecycle.run protobuf opener actions).2 :=
  Transition.run_invariant (Lifecycle.step · protobuf) Orderly _ [] (initial opener)
    (fun _ _ action orderly => orderly.step protobuf action) actions

end Orderly

/-! ## The results -/

/-- What the channel and the callers can rely on. -/
structure CloseDiscipline (l : Lifecycle) (returned : List CloseReturned) : Prop where
  /-- Nobody is inside the channel unless the pointer is set and the channel not closed. -/
  used : (∃ entry, l.connection.writer = .sending entry) ∨ l.connection.reader = .receiving →
    l.channel = some .usable
  /-- The channel is closed after all threads have left their loops. -/
  drained : l.channel = some .closed → ∀ worker, l.finished worker = true
  /-- A `close` that has returned leaves no thread, no open channel and no future unready. -/
  complete : returned ≠ [] → (∀ worker, l.finished worker = true) ∧ l.channel ≠ some .usable ∧
    Finished l.connection

/-- In every run the channel is closed only after all threads have left their loops, and a
`close` that has returned leaves nothing behind. -/
theorem close_follows_joins (protobuf : Protocol.Protobuf) (opener : Bool)
    (actions : List LifecycleAction) :
    CloseDiscipline (Lifecycle.run protobuf opener actions).1
      (Lifecycle.run protobuf opener actions).2 := by
  have orderly := Orderly.run protobuf opener actions
  refine ⟨fun inside => ?_, fun ended => ?_, fun some => ?_⟩
  · have connected := orderly.attentive.threads.linked <| by
      rcases inside with ⟨entry, sending⟩ | receiving
      · exact Or.inl (by rw [sending]; rfl)
      · exact Or.inr (by rw [receiving]; rfl)
    obtain ⟨state, set⟩ := Option.isSome_iff_exists.mp (orderly.present connected)
    cases state with
    | usable => exact set
    | closed =>
      have left := Orderly.rank_zero.mp (orderly.drained set).2
      rcases inside with ⟨entry, sending⟩ | receiving
      · have writer := left .writer
        rw [Lifecycle.finished, sending] at writer
        cases writer
      · have reader := left .reader
        rw [Lifecycle.finished, receiving] at reader
        cases reader
  · exact Orderly.rank_zero.mp (orderly.drained ended).2
  · obtain ⟨closed, left, channel⟩ := orderly.done some
    exact ⟨Orderly.rank_zero.mp left, channel, orderly.attentive.invariant.finished closed⟩

-- The creation of the reader fails while the connector works for the writer. What it opens is
-- published to a closed session, and the handler closes it after the joins.
example :
    let l := (Lifecycle.run Protocol.referenceProtobuf true
      [.section (.connect (pipeRoot ++ [0x61]) 100 0 (.error
        { created := 1, meanwhile := [.beginOpening], code := 8 })), .joined,
        .section (.openReturned (.ok true)), .section .publishOpened, .joined, .joined, .joined,
        .releaseChannel]).1
    l.controller = .free ∧ l.channel = some .closed ∧
      l.connection.opening = [.error { kind := .internalFailure, nativeError := 8 }] := by
  decide

def Controller.rank : Controller → Nat
  | .free => 0
  | .releasing => 1
  | .joining .monitor => 2
  | .joining .reader => 3
  | .joining .writer => 4

/-- The steps that bring `close` nearer to its end. A thread that is asleep takes none. -/
def Lifecycle.helps (l : Lifecycle) : LifecycleAction → Bool
  | .section action => l.connection.due action && !l.rests action
  | .wake _ => false
  | .joined =>
    match l.controller with
    | .joining worker => l.finished worker
    | _ => false
  | .releaseChannel => decide (l.controller = .releasing)

def Lifecycle.rank (l : Lifecycle) : Nat := l.connection.rank + l.controller.rank

/-- Three threads and the controller: eight sections are the most that can stand between `close`
and its return. -/
theorem Lifecycle.rank_le (l : Lifecycle) : l.rank ≤ 8 := by
  have writer : l.connection.writer.rank ≤ 2 := by
    cases l.connection.writer <;> simp [WriterPoint.rank]
  have reader : l.connection.reader.rank ≤ 1 := Bool.toNat_le _
  have monitor : l.connection.monitor.rank ≤ 1 := Bool.toNat_le _
  have controller : l.controller.rank ≤ 4 := by
    cases l.controller with
    | free => decide
    | joining worker => cases worker <;> decide
    | releasing => decide
  simp only [Lifecycle.rank, ConnectionState.rank]
  omega

/-- While `close` runs, the controller can go on, or a thread that is awake. -/
theorem Lifecycle.helps_of_busy {l : Lifecycle} {returned : List CloseReturned}
    (orderly : Orderly l returned) (inside : l.controller ≠ .free) :
    ∃ action, l.helps action = true := by
  cases point : l.controller with
  | free => exact absurd point inside
  | releasing => exact ⟨.releaseChannel, by simp [helps, point]⟩
  | joining worker =>
    by_cases finished : l.finished worker = true
    · exact ⟨.joined, by simp [helps, point, finished]⟩
    · have unfinished : l.connection.rank ≠ 0 := fun left =>
        finished (Orderly.rank_zero.mp left worker)
      obtain ⟨action, due⟩ := ConnectionState.due_of_unfinished unfinished
      refine ⟨.section action, ?_⟩
      rw [helps, due, orderly.stirring (orderly.busy inside) action]
      rfl

/-- While the controller is inside `close`, each helpful section brings the threads one nearer to
the end. -/
theorem Orderly.section_pays {l : Lifecycle} {returned : List CloseReturned}
    (orderly : Orderly l returned) (inside : l.controller ≠ .free) (protobuf : Protocol.Protobuf)
    (action : Action) :
    (l.stepSection protobuf action).rank + (l.helps (.section action)).toNat = l.rank := by
  have closed := orderly.busy inside
  have runs := orderly.stirring closed action
  have paid := (ConnectionState.step_rank protobuf closed (orderly.shut closed) action).1
  have moved : (l.waiting.act protobuf action).connection =
      (l.connection.step protobuf action).1 := Waiting.act_connection runs
  rw [Lifecycle.helps, runs, Bool.not_false, Bool.and_true]
  simp only [Lifecycle.connection] at paid moved
  cases action with
  | connect endpoint deadline stop workers =>
    cases point : l.controller with
    | free => exact absurd point inside
    | _ => simp [Lifecycle.stepSection, point, ConnectionState.due]
  | close =>
    cases point : l.controller with
    | free => exact absurd point inside
    | _ => simp [Lifecycle.stepSection, point, ConnectionState.due]
  | publishOpened =>
    rw [Lifecycle.stepSection, runs]
    simp only [Bool.false_eq_true, if_false, Lifecycle.rank, Lifecycle.connection, moved]
    omega
  | _ =>
    simp only [Lifecycle.stepSection, Lifecycle.rank, Lifecycle.connection, moved]
    omega

theorem closing_progress (protobuf : Protocol.Protobuf) :
    Transition.Progress (Lifecycle.step · protobuf) (Orderly · []) (·.controller = .free)
      Lifecycle.helps Lifecycle.rank where
  keeps l action orderly := by
    have next := orderly.step protobuf action
    exact { next with done := fun some => absurd rfl some }
  pays l action orderly inside := by
    cases action with
    | «section» action => exact Nat.le_of_eq (orderly.section_pays inside protobuf action)
    | wake worker =>
      have same : (l.waiting.wake worker).connection = l.connection := by cases worker <;> rfl
      simp [Lifecycle.step, Lifecycle.helps, Lifecycle.rank, Lifecycle.connection, same]
    | joined =>
      cases point : l.controller with
      | free => exact absurd point inside
      | releasing => simp [Lifecycle.step, Lifecycle.stepJoined, Lifecycle.helps, point]
      | joining worker =>
        by_cases finished : l.finished worker = true
        · cases worker <;>
            simp [Lifecycle.step, Lifecycle.stepJoined, Lifecycle.helps, Lifecycle.rank, point,
              finished, Controller.rank]
        · simp [Lifecycle.step, Lifecycle.stepJoined, Lifecycle.helps, point, finished]
    | releaseChannel =>
      cases point : l.controller <;>
        simp [Lifecycle.step, Lifecycle.helps, Lifecycle.rank, point, Controller.rank]
  reached l orderly zero := by
    cases point : l.controller with
    | free => rfl
    | releasing => simp [Lifecycle.rank, point, Controller.rank] at zero
    | joining worker => cases worker <;> simp [Lifecycle.rank, point, Controller.rank] at zero

/-- `close` depends on nothing but the I/O of its threads, granted that each thread which is
awake goes on: while it runs, every call of the connector and the channel has been asked to
stop, no thread is asleep, and the controller or a thread is before a step that helps. As many
such steps as are left, at most eight, see it return, whatever happens between them. -/
theorem close_returns (protobuf : Protocol.Protobuf) (opener : Bool)
    (before : List LifecycleAction)
    (inside : (Lifecycle.run protobuf opener before).1.controller ≠ .free) :
    let l := (Lifecycle.run protobuf opener before).1
    l.connection.shutdown = true ∧ (∀ worker, l.waiting.asleep worker = false) ∧
      (∃ action, l.helps action = true) ∧ l.rank ≤ 8 ∧
      ∀ actions, l.rank ≤ Transition.helpful (Lifecycle.step · protobuf) Lifecycle.helps l actions →
        ∃ front, front <+: actions ∧
          (Lifecycle.run protobuf opener (before ++ front)).1.controller = .free := by
  intro l
  have orderly := Orderly.run protobuf opener before
  have closed := orderly.busy inside
  refine ⟨orderly.shut closed, orderly.attentive.awake closed,
    Lifecycle.helps_of_busy orderly inside, Lifecycle.rank_le l, fun actions enough => ?_⟩
  have start : Orderly l [] := { orderly with done := fun some => absurd rfl some }
  obtain ⟨front, shorter, free⟩ := (closing_progress protobuf).reaches start enough
  refine ⟨front, shorter, ?_⟩
  rw [Lifecycle.run, Transition.run_append]
  exact free

/-- The controller closes while both directions of the channel are in use and the monitor is
asleep. -/
def closedInUse : List LifecycleAction :=
  [.section (.connect (pipeRoot ++ [0x61]) 100 0 (.ok ())), .section .beginOpening,
    .section (.openReturned (.ok true)), .section .publishOpened, .section .readerConnected,
    .section .readerLoop, .section .monitorConnected, .section (.call (.listValues 0 2) 100 1),
    .section .takeQueued, .section .monitorScan, .section .close]

/-- The cancelled calls return and the threads leave, not in the order of the joins. -/
def threadsLeave : List LifecycleAction :=
  [.section (.received (.error { kind := .cancelled })), .section .monitorScan, .joined,
    .section (.sendReturned (.error { kind := .cancelled })), .joined, .joined, .joined,
    .releaseChannel]

theorem close_returns_in_use :
    (Lifecycle.run Protocol.referenceProtobuf true closedInUse).1.rank = 7 ∧
      ∃ front, front <+: threadsLeave ∧
        (Lifecycle.run Protocol.referenceProtobuf true (closedInUse ++ front)).1.controller = .free :=
  ⟨by decide,
    (close_returns Protocol.referenceProtobuf true closedInUse (by decide)).2.2.2.2 threadsLeave
      (by decide)⟩

end PipeForge.Client
