import PipeForge.Client.Completion

/-!
# The threads of a connection

Which thread runs which section, and that no section moves another thread. After the
session has closed, a section changes nothing but the point of its own thread, and
each thread leaves its loop after at most two sections of its own.
-/

namespace PipeForge.Client
open Contracts Library Transport

inductive Worker where
  | writer | reader | monitor
  deriving DecidableEq, Repr

/-- The thread that runs a section; calls of the API and the environment belong to
none of the three. -/
def Action.worker : Action → Option Worker
  | .beginOpening | .openReturned _ | .publishOpened | .takeQueued | .sendReturned _ => some .writer
  | .readerConnected | .readerLoop | .received _ => some .reader
  | .monitorConnected | .monitorScan => some .monitor
  | _ => none

namespace ConnectionState
variable {protobuf : Protocol.Protobuf} {s : ConnectionState}

/-! ## Frames -/

section
variable (common specific : Failure) (specificId : UInt64)

@[simp] theorem failLocked_reader : (s.failLocked common specificId specific).reader = s.reader := by
  unfold failLocked
  split <;> rfl

@[simp] theorem failLocked_monitor :
    (s.failLocked common specificId specific).monitor = s.monitor := by
  unfold failLocked
  split <;> rfl

@[simp] theorem failLocked_connected :
    (s.failLocked common specificId specific).connected = s.connected := by
  unfold failLocked
  split <;> rfl

end

end ConnectionState

/-- What a section leaves alone: the points of the other threads, the flags of the session
and the clock. -/
structure Frame (action : Action) (s t : ConnectionState) : Prop where
  started : t.started = s.started
  writer : action.worker ≠ some .writer → t.writer = s.writer
  reader : action.worker ≠ some .reader → t.reader = s.reader
  monitor : action.worker ≠ some .monitor → t.monitor = s.monitor
  connected : action ≠ .publishOpened → t.connected = s.connected
  now : t.now = s.now
  stops : t.stops = s.stops

namespace Frame
variable {action : Action} {s t : ConnectionState}

/-- A section that changes nothing stays within every frame. -/
theorem refl (s : ConnectionState) : Frame action s s :=
  ⟨rfl, fun _ => rfl, fun _ => rfl, fun _ => rfl, fun _ => rfl, rfl, rfl⟩

section
variable (frame : Frame action s t)
include frame

theorem fail (common : Failure) (specificId : UInt64) (specific : Failure) :
    Frame action s (t.failLocked common specificId specific) := by
  unfold ConnectionState.failLocked
  split
  · exact frame
  · exact { frame with }

theorem moveWriter (own : action.worker = some .writer) (writer : WriterPoint) :
    Frame action s { t with writer } :=
  { frame with writer := fun other => absurd own other }

theorem moveReader (own : action.worker = some .reader) (reader : ReaderPoint) :
    Frame action s { t with reader } :=
  { frame with reader := fun other => absurd own other }

theorem moveMonitor (own : action.worker = some .monitor) (monitor : MonitorPoint) :
    Frame action s { t with monitor } :=
  { frame with monitor := fun other => absurd own other }

end

/-- Publishing moves the writer, and only it may raise `connected`. -/
theorem publish : Frame .publishOpened s s.publishOpened := by
  unfold ConnectionState.publishOpened
  repeat' split
  all_goals first
    | exact .refl s
    | exact ((Frame.refl s).fail _ _ _).moveWriter rfl _
    | exact (Frame.refl s).moveWriter rfl _
    | exact { (Frame.refl s).moveWriter rfl _ with connected := fun other => absurd rfl other }

theorem take : Frame .takeQueued s s.takeQueued.1 := by
  unfold ConnectionState.takeQueued
  repeat' split
  all_goals first
    | exact .refl s
    | exact { Frame.refl s with }
    | exact { (Frame.refl s).moveWriter rfl _ with }

theorem sent (result : Transport.Result Nat) :
    Frame (.sendReturned result) s (s.sendReturned result) := by
  unfold ConnectionState.sendReturned
  repeat' split
  all_goals first
    | exact .refl s
    | exact ((Frame.refl s).fail _ _ _).moveWriter rfl _
    | exact { (Frame.refl s).moveWriter rfl _ with }

theorem receive (protobuf : Protocol.Protobuf) (payload : Transport.Result Bytes) :
    Frame (.received payload) s (s.received protobuf payload) := by
  unfold ConnectionState.received
  repeat' split
  all_goals first
    | exact .refl s
    | exact ((Frame.refl s).fail _ _ _).moveReader rfl _
    | exact { (Frame.refl s).moveReader rfl _ with }

/-- The scan stays inside the monitor's frame however many entries it looks at. -/
theorem scan (entries : List (UInt64 × Address)) (frame : Frame .monitorScan s t) :
    Frame .monitorScan s (t.scan entries) := by
  induction entries generalizing t with
  | nil => exact frame
  | cons head rest ih =>
    unfold ConnectionState.scan
    split
    · exact frame
    · split
      · split
        · exact (frame.fail _ _ _).moveMonitor rfl _
        · exact ih { frame with }
      · exact ih frame

end Frame

/-- `connect` may create the threads, and the environment moves the clock. -/
def Action.within : Action → Bool
  | .connect .. | .tick _ | .requestStop _ => false
  | _ => true

namespace ConnectionState
variable {protobuf : Protocol.Protobuf} {s : ConnectionState}

/-- Each section moves only the thread that runs it; what the others stand before is theirs to
leave. -/
theorem step_frame (s : ConnectionState) {action : Action} (within : action.within = true) :
    Frame action s (step protobuf s action).1 := by
  cases action with
  | connect | tick | requestStop => cases within
  | call operation deadline stop =>
    obtain ⟨_, _, _, _, _, kept⟩ := s.callAsync_eq protobuf operation deadline stop
    change Frame _ s (s.callAsync protobuf operation deadline stop).2
    rw [kept]
    exact { Frame.refl s with }
  | close => exact (Frame.refl s).fail _ _ _
  | beginOpening =>
    change Frame _ s s.beginOpening
    rcases s.beginOpening_eq with kept | ⟨_, _, _, _, _, -, kept, -⟩
    · rw [kept]
      exact .refl s
    · rw [kept]
      exact { (Frame.refl s).moveWriter rfl _ with }
  | openReturned result =>
    change Frame _ s (s.openReturned result)
    rcases s.openReturned_eq result with kept | ⟨_, _, -, kept⟩
    · rw [kept]
      exact .refl s
    · rw [kept]
      exact (Frame.refl s).moveWriter rfl _
  | publishOpened => exact .publish
  | takeQueued => exact .take
  | sendReturned result => exact .sent result
  | readerConnected =>
    obtain ⟨_, kept⟩ := s.readerConnected_eq
    rw [step, kept]
    exact (Frame.refl s).moveReader rfl _
  | readerLoop =>
    obtain ⟨_, kept⟩ := s.readerLoop_eq
    rw [step, kept]
    exact (Frame.refl s).moveReader rfl _
  | received payload => exact .receive protobuf payload
  | monitorConnected =>
    obtain ⟨_, kept⟩ := s.monitorConnected_eq
    rw [step, kept]
    exact (Frame.refl s).moveMonitor rfl _
  | monitorScan =>
    change Frame _ s s.monitorScan
    unfold monitorScan
    split
    · split
      · exact (Frame.refl s).moveMonitor rfl _
      · exact (Frame.refl s).scan _
    · exact .refl s

/-- The first `connect` may start threads; later ones are refused. -/
theorem connectAsync_refused (started : s.started = true) (endpoint : WString) (deadline : Time)
    (stop : StopToken) (workers : Except CreationFailure Unit) :
    (s.connectAsync endpoint deadline stop workers).2 = s := by
  simp [connectAsync, started]

/-- A section that is not the writer's leaves the writer where it is. -/
theorem step_writer_frame (started : s.started = true) {action : Action}
    (other : action.worker ≠ some .writer) : (step protobuf s action).1.writer = s.writer := by
  cases action with
  | connect endpoint deadline stop workers =>
    exact congrArg ConnectionState.writer (connectAsync_refused started endpoint deadline stop workers)
  | tick | requestStop => rfl
  | _ => exact (s.step_frame rfl).writer other

/-- The same for the reader. -/
theorem step_reader_frame (started : s.started = true) {action : Action}
    (other : action.worker ≠ some .reader) : (step protobuf s action).1.reader = s.reader := by
  cases action with
  | connect endpoint deadline stop workers =>
    exact congrArg ConnectionState.reader (connectAsync_refused started endpoint deadline stop workers)
  | tick | requestStop => rfl
  | _ => exact (s.step_frame rfl).reader other

theorem step_monitor_frame (started : s.started = true) {action : Action}
    (other : action.worker ≠ some .monitor) : (step protobuf s action).1.monitor = s.monitor := by
  cases action with
  | connect endpoint deadline stop workers =>
    exact congrArg ConnectionState.monitor (connectAsync_refused started endpoint deadline stop workers)
  | tick | requestStop => rfl
  | _ => exact (s.step_frame rfl).monitor other

/-- Only the writer's publication touches the flag. -/
theorem step_connected_kept {action : Action} (other : action ≠ .publishOpened) :
    (step protobuf s action).1.connected = s.connected := by
  cases action with
  | connect endpoint deadline stop workers =>
    rcases s.connectAsync_eq endpoint deadline stop workers with
      same | ⟨-, -, same | ⟨count, t, common, -, elapsed, same⟩⟩
    · exact (congrArg ConnectionState.connected same :)
    · exact (congrArg ConnectionState.connected same :)
    · rw [step, same, failAll, failLocked_connected, elapsed.same]
      rfl
  | tick | requestStop => rfl
  | _ => exact (s.step_frame rfl).connected other

/-- The writer connects with a channel that the connector has opened. -/
theorem step_connected {action : Action} (connected : (step protobuf s action).1.connected = true) :
    s.connected = true ∨
      (action = .publishOpened ∧ ∃ deadline, s.writer = .opened deadline (.ok true)) := by
  by_cases publishes : action = .publishOpened
  · subst publishes
    change s.publishOpened.connected = true at connected
    unfold publishOpened at connected
    split at connected
    · rename_i deadline result opened
      split at connected
      · exact Or.inl (by simpa [failAll] using connected)
      · rename_i present
        cases present with
        | true => exact Or.inr ⟨rfl, deadline, opened⟩
        | false =>
          simp only [Bool.not_false, if_true] at connected
          split at connected
          · exact Or.inl connected
          · exact Or.inl (by simpa [failAll] using connected)
    · exact Or.inl connected
  · exact Or.inl ((step_connected_kept publishes).symm.trans connected)

/-! ## A closed session -/

/-- Once the session has closed, a section reads no call and hands none over. -/
theorem step_closed (protobuf : Protocol.Protobuf) (closed : s.closed = true)
    (calls : List PendingCall) (action : Action) :
    step protobuf { s with calls } action = ({ (step protobuf s action).1 with calls }, []) ∧
      (step protobuf s action).2 = [] := by
  have fails : ∀ (t : ConnectionState), t.closed = true → ∀ common specificId specific,
      t.failLocked common specificId specific = t := by
    intro t ended common specificId specific
    rw [failLocked, if_pos ended]
  cases action with
  | connect endpoint deadline stop workers => simp [step, connectAsync, closed]
  | call operation deadline stop => simp [step, callAsync, closed]
  | close => simp [step, close, failAll, fails, closed]
  | tick elapsed => exact ⟨rfl, rfl⟩
  | requestStop stop => exact ⟨rfl, rfl⟩
  | beginOpening =>
    cases point : s.writer with
    | starting endpoint deadline stop =>
      cases ended : s.shutdown <;> by_cases asked : stop ∈ s.stops <;>
        simp [step, beginOpening, stopRequested, point, ended, asked]
    | _ => simp [step, beginOpening, point]
  | openReturned result => cases point : s.writer <;> simp [step, openReturned, point]
  | publishOpened =>
    cases point : s.writer with
    | opened deadline result =>
      cases result with
      | ok opened => simp [step, publishOpened, point, closed]
      | error error => simp [step, publishOpened, point, failAll, fails, closed]
    | _ => simp [step, publishOpened, point]
  | takeQueued => cases point : s.writer <;> simp [step, takeQueued, point, closed]
  | sendReturned result => cases point : s.writer <;> simp [step, sendReturned, point, closed]
  | readerConnected => cases point : s.reader <;> simp [step, readerConnected, point, closed]
  | readerLoop =>
    cases point : s.reader <;> cases ended : s.shutdown <;> simp [step, readerLoop, point, ended]
  | received payload => cases point : s.reader <;> simp [step, received, point, closed]
  | monitorConnected => cases point : s.monitor <;> simp [step, monitorConnected, point, closed]
  | monitorScan => cases point : s.monitor <;> simp [step, monitorScan, point, closed]

end ConnectionState

/-! ## Points -/

def WriterPoint.finished : WriterPoint → Bool
  | .absent | .done => true
  | _ => false

def ReaderPoint.finished : ReaderPoint → Bool
  | .absent | .done => true
  | _ => false

def MonitorPoint.finished : MonitorPoint → Bool
  | .absent | .done => true
  | _ => false

/-- Points behind the wait for the connection, from which the channel is used. -/
def WriterPoint.linked : WriterPoint → Bool
  | .waiting | .sending _ => true
  | _ => false

def ReaderPoint.linked : ReaderPoint → Bool
  | .looping | .receiving => true
  | _ => false

/-- A writer on its way to the connection has no channel yet. -/
theorem WriterPoint.unlinked_of_awaiting {point : WriterPoint} (awaiting : point.awaiting = true) :
    point.linked = false := by
  cases point <;> first | rfl | cases awaiting

structure Threads (s : ConnectionState) : Prop where
  unstarted : s.started = false → s.writer = .absent ∧ s.reader = .absent ∧ s.monitor = .absent
  ended : s.closed = true → s.shutdown = true
  linked : s.writer.linked = true ∨ s.reader.linked = true → s.connected = true
  behind : s.connected = true →
    s.started = true ∧ s.openingDone = true ∧ s.writer.awaiting = false

namespace Threads
variable {protobuf : Protocol.Protobuf} {s : ConnectionState}

theorem initial (opener : Bool) : Threads (.initial opener) where
  unstarted _ := ⟨rfl, rfl, rfl⟩
  ended := nofun
  linked := by
    rintro (impossible | impossible)
    · cases impossible
    · cases impossible
  behind := nofun

/-- A thread that is there was started by `connect_async`. -/
theorem started (threads : Threads s)
    (present : s.writer ≠ .absent ∨ s.reader ≠ .absent ∨ s.monitor ≠ .absent) :
    s.started = true := by
  by_contra unstarted
  obtain ⟨writer, reader, monitor⟩ := threads.unstarted (Bool.eq_false_iff.mpr unstarted)
  rcases present with other | other | other
  · exact other writer
  · exact other reader
  · exact other monitor

/-- `fail_locked` moves no thread; it only ends the connection they serve. -/
theorem fail (threads : Threads s) (common : Failure) (specificId : UInt64) (specific : Failure) :
    Threads (s.failLocked common specificId specific) := by
  unfold ConnectionState.failLocked
  split
  · exact threads
  · refine ⟨threads.unstarted, fun _ => rfl, threads.linked, fun connected => ?_⟩
    obtain ⟨started, done, ahead⟩ := threads.behind connected
    exact ⟨started, by simp [done], ahead⟩

section
variable (threads : Threads s)
include threads

/-- The writer may go on to any point, given that a linked one has a connection and that it does
not fall back behind the open. -/
theorem moveWriter (present : s.writer ≠ .absent) (writer : WriterPoint)
    (linked : writer.linked = true → s.connected = true)
    (onward : s.writer.awaiting = false → writer.awaiting = false) : Threads { s with writer } where
  unstarted none := by cases none.symm.trans (threads.started (Or.inl present))
  ended := threads.ended
  linked := Or.rec linked (threads.linked ∘ Or.inr)
  behind connected := by
    obtain ⟨started, done, ahead⟩ := threads.behind connected
    exact ⟨started, done, onward ahead⟩

theorem moveReader (present : s.reader ≠ .absent) (reader : ReaderPoint)
    (linked : reader.linked = true → s.connected = true) : Threads { s with reader } where
  unstarted none := by cases none.symm.trans (threads.started (Or.inr (Or.inl present)))
  ended := threads.ended
  linked := Or.rec (threads.linked ∘ Or.inl) linked
  behind := threads.behind

theorem moveMonitor (present : s.monitor ≠ .absent) (monitor : MonitorPoint) :
    Threads { s with monitor } where
  unstarted none := by cases none.symm.trans (threads.started (Or.inr (Or.inr present)))
  ended := threads.ended
  linked := threads.linked
  behind := threads.behind

/-- The writer fails the session and leaves. -/
theorem failWriter (present : s.writer ≠ .absent) (common : Failure) (specificId : UInt64)
    (specific : Failure) :
    Threads { s.failLocked common specificId specific with writer := .done } := by
  apply (threads.fail common specificId specific).moveWriter
  · rw [ConnectionState.failLocked_writer]
    exact present
  · exact nofun
  · exact fun _ => rfl

/-- The reader's way out: fail the connection, then end. -/
theorem failReader (present : s.reader ≠ .absent) (common : Failure) (specificId : UInt64)
    (specific : Failure) :
    Threads { s.failLocked common specificId specific with reader := .done } := by
  apply (threads.fail common specificId specific).moveReader
  · rw [ConnectionState.failLocked_reader]
    exact present
  · exact nofun

/-- Nothing that happens without the mutex passes the wait. -/
theorem elapsed {t : ConnectionState} (elapsed : Elapsed s t) : Threads t := by
  have same := elapsed.same
  refine ⟨fun unstarted => ?_, fun closed => ?_, fun linked => ?_, fun connected => ?_⟩
  · rw [same] at unstarted
    obtain ⟨writer, reader, monitor⟩ := threads.unstarted unstarted
    rcases elapsed.writer with kept | ⟨awaiting, -⟩
    · rw [same]
      exact ⟨kept.trans writer, reader, monitor⟩
    · rw [writer] at awaiting
      cases awaiting
  · rw [same] at closed
    exact elapsed.shutdown (threads.ended closed)
  · have before : s.writer.linked = true ∨ s.reader.linked = true := by
      rcases linked with linked | linked
      · rcases elapsed.writer with kept | ⟨-, awaiting⟩
        · exact Or.inl (kept ▸ linked)
        · rw [WriterPoint.unlinked_of_awaiting awaiting] at linked
          cases linked
      · rw [same] at linked
        exact Or.inr linked
    rw [same]
    exact threads.linked before
  · rw [same] at connected
    obtain ⟨started, done, ahead⟩ := threads.behind connected
    rw [elapsed.awaiting, same]
    exact ⟨started, done, ahead⟩

/-- A failed creation joins what it started before anything else runs, so no thread is left half
there. -/
theorem connect (endpoint : WString) (deadline : Time) (stop : StopToken)
    (workers : Except CreationFailure Unit) :
    Threads (s.connectAsync endpoint deadline stop workers).2 := by
  -- None of the points a thread starts from lies behind the wait.
  have begun (unstarted : s.started = false) (count : Nat) :
      Threads (({ s with started := true } : ConnectionState).spawn endpoint deadline stop count) := by
    obtain ⟨writer, reader, monitor⟩ := threads.unstarted unstarted
    refine ⟨(fun unstarted => by cases unstarted), threads.ended, ?_, fun connected => ?_⟩
    · simp only [ConnectionState.spawn, writer, reader]
      split <;> split <;> rintro (impossible | impossible) <;> cases impossible
    · cases unstarted.symm.trans (threads.behind connected).1
  rcases s.connectAsync_eq endpoint deadline stop workers with
    same | ⟨unstarted, -, same | ⟨count, t, common, -, elapsed, same⟩⟩
  · rwa [same]
  · rw [same]
    exact begun unstarted 3
  · rw [same]
    exact ((begun unstarted count).elapsed elapsed).fail _ _ _

/-- Publishing is where a writer becomes linked, and where `connected` is raised for it. -/
theorem publish : Threads s.publishOpened := by
  unfold ConnectionState.publishOpened
  split
  · rename_i opened
    have present : s.writer ≠ .absent := by
      rw [opened]
      exact nofun
    split
    · exact threads.failWriter present _ _ _
    · split
      · exact threads.moveWriter present _ nofun fun _ => rfl
      · split
        · exact threads.failWriter present _ _ _
        · split
          · exact threads.failWriter present _ _ _
          · split
            · exact threads.failWriter present _ _ _
            · have started := threads.started (Or.inl present)
              refine ⟨fun unstarted => ?_, threads.ended, fun _ => rfl, fun _ => ⟨started, rfl, rfl⟩⟩
              cases unstarted.symm.trans started
  · exact threads

theorem takeQueued : Threads s.takeQueued.1 := by
  unfold ConnectionState.takeQueued
  split
  · rename_i waiting
    have present : s.writer ≠ .absent := by
      rw [waiting]
      exact nofun
    have connected := threads.linked (Or.inl (by rw [waiting]; rfl))
    split
    · exact threads.moveWriter present _ nofun fun _ => rfl
    · split
      · exact threads
      · split
        · exact threads
        · split
          · exact ⟨threads.unstarted, threads.ended, threads.linked, threads.behind⟩
          · rename_i entry _ _ _ _ _ _
            have moved := threads.moveWriter present (.sending entry) (fun _ => connected) fun _ => rfl
            exact ⟨moved.unstarted, moved.ended, moved.linked, moved.behind⟩
  · exact threads

theorem sendReturned (result : Transport.Result Nat) : Threads (s.sendReturned result) := by
  unfold ConnectionState.sendReturned
  split
  · rename_i sending
    have present : s.writer ≠ .absent := by
      intro absent
      cases sending.symm.trans absent
    have connected := threads.linked (Or.inl (by rw [sending]; rfl))
    have moved := threads.moveWriter present .waiting (fun _ => connected) fun _ => rfl
    split
    · exact threads.moveWriter present _ (fun linked => by cases linked) fun _ => rfl
    · split
      · exact threads
      · split
        · exact threads.failWriter present _ _ _
        · split
          · exact ⟨moved.unstarted, moved.ended, moved.linked, moved.behind⟩
          · exact moved
  · exact threads

theorem received (payload : Transport.Result Bytes) : Threads (s.received protobuf payload) := by
  unfold ConnectionState.received
  split
  · rename_i receiving
    have present : s.reader ≠ .absent := by
      intro absent
      cases receiving.symm.trans absent
    have connected := threads.linked (Or.inr (by rw [receiving]; rfl))
    split
    · exact threads.moveReader present _ fun linked => by cases linked
    · split
      · exact threads.failReader present _ _ _
      · split
        · exact threads.failReader present _ _ _
        · split
          · exact threads.failReader present _ _ _
          · split
            · exact threads
            · split
              · exact threads.failReader present _ _ _
              · split
                · exact threads.failReader present _ _ _
                · have moved := threads.moveReader present .looping fun _ => connected
                  exact ⟨moved.unstarted, moved.ended, moved.linked, moved.behind⟩
  · exact threads

end

/-- The scan leaves the writer and the reader where they are. -/
theorem scan (threads : Threads s) (present : s.monitor ≠ .absent)
    (entries : List (UInt64 × Address)) : Threads (s.scan entries) := by
  induction entries generalizing s with
  | nil => exact threads
  | cons head rest ih =>
    unfold ConnectionState.scan
    split
    · exact threads
    · split
      · split
        · apply (threads.fail _ _ _).moveMonitor
          rw [ConnectionState.failLocked_monitor]
          exact present
        · exact ih ⟨threads.unstarted, threads.ended, threads.linked, threads.behind⟩ present
      · exact ih threads present

section
variable (threads : Threads s)
include threads

/-- A stop request may end the open; it moves no thread. -/
theorem requestStop (stop : StopToken) : Threads (s.requestStop stop) := by
  refine ⟨threads.unstarted, fun closed => ?_, threads.linked, threads.behind⟩
  simp only [ConnectionState.requestStop, threads.ended closed, Bool.true_or]
  split <;> rfl

/-- The writer goes into the open, or past it where a stop was already requested. -/
theorem beginOpening : Threads s.beginOpening := by
  unfold ConnectionState.beginOpening
  split
  · rename_i stop starting
    have present : s.writer ≠ .absent := by
      intro absent
      cases starting.symm.trans absent
    have shut : Threads { s with shutdown := s.shutdown || s.stopRequested stop } :=
      ⟨threads.unstarted, fun closed => by simp [threads.ended closed], threads.linked,
        threads.behind⟩
    have awaiting : s.writer.awaiting = true := by
      rw [starting]
      rfl
    dsimp only
    split
    · exact shut.moveWriter present _ (fun linked => by cases linked)
        fun ahead => by cases ahead.symm.trans awaiting
    · exact shut.moveWriter present _ (fun linked => by cases linked)
        fun ahead => by cases ahead.symm.trans awaiting
  · exact threads

/-- The result of the open is held until it is published under the lock. -/
theorem openReturned (result : Transport.Result Bool) : Threads (s.openReturned result) := by
  rcases s.openReturned_eq result with kept | ⟨_, _, opening, kept⟩
  · rw [kept]
    exact threads
  · have present : s.writer ≠ .absent := by
      intro absent
      cases opening.symm.trans absent
    have awaiting : s.writer.awaiting = true := by
      rw [opening]
      rfl
    rw [kept]
    exact threads.moveWriter present _ (fun linked => by cases linked)
      fun ahead => by cases ahead.symm.trans awaiting

theorem readerConnected : Threads s.readerConnected := by
  unfold ConnectionState.readerConnected
  split
  · rename_i starting
    have present : s.reader ≠ .absent := by
      intro absent
      cases starting.symm.trans absent
    split
    · exact threads.moveReader present _ fun linked => by cases linked
    · split
      · rename_i connected
        exact threads.moveReader present _ fun _ => connected
      · exact threads
  · exact threads

theorem readerLoop : Threads s.readerLoop := by
  unfold ConnectionState.readerLoop
  split
  · rename_i looping
    have present : s.reader ≠ .absent := by
      intro absent
      cases looping.symm.trans absent
    split
    · exact threads.moveReader present _ fun linked => by cases linked
    · exact threads.moveReader present _ fun _ => threads.linked (Or.inr (by rw [looping]; rfl))
  · exact threads

theorem monitorConnected : Threads s.monitorConnected := by
  unfold ConnectionState.monitorConnected
  split
  · rename_i starting
    have present : s.monitor ≠ .absent := by
      intro absent
      cases starting.symm.trans absent
    split
    · exact threads.moveMonitor present _
    · split
      · exact threads.moveMonitor present _
      · exact threads
  · exact threads

theorem monitorScan : Threads s.monitorScan := by
  unfold ConnectionState.monitorScan
  split
  · rename_i scanning
    have present : s.monitor ≠ .absent := by
      intro absent
      cases scanning.symm.trans absent
    split
    · exact threads.moveMonitor present _
    · exact threads.scan present _
  · exact threads

/-- One section keeps the threads in order. -/
theorem step (action : Action) : Threads (ConnectionState.step protobuf s action).1 := by
  cases action with
  | connect endpoint deadline stop workers => exact threads.connect endpoint deadline stop workers
  | call operation deadline stop =>
    obtain ⟨_, _, _, _, _, kept⟩ := s.callAsync_eq protobuf operation deadline stop
    change Threads (s.callAsync protobuf operation deadline stop).2
    rw [kept]
    exact ⟨threads.unstarted, threads.ended, threads.linked, threads.behind⟩
  | close => exact threads.fail _ _ _
  | tick elapsed => exact ⟨threads.unstarted, threads.ended, threads.linked, threads.behind⟩
  | requestStop stop => exact threads.requestStop stop
  | beginOpening => exact threads.beginOpening
  | openReturned result => exact threads.openReturned result
  | publishOpened => exact threads.publish
  | takeQueued => exact threads.takeQueued
  | sendReturned result => exact threads.sendReturned result
  | readerConnected => exact threads.readerConnected
  | readerLoop => exact threads.readerLoop
  | received payload => exact threads.received payload
  | monitorConnected => exact threads.monitorConnected
  | monitorScan => exact threads.monitorScan

end

end Threads

/-! ## Leaving -/

/-- The section a thread stands before. A thread inside a call of the connector or of
the channel stands before the section that handles the result. -/
def ConnectionState.due (s : ConnectionState) : Action → Bool
  | .beginOpening => match s.writer with | .starting .. => true | _ => false
  | .openReturned _ => match s.writer with | .opening .. => true | _ => false
  | .publishOpened => match s.writer with | .opened .. => true | _ => false
  | .takeQueued => match s.writer with | .waiting => true | _ => false
  | .sendReturned _ => match s.writer with | .sending _ => true | _ => false
  | .readerConnected => match s.reader with | .starting => true | _ => false
  | .readerLoop => match s.reader with | .looping => true | _ => false
  | .received _ => match s.reader with | .receiving => true | _ => false
  | .monitorConnected => match s.monitor with | .starting => true | _ => false
  | .monitorScan => match s.monitor with | .scanning => true | _ => false
  | _ => false

/-- How many sections each thread still runs once the session has closed. -/
def WriterPoint.rank : WriterPoint → Nat
  | .absent | .done => 0
  | .starting .. | .opening .. => 2
  | .opened .. | .waiting | .sending _ => 1

def ReaderPoint.rank (point : ReaderPoint) : Nat := (!point.finished).toNat

def MonitorPoint.rank (point : MonitorPoint) : Nat := (!point.finished).toNat

theorem WriterPoint.rank_eq_zero {point : WriterPoint} : point.rank = 0 ↔ point.finished = true := by
  cases point <;> simp [WriterPoint.rank, WriterPoint.finished]

theorem ReaderPoint.rank_eq_zero {point : ReaderPoint} : point.rank = 0 ↔ point.finished = true := by
  cases point <;> simp [ReaderPoint.rank, ReaderPoint.finished]

theorem MonitorPoint.rank_eq_zero {point : MonitorPoint} :
    point.rank = 0 ↔ point.finished = true := by
  cases point <;> simp [MonitorPoint.rank, MonitorPoint.finished]

namespace ConnectionState
variable {protobuf : Protocol.Protobuf} {s : ConnectionState}

def rank (s : ConnectionState) : Nat := s.writer.rank + s.reader.rank + s.monitor.rank

/-- This many sections have been taken off the work that was left, and no thread has got more. -/
structure Pays (s : ConnectionState) (paid : Nat) (t : ConnectionState) : Prop where
  total : t.rank + paid = s.rank
  writer : t.writer.rank ≤ s.writer.rank
  reader : t.reader.rank ≤ s.reader.rank
  monitor : t.monitor.rank ≤ s.monitor.rank

/-- A section that moves no thread pays nothing, and nothing was due. -/
theorem pays_nothing {t : ConnectionState} {due : Bool} (writer : t.writer = s.writer)
    (reader : t.reader = s.reader) (monitor : t.monitor = s.monitor) (idle : due = false) :
    s.Pays due.toNat t := by
  refine ⟨?_, ?_, ?_, ?_⟩
  · rw [rank, writer, reader, monitor, idle]
    rfl
  · rw [writer]
  · rw [reader]
  · rw [monitor]

theorem within_of_worker {action : Action} {worker : Worker} (own : action.worker = some worker) :
    action.within = true := by
  cases action <;> first | rfl | cases own

/-- A section of the writer takes it one nearer to its end. -/
theorem writer_pays (s : ConnectionState) {action : Action} (own : action.worker = some .writer)
    (nearer : (step protobuf s action).1.writer.rank + (s.due action).toNat = s.writer.rank) :
    s.Pays (s.due action).toNat (step protobuf s action).1 := by
  have frame : Frame action s (step protobuf s action).1 := s.step_frame (within_of_worker own)
  have reader := frame.reader fun same => by cases own.symm.trans same
  have monitor := frame.monitor fun same => by cases own.symm.trans same
  refine ⟨?_, by omega, Nat.le_of_eq (congrArg _ reader), Nat.le_of_eq (congrArg _ monitor)⟩
  rw [rank, reader, monitor, rank]
  omega

theorem reader_pays (s : ConnectionState) {action : Action} (own : action.worker = some .reader)
    (nearer : (step protobuf s action).1.reader.rank + (s.due action).toNat = s.reader.rank) :
    s.Pays (s.due action).toNat (step protobuf s action).1 := by
  have frame : Frame action s (step protobuf s action).1 := s.step_frame (within_of_worker own)
  have writer := frame.writer fun same => by cases own.symm.trans same
  have monitor := frame.monitor fun same => by cases own.symm.trans same
  refine ⟨?_, Nat.le_of_eq (congrArg _ writer), by omega, Nat.le_of_eq (congrArg _ monitor)⟩
  rw [rank, writer, monitor, rank]
  omega

theorem monitor_pays (s : ConnectionState) {action : Action} (own : action.worker = some .monitor)
    (nearer : (step protobuf s action).1.monitor.rank + (s.due action).toNat = s.monitor.rank) :
    s.Pays (s.due action).toNat (step protobuf s action).1 := by
  have frame : Frame action s (step protobuf s action).1 := s.step_frame (within_of_worker own)
  have writer := frame.writer fun same => by cases own.symm.trans same
  have reader := frame.reader fun same => by cases own.symm.trans same
  refine ⟨?_, Nat.le_of_eq (congrArg _ writer), Nat.le_of_eq (congrArg _ reader), by omega⟩
  rw [rank, writer, reader, rank]
  omega

/-- A closed session has a thread leave with the section it is due, and runs no other. -/
theorem step_rank (protobuf : Protocol.Protobuf) (closed : s.closed = true)
    (shut : s.shutdown = true) (action : Action) :
    s.Pays (s.due action).toNat (step protobuf s action).1 := by
  have fails : ∀ common specificId specific, s.failLocked common specificId specific = s := by
    intro common specificId specific
    rw [failLocked, if_pos closed]
  cases action with
  | connect endpoint deadline stop workers =>
    have same : (step protobuf s (.connect endpoint deadline stop workers)).1 = s := by
      simp [step, connectAsync, closed]
    rw [same]
    exact pays_nothing rfl rfl rfl rfl
  | call operation deadline stop =>
    have same : (step protobuf s (.call operation deadline stop)).1 = s := by
      simp [step, callAsync, closed]
    rw [same]
    exact pays_nothing rfl rfl rfl rfl
  | close =>
    rw [show (step protobuf s .close).1 = s from fails _ _ _]
    exact pays_nothing rfl rfl rfl rfl
  | tick elapsed => exact pays_nothing rfl rfl rfl rfl
  | requestStop stop => exact pays_nothing rfl rfl rfl rfl
  | beginOpening =>
    refine s.writer_pays rfl ?_
    cases point : s.writer <;> simp [step, beginOpening, due, point, shut, WriterPoint.rank]
  | openReturned result =>
    refine s.writer_pays rfl ?_
    cases point : s.writer <;> simp [step, openReturned, due, point, WriterPoint.rank]
  | publishOpened =>
    refine s.writer_pays rfl ?_
    cases point : s.writer with
    | opened deadline result =>
      cases result <;>
        simp [step, publishOpened, failAll, fails, due, point, closed, WriterPoint.rank]
    | _ => simp [step, publishOpened, due, point]
  | takeQueued =>
    refine s.writer_pays rfl ?_
    cases point : s.writer <;> simp [step, takeQueued, due, point, closed, WriterPoint.rank]
  | sendReturned result =>
    refine s.writer_pays rfl ?_
    cases point : s.writer <;> simp [step, sendReturned, due, point, closed, WriterPoint.rank]
  | readerConnected =>
    refine s.reader_pays rfl ?_
    cases point : s.reader <;>
      simp [step, readerConnected, due, point, closed, ReaderPoint.rank, ReaderPoint.finished]
  | readerLoop =>
    refine s.reader_pays rfl ?_
    cases point : s.reader <;>
      simp [step, readerLoop, due, point, shut, ReaderPoint.rank, ReaderPoint.finished]
  | received payload =>
    refine s.reader_pays rfl ?_
    cases point : s.reader <;>
      simp [step, received, due, point, closed, ReaderPoint.rank, ReaderPoint.finished]
  | monitorConnected =>
    refine s.monitor_pays rfl ?_
    cases point : s.monitor <;>
      simp [step, monitorConnected, due, point, closed, MonitorPoint.rank, MonitorPoint.finished]
  | monitorScan =>
    refine s.monitor_pays rfl ?_
    cases point : s.monitor <;>
      simp [step, monitorScan, due, point, closed, MonitorPoint.rank, MonitorPoint.finished]

/-- An unfinished thread is due some section, whatever its I/O returns. -/
theorem due_of_unfinished (unfinished : s.rank ≠ 0) : ∃ action, s.due action = true := by
  by_contra none
  have idle : ∀ action, s.due action = false := fun action =>
    Bool.eq_false_iff.mpr fun due => none ⟨action, due⟩
  apply unfinished
  have writer : s.writer.rank = 0 := by
    cases point : s.writer with
    | absent => rfl
    | done => rfl
    | starting => simpa [due, point] using idle .beginOpening
    | opening => simpa [due, point] using idle (.openReturned (.ok true))
    | opened => simpa [due, point] using idle .publishOpened
    | waiting => simpa [due, point] using idle .takeQueued
    | sending => simpa [due, point] using idle (.sendReturned (.ok 0))
  have reader : s.reader.rank = 0 := by
    cases point : s.reader with
    | absent => rfl
    | done => rfl
    | starting => simpa [due, point] using idle .readerConnected
    | looping => simpa [due, point] using idle .readerLoop
    | receiving => simpa [due, point] using idle (.received (.ok []))
  have monitor : s.monitor.rank = 0 := by
    cases point : s.monitor with
    | absent => rfl
    | done => rfl
    | starting => simpa [due, point] using idle .monitorConnected
    | scanning => simpa [due, point] using idle .monitorScan
  rw [rank, writer, reader, monitor]

end ConnectionState

end PipeForge.Client
