import PipeForge.Library.OrderedMap
import PipeForge.Diagnostics.History

/-!
# Diagnostic state

The bookkeeping of diagnostics/diagnostics.cpp: admission of scopes, the trace
records, and the deferred shutdown. Each member function holds the mutex for as long
as it reads or writes the state, so calls of different threads interleave as whole
functions; what the clock returns is an argument.

A thread is its `std::thread::id`, of the type `θ`. An id may be given to a new thread after a
join, and then both are one thread here, as they are in the map of the source. The counters
are natural numbers where the source has `std::size_t` and `std::uint64_t`.

The sinks are outside the model. `sinks n` says whether the `n`-th operation on a sink
succeeds; a failed one sets `failed_` through the error handler and writes no record.
A dereference of a reset `trace_` is kept in the state as `nullTrace`.
-/

namespace PipeForge.Diagnostics
open Contracts Library

def profileNameBytes : Nat := 256

def defaultTraceEventLimit : Nat := 100000

inductive LogLevel where
  | debug
  | info
  | warning
  | error
  deriving DecidableEq, Repr

/-- A session's arguments and surroundings: which files `diagnostic_options` names,
`profiling_enabled` of the build, and the clock at construction. -/
structure Setup where
  application : Bytes
  processId : Nat
  profilingEnabled : Bool := true
  logFile : Bool := false
  traceFile : Bool := false
  traceEventLimit : Nat := defaultTraceEventLimit
  now : Int := 0
  deriving DecidableEq, Repr

/-- Whether the constructor opens a trace. -/
def Setup.traces (setup : Setup) : Bool := setup.profilingEnabled && setup.traceFile

/-- `origin_`, in nanoseconds like every time here. -/
def Setup.origin (setup : Setup) : Int := if setup.traces then setup.now else 0

/-- The JSON object of an event: `processName` has phase `M` and thread 0, `complete`
phase `X` and category `pipeforge`. -/
inductive Event where
  | processName (pid : Nat) (application : Bytes)
  | complete (name : Bytes) (pid tid : Nat) (ts dur : Int)
  deriving DecidableEq, Repr

inductive Record where
  | header
  | event (comma : Bool) (event : Event)
  | trailer (droppedEvents : Nat)
  deriving DecidableEq, Repr

structure DiagnosticState (θ : Type) [LT θ] where
  setup : Setup
  operations : Nat := 0
  failed : Bool := false
  logOpen : Bool := false
  traceOpen : Bool := false
  logRecords : List (LogLevel × Bytes) := []
  traceRecords : List Record := []
  nullTrace : Bool := false
  threads : OrderedMap θ Nat := .empty
  active : Nat := 0
  admitted : Nat := 0
  dropped : Nat := 0
  firstEvent : Bool := true
  traceEnabled : Bool := false
  closing : Bool := false

/-- `duration_cast<microseconds>`. -/
def microseconds (duration : Int) : Int := duration.tdiv 1000

/-- The event `end_scope` writes. -/
def completeEvent (setup : Setup) (name : Bytes) (thread : Nat) (start stop : Int) : Event :=
  .complete name setup.processId thread (microseconds (start - setup.origin))
    (microseconds (stop - start))

namespace DiagnosticState
variable {θ : Type} [LinearOrder θ] (sinks : Nat → Bool)

/-- An operation on a sink. -/
def operate (s : DiagnosticState θ) : DiagnosticState θ :=
  { s with operations := s.operations + 1, failed := s.failed || !sinks s.operations }

/-- `trace_->info`. -/
def writeTrace (s : DiagnosticState θ) (record : Record) : DiagnosticState θ :=
  { s.operate sinks with
    traceRecords := if sinks s.operations then s.traceRecords ++ [record] else s.traceRecords }

def writeEvent (s : DiagnosticState θ) (event : Event) : DiagnosticState θ :=
  if s.traceOpen then
    { s.writeTrace sinks (.event (!s.firstEvent) event) with firstEvent := false }
  else { s with nullTrace := true }

/-- The constructor, with the files it was given opened. -/
def start (setup : Setup) : DiagnosticState θ :=
  let s : DiagnosticState θ := { setup, logOpen := setup.logFile }
  if setup.traces then
    let s := writeTrace sinks { s with traceOpen := true } .header
    { s.writeEvent sinks (.processName setup.processId setup.application) with
      traceEnabled := true }
  else s

def log (s : DiagnosticState θ) (level : LogLevel) (message : Bytes) : DiagnosticState θ :=
  if s.logOpen && !s.closing then
    { s.operate sinks with
      logRecords := if sinks s.operations then s.logRecords ++ [(level, message)]
        else s.logRecords }
  else s

def beginScope (s : DiagnosticState θ) (identifier : θ) : DiagnosticState θ × Option Nat :=
  if !s.traceOpen || s.closing || s.failed then (s, none)
  else if s.admitted ≥ s.setup.traceEventLimit then ({ s with dropped := s.dropped + 1 }, none)
  else
    match s.threads.find identifier with
    | some track => ({ s with active := s.active + 1, admitted := s.admitted + 1 }, some track)
    | none =>
      if s.threads.size ≥ traceThreadLimit then ({ s with dropped := s.dropped + 1 }, none)
      else
        let track := s.threads.size + 1
        ({ s with
            threads := s.threads.emplace identifier track
            active := s.active + 1
            admitted := s.admitted + 1 }, some track)

def closeTrace (s : DiagnosticState θ) : DiagnosticState θ :=
  if s.traceOpen then
    { (s.writeTrace sinks (.trailer s.dropped)).operate sinks with traceOpen := false }
  else s

def closeLog (s : DiagnosticState θ) : DiagnosticState θ :=
  if s.logOpen then { s.operate sinks with logOpen := false } else s

def finalize (s : DiagnosticState θ) : DiagnosticState θ × Bool :=
  if s.active ≠ 0 then (s, false)
  else
    let s := (s.closeTrace sinks).closeLog sinks
    (s, !s.failed)

def endScope (s : DiagnosticState θ) (name : Bytes) (thread : Nat) (start stop : Int) :
    DiagnosticState θ :=
  let s := s.writeEvent sinks (completeEvent s.setup name thread start stop)
  let s := { s with active := s.active - 1 }
  if s.closing then (s.finalize sinks).1 else s

def finish (s : DiagnosticState θ) : DiagnosticState θ × Bool :=
  finalize sinks { s with closing := true }

end DiagnosticState

/-! ## Programs that profile -/

structure ProfileScope where
  name : Bytes
  start : Int
  thread : Option Nat
  deriving DecidableEq, Repr

/-- A `profile_scope` object, with a name of its own and the thread it is on. -/
structure Live (θ : Type) where
  id : Nat
  owner : θ
  object : ProfileScope
  deriving DecidableEq, Repr

/-- The admitted scope the object stands for, if it is one. -/
def Live.scope {θ : Type} (live : Live θ) : Option (Scope θ) :=
  live.object.thread.map fun track =>
    ⟨live.id, live.owner, track, live.object.name, live.object.start⟩

/-- A session's state and the scopes that exist. The scopes share the state, so it
outlives the session. -/
structure Program (θ : Type) [LT θ] where
  state : DiagnosticState θ
  scopes : List (Live θ) := []
  constructed : Nat := 0

/-- `finish` is called by the program or by the session's destructor. -/
inductive Action (θ : Type) where
  | construct (thread : θ) (name : Bytes) (now : Int)
  | destroy (scope : Nat) (now : Int)
  | log (level : LogLevel) (message : Bytes)
  | finish
  deriving DecidableEq, Repr

/-- The constructor of `profile_scope`. -/
def profileScope {θ : Type} [LinearOrder θ] (s : DiagnosticState θ) (thread : θ) (name : Bytes)
    (now : Int) : DiagnosticState θ × ProfileScope :=
  if !s.traceEnabled then (s, ⟨[], 0, none⟩)
  else
    let begun := s.beginScope thread
    (begun.1, ⟨name.take profileNameBytes, if begun.2.isSome then now else 0, begun.2⟩)

namespace Program
variable {θ : Type} [LinearOrder θ] (sinks : Nat → Bool)

def start (setup : Setup) : Program θ := { state := .start sinks setup }

/-- A scope can be destroyed as long as it exists, and only an admitted one reports. -/
def step (p : Program θ) : Action θ → Program θ × List (Observation θ)
  | .construct thread name now =>
    let made := profileScope p.state thread name now
    let live : Live θ := ⟨p.constructed, thread, made.2⟩
    let seen := live.scope.elim (.refused thread) .admitted
    (⟨made.1, p.scopes ++ [live], p.constructed + 1⟩, [seen])
  | .destroy id now =>
    match p.scopes.find? fun live => decide (live.id = id) with
    | none => (p, [])
    | some live =>
      let scopes := p.scopes.filter fun live => decide (live.id ≠ id)
      match live.scope with
      | none => ({ p with scopes }, [])
      | some scope =>
        let state := p.state.endScope sinks scope.name scope.track scope.start now
        ({ p with state, scopes }, [.ended scope now])
  | .log level message => ({ p with state := p.state.log sinks level message }, [])
  | .finish =>
    let done := p.state.finish sinks
    ({ p with state := done.1 }, [.finished done.2])

end Program

end PipeForge.Diagnostics
