import PipeForge.Cli.Parsing
import PipeForge.Library.Buffered
import PipeForge.Library.Dialogue

/-!
# The executables

`run_application` with `print_command` (cli/application.cpp) as a program that writes to
the two standard streams and owns the diagnostics of the process. What a runtime command
asks besides is left open: a handler comes with questions of its own.

The terminal answers for the streams and the diagnostics. `std::cout` is buffered: what is
written to it reaches the device with a flush or whenever the stream likes, and the device may
refuse it. `std::cerr` is tied to it, so a complaint is preceded by a flush. A diagnostic sink
may fail. Profile scopes are not repeated here.
-/

namespace PipeForge.Cli
open Contracts Library

inductive Console where
  | write (text : Bytes)
  | flush
  | good
  | complain (text : Bytes)
  | openDiagnostics (application : Bytes) (options : DiagnosticOptions)
  | log (message : Bytes)
  | finish

def Console.Answer : Console → Type
  | .good | .finish => Bool
  | .openDiagnostics _ _ => Except Bytes Unit
  | _ => Unit

abbrev Operating (Q : Type) (R : Q → Type) := Dialogue (Q ⊕ Console) (Sum.elim R Console.Answer)

section
variable {Q : Type} {R : Q → Type}

/-- To `output`. -/
def write (text : Bytes) : Operating Q R Unit := .question (Sum.inr (Console.write text))

/-- `std::flush` -/
def flush : Operating Q R Unit := .question (Sum.inr Console.flush)

def good : Operating Q R Bool := .question (Sum.inr Console.good)

/-- To `errors`. -/
def complain (text : Bytes) : Operating Q R Unit := .question (Sum.inr (Console.complain text))

/-- The constructor of `diagnostic_session`, with the text of a `diagnostic_io_error`. -/
def openDiagnostics (application : Bytes) (options : DiagnosticOptions) :
    Operating Q R (Except Bytes Unit) :=
  .question (Sum.inr (Console.openDiagnostics application options))

def log (message : Bytes) : Operating Q R Unit := .question (Sum.inr (Console.log message))

def finish : Operating Q R Bool := .question (Sum.inr Console.finish)

def usage (name : Bytes) (profilingEnabled : Bool) : Bytes :=
  ascii "Usage: " ++ name ++ ascii " [--log-file PATH] [--trace-file PATH] COMMAND [OPTIONS]\n" ++
    ascii "Commands: --help, --version, " ++
    (if name = serverName then ascii "--serve"
      else ascii "--demo-sync, --demo-async, --demo-mixed") ++
    ascii "\n" ++
    ascii "Options: --endpoint LOCAL_PIPE --timeout-ms 10..60000; server: --sessions 1..4\n" ++
    ascii "Server: type stop or close stdin for graceful shutdown.\n" ++
    ascii "Profiling: " ++ (if profilingEnabled then ascii "enabled" else ascii "disabled") ++
    ascii "\n" ++
    ascii ("Protocol: " ++ toString version.toNat ++ " (Protobuf)\n") ++
    ascii "Runtime IPC commands require Windows x64.\n"

/-- What an executable is built with. -/
structure Build where
  name : Bytes
  version : Bytes
  profilingEnabled : Bool

def printCommand (build : Build) (command : ApplicationCommand) : Operating Q R Nat := do
  if command = .version then
    write (build.name ++ ascii " " ++ build.version ++ ascii "\n")
    return 0
  else
    write (usage build.name build.profilingEnabled)
    return 0

abbrev CommandHandler (Q : Type) (R : Q → Type) := Invocation → Operating Q R Nat

def dispatch (build : Build) (handler : Option (CommandHandler Q R)) (options : Invocation) :
    Operating Q R Nat :=
  match handler with
  | some handle => if options.command.runtime then handle options
    else printCommand build options.command
  | none => printCommand build options.command

def refuse (message : Bytes) : Operating Q R Nat := do
  complain message
  return 2

end

/-! ## The terminal -/

structure Terminal (τ : Type) where
  /-- What the handler works with. -/
  machine : τ
  output : Buffered UInt8 := {}
  errors : Bytes := []
  /-- The next diagnostic session cannot be opened, for this reason. -/
  obstacle : Option Bytes := none
  /-- There is a `diagnostic_state`. -/
  observed : Bool := false
  sinkFailed : Bool := false

inductive Incident (δ : Type) where
  | machine (move : δ)
  /-- The device behind the output takes no more than this. -/
  | limitOutput (room : Option Nat)
  /-- The stream hands over a part of its buffer. -/
  | spill (count : Nat)
  | obstruct (what : Option Bytes)
  | failSink

namespace Terminal
variable {Q : Type} {R : Q → Type} {τ δ : Type}

def disturb (move : τ → δ → τ) (t : Terminal τ) : Incident δ → Terminal τ
  | .machine e => { t with machine := move t.machine e }
  | .limitOutput room => { t with output := t.output.limit room }
  | .spill count => { t with output := t.output.deliver count }
  | .obstruct what => { t with obstacle := what }
  | .failSink => { t with sinkFailed := true }

def answer (part : τ → (q : Q) → R q × τ) (t : Terminal τ) :
    (q : Q ⊕ Console) → Sum.elim R Console.Answer q × Terminal τ
  | .inl q => ((part t.machine q).1, { t with machine := (part t.machine q).2 })
  | .inr (.write text) => ((), { t with output := t.output.put text })
  | .inr .flush => ((), { t with output := t.output.flush })
  | .inr .good => (t.output.good, t)
  | .inr (.complain text) => ((), { t with output := t.output.flush, errors := t.errors ++ text })
  | .inr (.openDiagnostics _ options) =>
    if options.logFile = [] ∧ options.traceFile = [] then (Except.ok (), t)
    else
      match t.obstacle with
      | some what => (Except.error what, t)
      | none => (Except.ok (), { t with observed := true })
  | .inr (.log _) => ((), t)
  | .inr .finish => (!t.observed || !t.sinkFailed, t)

end Terminal

/-! ## What a command leaves on the screen -/

section
variable {Q : Type} {R : Q → Type} {τ δ : Type} {part : τ → (q : Q) → R q × τ} {move : τ → δ → τ}
  {M : τ → Prop} {shown text errors : Bytes} {t : Terminal τ}

/-- The machine is as `M` says, `text` was written to the output, of which `shown` has been
delivered, and `errors` to the other stream. -/
structure Shows (M : τ → Prop) (shown text errors : Bytes) (t : Terminal τ) : Prop where
  machine : M t.machine
  output : t.output.Carries shown text
  errors : t.errors = errors

/-- What is on the terminal stays there, and losing room or spilling the buffer changes neither
text. -/
theorem Shows.disturb (stable : ∀ s e, M s → M (move s e)) (t : Terminal τ) (e : Incident δ)
    (shows : Shows M shown text errors t) : Shows M shown text errors (t.disturb move e) := by
  cases e with
  | machine e => exact { shows with machine := stable t.machine e shows.machine }
  | limitOutput room => exact { shows with output := shows.output.limit room }
  | spill count => exact { shows with output := shows.output.deliver count }
  | obstruct what => exact { shows with }
  | failSink => exact { shows with }

/-- What was written has been delivered, unless the output has gone bad. -/
def Flushed (text : Bytes) (t : Terminal τ) : Prop :=
  t.output.good = true → t.output.delivered = text

theorem Flushed.disturb (stable : ∀ s e, M s → M (move s e)) (t : Terminal τ) (e : Incident δ)
    (here : Shows M shown text errors t ∧ Flushed text t) :
    Shows M shown text errors (t.disturb move e) ∧ Flushed text (t.disturb move e) := by
  obtain ⟨shows, flushed⟩ := here
  refine ⟨shows.disturb stable t e, ?_⟩
  cases e with
  | machine e => exact flushed
  | limitOutput room => exact flushed
  | spill count => exact shows.output.stays flushed count
  | obstruct what => exact flushed
  | failSink => exact flushed

/-- A bad output stays bad. -/
theorem broken_disturb (t : Terminal τ) (e : Incident δ) (broken : t.output.good = false) :
    (t.disturb move e).output.good = false := by
  cases e with
  | machine e => exact broken
  | limitOutput room => exact broken
  | spill count =>
    rw [Terminal.disturb, Buffered.deliver_bad broken]
    exact broken
  | obstruct what => exact broken
  | failSink => exact broken

end

end PipeForge.Cli
