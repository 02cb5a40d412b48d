import PipeForge.Cli.Application
import PipeForge.Domain.Builtins
import PipeForge.Server.Launch

/-!
# The server executable

`run_server_command` (server_commands.cpp) under `run_application`: from the arguments of
the process to its exit code, with every system call of the host in between. Standard input
is the list of lines that `getline` will read, and how it ends.
-/

namespace PipeForge.Cli
open Contracts Library Transport Domain Server

/-! ## The command -/

structure StandardInput where
  lines : List Bytes
  /-- After the last line reading fails, instead of reaching the end. -/
  broken : Bool

/-- The loop over `getline`: whether it ran out of lines before a request to stop. -/
def outlasts : List Bytes → Bool
  | [] => true
  | line :: rest => if line = ascii "stop" ∨ line = [] then false else outlasts rest

/-- `std::cin.bad()` after the loop. -/
def StandardInput.bad (input : StandardInput) : Bool := outlasts input.lines && input.broken

/-- `static_cast<unsigned int>` of the kind. -/
def failureNumber : Transport.FailureKind → Nat
  | .invalidConfiguration => 0
  | .timeout => 1
  | .cancelled => 2
  | .disconnected => 3
  | .accessDenied => 4
  | .ioFailure => 5
  | .protocolViolation => 6

def startupFailed (failure : Transport.Failure) : Bytes :=
  ascii ("Server startup failed kind=" ++ toString (failureNumber failure.kind) ++ " native=" ++
    toString failure.nativeError.toNat ++ "\n")

def readyLine (endpoint : Bytes) : Bytes := ascii "READY " ++ endpoint ++ ascii "\n"

def stoppedLine (connections : UInt64) : Bytes :=
  ascii ("STOPPED connections=" ++ toString connections.toNat ++ "\n")

abbrev Serving := Operating SystemCall SystemCall.Answer

/-- `static_cast<char>` -/
def narrow (c : UInt16) : UInt8 := c.toUInt8

def putEach : WString → Serving Unit
  | [] => return ()
  | character :: rest => do
    write [narrow character]
    putEach rest

/-- The rest of the command, once the server has started. -/
def host (options : Invocation) (input : StandardInput) (server : Slots) : Serving Nat := do
  write (ascii "READY ")
  putEach options.endpoint
  write (ascii "\n")
  flush
  if ← good then
    let _ ← server.stop.inl
    let count ← Server.connections.inl
    -- the test below is made without a flush
    write (stoppedLine count)
    let works ← good
    return if input.bad || !works then 1 else 0
  else
    let _ ← server.stop.inl
    return 1

section
variable {name : Bytes} {command : ApplicationCommand} {segments : List Segment}

theorem mem_of_valuesOf {flag : Flag} {value : Bytes}
    (last : (valuesOf flag segments).getLast? = some value) : .option flag value ∈ segments := by
  obtain ⟨segment, mem, found⟩ := List.mem_filterMap.mp (List.mem_of_getLast? last)
  cases segment with
  | command other => cases found
  | option other typed =>
    simp only [Segment.valueOf] at found
    split at found
    case isTrue same =>
      cases found
      exact same ▸ mem
    case isFalse => cases found

/-- An option is not there, or it has a value that is accepted. -/
theorem WellFormed.given (wellFormed : WellFormed name command segments) (flag : Flag) :
    (valuesOf flag segments).getLast? = none ∨ ∃ value,
      (valuesOf flag segments).getLast? = some value ∧ flag.Fits value ∧
        value ∈ tokens segments := by
  cases last : (valuesOf flag segments).getLast? with
  | none => exact Or.inl rfl
  | some value =>
    have mem := mem_of_valuesOf last
    refine Or.inr ⟨value, rfl, (wellFormed.values flag value mem).2.2, ?_⟩
    exact List.mem_flatMap.mpr ⟨_, mem, List.mem_cons_of_mem _ (List.mem_cons_self ..)⟩

end

section
variable {base : Kernel} {made : List Instance} {shown text errors : Bytes}
  {t : Terminal Kernel}

/-- Nothing is held any more, and no connection is counted any more. -/
def Settled (base : Kernel) (made : List Instance) (count : UInt64) (k : Kernel) :
    Prop :=
  Owns base [] [] [] made k ∧ k.accepted = count

theorem Settled.disturb (idle : base.threads = []) {count : UInt64} (k : Kernel) (e : Verdict)
    (settled : Settled base made count k) : Settled base made count (k.disturb e) := by
  refine ⟨settled.1.disturb k e, ?_⟩
  have none : k.threads = [] := by
    have threads := settled.1.threads
    rw [idle] at threads
    exact threads.eq_nil
  cases e with
  | refuse code => exact settled.2
  | report groups => exact settled.2
  | accept =>
    rw [Kernel.disturb, none]
    exact settled.2

/-- Everything is given back. With exit code 0 the first line has been delivered and the
second one, with the number of all connections, was written after it; otherwise the system
refused to start the server, or one of the standard streams is broken. -/
def Served (base : Kernel) (options : Invocation) (input : StandardInput) (code : Nat)
    (after : Terminal Kernel) : Prop :=
  ∃ made count, Settled base made count after.machine ∧
    (code = 0 ∧ after.errors = [] ∧ after.output.Carries
        (readyLine (options.endpoint.map narrow))
        (readyLine (options.endpoint.map narrow) ++ stoppedLine count) ∨
      code = 1 ∧ after.errors = [] ∧ (after.output.good = false ∨ input.broken = true) ∨
      code = 1 ∧ ∃ failure, Native failure ∧ after.errors = startupFailed failure)

theorem Served.disturb (idle : base.threads = []) {options : Invocation} {input : StandardInput}
    (code : Nat) (t : Terminal Kernel) (e : Incident Verdict)
    (served : Served base options input code t) :
    Served base options input code (t.disturb Kernel.disturb e) := by
  obtain ⟨made, count, settled, outcome⟩ := served
  have machine : Settled base made count (t.disturb Kernel.disturb e).machine := by
    cases e with
    | machine e => exact settled.disturb idle _ e
    | limitOutput room => exact settled
    | spill count => exact settled
    | obstruct what => exact settled
    | failSink => exact settled
  have errors : (t.disturb Kernel.disturb e).errors = t.errors := by cases e <;> rfl
  refine ⟨made, count, machine, ?_⟩
  rw [errors]
  rcases outcome with ⟨zero, quiet, carries⟩ | ⟨one, quiet, broken | ended⟩ | refused
  · have shows : Shows (fun _ => True) _ _ _ t := ⟨trivial, carries, rfl⟩
    exact Or.inl ⟨zero, quiet, (shows.disturb (fun _ _ _ => trivial) t e).output⟩
  · exact Or.inr (Or.inl ⟨one, quiet, Or.inl (broken_disturb t e broken)⟩)
  · exact Or.inr (Or.inl ⟨one, quiet, Or.inr ended⟩)
  · exact Or.inr (Or.inr refused)

end

/-! ## The process -/

section
variable {groups : TokenInformation} {options : Invocation} {input : StandardInput} {code : Nat}
  {after : Terminal Kernel} {arguments : List Bytes}

end

-- The device is full after the first line: the exit code is 0, and the second line is lost.
example :
    let ended := Dialogue.run (Terminal.answer Kernel.answer) (Terminal.disturb Kernel.disturb)
      (host ⟨.serve, [80], 5000, 1⟩ ⟨[], false⟩ {})
      { machine := { groups := ⟨36, 1, true⟩ }, output := { room := some 8 } } []
    ended.1 = 0 ∧ ended.2.output.flush.good = false ∧
      ended.2.output.flush.delivered = readyLine [80] := by
  decide

end PipeForge.Cli
