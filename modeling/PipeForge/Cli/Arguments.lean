import PipeForge.Transport.Types
import PipeForge.Diagnostics.State

/-!
# Command-line arguments

`parse` of cli/application.cpp: one pass over the arguments with early returns, a set
of the options already supplied, and the checks across options at the end. A rejection
keeps the text written to the error stream and the diagnostic paths assigned so far.
-/

namespace PipeForge.Cli
open Contracts Transport

def defaultEndpoint : WString :=
  pipeRoot ++ (ascii "pipeforge-v1").map UInt8.toUInt16

/-- Intervals are in milliseconds. -/
def defaultTimeout : Nat := 5000

def minimumTimeout : Nat := 10

def maximumTimeout : Nat := 60000

def maxSessions : Nat := 4

inductive ApplicationCommand where
  | help
  | version
  | serve
  | demoSync
  | demoAsync
  | demoMixed
  deriving DecidableEq, Repr

def commands : List (Bytes × ApplicationCommand) :=
  [(ascii "--help", .help), (ascii "--version", .version), (ascii "--serve", .serve),
    (ascii "--demo-sync", .demoSync), (ascii "--demo-async", .demoAsync),
    (ascii "--demo-mixed", .demoMixed)]

/-- The options that take a value. -/
inductive Flag where
  | logFile
  | traceFile
  | endpoint
  | timeoutMs
  | sessions
  deriving DecidableEq, Repr

def flags : List (Bytes × Flag) :=
  [(ascii "--log-file", .logFile), (ascii "--trace-file", .traceFile),
    (ascii "--endpoint", .endpoint), (ascii "--timeout-ms", .timeoutMs),
    (ascii "--sessions", .sessions)]

structure Invocation where
  command : ApplicationCommand := .help
  endpoint : WString := defaultEndpoint
  timeout : Nat := defaultTimeout
  sessions : Nat := maxSessions
  deriving DecidableEq, Repr

structure DiagnosticOptions where
  logFile : Bytes := []
  traceFile : Bytes := []
  traceEventLimit : Nat := Diagnostics.defaultTraceEventLimit
  deriving DecidableEq, Repr

structure Rejection where
  message : String
  diagnostics : DiagnosticOptions
  deriving DecidableEq, Repr

/-! ## Values -/

/-- `assign` from characters to wide characters, where `char` is signed. -/
def widen (c : UInt8) : UInt16 := if c < 0x80 then c.toUInt16 else 0xFF00 ||| c.toUInt16

def dashes : Bytes := ascii "--"

def digit (c : UInt8) : Bool := 0x30 ≤ c && c ≤ 0x39

def decimal (digits : Bytes) : Nat := digits.foldl (fun n c => n * 10 + (c.toNat - 0x30)) 0

inductive Errc where
  | invalidArgument
  | resultOutOfRange
  deriving DecidableEq, Repr

/-- `ec`, what is left from `ptr` on, and the number. -/
structure Conversion where
  ec : Option Errc
  rest : Bytes
  number : Nat
  deriving DecidableEq, Repr

/-- `std::from_chars` to a `std::uint32_t` that is zero before. -/
def fromChars (value : Bytes) : Conversion :=
  let digits := value.takeWhile digit
  if digits = [] then ⟨some .invalidArgument, value, 0⟩
  else if decimal digits < 2 ^ 32 then ⟨none, value.dropWhile digit, decimal digits⟩
  else ⟨some .resultOutOfRange, value.dropWhile digit, 0⟩

/-! ## The loop -/

structure Parsing where
  options : Invocation := {}
  hasCommand : Bool := false
  supplied : Finset Flag := ∅
  diagnostics : DiagnosticOptions

namespace Parsing
variable (p : Parsing)

def reject {α : Type} (message : String) : Except Rejection α := .error ⟨message, p.diagnostics⟩

def takeCommand (command : ApplicationCommand) : Except Rejection Parsing :=
  if p.hasCommand then p.reject "Exactly one command is required.\n"
  else .ok { p with hasCommand := true, options := { p.options with command } }

def takeNumber (flag : Flag) (value : Bytes) : Except Rejection Parsing :=
  let converted := fromChars value
  if converted.ec.isSome ∨ converted.rest ≠ [] then
    p.reject "Numeric options require unsigned decimal integers.\n"
  else if flag = .sessions then
    if converted.number = 0 ∨ converted.number > maxSessions then
      p.reject "Session count is outside the supported bounds.\n"
    else .ok { p with options := { p.options with sessions := converted.number } }
  else if converted.number < minimumTimeout ∨ converted.number > maximumTimeout then
    p.reject "Timeout is outside the supported bounds.\n"
  else .ok { p with options := { p.options with timeout := converted.number } }

def takeValue (flag : Flag) (value : Bytes) : Except Rejection Parsing :=
  match flag with
  | .logFile => .ok { p with diagnostics := { p.diagnostics with logFile := value } }
  | .traceFile => .ok { p with diagnostics := { p.diagnostics with traceFile := value } }
  | .endpoint =>
    let endpoint := value.map widen
    if validEndpoint endpoint then .ok { p with options := { p.options with endpoint } }
    else p.reject "Endpoint must be a bounded local named-pipe name.\n"
  | .timeoutMs => p.takeNumber .timeoutMs value
  | .sessions => p.takeNumber .sessions value

def takeOption (flag : Flag) (value : Bytes) : Except Rejection Parsing :=
  if flag ∈ p.supplied ∨ value = [] ∨ dashes.isPrefixOf value then
    p.reject "Options require one unique value.\n"
  else takeValue { p with supplied := insert flag p.supplied } flag value

end Parsing

def loop (p : Parsing) : List Bytes → Except Rejection Parsing
  | [] => .ok p
  | argument :: remaining =>
    match commands.lookup argument with
    | some command => p.takeCommand command >>= fun p => loop p remaining
    | none =>
      match flags.lookup argument with
      | none => p.reject "Unsupported arguments. Use --help for available options.\n"
      | some flag =>
        match remaining with
        | [] => p.reject "Options require one unique value.\n"
        | value :: remaining => p.takeOption flag value >>= fun p => loop p remaining

def ApplicationCommand.runtime (command : ApplicationCommand) : Bool :=
  command ≠ .help && command ≠ .version

def serverName : Bytes := ascii "pipeforge-server"

/-- What does not go together. -/
def Parsing.misapplied (name : Bytes) (p : Parsing) : Bool :=
  let command := p.options.command
  (!command.runtime &&
    (decide (.endpoint ∈ p.supplied) || decide (.timeoutMs ∈ p.supplied) ||
      decide (.sessions ∈ p.supplied))) ||
    (command.runtime && (decide (command = .serve) != decide (name = serverName))) ||
    (decide (.sessions ∈ p.supplied) && decide (command ≠ .serve))

def parse (name : Bytes) (arguments : List Bytes) (diagnostics : DiagnosticOptions) :
    Except Rejection (Invocation × DiagnosticOptions) :=
  match loop { diagnostics } arguments with
  | .error rejection => .error rejection
  | .ok p =>
    if !p.hasCommand then p.reject "A command is required. Use --help for available options.\n"
    else if p.misapplied name then p.reject "Command/options do not apply to this executable.\n"
    else .ok (p.options, p.diagnostics)

end PipeForge.Cli
