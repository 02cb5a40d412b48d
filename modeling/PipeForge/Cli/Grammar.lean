import PipeForge.Cli.Arguments

/-!
# The grammar of the command line

An argument list is cut into segments, a command or an option with its value. `WellFormed`
says which cuts are command lines, without an order among the segments, and `meaning` reads
the invocation off them. A list has at most one cut, and neither depends on the order of the
segments.
-/

namespace PipeForge.Cli
open Contracts Transport

inductive Segment where
  | command (chosen : ApplicationCommand)
  | option (flag : Flag) (value : Bytes)
  deriving DecidableEq, Repr

def ApplicationCommand.text : ApplicationCommand → Bytes
  | .help => ascii "--help"
  | .version => ascii "--version"
  | .serve => ascii "--serve"
  | .demoSync => ascii "--demo-sync"
  | .demoAsync => ascii "--demo-async"
  | .demoMixed => ascii "--demo-mixed"

def Flag.text : Flag → Bytes
  | .logFile => ascii "--log-file"
  | .traceFile => ascii "--trace-file"
  | .endpoint => ascii "--endpoint"
  | .timeoutMs => ascii "--timeout-ms"
  | .sessions => ascii "--sessions"

def Segment.tokens : Segment → List Bytes
  | .command chosen => [chosen.text]
  | .option flag value => [flag.text, value]

def tokens (segments : List Segment) : List Bytes := segments.flatMap Segment.tokens

@[simp] def Segment.commandOf : Segment → Option ApplicationCommand
  | .command chosen => some chosen
  | .option _ _ => none

@[simp] def Segment.flagOf : Segment → Option Flag
  | .command _ => none
  | .option flag _ => some flag

@[simp] def Segment.valueOf (flag : Flag) : Segment → Option Bytes
  | .command _ => none
  | .option other value => if other = flag then some value else none

def commandsOf (segments : List Segment) : List ApplicationCommand :=
  segments.filterMap Segment.commandOf

def flagsOf (segments : List Segment) : List Flag := segments.filterMap Segment.flagOf

def valuesOf (flag : Flag) (segments : List Segment) : List Bytes :=
  segments.filterMap (Segment.valueOf flag)

/-- A decimal numeral between two bounds. -/
def NumeralIn (low high : Nat) (value : Bytes) : Prop :=
  value ≠ [] ∧ value.all digit = true ∧ low ≤ decimal value ∧ decimal value ≤ high

/-- What an option asks of its value. -/
def Flag.Fits (value : Bytes) : Flag → Prop
  | .logFile => True
  | .traceFile => True
  | .endpoint => validEndpoint (value.map widen) = true
  | .timeoutMs => NumeralIn minimumTimeout maximumTimeout value
  | .sessions => NumeralIn 1 maxSessions value

def Flag.Accepts (flag : Flag) (value : Bytes) : Prop :=
  value ≠ [] ∧ dashes.isPrefixOf value = false ∧ flag.Fits value

structure WellFormed (name : Bytes) (command : ApplicationCommand) (segments : List Segment) :
    Prop where
  one : commandsOf segments = [command]
  distinct : (flagsOf segments).Nodup
  values : ∀ flag value, .option flag value ∈ segments → flag.Accepts value
  executable : command.runtime = true → (command = .serve ↔ name = serverName)
  runtimeOnly : .endpoint ∈ flagsOf segments ∨ .timeoutMs ∈ flagsOf segments →
    command.runtime = true
  serveOnly : .sessions ∈ flagsOf segments → command = .serve

/-- What the segments say. An option that is not there keeps its default. -/
def meaning (command : ApplicationCommand) (segments : List Segment)
    (diagnostics : DiagnosticOptions) : Invocation × DiagnosticOptions :=
  let given (flag : Flag) := (valuesOf flag segments).getLast?
  ({ command
     endpoint := (given .endpoint).elim defaultEndpoint (·.map widen)
     timeout := (given .timeoutMs).elim defaultTimeout decimal
     sessions := (given .sessions).elim maxSessions decimal },
    { diagnostics with
      logFile := (given .logFile).getD diagnostics.logFile
      traceFile := (given .traceFile).getD diagnostics.traceFile })

/-! ## Tokens -/

/-- A table that lists each entry under its own text is searched by that text. -/
theorem lookup_iff {α : Type} {table : List (Bytes × α)} {text : α → Bytes}
    (named : ∀ entry ∈ table, entry.1 = text entry.2)
    (found : ∀ a, table.lookup (text a) = some a) {token : Bytes} {a : α} :
    table.lookup token = some a ↔ token = text a := by
  constructor
  · intro given
    obtain ⟨front, back, split, -⟩ := List.lookup_eq_some_iff.mp given
    exact named (token, a) (by simp [split])
  · intro same
    rw [same]
    exact found a

theorem lookup_command {token : Bytes} {command : ApplicationCommand} :
    commands.lookup token = some command ↔ token = command.text := by
  refine lookup_iff (by decide) ?_
  intro command
  cases command <;> decide

theorem lookup_flag {token : Bytes} {flag : Flag} :
    flags.lookup token = some flag ↔ token = flag.text := by
  refine lookup_iff (by decide) ?_
  intro flag
  cases flag <;> decide

theorem flag_not_command (flag : Flag) : commands.lookup flag.text = none := by
  cases flag <;> decide

/-- Tokens are read in one way only. -/
theorem tokens_injective {segments other : List Segment} (same : tokens segments = tokens other) :
    segments = other := by
  induction segments generalizing other with
  | nil =>
    cases other with
    | nil => rfl
    | cons first rest => cases first <;> cases same
  | cons segment segments ih =>
    cases other with
    | nil => cases segment <;> cases same
    | cons first rest =>
      cases segment with
      | command command =>
        cases first with
        | command other =>
          obtain ⟨token, later⟩ := List.cons.inj same
          have known := lookup_command.mpr token
          rw [lookup_command.mpr rfl] at known
          rw [Option.some.inj known, ih later]
        | option flag value =>
          obtain ⟨token, -⟩ := List.cons.inj same
          have known := lookup_command.mpr token.symm
          rw [flag_not_command] at known
          cases known
      | option flag value =>
        cases first with
        | command other =>
          obtain ⟨token, -⟩ := List.cons.inj same
          have known := lookup_command.mpr token
          rw [flag_not_command] at known
          cases known
        | option other value' =>
          obtain ⟨token, later⟩ := List.cons.inj same
          obtain ⟨rfl, rest⟩ := List.cons.inj later
          have known := lookup_flag.mpr token
          rw [lookup_flag.mpr rfl] at known
          rw [Option.some.inj known, ih rest]

/-! ## Order -/

/-- The order of arguments does not matter for being accepted. -/
theorem WellFormed.perm {name : Bytes} {command : ApplicationCommand}
    {segments other : List Segment} (same : other.Perm segments)
    (wellFormed : WellFormed name command segments) : WellFormed name command other := by
  have flags : (flagsOf other).Perm (flagsOf segments) := same.filterMap _
  have commands : (commandsOf other).Perm (commandsOf segments) := same.filterMap _
  obtain ⟨one, distinct, values, executable, runtimeOnly, serveOnly⟩ := wellFormed
  constructor
  · rw [one] at commands
    exact List.perm_singleton.mp commands
  · exact flags.nodup_iff.mpr distinct
  · intro flag value member
    exact values flag value (same.mem_iff.mp member)
  · exact executable
  · rw [flags.mem_iff, flags.mem_iff]
    exact runtimeOnly
  · rw [flags.mem_iff]
    exact serveOnly

theorem length_valuesOf (flag : Flag) (segments : List Segment) :
    (valuesOf flag segments).length = (flagsOf segments).count flag := by
  induction segments with
  | nil => rfl
  | cons segment segments ih =>
    unfold valuesOf flagsOf at ih ⊢
    cases segment with
    | command chosen => exact ih
    | option other value =>
      by_cases mine : other = flag
      · simp [mine, ih]
      · simp [mine, ih]

/-- An option that comes at most once has the same value in every order. -/
theorem valuesOf_perm {segments other : List Segment} (same : other.Perm segments)
    (distinct : (flagsOf segments).Nodup) (flag : Flag) :
    valuesOf flag other = valuesOf flag segments := by
  have values : (valuesOf flag other).Perm (valuesOf flag segments) := same.filterMap _
  have few : (valuesOf flag segments).length ≤ 1 := by
    rw [length_valuesOf]
    exact List.nodup_iff_count_le_one.mp distinct flag
  cases found : valuesOf flag segments with
  | nil =>
    rw [found] at values
    exact List.perm_nil.mp values
  | cons value more =>
    rw [found] at values few
    have last : more = [] := List.length_eq_zero_iff.mp (by simpa using few)
    rw [last] at values ⊢
    exact List.perm_singleton.mp values

theorem meaning_perm {segments other : List Segment} (same : other.Perm segments)
    (distinct : (flagsOf segments).Nodup) (command : ApplicationCommand)
    (diagnostics : DiagnosticOptions) :
    meaning command other diagnostics = meaning command segments diagnostics := by
  simp only [meaning, valuesOf_perm same distinct]

end PipeForge.Cli
