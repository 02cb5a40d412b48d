import PipeForge.Cli.Arguments
import PipeForge.Library.Dialogue
import PipeForge.Transport.Native

/-!
# Starting the server

`pipe_server::start` with `server_state::launch`, `stop` and the native calls under them
(server.cpp, native.cpp), as a program of system calls. Destructors are written where they
run: a local handle or memory block is released on every way out of its function, and the
state of a server that could not be launched is stopped before `start` returns.

The kernel knows what is open and which pipe each thread was started with, and refuses calls
as the environment decides. It notices when something is released twice or used after its
release, and when a pipe is closed before its worker has been joined. `start` is all or
nothing.
-/

namespace PipeForge.Server
open Library Transport
open Cli (minimumTimeout maximumTimeout maxSessions)

/-! ## System calls -/

structure TokenInformation where
  size : Nat
  groupCount : Nat
  validSid : Bool

/-- The calls of the host; the last one reads the counter that its workers share. -/
inductive SystemCall where
  | openProcessToken
  | getTokenInformation (token : Nat)
  | convertSidToString
  | convertStringDescriptor
  | createNamedPipe (name : WString) (slots : Nat) (first : Bool) (descriptor : Nat)
  | createThread (pipe : Nat)
  | closeHandle (handle : Nat)
  | localFree (memory : Nat)
  | join (worker : Nat)
  | connections

def SystemCall.Answer : SystemCall → Type
  | .getTokenInformation _ => Except UInt32 TokenInformation
  | .closeHandle _ | .localFree _ | .join _ => Unit
  | .connections => UInt64
  | _ => Except UInt32 Nat

abbrev Launching := Dialogue SystemCall SystemCall.Answer

def openProcessToken : Launching (Except UInt32 Nat) := .question SystemCall.openProcessToken

def getTokenInformation (token : Nat) : Launching (Except UInt32 TokenInformation) :=
  .question (SystemCall.getTokenInformation token)

def convertSidToString : Launching (Except UInt32 Nat) := .question SystemCall.convertSidToString

def convertStringDescriptor : Launching (Except UInt32 Nat) :=
  .question SystemCall.convertStringDescriptor

def createNamedPipe (name : WString) (slots : Nat) (first : Bool) (descriptor : Nat) :
    Launching (Except UInt32 Nat) :=
  .question (SystemCall.createNamedPipe name slots first descriptor)

def createThread (pipe : Nat) : Launching (Except UInt32 Nat) :=
  .question (SystemCall.createThread pipe)

def closeHandle (handle : Nat) : Launching Unit := .question (SystemCall.closeHandle handle)

def localFree (memory : Nat) : Launching Unit := .question (SystemCall.localFree memory)

def join (worker : Nat) : Launching Unit := .question (SystemCall.join worker)

/-- `statistics().connections` -/
def connections : Launching UInt64 := .question SystemCall.connections

/-! ## The program -/

/-- `ERROR_INVALID_SID`. -/
def errorInvalidSid : UInt32 := 1337

/-- `sizeof(TOKEN_GROUPS)`. -/
def tokenGroupsBytes : Nat := 24

/-- With `SECURITY_MAX_SID_SIZE` after it. -/
def storageBytes : Nat := tokenGroupsBytes + 68

/-- `logon_security` while the token is open. -/
def describe (token : Nat) : Launching (Result Nat) := do
  match ← getTokenInformation token with
  | .error code => return .error (ioFailure code)
  | .ok groups =>
    if groups.size < tokenGroupsBytes ∨ groups.size > storageBytes then
      return .error { kind := .accessDenied, nativeError := errorInvalidSid }
    else if groups.groupCount ≠ 1 ∨ groups.validSid = false then
      return .error { kind := .accessDenied, nativeError := errorInvalidSid }
    else
      match ← convertSidToString with
      | .error code => return .error (ioFailure code)
      | .ok sid =>
        let descriptor ← convertStringDescriptor
        localFree sid
        match descriptor with
        | .error code => return .error (ioFailure code)
        | .ok memory => return .ok memory

def logonSecurity : Launching (Result Nat) := do
  match ← openProcessToken with
  | .error code => return .error (ioFailure code)
  | .ok token =>
    let descriptor ← describe token
    closeHandle token
    return descriptor

def createInstance (name : WString) (slots : Nat) (first : Bool) (descriptor : Nat) :
    Launching (Result Nat) := do
  match ← createNamedPipe name slots first descriptor with
  | .error code => return .error (ioFailure code)
  | .ok pipe => return .ok pipe

structure ServerOptions where
  endpoint : WString
  requestTimeout : Nat
  sessions : Nat

/-- `pipes_` and `workers_`. -/
structure Slots where
  pipes : List Nat := []
  workers : List Nat := []

/-- The loop over the slots; it stops at the first instance that cannot be created. -/
def createPipes (options : ServerOptions) (descriptor : Nat) :
    Nat → Nat → List Nat → Launching (Option Failure × List Nat)
  | _, 0, pipes => return (none, pipes)
  | index, left + 1, pipes => do
    match ← createInstance options.endpoint options.sessions (decide (index = 0)) descriptor with
    | .error failure => return (some failure, pipes)
    | .ok pipe => createPipes options descriptor (index + 1) left (pipes ++ [pipe])

def createWorkers : List Nat → List Nat → Launching (Option Failure × List Nat)
  | [], workers => return (none, workers)
  | pipe :: rest, workers => do
    match ← createThread pipe with
    | .error code => return (some { kind := .ioFailure, nativeError := code }, workers)
    | .ok worker => createWorkers rest (workers ++ [worker])

def joinAll : List Nat → Launching Unit
  | [] => return ()
  | worker :: rest => do
    join worker
    joinAll rest

def closeAll : List Nat → Launching Unit
  | [] => return ()
  | pipe :: rest => do
    closeHandle pipe
    closeAll rest

/-- The closure of a worker shares its pipe and drops it at the end of the thread, so the last
share goes with `pipes_`. -/
def Slots.stop (host : Slots) : Launching Slots := do
  joinAll host.workers
  closeAll host.pipes
  return {}

def launch (options : ServerOptions) : Launching (Option Failure × Slots) := do
  match ← logonSecurity with
  | .error failure => return (some failure, {})
  | .ok descriptor =>
    match ← createPipes options descriptor 0 options.sessions [] with
    | (some failure, pipes) =>
      localFree descriptor
      return (some failure, { pipes })
    | (none, pipes) =>
      match ← createWorkers pipes [] with
      | (some failure, workers) =>
        let host ← Slots.stop { pipes, workers }
        localFree descriptor
        return (some failure, host)
      | (none, workers) =>
        localFree descriptor
        return (none, { pipes, workers })

def ServerOptions.valid (options : ServerOptions) : Bool :=
  validEndpoint options.endpoint && decide (options.sessions ≠ 0) &&
    decide (options.sessions ≤ maxSessions) && decide (minimumTimeout ≤ options.requestTimeout) &&
    decide (options.requestTimeout ≤ maximumTimeout)

def start (options : ServerOptions) : Launching (Result Slots) := do
  if options.valid then
    match ← launch options with
    | (some failure, host) =>
      -- `~server_state`
      let _ ← host.stop
      return .error failure
    | (none, host) => return .ok host
  else return .error { kind := .invalidConfiguration }

/-! ## The kernel -/

/-- A thread that was started and not joined yet, and the pipe its worker serves. -/
structure Thread where
  worker : Nat
  pipe : Nat
  deriving DecidableEq

/-- The worker in each place serves the pipe in that place. -/
def Slots.threads (host : Slots) : List Thread := List.zipWith Thread.mk host.workers host.pipes

/-- A pipe instance: its handle, and what it was created with. -/
structure Instance where
  pipe : Nat
  name : WString
  slots : Nat
  first : Bool

structure Kernel where
  handles : List Nat := []
  memory : List Nat := []
  threads : List Thread := []
  /-- The pipe instances created so far. -/
  instances : List Instance := []
  accepted : UInt64 := 0
  next : Nat := 0
  /-- The next call is refused with this code. -/
  verdict : Option UInt32 := none
  groups : TokenInformation
  /-- Something was released twice, used after its release, or released while a worker used it. -/
  misused : Bool := false

inductive Verdict where
  | refuse (code : Option UInt32)
  | report (groups : TokenInformation)
  /-- A worker accepts a connection, if there is one. -/
  | accept

namespace Kernel
variable (k : Kernel)

def disturb : Verdict → Kernel
  | .refuse code => { k with verdict := code }
  | .report groups => { k with groups }
  | .accept => if k.threads.isEmpty then k else { k with accepted := k.accepted + 1 }

def needs (present : Bool) : Kernel := { k with misused := k.misused || !present }

/-- A worker that was not joined may be in a system call with this handle. -/
def serves (handle : Nat) : Bool := k.threads.any fun thread => decide (thread.pipe = handle)

def answer : (call : SystemCall) → call.Answer × Kernel
  | .openProcessToken =>
    match k.verdict with
    | some code => (.error code, k)
    | none => (.ok k.next, { k with handles := k.next :: k.handles, next := k.next + 1 })
  | .getTokenInformation token =>
    match k.verdict with
    | some code => (.error code, k.needs (k.handles.contains token))
    | none => (.ok k.groups, k.needs (k.handles.contains token))
  | .convertSidToString | .convertStringDescriptor =>
    match k.verdict with
    | some code => (.error code, k)
    | none => (.ok k.next, { k with memory := k.next :: k.memory, next := k.next + 1 })
  | .createNamedPipe name slots first descriptor =>
    let k := k.needs (k.memory.contains descriptor)
    match k.verdict with
    | some code => (.error code, k)
    | none =>
      (.ok k.next,
        { k with
          handles := k.next :: k.handles
          instances := k.instances ++ [⟨k.next, name, slots, first⟩]
          next := k.next + 1 })
  | .createThread pipe =>
    let k := k.needs (k.handles.contains pipe)
    match k.verdict with
    | some code => (.error code, k)
    | none => (.ok k.next, { k with threads := ⟨k.next, pipe⟩ :: k.threads, next := k.next + 1 })
  | .closeHandle handle =>
    ((), { k.needs (k.handles.contains handle && !k.serves handle) with
      handles := k.handles.erase handle })
  | .localFree memory =>
    ((), { k.needs (k.memory.contains memory) with memory := k.memory.erase memory })
  | .join worker =>
    ((), { k.needs (k.threads.any fun thread => decide (thread.worker = worker)) with
      threads := k.threads.filter fun thread => decide (thread.worker ≠ worker) })
  | .connections => (k.accepted, k)

/-- The running threads and their pipes have numbers that are not given out again. -/
def Fresh : Prop := ∀ thread ∈ k.threads, thread.worker < k.next ∧ thread.pipe < k.next

end Kernel

/-! ## What is held -/

/-- Different numbers that were given out between two points. -/
structure Issued (first next : Nat) (numbers : List Nat) : Prop where
  distinct : numbers.Nodup
  between : ∀ number ∈ numbers, first ≤ number ∧ number < next

namespace Issued
variable {first next : Nat} {numbers : List Nat}

theorem nil (first next : Nat) : Issued first next [] := ⟨List.nodup_nil, nofun⟩

/-- Numbers that were issued stay issued when the kernel goes on counting. -/
theorem later (issued : Issued first next numbers) : Issued first (next + 1) numbers :=
  ⟨issued.distinct, fun number mem =>
    ⟨(issued.between number mem).1, Nat.lt_succ_of_lt (issued.between number mem).2⟩⟩

/-- The number that is given out next is a new one. -/
theorem cons (issued : Issued first next numbers) (order : first ≤ next) :
    Issued first (next + 1) (next :: numbers) := by
  refine ⟨List.nodup_cons.mpr ⟨fun mem => ?_, issued.distinct⟩, fun number mem => ?_⟩
  · exact Nat.lt_irrefl next (issued.between next mem).2
  · rcases List.mem_cons.mp mem with rfl | mem
    · exact ⟨order, Nat.lt_succ_self number⟩
    · exact issued.later.between number mem

theorem tail {number : Nat} (issued : Issued first next (number :: numbers)) :
    Issued first next numbers :=
  ⟨(List.nodup_cons.mp issued.distinct).2, fun other mem =>
    issued.between other (List.mem_cons_of_mem number mem)⟩

theorem perm {others : List Nat} (issued : Issued first next numbers)
    (same : numbers.Perm others) : Issued first next others :=
  ⟨same.nodup_iff.mp issued.distinct, fun number mem =>
    issued.between number (same.mem_iff.mpr mem)⟩

end Issued

/-- Beyond what was there before, the program holds these handles, blocks and threads,
and it has created these instances. -/
structure Owns (base : Kernel) (handles memory : List Nat) (threads : List Thread)
    (instances : List Instance) (k : Kernel) : Prop where
  newHandles : Issued base.next k.next handles
  newWorkers : Issued base.next k.next (threads.map Thread.worker)
  handles : k.handles.Perm (handles ++ base.handles)
  memory : k.memory.Perm (memory ++ base.memory)
  threads : k.threads.Perm (threads ++ base.threads)
  instances : k.instances = base.instances ++ instances
  proper : k.misused = base.misused
  fresh : base.Fresh
  ahead : base.next ≤ k.next

/-- The system is to blame, not the options. -/
def Native (failure : Failure) : Prop := failure.kind ≠ .invalidConfiguration

theorem Owns.refl {k : Kernel} (fresh : k.Fresh) : Owns k [] [] [] [] k :=
  ⟨.nil _ _, .nil _ _, .refl _, .refl _, .refl _, (List.append_nil _).symm, rfl, fresh,
    Nat.le_refl _⟩

section
variable {base k : Kernel} {handles memory : List Nat} {threads : List Thread}
  {instances : List Instance}

/-- Verdicts change what the kernel will answer, not what is held. -/
theorem Owns.disturb (k : Kernel) (verdict : Verdict)
    (owns : Owns base handles memory threads instances k) :
    Owns base handles memory threads instances (k.disturb verdict) := by
  cases verdict with
  | refuse code => exact { owns with }
  | report groups => exact { owns with }
  | accept =>
    simp only [Kernel.disturb]
    split <;> exact { owns with }

theorem Owns.needs (owns : Owns base handles memory threads instances k) {present : Bool}
    (there : present = true) : Owns base handles memory threads instances (k.needs present) := by
  have proper : (k.needs present).misused = base.misused := by
    rw [Kernel.needs, there, Bool.not_true, Bool.or_false]
    exact owns.proper
  exact { owns with proper }

/-- Giving back one of the things held leaves the others and what was there before. -/
theorem perm_erase {all held before : List Nat} (perm : all.Perm (held ++ before)) {x : Nat}
    (mem : x ∈ held) : (all.erase x).Perm (held.erase x ++ before) := by
  rw [← List.erase_append_left before mem]
  exact perm.erase x

/-- A thread is found by its number, and no other one has it. -/
theorem Owns.joined {thread : Thread}
    (owns : Owns base handles memory (thread :: threads) instances k) :
    (k.threads.filter fun other => decide (other.worker ≠ thread.worker)).Perm
      (threads ++ base.threads) := by
  have others := owns.threads.filter fun other => decide (other.worker ≠ thread.worker)
  have distinct := (List.nodup_cons.mp owns.newWorkers.distinct).1
  have bound := (owns.newWorkers.between thread.worker (List.mem_cons_self ..)).1
  have kept : (threads ++ base.threads).filter
      (fun other => decide (other.worker ≠ thread.worker)) = threads ++ base.threads := by
    refine List.filter_eq_self.mpr fun other mem => decide_eq_true fun same => ?_
    rcases List.mem_append.mp mem with held | before
    · exact distinct (same ▸ List.mem_map_of_mem held)
    · have old := (owns.fresh other before).1
      omega
  rwa [List.cons_append, List.filter_cons_of_neg (by simp), kept] at others

/-! ### One rule for each call -/

end

/-! ## All or nothing -/

/-- Nothing is open and nothing was released twice or used after its release. -/
def Kernel.Clean (k : Kernel) : Prop :=
  k.handles = [] ∧ k.memory = [] ∧ k.threads = [] ∧ k.misused = false

theorem Owns.clean {groups : TokenInformation} {k : Kernel} {instances : List Instance}
    (owns : Owns { groups } [] [] [] instances k) : k.Clean :=
  ⟨owns.handles.eq_nil, owns.memory.eq_nil, owns.threads.eq_nil, owns.proper⟩

-- Closing the pipes under the workers does not go unnoticed.
example :
    (Dialogue.run Kernel.answer Kernel.disturb
      (do
        match ← start ⟨Cli.defaultEndpoint, 5000, 2⟩ with
        | .error _ => return ()
        | .ok host =>
          closeAll host.pipes
          joinAll host.workers)
      { groups := ⟨36, 1, true⟩ } []).2.misused = true := by
  decide

end PipeForge.Server
