import PipeForge.Transport.Types

/-!
# Native failures and waits

The helpers that every native call shares (transport/windows/native.cpp): the mapping
of Win32 codes to failures, the checks before a call, and the milliseconds that are left
of a deadline. A tick of the clock is a nanosecond.
-/

namespace PipeForge.Transport

def errorSuccess : UInt32 := 0
def errorFileNotFound : UInt32 := 2
def errorAccessDenied : UInt32 := 5
def errorBrokenPipe : UInt32 := 109
def errorSemTimeout : UInt32 := 121
def errorPipeBusy : UInt32 := 231
def errorNoData : UInt32 := 232
def errorPipeNotConnected : UInt32 := 233
def errorPipeConnected : UInt32 := 535
def errorOperationAborted : UInt32 := 995
def errorIoIncomplete : UInt32 := 996
def errorIoPending : UInt32 := 997

def ioFailure (code : UInt32) : Failure :=
  if code = errorBrokenPipe ∨ code = errorPipeNotConnected ∨ code = errorNoData then
    { kind := .disconnected, nativeError := code }
  else if code = errorAccessDenied then { kind := .accessDenied, nativeError := code }
  else if code = errorOperationAborted then { kind := .cancelled, nativeError := code }
  else { kind := .ioFailure, nativeError := code }

/-- A stop is reported before an expired deadline. -/
def preflight (stopping : Bool) (now deadline : Time) : Option Failure :=
  if stopping then some { kind := .cancelled }
  else if deadline ≤ now then some { kind := .timeout }
  else none

/-- `deadline::max()`, which never expires. -/
def deadlineMax : Time := 2 ^ 63 - 1

def ticksPerMillisecond : Nat := 1000000

/-- `INFINITE`. -/
def infinite : UInt32 := 0xFFFFFFFF

def largestWait : Nat := 0xFFFFFFFE

/-- The whole milliseconds that cover what is left of a deadline. -/
def remaining (deadline now : Time) : UInt32 :=
  if deadline = deadlineMax then infinite
  else
    let milliseconds := (deadline - now + (ticksPerMillisecond - 1)) / ticksPerMillisecond
    if milliseconds = 0 then 0 else UInt32.ofNat (min milliseconds largestWait)

/-- When a wait of so many milliseconds may end by itself. -/
def expiry (milliseconds : UInt32) (now : Time) : Option Time :=
  if milliseconds = infinite then none
  else some (now + milliseconds.toNat * ticksPerMillisecond)

section
variable (code : UInt32)

theorem ioFailure_nativeError : (ioFailure code).nativeError = code := by
  unfold ioFailure
  repeat' split
  all_goals rfl

theorem ioFailure_framing : (ioFailure code).framing = none := by
  unfold ioFailure
  repeat' split
  all_goals rfl

/-- Only an aborted operation is reported as cancelled. -/
theorem ioFailure_cancelled (cancelled : (ioFailure code).kind = .cancelled) :
    code = errorOperationAborted := by
  unfold ioFailure at cancelled
  split at cancelled
  · cases cancelled
  · split at cancelled
    · cases cancelled
    · split at cancelled
      · assumption
      · cases cancelled

/-- A code never turns into a failure of the configuration, the clock or the protocol. -/
theorem ioFailure_kind : (ioFailure code).kind ∈
    [FailureKind.disconnected, .accessDenied, .cancelled, .ioFailure] := by
  unfold ioFailure
  repeat' split
  all_goals simp

end

/-- A stop is reported before a deadline, and each only where it has happened. -/
theorem preflight_kind {stopping : Bool} {now deadline : Time} {error : Failure}
    (refused : error ∈ preflight stopping now deadline) :
    (error = { kind := .cancelled } ∧ stopping = true) ∨
      (error = { kind := .timeout } ∧ stopping = false ∧ deadline ≤ now) := by
  unfold preflight at refused
  split at refused
  · cases refused
    exact Or.inl ⟨rfl, ‹_›⟩
  · split at refused
    · cases refused
      exact Or.inr ⟨rfl, Bool.eq_false_iff.mpr ‹_›, ‹_›⟩
    · cases refused

/-- Past the check there is time left and nobody has asked to stop. -/
theorem preflight_passed {stopping : Bool} {now deadline : Time}
    (passed : preflight stopping now deadline = none) : stopping = false ∧ now < deadline := by
  unfold preflight at passed
  split at passed
  · cases passed
  · rename_i alive
    split at passed
    · cases passed
    · rename_i timely
      exact ⟨Bool.eq_false_iff.mpr alive, Nat.lt_of_not_le timely⟩

/-- The wait in milliseconds is rounded up, so it does not end before the deadline, and it is cut
at the longest finite wait. -/
theorem remaining_toNat {deadline now : Time} (ends : deadline ≠ deadlineMax) :
    (remaining deadline now).toNat =
      min ((deadline - now + (ticksPerMillisecond - 1)) / ticksPerMillisecond) largestWait := by
  simp only [remaining, ends, if_false]
  split
  · rename_i none
    rw [none]
    rfl
  · have small : min ((deadline - now + (ticksPerMillisecond - 1)) / ticksPerMillisecond)
        largestWait < 2 ^ 32 := Nat.lt_of_le_of_lt (Nat.min_le_right _ _) (by decide)
    exact UInt32.toNat_ofNat_of_lt small

/-- Rounding up covers the rest, unless it is cut at the longest wait. -/
theorem rounded_covers (rest : Nat) :
    rest ≤ min ((rest + (ticksPerMillisecond - 1)) / ticksPerMillisecond) largestWait *
        ticksPerMillisecond ∨
      largestWait ≤ min ((rest + (ticksPerMillisecond - 1)) / ticksPerMillisecond) largestWait := by
  simp only [ticksPerMillisecond, largestWait]
  omega

/-- A wait for the rest of a deadline does not end before it, unless the rest is longer
than any finite wait. -/
theorem expiry_remaining {deadline now at_ : Time}
    (expires : expiry (remaining deadline now) now = some at_) :
    deadline ≠ deadlineMax ∧
      (deadline ≤ at_ ∨ now + largestWait * ticksPerMillisecond ≤ at_) := by
  unfold expiry at expires
  split at expires
  · cases expires
  · rename_i finite
    cases expires
    have ends : deadline ≠ deadlineMax := by
      intro never
      apply finite
      simp [remaining, never]
    refine ⟨ends, ?_⟩
    rw [remaining_toNat ends]
    rcases rounded_covers (deadline - now) with whole | cut
    · left
      calc deadline ≤ now + (deadline - now) := le_add_tsub
        _ ≤ _ := Nat.add_le_add_left whole now
    · right
      exact Nat.add_le_add_left (Nat.mul_le_mul_right _ cut) now

end PipeForge.Transport
