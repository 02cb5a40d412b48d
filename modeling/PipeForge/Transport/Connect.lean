import PipeForge.Library.Progress
import PipeForge.Transport.Native

/-!
# Connecting to a pipe

The retry loop of `pipe_stream::connect` (transport/windows/stream.cpp) against any
answers of the kernel. A server that is busy is waited for in slices, a server that is
not there yet is asked again after a pause that a stop can end. The events are the
attempts to open the pipe with their times, what the kernel said of the server, and the
lengths of the waits handed to the kernel, for which zero would mean the server's default
and not a poll. The kernel may end a pause at any time; `truePause` states what is
documented of it.
-/

namespace PipeForge.Transport
open Library

def retryMilliseconds : UInt32 := 50

/-- How long `WaitNamedPipeW` may wait: the rest of the deadline, cut into slices. -/
def retrySlice (deadline now : Time) : UInt32 :=
  if retryMilliseconds < remaining deadline now then retryMilliseconds else remaining deadline now

inductive ConnectPoint where
  | entered
  /-- At the head of the loop. -/
  | checking
  | opening
  /-- In `WaitNamedPipeW`. -/
  | probing (slice : UInt32)
  /-- In `WaitForSingleObject` on the event of the stop callback. -/
  | backing (limit : Time)
  | returned (result : Result Unit)

structure Connecting where
  now : Time
  stopping : Bool := false
  point : ConnectPoint := .entered

inductive BackOff where
  | signalled
  | timedOut
  | failed (code : UInt32)

def BackOff.isFailure : BackOff → Bool
  | .failed _ => true
  | _ => false

inductive ConnectAction where
  | tick (elapsed : Nat)
  | requestStop
  /-- `CreateEventW` before the loop. -/
  | begin (error : Option UInt32)
  | check
  /-- `CreateFileW` has a handle or an error. -/
  | opened (error : Option UInt32)
  | probed (error : Option UInt32)
  | backedOff (outcome : BackOff)

inductive ConnectEvent where
  /-- `CreateFileW` is called. -/
  | attempted (now : Time)
  /-- `WaitNamedPipeW` has answered. -/
  | probed (error : Option UInt32)
  /-- A wait of this length is handed to the kernel. -/
  | waited (milliseconds : UInt32)
  deriving DecidableEq

namespace Connecting
variable (endpoint : WString) (deadline : Time) (c : Connecting)

def fail (error : Failure) : Connecting := { c with point := .returned (.error error) }

def begin (error : Option UInt32) : Connecting :=
  match c.point with
  | .entered =>
    if !validEndpoint endpoint then c.fail { kind := .invalidConfiguration }
    else
      match preflight c.stopping c.now deadline with
      | some refused => c.fail refused
      | none =>
        match error with
        | some code => c.fail (ioFailure code)
        | none => { c with point := .checking }
  | _ => c

def check : Connecting × List ConnectEvent :=
  match c.point with
  | .checking =>
    match preflight c.stopping c.now deadline with
    | some refused => (c.fail refused, [])
    | none => ({ c with point := .opening }, [.attempted c.now])
  | _ => (c, [])

def opened (error : Option UInt32) : Connecting × List ConnectEvent :=
  match c.point with
  | .opening =>
    match error with
    | none => ({ c with point := .returned (.ok ()) }, [])
    | some code =>
      if code ≠ errorPipeBusy ∧ code ≠ errorFileNotFound then (c.fail (ioFailure code), [])
      else
        let slice := retrySlice deadline c.now
        if slice = 0 then (c.fail { kind := .timeout }, [])
        else ({ c with point := .probing slice }, [.waited slice])
  | _ => (c, [])

def probed (error : Option UInt32) : Connecting × List ConnectEvent :=
  match c.point with
  | .probing slice =>
    match error with
    | none => ({ c with point := .checking }, [.probed none])
    | some code =>
      if code ≠ errorFileNotFound ∧ code ≠ errorSemTimeout ∧ code ≠ errorPipeBusy then
        (c.fail (ioFailure code), [.probed (some code)])
      else if code = errorFileNotFound then
        ({ c with point := .backing (c.now + slice.toNat * ticksPerMillisecond) },
          [.probed (some code), .waited slice])
      else ({ c with point := .checking }, [.probed (some code)])
  | _ => (c, [])

def backedOff (outcome : BackOff) : Connecting :=
  match c.point, outcome with
  | .backing _, .failed code => c.fail (ioFailure code)
  | .backing _, _ => { c with point := .checking }
  | _, _ => c

def step : ConnectAction → Connecting × List ConnectEvent
  | .tick elapsed => ({ c with now := c.now + elapsed }, [])
  | .requestStop => ({ c with stopping := true }, [])
  | .begin error => (c.begin endpoint deadline error, [])
  | .check => c.check deadline
  | .opened error => c.opened deadline error
  | .probed error => c.probed error
  | .backedOff outcome => (c.backedOff outcome, [])

/-- `WaitForSingleObject` as documented: it does not time out before its limit, and reports
the event only when the stop callback has set it. -/
def truePause : ConnectAction → Bool
  | .backedOff outcome =>
    match c.point, outcome with
    | .backing limit, .timedOut => decide (limit ≤ c.now)
    | .backing _, .signalled => c.stopping
    | _, _ => true
  | _ => true

def run (start : Time) (stopping : Bool) (actions : List ConnectAction) :
    Connecting × List ConnectEvent :=
  Transition.run (step endpoint deadline) { now := start, stopping } actions

end Connecting

/-- Every pause of the run was as documented. -/
def Connecting.TruePauses (endpoint : WString) (deadline start : Time) (stopping : Bool)
    (actions : List ConnectAction) : Prop :=
  Transition.along (step endpoint deadline) truePause { now := start, stopping } actions = true

/-! ## Pacing -/

def retryTicks : Nat := retryMilliseconds.toNat * ticksPerMillisecond

/-- The time of the latest attempt and what has happened since. -/
def latest (past : List ConnectEvent) : Option (Time × List ConnectEvent) :=
  past.foldl
    (fun found event =>
      match event with
      | .attempted now => some (now, [])
      | other => found.map fun round => (round.1, round.2 ++ [other]))
    none

/-- What may happen next: a wait is a slice, never zero; an attempt is made again after the
server was probed, and if it was found missing, a whole pause after the one before. -/
def Paced (trusted : Prop) (past : List ConnectEvent) : ConnectEvent → Prop
  | .waited milliseconds => 1 ≤ milliseconds ∧ milliseconds ≤ retryMilliseconds
  | .probed _ => True
  | .attempted now => ∀ last since, latest past = some (last, since) →
      (∃ error, .probed error ∈ since) ∧
        (trusted → .probed (some errorFileNotFound) ∈ since → last + retryTicks ≤ now)

section
variable (past : List ConnectEvent)

@[simp] theorem latest_attempted (now : Time) :
    latest (past ++ [.attempted now]) = some (now, []) := by
  simp [latest, List.foldl_append]

@[simp] theorem latest_probed (error : Option UInt32) :
    latest (past ++ [.probed error]) =
      (latest past).map fun round => (round.1, round.2 ++ [.probed error]) := by
  simp [latest, List.foldl_append]

@[simp] theorem latest_waited (milliseconds : UInt32) :
    latest (past ++ [.waited milliseconds]) =
      (latest past).map fun round => (round.1, round.2 ++ [.waited milliseconds]) := by
  simp [latest, List.foldl_append]

end

/-- The wait for a server is never longer than one retry slice. -/
theorem retrySlice_le (deadline now : Time) : retrySlice deadline now ≤ retryMilliseconds := by
  unfold retrySlice
  split
  · exact UInt32.le_refl _
  · rename_i short
    exact UInt32.not_lt.mp short

/-- A slice is a whole one, or covers the rest of the deadline. -/
theorem retrySlice_covers (deadline now : Time) :
    retrySlice deadline now = retryMilliseconds ∨
      deadline ≤ now + (retrySlice deadline now).toNat * ticksPerMillisecond := by
  unfold retrySlice
  split
  · exact Or.inl rfl
  · rename_i short
    right
    have small := UInt32.le_iff_toNat_le.mp (UInt32.not_lt.mp short)
    have finite : remaining deadline now ≠ infinite := by
      intro never
      rw [never] at small
      exact absurd small (by decide)
    have expires : expiry (remaining deadline now) now =
        some (now + (remaining deadline now).toNat * ticksPerMillisecond) := if_neg finite
    rcases (expiry_remaining expires).2 with covered | longest
    · exact covered
    · -- The longest wait is longer than a slice.
      have less : largestWait ≤ (remaining deadline now).toNat :=
        Nat.le_of_mul_le_mul_right (Nat.le_of_add_le_add_left longest) (by decide)
      exact absurd (less.trans small) (by decide)

/-- An empty slice means that the deadline has passed. -/
theorem retrySlice_zero {deadline now : Time} (none : retrySlice deadline now = 0) :
    deadline ≤ now := by
  rcases retrySlice_covers deadline now with whole | covered
  · rw [none] at whole
    cases whole
  · rw [none] at covered
    simpa using covered

namespace Connecting

/-- How the latest attempt and the clock stand to each other at a point. -/
def PointPaced (trusted : Prop) (deadline : Time) (c : Connecting) :
    Option (Time × List ConnectEvent) → Prop
  | none =>
    match c.point with
    | .entered | .checking | .returned _ => True
    | _ => False
  | some (last, since) =>
    match c.point with
    | .entered => False
    | .checking => (∃ error, .probed error ∈ since) ∧
      (trusted → .probed (some errorFileNotFound) ∈ since →
        last + retryTicks ≤ c.now ∨ deadline ≤ c.now ∨ c.stopping = true)
    | .opening => last ≤ c.now ∧ ∀ error, .probed error ∉ since
    | .probing slice => last ≤ c.now ∧ (∀ error, .probed error ∉ since) ∧
      1 ≤ slice ∧ slice ≤ retryMilliseconds ∧
      (slice = retryMilliseconds ∨ deadline ≤ c.now + slice.toNat * ticksPerMillisecond)
    | .backing limit => (∃ error, .probed error ∈ since) ∧
      (last + retryTicks ≤ limit ∨ deadline ≤ limit)
    | .returned _ => True

structure Pacing (trusted : Prop) (deadline : Time) (c : Connecting) (past : List ConnectEvent) :
    Prop where
  admissible : Transition.Admissible (Paced trusted) past
  point : PointPaced trusted deadline c (latest past)

namespace Pacing
variable {trusted : Prop} {endpoint : WString} {deadline : Time} {c : Connecting}
  {past : List ConnectEvent}

/-- Before its first attempt `connect` has nothing to pace. -/
theorem initial (start : Time) (stopping : Bool) :
    Pacing trusted deadline { now := start, stopping } [] :=
  ⟨.nil, trivial⟩

/-- The clock goes on and a stop may come. -/
theorem later (pacing : Pacing trusted deadline c past) (elapsed : Nat) {stopping : Bool}
    (stays : c.stopping = true → stopping = true) :
    Pacing trusted deadline { c with now := c.now + elapsed, stopping } past := by
  refine ⟨pacing.admissible, ?_⟩
  have point := pacing.point
  have on : c.now ≤ c.now + elapsed := Nat.le_add_right _ _
  cases round : latest past with
  | none => simpa only [round, PointPaced] using point
  | some found =>
    obtain ⟨last, since⟩ := found
    cases here : c.point with
    | entered => simp only [round, PointPaced, here] at point
    | checking =>
      simp only [round, PointPaced, here] at point ⊢
      exact ⟨point.1, fun yes missing => (point.2 yes missing).imp on.trans' (Or.imp on.trans' stays)⟩
    | opening =>
      simp only [round, PointPaced, here] at point ⊢
      exact ⟨on.trans' point.1, point.2⟩
    | probing slice =>
      simp only [round, PointPaced, here] at point ⊢
      obtain ⟨before, fresh, some, short, covers⟩ := point
      exact ⟨on.trans' before, fresh, some, short,
        covers.imp_right (Nat.add_le_add_right on _).trans'⟩
    | backing limit =>
      simp only [round, PointPaced, here] at point ⊢
      exact point
    | returned result => trivial

/-- `connect` has its result. -/
theorem fail (pacing : Pacing trusted deadline c past) (error : Failure) :
    Pacing trusted deadline (c.fail error) past := by
  refine ⟨pacing.admissible, ?_⟩
  cases latest past <;> trivial

/-- Checking the endpoint and setting up the stop event come before any attempt. -/
theorem begin (pacing : Pacing trusted deadline c past) (error : Option UInt32) :
    Pacing trusted deadline (c.begin endpoint deadline error) past := by
  unfold Connecting.begin
  split
  · rename_i here
    split
    · exact pacing.fail _
    · split
      · exact pacing.fail _
      · split
        · exact pacing.fail _
        · refine ⟨pacing.admissible, ?_⟩
          have point := pacing.point
          cases round : latest past with
          | none => trivial
          | some found => simp only [round, PointPaced, here] at point
  · exact pacing

/-- A check that passes finds neither a stop nor the deadline, so the pause is over. -/
theorem check (pacing : Pacing trusted deadline c past) :
    Pacing trusted deadline (c.check deadline).1 (past ++ (c.check deadline).2) := by
  unfold Connecting.check
  split
  · rename_i here
    split
    · rw [List.append_nil]
      exact pacing.fail _
    · rename_i passed
      obtain ⟨alive, timely⟩ := preflight_passed passed
      refine ⟨pacing.admissible.snoc ?_, ?_⟩
      · intro last since round
        have point := pacing.point
        simp only [round, PointPaced, here] at point
        refine ⟨point.1, fun yes missing => ?_⟩
        rcases point.2 yes missing with paused | late | stopped
        · exact paused
        · exact absurd late (Nat.not_le.mpr timely)
        · cases alive.symm.trans stopped
      · simp [PointPaced]
  · rw [List.append_nil]
    exact pacing

/-- In `CreateFileW` and behind it there has been an attempt. -/
theorem round (pacing : Pacing trusted deadline c past)
    (inside : c.point = .opening ∨ ∃ slice, c.point = .probing slice) :
    ∃ last since, latest past = some (last, since) := by
  have point := pacing.point
  cases round : latest past with
  | some found => exact ⟨found.1, found.2, rfl⟩
  | none =>
    rcases inside with here | ⟨slice, here⟩ <;> simp only [round, PointPaced, here] at point

/-- An attempt worth repeating is followed by one question to the kernel, bounded by the slice.
-/
theorem opened (pacing : Pacing trusted deadline c past) (error : Option UInt32) :
    Pacing trusted deadline (c.opened deadline error).1 (past ++ (c.opened deadline error).2) := by
  have ends : ∀ point : ConnectPoint, (∃ result, point = .returned result) →
      Pacing trusted deadline { c with point } (past ++ []) := by
    rintro _ ⟨result, rfl⟩
    rw [List.append_nil]
    refine ⟨pacing.admissible, ?_⟩
    cases latest past <;> trivial
  cases here : c.point with
  | opening =>
    simp only [Connecting.opened, here]
    split
    · exact ends _ ⟨_, rfl⟩
    · split
      · exact ends _ ⟨_, rfl⟩
      · split
        · exact ends _ ⟨_, rfl⟩
        · rename_i some
          have positive : 1 ≤ retrySlice deadline c.now := by
            rw [UInt32.le_iff_toNat_le]
            exact Nat.one_le_iff_ne_zero.mpr fun zero => some (UInt32.toNat_inj.mp zero)
          have short := retrySlice_le deadline c.now
          refine ⟨pacing.admissible.snoc ⟨positive, short⟩, ?_⟩
          obtain ⟨last, since, round⟩ := pacing.round (Or.inl here)
          have point := pacing.point
          simp only [round, PointPaced, here] at point
          simp only [latest_waited, round, Option.map_some, PointPaced]
          refine ⟨point.1, fun error probed => ?_, positive, short,
            retrySlice_covers deadline c.now⟩
          exact point.2 error (by simpa using probed)
  | _ => simpa [Connecting.opened, here] using pacing

/-- Where the pause for a missing server ends. -/
theorem pause_ends {last now : Time} {slice : UInt32} (before : last ≤ now)
    (covers : slice = retryMilliseconds ∨ deadline ≤ now + slice.toNat * ticksPerMillisecond) :
    last + retryTicks ≤ now + slice.toNat * ticksPerMillisecond ∨
      deadline ≤ now + slice.toNat * ticksPerMillisecond := by
  rcases covers with rfl | covered
  · exact Or.inl (Nat.add_le_add_right before _)
  · exact Or.inr covered

/-- If the server was missing, the answer sends the loop into a pause; otherwise it tries again
at once. -/
theorem probed (pacing : Pacing trusted deadline c past) (error : Option UInt32) :
    Pacing trusted deadline (c.probed error).1 (past ++ (c.probed error).2) := by
  cases here : c.point with
  | probing slice =>
    obtain ⟨last, since, round⟩ := pacing.round (Or.inr ⟨slice, here⟩)
    have point := pacing.point
    simp only [round, PointPaced, here] at point
    obtain ⟨before, fresh, positive, short, covers⟩ := point
    have answered : Transition.Admissible (Paced trusted) (past ++ [.probed error]) :=
      pacing.admissible.snoc trivial
    -- The one answer of this round is the one that has just come.
    have only : .probed (some errorFileNotFound) ∈ since ++ [.probed error] →
        error = some errorFileNotFound := by
      intro member
      rcases List.mem_append.mp member with earlier | now
      · exact absurd earlier (fresh _)
      · simpa using (List.mem_singleton.mp now).symm
    have again : error ≠ some errorFileNotFound →
        Pacing trusted deadline { c with point := .checking } (past ++ [.probed error]) := by
      intro other
      refine ⟨answered, ?_⟩
      simp only [latest_probed, round, Option.map_some, PointPaced]
      exact ⟨⟨error, List.mem_append_right _ (List.mem_singleton.mpr rfl)⟩,
        fun _ missing => absurd (only missing) other⟩
    cases error with
    | none =>
      simp only [Connecting.probed, here]
      exact again nofun
    | some code =>
      simp only [Connecting.probed, here]
      split
      · refine ⟨answered, ?_⟩
        cases latest (past ++ [.probed (some code)]) <;> trivial
      · split
        · rw [← List.singleton_append, ← List.append_assoc]
          have slept : Paced trusted (past ++ [.probed (some code)]) (.waited slice) :=
            ⟨positive, short⟩
          refine ⟨answered.snoc slept, ?_⟩
          simp only [latest_waited, latest_probed, round, Option.map_some, PointPaced]
          exact ⟨⟨some code, by simp⟩, pause_ends before covers⟩
        · rename_i other
          exact again fun missing => other (Option.some.inj missing)
  | _ => simpa [Connecting.probed, here] using pacing

/-- A pause that was as documented is over only after a whole slice, or at the deadline. -/
theorem backedOff (pacing : Pacing trusted deadline c past) (outcome : BackOff)
    (documented : trusted → c.truePause (.backedOff outcome) = true) :
    Pacing trusted deadline (c.backedOff outcome) past := by
  cases here : c.point with
  | backing limit =>
    have point := pacing.point
    have over_ : outcome.isFailure = false →
        Pacing trusted deadline { c with point := .checking } past := by
      intro ended
      refine ⟨pacing.admissible, ?_⟩
      cases round : latest past with
      | none => trivial
      | some found =>
        obtain ⟨last, since⟩ := found
        simp only [round, PointPaced, here] at point ⊢
        refine ⟨point.1, fun yes _ => ?_⟩
        have pause := documented yes
        cases outcome with
        | failed code => cases ended
        | signalled =>
          simp only [truePause, here] at pause
          exact Or.inr (Or.inr pause)
        | timedOut =>
          simp only [truePause, here, decide_eq_true_eq] at pause
          exact point.2.imp pause.trans' fun late => Or.inl (late.trans pause)
    cases outcome with
    | failed code =>
      simp only [Connecting.backedOff, here]
      exact pacing.fail _
    | signalled =>
      simp only [Connecting.backedOff, here]
      exact over_ rfl
    | timedOut =>
      simp only [Connecting.backedOff, here]
      exact over_ rfl
  | _ => simpa [Connecting.backedOff, here] using pacing

/-- Each step respects the pacing, if its wait was as documented. -/
theorem step (pacing : Pacing trusted deadline c past) (action : ConnectAction)
    (documented : trusted → c.truePause action = true) :
    Pacing trusted deadline (c.step endpoint deadline action).1
      (past ++ (c.step endpoint deadline action).2) := by
  cases action with
  | tick elapsed =>
    rw [Connecting.step, List.append_nil]
    exact pacing.later elapsed id
  | requestStop =>
    rw [Connecting.step, List.append_nil]
    exact pacing.later 0 fun _ => rfl
  | begin error =>
    rw [Connecting.step, List.append_nil]
    exact pacing.begin error
  | check => exact pacing.check
  | opened error => exact pacing.opened error
  | probed error => exact pacing.probed error
  | backedOff outcome =>
    rw [Connecting.step, List.append_nil]
    exact pacing.backedOff outcome documented

end Pacing

/-! ## What is reported -/

/-- A failure of `connect` has its reason. -/
structure Explained (endpoint : WString) (deadline : Time) (c : Connecting) (error : Failure) :
    Prop where
  native : error.framing = none ∧ error.kind ≠ .protocolViolation
  configuration : error.kind = .invalidConfiguration → validEndpoint endpoint = false
  timeout : error.kind = .timeout → deadline ≤ c.now
  cancelled : error.kind = .cancelled →
    c.stopping = true ∨ error.nativeError = errorOperationAborted

section
variable {endpoint : WString} {deadline : Time} {c : Connecting}

theorem explained_code (code : UInt32) : Explained endpoint deadline c (ioFailure code) := by
  have kinds := ioFailure_kind code
  refine ⟨⟨ioFailure_framing code, fun kind => ?_⟩, fun kind => ?_, fun kind => ?_, fun kind => ?_⟩
  · simp [kind] at kinds
  · simp [kind] at kinds
  · simp [kind] at kinds
  · right
    rw [ioFailure_nativeError]
    exact ioFailure_cancelled code kind

/-- A refusal before an attempt is explained by the clock or by the stop. -/
theorem explained_preflight {error : Failure}
    (refused : preflight c.stopping c.now deadline = some error) :
    Explained endpoint deadline c error := by
  rcases preflight_kind refused with ⟨rfl, stopped⟩ | ⟨rfl, -, late⟩
  · exact ⟨⟨rfl, nofun⟩, nofun, nofun, fun _ => Or.inl stopped⟩
  · exact ⟨⟨rfl, nofun⟩, nofun, fun _ => late, nofun⟩

def Truthful (endpoint : WString) (deadline : Time) (c : Connecting) : Prop :=
  ∀ error, c.point = .returned (.error error) → Explained endpoint deadline c error

/-- A step that fails has to explain it, and any other keeps the result or has none. -/
theorem truthful_fail {error : Failure} (explained : Explained endpoint deadline c error) :
    Truthful endpoint deadline (c.fail error) := by
  rintro _ ⟨⟩
  exact { explained with }

/-- Each step that ends `connect` with a failure has the reason at hand. -/
theorem step_truthful (truthful : Truthful endpoint deadline c) (action : ConnectAction) :
    Truthful endpoint deadline (c.step endpoint deadline action).1 := by
  cases action with
  | tick elapsed =>
    intro error back
    have before := truthful error back
    exact { before with timeout := fun kind => (before.timeout kind).trans (Nat.le_add_right _ _) }
  | requestStop =>
    intro error back
    exact { truthful error back with cancelled := fun _ => Or.inl rfl }
  | begin error =>
    simp only [step, Connecting.begin]
    split
    · split
      · rename_i invalid
        apply truthful_fail
        exact ⟨⟨rfl, nofun⟩, fun _ => by simpa using invalid, nofun, nofun⟩
      · split
        · rename_i refused
          exact truthful_fail (explained_preflight refused)
        · split
          · exact truthful_fail (explained_code _)
          · exact nofun
    · exact truthful
  | check =>
    simp only [step, Connecting.check]
    split
    · split
      · rename_i refused
        exact truthful_fail (explained_preflight refused)
      · exact nofun
    · exact truthful
  | opened error =>
    simp only [step, Connecting.opened]
    split
    · split
      · exact nofun
      · split
        · exact truthful_fail (explained_code _)
        · split
          · rename_i none
            apply truthful_fail
            exact ⟨⟨rfl, nofun⟩, nofun, fun _ => retrySlice_zero none, nofun⟩
          · exact nofun
    · exact truthful
  | probed error =>
    simp only [step, Connecting.probed]
    split
    · split
      · exact nofun
      · split
        · exact truthful_fail (explained_code _)
        · split
          · exact nofun
          · exact nofun
    · exact truthful
  | backedOff outcome =>
    simp only [step, Connecting.backedOff]
    split
    · exact truthful_fail (explained_code _)
    · exact nofun
    · exact truthful

/-! ## Stopping -/

/-- How many steps `connect` still takes after a stop, at most. -/
def rank (c : Connecting) : Nat :=
  match c.point with
  | .returned _ => 0
  | .checking => 1
  | .backing _ => 2
  | .probing _ => 3
  | .opening => 4
  | .entered => 5

/-- The step the loop stands before; the wait of the pause ends by the stop. -/
def due (c : Connecting) : ConnectAction → Bool
  | .begin _ => match c.point with | .entered => true | _ => false
  | .check => match c.point with | .checking => true | _ => false
  | .opened _ => match c.point with | .opening => true | _ => false
  | .probed _ => match c.point with | .probing _ => true | _ => false
  | .backedOff .signalled => match c.point with | .backing _ => c.stopping | _ => false
  | _ => false

def Back (c : Connecting) : Prop := ∃ result, c.point = .returned result

theorem step_stopping (stopped : c.stopping = true) (action : ConnectAction) :
    (c.step endpoint deadline action).1.stopping = true := by
  cases action <;>
    simp only [step, Connecting.begin, Connecting.check, Connecting.opened, Connecting.probed,
      Connecting.backedOff] <;>
    repeat' split
  all_goals exact stopped

/-- After a stop the loop does not go round again. -/
theorem step_rank (stopped : c.stopping = true) (action : ConnectAction) :
    (c.step endpoint deadline action).1.rank + (c.due action).toNat ≤ c.rank := by
  cases action with
  | tick elapsed => exact le_rfl
  | requestStop => exact le_rfl
  | begin error =>
    cases here : c.point with
    | entered =>
      simp only [step, Connecting.begin, here]
      repeat' split
      all_goals simp [rank, due, fail, here]
    | _ => simp [step, Connecting.begin, due, here]
  | check =>
    cases here : c.point with
    | checking =>
      have refused : preflight c.stopping c.now deadline = some { kind := .cancelled } := by
        simp [preflight, stopped]
      simp [step, Connecting.check, refused, rank, due, fail, here]
    | _ => simp [step, Connecting.check, due, here]
  | opened error =>
    cases here : c.point with
    | opening =>
      simp only [step, Connecting.opened, here]
      repeat' split
      all_goals simp [rank, due, fail, here]
    | _ => simp [step, Connecting.opened, due, here]
  | probed error =>
    cases here : c.point with
    | probing slice =>
      simp only [step, Connecting.probed, here]
      repeat' split
      all_goals simp [rank, due, fail, here]
    | _ => simp [step, Connecting.probed, due, here]
  | backedOff outcome =>
    cases here : c.point with
    | backing limit =>
      cases outcome with
      | signalled => simp [step, Connecting.backedOff, stopped, rank, due, here]
      | timedOut => simp [step, Connecting.backedOff, rank, due, here]
      | failed code => simp [step, Connecting.backedOff, rank, due, fail, here]
    | _ => cases outcome <;> simp [step, Connecting.backedOff, due, here]

/-- After a stop there is always a step to make until `connect` is back. -/
theorem due_exists (stopped : c.stopping = true) (inside : ¬ c.Back) :
    ∃ action, c.due action = true := by
  cases here : c.point with
  | entered => exact ⟨.begin none, by simp [due, here]⟩
  | checking => exact ⟨.check, by simp [due, here]⟩
  | opening => exact ⟨.opened none, by simp [due, here]⟩
  | probing slice => exact ⟨.probed none, by simp [due, here]⟩
  | backing limit => exact ⟨.backedOff .signalled, by simp [due, here, stopped]⟩
  | returned result => exact absurd ⟨result, here⟩ inside

theorem stop_progress (endpoint : WString) (deadline : Time) :
    Transition.Progress (step endpoint deadline) (fun c => c.stopping = true) Back due rank where
  keeps _ action stopped := step_stopping stopped action
  pays _ action stopped _ := step_rank stopped action
  reached c _ none := by
    cases here : c.point with
    | returned result => exact ⟨result, here⟩
    | _ => simp [rank, here] at none

/-- The pacing holds of every run whose pauses were as documented. -/
theorem run_pacing (endpoint : WString) (deadline start : Time) (stopping : Bool)
    (actions : List ConnectAction) :
    let ended := run endpoint deadline start stopping actions
    Pacing (TruePauses endpoint deadline start stopping actions) deadline ended.1 ended.2 ∧
      Truthful endpoint deadline ended.1 := by
  apply Transition.run_invariant_along (step endpoint deadline)
    (TruePauses endpoint deadline start stopping actions) truePause
    (fun c past => Pacing _ deadline c past ∧ Truthful endpoint deadline c) _ []
  · exact ⟨.initial start stopping, nofun⟩
  · intro c past action before documented
    exact ⟨before.1.step action documented, step_truthful before.2 action⟩
  · exact id

end

end Connecting

/-- Whatever the kernel answers, `connect` hands it waits of 1 to 50 ms only, in
`WaitNamedPipeW` as in the pause; it attempts again only after a probe; if its pauses are
as documented, two attempts with a missing server between them are 50 ms apart; and a
failure has its reason: a timeout the deadline, a cancellation a stop or an abort, a
refused configuration a bad name. -/
theorem connect_paces_and_explains (endpoint : WString) (deadline start : Time) (stopping : Bool)
    (actions : List ConnectAction) :
    let ended := Connecting.run endpoint deadline start stopping actions
    Transition.Admissible
        (Paced (Connecting.TruePauses endpoint deadline start stopping actions)) ended.2 ∧
      ∀ error, ended.1.point = .returned (.error error) →
        ended.1.Explained endpoint deadline error := by
  obtain ⟨pacing, truthful⟩ := Connecting.run_pacing endpoint deadline start stopping actions
  exact ⟨pacing.admissible, truthful⟩

/-- Wherever a stop finds `connect`, it returns after at most five of its steps. -/
theorem stop_interrupts_connect (endpoint : WString) (deadline start : Time) (stopping : Bool)
    (before : List ConnectAction)
    (stopped : (Connecting.run endpoint deadline start stopping before).1.stopping = true) :
    let c := (Connecting.run endpoint deadline start stopping before).1
    c.rank ≤ 5 ∧ (¬ c.Back → ∃ action, c.due action = true) ∧
      ∀ actions, c.rank ≤
          Transition.helpful (Connecting.step endpoint deadline) Connecting.due c actions →
        ∃ front, front <+: actions ∧
          (Connecting.run endpoint deadline start stopping (before ++ front)).1.Back := by
  refine ⟨?_, Connecting.due_exists stopped, fun actions enough => ?_⟩
  · unfold Connecting.rank
    split <;> decide
  · obtain ⟨front, shorter, back⟩ :=
      (Connecting.stop_progress endpoint deadline).reaches stopped enough
    refine ⟨front, shorter, ?_⟩
    rw [Connecting.run, Transition.run_append]
    exact back

/-- The stop comes while the kernel is asked about a server that is not there. -/
def stoppedInProbe : List ConnectAction :=
  [.begin none, .check, .opened (some 2), .requestStop]

theorem stop_interrupts_connect_in_probe :
    (Connecting.run (pipeRoot ++ [0x61]) 1000000000 0 false stoppedInProbe).1.rank = 3 ∧
      ∃ front, front <+: [.probed (some 2), .tick 7, .backedOff .signalled, .check] ∧
        (Connecting.run (pipeRoot ++ [0x61]) 1000000000 0 false (stoppedInProbe ++ front)).1.Back :=
  ⟨by decide,
    (stop_interrupts_connect (pipeRoot ++ [0x61]) 1000000000 0 false stoppedInProbe
      (by decide)).2.2 _ (by decide)⟩

end PipeForge.Transport
