import PipeForge.EndToEnd.Wire

/-!
# One direction of the pipe

What the bytes in one direction have to do with the payload channel they implement.
The sender's end has written the frames of every payload it completed and perhaps a
part of the next; the receiver's end has read a front of that. So the payloads the
receiver returns are the completed ones, in order, and never the partial one
(`Carries.oldest`). The completed payloads the caller has not taken yet are what the
channel calls in flight, and writing the last byte of a frame is its delivery.
-/

namespace PipeForge.EndToEnd
open Contracts Library Protocol Transport

/-! ## The two threads of an end -/

/-- A step of the receiving thread leaves the sending one alone. -/
structure Listens (s : PipeStream) (done : PipeStream × List Transport.Event) : Prop where
  sender : done.1.sender = s.sender
  silent : outgoing done.2 = []
  unsent : done.2.findSome? sentResult = none
  sticky : done.1.state.failed = false → s.state.failed = false

/-- A step of the sending thread leaves the receiving one alone. -/
structure Speaks (s : PipeStream) (done : PipeStream × List Transport.Event) : Prop where
  receiver : done.1.receiver = s.receiver
  deaf : incoming done.2 = []
  nothing : returned done.2 = []
  unreceived : done.2.findSome? receivedResult = none

/-- A step of the receiving thread: it goes on, or its call returns. -/
inductive Heard (s : PipeStream) : PipeStream × List Transport.Event → Prop
  | on (s' : PipeStream) (events : List Transport.Event) (nothing : returned events = [])
      (open_ : events.findSome? receivedResult = none)
      (busy : s'.receiver = .idle → s'.receiver = s.receiver) : Heard s (s', events)
  | back (s' : PipeStream) (result : Transport.Result Bytes) (idle : s'.receiver = .idle) :
      Heard s (s', [.received result])

section
variable (s : PipeStream)

theorem listens_stay : Listens s (s, []) := ⟨rfl, rfl, rfl, id⟩

theorem speaks_stay : Speaks s (s, []) := ⟨rfl, rfl, rfl, rfl⟩

theorem listens_failed (error : Transport.Failure) : Listens s (s.receiveFailed error) :=
  ⟨rfl, rfl, rfl, nofun⟩

theorem speaks_failed (error : Transport.Failure) : Speaks s (s.sendFailed error) :=
  ⟨rfl, rfl, rfl, rfl⟩

theorem receive_listens : Listens s s.receive := by
  unfold PipeStream.receive
  split
  · split
    · exact ⟨rfl, rfl, rfl, id⟩
    · exact ⟨rfl, rfl, rfl, id⟩
  · exact listens_stay s

theorem checked_listens (preflight : Option Transport.Failure) : Listens s (s.checked preflight) := by
  unfold PipeStream.checked
  split
  · split
    · exact listens_failed s _
    · split
      · split
        · exact ⟨rfl, rfl, rfl, fun failed => by cases failed⟩
        · dsimp only
          split
          · exact ⟨rfl, rfl, rfl, id⟩
          · exact ⟨rfl, rfl, rfl, id⟩
      · exact ⟨rfl, rfl, rfl, id⟩
  · exact listens_stay s

theorem read_listens (received : Transport.Result Chunk) : Listens s (s.read received) := by
  unfold PipeStream.read
  split
  · split
    · split
      · exact listens_failed s _
      · exact listens_failed s _
    · split
      · exact listens_failed s _
      · exact ⟨rfl, rfl, rfl, id⟩
  · exact listens_stay s

theorem send_speaks (payload : Bytes) (preflight : Option Transport.Failure) :
    Speaks s (s.send payload preflight) := by
  unfold PipeStream.send
  split
  · split
    · exact ⟨rfl, rfl, rfl, rfl⟩
    · split
      · exact speaks_failed s _
      · split
        · exact speaks_failed s _
        · simp only [PipeStream.write]
          split
          · exact ⟨rfl, rfl, rfl, rfl⟩
          · exact ⟨rfl, rfl, rfl, rfl⟩
  · exact speaks_stay s

theorem wrote_speaks (written : Transport.Result Nat) : Speaks s (s.wrote written) := by
  unfold PipeStream.wrote
  split
  · split
    · exact speaks_failed s _
    · split
      · exact speaks_failed s _
      · simp only [PipeStream.write]
        split
        · exact ⟨rfl, rfl, rfl, rfl⟩
        · exact ⟨rfl, rfl, rfl, rfl⟩
  · exact speaks_stay s

theorem heard_stay : Heard s (s, []) := .on s [] rfl rfl fun _ => rfl

theorem heard_failed (error : Transport.Failure) : Heard s (s.receiveFailed error) :=
  .back _ (.error error) rfl

theorem receive_heard : Heard s s.receive := by
  unfold PipeStream.receive
  split
  · rename_i idle
    split
    · exact .back s _ idle
    · exact .on _ [] rfl rfl nofun
  · exact heard_stay s

theorem checked_heard (preflight : Option Transport.Failure) : Heard s (s.checked preflight) := by
  unfold PipeStream.checked
  split
  · split
    · exact heard_failed s _
    · split
      · split
        · exact .back _ _ rfl
        · dsimp only
          split
          · exact .back _ _ rfl
          · exact .on _ [] rfl rfl fun idle => by cases idle
      · exact .on _ [] rfl rfl fun idle => by cases idle
  · exact heard_stay s

theorem read_heard (received : Transport.Result Chunk) : Heard s (s.read received) := by
  unfold PipeStream.read
  split
  · split
    · split
      · exact heard_failed s _
      · exact heard_failed s _
    · split
      · exact heard_failed s _
      · exact .on _ _ rfl rfl nofun
  · exact heard_stay s

/-- No byte leaves before `write_some`. -/
theorem send_silent (payload : Bytes) (preflight : Option Transport.Failure) :
    outgoing (s.send payload preflight).2 = [] := by
  unfold PipeStream.send
  split
  · split
    · rfl
    · split
      · rfl
      · split
        · rfl
        · simp only [PipeStream.write]
          split
          · rfl
          · rfl
  · rfl

/-- Only `read_some` brings bytes. -/
theorem receive_deaf : incoming s.receive.2 = [] := by
  unfold PipeStream.receive
  split
  · split
    · rfl
    · rfl
  · rfl

/-- A turn of the receive loop reads nothing from the kernel. -/
theorem checked_deaf (preflight : Option Transport.Failure) :
    incoming (s.checked preflight).2 = [] := by
  unfold PipeStream.checked
  split
  · split
    · rfl
    · split
      · split
        · rfl
        · dsimp only
          split
          · rfl
          · rfl
      · rfl
  · rfl

/-- What is read lies at the front of the pipe. -/
theorem read_front {pipe : Bytes} (received : Transport.Result Chunk)
    (front : ∀ chunk, received = .ok chunk → chunk.val <+: pipe) :
    incoming (s.read received).2 <+: pipe := by
  unfold PipeStream.read
  split
  · split
    · split
      · exact List.nil_prefix
      · exact List.nil_prefix
    · rename_i chunk
      split
      · exact List.nil_prefix
      · simpa [incoming] using front chunk rfl
  · exact List.nil_prefix

/-- Outside a call nothing is checked or read. -/
theorem checked_idle {s : PipeStream} (idle : s.receiver = .idle)
    (preflight : Option Transport.Failure) : s.checked preflight = (s, []) := by
  simp only [PipeStream.checked, idle]

theorem read_idle {s : PipeStream} (idle : s.receiver = .idle)
    (received : Transport.Result Chunk) : s.read received = (s, []) := by
  simp only [PipeStream.read, idle]

end

/-! ## Frames in parts -/

theorem frames_append (front back : List Bytes) : frames (front ++ back) = frames front ++ frames back :=
  List.flatMap_append

theorem frames_single (payload : Bytes) :
    frames [payload] = frameHeader payload.length ++ payload := by
  simp [frames]

/-- A frame that lacks bytes at its end is unfinished. -/
theorem unfinished_front {payload part remaining : Bytes} (valid : validLength payload.length)
    (cut : part ++ remaining = frameHeader payload.length ++ payload) (more : remaining ≠ []) :
    Unfinished part := by
  have width : (frameHeader payload.length).length = frameHeaderBytes := rfl
  have total := congrArg List.length cut
  simp only [List.length_append, width] at total
  have left := List.length_pos_iff.mpr more
  by_cases short : part.length < frameHeaderBytes
  · exact Or.inl short
  · right
    have long : frameHeaderBytes ≤ part.length := Nat.not_lt.mp short
    have header : part.take frameHeaderBytes = frameHeader payload.length := by
      have front := congrArg (List.take frameHeaderBytes) cut
      rw [List.take_append_of_le_length long, ← width, List.take_left'] at front
      · exact front
      · rfl
    have length : littleEndian (frameHeader payload.length) = payload.length :=
      littleEndian_frameHeader _ (Nat.lt_of_le_of_lt valid.2 (by decide))
    rw [header, length]
    exact ⟨valid, by omega⟩

/-- Whole frames and an unfinished one parse to the payloads of the whole ones. -/
theorem reference_written {payloads : List Bytes} {part : Bytes}
    (valid : ∀ payload ∈ payloads, validLength payload.length) (unfinished : Unfinished part) :
    reference (frames payloads ++ part) = (payloads, .incomplete part) := by
  rw [reference_append, reference_frames valid]
  simp only [List.nil_append]
  rw [reference_unfinished part unfinished, List.append_nil]

/-- A front of a stream parses to a front of its payloads. -/
theorem reference_front (front back : Bytes) :
    (reference front).1 <+: (reference (front ++ back)).1 := by
  rw [reference_append]
  split
  · rename_i payloads rest parsed
    rw [parsed]
    exact List.prefix_append _ _
  · rename_i payloads parsed
    rw [parsed]

/-- The parse stops inside a frame. -/
def Cut (bytes : Bytes) : Prop := ∃ rest, rest ≠ [] ∧ (reference bytes).2 = .incomplete rest

section
variable {s : PipeStream} {past : List Transport.Event} {error : Transport.Failure}

/-- `receive` on a stream that is down is no violation. -/
theorem receive_honest (reported : .received (.error error) ∈ s.receive.2) :
    error.kind ≠ .protocolViolation := by
  unfold PipeStream.receive at reported
  split at reported
  · split at reported
    · cases List.mem_singleton.mp reported
      exact nofun
    · cases reported
  · cases reported

/-- The decoder refuses only a frame the peer did not write. -/
theorem checked_honest (reads : Reads s past) (valid : (reference (incoming past)).2 ≠ .invalid)
    (preflight : Option Server.NativeFailure)
    (reported : .received (.error error) ∈ (s.checked (preflight.map Subtype.val)).2) :
    error.kind ≠ .protocolViolation := by
  unfold PipeStream.checked at reported
  split at reported
  · rename_i looping
    split at reported
    · rename_i given
      obtain ⟨native, -, rfl⟩ := Option.map_eq_some_iff.mp given
      cases List.mem_singleton.mp reported
      exact native.property
    · split at reported
      · split at reported
        · rename_i consumed
          obtain ⟨pending, step, parsed⟩ := reads.consumes looping consumed
          cases step with
          | invalid header broken =>
            rw [parsed, broken] at valid
            exact absurd rfl valid
        · dsimp only at reported
          split at reported
          · cases List.mem_singleton.mp reported
          · cases reported
      · cases reported
  · cases reported

/-- A protocol violation is reported for a pipe that ended inside a frame. -/
theorem read_honest (reads : Reads s past) (valid : (reference (incoming past)).2 ≠ .invalid)
    {received : Transport.Result Chunk}
    (native : ∀ error, received = .error error → error.kind ≠ .protocolViolation)
    (reported : .received (.error error) ∈ (s.read received).2)
    (violation : error.kind = .protocolViolation) : Cut (incoming past) := by
  by_cases reading : s.receiver = .reading
  · by_cases ended : PipeStream.Ended received
    · obtain ⟨failure, returned, blamed⟩ := PipeStream.read_ended reads reading ended
      change s.read received = _ at returned
      rw [returned] at reported
      cases List.mem_singleton.mp reported
      cases parsed : (reference (incoming past)).2 with
      | invalid => exact absurd parsed valid
      | incomplete rest =>
        refine ⟨rest, fun empty => ?_, parsed⟩
        rw [empty] at parsed
        cases (blamed.whole parsed).1.symm.trans violation
    · unfold PipeStream.read at reported
      simp only [reading] at reported
      cases received with
      | error failure =>
        have other : failure.kind ≠ .disconnected := fun kind =>
          ended (Or.inr ⟨failure, rfl, kind⟩)
        simp only [other, if_false] at reported
        have same : failure = error := by simpa [PipeStream.receiveFailed, eq_comm] using reported
        exact absurd violation (native error (by rw [same]))
      | ok chunk =>
        have more : chunk.val.length ≠ 0 := fun empty =>
          ended (Or.inl ⟨chunk, rfl, List.length_eq_zero_iff.mp empty⟩)
        simp only [more, if_false] at reported
        cases List.mem_singleton.mp reported
  · unfold PipeStream.read at reported
    split at reported
    · contradiction
    · cases reported

end

/-! ## The channel a direction implements -/

/-- A payload that `receive` returned and its caller has not taken. -/
def End.waiting (e : End) : Option Bytes :=
  match e.received with
  | some (.ok payload) => some payload
  | _ => none

/-- All that the kernel took from this end. -/
def End.given (e : End) : Bytes := outgoing e.past ++ e.leaked

section
variable (e : End) (done : PipeStream × List Transport.Event)

theorem End.given_after (silent : outgoing done.2 = []) : (e.after done).given = e.given := by
  simp [End.given, End.after, silent]

theorem End.given_accepted (dry : e.leaked = []) {bytes : Bytes} (taken : outgoing done.2 = bytes) :
    (e.after done).given = e.given ++ bytes := by
  simp [End.given, End.after, dry, taken]

theorem End.given_leak (bytes : Bytes) : (e.leak bytes).given = e.given ++ bytes := by
  simp [End.given, End.leak]

theorem End.leak_nil : e.leak [] = e := by simp [End.leak]

end

/-- The direction from `near` to `far` carries what the channel `c` says. `sending` is
the payload the caller of `near` is inside `send` with, and `receiving` says whether
the caller of `far` is inside `receive`. The caller has taken `taken`, and `part` is
what was written of a frame that is not whole. -/
structure Carries (near far : End) (pipe : Bytes) (sending : Option Bytes) (receiving : Bool)
    (c : Channel) (taken : List Bytes) (part : Bytes) : Prop where
  reads : Reads far.stream far.past
  kernel : near.given = incoming far.past ++ pipe
  written : near.given = frames (taken ++ c.inFlight) ++ part
  valid : ∀ payload ∈ taken ++ c.inFlight, validLength payload.length
  unfinished : Unfinished part
  /-- Between calls a stream that may be used again has cut no frame. -/
  whole : near.stream.sender = .idle → near.stream.state.failed = false → part = []
  writing : ∀ total remaining, near.stream.sender = .writing total remaining →
    remaining ≠ [] ∧ ∃ payload, c.sending = some payload ∧ validLength payload.length ∧
      part ++ remaining = frameHeader payload.length ++ payload
  /-- After a write that leaked the stream writes nothing more. -/
  dry : near.leaked = [] ∨ near.stream.sender = .idle ∧ near.stream.state.failed = true
  calling : near.sent = none → c.sending = sending
  /-- A payload whose `send` failed may have arrived, one whose `send` succeeded has. -/
  arrived : ∀ count, near.sent = some (.ok count) → c.sending = none
  returned : returned far.past = taken ++ far.waiting.toList
  sentIdle : near.sent.isSome = true → near.stream.sender = .idle
  receivedIdle : far.received.isSome = true → far.stream.receiver = .idle
  outside : sending = none → near.sent = none ∧ near.stream.sender = .idle
  unasked : receiving = false → far.received = none ∧ far.stream.receiver = .idle
  blames : ∀ error, far.received = some (.error error) → error.kind = .protocolViolation →
    Cut (incoming far.past)

namespace Carries
variable {near far near' far' : End} {pipe pipe' : Bytes} {sending : Option Bytes} {receiving : Bool}
  {c : Channel} {taken : List Bytes} {part : Bytes}

theorem initial : Carries {} {} [] none false .empty [] [] where
  reads := .initial
  kernel := rfl
  written := rfl
  valid := nofun
  unfinished := unfinished_nil
  whole _ _ := rfl
  writing := nofun
  dry := Or.inl rfl
  calling _ := rfl
  arrived := nofun
  returned := rfl
  sentIdle := nofun
  receivedIdle := nofun
  outside _ := ⟨rfl, rfl⟩
  unasked _ := ⟨rfl, rfl⟩
  blames := nofun

/-- What was read is a front of the completed payloads. -/
theorem parsed (carries : Carries near far pipe sending receiving c taken part) :
    (reference (incoming far.past)).1 <+: taken ++ c.inFlight ∧
      (reference (incoming far.past)).2 ≠ .invalid := by
  have whole := reference_written carries.valid carries.unfinished
  rw [← carries.written, carries.kernel] at whole
  constructor
  · have front := reference_front (incoming far.past) pipe
    rw [whole] at front
    exact front
  · apply PipeStream.valid_front
    rw [whole]
    exact nofun

/-- A payload that `receive` has returned is the oldest one in flight. -/
theorem oldest (carries : Carries near far pipe sending receiving c taken part) {payload : Bytes}
    (waiting : far.waiting = some payload) : c.inFlight = payload :: c.inFlight.tail := by
  have front := (returned_parsed carries.reads).trans carries.parsed.1
  rw [carries.returned, waiting] at front
  have later := (List.prefix_append_right_inj taken).mp front
  obtain ⟨rest, joined⟩ := later
  rw [← joined]
  rfl

/-! ### Steps of the receiver's end -/

/-- Hearing moves bytes from the pipe to the stream, and payloads from the stream to the caller.
-/
theorem hear (carries : Carries near far pipe sending receiving c taken part)
    (reads : Reads far'.stream far'.past)
    (kernel : incoming far'.past ++ pipe' = incoming far.past ++ pipe)
    (back : Transport.returned far'.past = taken ++ far'.waiting.toList)
    (idle : far'.received.isSome = true → far'.stream.receiver = .idle)
    (unasked : receiving = false → far'.received = none ∧ far'.stream.receiver = .idle)
    (blames : ∀ error, far'.received = some (.error error) → error.kind = .protocolViolation →
      Cut (incoming far'.past)) :
    Carries near far' pipe' sending receiving c taken part :=
  { carries with
    reads
    kernel := carries.kernel.trans kernel.symm
    returned := back
    receivedIdle := idle
    unasked
    blames }

/-- The sending thread of the receiver's end. -/
theorem spoken (carries : Carries near far pipe sending receiving c taken part)
    {done : PipeStream × List Transport.Event} (effect : far.stream.Effect done.1 done.2)
    (speaks : Speaks far.stream done) :
    Carries near (far.after done) pipe sending receiving c taken part := by
  have kept : (far.after done).received = far.received := by
    simp [End.after, speaks.unreceived]
  have same : (far.after done).waiting = far.waiting := by
    rw [End.waiting, End.waiting, kept]
  apply carries.hear (carries.reads.effect effect)
  · simp [End.after, speaks.deaf]
  · rw [same, ← carries.returned]
    simp [End.after, speaks.nothing]
  · rw [kept]
    exact fun some => speaks.receiver.trans (carries.receivedIdle some)
  · intro outside
    obtain ⟨none, idle⟩ := carries.unasked outside
    exact ⟨kept.trans none, speaks.receiver.trans idle⟩
  · intro error reported violation
    have cut := carries.blames error (kept ▸ reported) violation
    simpa [End.after, speaks.deaf] using cut

/-- The receiving thread of the receiver's end, inside a call. -/
theorem heard (carries : Carries near far pipe sending receiving c taken part)
    {done : PipeStream × List Transport.Event} (effect : far.stream.Effect done.1 done.2)
    (heard : Heard far.stream done) (asked : receiving = true) (free : far.received = none)
    (kernel : incoming done.2 ++ pipe' = pipe)
    (honest : ∀ error, .received (.error error) ∈ done.2 → error.kind = .protocolViolation →
      Cut (incoming far.past)) :
    Carries near (far.after done) pipe' sending receiving c taken part := by
  have before : Transport.returned far.past = taken := by
    simpa [End.waiting, free] using carries.returned
  apply carries.hear (carries.reads.effect effect)
  · simp [End.after, ← kernel]
  · cases heard with
    | on s' events nothing open_ busy =>
      simp [End.after, End.waiting, nothing, open_, free, before]
    | back s' result idle =>
      rw [show (far.after (s', [.received result])).past = far.past ++ [.received result] from rfl,
        returned_append, before]
      cases result with
      | ok payload => rfl
      | error error => rfl
  · cases heard with
    | on s' events nothing open_ busy =>
      intro some
      simp [End.after, open_, free] at some
    | back s' result idle => exact fun _ => idle
  · intro outside
    rw [asked] at outside
    cases outside
  · intro error reported violation
    cases heard with
    | on s' events nothing open_ busy => simp [End.after, open_, free] at reported
    | back s' result idle =>
      have same : result = .error error := by simpa [End.after, receivedResult] using reported
      have cut := honest error (by simp [same]) violation
      simpa [End.after, incoming] using cut

/-! ### Steps of the sender's end -/

/-- The receiving thread of the sender's end. -/
theorem listened (carries : Carries near far pipe sending receiving c taken part)
    {done : PipeStream × List Transport.Event} (listens : Listens near.stream done) :
    Carries (near.after done) far pipe sending receiving c taken part := by
  have bytes : (near.after done).given = near.given := near.given_after done listens.silent
  have kept : (near.after done).sent = near.sent := by
    simp [End.after, listens.unsent]
  have sender : (near.after done).stream.sender = near.stream.sender := listens.sender
  exact { carries with
    kernel := bytes.trans carries.kernel
    written := bytes.trans carries.written
    whole := fun idle up => carries.whole (sender ▸ idle) (listens.sticky up)
    writing := fun total remaining busy => carries.writing total remaining (sender ▸ busy)
    dry := by
      rcases carries.dry with dry | ⟨idle, failed⟩
      · exact Or.inl dry
      · refine Or.inr ⟨sender.trans idle, ?_⟩
        by_contra up
        cases failed.symm.trans (listens.sticky (Bool.eq_false_iff.mpr up))
    calling := kept ▸ carries.calling
    arrived := kept ▸ carries.arrived
    sentIdle := fun some => sender.trans (carries.sentIdle (kept ▸ some))
    outside := fun none => by
      rw [kept, sender]
      exact carries.outside none }

/-- While a frame is being written nothing has leaked. -/
theorem dry_writing (carries : Carries near far pipe sending receiving c taken part) {total : Nat}
    {remaining : Bytes} (busy : near.stream.sender = .writing total remaining) :
    near.leaked = [] := by
  rcases carries.dry with dry | ⟨idle, -⟩
  · exact dry
  · cases idle.symm.trans busy

section
variable {payload : Bytes}

/-- `send` returns a failure. A frame that was begun stays cut. -/
theorem sendFailed (carries : Carries near far pipe (some payload) receiving c taken part)
    (free : near.sent = none) {s' : PipeStream} (error : Transport.Failure)
    (idle : s'.sender = .idle) (sticky : near.stream.state.failed = true → s'.state.failed = true)
    (cut : s'.state.failed = false → part = []) :
    Carries (near.after (s', [.sent (.error error)])) far pipe (some payload) receiving c taken
      part := by
  have bytes := near.given_after (s', [.sent (.error error)]) rfl
  exact { carries with
    kernel := bytes.trans carries.kernel
    written := bytes.trans carries.written
    whole := fun _ up => cut up
    writing := fun total remaining busy => by
      cases idle.symm.trans busy
    dry := carries.dry.imp_right fun before => ⟨idle, sticky before.2⟩
    calling := fun _ => carries.calling free
    arrived := nofun
    sentIdle := fun _ => idle
    outside := nofun }

/-- The frame is ready to be written. -/
theorem framed (carries : Carries near far pipe (some payload) receiving c taken part)
    (free : near.sent = none) (up : near.stream.state.failed = false) (clean : part = [])
    (valid : validLength payload.length) {total : Nat} {owned : Bytes}
    (frame : owned = frameHeader payload.length ++ payload) :
    Carries (near.after ({ near.stream with sender := .writing total owned }, [.sending payload]))
      far pipe (some payload) receiving c taken part := by
  have more : owned ≠ [] := by
    rw [frame]
    exact List.append_ne_nil_of_right_ne_nil _ (List.length_pos_iff.mp valid.1)
  have bytes := near.given_after
    ({ near.stream with sender := .writing total owned }, [.sending payload]) rfl
  exact { carries with
    kernel := bytes.trans carries.kernel
    written := bytes.trans carries.written
    whole := nofun
    writing := fun total' remaining busy => by
      cases busy
      exact ⟨more, payload, carries.calling free, valid, by rw [clean, List.nil_append, frame]⟩
    dry := by
      rcases carries.dry with dry | ⟨-, failed⟩
      · exact Or.inl dry
      · cases failed.symm.trans up
    calling := fun _ => carries.calling free
    arrived := fun count done => by simp [End.after, sentResult, free] at done
    sentIdle := fun some => by
      simp [End.after, sentResult, free] at some
    outside := nofun }

/-- The call begins. -/
theorem send (carries : Carries near far pipe (some payload) receiving c taken part)
    (free : near.sent = none) (preflight : Option Transport.Failure) :
    Carries (near.after (near.stream.send payload preflight)) far pipe (some payload) receiving c
      taken part := by
  unfold PipeStream.send
  split
  · rename_i idle
    split
    · exact carries.sendFailed free _ idle id (carries.whole idle)
    · rename_i up
      split
      · exact carries.sendFailed free _ rfl (fun _ => rfl) nofun
      · split
        · exact carries.sendFailed free _ rfl (fun _ => rfl) nofun
        · rename_i owned framed
          obtain ⟨frame, valid⟩ := frame_ok framed
          have alive : near.stream.state.failed = false := by
            simp only [PipeStream.down, Bool.not_eq_true, Bool.or_eq_false_iff] at up
            exact up.2
          have more : owned.isEmpty = false := by
            rw [frame]
            rfl
          simp only [PipeStream.write, more, Bool.false_eq_true, if_false]
          exact carries.framed free alive (carries.whole idle alive) valid frame
  · exact carries.listened (listens_stay _)

/-- The kernel takes a part of what is left: the stream goes on with the rest, or the
write is reported as failed. -/
theorem accepted (carries : Carries near far pipe (some payload) receiving c taken part)
    (free : near.sent = none) {total : Nat} {remaining front back : Bytes}
    (busy : near.stream.sender = .writing total remaining) (cut : front ++ back = remaining)
    (more : back ≠ []) (given : near'.given = near.given ++ front)
    (next : (near'.stream.sender = .writing total back ∧ near'.leaked = [] ∧ near'.sent = none) ∨
      (near'.stream.sender = .idle ∧ near'.stream.state.failed = true ∧
        ∃ error, near'.sent = some (.error error))) :
    Carries near' far (pipe ++ front) (some payload) receiving c taken (part ++ front) := by
  obtain ⟨-, sent, calling, valid, framed⟩ := carries.writing total remaining busy
  have joined : part ++ front ++ back = frameHeader sent.length ++ sent := by
    rw [List.append_assoc, cut, framed]
  exact { carries with
    kernel := by rw [given, carries.kernel, List.append_assoc]
    written := by rw [given, carries.written, List.append_assoc]
    unfinished := unfinished_front valid joined more
    whole := fun idle up => by
      rcases next with ⟨on, -⟩ | ⟨-, failed, -⟩
      · cases on.symm.trans idle
      · cases failed.symm.trans up
    writing := fun total' remaining' busy' => by
      rcases next with ⟨on, -⟩ | ⟨idle, -⟩
      · cases on.symm.trans busy'
        exact ⟨more, sent, calling, valid, joined⟩
      · cases idle.symm.trans busy'
    dry := next.imp (fun on => on.2.1) fun back => ⟨back.1, back.2.1⟩
    calling := fun _ => carries.calling free
    arrived := fun count done => by
      rcases next with ⟨-, -, none⟩ | ⟨-, -, error, failed⟩
      · cases none.symm.trans done
      · cases failed.symm.trans done
    sentIdle := fun some => by
      rcases next with ⟨-, -, none⟩ | ⟨idle, -⟩
      · rw [none] at some
        cases some
      · exact idle
    outside := nofun }

/-- The kernel takes the rest of the frame: the payload is delivered, whatever `send`
reports. -/
theorem completed (carries : Carries near far pipe (some payload) receiving c taken part)
    {total : Nat} {remaining : Bytes} (busy : near.stream.sender = .writing total remaining)
    (given : near'.given = near.given ++ remaining) (idle : near'.stream.sender = .idle)
    (dry : near'.leaked = [] ∨ near'.stream.state.failed = true) (settled : near'.sent.isSome = true) :
    Carries near' far (pipe ++ remaining) (some payload) receiving c.deliver taken [] := by
  obtain ⟨-, sent, calling, valid, framed⟩ := carries.writing total remaining busy
  have delivered : taken ++ c.deliver.inFlight = taken ++ c.inFlight ++ [sent] := by
    rw [Channel.deliver, calling, List.append_assoc]
    rfl
  exact { carries with
    kernel := by rw [given, carries.kernel, List.append_assoc]
    written := by
      rw [given, carries.written, delivered, List.append_assoc, framed,
        frames_append (taken ++ c.inFlight), frames_single, List.append_nil]
    valid := by
      intro other member
      rw [delivered] at member
      rcases List.mem_append.mp member with before | now
      · exact carries.valid other before
      · rw [List.mem_singleton.mp now]
        exact valid
    unfinished := unfinished_nil
    whole := fun _ _ => rfl
    writing := fun total' remaining' busy' => by cases idle.symm.trans busy'
    dry := dry.imp_right fun failed => ⟨idle, failed⟩
    calling := fun none => by
      rw [none] at settled
      cases settled
    arrived := fun _ _ => rfl
    sentIdle := fun _ => idle
    outside := fun absent => by cases absent }

end

/-- `write_some` returned: nothing moves that the channel sees, or the payload arrives. -/
theorem wrote (carries : Carries near far pipe sending receiving c taken part)
    (written : Except (Server.NativeFailure × Nat) Nat) :
    let done := near.stream.wrote (written.mapError (·.1.val))
    let leak := near.leaks (.wrote written)
    ∃ c' part', (c' = c ∨ c' = c.deliver) ∧
      Carries ((near.after done).leak leak) far (pipe ++ outgoing done.2 ++ leak) sending receiving
        c' taken part' := by
  cases busy : near.stream.sender with
  | idle =>
    have stays : near.stream.wrote (written.mapError (·.1.val)) = (near.stream, []) := by
      simp only [PipeStream.wrote, busy]
    have silent : near.leaks (.wrote written) = [] := by
      cases written <;> simp only [End.leaks, busy]
    refine ⟨c, part, Or.inl rfl, ?_⟩
    rw [stays, silent, End.leak_nil]
    simpa [outgoing] using carries.listened (listens_stay near.stream)
  | writing total remaining =>
    have free : near.sent = none := by
      by_contra some
      have idle := carries.sentIdle (Option.isSome_iff_ne_none.mpr some)
      cases busy.symm.trans idle
    have dry := carries.dry_writing busy
    cases sending with
    | none => cases busy.symm.trans (carries.outside rfl).2
    | some payload =>
      cases written with
      | error failure =>
        obtain ⟨error, count⟩ := failure
        have failed : near.stream.wrote (.error error.val) = near.stream.sendFailed error.val := by
          simp only [PipeStream.wrote, busy]
        have cut := List.take_append_drop count remaining
        simp only [Except.mapError, failed, End.leaks, busy]
        have given : ((near.after (near.stream.sendFailed error.val)).leak
            (remaining.take count)).given = near.given ++ remaining.take count := by
          rw [End.given_leak, End.given_after]
          rfl
        rw [show outgoing (near.stream.sendFailed error.val).2 = [] from rfl, List.append_nil]
        by_cases last : remaining.drop count = []
        · have all : remaining.take count = remaining := by
            rw [last, List.append_nil] at cut
            exact cut
          rw [all] at given ⊢
          exact ⟨c.deliver, [], Or.inr rfl, carries.completed busy given rfl (Or.inr rfl) rfl⟩
        · refine ⟨c, part ++ remaining.take count, Or.inl rfl, ?_⟩
          exact carries.accepted free busy cut last given (Or.inr ⟨rfl, rfl, error.val, rfl⟩)
      | ok count =>
        simp only [show near.leaks (.wrote (.ok count)) = [] from rfl, End.leak_nil, Except.mapError,
          PipeStream.wrote, busy, List.append_nil]
        split
        · refine ⟨c, part, Or.inl rfl, ?_⟩
          rw [show ∀ error, outgoing (near.stream.sendFailed error).2 = [] from fun _ => rfl,
            List.append_nil]
          exact carries.sendFailed free _ rfl (fun _ => rfl) fun failed => by cases failed
        · have cut := List.take_append_drop count remaining
          by_cases last : remaining.drop count = []
          · have all : remaining.take count = remaining := by
              rw [last, List.append_nil] at cut
              exact cut
            have delivered := carries.completed busy (near.given_accepted
              ({ near.stream with sender := .idle }, [.accepted remaining, .sent (.ok total)]) dry
              (by simp [outgoing]))
            refine ⟨c.deliver, [], Or.inr rfl, ?_⟩
            simpa [PipeStream.write, last, all, outgoing] using delivered rfl (Or.inl dry) rfl
          · have nonempty : (remaining.drop count).isEmpty = false := by simpa using last
            have later := carries.accepted free busy cut last (near.given_accepted
              ({ near.stream with sender := .writing total (remaining.drop count) },
                [.accepted (remaining.take count)]) dry (by simp [outgoing]))
            refine ⟨c, part ++ remaining.take count, Or.inl rfl, ?_⟩
            simpa [PipeStream.write, nonempty, outgoing] using later (Or.inl ⟨rfl, dry, free⟩)

/-! ### Whole ends -/

/-- The sender's end makes a step. -/
theorem ioSender (carries : Carries near far pipe sending receiving c taken part) (hears : Bool)
    (inbox : Bytes) (io : Io) :
    let done := near.io sending hears inbox io
    ∃ c' part', (c' = c ∨ c' = c.deliver) ∧
      Carries ((near.after done).leak (near.leaks io)) far (pipe ++ outgoing done.2 ++ near.leaks io)
        sending receiving c' taken part' := by
  have quiet : ∀ done, outgoing done.2 = [] →
      Carries (near.after done) far pipe sending receiving c taken part →
      ∃ c' part', (c' = c ∨ c' = c.deliver) ∧
        Carries ((near.after done).leak []) far (pipe ++ outgoing done.2 ++ []) sending receiving c'
          taken part' := by
    intro done silent kept
    refine ⟨c, part, Or.inl rfl, ?_⟩
    rw [silent, End.leak_nil, List.append_nil, List.append_nil]
    exact kept
  have listening := fun done (listens : Listens near.stream done) =>
    quiet done listens.silent (carries.listened listens)
  cases io with
  | send preflight =>
    simp only [End.io]
    split
    · rename_i payload free
      exact quiet _ (send_silent _ _ _) (carries.send free _)
    · exact listening _ (listens_stay _)
  | wrote written => exact carries.wrote written
  | receive =>
    simp only [End.io]
    split
    · exact listening _ (receive_listens _)
    · exact listening _ (listens_stay _)
  | checked preflight => exact listening _ (checked_listens _ _)
  | read received =>
    cases received with
    | error error => exact listening _ (read_listens near.stream (.error error.val))
    | ok chunk =>
      simp only [End.io]
      split
      · exact listening _ (read_listens _ _)
      · exact listening _ (listens_stay _)

/-- What the receiver's end leaks goes the other way. -/
theorem leaking (carries : Carries near far pipe sending receiving c taken part) (bytes : Bytes) :
    Carries near (far.leak bytes) pipe sending receiving c taken part :=
  { carries with }

/-- The receiver's end makes a step. -/
theorem ioReceiver (carries : Carries near far pipe sending receiving c taken part)
    (speaks : Option Bytes) (io : Io) :
    let done := far.io speaks receiving pipe io
    Carries near ((far.after done).leak (far.leaks io)) (pipe.drop (incoming done.2).length) sending
      receiving c taken part := by
  apply leaking
  have speaking : ∀ done, far.stream.Effect done.1 done.2 → Speaks far.stream done →
      Carries near (far.after done) (pipe.drop (incoming done.2).length) sending receiving c taken
        part := by
    intro done effect spoke
    rw [spoke.deaf]
    exact carries.spoken effect spoke
  have staying := speaking _ .stayed (speaks_stay far.stream)
  -- Inside a call there is no result yet, and the caller is there to get one.
  have inside : far.stream.receiver ≠ .idle → receiving = true ∧ far.received = none := by
    intro busy
    constructor
    · by_contra outside
      exact busy (carries.unasked (Bool.eq_false_iff.mpr outside)).2
    · by_contra some
      exact busy (carries.receivedIdle (Option.isSome_iff_ne_none.mpr some))
  cases io with
  | send preflight =>
    simp only [End.io]
    split
    · exact speaking _ (far.stream.send_effect _ _) (send_speaks _ _ _)
    · exact staying
  | wrote written => exact speaking _ (far.stream.wrote_effect _) (wrote_speaks _ _)
  | receive =>
    simp only [End.io]
    split
    · rename_i called
      obtain ⟨asked, free⟩ := Bool.and_eq_true_iff.mp called
      apply carries.heard (far.stream.receive_effect) (receive_heard _) asked
      · exact Option.isNone_iff_eq_none.mp free
      · rw [receive_deaf]
        rfl
      · exact fun error reported violation => absurd violation (receive_honest reported)
    · exact staying
  | checked preflight =>
    by_cases idle : far.stream.receiver = .idle
    · simpa only [End.io, checked_idle idle] using staying
    · obtain ⟨asked, free⟩ := inside idle
      apply carries.heard (far.stream.checked_effect _) (checked_heard _ _) asked free
      · simp only [End.io, checked_deaf]
        rfl
      · intro error reported violation
        exact absurd violation (checked_honest carries.reads carries.parsed.2 preflight reported)
  | read received =>
    cases received with
    | error error =>
      by_cases idle : far.stream.receiver = .idle
      · simpa only [End.io, read_idle idle] using staying
      · obtain ⟨asked, free⟩ := inside idle
        apply carries.heard (far.stream.read_effect _) (read_heard _ _) asked free
        · exact List.prefix_iff_eq_append.mp (read_front _ _ nofun)
        · intro failure reported
          apply read_honest carries.reads carries.parsed.2 _ reported
          rintro native same
          cases same
          exact error.property
    | ok chunk =>
      simp only [End.io]
      split
      · rename_i front
        by_cases idle : far.stream.receiver = .idle
        · simpa only [read_idle idle] using staying
        · obtain ⟨asked, free⟩ := inside idle
          apply carries.heard (far.stream.read_effect _) (read_heard _ _) asked free
          · apply List.prefix_iff_eq_append.mp
            apply read_front
            intro other same
            cases same
            exact List.isPrefixOf_iff_prefix.mp front
          · intro error reported
            apply read_honest carries.reads carries.parsed.2 _ reported
            intro native same
            cases same
      · exact staying

/-! ### The callers -/

/-- The direction does not look at the other one's results. -/
theorem otherResult (carries : Carries near far pipe sending receiving c taken part)
    (received : Option (Transport.Result Bytes)) (sent : Option (Transport.Result Nat)) :
    Carries { near with received } { far with sent } pipe sending receiving c taken part :=
  { carries with }

/-- A caller enters `send`. -/
theorem call (carries : Carries near far pipe none receiving c taken part) (payload : Bytes) :
    Carries near far pipe (some payload) receiving (c.send payload) taken part := by
  obtain ⟨free, idle⟩ := carries.outside rfl
  exact { carries with
    writing := fun total remaining busy => by cases idle.symm.trans busy
    calling := fun _ => rfl
    arrived := fun count done => by cases free.symm.trans done
    outside := nofun }

/-- The caller takes the result of `send` and leaves it. -/
theorem collect (carries : Carries near far pipe sending receiving c taken part)
    (some : near.sent.isSome = true) :
    Carries { near with sent := none } far pipe none receiving c.returned taken part := by
  have idle := carries.sentIdle some
  exact { carries with
    writing := fun total remaining busy => by cases idle.symm.trans busy
    calling := fun _ => rfl
    arrived := nofun
    sentIdle := nofun
    outside := fun _ => ⟨rfl, idle⟩ }

/-- A caller enters `receive`. -/
theorem ask (carries : Carries near far pipe sending false c taken part) :
    Carries near far pipe sending true c taken part :=
  { carries with unasked := nofun }

/-- The caller takes a failure and leaves `receive`. -/
theorem refuse (carries : Carries near far pipe sending receiving c taken part)
    {error : Transport.Failure} (failed : far.received = some (.error error)) :
    Carries near { far with received := none } pipe sending false c taken part := by
  have nothing : far.waiting = none := by rw [End.waiting, failed]
  have idle := carries.receivedIdle (by rw [failed]; rfl)
  exact { carries with
    returned := by
      rw [carries.returned, nothing]
      rfl
    receivedIdle := nofun
    unasked := fun _ => ⟨rfl, idle⟩
    blames := nofun }

/-- The caller takes a payload, the oldest in flight. -/
theorem take (carries : Carries near far pipe sending receiving c taken part) {payload : Bytes}
    (arrived : far.received = some (.ok payload)) :
    Carries near { far with received := none } pipe sending false c.take (taken ++ [payload])
      part := by
  have waiting : far.waiting = some payload := by rw [End.waiting, arrived]
  have idle := carries.receivedIdle (by rw [arrived]; rfl)
  have moved : taken ++ [payload] ++ c.take.inFlight = taken ++ c.inFlight := by
    rw [carries.oldest waiting, List.append_assoc]
    rfl
  exact { carries with
    written := by rw [moved]; exact carries.written
    valid := by rw [moved]; exact carries.valid
    returned := by
      rw [carries.returned, waiting]
      exact (List.append_nil _).symm
    receivedIdle := nofun
    unasked := fun _ => ⟨rfl, idle⟩
    blames := nofun }

end Carries

end PipeForge.EndToEnd
