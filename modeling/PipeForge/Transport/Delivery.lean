import PipeForge.Transport.Stream

/-!
# Whole payloads in order

What a stream has delivered is the reference parse of the bytes it has read, and
what it has written is the frames of the payloads it was given. Two streams joined
by a lossless first-in first-out channel are two runs in which the bytes one has
read are the first of those the other has written. Nothing else relates them, so
every interleaving and every way the kernel cuts the bytes is covered.

The receiver refills its buffer without looking whether it is empty. It is, because
a decoder that yields no payload has taken all it was offered (`Reads.waiting`).
-/

namespace PipeForge.Transport
open Contracts Library Protocol

/-! ## Histories -/

namespace Event

@[simp] def filledBytes : Event → Bytes
  | .filled bytes => bytes
  | _ => []

@[simp] def acceptedBytes : Event → Bytes
  | .accepted bytes => bytes
  | _ => []

@[simp] def payload? : Event → Option Bytes
  | .received (.ok payload) => some payload
  | _ => none

@[simp] def sending? : Event → Option Bytes
  | .sending payload => some payload
  | _ => none

@[simp] def size? : Event → Option Nat
  | .sent (.ok size) => some size
  | _ => none

/-- A `send` or `receive` that returned a failure. -/
def failure : Event → Bool
  | .sent (.error _) | .received (.error _) => true
  | _ => false

end Event

/-- All bytes the kernel delivered. -/
def incoming (events : List Event) : Bytes := events.flatMap Event.filledBytes

/-- All bytes the kernel took. -/
def outgoing (events : List Event) : Bytes := events.flatMap Event.acceptedBytes

/-- The payloads `receive` returned. -/
def returned (events : List Event) : List Bytes := events.filterMap Event.payload?

/-- The payloads `send` accepted. -/
def submitted (events : List Event) : List Bytes := events.filterMap Event.sending?

/-- The sizes `send` returned. -/
def sizes (events : List Event) : List Nat := events.filterMap Event.size?

section
variable (past events : List Event)

@[simp] theorem incoming_append :
    incoming (past ++ events) = incoming past ++ incoming events := List.flatMap_append

@[simp] theorem outgoing_append :
    outgoing (past ++ events) = outgoing past ++ outgoing events := List.flatMap_append

@[simp] theorem returned_append :
    returned (past ++ events) = returned past ++ returned events := List.filterMap_append

@[simp] theorem submitted_append :
    submitted (past ++ events) = submitted past ++ submitted events := List.filterMap_append

@[simp] theorem sizes_append : sizes (past ++ events) = sizes past ++ sizes events :=
  List.filterMap_append

end

/-! ## Frames -/

/-- The frames of payloads, one after the other. -/
def frames (payloads : List Bytes) : Bytes :=
  payloads.flatMap fun payload => frameHeader payload.length ++ payload

/-- Frames written one after the other parse back to their payloads, with nothing left over. -/
theorem reference_frames {payloads : List Bytes}
    (valid : ∀ payload ∈ payloads, validLength payload.length) :
    reference (frames payloads) = (payloads, .incomplete []) := by
  induction payloads with
  | nil => exact reference_unfinished [] unfinished_nil
  | cons payload rest ih =>
    have later := ih fun other member => valid other (List.mem_cons_of_mem _ member)
    have first := frame_valid (valid payload List.mem_cons_self)
    rw [frames, List.flatMap_cons]
    change reference (frameHeader payload.length ++ payload ++ frames rest) = _
    rw [reference_frame payload _ (frames rest) first, later]

/-! ## Reading -/

namespace StreamState

@[simp] theorem length_unread (state : StreamState) (inside : state.end_ ≤ bufferBytes) :
    state.unread.length = state.end_ - state.begin := by
  have full := state.full
  simp only [unread, List.length_drop, List.length_take]
  omega

theorem unread_empty {state : StreamState} (empty : state.begin = state.end_) :
    state.unread = [] := by
  rw [unread, empty]
  exact List.drop_eq_nil_of_le (List.length_take_le _ _)

theorem unread_fill (state : StreamState) (chunk : Chunk) :
    (state.fill chunk).unread = chunk.val := by
  simp [unread, fill]

theorem unread_consumed (state : StreamState) (decoder : FrameDecoder) (count : Nat) :
    { state with decoder, begin := state.begin + count }.unread = state.unread.drop count := by
  simp [unread, List.drop_drop]

end StreamState

/-- The decoder holds an unfinished frame. It and the unread bytes are what the
parse of all incoming bytes has left. -/
def Parsed (state : StreamState) (events : List Event) : Prop :=
  ∃ pending, state.decoder = ofPending pending ∧ Unfinished pending ∧
    reference (incoming events) =
      (returned events ++ (reference (pending ++ state.unread)).1,
        (reference (pending ++ state.unread)).2)

structure Reads (s : PipeStream) (events : List Event) : Prop where
  window : s.state.begin ≤ s.state.end_
  inside : s.state.end_ ≤ bufferBytes
  waiting : s.receiver = .reading → s.state.begin = s.state.end_
  parsed : s.state.decoder.poisoned = false → Parsed s.state events
  poisoned : s.state.decoder.poisoned = true → s.state.failed = true ∧ s.receiver = .idle ∧
    reference (incoming events) = (returned events, .invalid)

namespace Reads
variable {s s' : PipeStream} {past events : List Event}

/-- A fresh stream has read nothing and delivered nothing. -/
theorem initial : Reads {} [] where
  window := Nat.le_refl 0
  inside := Nat.zero_le _
  waiting := nofun
  parsed _ := ⟨[], rfl, unfinished_nil, by simp [incoming, returned, StreamState.unread]⟩
  poisoned := nofun

/-- A step that leaves the buffer and the decoder alone. -/
theorem keep (reads : Reads s past) (first : s'.state.begin = s.state.begin)
    (last : s'.state.end_ = s.state.end_) (unread : s'.state.unread = s.state.unread)
    (decoder : s'.state.decoder = s.state.decoder)
    (sticky : s.state.failed = true → s'.state.failed = true)
    (receiver : s'.receiver = s.receiver ∨ s'.receiver = .idle) (silent : incoming events = [])
    (nothing : returned events = []) : Reads s' (past ++ events) where
  window := by
    rw [first, last]
    exact reads.window
  inside := by
    rw [last]
    exact reads.inside
  waiting reading := by
    rw [first, last]
    rcases receiver with same | idle
    · exact reads.waiting (same ▸ reading)
    · rw [idle] at reading
      cases reading
  parsed clean := by
    rw [decoder] at clean
    obtain ⟨pending, held, unfinished, parsed⟩ := reads.parsed clean
    refine ⟨pending, decoder.trans held, unfinished, ?_⟩
    rw [incoming_append, returned_append, silent, nothing, List.append_nil, List.append_nil, unread]
    exact parsed
  poisoned bad := by
    rw [decoder] at bad
    obtain ⟨down, idle, parsed⟩ := reads.poisoned bad
    rw [incoming_append, returned_append, silent, nothing, List.append_nil, List.append_nil]
    refine ⟨sticky down, ?_, parsed⟩
    rcases receiver with same | other
    · rw [same, idle]
    · exact other

/-- A receiver in its loop has a sound decoder. -/
theorem busy (reads : Reads s past) (working : s.receiver ≠ .idle) : Parsed s.state past := by
  apply reads.parsed
  by_contra poisoned
  exact working (reads.poisoned (by simpa using poisoned)).2.1

theorem entered (reads : Reads s past) (up : s.down = false) :
    Reads { s with receiver := .looping } past where
  window := reads.window
  inside := reads.inside
  waiting := nofun
  parsed := reads.parsed
  poisoned bad := by
    have failed := (reads.poisoned bad).1
    simp [PipeStream.down, failed] at up

/-- The loop goes to the kernel only with an empty window. -/
theorem awaited (reads : Reads s past) (looping : s.receiver = .looping)
    (empty : s.state.end_ ≤ s.state.begin) : Reads { s with receiver := .reading } past where
  window := reads.window
  inside := reads.inside
  waiting _ := Nat.le_antisymm reads.window empty
  parsed := reads.parsed
  poisoned bad := by
    have idle := (reads.poisoned bad).2.1
    rw [looping] at idle
    cases idle

/-- What the call of `consume` in the loop did. -/
theorem consumes (reads : Reads s past) (looping : s.receiver = .looping)
    {done : Protocol.Result FrameProgress × FrameDecoder}
    (consumed : s.state.decoder.consume s.state.unread = done) :
    ∃ pending, Consumed pending s.state.unread done ∧
      reference (incoming past) =
        (returned past ++ (reference (pending ++ s.state.unread)).1,
          (reference (pending ++ s.state.unread)).2) := by
  obtain ⟨pending, decoder, unfinished, parsed⟩ := reads.busy (by rw [looping]; decide)
  have step := consume_spec pending s.state.unread unfinished
  rw [← decoder, consumed] at step
  exact ⟨pending, step, parsed⟩

/-- A decoder that rejected its input is poisoned, and the parse of what came in is invalid. -/
theorem rejected (reads : Reads s past) (looping : s.receiver = .looping)
    {error : Protocol.Failure} {decoder : FrameDecoder}
    (consumed : s.state.decoder.consume s.state.unread = (.error error, decoder))
    (result : Failure) :
    Reads ({ s with state := { s.state with decoder } }.receiveFailed result).1
      (past ++ [.received (.error result)]) := by
  obtain ⟨pending, step, parsed⟩ := reads.consumes looping consumed
  cases step with
  | invalid header broken =>
    rw [broken, List.append_nil] at parsed
    exact {
      window := reads.window
      inside := reads.inside
      waiting := nofun
      parsed := nofun
      poisoned := fun _ => ⟨rfl, rfl, by
        simpa [incoming, returned, List.filterMap_cons] using parsed⟩ }

/-- A payload that comes out of the decoder is the next one of the parse. -/
theorem delivered (reads : Reads s past) (looping : s.receiver = .looping)
    {progress : FrameProgress} {decoder : FrameDecoder} {payload : Bytes}
    (consumed : s.state.decoder.consume s.state.unread = (.ok progress, decoder))
    (whole : progress.payload = some payload) :
    Reads
      { s with
        state := { s.state with decoder, begin := s.state.begin + progress.consumed }
        receiver := .idle }
      (past ++ [.received (.ok payload)]) := by
  obtain ⟨pending, step, parsed⟩ := reads.consumes looping consumed
  have length := s.state.length_unread reads.inside
  have window := reads.window
  cases step with
  | unfinished short => cases whole
  | complete count payload moved within later =>
    cases whole
    exact {
      window := by dsimp only; omega
      inside := reads.inside
      waiting := nofun
      parsed := fun _ => by
        refine ⟨[], rfl, unfinished_nil, ?_⟩
        rw [StreamState.unread_consumed, List.nil_append]
        rw [later] at parsed
        simpa [incoming, returned] using parsed
      poisoned := nofun }

/-- A decoder that yields nothing has taken the whole window into its unfinished frame. -/
theorem drained (reads : Reads s past) (looping : s.receiver = .looping)
    {progress : FrameProgress} {decoder : FrameDecoder}
    (consumed : s.state.decoder.consume s.state.unread = (.ok progress, decoder))
    (partly : progress.payload = none) :
    Reads
      { s with
        state := { s.state with decoder, begin := s.state.begin + progress.consumed }
        receiver := .reading } past := by
  obtain ⟨pending, step, parsed⟩ := reads.consumes looping consumed
  have length := s.state.length_unread reads.inside
  have window := reads.window
  cases step with
  | complete => cases partly
  | unfinished short =>
    have all : s.state.begin + s.state.unread.length = s.state.end_ := by omega
    exact {
      window := Nat.le_of_eq all
      inside := reads.inside
      waiting := fun _ => all
      parsed := fun _ => by
        refine ⟨pending ++ s.state.unread, rfl, short, ?_⟩
        rw [StreamState.unread_consumed, List.drop_length, List.append_nil]
        exact parsed
      poisoned := fun bad => by
        rw [(ofPending_header _).1] at bad
        cases bad }

/-- New bytes extend the parse where the last ones ended. -/
theorem filled (reads : Reads s past) (reading : s.receiver = .reading) (chunk : Chunk) :
    Reads { s with state := s.state.fill chunk, receiver := .looping }
      (past ++ [.filled chunk.val]) := by
  obtain ⟨pending, decoder, unfinished, parsed⟩ := reads.busy (by rw [reading]; decide)
  rw [StreamState.unread_empty (reads.waiting reading), List.append_nil,
    reference_unfinished pending unfinished, List.append_nil] at parsed
  exact {
    window := Nat.zero_le _
    inside := chunk.property
    waiting := nofun
    parsed := fun _ => by
      refine ⟨pending, decoder, unfinished, ?_⟩
      rw [StreamState.unread_fill, incoming_append, returned_append, reference_append, parsed]
      simp [incoming, returned]
    poisoned := fun bad => by
      have clean := (ofPending_header pending).1
      rw [← decoder] at clean
      rw [StreamState.fill, clean] at bad
      cases bad }

/-- Every step keeps the window sound and the parse complete. -/
theorem effect (reads : Reads s past) (done : s.Effect s' events) : Reads s' (past ++ events) := by
  cases done with
  | stayed | closed | framed | accepted | completed | sendRefused | receiveRefused =>
    exact reads.keep rfl rfl rfl rfl id (Or.inl rfl) rfl rfl
  | sendFailed => exact reads.keep rfl rfl rfl rfl (fun _ => rfl) (Or.inl rfl) rfl rfl
  | receiveFailed => exact reads.keep rfl rfl rfl rfl (fun _ => rfl) (Or.inr rfl) rfl rfl
  | entered up idle =>
    rw [List.append_nil]
    exact reads.entered up
  | rejected error decoder looping ready consumed => exact reads.rejected looping consumed _
  | delivered progress decoder payload looping ready consumed whole =>
    exact reads.delivered looping consumed whole
  | drained progress decoder looping ready consumed partly =>
    rw [List.append_nil]
    exact reads.drained looping consumed partly
  | awaited looping empty =>
    rw [List.append_nil]
    exact reads.awaited looping empty
  | filled chunk reading => exact reads.filled reading chunk

end Reads

/-! ## Writing -/

namespace Sender

/-- What the outstanding `send` has not written yet. -/
@[simp] def remaining : Sender → Bytes
  | .idle => []
  | .writing _ remaining => remaining

/-- What the outstanding `send` will return. -/
@[simp] def totals : Sender → List Nat
  | .idle => []
  | .writing total _ => [total]

end Sender

def frameSize (payload : Bytes) : Nat := frameHeaderBytes + payload.length

structure Writes (s : PipeStream) (events : List Event) : Prop where
  valid : ∀ payload ∈ submitted events, validLength payload.length
  started : outgoing events ++ s.sender.remaining <+: frames (submitted events)
  whole : s.state.failed = false →
    outgoing events ++ s.sender.remaining = frames (submitted events) ∧
      sizes events ++ s.sender.totals = (submitted events).map frameSize

namespace Writes
variable {s s' : PipeStream} {past events : List Event}

theorem initial : Writes {} [] where
  valid := nofun
  started := List.prefix_rfl
  whole _ := ⟨rfl, rfl⟩

/-- A step of the other thread. -/
theorem keep (writes : Writes s past) (sender : s'.sender = s.sender)
    (sticky : s'.state.failed = false → s.state.failed = false) (silent : outgoing events = [])
    (nothing : submitted events = []) (none : sizes events = []) : Writes s' (past ++ events) := by
  have written := outgoing_append past events
  have given := submitted_append past events
  have returned := sizes_append past events
  rw [silent, List.append_nil] at written
  rw [nothing, List.append_nil] at given
  rw [none, List.append_nil] at returned
  exact {
    valid := by
      rw [given]
      exact writes.valid
    started := by
      rw [written, given, sender]
      exact writes.started
    whole := fun up => by
      rw [written, given, returned, sender]
      exact writes.whole (sticky up) }

/-- After a failed send the rest of the frame is never written. -/
theorem sendFailed (writes : Writes s past) (error : Failure) :
    Writes (s.sendFailed error).1 (past ++ [.sent (.error error)]) where
  valid := by simpa [submitted] using writes.valid
  started := by
    have front := List.prefix_append (outgoing past) s.sender.remaining
    simpa [outgoing, submitted, PipeStream.sendFailed, List.filterMap_cons] using
      front.trans writes.started
  whole := nofun

/-- A payload is framed when the frames before it have been written to the end. -/
theorem framed (writes : Writes s past) {payload owned : Bytes} (up : s.down = false)
    (idle : s.sender = .idle) (framed : frame payload = .ok owned) :
    Writes { s with sender := .writing owned.length owned } (past ++ [.sending payload]) := by
  obtain ⟨rfl, valid⟩ := frame_ok framed
  have sound : s.state.failed = false := by
    simp only [PipeStream.down, Bool.or_eq_false_iff] at up
    exact up.2
  obtain ⟨written, returned⟩ := writes.whole sound
  rw [idle, Sender.remaining, List.append_nil] at written
  rw [idle, Sender.totals, List.append_nil] at returned
  have bytes : outgoing (past ++ [.sending payload]) ++
      (frameHeader payload.length ++ payload) = frames (submitted (past ++ [.sending payload])) := by
    rw [outgoing_append, submitted_append, written]
    simp [outgoing, submitted, frames]
  exact {
    valid := by
      intro other member
      rw [submitted_append, List.mem_append] at member
      rcases member with earlier | last
      · exact writes.valid other earlier
      · cases List.mem_singleton.mp last
        exact valid
    started := ⟨[], by rw [List.append_nil]; exact bytes⟩
    whole := fun _ => by
      refine ⟨bytes, ?_⟩
      rw [sizes_append, submitted_append, returned]
      simp [sizes, submitted, frameSize, frameHeader, List.filterMap_cons] }

/-- Bytes move from the outstanding call to the kernel. -/
theorem moved (writes : Writes s past) {total : Nat} {remaining front back : Bytes}
    (writing : s.sender = .writing total remaining) (cut : front ++ back = remaining)
    {sender : Sender} (left : sender.remaining = back) (nothing : submitted events = [])
    (taken : outgoing events = front) (counted : sizes events ++ sender.totals = [total]) :
    Writes { s with sender } (past ++ events) := by
  have bytes : outgoing (past ++ events) ++ sender.remaining =
      outgoing past ++ s.sender.remaining := by
    rw [outgoing_append, taken, left, writing, Sender.remaining, List.append_assoc, cut]
  have given : submitted (past ++ events) = submitted past := by
    rw [submitted_append, nothing, List.append_nil]
  exact {
    valid := by
      rw [given]
      exact writes.valid
    started := by
      rw [given, bytes]
      exact writes.started
    whole := fun up => by
      obtain ⟨written, returned⟩ := writes.whole up
      rw [writing, Sender.totals] at returned
      refine ⟨by rw [given, bytes, written], ?_⟩
      rw [sizes_append, List.append_assoc, counted, given, returned] }

/-- Every step keeps what was taken and what is left the frames of what was given. -/
theorem effect (writes : Writes s past) (done : s.Effect s' events) : Writes s' (past ++ events) := by
  cases done with
  | stayed | closed | sendRefused | receiveRefused | entered | delivered | drained | awaited
  | filled => exact writes.keep rfl id rfl rfl rfl
  | receiveFailed | rejected => exact writes.keep rfl nofun rfl rfl rfl
  | sendFailed error => exact writes.sendFailed error
  | framed payload owned up idle framed => exact writes.framed up idle framed
  | accepted total remaining count writing =>
    exact writes.moved writing (List.take_append_drop count remaining) rfl rfl
      (List.append_nil _) rfl
  | completed total remaining writing =>
    exact writes.moved writing (List.append_nil remaining) rfl rfl (by simp [outgoing]) rfl

end Writes

/-! ## Runs -/

namespace PipeStream

/-- Both directions hold of every run, by what each step can do. -/
theorem run_sound (actions : List Action) :
    Reads (run actions).1 (run actions).2 ∧ Writes (run actions).1 (run actions).2 := by
  refine Transition.run_invariant step (fun s events => Reads s events ∧ Writes s events) {} []
    ⟨.initial, .initial⟩ ?_ actions
  intro s past action sound
  obtain ⟨reads, writes⟩ := sound
  have done := s.step_effect action
  exact ⟨reads.effect done, writes.effect done⟩

/-! ### Failures -/

variable {s s' : PipeStream} {past events : List Event}

theorem down_sendFailed (s : PipeStream) (error : Failure) : (s.sendFailed error).1.down = true :=
  Bool.or_true _

theorem down_receiveFailed (s : PipeStream) (error : Failure) :
    (s.receiveFailed error).1.down = true := Bool.or_true _

theorem Effect.down (done : s.Effect s' events) (before : s.down = true) : s'.down = true := by
  cases done with
  | sendFailed error => exact down_sendFailed s error
  | receiveFailed | rejected => exact down_receiveFailed _ _
  | closed => rfl
  | stayed | sendRefused | framed | accepted | completed | receiveRefused | entered | delivered
  | drained | awaited | filled => exact before

/-- A failure is returned by a stream that is down from then on. -/
theorem Effect.failure (done : s.Effect s' events) {event : Event} (member : event ∈ events)
    (failed : event.failure = true) : s'.down = true := by
  cases done with
  | sendRefused down | receiveRefused down => exact down
  | sendFailed error => exact down_sendFailed s error
  | receiveFailed | rejected => exact down_receiveFailed _ _
  | stayed | closed | entered | drained | awaited => cases member
  | framed | accepted | delivered | filled =>
    cases List.mem_singleton.mp member
    cases failed
  | completed =>
    rcases List.mem_cons.mp member with rfl | last
    · cases failed
    · cases List.mem_singleton.mp last
      cases failed

/-- After a failure the stream stays down, whatever is done to it. -/
theorem run_down (actions later : List Action)
    (failed : ∃ event ∈ (run actions).2, event.failure = true) :
    (run (actions ++ later)).1.down = true := by
  have once := Transition.run_invariant step
    (fun s events => (∃ event ∈ events, event.failure = true) → s.down = true) {} [] (by simp)
    (fun s past action before => by
      intro given
      obtain ⟨event, member, failure⟩ := given
      have done := s.step_effect action
      rcases List.mem_append.mp member with earlier | now
      · exact done.down (before ⟨event, earlier, failure⟩)
      · exact done.failure now failure)
    (actions ++ later)
  apply once
  obtain ⟨event, member, failure⟩ := failed
  refine ⟨event, ?_, failure⟩
  rw [List.nil_append, Transition.run_append]
  exact List.mem_append_left _ member

/-- A call on a stream that is down returns at once and touches nothing. -/
theorem calls_refused (down : s.down = true) :
    (s.sender = .idle → ∀ payload preflight,
      s.step (.send payload preflight) = (s, [.sent (.error { kind := .disconnected })])) ∧
    (s.receiver = .idle →
      s.step .receive = (s, [.received (.error { kind := .disconnected })])) := by
  refine ⟨fun idle payload preflight => ?_, fun idle => ?_⟩
  · simp [step, send, idle, down]
  · simp [step, receive, idle, down]

/-! ### The end of the peer's stream -/

/-- A zero-byte read or a `disconnected` error. -/
def Ended (received : Result Chunk) : Prop :=
  (∃ chunk : Chunk, received = .ok chunk ∧ chunk.val = []) ∨
    ∃ error, received = .error error ∧ error.kind = .disconnected

/-- How the receive that observes the end fails: by whether the bytes so far are
whole frames. -/
structure EndReported (bytes : Bytes) (failure : Failure) : Prop where
  whole : (reference bytes).2 = .incomplete [] →
    failure.kind = .disconnected ∧ failure.framing = none
  cut : (reference bytes).2 ≠ .incomplete [] →
    failure.kind = .protocolViolation ∧ failure.framing = some ⟨.truncated, true, none⟩

/-- The end of the bytes is a clean disconnect between frames and a violation inside of one. -/
theorem read_ended (reads : Reads s past) (reading : s.receiver = .reading)
    {received : Result Chunk} (ended : Ended received) :
    ∃ failure, s.step (.read received) = s.receiveFailed failure ∧
      EndReported (incoming past) failure := by
  obtain ⟨pending, decoder, unfinished, parsed⟩ := reads.busy (by rw [reading]; decide)
  rw [StreamState.unread_empty (reads.waiting reading), List.append_nil,
    reference_unfinished pending unfinished, List.append_nil] at parsed
  obtain ⟨clean, truncated, -⟩ := finish_pending pending
  rw [← decoder] at clean truncated
  -- Both ends report `finish` and the kind that goes with it.
  have reported : ∀ failure : Failure, failure.framing = s.state.decoder.finish →
      failure.kind = (if s.state.decoder.finish.isSome then .protocolViolation
        else .disconnected) → EndReported (incoming past) failure := by
    intro failure framing kind
    refine ⟨fun whole => ?_, fun cut => ?_⟩
    · rw [parsed] at whole
      cases whole
      rw [clean.mpr rfl] at framing kind
      exact ⟨kind, framing⟩
    · rw [parsed] at cut
      rw [truncated.mpr fun empty => cut (by rw [empty])] at framing kind
      exact ⟨kind, framing⟩
  rcases ended with ⟨chunk, rfl, empty⟩ | ⟨error, rfl, kind⟩
  · simp only [step, read, reading, empty, List.length_nil, if_true]
    exact ⟨_, rfl, reported _ rfl rfl⟩
  · simp only [step, read, reading, kind, if_true]
    exact ⟨_, rfl, reported _ rfl rfl⟩

/-! ### Orderly runs -/

/-- No deadline or stop fires, `write_some` takes and `read_some` brings at least a
byte, and the stream is not closed. -/
def Permitted (s : PipeStream) : Action → Prop
  | .send payload preflight => preflight = none ∧ validLength payload.length
  | .wrote written => ∃ count, written = .ok count ∧ 1 ≤ count ∧
    count ≤ min s.sender.remaining.length bufferBytes
  | .receive => True
  | .checked preflight => preflight = none
  | .read received => ∃ chunk : Chunk, received = .ok chunk ∧ 1 ≤ chunk.val.length
  | .close => False

def Orderly : PipeStream → List Action → Prop
  | _, [] => True
  | s, action :: rest => Permitted s action ∧ Orderly (s.step action).1 rest

/-- The step fails nothing. -/
def Succeeds (done : PipeStream × List Event) : Prop :=
  done.1.down = false ∧ ∀ event ∈ done.2, event.failure = false

theorem succeeds_silent (up : s.down = false) : Succeeds (s, []) :=
  ⟨up, fun _ member => absurd member List.not_mem_nil⟩

theorem succeeds_event (up : s.down = false) {event : Event} (fine : event.failure = false) :
    Succeeds (s, [event]) :=
  ⟨up, fun _ member => List.mem_singleton.mp member ▸ fine⟩

theorem write_succeeds (up : s.down = false) (total : Nat) (remaining : Bytes) {event : Event}
    (fine : event.failure = false) :
    Succeeds ((s.write total remaining).1, event :: (s.write total remaining).2) := by
  unfold write
  split
  · refine ⟨up, fun other member => ?_⟩
    rcases List.mem_cons.mp member with rfl | last
    · exact fine
    · cases List.mem_singleton.mp last
      rfl
  · exact succeeds_event up fine

theorem send_succeeds (up : s.down = false) {payload : Bytes}
    (valid : validLength payload.length) : Succeeds (s.send payload none) := by
  unfold send
  split
  · rw [if_neg (by simp [up]), frame_valid valid]
    exact write_succeeds up _ _ rfl
  · exact succeeds_silent up

theorem wrote_succeeds (up : s.down = false) {count : Nat} (some : 1 ≤ count)
    (room : count ≤ s.sender.remaining.length) : Succeeds (s.wrote (.ok count)) := by
  unfold wrote
  split
  · rename_i total remaining writing
    rw [writing, Sender.remaining] at room
    dsimp only
    rw [if_neg (by omega)]
    exact write_succeeds up _ _ rfl
  · exact succeeds_silent up

theorem receive_succeeds (up : s.down = false) : Succeeds s.receive := by
  unfold receive
  split
  · rw [if_neg (by simp [up])]
    exact succeeds_silent up
  · exact succeeds_silent up

/-- The decoder refuses nothing that comes from a valid parse. -/
theorem checked_succeeds (reads : Reads s past) (up : s.down = false)
    (valid : (reference (incoming past)).2 ≠ .invalid) : Succeeds (s.checked none) := by
  unfold checked
  split
  · rename_i looping
    dsimp only
    split
    · split
      · rename_i error decoder consumed
        obtain ⟨pending, step, parsed⟩ := reads.consumes looping consumed
        cases step with
        | invalid header broken =>
          rw [broken] at parsed
          rw [parsed] at valid
          exact absurd rfl valid
      · split
        · exact succeeds_event up rfl
        · exact succeeds_silent up
    · exact succeeds_silent up
  · exact succeeds_silent up

theorem read_succeeds (up : s.down = false) {chunk : Chunk} (some : 1 ≤ chunk.val.length) :
    Succeeds (s.read (.ok chunk)) := by
  unfold read
  split
  · dsimp only
    rw [if_neg (by omega)]
    exact succeeds_event up rfl
  · exact succeeds_silent up

/-- A permitted step on a sound stream neither fails nor brings the stream down. -/
theorem step_succeeds (reads : Reads s past) (up : s.down = false)
    (valid : (reference (incoming past)).2 ≠ .invalid) {action : Action}
    (permitted : Permitted s action) : Succeeds (s.step action) := by
  cases action with
  | send payload preflight =>
    obtain ⟨rfl, valid⟩ := permitted
    exact send_succeeds up valid
  | wrote written =>
    obtain ⟨count, rfl, some, room⟩ := permitted
    exact wrote_succeeds up some (Nat.le_trans room (Nat.min_le_left _ _))
  | receive => exact receive_succeeds up
  | checked preflight =>
    cases permitted
    exact checked_succeeds reads up valid
  | read received =>
    obtain ⟨chunk, rfl, some⟩ := permitted
    exact read_succeeds up some
  | close => cases permitted

/-- What was read before a valid stream ends was valid. -/
theorem valid_front {front back : Bytes} (valid : (reference (front ++ back)).2 ≠ .invalid) :
    (reference front).2 ≠ .invalid := by
  intro broken
  rw [reference_append] at valid
  split at valid
  · rename_i parsed
    rw [parsed] at broken
    cases broken
  · exact valid rfl

theorem orderly_succeeds (actions : List Action) (reads : Reads s past) (up : s.down = false)
    (orderly : Orderly s actions)
    (valid : (reference (incoming (past ++ (Transition.run step s actions).2))).2 ≠ .invalid) :
    Succeeds (Transition.run step s actions) := by
  induction actions generalizing s past with
  | nil => exact succeeds_silent up
  | cons action rest ih =>
    obtain ⟨permitted, later⟩ := orderly
    have before : (reference (incoming past)).2 ≠ .invalid := by
      rw [incoming_append] at valid
      exact valid_front valid
    obtain ⟨still, fine⟩ := step_succeeds reads up before permitted
    rw [Transition.run, ← List.append_assoc] at valid
    obtain ⟨final, others⟩ := ih (reads.effect (s.step_effect action)) still later valid
    refine ⟨final, fun event member => ?_⟩
    rcases List.mem_append.mp member with now | next
    · exact fine event now
    · exact others event next

end PipeStream

/-! ## Two ends of a channel -/

section
variable {near far : PipeStream} {out inn : List Event}

/-- The first bytes of what was written parse to the first payloads given. -/
theorem channel_parse (writes : Writes near out) (channel : incoming inn <+: outgoing out) :
    (reference (incoming inn)).2 ≠ .invalid ∧ (reference (incoming inn)).1 <+: submitted out := by
  have started := (List.prefix_append _ _).trans writes.started
  obtain ⟨rest, joined⟩ := channel.trans started
  have parsed := reference_frames writes.valid
  rw [← joined, reference_append] at parsed
  split at parsed
  · rename_i payloads left front
    rw [front]
    exact ⟨nofun, _, congrArg Prod.fst parsed⟩
  · cases congrArg Prod.snd parsed

/-- What was returned is the front of what the bytes parse to. -/
theorem returned_parsed (reads : Reads far inn) : returned inn <+: (reference (incoming inn)).1 := by
  by_cases bad : far.state.decoder.poisoned = true
  · rw [(reads.poisoned bad).2.2]
  · obtain ⟨pending, -, -, parsed⟩ := reads.parsed (by simpa using bad)
    rw [parsed]
    exact List.prefix_append _ _

/-- A receive that waits for bytes has returned every whole frame that arrived. -/
theorem returned_waiting (reads : Reads far inn) (reading : far.receiver = .reading) :
    returned inn = (reference (incoming inn)).1 := by
  obtain ⟨pending, -, unfinished, parsed⟩ := reads.busy (by rw [reading]; decide)
  rw [StreamState.unread_empty (reads.waiting reading), List.append_nil,
    reference_unfinished pending unfinished, List.append_nil] at parsed
  rw [parsed]

end

/-- What holds of an end that sends and of the other end of its channel. -/
structure Delivers (near far : PipeStream × List Event) : Prop where
  up : near.1.down = false ∧ far.1.down = false
  fine : ∀ event ∈ near.2 ++ far.2, event.failure = false
  sizes : sizes near.2 ++ near.1.sender.totals = (submitted near.2).map frameSize
  order : returned far.2 <+: submitted near.2
  prompt : far.1.receiver = .reading → returned far.2 = (reference (incoming far.2)).1
  complete : far.1.receiver = .reading → near.1.sender = .idle →
    incoming far.2 = outgoing near.2 → returned far.2 = submitted near.2

namespace PipeStream

/-- Two orderly runs joined by channels deliver what was sent. -/
theorem run_delivers {near far : List Action} (there : incoming (run far).2 <+: outgoing (run near).2)
    (back : incoming (run near).2 <+: outgoing (run far).2) (sending : Orderly {} near)
    (receiving : Orderly {} far) : Delivers (run near) (run far) := by
  obtain ⟨nearReads, nearWrites⟩ := run_sound near
  obtain ⟨farReads, farWrites⟩ := run_sound far
  obtain ⟨farValid, front⟩ := channel_parse nearWrites there
  obtain ⟨nearValid, -⟩ := channel_parse farWrites back
  obtain ⟨nearUp, nearFine⟩ := orderly_succeeds near .initial rfl sending nearValid
  obtain ⟨farUp, farFine⟩ := orderly_succeeds far .initial rfl receiving farValid
  have sound : (run near).1.state.failed = false := (Bool.or_eq_false_iff.mp nearUp).2
  obtain ⟨written, counted⟩ := nearWrites.whole sound
  exact {
    up := ⟨nearUp, farUp⟩
    fine := fun event member => (List.mem_append.mp member).elim (nearFine event) (farFine event)
    sizes := counted
    order := (returned_parsed farReads).trans front
    prompt := returned_waiting farReads
    complete := fun reading idle all => by
      rw [idle, Sender.remaining, List.append_nil] at written
      rw [returned_waiting farReads reading, all, written, reference_frames nearWrites.valid] }

end PipeStream

open PipeStream in
/-- The stream transport delivers whole payloads in order. The window of the buffer
is sound in every state and empty whenever it is refilled. Over a lossless channel,
cut in any way at either end, `receive` returns what was sent and nothing else, and
waits only when it has returned all of it. The end of the peer's stream is reported
by whether it cut a frame, and after a failure nothing is read or written. -/
theorem stream_delivers_whole_payloads :
    (∀ actions, (run actions).1.state.begin ≤ (run actions).1.state.end_ ∧
      (run actions).1.state.end_ ≤ bufferBytes ∧
      ((run actions).1.receiver = .reading →
        (run actions).1.state.begin = (run actions).1.state.end_)) ∧
    (∀ near far, incoming (run far).2 <+: outgoing (run near).2 →
      returned (run far).2 <+: submitted (run near).2 ∧
      (incoming (run near).2 <+: outgoing (run far).2 → Orderly {} near → Orderly {} far →
        Delivers (run near) (run far))) ∧
    (∀ actions received, (run actions).1.receiver = .reading → Ended received →
      ∃ failure, (run actions).1.step (.read received) = (run actions).1.receiveFailed failure ∧
        EndReported (incoming (run actions).2) failure) ∧
    (∀ actions later, (∃ event ∈ (run actions).2, event.failure = true) →
      ((run (actions ++ later)).1.sender = .idle → ∀ payload preflight,
        (run (actions ++ later)).1.step (.send payload preflight) =
          ((run (actions ++ later)).1, [.sent (.error { kind := .disconnected })])) ∧
      ((run (actions ++ later)).1.receiver = .idle →
        (run (actions ++ later)).1.step .receive =
          ((run (actions ++ later)).1, [.received (.error { kind := .disconnected })]))) := by
  refine ⟨fun actions => ?_, fun near far there => ⟨?_, ?_⟩, fun actions received => ?_,
    fun actions later failed => ?_⟩
  · have reads := (run_sound actions).1
    exact ⟨reads.window, reads.inside, reads.waiting⟩
  · have front := (channel_parse (run_sound near).2 there).2
    exact (returned_parsed (run_sound far).1).trans front
  · intro back sending receiving
    exact run_delivers there back sending receiving
  · intro reading ended
    exact read_ended (run_sound actions).1 reading ended
  · exact calls_refused (run_down actions later failed)

/-- One payload written in two parts. -/
def sendParts : List PipeStream.Action :=
  [.send [7] none, .wrote (.ok 2), .wrote (.ok 3)]

/-- Its frame cut elsewhere when it is read. -/
def receiveParts : List PipeStream.Action :=
  [.receive, .checked none, .read (.ok ⟨[1, 0, 0], by decide⟩), .checked none,
    .read (.ok ⟨[0, 7], by decide⟩), .checked none]

theorem stream_delivers_whole_payloads_parts :
    (PipeStream.run receiveParts).2 = [.filled [1, 0, 0], .filled [0, 7], .received (.ok [7])] ∧
      Delivers (PipeStream.run sendParts) (PipeStream.run receiveParts) := by
  have wire : incoming (PipeStream.run receiveParts).2 = outgoing (PipeStream.run sendParts).2 := by
    decide +kernel
  have silent : incoming (PipeStream.run sendParts).2 = [] := by decide +kernel
  refine ⟨by decide +kernel, (stream_delivers_whole_payloads.2.1 sendParts receiveParts ?_).2 ?_ ?_ ?_⟩
  · rw [wire]
  · rw [silent]
    exact List.nil_prefix
  · exact ⟨⟨rfl, by decide⟩, ⟨2, rfl, by decide, by decide⟩, ⟨3, rfl, by decide, by decide⟩, trivial⟩
  · exact ⟨trivial, rfl, ⟨_, rfl, by decide⟩, rfl, ⟨_, rfl, by decide⟩, rfl, trivial⟩

end PipeForge.Transport
