import PipeForge.Library.Transition
import PipeForge.Protocol.FramingRefinement
import PipeForge.Transport.Types

/-!
# The stream over a pipe

`pipe_stream::send`, `receive` and `close` (transport/windows/stream.cpp) over the
state they share (stream_state.hpp). Each function is the work between two blocking
calls, so a run alternates calls with what `preflight`, `write_some` and
`read_some` report. One thread may send while another receives: they meet only in
`failed`. What the kernel took and delivered is recorded as events, so a run shows
all the I/O it made.
-/

namespace PipeForge.Transport
open Contracts Library Protocol

/-- `native::buffer_bytes`. -/
def bufferBytes : Nat := 16 * 1024

/-- What a successful `read_some` put at the front of the buffer; the kernel is
asked for no more than the buffer holds. -/
abbrev Chunk := { bytes : Bytes // bytes.length ≤ bufferBytes }

structure StreamState where
  input : Bytes := List.replicate bufferBytes 0
  begin : Nat := 0
  end_ : Nat := 0
  decoder : FrameDecoder := .fresh
  failed : Bool := false
  full : input.length = bufferBytes := by simp

namespace StreamState

/-- The bytes of the window that were not consumed yet. -/
def unread (state : StreamState) : Bytes := (state.input.take state.end_).drop state.begin

/-- The kernel writes over the front of the array and leaves the rest. -/
def fill (state : StreamState) (chunk : Chunk) : StreamState :=
  { state with
    input := chunk.val ++ state.input.drop chunk.val.length
    begin := 0
    end_ := chunk.val.length
    full := by
      have room := chunk.property
      have full := state.full
      simp only [List.length_append, List.length_drop]
      omega }

end StreamState

/-- Where the thread in `send` stands. -/
inductive Sender where
  | idle
  | writing (total : Nat) (remaining : Bytes)
  deriving DecidableEq, Repr

/-- Where the thread in `receive` stands: at the head of the loop or in `read_some`. -/
inductive Receiver where
  | idle
  | looping
  | reading
  deriving DecidableEq, Repr

/-- `closed` says that `state_` was reset. -/
structure PipeStream where
  state : StreamState := {}
  closed : Bool := false
  sender : Sender := .idle
  receiver : Receiver := .idle

inductive Event where
  /-- `send` owns a framed copy of the payload. -/
  | sending (payload : Bytes)
  /-- The kernel took these bytes. -/
  | accepted (bytes : Bytes)
  | sent (result : Result Nat)
  /-- The kernel delivered these bytes. -/
  | filled (bytes : Bytes)
  | received (result : Result Bytes)
  deriving DecidableEq, Repr

namespace PipeStream
variable (s : PipeStream)

/-- `!state_ || state_->failed.load()`. -/
def down : Bool := s.closed || s.state.failed

def sendFailed (error : Failure) : PipeStream × List Event :=
  ({ s with state := { s.state with failed := true }, sender := .idle }, [.sent (.error error)])

def receiveFailed (error : Failure) : PipeStream × List Event :=
  ({ s with state := { s.state with failed := true }, receiver := .idle },
    [.received (.error error)])

/-- The test of the write loop. -/
def write (total : Nat) (remaining : Bytes) : PipeStream × List Event :=
  if remaining.isEmpty then ({ s with sender := .idle }, [.sent (.ok total)])
  else ({ s with sender := .writing total remaining }, [])

def send (payload : Bytes) (preflight : Option Failure) : PipeStream × List Event :=
  match s.sender with
  | .idle =>
    if s.down then (s, [.sent (.error { kind := .disconnected })])
    else
      match preflight with
      | some error => s.sendFailed error
      | none =>
        match frame payload with
        | .error error => s.sendFailed { kind := .protocolViolation, framing := some error }
        | .ok owned =>
          let next := s.write owned.length owned
          (next.1, .sending payload :: next.2)
  | _ => (s, [])

/-- `write_some` returned. -/
def wrote (written : Result Nat) : PipeStream × List Event :=
  match s.sender with
  | .writing total remaining =>
    match written with
    | .error error => s.sendFailed error
    | .ok count =>
      if count = 0 ∨ count > remaining.length then s.sendFailed { kind := .disconnected }
      else
        let next := s.write total (remaining.drop count)
        (next.1, .accepted (remaining.take count) :: next.2)
  | _ => (s, [])

def receive : PipeStream × List Event :=
  match s.receiver with
  | .idle =>
    if s.down then (s, [.received (.error { kind := .disconnected })])
    else ({ s with receiver := .looping }, [])
  | _ => (s, [])

/-- The loop body up to `read_some`. -/
def checked (preflight : Option Failure) : PipeStream × List Event :=
  match s.receiver with
  | .looping =>
    match preflight with
    | some error => s.receiveFailed error
    | none =>
      if s.state.begin < s.state.end_ then
        match s.state.decoder.consume s.state.unread with
        | (.error error, decoder) =>
          { s with state := { s.state with decoder } }.receiveFailed
            { kind := .protocolViolation, framing := some error }
        | (.ok progress, decoder) =>
          let state := { s.state with decoder, begin := s.state.begin + progress.consumed }
          match progress.payload with
          | some payload => ({ s with state, receiver := .idle }, [.received (.ok payload)])
          | none => ({ s with state, receiver := .reading }, [])
      else ({ s with receiver := .reading }, [])
  | _ => (s, [])

/-- `read_some` returned. -/
def read (received : Result Chunk) : PipeStream × List Event :=
  match s.receiver with
  | .reading =>
    match received with
    | .error error =>
      if error.kind = .disconnected then
        let framing := s.state.decoder.finish
        s.receiveFailed
          { error with kind := if framing.isSome then .protocolViolation else error.kind, framing }
      else s.receiveFailed error
    | .ok chunk =>
      if chunk.val.length = 0 then
        let unfinished := s.state.decoder.finish
        s.receiveFailed
          { kind := if unfinished.isSome then .protocolViolation else .disconnected
            framing := unfinished }
      else ({ s with state := s.state.fill chunk, receiver := .looping }, [.filled chunk.val])
  | _ => (s, [])

/-- To be called when no other call is outstanding. -/
def close : PipeStream :=
  match s.sender, s.receiver with
  | .idle, .idle => { s with closed := true }
  | _, _ => s

inductive Action where
  | send (payload : Bytes) (preflight : Option Failure)
  | wrote (written : Result Nat)
  | receive
  | checked (preflight : Option Failure)
  | read (received : Result Chunk)
  | close

def step (s : PipeStream) : Action → PipeStream × List Event
  | .send payload preflight => s.send payload preflight
  | .wrote written => s.wrote written
  | .receive => s.receive
  | .checked preflight => s.checked preflight
  | .read received => s.read received
  | .close => (s.close, [])

def run (actions : List Action) : PipeStream × List Event := Transition.run step {} actions

/-! ## What a step can do -/

/-- Every way a step can end, with the checks that were passed on the way. -/
inductive Effect (s : PipeStream) : PipeStream → List Event → Prop
  | stayed : Effect s s []
  | closed : Effect s { s with closed := true } []
  | sendRefused (down : s.down = true) : Effect s s [.sent (.error { kind := .disconnected })]
  | sendFailed (error : Failure) : Effect s (s.sendFailed error).1 [.sent (.error error)]
  | framed (payload owned : Bytes) (up : s.down = false) (idle : s.sender = .idle)
      (framed : frame payload = .ok owned) :
      Effect s { s with sender := .writing owned.length owned } [.sending payload]
  | accepted (total : Nat) (remaining : Bytes) (count : Nat)
      (writing : s.sender = .writing total remaining) :
      Effect s { s with sender := .writing total (remaining.drop count) }
        [.accepted (remaining.take count)]
  | completed (total : Nat) (remaining : Bytes) (writing : s.sender = .writing total remaining) :
      Effect s { s with sender := .idle } [.accepted remaining, .sent (.ok total)]
  | receiveRefused (down : s.down = true) :
      Effect s s [.received (.error { kind := .disconnected })]
  | receiveFailed (error : Failure) :
      Effect s (s.receiveFailed error).1 [.received (.error error)]
  | entered (up : s.down = false) (idle : s.receiver = .idle) :
      Effect s { s with receiver := .looping } []
  | rejected (error : Protocol.Failure) (decoder : FrameDecoder) (looping : s.receiver = .looping)
      (ready : s.state.begin < s.state.end_)
      (consumed : s.state.decoder.consume s.state.unread = (.error error, decoder)) :
      Effect s ({ s with state := { s.state with decoder } }.receiveFailed
          { kind := .protocolViolation, framing := some error }).1
        [.received (.error { kind := .protocolViolation, framing := some error })]
  | delivered (progress : FrameProgress) (decoder : FrameDecoder) (payload : Bytes)
      (looping : s.receiver = .looping) (ready : s.state.begin < s.state.end_)
      (consumed : s.state.decoder.consume s.state.unread = (.ok progress, decoder))
      (whole : progress.payload = some payload) :
      Effect s
        { s with
          state := { s.state with decoder, begin := s.state.begin + progress.consumed }
          receiver := .idle }
        [.received (.ok payload)]
  | drained (progress : FrameProgress) (decoder : FrameDecoder) (looping : s.receiver = .looping)
      (ready : s.state.begin < s.state.end_)
      (consumed : s.state.decoder.consume s.state.unread = (.ok progress, decoder))
      (partly : progress.payload = none) :
      Effect s
        { s with
          state := { s.state with decoder, begin := s.state.begin + progress.consumed }
          receiver := .reading } []
  | awaited (looping : s.receiver = .looping) (empty : s.state.end_ ≤ s.state.begin) :
      Effect s { s with receiver := .reading } []
  | filled (chunk : Chunk) (reading : s.receiver = .reading) :
      Effect s { s with state := s.state.fill chunk, receiver := .looping } [.filled chunk.val]

/-- `send` frames the payload or reports why it may not. -/
theorem send_effect (payload : Bytes) (preflight : Option Failure) :
    Effect s (s.send payload preflight).1 (s.send payload preflight).2 := by
  unfold send
  split
  · rename_i idle
    split
    · rename_i down
      exact .sendRefused down
    · rename_i up
      split
      · exact .sendFailed _
      · split
        · exact .sendFailed _
        · rename_i owned framed
          have nonempty : owned.isEmpty = false := by
            rw [(frame_ok framed).1]
            rfl
          simp only [write, nonempty, Bool.false_eq_true, if_false]
          exact .framed payload owned (by simpa using up) idle framed
  · exact .stayed

/-- `send` finds no violation in a payload that can be framed. -/
theorem send_reports {payload : Bytes} (fits : validLength payload.length)
    {preflight : Option Failure} {error : Failure}
    (reported : .sent (.error error) ∈ (s.send payload preflight).2) :
    error.kind = .disconnected ∨ preflight = some error := by
  unfold send at reported
  split at reported
  · split at reported
    · cases List.mem_singleton.mp reported
      exact Or.inl rfl
    · split at reported
      · cases List.mem_singleton.mp reported
        exact Or.inr rfl
      · rw [frame_valid fits] at reported
        simp only [write] at reported
        split at reported <;> simp at reported
  · cases reported

/-- A failed write is reported with its own failure, and a count out of range as a disconnect. -/
theorem wrote_reports {written : Result Nat} {error : Failure}
    (reported : .sent (.error error) ∈ (s.wrote written).2) :
    error.kind = .disconnected ∨ written = .error error := by
  unfold wrote at reported
  split at reported
  · split at reported
    · cases List.mem_singleton.mp reported
      exact Or.inr rfl
    · split at reported
      · cases List.mem_singleton.mp reported
        exact Or.inl rfl
      · simp only [write] at reported
        split at reported <;> simp at reported
  · cases reported

/-- Written bytes leave the pending frame from its front. -/
theorem wrote_effect (written : Result Nat) : Effect s (s.wrote written).1 (s.wrote written).2 := by
  unfold wrote
  split
  · rename_i total remaining writing
    split
    · exact .sendFailed _
    · rename_i count
      split
      · exact .sendFailed _
      · rename_i range
        by_cases last : remaining.drop count = []
        · have all : remaining.take count = remaining := by
            have joined := List.take_append_drop count remaining
            rw [last, List.append_nil] at joined
            exact joined
          simp only [write, last, List.isEmpty_nil, if_true, all]
          exact .completed total remaining writing
        · have more : (remaining.drop count).isEmpty = false := by simpa using last
          simp only [write, more, Bool.false_eq_true, if_false]
          exact .accepted total remaining count writing
  · exact .stayed

theorem receive_effect : Effect s s.receive.1 s.receive.2 := by
  unfold receive
  split
  · rename_i idle
    split
    · rename_i down
      exact .receiveRefused down
    · rename_i up
      exact .entered (by simpa using up) idle
  · exact .stayed

/-- A turn of the receive loop reports, decodes what is buffered, or lets the read begin. -/
theorem checked_effect (preflight : Option Failure) :
    Effect s (s.checked preflight).1 (s.checked preflight).2 := by
  unfold checked
  split
  · rename_i looping
    split
    · exact .receiveFailed _
    · split
      · rename_i ready
        split
        · rename_i error decoder consumed
          exact .rejected error decoder looping ready consumed
        · rename_i progress decoder consumed
          dsimp only
          split
          · rename_i payload whole
            exact .delivered progress decoder payload looping ready consumed whole
          · rename_i partly
            exact .drained progress decoder looping ready consumed partly
      · rename_i empty
        exact .awaited looping (Nat.not_lt.mp empty)
  · exact .stayed

/-- Bytes that were read fill the buffer the loop decodes from next. -/
theorem read_effect (received : Result Chunk) : Effect s (s.read received).1 (s.read received).2 := by
  unfold read
  split
  · rename_i reading
    split
    · split
      · exact .receiveFailed _
      · exact .receiveFailed _
    · rename_i chunk
      split
      · exact .receiveFailed _
      · exact .filled chunk reading
  · exact .stayed

theorem close_effect : Effect s s.close [] := by
  unfold close
  split
  · exact .closed
  · exact .stayed

/-- Each step of the stream is one effect on the bytes in flight. -/
theorem step_effect (action : Action) : Effect s (s.step action).1 (s.step action).2 := by
  cases action with
  | send payload preflight => exact s.send_effect payload preflight
  | wrote written => exact s.wrote_effect written
  | receive => exact s.receive_effect
  | checked preflight => exact s.checked_effect preflight
  | read received => exact s.read_effect received
  | close => exact s.close_effect

end PipeStream

end PipeForge.Transport
