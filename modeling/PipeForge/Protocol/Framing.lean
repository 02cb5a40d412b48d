import PipeForge.Contracts.Types
import PipeForge.Library.SizeT

/-!
# Length-prefixed framing

`frame`, the resumable `frame_decoder` and its `finish` (framing.cpp), and the
whole-stream parse they are compared with.

The decoder state after some bytes is not defined by running the decoder:
`ofPending` computes it from the bytes of the unfinished frame alone. One
`consume` takes `ofPending` of the bytes before to `ofPending` of the bytes
after, delivers a completed payload or poisons the decoder (`consume_unfinished`,
`consume_complete`, `consume_invalid`). Feeding any stream, however it is cut,
then gives the reference parse.
-/

namespace PipeForge.Protocol
open Contracts Library

inductive FailureCode where
  | malformed | invalidFields | unsupportedVersion | limitExceeded | truncated
  deriving DecidableEq, Repr

structure Failure where
  code : FailureCode
  closeSession : Bool
  requestId : Option UInt64
  deriving DecidableEq, Repr

abbrev Result (α : Type) := Except Failure α

/-- The four header bytes, least significant first. -/
def frameHeader (size : Nat) : Bytes :=
  (List.range frameHeaderBytes).map fun index => UInt8.ofNat ((size >>> (index * 8)) &&& 0xff)

def frame (payload : Bytes) : Result Bytes :=
  if payload.isEmpty || decide (payload.length > maxPayloadBytes) then
    .error ⟨.limitExceeded, true, none⟩
  else .ok (frameHeader payload.length ++ payload)

/-- The loop of `consume` over the header: each byte is or-ed in at its shift. -/
def headerLength (header : Bytes) : Nat :=
  (header.foldl (fun (acc : Nat × Nat) byte => (acc.1 ||| (byte.toNat <<< acc.2), acc.2 + 8))
    (0, 0)).1

structure FrameProgress where
  consumed : Nat
  payload : Option Bytes
  deriving DecidableEq, Repr

/-- `header` holds the first `header_used_` bytes of the source's array. -/
structure FrameDecoder where
  header : Bytes
  expected : Nat
  payload : Bytes
  poisoned : Bool
  deriving DecidableEq, Repr

namespace FrameDecoder

def fresh : FrameDecoder := ⟨[], 0, [], false⟩

/-- The second half of `consume`, entered with a complete and valid header. -/
def fill (d : FrameDecoder) (originalSize : Nat) (input : Bytes) :
    Result FrameProgress × FrameDecoder :=
  let count := min input.length (SizeT.sub d.expected d.payload.length)
  let payload := d.payload ++ input.take count
  let rest := input.drop count
  if payload.length ≠ d.expected then
    (.ok ⟨originalSize - rest.length, none⟩, { d with payload })
  else (.ok ⟨originalSize - rest.length, some payload⟩,
    { d with payload := [], header := [], expected := 0 })

def consume (d : FrameDecoder) (input : Bytes) : Result FrameProgress × FrameDecoder :=
  if d.poisoned then (.error ⟨.malformed, true, none⟩, d)
  else if d.header.length < frameHeaderBytes then
    let count := min input.length (frameHeaderBytes - d.header.length)
    let header := d.header ++ input.take count
    if header.length ≠ frameHeaderBytes then (.ok ⟨count, none⟩, { d with header })
    else
      let length := headerLength header
      if length = 0 ∨ length > maxPayloadBytes then
        (.error ⟨.limitExceeded, true, none⟩, { d with header, poisoned := true })
      else fill { d with header, expected := length } input.length (input.drop count)
  else fill d input.length input

def finish (d : FrameDecoder) : Option Failure :=
  if d.poisoned || decide (d.header.length ≠ 0) then
    some ⟨if d.poisoned then .malformed else .truncated, true, none⟩
  else none

end FrameDecoder

/-! ## Reference parse -/

/-- What is left when the reference parse stops. -/
inductive Tail where
  | incomplete (rest : Bytes)
  | invalid
  deriving DecidableEq, Repr

/-- Little-endian value of a byte string, by digits rather than by shifts. -/
def littleEndian : Bytes → Nat
  | [] => 0
  | byte :: rest => byte.toNat + 256 * littleEndian rest

def validLength (length : Nat) : Prop := 1 ≤ length ∧ length ≤ maxPayloadBytes

instance (length : Nat) : Decidable (validLength length) :=
  inferInstanceAs (Decidable (_ ∧ _))

theorem frame_ok {payload owned : Bytes} (framed : frame payload = .ok owned) :
    owned = frameHeader payload.length ++ payload ∧ validLength payload.length := by
  unfold frame at framed
  split at framed
  · cases framed
  · rename_i accepted
    simp only [Bool.or_eq_true, List.isEmpty_iff, decide_eq_true_eq, not_or, Nat.not_lt] at accepted
    cases framed
    exact ⟨rfl, List.length_pos_iff.mpr accepted.1, accepted.2⟩

theorem frame_valid {payload : Bytes} (valid : validLength payload.length) :
    frame payload = .ok (frameHeader payload.length ++ payload) := by
  obtain ⟨positive, bounded⟩ := valid
  have nonempty : payload.isEmpty = false := by
    simpa [List.isEmpty_iff] using List.length_pos_iff.mp positive
  simp [frame, nonempty, Nat.not_lt.mpr bounded]

/-- Read a length, emit that many bytes and continue; stop at an invalid length
or when the frame is not all there. -/
def reference (stream : Bytes) : List Bytes × Tail :=
  if stream.length < frameHeaderBytes then ([], .incomplete stream)
  else
    let length := littleEndian (stream.take frameHeaderBytes)
    if ¬ validLength length then ([], .invalid)
    else if stream.length < frameHeaderBytes + length then ([], .incomplete stream)
    else
      let later := reference (stream.drop (frameHeaderBytes + length))
      (((stream.drop frameHeaderBytes).take length) :: later.1, later.2)
termination_by stream.length
decreasing_by
  simp only [List.length_drop, frameHeaderBytes] at *
  omega

end PipeForge.Protocol
