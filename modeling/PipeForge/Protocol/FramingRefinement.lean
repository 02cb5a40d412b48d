import PipeForge.Protocol.Framing

/-!
# The incremental decoder refines the reference parse

`feed` submits one chunk and resubmits the unconsumed suffix, `drive` does so
for every chunk of a stream. Fuel only bounds the resubmissions of one chunk;
`feed_reference` shows one call per byte and one more to be enough.
-/

namespace PipeForge.Protocol
open Contracts Library FrameDecoder

/-! ## Header arithmetic -/

theorem headerLength_fold (header : Bytes) (acc shift : Nat) (small : acc < 2 ^ shift) :
    (header.foldl (fun (acc : Nat × Nat) byte => (acc.1 ||| (byte.toNat <<< acc.2), acc.2 + 8))
      (acc, shift)).1 = acc + 2 ^ shift * littleEndian header := by
  induction header generalizing acc shift with
  | nil => simp [littleEndian]
  | cons byte rest ih =>
    have joined : acc ||| (byte.toNat <<< shift) = 2 ^ shift * byte.toNat + acc := by
      rw [Nat.shiftLeft_eq, Nat.or_comm, Nat.mul_comm, ← Nat.two_pow_add_eq_or_of_lt small]
    have bound : 2 ^ shift * byte.toNat + acc < 2 ^ (shift + 8) := by
      have digit : byte.toNat + 1 ≤ 256 := byte.toNat_lt
      calc 2 ^ shift * byte.toNat + acc < 2 ^ shift * (byte.toNat + 1) := by
            rw [Nat.mul_add, Nat.mul_one]
            omega
        _ ≤ 2 ^ shift * 256 := Nat.mul_le_mul_left _ digit
        _ = 2 ^ (shift + 8) := by rw [Nat.pow_add]
    rw [List.foldl_cons, joined, ih _ _ bound, littleEndian, Nat.pow_add]
    ring

/-- The or-and-shift loop of the source computes the little-endian value. -/
theorem headerLength_eq (header : Bytes) : headerLength header = littleEndian header := by
  simpa [headerLength] using headerLength_fold header 0 0 (by decide)

theorem littleEndian_frameHeader (size : Nat) (fits : size < 2 ^ 32) :
    littleEndian (frameHeader size) = size := by
  have digit (n : Nat) : (UInt8.ofNat (n &&& 0xff)).toNat = n % 256 := by
    have mask : n &&& 0xff = n % 256 := Nat.and_two_pow_sub_one_eq_mod n 8
    rw [mask, UInt8.toNat_ofNat']
    omega
  have listed : frameHeader size = [UInt8.ofNat ((size >>> 0) &&& 0xff),
      UInt8.ofNat ((size >>> 8) &&& 0xff), UInt8.ofNat ((size >>> 16) &&& 0xff),
      UInt8.ofNat ((size >>> 24) &&& 0xff)] := rfl
  simp only [listed, littleEndian, digit, Nat.shiftRight_eq_div_pow]
  omega

/-! ## States of an unfinished frame -/

/-- A proper prefix of a frame with a valid length. -/
def Unfinished (p : Bytes) : Prop :=
  p.length < frameHeaderBytes ∨
    validLength (littleEndian (p.take frameHeaderBytes)) ∧
      p.length < frameHeaderBytes + littleEndian (p.take frameHeaderBytes)

/-- The decoder state after the bytes `p` of an unfinished frame. -/
def ofPending (p : Bytes) : FrameDecoder :=
  if p.length < frameHeaderBytes then ⟨p, 0, [], false⟩
  else ⟨p.take frameHeaderBytes, littleEndian (p.take frameHeaderBytes),
    p.drop frameHeaderBytes, false⟩

/-- The state left by an invalid header: nothing is buffered behind it. -/
def poisonedBy (header : Bytes) : FrameDecoder := ⟨header, 0, [], true⟩

theorem unfinished_nil : Unfinished [] := Or.inl (by decide)

theorem ofPending_nil : ofPending [] = fresh := rfl

/-- What `fill` does to a state whose header is complete and valid. -/
theorem fill_spec (header : Bytes) (length : Nat) (payload input : Bytes) (original : Nat)
    (valid : validLength length) (room : payload.length < length) :
    fill ⟨header, length, payload, false⟩ original input =
      if payload.length + input.length < length then
        (.ok ⟨original, none⟩, ⟨header, length, payload ++ input, false⟩)
      else (.ok ⟨original - (input.length - (length - payload.length)),
          some (payload ++ input.take (length - payload.length))⟩, fresh) := by
  have fits : length < SizeT.modulus :=
    Nat.lt_of_le_of_lt valid.2 (by decide)
  simp only [fill, SizeT.sub_eq (Nat.le_of_lt room) fits]
  by_cases short : payload.length + input.length < length
  · have count : min input.length (length - payload.length) = input.length := by omega
    rw [if_pos (by simp only [count, List.take_length, List.length_append]; omega), if_pos short]
    simp [count]
  · have count : min input.length (length - payload.length) = length - payload.length := by omega
    rw [if_neg (by simp only [count, List.length_append, List.length_take]; omega), if_neg short]
    simp [count, fresh]

private theorem take_header (p input : Bytes) (long : frameHeaderBytes ≤ p.length) :
    (p ++ input).take frameHeaderBytes = p.take frameHeaderBytes :=
  List.take_append_of_le_length long

private theorem join_header (p input : Bytes) (short : p.length < frameHeaderBytes) :
    p ++ input.take (frameHeaderBytes - p.length) = (p ++ input).take frameHeaderBytes := by
  rw [List.take_append, List.take_of_length_le (Nat.le_of_lt short)]

/-- Once the header is complete and valid, whether it was before this call or
became so in it, `consume` is `fill` on the bytes after the header. -/
theorem consume_fill (p input : Bytes)
    (header : frameHeaderBytes ≤ (p ++ input).length)
    (valid : validLength (littleEndian ((p ++ input).take frameHeaderBytes))) :
    consume (ofPending p) input =
      fill ⟨(p ++ input).take frameHeaderBytes, littleEndian ((p ++ input).take frameHeaderBytes),
        p.drop frameHeaderBytes, false⟩ input.length (input.drop (frameHeaderBytes - p.length)) := by
  by_cases short : p.length < frameHeaderBytes
  · simp only [List.length_append] at header
    have count : min input.length (frameHeaderBytes - p.length) =
        frameHeaderBytes - p.length := by omega
    have full : ((p ++ input).take frameHeaderBytes).length = frameHeaderBytes := by
      simp only [List.length_take, List.length_append]
      omega
    have accepted : ¬ (littleEndian ((p ++ input).take frameHeaderBytes) = 0 ∨
        littleEndian ((p ++ input).take frameHeaderBytes) > maxPayloadBytes) := by
      have low := valid.1
      have high := valid.2
      omega
    simp only [consume, ofPending, short, if_true, Bool.false_eq_true, if_false, count,
      join_header p input short, full, ne_eq, not_true_eq_false, headerLength_eq, accepted,
      List.drop_of_length_le (Nat.le_of_lt short)]
  · have long : frameHeaderBytes ≤ p.length := Nat.not_lt.mp short
    have full : (p.take frameHeaderBytes).length = frameHeaderBytes := by
      simp only [List.length_take]
      omega
    have none_left : frameHeaderBytes - p.length = 0 := by omega
    simp only [consume, ofPending, short, if_false, Bool.false_eq_true, full, Nat.lt_irrefl,
      take_header p input long, none_left, List.drop_zero]

/-- The bytes after the header split between what was buffered and the input. -/
private theorem drop_header (p input : Bytes) :
    (p ++ input).drop frameHeaderBytes =
      p.drop frameHeaderBytes ++ input.drop (frameHeaderBytes - p.length) :=
  List.drop_append

private theorem room_left (p input : Bytes) (before : Unfinished p)
    (valid : validLength (littleEndian ((p ++ input).take frameHeaderBytes))) :
    (p.drop frameHeaderBytes).length < littleEndian ((p ++ input).take frameHeaderBytes) := by
  rw [List.length_drop]
  by_cases short : p.length < frameHeaderBytes
  · have positive := valid.1
    omega
  · have room := (before.resolve_left short).2
    rw [take_header p input (Nat.not_lt.mp short)]
    omega

/-- The bytes so far do not complete the frame: all of them are consumed. -/
theorem consume_unfinished (p input : Bytes) (before : Unfinished p)
    (unfinished : Unfinished (p ++ input)) :
    consume (ofPending p) input = (.ok ⟨input.length, none⟩, ofPending (p ++ input)) := by
  by_cases header : (p ++ input).length < frameHeaderBytes
  · have inHeader : p.length < frameHeaderBytes := by
      simp only [List.length_append] at header
      omega
    simp only [List.length_append] at header
    have count : min input.length (frameHeaderBytes - p.length) = input.length := by omega
    have incomplete : p.length + input.length ≠ frameHeaderBytes := by omega
    simp only [consume, ofPending, inHeader, if_true, Bool.false_eq_true, if_false, count,
      List.take_length, List.length_append, ne_eq, incomplete, not_false_eq_true, header]
  · obtain ⟨valid, short⟩ := unfinished.resolve_left header
    have stays : (p.drop frameHeaderBytes).length +
        (input.drop (frameHeaderBytes - p.length)).length <
          littleEndian ((p ++ input).take frameHeaderBytes) := by
      rw [← List.length_append, ← drop_header, List.length_drop]
      omega
    rw [consume_fill p input (Nat.not_lt.mp header) valid,
      fill_spec _ _ _ _ _ valid (room_left p input before valid), if_pos stays, ofPending,
      if_neg header, drop_header]

/-- The frame is all there: its payload is delivered, the decoder starts afresh
and the bytes after the frame are left to the caller. -/
theorem consume_complete (p input : Bytes) (before : Unfinished p)
    (valid : validLength (littleEndian ((p ++ input).take frameHeaderBytes)))
    (all : frameHeaderBytes + littleEndian ((p ++ input).take frameHeaderBytes) ≤
      (p ++ input).length) :
    consume (ofPending p) input =
      (.ok ⟨frameHeaderBytes + littleEndian ((p ++ input).take frameHeaderBytes) - p.length,
        some (((p ++ input).drop frameHeaderBytes).take
          (littleEndian ((p ++ input).take frameHeaderBytes)))⟩, fresh) := by
  have room := room_left p input before valid
  have leaves : ¬ (p.drop frameHeaderBytes).length +
      (input.drop (frameHeaderBytes - p.length)).length <
        littleEndian ((p ++ input).take frameHeaderBytes) := by
    rw [← List.length_append, ← drop_header, List.length_drop]
    omega
  have payload : ((p ++ input).drop frameHeaderBytes).take
      (littleEndian ((p ++ input).take frameHeaderBytes)) = p.drop frameHeaderBytes ++
        (input.drop (frameHeaderBytes - p.length)).take
          (littleEndian ((p ++ input).take frameHeaderBytes) - (p.drop frameHeaderBytes).length) := by
    rw [drop_header, List.take_append, List.take_of_length_le (Nat.le_of_lt room)]
  rw [consume_fill p input (by omega) valid, fill_spec _ _ _ _ _ valid room, if_neg leaves, payload]
  simp only [List.length_append, List.length_drop] at all room ⊢
  congr 3
  omega

/-- A complete header with an invalid length poisons the decoder. -/
theorem consume_invalid (p input : Bytes) (before : Unfinished p)
    (header : frameHeaderBytes ≤ (p ++ input).length)
    (invalid : ¬ validLength (littleEndian ((p ++ input).take frameHeaderBytes))) :
    consume (ofPending p) input = (.error ⟨.limitExceeded, true, none⟩,
      poisonedBy ((p ++ input).take frameHeaderBytes)) := by
  have inHeader : p.length < frameHeaderBytes := by
    by_contra long
    apply invalid
    rw [take_header p input (Nat.not_lt.mp long)]
    exact (before.resolve_left long).1
  simp only [List.length_append] at header
  have count : min input.length (frameHeaderBytes - p.length) =
      frameHeaderBytes - p.length := by omega
  have full : ((p ++ input).take frameHeaderBytes).length = frameHeaderBytes := by
    simp only [List.length_take, List.length_append]
    omega
  have refused : littleEndian ((p ++ input).take frameHeaderBytes) = 0 ∨
      littleEndian ((p ++ input).take frameHeaderBytes) > maxPayloadBytes := by
    simp only [validLength, not_and] at invalid
    omega
  simp [poisonedBy, consume, ofPending, inHeader, count, join_header p input inHeader, full, headerLength_eq,
    refused]

/-! ## Reference parse of a stream seen in two parts -/

theorem reference_unfinished (p : Bytes) (unfinished : Unfinished p) :
    reference p = ([], .incomplete p) := by
  rw [reference]
  by_cases header : p.length < frameHeaderBytes
  · rw [if_pos header]
  · obtain ⟨valid, short⟩ := unfinished.resolve_left header
    simp only [header, if_false, valid, not_true_eq_false, short, if_true]

theorem reference_invalid (p : Bytes) (header : frameHeaderBytes ≤ p.length)
    (invalid : ¬ validLength (littleEndian (p.take frameHeaderBytes))) :
    reference p = ([], .invalid) := by
  rw [reference, if_neg (Nat.not_lt.mpr header), if_pos invalid]

/-- A whole frame is taken off, and the parse goes on behind it. -/
theorem reference_complete (p : Bytes)
    (valid : validLength (littleEndian (p.take frameHeaderBytes)))
    (all : frameHeaderBytes + littleEndian (p.take frameHeaderBytes) ≤ p.length) :
    reference p =
      ((p.drop frameHeaderBytes).take (littleEndian (p.take frameHeaderBytes)) ::
        (reference (p.drop (frameHeaderBytes + littleEndian (p.take frameHeaderBytes)))).1,
      (reference (p.drop (frameHeaderBytes + littleEndian (p.take frameHeaderBytes)))).2) := by
  rw [reference, if_neg (by omega), if_neg (not_not_intro valid), if_neg (Nat.not_lt.mpr all)]

/-- Every stream starts with an unfinished, an invalid or a complete frame. -/
theorem stream_cases (p : Bytes) :
    Unfinished p ∨
      (frameHeaderBytes ≤ p.length ∧ ¬ validLength (littleEndian (p.take frameHeaderBytes))) ∨
      (validLength (littleEndian (p.take frameHeaderBytes)) ∧
        frameHeaderBytes + littleEndian (p.take frameHeaderBytes) ≤ p.length) := by
  by_cases header : p.length < frameHeaderBytes
  · exact Or.inl (Or.inl header)
  · by_cases valid : validLength (littleEndian (p.take frameHeaderBytes))
    · by_cases short : p.length < frameHeaderBytes + littleEndian (p.take frameHeaderBytes)
      · exact Or.inl (Or.inr ⟨valid, short⟩)
      · exact Or.inr (Or.inr ⟨valid, Nat.not_lt.mp short⟩)
    · exact Or.inr (Or.inl ⟨Nat.not_lt.mp header, valid⟩)

/-- The incomplete tail of a parse is itself an unfinished frame. -/
theorem reference_tail_unfinished (p rest : Bytes) (tail : (reference p).2 = .incomplete rest) :
    Unfinished rest := by
  induction size : p.length using Nat.strongRecOn generalizing p with
  | ind n ih =>
    rcases stream_cases p with unfinished | ⟨header, invalid⟩ | ⟨valid, all⟩
    · rw [reference_unfinished p unfinished] at tail
      cases tail
      exact unfinished
    · rw [reference_invalid p header invalid] at tail
      cases tail
    · rw [reference_complete p valid all] at tail
      refine ih _ ?_ _ tail rfl
      have positive := valid.1
      simp only [List.length_drop]
      omega

/-- Parsing a longer stream continues from the tail of its first part. -/
theorem reference_append (p s : Bytes) :
    reference (p ++ s) = match reference p with
      | (payloads, .incomplete rest) =>
        (payloads ++ (reference (rest ++ s)).1, (reference (rest ++ s)).2)
      | (payloads, .invalid) => (payloads, .invalid) := by
  induction size : p.length using Nat.strongRecOn generalizing p with
  | ind n ih =>
    rcases stream_cases p with unfinished | ⟨header, invalid⟩ | ⟨valid, all⟩
    · rw [reference_unfinished p unfinished]
      simp
    · have longer : frameHeaderBytes ≤ (p ++ s).length := by
        simp only [List.length_append]
        omega
      rw [reference_invalid p header invalid,
        reference_invalid (p ++ s) longer (by rwa [take_header p s header])]
    · have header : frameHeaderBytes ≤ p.length := by omega
      have shorter :
          (p.drop (frameHeaderBytes + littleEndian (p.take frameHeaderBytes))).length < n := by
        have positive := valid.1
        simp only [List.length_drop]
        omega
      have later := ih _ shorter _ rfl
      rw [reference_complete (p ++ s) (by rwa [take_header p s header])
        (by rw [take_header p s header, List.length_append]; omega), take_header p s header,
        List.drop_append_of_le_length all, later, reference_complete p valid all]
      rw [List.drop_append_of_le_length header,
        List.take_append_of_le_length (by rw [List.length_drop]; omega)]
      generalize reference (p.drop _) = parsed
      rcases parsed with ⟨payloads, rest | _⟩ <;> simp

/-- What `frame` writes is read back as one payload, whatever follows it. -/
theorem reference_frame (payload bytes rest : Bytes) (framed : frame payload = .ok bytes) :
    reference (bytes ++ rest) = (payload :: (reference rest).1, (reference rest).2) := by
  obtain ⟨rfl, valid⟩ := frame_ok framed
  have length : littleEndian (frameHeader payload.length) = payload.length :=
    littleEndian_frameHeader _ (Nat.lt_of_le_of_lt valid.2 (by decide))
  have width : (frameHeader payload.length).length = frameHeaderBytes := rfl
  have header : (frameHeader payload.length ++ payload ++ rest).take frameHeaderBytes =
      frameHeader payload.length := by
    rw [List.append_assoc, ← width, List.take_left]
  have body : (frameHeader payload.length ++ payload ++ rest).drop frameHeaderBytes =
      payload ++ rest := by
    rw [List.append_assoc, ← width, List.drop_left]
  rw [reference_complete _ (by rw [header, length]; exact valid)
    (by simp only [header, length, List.length_append, width]; omega), header, length, body,
    ← List.drop_drop, body, List.take_left, List.drop_left]

/-! ## Driving the decoder -/

structure Driven where
  payloads : List Bytes
  failed : Bool
  decoder : FrameDecoder

/-- Submit a chunk and resubmit its unconsumed suffix until none is left. -/
def feed : Nat → FrameDecoder → Bytes → Option Driven
  | 0, _, _ => none
  | fuel + 1, d, input =>
    match consume d input with
    | (.error _, next) => some ⟨[], true, next⟩
    | (.ok progress, next) =>
      let rest := input.drop progress.consumed
      if rest.isEmpty then some ⟨progress.payload.toList, false, next⟩
      else (feed fuel next rest).map fun later =>
        ⟨progress.payload.toList ++ later.payloads, later.failed, later.decoder⟩

/-- Submit every chunk in turn, also after a failure. -/
def drive : FrameDecoder → List Bytes → Option Driven
  | d, [] => some ⟨[], false, d⟩
  | d, chunk :: rest => do
    let first ← feed (chunk.length + 1) d chunk
    let later ← drive first.decoder rest
    some ⟨first.payloads ++ later.payloads, first.failed || later.failed, later.decoder⟩

/-- The decoder state that corresponds to a stopped reference parse. -/
def Represents : Tail → FrameDecoder → Prop
  | .incomplete rest, d => d = ofPending rest
  | .invalid, d => ∃ header, d = poisonedBy header

structure Refines (out : Driven) (parsed : List Bytes × Tail) : Prop where
  payloads : out.payloads = parsed.1
  failed : out.failed = true ↔ parsed.2 = .invalid
  decoder : Represents parsed.2 out.decoder

theorem consume_poisoned (d : FrameDecoder) (input : Bytes) (poisoned : d.poisoned = true) :
    consume d input = (.error ⟨.malformed, true, none⟩, d) := by
  simp [consume, poisoned]

private theorem pending_lt (p s : Bytes) (before : Unfinished p)
    (valid : validLength (littleEndian ((p ++ s).take frameHeaderBytes))) :
    p.length < frameHeaderBytes + littleEndian ((p ++ s).take frameHeaderBytes) := by
  have room := room_left p s before valid
  rw [List.length_drop] at room
  omega

/-- What one call does to an unfinished frame, against the reference parse. -/
inductive Consumed (p input : Bytes) : Result FrameProgress × FrameDecoder → Prop
  | unfinished (short : Unfinished (p ++ input)) :
      Consumed p input (.ok ⟨input.length, none⟩, ofPending (p ++ input))
  | complete (count : Nat) (payload : Bytes) (moved : 1 ≤ count) (within : count ≤ input.length)
      (parsed : reference (p ++ input) =
        (payload :: (reference (input.drop count)).1, (reference (input.drop count)).2)) :
      Consumed p input (.ok ⟨count, some payload⟩, fresh)
  | invalid (header : Bytes) (parsed : reference (p ++ input) = ([], .invalid)) :
      Consumed p input (.error ⟨.limitExceeded, true, none⟩, poisonedBy header)

/-- One call of `consume` takes bytes up to the end of a frame and no further. -/
theorem consume_spec (p input : Bytes) (before : Unfinished p) :
    Consumed p input (consume (ofPending p) input) := by
  rcases stream_cases (p ++ input) with unfinished | ⟨header, invalid⟩ | ⟨valid, all⟩
  · rw [consume_unfinished p input before unfinished]
    exact .unfinished unfinished
  · rw [consume_invalid p input before header invalid]
    exact .invalid _ (reference_invalid _ header invalid)
  · have inside := pending_lt p input before valid
    have suffix : (p ++ input).drop (frameHeaderBytes +
        littleEndian ((p ++ input).take frameHeaderBytes)) = input.drop (frameHeaderBytes +
          littleEndian ((p ++ input).take frameHeaderBytes) - p.length) := by
      rw [List.drop_append, List.drop_of_length_le (Nat.le_of_lt inside), List.nil_append]
    have parsed := reference_complete _ valid all
    rw [suffix] at parsed
    rw [consume_complete p input before valid all]
    rw [List.length_append] at all
    exact .complete _ _ (by omega) (by omega) parsed

/-- One chunk, submitted with one call per byte and one more in reserve. -/
theorem feed_reference (fuel : Nat) (p input : Bytes) (before : Unfinished p)
    (enough : input.length < fuel) :
    ∃ out, feed fuel (ofPending p) input = some out ∧ Refines out (reference (p ++ input)) := by
  induction fuel generalizing p input with
  | zero => omega
  | succ fuel ih =>
    have step := consume_spec p input before
    generalize run : consume (ofPending p) input = done at step
    cases step with
    | unfinished short =>
      refine ⟨⟨[], false, ofPending (p ++ input)⟩, by simp [feed, run], ?_⟩
      rw [reference_unfinished _ short]
      exact ⟨rfl, by simp, rfl⟩
    | invalid header parsed =>
      refine ⟨⟨[], true, poisonedBy header⟩, by simp [feed, run], ?_⟩
      rw [parsed]
      exact ⟨rfl, by simp, _, rfl⟩
    | complete count payload moved within parsed =>
      rw [parsed]
      -- The suffix after a delivered frame is parsed from the fresh state.
      by_cases empty : (input.drop count).isEmpty
      · have rest : input.drop count = [] := List.isEmpty_iff.mp empty
        refine ⟨_, by simp [feed, run, empty]; rfl, ?_⟩
        rw [rest, reference_unfinished [] unfinished_nil]
        exact ⟨rfl, by simp, rfl⟩
      · have shorter : (input.drop count).length < fuel := by
          rw [List.length_drop]
          omega
        obtain ⟨later, fed, refines⟩ := ih [] (input.drop count) unfinished_nil shorter
        rw [ofPending_nil] at fed
        rw [List.nil_append] at refines
        refine ⟨⟨payload :: later.payloads, later.failed, later.decoder⟩,
          by simp [feed, run, empty, fed], ?_, refines.failed, refines.decoder⟩
        rw [refines.payloads]

theorem feed_poisoned (fuel : Nat) (header input : Bytes) :
    feed (fuel + 1) (poisonedBy header) input = some ⟨[], true, poisonedBy header⟩ := by
  simp [feed, consume_poisoned (poisonedBy header) input rfl]

/-- Whatever chunks follow, nothing comes out of a poisoned decoder. -/
theorem drive_poisoned (header : Bytes) (chunks : List Bytes) :
    ∃ failed, drive (poisonedBy header) chunks = some ⟨[], failed, poisonedBy header⟩ := by
  induction chunks with
  | nil => exact ⟨false, rfl⟩
  | cons chunk rest ih =>
    obtain ⟨failed, driven⟩ := ih
    exact ⟨true, by simp [drive, feed_poisoned, driven]⟩

/-- Every way to cut a stream gives the parse of the whole stream. The invariant
is the pending prefix `p`; a failed chunk leaves the rest to the poisoned state. -/
theorem drive_reference (p : Bytes) (before : Unfinished p) (chunks : List Bytes) :
    ∃ out, drive (ofPending p) chunks = some out ∧
      Refines out (reference (p ++ chunks.flatten)) := by
  induction chunks generalizing p with
  | nil =>
    refine ⟨⟨[], false, ofPending p⟩, rfl, ?_⟩
    rw [List.flatten_nil, List.append_nil, reference_unfinished p before]
    exact ⟨rfl, by simp, rfl⟩
  | cons chunk rest ih =>
    obtain ⟨first, fed, refines⟩ := feed_reference (chunk.length + 1) p chunk before (by omega)
    rw [List.flatten_cons, ← List.append_assoc, reference_append]
    rcases parsed : reference (p ++ chunk) with ⟨payloads, tail⟩
    rw [parsed] at refines
    cases tail with
    | incomplete tail =>
      have unfinished := reference_tail_unfinished (p ++ chunk) tail (by rw [parsed])
      obtain ⟨later, driven, continued⟩ := ih tail unfinished
      have state : first.decoder = ofPending tail := refines.decoder
      have passed : first.failed = false := by
        simpa using mt refines.failed.mp (by simp)
      refine ⟨⟨first.payloads ++ later.payloads, first.failed || later.failed, later.decoder⟩,
        by simp [drive, fed, state, driven], ?_, ?_, continued.decoder⟩
      · rw [refines.payloads, continued.payloads]
      · simpa [passed] using continued.failed
    | invalid =>
      obtain ⟨header, state⟩ := refines.decoder
      obtain ⟨failed, driven⟩ := drive_poisoned header rest
      have refused : first.failed = true := refines.failed.mpr rfl
      refine ⟨⟨first.payloads ++ [], first.failed || failed, poisonedBy header⟩,
        by simp [drive, fed, state, driven], ?_, ?_, header, rfl⟩
      · rw [List.append_nil, refines.payloads]
      · simp [refused]

/-! ## States reached by any calls -/

/-- Decoders obtained from a fresh one by any sequence of `consume` calls. -/
inductive Reached : FrameDecoder → Prop
  | fresh : Reached fresh
  | consume (d : FrameDecoder) (input : Bytes) (before : Reached d) : Reached (consume d input).2

/-- A reached decoder is poisoned or holds an unfinished frame. -/
theorem reached_cases (d : FrameDecoder) (reached : Reached d) :
    (∃ header, d = poisonedBy header) ∨ ∃ p, Unfinished p ∧ d = ofPending p := by
  induction reached with
  | fresh => exact Or.inr ⟨[], unfinished_nil, rfl⟩
  | consume d input _ ih =>
    rcases ih with ⟨header, rfl⟩ | ⟨p, before, rfl⟩
    · exact Or.inl ⟨header, by rw [consume_poisoned _ input rfl]⟩
    · have step := consume_spec p input before
      generalize consume (ofPending p) input = done at step
      cases step with
      | unfinished short => exact Or.inr ⟨p ++ input, short, rfl⟩
      | complete count payload moved within parsed => exact Or.inr ⟨[], unfinished_nil, rfl⟩
      | invalid header parsed => exact Or.inl ⟨header, rfl⟩

/-- Progress of one successful call. -/
theorem consume_progress (p input : Bytes) (before : Unfinished p) (nonempty : input ≠ [])
    (progress : FrameProgress) (ok : (consume (ofPending p) input).1 = .ok progress) :
    1 ≤ progress.consumed ∧ progress.consumed ≤ input.length ∧
      (progress.payload = none → progress.consumed = input.length) := by
  have some_input : 1 ≤ input.length := List.length_pos_iff.mpr nonempty
  have step := consume_spec p input before
  generalize consume (ofPending p) input = done at step ok
  cases step with
  | unfinished short =>
    cases ok
    exact ⟨some_input, Nat.le_refl _, fun _ => rfl⟩
  | complete count payload moved within parsed =>
    cases ok
    exact ⟨moved, within, nofun⟩
  | invalid header parsed => cases ok

/-- A decoder never holds more than it expects, and expects no more than the limit. -/
theorem ofPending_bounded (p : Bytes) (before : Unfinished p) :
    (ofPending p).payload.length ≤ (ofPending p).expected ∧
      (ofPending p).expected ≤ maxPayloadBytes := by
  by_cases header : p.length < frameHeaderBytes
  · simp [ofPending, header]
  · obtain ⟨valid, short⟩ := before.resolve_left header
    have high := valid.2
    simp only [ofPending, header, if_false, List.length_drop]
    omega

theorem ofPending_header (p : Bytes) :
    (ofPending p).poisoned = false ∧ ((ofPending p).header.length = 0 ↔ p = []) := by
  by_cases header : p.length < frameHeaderBytes
  · simp only [ofPending, if_pos header]
    exact ⟨trivial, List.length_eq_zero_iff⟩
  · have long : frameHeaderBytes ≤ p.length := Nat.not_lt.mp header
    have some_bytes : p ≠ [] := by
      rintro rfl
      simp [frameHeaderBytes] at long
    simp only [ofPending, if_neg header, List.length_take, some_bytes, iff_false, true_and]
    simp only [frameHeaderBytes] at long ⊢
    omega

/-- `finish` sees an unfinished frame exactly when some of its bytes are there. -/
theorem finish_pending (p : Bytes) :
    ((ofPending p).finish = none ↔ p = []) ∧
      ((ofPending p).finish = some ⟨.truncated, true, none⟩ ↔ p ≠ []) ∧
      (ofPending p).finish ≠ some ⟨.malformed, true, none⟩ := by
  obtain ⟨clean, used⟩ := ofPending_header p
  simp only [finish, clean, Bool.false_or, ne_eq, used, Bool.false_eq_true, if_false]
  by_cases empty : p = [] <;> simp [empty]

/-- Incremental framing refines whole-stream framing, for every stream and every
cut of it; the second part describes single calls on any reached decoder. -/
theorem incremental_framing_refines_reference :
    (∀ chunks : List Bytes, ∃ out, drive fresh chunks = some out ∧
      out.payloads = (reference chunks.flatten).1 ∧
      (out.failed = true ↔ (reference chunks.flatten).2 = .invalid) ∧
      (out.failed = true → ∀ input,
        consume out.decoder input = (.error ⟨.malformed, true, none⟩, out.decoder)) ∧
      (out.decoder.finish = none ↔ (reference chunks.flatten).2 = .incomplete []) ∧
      (out.decoder.finish = some ⟨.truncated, true, none⟩ ↔
        ∃ rest, rest ≠ [] ∧ (reference chunks.flatten).2 = .incomplete rest) ∧
      (out.decoder.finish = some ⟨.malformed, true, none⟩ ↔
        (reference chunks.flatten).2 = .invalid)) ∧
    (∀ d, Reached d → d.payload.length ≤ d.expected ∧ d.expected ≤ maxPayloadBytes ∧
      (d.poisoned = true → ∀ input,
        consume d input = (.error ⟨.malformed, true, none⟩, d)) ∧
      (d.poisoned = false → ∀ input progress, input ≠ [] →
        (consume d input).1 = .ok progress →
          1 ≤ progress.consumed ∧ progress.consumed ≤ input.length ∧
          (progress.payload = none → progress.consumed = input.length))) := by
  constructor
  · intro chunks
    obtain ⟨out, driven, refines⟩ := drive_reference [] unfinished_nil chunks
    rw [List.nil_append] at refines
    refine ⟨out, driven, refines.payloads, refines.failed, ?_, ?_⟩
    · intro failed input
      have state := refines.decoder
      rw [refines.failed.mp failed] at state
      obtain ⟨header, state⟩ := state
      exact consume_poisoned _ input (by rw [state]; rfl)
    · have state := refines.decoder
      cases tail : (reference chunks.flatten).2 with
      | incomplete rest =>
        rw [tail] at state
        simp only [Represents] at state
        rw [state]
        simpa using finish_pending rest
      | invalid =>
        rw [tail] at state
        obtain ⟨header, state⟩ := state
        simp [state, finish, poisonedBy]
  · intro d reached
    rcases reached_cases d reached with ⟨header, rfl⟩ | ⟨p, before, rfl⟩
    · refine ⟨Nat.le_refl _, Nat.zero_le _, fun _ input => consume_poisoned _ input rfl, ?_⟩
      intro clean
      cases clean
    · obtain ⟨buffered, expected⟩ := ofPending_bounded p before
      refine ⟨buffered, expected, fun poisoned input => consume_poisoned _ input poisoned, ?_⟩
      intro _ input progress nonempty ok
      exact consume_progress p input before nonempty progress ok

end PipeForge.Protocol
