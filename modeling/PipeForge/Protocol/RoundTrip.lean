import PipeForge.Protocol.Readable

/-!
# Decoding undoes encoding

A written envelope has no unknown fields and the schema nests three deep, so the
runtime restores it from its serialization and decoding repeats the checks that
encoding already passed.
-/

namespace PipeForge.Protocol
open Contracts Library Proto3

/-! ## Written messages are plain and shallow -/

@[simp] theorem plain_writeValue (data : Value) : (writeValue data).reflect.plain = true := by
  cases data <;> rfl

@[simp] theorem plain_writeNamed (entries : List NamedValue) :
    (∀ entry ∈ writeNamed entries, entry.reflect.plain = true) = True := by
  simp [writeNamed, Pb.NamedValue.reflect, Message.plain]

@[simp] theorem plain_writeRecord (record : ValueRecord) :
    (writeRecord record).reflect.plain = true := by
  simp [writeRecord, Pb.ValueRecord.reflect, Message.plain]

@[simp] theorem plain_writeParameters (parameters : List Parameter) :
    (∀ parameter ∈ writeParameters parameters, parameter.reflect.plain = true) = True := by
  simp [writeParameters, Pb.Parameter.reflect, Message.plain]

@[simp] theorem plain_writeDescription (description : ClassDescription) :
    (writeDescription description).reflect.plain = true := by
  simp [writeDescription, Pb.ClassDescription.reflect, Pb.Attribute.reflect, Pb.Method.reflect,
    Message.plain, Function.comp_def]

/-- The codec writes no unknown field into a request. -/
theorem plain_request (r : Request) : (requestMessage r).reflect.plain = true := by
  rcases r with ⟨id, operation, version⟩
  cases operation <;> simp [requestMessage, writeOperation, Pb.Request.reflect,
    Pb.OperationCase.reflect, Pb.ListClasses.reflect, Pb.DescribeClass.reflect, Pb.PutValue.reflect,
    Pb.GetValue.reflect, Pb.ListValues.reflect, Pb.CreateObject.reflect, Pb.GetObject.reflect,
    Pb.ReleaseObject.reflect, Pb.GetAttribute.reflect, Pb.InvokeMethod.reflect, Message.plain]

theorem plain_response (r : Response) : (responseMessage r).reflect.plain = true := by
  rcases r with ⟨id, outcome, version⟩
  cases outcome <;> simp [responseMessage, writeOutcome, Pb.Response.reflect,
    Pb.OutcomeCase.reflect, Pb.ClassesPage.reflect, Pb.ValuesPage.reflect,
    Pb.ObjectSnapshot.reflect, Pb.Released.reflect, Pb.RemoteError.reflect, Message.plain]

theorem depth_value (m : Pb.Value) : m.reflect.depth = 0 := by
  unfold Pb.Value.reflect
  split <;> rfl

/-- An absent value does not deepen a message, and a present one by a single level. -/
theorem depth_optionalValue_le {number bound : Nat} (value : Option Pb.Value) (rest : Message)
    (positive : 1 ≤ bound) (later : rest.depth ≤ bound) :
    (Message.submessage number (value.map Pb.Value.reflect) rest).depth ≤ bound := by
  apply Message.depth_submessage_le _ later
  intro child present
  obtain ⟨m, -, rfl⟩ := Option.map_eq_some_iff.mp present
  rw [depth_value]
  exact positive

/-- A list of messages of depth at most `k` nests one deeper. -/
theorem depth_list_le {α : Type} {number k : Nat} (reflect : α → Message)
    (each : ∀ m, (reflect m).depth ≤ k) (list : List α) {rest : Message}
    (later : rest.depth ≤ k + 1) :
    (Message.repeatedMessage number (list.map reflect) rest).depth ≤ k + 1 := by
  apply Message.depth_repeatedMessage_le _ later
  intro child member
  obtain ⟨m, -, rfl⟩ := List.mem_map.mp member
  exact Nat.succ_le_succ (each m)

theorem depth_namedValue (m : Pb.NamedValue) : m.reflect.depth ≤ 1 := by
  unfold Pb.NamedValue.reflect
  rw [Message.depth_implicit]
  exact depth_optionalValue_le m.value _ (Nat.le_refl 1) (Nat.zero_le 1)

theorem depth_valueRecord (m : Pb.ValueRecord) : m.reflect.depth ≤ 1 := by
  unfold Pb.ValueRecord.reflect
  rw [Message.depth_implicit]
  exact depth_optionalValue_le m.value _ (Nat.le_refl 1) (Nat.zero_le 1)

theorem depth_parameter (m : Pb.Parameter) : m.reflect.depth ≤ 0 := by
  simp [Pb.Parameter.reflect, Message.depth_implicit, Message.depth]

theorem depth_attribute (m : Pb.Attribute) : m.reflect.depth ≤ 1 := by
  simp [Pb.Attribute.reflect, Message.depth_implicit, Message.depth]

theorem depth_method (m : Pb.Method) : m.reflect.depth ≤ 1 := by
  unfold Pb.Method.reflect
  rw [Message.depth_implicit]
  apply depth_list_le Pb.Parameter.reflect depth_parameter
  rw [Message.depth_implicit]
  exact Nat.zero_le 1

/-- Descriptions are the deepest messages there are. -/
theorem depth_description (m : Pb.ClassDescription) : m.reflect.depth ≤ 2 := by
  unfold Pb.ClassDescription.reflect
  rw [Message.depth_implicit]
  apply depth_list_le Pb.Attribute.reflect depth_attribute
  apply depth_list_le Pb.Method.reflect depth_method
  apply depth_list_le Pb.Parameter.reflect fun m => Nat.le_trans (depth_parameter m) (Nat.zero_le 1)
  exact Nat.zero_le 2

theorem depth_nested_le {number bound : Nat} {child rest : Message} (inner : child.depth ≤ bound)
    (later : rest.depth ≤ bound + 1) : (Message.nested number child rest).depth ≤ bound + 1 :=
  Nat.max_le.mpr ⟨Nat.succ_le_succ inner, later⟩

/-- No operation comes near the limit on recursion. -/
theorem depth_operation (m : Pb.OperationCase) (unknown : UnknownSet) :
    (m.reflect (.done unknown)).depth ≤ 3 := by
  cases m with
  | notSet => exact Nat.zero_le 3
  | createObject m =>
    apply depth_nested_le _ (Nat.zero_le 3)
    unfold Pb.CreateObject.reflect
    rw [Message.depth_implicit]
    exact depth_list_le Pb.NamedValue.reflect depth_namedValue _ (Nat.zero_le 2)
  | invokeMethod m =>
    apply depth_nested_le _ (Nat.zero_le 3)
    unfold Pb.InvokeMethod.reflect
    rw [Message.depth_implicit, Message.depth_implicit]
    exact depth_list_le Pb.NamedValue.reflect depth_namedValue _ (Nat.zero_le 2)
  | putValue m =>
    apply depth_nested_le _ (Nat.zero_le 3)
    exact depth_optionalValue_le m.value _ (by decide) (Nat.zero_le 2)
  | _ =>
    apply depth_nested_le _ (Nat.zero_le 3)
    simp [Pb.ListClasses.reflect, Pb.DescribeClass.reflect, Pb.GetValue.reflect,
      Pb.ListValues.reflect, Pb.GetObject.reflect, Pb.ReleaseObject.reflect,
      Pb.GetAttribute.reflect, Message.depth_implicit, Message.depth]

theorem depth_outcome (m : Pb.OutcomeCase) (unknown : UnknownSet) :
    (m.reflect (.done unknown)).depth ≤ 3 := by
  cases m with
  | notSet => exact Nat.zero_le 3
  | classes m =>
    apply depth_nested_le _ (Nat.zero_le 3)
    simp [Pb.ClassesPage.reflect, Message.depth_repeatedScalar, Message.depth_implicit,
      Message.depth]
  | description m => exact depth_nested_le (depth_description m) (Nat.zero_le 3)
  | valueRecord m =>
    exact depth_nested_le (Nat.le_trans (depth_valueRecord m) (by decide)) (Nat.zero_le 3)
  | values m =>
    apply depth_nested_le _ (Nat.zero_le 3)
    unfold Pb.ValuesPage.reflect
    apply depth_list_le Pb.ValueRecord.reflect depth_valueRecord
    rw [Message.depth_implicit]
    exact Nat.zero_le 2
  | object m =>
    apply depth_nested_le _ (Nat.zero_le 3)
    unfold Pb.ObjectSnapshot.reflect
    rw [Message.depth_implicit, Message.depth_implicit]
    exact depth_list_le Pb.NamedValue.reflect depth_namedValue _ (Nat.zero_le 2)
  | released m => exact depth_nested_le (Nat.zero_le 2) (Nat.zero_le 3)
  | value m =>
    apply depth_nested_le _ (Nat.zero_le 3)
    rw [depth_value]
    exact Nat.zero_le 2
  | error m =>
    apply depth_nested_le _ (Nat.zero_le 3)
    simp [Pb.RemoteError.reflect, Message.depth_implicit, Message.depth]

/-- No message of the schema reaches the recursion limit. -/
theorem depth_request (m : Pb.Request) : m.reflect.depth < maxRecursionDepth := by
  unfold Pb.Request.reflect
  rw [Message.depth_optional, Message.depth_implicit]
  exact Nat.lt_of_le_of_lt (depth_operation m.operation m.unknown) (by decide)

/-- A response is parsed within the limit on recursion. -/
theorem depth_response (m : Pb.Response) : m.reflect.depth < maxRecursionDepth := by
  unfold Pb.Response.reflect
  rw [Message.depth_optional, Message.depth_implicit]
  exact Nat.lt_of_le_of_lt (depth_outcome m.outcome m.unknown) (by decide)

/-! ## Serialized envelopes parse -/

/-- A text the code accepts is one the runtime accepts. -/
theorem validateText_valid {value : Scalar} (accepted : validateText value = none) :
    Pb.validText value = true := by
  cases value with
  | text bytes =>
    simp only [validateText] at accepted
    split at accepted
    · cases accepted
    · split at accepted
      · cases accepted
      · rename_i valid
        simpa [Pb.validText] using valid
  | _ => rfl

/-- Validation looks at every string. -/
theorem validateFields_texts {m : Message} {nodes unknowns : Nat} {left : Nat × Nat}
    (accepted : validateFields m nodes unknowns = .ok left) :
    m.allScalars Pb.validText = true := by
  induction m generalizing nodes unknowns left with
  | done unknown => rfl
  | scalar number value rest ih =>
    unfold validateFields at accepted
    split at accepted
    · cases accepted
    · split at accepted
      · cases accepted
      · rename_i valid
        rw [Message.allScalars, validateText_valid valid, ih accepted]
        rfl
  | nested number child rest childIh ih =>
    unfold validateFields at accepted
    split at accepted
    · cases accepted
    · split at accepted
      · cases accepted
      · split at accepted
        · cases accepted
        · split at accepted
          · cases accepted
          · rename_i inner
            rw [Message.allScalars, childIh inner, ih accepted]
            rfl

/-- A message the code accepts has no text the runtime would refuse. -/
theorem validateMessage_texts {m : Message} {nodes unknowns : Nat} {left : Nat × Nat}
    (accepted : validateMessage m nodes unknowns = .ok left) :
    m.allScalars Pb.validText = true := by
  unfold validateMessage at accepted
  split at accepted
  · cases accepted
  · split at accepted
    · cases accepted
    · exact validateFields_texts accepted

/-- The checks an accepted envelope passed. -/
structure Accepted {ε : Type} (envelope : Pb.Envelope ε) (message : ε) : Prop where
  id : envelope.requestId message ≠ 0
  version : envelope.version message = some version
  valid : ∃ left,
    validateMessage (envelope.reflect message) maxMessageNodes maxUnknownFields = .ok left

theorem validateEnvelope_none_iff {ε : Type} {envelope : Pb.Envelope ε} {message : ε} :
    validateEnvelope envelope message = none ↔ Accepted envelope message := by
  constructor
  · intro accepted
    unfold validateEnvelope at accepted
    dsimp only at accepted
    split at accepted
    · cases accepted
    · rename_i nonzero
      split at accepted
      · cases accepted
      · rename_i found present
        split at accepted
        · cases accepted
        · rename_i supported
          split at accepted
          · cases accepted
          · rename_i left valid
            exact ⟨nonzero, by rw [present, not_not.mp supported], left, valid⟩
  · rintro ⟨nonzero, supported, left, valid⟩
    simp [validateEnvelope, nonzero, supported, valid]

/-- What `serialize` returned was measured first and fits the limit. -/
theorem serialize_ok {ε : Type} {envelope : Pb.Envelope ε} {runtime : Pb.Runtime ε} {message : ε}
    {bytes : Bytes} (written : serialize envelope runtime message = .ok bytes) :
    runtime.byteSizeLong message ≤ maxPayloadBytes ∧
      runtime.serializeToArray message (runtime.byteSizeLong message) = some bytes := by
  unfold serialize at written
  dsimp only at written
  split at written
  · cases written
  · rename_i small
    split at written
    · cases written
    · rename_i output filled
      cases written
      exact ⟨Nat.le_of_not_lt small, filled⟩

/-- Parsing restores a plain accepted envelope from its serialization. -/
theorem parse_serialize {ε : Type} {envelope : Pb.Envelope ε} {runtime : Pb.Runtime ε}
    (conforms : runtime.Conforms envelope) (message : ε) {bytes : Bytes}
    (plain : (envelope.reflect message).plain = true)
    (shallow : (envelope.reflect message).depth < maxRecursionDepth)
    (nonempty : 0 < (envelope.reflect message).byteSize)
    (accepted : validateEnvelope envelope message = none)
    (written : serialize envelope runtime message = .ok bytes) :
    parse envelope runtime bytes = .ok message ∧
      bytes.length = (envelope.reflect message).byteSize ∧ bytes.length ≤ maxPayloadBytes := by
  obtain ⟨small, filled⟩ := serialize_ok written
  have size := conforms.size message plain
  rw [size] at small
  obtain ⟨output, again, length⟩ := conforms.written message plain small
  rw [filled] at again
  cases again
  rw [size] at length
  obtain ⟨left, valid⟩ := (validateEnvelope_none_iff.mp accepted).valid
  have restored := conforms.restored message bytes plain (validateMessage_texts valid) shallow
    small filled
  refine ⟨?_, length, by omega⟩
  have present : bytes.isEmpty = false := by
    cases bytes with
    | nil =>
      simp only [List.length_nil] at length
      omega
    | cons b rest => rfl
  have bounded : ¬ bytes.length > maxPayloadBytes := by omega
  simp only [parse, present, bounded, decide_false, Bool.or_self, Bool.false_eq_true, if_false,
    restored, accepted]

/-- The identifier alone makes a request non-empty on the wire. -/
theorem request_nonempty (r : Request) : 0 < (requestMessage r).reflect.byteSize := by
  have tag := Varint.size_pos (1 * 8 + 0)
  simp only [Pb.Request.reflect, requestMessage, Option.map_some, Message.optional,
    Message.byteSize, tagSize, Scalar.type, ScalarType.wire]
  omega

theorem response_nonempty (r : Response) : 0 < (responseMessage r).reflect.byteSize := by
  have tag := Varint.size_pos (1 * 8 + 0)
  simp only [Pb.Response.reflect, responseMessage, Option.map_some, Message.optional,
    Message.byteSize, tagSize, Scalar.type, ScalarType.wire]
  omega

section
variable {protobuf : Protobuf}

/-- What encoding a request establishes. -/
theorem encodeRequest_ok {r : Request} {bytes : Bytes}
    (encoded : encodeRequest protobuf r = .ok bytes) :
    validateEnvelope Pb.requestEnvelope (requestMessage r) = none ∧
      readableOperation r.body = true ∧
      serialize Pb.requestEnvelope protobuf.requests (requestMessage r) = .ok bytes := by
  unfold encodeRequest at encoded
  dsimp only at encoded
  split at encoded
  · cases encoded
  · rename_i accepted
    split at encoded
    · cases encoded
    · rename_i readable
      refine ⟨accepted, ?_, encoded⟩
      rw [readOperation_write] at readable
      split at readable
      · assumption
      · exact absurd rfl readable

/-- A response was checked, readable and serialized if it was encoded. -/
theorem encodeResponse_ok {r : Response} {bytes : Bytes}
    (encoded : encodeResponse protobuf r = .ok bytes) :
    validateEnvelope Pb.responseEnvelope (responseMessage r) = none ∧
      readableOutcome r.body = true ∧
      serialize Pb.responseEnvelope protobuf.responses (responseMessage r) = .ok bytes := by
  unfold encodeResponse at encoded
  dsimp only at encoded
  split at encoded
  · cases encoded
  · rename_i accepted
    split at encoded
    · cases encoded
    · rename_i readable
      refine ⟨accepted, ?_, encoded⟩
      rw [readOutcome_write] at readable
      split at readable
      · assumption
      · exact absurd rfl readable

/-- Parsing gives back the very message that was encoded, and its length is the one that was
measured. -/
theorem parse_encodeRequest (conforms : protobuf.Conforms) {r : Request} {bytes : Bytes}
    (encoded : encodeRequest protobuf r = .ok bytes) :
    parse Pb.requestEnvelope protobuf.requests bytes = .ok (requestMessage r) ∧
      bytes.length = (requestMessage r).reflect.byteSize ∧ bytes.length ≤ maxPayloadBytes := by
  obtain ⟨accepted, -, written⟩ := encodeRequest_ok encoded
  exact parse_serialize conforms.requests (requestMessage r) (plain_request r)
    (depth_request (requestMessage r)) (request_nonempty r) accepted written

theorem parse_encodeResponse (conforms : protobuf.Conforms) {r : Response} {bytes : Bytes}
    (encoded : encodeResponse protobuf r = .ok bytes) :
    parse Pb.responseEnvelope protobuf.responses bytes = .ok (responseMessage r) ∧
      bytes.length = (responseMessage r).reflect.byteSize ∧ bytes.length ≤ maxPayloadBytes := by
  obtain ⟨accepted, -, written⟩ := encodeResponse_ok encoded
  exact parse_serialize conforms.responses (responseMessage r) (plain_response r)
    (depth_response (responseMessage r)) (response_nonempty r) accepted written

/-- Decoding inverts encoding for requests. -/
theorem decodeRequest_encode (conforms : protobuf.Conforms) {r : Request} {bytes : Bytes}
    (encoded : encodeRequest protobuf r = .ok bytes) : decodeRequest protobuf bytes = .ok r := by
  obtain ⟨-, body, -⟩ := encodeRequest_ok encoded
  simp only [decodeRequest, (parse_encodeRequest conforms encoded).1, readOperation_write, body,
    if_true]
  rfl

/-- Decoding inverts encoding for responses. -/
theorem decodeResponse_encode (conforms : protobuf.Conforms) {r : Response} {bytes : Bytes}
    (encoded : encodeResponse protobuf r = .ok bytes) :
    decodeResponse protobuf bytes = .ok r := by
  obtain ⟨-, body, -⟩ := encodeResponse_ok encoded
  simp only [decodeResponse, (parse_encodeResponse conforms encoded).1, readOutcome_write, body,
    if_true]
  rfl

/-! ## Encoding succeeds within the limits -/

/-- A plain message within the limit is serialized. -/
theorem serialize_fits {ε : Type} {envelope : Pb.Envelope ε} {runtime : Pb.Runtime ε}
    (conforms : runtime.Conforms envelope) (message : ε)
    (plain : (envelope.reflect message).plain = true)
    (fits : (envelope.reflect message).byteSize ≤ maxPayloadBytes) :
    ∃ bytes, serialize envelope runtime message = .ok bytes := by
  obtain ⟨bytes, filled, -⟩ := conforms.written message plain fits
  have small : ¬ runtime.byteSizeLong message > maxPayloadBytes := by
    rw [conforms.size message plain]
    omega
  exact ⟨bytes, by simp only [serialize, small, if_false, filled]⟩

/-- There is no other reason to refuse a request than its envelope, its body and its size. -/
theorem encodeRequest_succeeds (conforms : protobuf.Conforms) {r : Request}
    (accepted : validateEnvelope Pb.requestEnvelope (requestMessage r) = none)
    (readable : readableOperation r.body = true)
    (fits : (requestMessage r).reflect.byteSize ≤ maxPayloadBytes) :
    ∃ bytes, encodeRequest protobuf r = .ok bytes := by
  obtain ⟨bytes, written⟩ := serialize_fits conforms.requests (requestMessage r)
    (plain_request r) fits
  refine ⟨bytes, ?_⟩
  simp only [encodeRequest, accepted, readOperation_write, readable, if_true, Option.isNone_some,
    Bool.false_eq_true, if_false]
  exact written

theorem encodeResponse_succeeds (conforms : protobuf.Conforms) {r : Response}
    (accepted : validateEnvelope Pb.responseEnvelope (responseMessage r) = none)
    (readable : readableOutcome r.body = true)
    (fits : (responseMessage r).reflect.byteSize ≤ maxPayloadBytes) :
    ∃ bytes, encodeResponse protobuf r = .ok bytes := by
  obtain ⟨bytes, written⟩ := serialize_fits conforms.responses (responseMessage r)
    (plain_response r) fits
  refine ⟨bytes, ?_⟩
  simp only [encodeResponse, accepted, readOutcome_write, readable, if_true, Option.isNone_some,
    Bool.false_eq_true, if_false]
  exact written

/-! ## What decoding establishes -/

/-- A payload is within the limit before the runtime sees it, and the message within its limits
afterwards. -/
theorem parse_ok {ε : Type} {envelope : Pb.Envelope ε} {runtime : Pb.Runtime ε} {payload : Bytes}
    {message : ε} (parsed : parse envelope runtime payload = .ok message) :
    payload.length ≤ maxPayloadBytes ∧ runtime.parse payload = some message ∧
      validateEnvelope envelope message = none := by
  unfold parse at parsed
  split at parsed
  · cases parsed
  · rename_i sized
    split at parsed
    · cases parsed
    · rename_i found
      split at parsed
      · cases parsed
      · rename_i accepted
        cases parsed
        simp only [Bool.or_eq_true, decide_eq_true_eq, not_or, Nat.not_lt] at sized
        exact ⟨sized.2, found, accepted⟩

/-- A decoded request comes from a parsed message, field by field. -/
theorem decodeRequest_ok {payload : Bytes} {r : Request}
    (decoded : decodeRequest protobuf payload = .ok r) :
    ∃ message, parse Pb.requestEnvelope protobuf.requests payload = .ok message ∧
      readOperation message = some r.body ∧ r.id = message.requestId ∧
      message.version = some r.protocolVersion := by
  unfold decodeRequest at decoded
  split at decoded
  · cases decoded
  · rename_i message parsed
    split at decoded
    · rename_i body read
      cases decoded
      have supported := (validateEnvelope_none_iff.mp (parse_ok parsed).2.2).version
      refine ⟨message, parsed, read, rfl, ?_⟩
      simp only [Pb.requestEnvelope] at supported
      rw [supported]
      rfl
    · cases decoded

theorem decodeResponse_ok {payload : Bytes} {r : Response}
    (decoded : decodeResponse protobuf payload = .ok r) :
    ∃ message, parse Pb.responseEnvelope protobuf.responses payload = .ok message ∧
      readOutcome message = some r.body ∧ r.id = message.requestId ∧
      message.version = some r.protocolVersion := by
  unfold decodeResponse at decoded
  split at decoded
  · cases decoded
  · rename_i message parsed
    split at decoded
    · rename_i body read
      cases decoded
      have supported := (validateEnvelope_none_iff.mp (parse_ok parsed).2.2).version
      refine ⟨message, parsed, read, rfl, ?_⟩
      simp only [Pb.responseEnvelope] at supported
      rw [supported]
      rfl
    · cases decoded

end

end PipeForge.Protocol
