import PipeForge.Domain.Builtins
import PipeForge.Protocol.Reference
import PipeForge.Server.Encoding

/-!
# Registrable descriptions are the encodable ones

`valid_description` counts nodes before a class is registered; the codec counts
them down while it walks the response. The counts differ by the envelope alone, so
the bound of one is the bound of the other, and a description within it is far
from the payload limit.
-/

namespace PipeForge.Server
open Contracts Library Proto3 Protocol Domain

section
variable (id : UInt64) (description : ClassDescription)

/-- The envelope is the one node registration leaves room for. -/
theorem nodes_descriptionResponse :
    (responseMessage ⟨id, .description description, version⟩).reflect.nodes =
      descriptionNodes description + 1 := by
  simp [responseMessage, writeOutcome, Pb.Response.reflect, Pb.OutcomeCase.reflect, Message.nodes,
    nodes_description]

theorem walkable_descriptionResponse
    (walked : Walkable (responseMessage ⟨id, .description description, version⟩).reflect) :
    Walkable (writeDescription description).reflect := by
  have body := (walkable_envelope version id fun number small => runLength_nested (by omega)).mp
    walked
  exact ((walkable_nested rfl).mp body).1

theorem size_description (valid : validDescription description = true) :
    (responseMessage ⟨id, .description description, version⟩).reflect.byteSize ≤
      maxPayloadBytes := by
  have sound : SoundOutcome (.description description) := valid
  have fits := response_fits sound id
  have light := Nat.lt_of_le_of_lt fits.weight (show maxPayloadBytes < 2 ^ 28 by decide)
  exact Nat.le_trans (Message.byteSize_le_weight (plain_response _) light) fits.weight

theorem validDescription_encoded {protobuf : Protobuf} {bytes : Bytes}
    (encoded : encodeResponse protobuf ⟨id, .description description, version⟩ = .ok bytes) :
    validDescription description = true := by
  obtain ⟨checked, readable, -⟩ := encodeResponse_ok encoded
  obtain ⟨-, -, walked, few⟩ := (accepted_plain_iff Pb.responseEnvelope
    (responseMessage ⟨id, .description description, version⟩) (plain_response _)).mp
    (validateEnvelope_none_iff.mp checked)
  apply validDescription_walked (walkable_descriptionResponse id description walked) readable
  have nodes := nodes_descriptionResponse id description
  change (responseMessage ⟨id, .description description, version⟩).reflect.nodes ≤ _ at few
  omega

end

/-- The registry accepts a description exactly when a response that carries it can
be encoded: the node bounds are the same bound, and the payload limit is never the
reason for a refusal. -/
theorem registrable_iff_encodable (protobuf : Protobuf) (conforms : protobuf.Conforms)
    (description : ClassDescription) (id : UInt64) (nonzero : id ≠ 0) :
    (validDescription description = true ↔
        ∃ bytes, encodeResponse protobuf ⟨id, .description description, version⟩ = .ok bytes) ∧
      (responseMessage ⟨id, .description description, version⟩).reflect.nodes =
        descriptionNodes description + 1 ∧
      (descriptionNodes description < maxMessageNodes ↔
        (responseMessage ⟨id, .description description, version⟩).reflect.nodes ≤
          maxMessageNodes) ∧
      (validDescription description = true →
        (responseMessage ⟨id, .description description, version⟩).reflect.byteSize ≤
          maxPayloadBytes) := by
  have nodes := nodes_descriptionResponse id description
  refine ⟨⟨fun valid => ?_, fun encoded => ?_⟩, nodes, ?_, size_description id description⟩
  · have sound : SoundOutcome (.description description) := valid
    exact encodeResponse_sound conforms sound nonzero
  · obtain ⟨bytes, encoded⟩ := encoded
    exact validDescription_encoded id description encoded
  · rw [nodes]
    exact Nat.lt_iff_add_one_le

theorem registrable_iff_encodable_counter :
    validDescription counterDefinition.description = true ∧
      (∃ bytes, encodeResponse referenceProtobuf
        ⟨1, .description counterDefinition.description, version⟩ = .ok bytes) ∧
      (responseMessage ⟨1, .description counterDefinition.description, version⟩).reflect.nodes = 6 :=
  ⟨by decide +kernel,
    (registrable_iff_encodable referenceProtobuf referenceProtobuf_conforms
      counterDefinition.description 1 (by decide)).1.mp (by decide +kernel),
    (registrable_iff_encodable referenceProtobuf referenceProtobuf_conforms
      counterDefinition.description 1 (by decide)).2.1⟩

end PipeForge.Server
