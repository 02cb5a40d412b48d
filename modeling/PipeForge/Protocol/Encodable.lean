import PipeForge.Protocol.Limits
import PipeForge.Protocol.RoundTrip

/-!
# What can be encoded

Encoding checks a message twice, by a walk over its reflected fields and by
reading it back. For a message a writer built, both together are the rules of the
contract validators. The walk alone asks for strings and repeated fields within
their limits (`Walkable`), which composes over the fields of a record, and for
enough nodes.
-/

namespace PipeForge.Protocol
open Contracts Library Proto3

/-- The checks of the walk that do not concern the budgets. -/
structure Walkable (m : Message) : Prop where
  runs : shortRuns m
  texts : m.allScalars validString = true

theorem validString_default {value : Scalar} (default : value.isDefault = true) :
    validString value = true := by
  cases value with
  | text bytes =>
    cases bytes with
    | nil => rfl
    | cons b rest => cases default
  | _ => rfl

@[simp] theorem validString_number {value : Scalar} (number : ∀ bytes, value ≠ .text bytes) :
    validString value = true := by
  cases value with
  | text bytes => exact absurd rfl (number bytes)
  | _ => rfl

theorem validString_name {name : Bytes} {allowEmpty : Bool}
    (valid : validName name allowEmpty = true) : validString (.text name) = true := by
  have short := validName_cons_length valid
  exact (validString_text name).mpr ⟨Nat.le_trans short (by decide), validName_utf8 valid⟩

/-! ## Fields of a record -/

section
variable {number : Nat} {rest : Message}

@[simp] theorem walkable_done (unknown : UnknownSet) : Walkable (.done unknown) := ⟨trivial, rfl⟩

@[simp] theorem walkable_implicit {value : Scalar} (later : runLength number rest = 0) :
    Walkable (.implicit number value rest) ↔ validString value = true ∧ Walkable rest := by
  constructor
  · intro walked
    obtain ⟨runs, texts⟩ := walked
    rw [Message.allScalars_implicit, Bool.and_eq_true, Bool.or_eq_true] at texts
    exact ⟨texts.1.elim validString_default id, (shortRuns_implicit later).mp runs, texts.2⟩
  · intro given
    obtain ⟨valid, runs, texts⟩ := given
    refine ⟨(shortRuns_implicit later).mpr runs, ?_⟩
    rw [Message.allScalars_implicit, valid, texts, Bool.or_true, Bool.and_self]

@[simp] theorem walkable_scalar {value : Scalar} (later : runLength number rest = 0) :
    Walkable (.scalar number value rest) ↔ validString value = true ∧ Walkable rest := by
  constructor
  · intro walked
    obtain ⟨runs, texts⟩ := walked
    rw [Message.allScalars, Bool.and_eq_true] at texts
    exact ⟨texts.1, runs.2, texts.2⟩
  · intro given
    obtain ⟨valid, runs, texts⟩ := given
    refine ⟨⟨by rw [later]; decide, runs⟩, ?_⟩
    rw [Message.allScalars, valid, texts, Bool.and_self]

@[simp] theorem walkable_nested {child : Message} (later : runLength number rest = 0) :
    Walkable (.nested number child rest) ↔ Walkable child ∧ Walkable rest := by
  constructor
  · intro walked
    obtain ⟨runs, texts⟩ := walked
    rw [shortRuns_nested later] at runs
    rw [Message.allScalars, Bool.and_eq_true] at texts
    exact ⟨⟨runs.1, texts.1⟩, ⟨runs.2, texts.2⟩⟩
  · intro given
    obtain ⟨inner, outer⟩ := given
    refine ⟨(shortRuns_nested later).mpr ⟨inner.runs, outer.runs⟩, ?_⟩
    rw [Message.allScalars, inner.texts, outer.texts, Bool.and_self]

@[simp] theorem walkable_repeatedMessage {inner : List Message}
    (later : runLength number rest = 0) :
    Walkable (.repeatedMessage number inner rest) ↔
      inner.length ≤ maxEntries ∧ (∀ child ∈ inner, Walkable child) ∧ Walkable rest := by
  constructor
  · intro walked
    obtain ⟨runs, texts⟩ := walked
    rw [shortRuns_repeatedMessage later] at runs
    rw [Message.allScalars_repeatedMessage, Bool.and_eq_true, List.all_eq_true] at texts
    obtain ⟨few, short, runs⟩ := runs
    exact ⟨few, fun child member => ⟨short child member, texts.1 child member⟩, runs, texts.2⟩
  · intro given
    obtain ⟨few, each, outer⟩ := given
    refine ⟨(shortRuns_repeatedMessage later).mpr
      ⟨few, fun child member => (each child member).runs, outer.runs⟩, ?_⟩
    rw [Message.allScalars_repeatedMessage, outer.texts, Bool.and_true, List.all_eq_true]
    exact fun child member => (each child member).texts

end

/-! ## Contract values -/

/-- A value can be walked and read exactly if the contract allows it. -/
theorem walkable_value (data : Value) :
    Walkable (writeValue data).reflect ∧ finite data = true ↔ validValue data = true := by
  cases data with
  | text bytes => simp [writeValue, Pb.Value.reflect, finite, validValue, validString_text]
  | integer n => simp [writeValue, Pb.Value.reflect, finite, validValue]
  | real bits => simp [writeValue, Pb.Value.reflect, finite, validValue]

theorem nodes_value (data : Value) : (writeValue data).reflect.nodes = 1 := by
  cases data <;> rfl

theorem walkable_entry (entry : NamedValue) :
    Walkable (Pb.NamedValue.reflect { name := entry.name, value := some (writeValue entry.data) }) ↔
      validString (.text entry.name) = true ∧ Walkable (writeValue entry.data).reflect := by
  simp [Pb.NamedValue.reflect, Message.submessage]

/-- The list an operation carries: the walk and the reader find what
`valid_named_values` finds. -/
theorem walkable_named (number : Nat) (entries : List NamedValue) :
    Walkable (.repeatedMessage number ((writeNamed entries).map Pb.NamedValue.reflect)
        (.done .nil)) ∧ readableNamed entries = true ↔ validNamedValues entries = true := by
  have each : Walkable (.repeatedMessage number ((writeNamed entries).map Pb.NamedValue.reflect)
      (.done .nil)) ↔ entries.length ≤ maxEntries ∧ ∀ entry ∈ entries,
        validString (.text entry.name) = true ∧ Walkable (writeValue entry.data).reflect := by
    simp [writeNamed, walkable_entry]
  rw [each, validNamedValues_iff, readableNamed, Bool.and_eq_true, List.all_eq_true]
  constructor
  · intro given
    obtain ⟨⟨few, walked⟩, finite, names⟩ := given
    exact ⟨few, names, fun entry member =>
      (walkable_value _).mp ⟨(walked entry member).2, finite entry member⟩⟩
  · intro given
    obtain ⟨few, names, values⟩ := given
    have named := ((validNames_iff _).mp names).1
    refine ⟨⟨few, fun entry member => ⟨?_, ?_⟩⟩, fun entry member => ?_, names⟩
    · exact validString_name (named _ (List.mem_map_of_mem member))
    · exact ((walkable_value _).mpr (values entry member)).1
    · exact ((walkable_value _).mpr (values entry member)).2

/-- Nodes of a list of records, counted per record. -/
theorem nodes_list {α : Type} {reflect : α → Message} (count : α → Nat)
    (each : ∀ a, (reflect a).nodes = count a) (number : Nat) (list : List α) (rest : Message) :
    (Message.repeatedMessage number (list.map reflect) rest).nodes =
      (list.map count).sum + rest.nodes := by
  rw [Message.nodes_repeatedMessage, List.map_map]
  congr 3
  exact funext each

theorem nodes_named (number : Nat) (entries : List NamedValue) :
    (Message.repeatedMessage number ((writeNamed entries).map Pb.NamedValue.reflect)
      (.done .nil)).nodes = 2 * entries.length + 1 := by
  rw [writeNamed, List.map_map, nodes_list (fun _ => 2)]
  · simp [Message.nodes, Nat.mul_comm]
  · intro entry
    simp [Pb.NamedValue.reflect, nodes_value, Message.nodes]

/-! ## Descriptions -/

/-- A parameter list within its entry limit. -/
theorem few_parameters (number : Nat) {rest : Message} (later : runLength number rest = 0)
    {parameters : List Parameter} (walked : Walkable (.repeatedMessage number
      ((writeParameters parameters).map Pb.Parameter.reflect) rest)) :
    parameters.length ≤ maxEntries ∧ Walkable rest := by
  rw [walkable_repeatedMessage later] at walked
  obtain ⟨few, -, outer⟩ := walked
  simp only [writeParameters, List.length_map] at few
  exact ⟨few, outer⟩

/-- Readable parameters are valid if there are not too many of them. -/
theorem validParameters_few {parameters : List Parameter} (few : parameters.length ≤ maxEntries)
    (readable : readableParameters parameters = true) : validParameters parameters = true := by
  rw [readableParameters, Bool.and_eq_true, List.all_eq_true] at readable
  exact (validParameters_iff parameters).mpr ⟨few, readable.2, readable.1⟩

/-- The checks of a description, read off the walk, the reader and the node count. -/
theorem validDescription_walked {description : ClassDescription}
    (walked : Walkable (writeDescription description).reflect)
    (readable : readableDescription description = true)
    (few : descriptionNodes description < maxMessageNodes) :
    validDescription description = true := by
  simp only [readableDescription, readableMethod, Bool.and_eq_true, List.all_eq_true] at readable
  obtain ⟨⟨⟨⟨⟨name, constructors⟩, attributeKinds⟩, methods⟩, attributeNames⟩, methodNames⟩ :=
    readable
  unfold Pb.ClassDescription.reflect at walked
  have fields := Iff.mp
    (walkable_implicit (runLength_repeatedMessage (by decide) (by simp))) walked
  have attributes := Iff.mp (walkable_repeatedMessage (by simp)) fields.2
  have functions := Iff.mp (walkable_repeatedMessage (by simp)) attributes.2.2
  have parameters := few_parameters 4 rfl functions.2.2
  simp only [writeDescription, List.length_map] at attributes functions
  refine (validDescription_iff description).mpr {
    name, attributeNames, methodNames, attributeKinds
    attributes := attributes.1
    methods := functions.1
    constructors := validParameters_few parameters.1 constructors
    resultKinds := fun method member => (methods method member).1
    parameters := fun method member => ?_
    nodes := few }
  have listed := functions.2.1 _ (List.mem_map_of_mem (List.mem_map_of_mem member))
  unfold Pb.Method.reflect at listed
  have inner := Iff.mp (walkable_implicit (by simp)) listed
  exact validParameters_few (few_parameters _ (by simp) inner.2).1 (methods method member).2

theorem nodes_parameters (number : Nat) (parameters : List Parameter) (rest : Message) :
    (Message.repeatedMessage number ((writeParameters parameters).map Pb.Parameter.reflect)
      rest).nodes = parameters.length + rest.nodes := by
  rw [writeParameters, List.map_map, nodes_list (fun _ => 1)]
  · simp
  · intro parameter
    simp [Pb.Parameter.reflect, Message.nodes]

/-- Registration counts the nodes the walk visits. -/
theorem nodes_description (description : ClassDescription) :
    (writeDescription description).reflect.nodes = descriptionNodes description := by
  rw [writeDescription, Pb.ClassDescription.reflect, Message.nodes_implicit, List.map_map,
    nodes_list (fun _ => 1), List.map_map, nodes_list (fun method => method.parameters.length + 1),
    nodes_parameters, descriptionNodes, List.sum_map_add]
  · simp [Message.nodes]
    omega
  · intro method
    simp only [Function.comp_apply, Pb.Method.reflect, Message.nodes_implicit, nodes_parameters,
      Message.nodes]
  · intro field
    simp [Pb.Attribute.reflect, Message.nodes]

/-! ## Envelopes -/

/-- A plain message is accepted if it can be walked and has few enough nodes. -/
theorem accepted_plain_iff {ε : Type} (envelope : Pb.Envelope ε) (message : ε)
    (plain : (envelope.reflect message).plain = true) :
    Accepted envelope message ↔
      envelope.requestId message ≠ 0 ∧ envelope.version message = some version ∧
        Walkable (envelope.reflect message) ∧
          (envelope.reflect message).nodes ≤ maxMessageNodes := by
  constructor
  · intro accepted
    obtain ⟨nonzero, supported, ⟨nodesLeft, unknownsLeft⟩, valid⟩ := accepted
    obtain ⟨runs, texts, -, spent, -⟩ := validateMessage_ok_iff.mp valid
    exact ⟨nonzero, supported, ⟨runs, texts⟩, by omega⟩
  · intro given
    obtain ⟨nonzero, supported, walked, few⟩ := given
    exact ⟨nonzero, supported, validateMessage_plain plain walked.runs walked.texts few _⟩

/-- The fields in front of the body pass the walk. -/
theorem walkable_envelope (version : UInt32) (id : UInt64) {body : Message}
    (alone : ∀ number < 10, runLength number body = 0) :
    Walkable (.optional 1 (some (.uint32 version)) (.implicit 2 (.uint64 id) body)) ↔
      Walkable body := by
  have identified : runLength 1 (.implicit 2 (.uint64 id) body) = 0 :=
    runLength_implicit (by decide) (alone 1 (by decide))
  have second := alone 2 (by decide)
  simp [Message.optional, identified, second]

section
variable {protobuf : Protobuf} (conforms : protobuf.Conforms)
include conforms

/-- A request is encoded on the checks of the walk, of the reader and of the size. -/
theorem encodeRequest_iff {r : Request} (nonzero : r.id ≠ 0) (supported : r.protocolVersion = version) :
    (∃ bytes, encodeRequest protobuf r = .ok bytes) ↔
      (Walkable (requestMessage r).reflect ∧ readableOperation r.body = true) ∧
        (requestMessage r).reflect.nodes ≤ maxMessageNodes ∧
          (requestMessage r).reflect.byteSize ≤ maxPayloadBytes := by
  have accepted := accepted_plain_iff Pb.requestEnvelope (requestMessage r) (plain_request r)
  constructor
  · intro encoded
    obtain ⟨bytes, encoded⟩ := encoded
    obtain ⟨checked, readable, -⟩ := encodeRequest_ok encoded
    obtain ⟨-, -, walked, few⟩ := accepted.mp (validateEnvelope_none_iff.mp checked)
    obtain ⟨-, size, bound⟩ := parse_encodeRequest conforms encoded
    exact ⟨⟨walked, readable⟩, few, size ▸ bound⟩
  · intro given
    obtain ⟨⟨walked, readable⟩, few, fits⟩ := given
    apply encodeRequest_succeeds conforms _ readable fits
    apply validateEnvelope_none_iff.mpr
    apply accepted.mpr
    exact ⟨nonzero, congrArg some supported, walked, few⟩

end

end PipeForge.Protocol
