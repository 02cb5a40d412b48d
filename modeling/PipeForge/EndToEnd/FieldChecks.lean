import PipeForge.Client.Sending
import PipeForge.Domain.Refusals
import PipeForge.Protocol.Canonical
import PipeForge.Protocol.Encodable
import PipeForge.Protocol.Reference

/-!
# The wire and the store check the same fields

The codec walks and reads back a Protobuf message, the store calls the contract
validators. Both accept the same operations (`encodable_iff`), so a request that
reached the store by the wire fails its field checks no more, and one that would
fail them does not leave the client.
-/

namespace PipeForge.EndToEnd
open Contracts Library Proto3 Protocol Domain Client Transport

/-! ## One operation -/

/-- A list of arguments behind a name, the shape of the two operations that call
trusted code. -/
theorem walkable_call {first second : Nat} (different : second ≠ first) (name : Bytes)
    (arguments : List NamedValue) :
    Walkable (.implicit first (.text name) (.repeatedMessage second
        ((writeNamed arguments).map Pb.NamedValue.reflect) (.done .nil))) ∧
      validName name false = true ∧ readableNamed arguments = true ↔
      validName name false = true ∧ validNamedValues arguments = true := by
  rw [walkable_implicit (runLength_repeatedMessage different rfl), ← walkable_named second]
  constructor
  · intro given
    obtain ⟨⟨-, walked⟩, named, readable⟩ := given
    exact ⟨named, walked, readable⟩
  · intro given
    obtain ⟨named, walked, readable⟩ := given
    exact ⟨⟨validString_name named, walked⟩, named, readable⟩

/-- For each operation, what the codec checks in its message is what the domain checks in its
fields. -/
theorem walkable_operation (id : UInt64) (operation : Operation) :
    Walkable (requestMessage ⟨id, operation, version⟩).reflect ∧
      readableOperation operation = true ↔ fieldsValid operation = true := by
  have alone : ∀ number < 10,
      runLength number ((writeOperation operation).reflect (.done .nil)) = 0 := by
    intro number small
    cases operation <;> exact runLength_nested (by omega)
  have only : ∀ {number : Nat} {child : Message},
      Walkable (.nested number child (.done .nil)) ↔ Walkable child := by simp
  refine (and_congr_left' (walkable_envelope version id alone)).trans ?_
  cases operation with
  | listClasses after limit =>
    have text : validName after true = true → validPageSize limit = true →
        validString (.text after) = true := fun named _ => validString_name named
    refine (and_congr_left' only).trans ?_
    simpa [Pb.ListClasses.reflect, readableOperation, fieldsValid] using text
  | describeClass name =>
    have text : validName name false = true → validString (.text name) = true := validString_name
    refine (and_congr_left' only).trans ?_
    simpa [Pb.DescribeClass.reflect, readableOperation, fieldsValid] using text
  | putValue data =>
    refine (and_congr_left' (only.trans only)).trans ?_
    exact walkable_value data
  | getValue id | getObject id | releaseObject id =>
    refine (and_congr_left' only).trans ?_
    simp [Pb.GetValue.reflect, Pb.GetObject.reflect, Pb.ReleaseObject.reflect, readableOperation,
      fieldsValid]
  | listValues after limit =>
    refine (and_congr_left' only).trans ?_
    simp [Pb.ListValues.reflect, readableOperation, fieldsValid]
  | createObject className arguments =>
    refine (and_congr_left' only).trans ?_
    rw [readableOperation, fieldsValid, Bool.and_eq_true, Bool.and_eq_true]
    exact walkable_call (by decide) className arguments
  | getAttribute target name =>
    have text : ¬ target = 0 → validName name false = true → validString (.text name) = true :=
      fun _ named => validString_name named
    refine (and_congr_left' only).trans ?_
    simpa [Pb.GetAttribute.reflect, readableOperation, fieldsValid] using text
  | invokeMethod target name arguments =>
    have call := walkable_call (show 3 ≠ 2 by decide) name arguments
    have identified : runLength 1 (.implicit 2 (.text name) (.repeatedMessage 3
        ((writeNamed arguments).map Pb.NamedValue.reflect) (.done .nil))) = 0 :=
      runLength_implicit (by decide) (runLength_repeatedMessage (by decide) rfl)
    refine (and_congr_left' only).trans ?_
    rw [readableOperation, fieldsValid, Pb.InvokeMethod.reflect, walkable_implicit identified,
      validString_number (by simp)]
    simp only [true_and, Bool.and_eq_true, decide_eq_true_eq, bne_iff_ne]
    rw [and_assoc, and_left_comm, call, and_assoc]

/-- No operation comes near the node limit. -/
theorem nodes_operation {operation : Operation} (id : UInt64)
    (valid : fieldsValid operation = true) :
    (requestMessage ⟨id, operation, version⟩).reflect.nodes ≤ maxMessageNodes := by
  have envelope : (requestMessage ⟨id, operation, version⟩).reflect.nodes =
      ((writeOperation operation).reflect (.done .nil)).nodes := by
    simp [requestMessage, Pb.Request.reflect]
  have listed : ∀ arguments, validNamedValues arguments = true →
      2 * arguments.length + 1 + 1 ≤ maxMessageNodes := by
    intro arguments valid
    have few := ((validNamedValues_iff arguments).mp valid).1
    rw [maxEntries] at few
    rw [maxMessageNodes]
    omega
  rw [envelope]
  cases operation with
  | putValue data =>
    simp [writeOperation, Pb.OperationCase.reflect, Pb.PutValue.reflect, Message.nodes,
      nodes_value, maxMessageNodes]
  | createObject className arguments =>
    rw [fieldsValid, Bool.and_eq_true] at valid
    have nodes := listed arguments valid.2
    rw [← nodes_named 2] at nodes
    simpa [writeOperation, Pb.OperationCase.reflect, Pb.CreateObject.reflect, Message.nodes]
      using nodes
  | invokeMethod target name arguments =>
    rw [fieldsValid, Bool.and_eq_true] at valid
    have nodes := listed arguments valid.2
    rw [← nodes_named 3] at nodes
    simpa [writeOperation, Pb.OperationCase.reflect, Pb.InvokeMethod.reflect, Message.nodes]
      using nodes
  | listClasses | describeClass | getValue | listValues | getObject | releaseObject
  | getAttribute =>
    simp [writeOperation, Pb.OperationCase.reflect, Pb.ListClasses.reflect,
      Pb.DescribeClass.reflect, Pb.GetValue.reflect, Pb.ListValues.reflect, Pb.GetObject.reflect,
      Pb.ReleaseObject.reflect, Pb.GetAttribute.reflect, Message.nodes, maxMessageNodes]

/-! ## Requests -/

section
variable {protobuf : Protobuf} (conforms : protobuf.Conforms)
include conforms

/-- The store's field checks and the payload limit are all that encoding asks for. -/
theorem encodable_iff (operation : Operation) {id : UInt64} (nonzero : id ≠ 0) :
    (∃ bytes, encodeRequest protobuf ⟨id, operation, version⟩ = .ok bytes) ↔
      fieldsValid operation = true ∧
        (requestMessage ⟨id, operation, version⟩).reflect.byteSize ≤ maxPayloadBytes := by
  rw [encodeRequest_iff conforms nonzero rfl, walkable_operation]
  constructor
  · intro given
    exact ⟨given.1, given.2.2⟩
  · intro given
    exact ⟨given.1, nodes_operation id given.1, given.2⟩

theorem fieldsValid_encoded {r : Request} {bytes : Bytes}
    (encoded : encodeRequest protobuf r = .ok bytes) : fieldsValid r.body = true := by
  obtain ⟨id, body, number⟩ := r
  obtain ⟨checked, -, -⟩ := encodeRequest_ok encoded
  obtain ⟨nonzero, supported, -⟩ := validateEnvelope_none_iff.mp checked
  cases Option.some.inj supported
  exact ((encodable_iff conforms body nonzero).mp ⟨bytes, encoded⟩).1

theorem fieldsValid_decoded {payload : Bytes} {r : Request}
    (decoded : decodeRequest protobuf payload = .ok r) : fieldsValid r.body = true := by
  obtain ⟨bytes, encoded, -⟩ := encodeRequest_decoded conforms decoded
  exact fieldsValid_encoded conforms encoded

end

/-! ## The store -/

/-- What is left of `invalid_request` once the fields are valid: the target exists,
and its declared parameters or the trusted code refuse the arguments. -/
inductive Declined (registry : ClassRegistry) (store : SessionStore) : Operation → Prop
  | constructorArguments (className : Bytes) (arguments : List NamedValue)
      (definition : ClassDefinition) (found : registry.find className = some definition)
      (mismatched : validArguments arguments definition.description.constructorParameters = false) :
      Declined registry store (.createObject className arguments)
  | factory (className : Bytes) (arguments : List NamedValue) (definition : ClassDefinition)
      (factory : ObjectFactory) (error : RemoteError)
      (found : registry.find className = some definition)
      (callable : definition.create = some factory) (failed : factory arguments = .error error)
      (returned : error.code = .invalidRequest) :
      Declined registry store (.createObject className arguments)
  | methodArguments (id : UInt64) (name : Bytes) (arguments : List NamedValue)
      (entry : StoredObject) (method : Method) (found : store.objects.find id = some entry)
      (declared : entry.definition.description.methods.find?
        (fun method => decide (method.name = name)) = some method)
      (mismatched : validArguments arguments method.parameters = false) :
      Declined registry store (.invokeMethod id name arguments)
  | method (id : UInt64) (name : Bytes) (arguments : List NamedValue) (entry : StoredObject)
      (method : Method) (error : RemoteError) (candidate : Object)
      (found : store.objects.find id = some entry)
      (declared : entry.definition.description.methods.find?
        (fun method => decide (method.name = name)) = some method)
      (failed : entry.instance_.invoke name arguments = (.error error, candidate))
      (returned : error.code = .invalidRequest) :
      Declined registry store (.invokeMethod id name arguments)

section
variable {registry : ClassRegistry} {store : SessionStore} {operation : Operation}

/-- With valid fields a refusal as invalid has a reason in the store. -/
theorem Declined.of_refused (valid : fieldsValid operation = true) {code : ErrorCode}
    (why : Refused registry store operation code) (same : code = .invalidRequest) :
    Declined registry store operation := by
  cases why with
  | fields _ invalid =>
    rw [valid] at invalid
    cases invalid
  | mismatchedConstructor className arguments definition found mismatched =>
    exact .constructorArguments className arguments definition found mismatched
  | mismatchedMethod id name arguments entry method found declared mismatched =>
    exact .methodArguments id name arguments entry method found declared mismatched
  | factory className arguments definition factory error found matched callable failed =>
    exact .factory className arguments definition factory error found callable failed same
  | method id name arguments entry method error candidate found declared matched failed =>
    exact .method id name arguments entry method error candidate found declared failed same
  | closed | missing | quota | uncallable | null | misshapen | stale | uncloned | broken =>
    exact absurd same (by decide)

/-- The domain refuses a request off the wire as invalid only for such a reason. -/
theorem declined_of_invalidRequest (valid : fieldsValid operation = true) (ids : IdentifierSource)
    (refused : (store.execute registry ids operation).outcome =
      .error (makeError .invalidRequest)) : Declined registry store operation := by
  obtain ⟨code, same, why⟩ := execute_accountable registry store ids operation _ refused
  apply Declined.of_refused valid why
  have codes : (makeError .invalidRequest).code = (makeError code).code := congrArg _ same
  rcases makeError_code_cases code with kept | internal
  · rw [kept] at codes
    exact codes.symm
  · rw [internal] at codes
    exact absurd codes (by decide)

end

/-! ## The client -/

/-- Every entry holds the encoding of its request. -/
def Encoded (protobuf : Protobuf) (b : Book) : Prop :=
  ∀ (i : Address) (call : PendingCall), b.calls[i]? = some call →
    encodeRequest protobuf call.request = .ok call.encoded

section
variable {protobuf : Protobuf} {b b' : Book}

theorem Encoded.modify (entries : Encoded protobuf b) (entry : Address)
    (f : PendingCall → PendingCall) (calls : b'.calls = b.calls.modify entry f)
    (kept : ∀ call, (f call).request = call.request ∧ (f call).encoded = call.encoded) :
    Encoded protobuf b' := by
  intro i later found
  rw [calls] at found
  obtain ⟨call, here, rfl⟩ := lookup_modify.mp found
  have encoded := entries i call here
  split
  · rw [(kept call).1, (kept call).2]
    exact encoded
  · exact encoded

theorem Encoded.move (entries : Encoded protobuf b) (moved : Move protobuf b b') :
    Encoded protobuf b' := by
  cases moved with
  | accept call alive numbered unset fresh room remaining encoded =>
    intro i later found
    rcases lookup_append.mp found with old | ⟨-, rfl⟩
    · exact entries i later old
    · exact encoded
  | expire entry call cause alive found held waiting =>
    exact entries.modify entry (fun call => { call with promise := call.promise ++ [_] }) rfl
      fun _ => ⟨rfl, rfl⟩
  | sent entry call alive found begun =>
    exact entries.modify entry (fun call => { call with progress := .sent }) rfl
      fun _ => ⟨rfl, rfl⟩
  | fail cause alive =>
    intro i later found
    obtain ⟨call, here, rfl⟩ :=
      (lookup_settle (fun id => .error (cause id)) b.pending.entries).mp found
    exact entries i call here

theorem Encoded.turn (entries : Encoded protobuf b) {handed : List Handed}
    {reply : Option Response} (turned : Turn protobuf b handed reply b') : Encoded protobuf b' := by
  cases turned with
  | silent _ moves =>
    induction moves with
    | refl => exact entries
    | tail _ last ih => exact ih.move last
  | hand entry rest call alive front found =>
    exact entries.modify entry (fun call => { call with progress := .writing }) rfl
      fun _ => ⟨rfl, rfl⟩
  | answer entry call response alive found held begun same matched =>
    exact entries.modify entry (fun call => { call with promise := call.promise ++ [.ok response] })
      rfl fun _ => ⟨rfl, rfl⟩

/-- Every entry of every run holds the encoding of its request. -/
theorem encoded_run (protobuf : Protobuf) (opener : Bool) (actions : List Client.Action) :
    Encoded protobuf (ConnectionState.run protobuf opener actions).1.book := by
  refine (Transition.run_invariant (ConnectionState.step protobuf)
    (fun s _ => Invariant s ∧ Encoded protobuf s.book) (.initial opener) []
    ⟨ConnectionState.initial_invariant opener, ?_⟩ ?_ actions).2
  · intro i call found
    simp [ConnectionState.book, ConnectionState.initial] at found
  · intro s _ action holds
    obtain ⟨invariant, entries⟩ := holds
    obtain ⟨reply, turned, -⟩ :=
      ConnectionState.step_turn protobuf invariant.ledger invariant.busy action
    exact ⟨(ConnectionState.step_since protobuf invariant action).invariant, entries.turn turned⟩

end

section
variable {protobuf : Protobuf} (conforms : protobuf.Conforms)
include conforms

/-- The call fails on the spot, whatever else is wrong with it. -/
theorem callAsync_invalid_fields {operation : Operation} (invalid : fieldsValid operation = false)
    (s : ConnectionState) (deadline : Time) (stop : StopToken) :
    ∃ failure, s.callAsync protobuf operation deadline stop = (.error failure, s) := by
  unfold ConnectionState.callAsync
  split
  · exact ⟨_, rfl⟩
  · split
    · exact ⟨_, rfl⟩
    · split
      · exact ⟨_, rfl⟩
      · split
        · exact ⟨_, rfl⟩
        · dsimp only
          split
          · exact ⟨_, rfl⟩
          · rename_i encoded
            have valid := fieldsValid_encoded conforms encoded
            rw [invalid] at valid
            cases valid

/-- Whatever is handed to the channel decodes to a request the store's field checks
accept. -/
theorem handed_fieldsValid (opener : Bool) (actions : List Client.Action) {handed : Handed}
    (member : handed ∈ (ConnectionState.run protobuf opener actions).2) :
    ∃ request, decodeRequest protobuf handed.payload = .ok request ∧
      fieldsValid request.body = true := by
  obtain ⟨call, found, -, payload⟩ := (Sends.run protobuf opener actions).known handed member
  have encoded := encoded_run protobuf opener actions handed.entry call found
  rw [payload]
  exact ⟨call.request, decodeRequest_encode conforms encoded, fieldsValid_encoded conforms encoded⟩

end

/-! ## The result -/

/-- Wire validation is domain validation: encoding succeeds on exactly the
operations that pass the store's own checks and fit a payload; after decoding,
`invalid_request` is left to declared parameters and trusted code; and what the
store would refuse for its fields is refused by the client, at no cost. -/
theorem wire_validation_is_domain_validation (protobuf : Protobuf)
    (conforms : protobuf.Conforms) :
    (∀ (operation : Operation) (id : UInt64), id ≠ 0 →
      ((∃ bytes, encodeRequest protobuf ⟨id, operation, version⟩ = .ok bytes) ↔
        fieldsValid operation = true ∧
          (requestMessage ⟨id, operation, version⟩).reflect.byteSize ≤ maxPayloadBytes)) ∧
    (∀ (registry : ClassRegistry) (store : SessionStore) (ids : IdentifierSource)
        (operation : Operation), store.closed = false → fieldsValid operation = false →
      ∃ code, (code = .invalidRequest ∨ code = .notFound) ∧
        store.execute registry ids operation = store.fail ids code) ∧
    (∀ (payload : Bytes) (request : Request), decodeRequest protobuf payload = .ok request →
      fieldsValid request.body = true ∧
        ∀ (registry : ClassRegistry) (store : SessionStore) (ids : IdentifierSource),
          (store.execute registry ids request.body).outcome = .error (makeError .invalidRequest) →
          Declined registry store request.body) ∧
    (∀ (s : ConnectionState) (operation : Operation) (deadline : Time) (stop : StopToken),
      fieldsValid operation = false →
      ∃ failure, s.callAsync protobuf operation deadline stop = (.error failure, s)) ∧
    (∀ (opener : Bool) (actions : List Client.Action),
      ∀ handed ∈ (ConnectionState.run protobuf opener actions).2,
        ∃ request, decodeRequest protobuf handed.payload = .ok request ∧
          fieldsValid request.body = true) := by
  refine ⟨?_, ?_, ?_, ?_, ?_⟩
  · intro operation id nonzero
    exact encodable_iff conforms operation nonzero
  · intro registry store ids operation opened invalid
    exact execute_invalid_fields opened invalid ids
  · intro payload request decoded
    have valid := fieldsValid_decoded conforms decoded
    exact ⟨valid, fun registry store ids refused => declined_of_invalidRequest valid ids refused⟩
  · intro s operation deadline stop invalid
    exact callAsync_invalid_fields conforms invalid s deadline stop
  · intro opener actions handed member
    exact handed_fieldsValid conforms opener actions member

theorem wire_validation_is_domain_validation_getValue :
    (∃ bytes, encodeRequest referenceProtobuf ⟨1, .getValue 7, version⟩ = .ok bytes) ∧
      ¬ (∃ bytes, encodeRequest referenceProtobuf ⟨1, .getValue 0, version⟩ = .ok bytes) ∧
      ∃ failure, (ConnectionState.initial true).callAsync referenceProtobuf (.getValue 0) 1 0 =
        (.error failure, ConnectionState.initial true) := by
  obtain ⟨encodable, -, -, refused, -⟩ :=
    wire_validation_is_domain_validation referenceProtobuf referenceProtobuf_conforms
  refine ⟨(encodable (.getValue 7) 1 (by decide)).mpr ⟨by decide, by decide +kernel⟩, ?_,
    refused _ (.getValue 0) 1 0 (by decide)⟩
  intro encoded
  exact absurd ((encodable (.getValue 0) 1 (by decide)).mp encoded).1 (by decide)

end PipeForge.EndToEnd
