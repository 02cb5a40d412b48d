import PipeForge.Domain.Builtins
import PipeForge.Protocol.Reference
import PipeForge.Server.Encoding

/-!
# Serving one request

`dispatcher::process` and `dispatcher::reject` (dispatcher.cpp) and the part of
`server_state::dispatch` (transport/windows/server.cpp) between receiving a
payload and sending the reply. Logging is left out; the deadline checks around
the domain gate belong to the session loop.

`dispatch_total` is the agreement of the two limit systems: whatever a reachable
store returns, the codec encodes, so once an operation has been executed its
reply is never lost to the codec.
-/

namespace PipeForge.Server
open Contracts Library Proto3 Protocol Domain

/-- A response, or the failure that ends the session, with what the store and the
source have become. -/
structure Processed where
  response : Result Response
  store : SessionStore
  ids : IdentifierSource

def process (registry : ClassRegistry) (ids : IdentifierSource) (store : SessionStore)
    (request : Request) : Processed :=
  if request.id = 0 then ⟨.error ⟨.invalidFields, true, none⟩, store, ids⟩
  else if request.protocolVersion = version then
    let done := store.execute registry ids request.body
    ⟨.ok { id := request.id, body := done.outcome }, done.store, done.ids⟩
  else
    ⟨.ok { id := request.id, body := .error (makeError .unsupportedVersion) }, store, ids⟩

def rejectCode (code : FailureCode) : ErrorCode :=
  if code = .unsupportedVersion then .unsupportedVersion
  else if code = .limitExceeded then .quotaExceeded
  else .invalidRequest

def reject (failure : Failure) : Result Response :=
  match failure.requestId with
  | none => .error ⟨failure.code, true, none⟩
  | some id =>
    if failure.closeSession = true ∨ id = 0 ∨ failure.code = .malformed ∨
        failure.code = .truncated then
      .error ⟨failure.code, true, none⟩
    else .ok { id := id, body := .error (makeError (rejectCode failure.code)) }

/-- The step between `receive` and `send`. A failed `response` or a failed
encoding ends the session without a reply. -/
structure Served extends Processed where
  encoded : Option (Result Bytes)

/-- The critical section: reject what did not decode, execute the rest. -/
def handle (protobuf : Protobuf) (registry : ClassRegistry) (ids : IdentifierSource)
    (store : SessionStore) (payload : Bytes) : Processed :=
  match decodeRequest protobuf payload with
  | .error failure => ⟨reject failure, store, ids⟩
  | .ok request => process registry ids store request

def reply (protobuf : Protobuf) : Result Response → Option (Result Bytes)
  | .error _ => none
  | .ok response => some (encodeResponse protobuf response)

def dispatch (protobuf : Protobuf) (registry : ClassRegistry) (ids : IdentifierSource)
    (store : SessionStore) (payload : Bytes) : Served :=
  let processed := handle protobuf registry ids store payload
  { processed with encoded := reply protobuf processed.response }

/-! ## Failures of the decoder -/

theorem validateText_code {value : Scalar} {code : FailureCode}
    (refused : validateText value = some code) : code = .limitExceeded ∨ code = .invalidFields := by
  unfold validateText at refused
  split at refused
  · split at refused
    · exact Or.inl (Option.some.inj refused).symm
    · split at refused
      · exact Or.inr (Option.some.inj refused).symm
      · cases refused
  · cases refused

/-- The walk refuses with two codes only. -/
theorem validateFields_code {m : Message} {nodes unknowns : Nat} {code : FailureCode}
    (refused : validateFields m nodes unknowns = .error code) :
    code = .limitExceeded ∨ code = .invalidFields := by
  induction m generalizing nodes unknowns with
  | done unknown => cases refused
  | scalar number value rest ih =>
    unfold validateFields at refused
    split at refused
    · exact Or.inl (Except.error.inj refused).symm
    · split at refused
      · rename_i text
        cases refused
        exact validateText_code text
      · exact ih refused
  | nested number child rest childIh ih =>
    unfold validateFields at refused
    split at refused
    · exact Or.inl (Except.error.inj refused).symm
    · split at refused
      · exact Or.inl (Except.error.inj refused).symm
      · split at refused
        · exact Or.inl (Except.error.inj refused).symm
        · split at refused
          · rename_i inner
            cases refused
            exact childIh inner
          · exact ih refused

theorem validateMessage_code {m : Message} {nodes unknowns : Nat} {code : FailureCode}
    (refused : validateMessage m nodes unknowns = .error code) :
    code = .limitExceeded ∨ code = .invalidFields := by
  unfold validateMessage at refused
  split at refused
  · exact Or.inl (Except.error.inj refused).symm
  · split at refused
    · exact Or.inl (Except.error.inj refused).symm
    · exact validateFields_code refused

/-- A failure the peer can be told about. -/
structure Correlated (failure : Failure) (id : UInt64) : Prop where
  open_ : failure.closeSession = false
  identified : failure.requestId = some id
  nonzero : id ≠ 0
  code : failure.code ≠ .malformed ∧ failure.code ≠ .truncated

/-- An envelope is refused with its request's identifier, or the session is closed. -/
theorem validateEnvelope_failure {ε : Type} {envelope : Pb.Envelope ε} {message : ε}
    {failure : Failure} (refused : validateEnvelope envelope message = some failure) :
    failure.closeSession = true ∨ Correlated failure (envelope.requestId message) := by
  unfold validateEnvelope at refused
  dsimp only at refused
  split at refused
  · cases refused
    exact Or.inl rfl
  · rename_i nonzero
    split at refused
    · cases refused
      exact Or.inr ⟨rfl, rfl, nonzero, nofun, nofun⟩
    · split at refused
      · cases refused
        exact Or.inr ⟨rfl, rfl, nonzero, nofun, nofun⟩
      · split at refused
        · rename_i invalid
          cases refused
          refine Or.inr ⟨rfl, rfl, nonzero, ?_⟩
          rcases validateMessage_code invalid with limit | fields
          · rw [limit]
            exact ⟨nofun, nofun⟩
          · rw [fields]
            exact ⟨nofun, nofun⟩
        · cases refused

section
variable {protobuf : Protobuf} {payload : Bytes}

theorem decodeRequest_failure {failure : Failure}
    (failed : decodeRequest protobuf payload = .error failure) :
    failure.closeSession = true ∨
      ∃ message, protobuf.requests.parse payload = some message ∧
        Correlated failure message.requestId := by
  unfold decodeRequest at failed
  split at failed
  · rename_i refused
    cases failed
    unfold Protocol.parse at refused
    split at refused
    · cases refused
      exact Or.inl rfl
    · split at refused
      · cases refused
        exact Or.inl rfl
      · rename_i message parsed
        split at refused
        · rename_i invalid
          cases refused
          rcases validateEnvelope_failure invalid with closing | correlated
          · exact Or.inl closing
          · exact Or.inr ⟨message, parsed, correlated⟩
        · cases refused
  · rename_i message parsed
    split at failed
    · cases failed
    · cases failed
      obtain ⟨-, restored, accepted⟩ := parse_ok parsed
      have nonzero := (validateEnvelope_none_iff.mp accepted).id
      exact Or.inr ⟨message, restored, rfl, rfl, nonzero, nofun, nofun⟩

/-- What closes the session is not answered. -/
theorem reject_closing {failure : Failure} (closing : failure.closeSession = true) :
    reject failure = .error ⟨failure.code, true, none⟩ := by
  unfold reject
  split
  · rfl
  · rw [if_pos (Or.inl closing)]

/-- What can be answered is answered under the identifier of the request. -/
theorem reject_correlated {failure : Failure} {id : UInt64} (correlated : Correlated failure id) :
    reject failure = .ok ⟨id, .error (makeError (rejectCode failure.code)), version⟩ := by
  have passes : ¬ (failure.closeSession = true ∨ id = 0 ∨ failure.code = .malformed ∨
      failure.code = .truncated) := by
    simp [correlated.open_, correlated.nonzero, correlated.code.1, correlated.code.2]
  simp only [reject, correlated.identified, if_neg passes]

/-! ## Totality -/

variable (registry : ClassRegistry) (ids : IdentifierSource) (store : SessionStore)

/-- A request that cannot be decoded reaches no store. -/
theorem handle_rejected {failure : Failure}
    (failed : decodeRequest protobuf payload = .error failure) :
    handle protobuf registry ids store payload = ⟨reject failure, store, ids⟩ := by
  simp only [handle, failed]

/-- The decoder lets only identified requests of the supported version through. -/
theorem decodeRequest_supported {request : Request}
    (decoded : decodeRequest protobuf payload = .ok request) :
    request.id ≠ 0 ∧ request.protocolVersion = version := by
  obtain ⟨message, parsed, -, id, supported⟩ := decodeRequest_ok decoded
  have accepted := validateEnvelope_none_iff.mp (parse_ok parsed).2.2
  constructor
  · rw [id]
    exact accepted.id
  · have present := accepted.version
    simp only [Pb.requestEnvelope] at present
    rw [present] at supported
    exact (Option.some.inj supported).symm

/-- So a decoded request is executed. -/
theorem handle_executed {request : Request}
    (decoded : decodeRequest protobuf payload = .ok request) :
    handle protobuf registry ids store payload =
      ⟨.ok ⟨request.id, (store.execute registry ids request.body).outcome, version⟩,
        (store.execute registry ids request.body).store,
        (store.execute registry ids request.body).ids⟩ := by
  obtain ⟨nonzero, supported⟩ := decodeRequest_supported decoded
  simp only [handle, decoded, process, if_neg nonzero, if_pos supported]

/-- A correlated reply: encoded within the frame limits and decoding to itself. -/
structure Answered (protobuf : Protobuf) (served : Served) (id : UInt64) (response : Response)
    (bytes : Bytes) : Prop where
  nonzero : id ≠ 0
  identified : response.id = id
  returned : served.response = .ok response
  encoded : served.encoded = some (.ok bytes)
  nonempty : 1 ≤ bytes.length
  bounded : bytes.length ≤ maxPayloadBytes
  framed : ∃ message, frame bytes = .ok message
  decoded : decodeResponse protobuf bytes = .ok response

/-- What the encoder accepts can be framed. -/
theorem encodeResponse_fits (conforms : protobuf.Conforms) {response : Response} {bytes : Bytes}
    (encoded : encodeResponse protobuf response = .ok bytes) : validLength bytes.length := by
  obtain ⟨-, size, bounded⟩ := parse_encodeResponse conforms encoded
  refine ⟨?_, bounded⟩
  rw [size]
  exact response_nonempty _

/-- A sound outcome for a named request is answered on the wire. -/
theorem answered_of_sound (conforms : protobuf.Conforms) (served : Served) {id : UInt64}
    {outcome : Outcome} (sound : SoundOutcome outcome) (nonzero : id ≠ 0)
    (answer : served.response = .ok ⟨id, outcome, version⟩)
    (replied : served.encoded = reply protobuf served.response) :
    ∃ bytes, Answered protobuf served id ⟨id, outcome, version⟩ bytes := by
  obtain ⟨bytes, encoded⟩ := encodeResponse_sound conforms sound nonzero
  obtain ⟨nonempty, bounded⟩ := encodeResponse_fits conforms encoded
  refine ⟨bytes, nonzero, rfl, answer, ?_, nonempty, bounded, ?_,
    decodeResponse_encode conforms encoded⟩
  · rw [replied, answer, reply, encoded]
  · exact ⟨_, frame_valid (encodeResponse_fits conforms encoded)⟩

end

/-- What the store and the source become: those of the executed operation when the
request decoded, and what they were otherwise. -/
structure Committed (protobuf : Protobuf) (registry : ClassRegistry) (ids : IdentifierSource)
    (store : SessionStore) (payload : Bytes) (served : Served) : Prop where
  rejected : ∀ failure, decodeRequest protobuf payload = .error failure →
    served.store = store ∧ served.ids = ids
  executed : ∀ request, decodeRequest protobuf payload = .ok request →
    served.response =
        .ok ⟨request.id, (store.execute registry ids request.body).outcome, version⟩ ∧
      served.store = (store.execute registry ids request.body).store ∧
      served.ids = (store.execute registry ids request.body).ids

/-- For every reachable store and every payload, a closing decoder failure gives no
reply and every other payload gives one that the codec encodes. -/
theorem dispatch_total (protobuf : Protobuf) (conforms : protobuf.Conforms)
    (registry : ClassRegistry) (first : UInt64) (actions : List Action) (session : Nat)
    (store : SessionStore)
    (reached : (World.run registry first actions).1.sessions[session]? = some store)
    (payload : Bytes) :
    let ids := (World.run registry first actions).1.ids
    let served := dispatch protobuf registry ids store payload
    Committed protobuf registry ids store payload served ∧
      (∀ failure, decodeRequest protobuf payload = .error failure →
        failure.closeSession = true →
        served.response = .error ⟨failure.code, true, none⟩ ∧ served.encoded = none) ∧
      ((∀ failure, decodeRequest protobuf payload = .error failure →
        failure.closeSession = false) →
        ∃ message response bytes, protobuf.requests.parse payload = some message ∧
          Answered protobuf served message.requestId response bytes) := by
  intro ids served
  have sound := World.run_sound registry first actions session store reached
  refine ⟨⟨?_, ?_⟩, ?_, ?_⟩
  · intro failure failed
    have whole := handle_rejected registry ids store failed
    exact ⟨congrArg Processed.store whole, congrArg Processed.ids whole⟩
  · intro request decoded
    have whole := handle_executed registry ids store decoded
    exact ⟨congrArg Processed.response whole, congrArg Processed.store whole,
      congrArg Processed.ids whole⟩
  · intro failure failed closing
    have whole := handle_rejected registry ids store failed
    have response : served.response = .error ⟨failure.code, true, none⟩ :=
      (congrArg Processed.response whole).trans (reject_closing closing)
    exact ⟨response, congrArg (reply protobuf) response⟩
  · intro answers
    cases decoded : decodeRequest protobuf payload with
    | error failure =>
      have whole := handle_rejected registry ids store decoded
      rcases decodeRequest_failure decoded with closing | ⟨message, parsed, correlated⟩
      · rw [answers failure decoded] at closing
        cases closing
      · have response := (congrArg Processed.response whole).trans (reject_correlated correlated)
        obtain ⟨bytes, answered⟩ := answered_of_sound conforms served
          (show SoundOutcome (.error (makeError (rejectCode failure.code))) from ⟨_, rfl⟩)
          correlated.nonzero response rfl
        exact ⟨message, _, bytes, parsed, answered⟩
    | ok request =>
      have whole := handle_executed registry ids store decoded
      have nonzero := (decodeRequest_supported decoded).1
      obtain ⟨message, parsed, -, id, -⟩ := decodeRequest_ok decoded
      obtain ⟨bytes, answered⟩ := answered_of_sound conforms served
        (execute_soundOutcome sound request.body) nonzero (congrArg Processed.response whole) rfl
      rw [id] at answered
      exact ⟨message, _, bytes, (parse_ok parsed).2.1, answered⟩

/-- A page request on a fresh session is answered; an empty payload is not. -/
theorem dispatch_total_classes :
    ∃ store, (World.run builtinRegistry 1 [.create ⟨4, 4, 4096⟩]).1.sessions[0]? = some store ∧
      (∃ message response bytes,
        referenceProtobuf.requests.parse [8, 1, 16, 7, 82, 2, 16, 2] = some message ∧
        Answered referenceProtobuf
          (dispatch referenceProtobuf builtinRegistry ⟨1⟩ store [8, 1, 16, 7, 82, 2, 16, 2])
          message.requestId response bytes) ∧
      (dispatch referenceProtobuf builtinRegistry ⟨1⟩ store []).encoded = none := by
  have reached : (World.run builtinRegistry 1 [.create ⟨4, 4, 4096⟩]).1.sessions[0]? =
      some (SessionStore.create ⟨4, 4, 4096⟩) := rfl
  have decodes : decodeRequest referenceProtobuf [8, 1, 16, 7, 82, 2, 16, 2] =
      .ok ⟨7, .listClasses [] 2, 1⟩ := by decide +kernel
  have page := dispatch_total referenceProtobuf referenceProtobuf_conforms builtinRegistry 1
    [.create ⟨4, 4, 4096⟩] 0 _ reached [8, 1, 16, 7, 82, 2, 16, 2]
  have empty := dispatch_total referenceProtobuf referenceProtobuf_conforms builtinRegistry 1
    [.create ⟨4, 4, 4096⟩] 0 _ reached []
  refine ⟨_, reached, page.2.2 ?_, (empty.2.1 ⟨.limitExceeded, true, none⟩ rfl rfl).2⟩
  intro failure failed
  rw [decodes] at failed
  cases failed

end PipeForge.Server
