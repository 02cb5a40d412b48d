import PipeForge.Protocol.Framing
import PipeForge.Protocol.Schema

/-!
# Payload codec

`encode_request`, `decode_request` and their response counterparts (codec.cpp):
resource validation over the reflected message, the two conversions between wire
records and contracts, and the envelope checks. The Protobuf runtime is a
parameter.
-/

namespace PipeForge.Protocol
open Contracts Library Proto3

def maxUnknownFields : Nat := 128

/-! ## Aggregate limits -/

/-- The loop over one unknown set; the remaining budget or a refusal. -/
def boundedFields (depth : Nat) : UnknownSet → Nat → Option Nat
  | .nil, remaining => some remaining
  | .leaf _ value rest, remaining =>
    match value with
    | .lengthDelimited bytes =>
      if bytes.length > maxStringBytes then none else boundedFields depth rest remaining
    | _ => boundedFields depth rest remaining
  | .group _ inner rest, remaining =>
    -- The recursive `bounded_unknowns` of the group.
    if depth + 1 > maxRecursionDepth ∨ inner.fieldCount > remaining then none
    else
      match boundedFields (depth + 1) inner (remaining - inner.fieldCount) with
      | none => none
      | some remaining => boundedFields depth rest remaining

def boundedUnknowns (unknown : UnknownSet) (remaining depth : Nat) : Option Nat :=
  if depth > maxRecursionDepth ∨ unknown.fieldCount > remaining then none
  else boundedFields depth unknown (remaining - unknown.fieldCount)

/-- Entries of the field `number` that come next. -/
def runLength (number : Nat) : Message → Nat
  | .done _ => 0
  | .scalar other _ rest => if other = number then runLength number rest + 1 else 0
  | .nested other _ rest => if other = number then runLength number rest + 1 else 0

def validateText (value : Scalar) : Option FailureCode :=
  match value with
  | .text bytes =>
    if bytes.length > maxStringBytes then some .limitExceeded
    else if !Utf8.isStructurallyValid bytes then some .invalidFields
    else none
  | _ => none

/-- The loop over the listed fields of one message; the remaining node and unknown
budgets. A repeated field is counted before its first element is looked at, and
the count of what remains of it can only be smaller. -/
def validateFields : Message → Nat → Nat → Except FailureCode (Nat × Nat)
  | .done _, nodes, unknowns => .ok (nodes, unknowns)
  | .scalar number value rest, nodes, unknowns =>
    if runLength number rest + 1 > maxEntries then .error .limitExceeded
    else
      match validateText value with
      | some error => .error error
      | none => validateFields rest nodes unknowns
  | .nested number child rest, nodes, unknowns =>
    if runLength number rest + 1 > maxEntries then .error .limitExceeded
    -- The recursive `validate_message` of the child.
    else if nodes = 0 then .error .limitExceeded
    else
      match boundedUnknowns child.unknown unknowns 0 with
      | none => .error .limitExceeded
      | some unknowns =>
        match validateFields child (nodes - 1) unknowns with
        | .error error => .error error
        | .ok (nodes, unknowns) => validateFields rest nodes unknowns

def validateMessage (message : Message) (nodes unknowns : Nat) : Except FailureCode (Nat × Nat) :=
  if nodes = 0 then .error .limitExceeded
  else
    match boundedUnknowns message.unknown unknowns 0 with
    | none => .error .limitExceeded
    | some unknowns => validateFields message (nodes - 1) unknowns

/-! ## Values -/

def readValue (input : Pb.Value) : Option Value :=
  match input.data with
  | .text bytes => some (.text bytes)
  | .integer n => some (.integer n)
  | .real bits => if isfinite bits then some (.real bits) else none
  | .notSet => none

def writeValue (input : Value) : Pb.Value :=
  match input with
  | .text bytes => { data := .text bytes }
  | .integer n => { data := .integer n }
  | .real bits => { data := .real bits }

/-- An absent embedded message reads as the default instance. -/
def orDefault (value : Option Pb.Value) : Pb.Value := value.getD {}

def readEntries : List Pb.NamedValue → Option (List NamedValue)
  | [] => some []
  | entry :: rest =>
    match readValue (orDefault entry.value) with
    | none => none
    | some data => (readEntries rest).map fun later => ⟨entry.name, data⟩ :: later

def readNamed (entries : List Pb.NamedValue) : Option (List NamedValue) :=
  match readEntries entries with
  | none => none
  | some output => if validNames (output.map (·.name)) then some output else none

def writeNamed (entries : List NamedValue) : List Pb.NamedValue :=
  entries.map fun entry => { name := entry.name, value := some (writeValue entry.data) }

def readRecord (input : Pb.ValueRecord) : Option ValueRecord :=
  match readValue (orDefault input.value) with
  | none => none
  | some data => if input.id ≠ 0 then some ⟨input.id, data⟩ else none

def writeRecord (input : ValueRecord) : Pb.ValueRecord :=
  { id := input.id, value := some (writeValue input.data) }

/-! ## Operations -/

def readOperation (input : Pb.Request) : Option Operation :=
  match input.operation with
  | .listClasses m =>
    if validName m.after true && validPageSize m.limit then some (.listClasses m.after m.limit)
    else none
  | .describeClass m => if validName m.name false then some (.describeClass m.name) else none
  | .putValue m => (readValue (orDefault m.value)).map .putValue
  | .getValue m => if m.id ≠ 0 then some (.getValue m.id) else none
  | .listValues m => if validPageSize m.limit then some (.listValues m.after m.limit) else none
  | .createObject m =>
    if validName m.className false then
      (readNamed m.arguments).map fun arguments => .createObject m.className arguments
    else none
  | .getObject m => if m.id ≠ 0 then some (.getObject m.id) else none
  | .releaseObject m => if m.id ≠ 0 then some (.releaseObject m.id) else none
  | .getAttribute m =>
    if m.id ≠ 0 ∧ validName m.name false then some (.getAttribute m.id m.name) else none
  | .invokeMethod m =>
    if m.id ≠ 0 ∧ validName m.name false then
      (readNamed m.arguments).map fun arguments => .invokeMethod m.id m.name arguments
    else none
  | .notSet => none

def writeOperation (input : Operation) : Pb.OperationCase :=
  match input with
  | .listClasses after limit => .listClasses { after, limit }
  | .describeClass name => .describeClass { name }
  | .putValue data => .putValue { value := some (writeValue data) }
  | .getValue id => .getValue { id }
  | .listValues after limit => .listValues { after, limit }
  | .createObject className arguments =>
    .createObject { className, arguments := writeNamed arguments }
  | .getObject id => .getObject { id }
  | .releaseObject id => .releaseObject { id }
  | .getAttribute id name => .getAttribute { id, name }
  | .invokeMethod id name arguments =>
    .invokeMethod { id, name, arguments := writeNamed arguments }

/-! ## Class descriptions -/

/-- `static_cast<value_kind>` and the check that it lost nothing. -/
def readKind (raw : Int32) : Option ValueKind :=
  let kind : ValueKind := ⟨raw.toUInt32.toUInt8⟩
  if !validKind kind || decide (Int32.ofNat kind.raw.toNat ≠ raw) then none else some kind

def writeKind (kind : ValueKind) : Int32 := Int32.ofNat kind.raw.toNat

def readParameterList : List Pb.Parameter → Option (List Parameter)
  | [] => some []
  | argument :: rest =>
    match readKind argument.kind with
    | none => none
    | some kind => (readParameterList rest).map fun later => ⟨argument.name, kind⟩ :: later

def readParameters (input : List Pb.Parameter) : Option (List Parameter) :=
  match readParameterList input with
  | none => none
  | some output => if validNames (output.map (·.name)) then some output else none

def writeParameters (input : List Parameter) : List Pb.Parameter :=
  input.map fun argument => { name := argument.name, kind := writeKind argument.kind }

def readAttributes : List Pb.Attribute → Option (List Attribute)
  | [] => some []
  | field :: rest =>
    match readKind field.kind with
    | none => none
    | some kind => (readAttributes rest).map fun later => ⟨field.name, kind, field.readOnly⟩ :: later

def readMethods : List Pb.Method → Option (List Method)
  | [] => some []
  | function :: rest =>
    match readKind function.resultKind with
    | none => none
    | some resultKind =>
      match readParameters function.parameters with
      | none => none
      | some parameters =>
        (readMethods rest).map fun later => ⟨function.name, parameters, resultKind⟩ :: later

def readDescription (input : Pb.ClassDescription) : Option ClassDescription :=
  if !validName input.name false then none
  else
    match readParameters input.constructorParameters with
    | none => none
    | some constructorParameters =>
      match readAttributes input.attributes with
      | none => none
      | some attributes =>
        match readMethods input.methods with
        | none => none
        | some methods =>
          if !validNames (attributes.map (·.name)) || !validNames (methods.map (·.name)) then none
          else some ⟨input.name, attributes, methods, constructorParameters⟩

def writeDescription (input : ClassDescription) : Pb.ClassDescription :=
  { name := input.name
    constructorParameters := writeParameters input.constructorParameters
    attributes := input.attributes.map fun field =>
      { name := field.name, kind := writeKind field.kind, readOnly := field.readOnly }
    methods := input.methods.map fun function =>
      { name := function.name
        resultKind := writeKind function.resultKind
        parameters := writeParameters function.parameters } }

/-! ## Outcomes -/

/-- `std::ranges::is_sorted`. -/
def isSorted : List Bytes → Bool
  | first :: second :: rest => !decide (second < first) && isSorted (second :: rest)
  | _ => true

/-- `std::ranges::adjacent_find` finds something. -/
def adjacentFind : List Bytes → Bool
  | first :: second :: rest => decide (first = second) || adjacentFind (second :: rest)
  | _ => false

def readClasses (input : Pb.ClassesPage) : Option ClassesPage :=
  if !(input.names.all fun name => validName name false) || !isSorted input.names ||
      adjacentFind input.names ||
      (!input.next.isEmpty &&
        (input.names.isEmpty || decide (input.names.getLast? ≠ some input.next))) then none
  else some ⟨input.names, input.next⟩

/-- The loop over a page with the last identifier seen. -/
def readRecords (previous : UInt64) : List Pb.ValueRecord → Option (List ValueRecord × UInt64)
  | [] => some ([], previous)
  | record :: rest =>
    match readRecord record with
    | none => none
    | some data =>
      if data.id ≤ previous then none
      else (readRecords data.id rest).map fun later => (data :: later.1, later.2)

def readValues (input : Pb.ValuesPage) : Option ValuesPage :=
  match readRecords 0 input.values with
  | none => none
  | some (values, previous) =>
    if input.next ≠ 0 ∧ (values.isEmpty = true ∨ input.next ≠ previous) then none
    else some ⟨values, input.next⟩

def readError (input : Pb.RemoteError) : Option RemoteError :=
  if 1 ≤ input.code ∧ input.code ≤ 10 then
    some ⟨⟨input.code.toUInt32.toUInt8⟩, input.message⟩
  else none

def readOutcome (input : Pb.Response) : Option Outcome :=
  match input.outcome with
  | .classes m => (readClasses m).map .classes
  | .description m => (readDescription m).map .description
  | .valueRecord m => (readRecord m).map .valueRecord
  | .values m => (readValues m).map .values
  | .object m =>
    if m.id ≠ 0 ∧ validName m.className false then
      (readNamed m.state).map fun state => .object ⟨m.id, m.className, state⟩
    else none
  | .released _ => some .released
  | .value m => (readValue m).map .value
  | .error m => (readError m).map .error
  | .notSet => none

def writeOutcome (input : Outcome) : Pb.OutcomeCase :=
  match input with
  | .classes page => .classes { names := page.names, next := page.next }
  | .description description => .description (writeDescription description)
  | .valueRecord record => .valueRecord (writeRecord record)
  | .values page => .values { values := page.values.map writeRecord, next := page.next }
  | .object snapshot =>
    .object { id := snapshot.id, className := snapshot.className, state := writeNamed snapshot.state }
  | .released => .released {}
  | .value data => .value (writeValue data)
  | .error error => .error { code := Int32.ofNat error.code.raw.toNat, message := error.message }

/-! ## Envelopes -/

section
variable {ε : Type} (envelope : Pb.Envelope ε)

def validateEnvelope (message : ε) : Option Failure :=
  let id := envelope.requestId message
  if id = 0 then some ⟨.invalidFields, true, none⟩
  else
    match envelope.version message with
    | none => some ⟨.invalidFields, false, some id⟩
    | some found =>
      if found ≠ version then some ⟨.unsupportedVersion, false, some id⟩
      else
        match validateMessage (envelope.reflect message) maxMessageNodes maxUnknownFields with
        | .error error => some ⟨error, false, some id⟩
        | .ok _ => none

variable (runtime : Pb.Runtime ε)

def parse (payload : Bytes) : Result ε :=
  if payload.isEmpty || decide (payload.length > maxPayloadBytes) then
    .error ⟨.limitExceeded, true, none⟩
  else
    match runtime.parse payload with
    | none => .error ⟨.malformed, true, none⟩
    | some message =>
      match validateEnvelope envelope message with
      | some error => .error error
      | none => .ok message

def serialize (message : ε) : Result Bytes :=
  let count := runtime.byteSizeLong message
  if count > maxPayloadBytes then
    .error ⟨.limitExceeded, false, some (envelope.requestId message)⟩
  else
    match runtime.serializeToArray message count with
    | none => .error ⟨.malformed, true, none⟩
    | some output => .ok output

end

/-- The runtime of both envelope messages. -/
structure Protobuf where
  requests : Pb.Runtime Pb.Request
  responses : Pb.Runtime Pb.Response

structure Protobuf.Conforms (protobuf : Protobuf) : Prop where
  requests : protobuf.requests.Conforms Pb.requestEnvelope
  responses : protobuf.responses.Conforms Pb.responseEnvelope

section
variable (protobuf : Protobuf)

def decodeRequest (payload : Bytes) : Result Request :=
  match parse Pb.requestEnvelope protobuf.requests payload with
  | .error error => .error error
  | .ok message =>
    match readOperation message with
    | some body => .ok ⟨message.requestId, body, message.version.getD 0⟩
    | none => .error ⟨.invalidFields, false, some message.requestId⟩

def decodeResponse (payload : Bytes) : Result Response :=
  match parse Pb.responseEnvelope protobuf.responses payload with
  | .error error => .error error
  | .ok message =>
    match readOutcome message with
    | some body => .ok ⟨message.requestId, body, message.version.getD 0⟩
    | none => .error ⟨.invalidFields, false, some message.requestId⟩

def requestMessage (input : Request) : Pb.Request :=
  { version := some input.protocolVersion
    requestId := input.id
    operation := writeOperation input.body }

def responseMessage (input : Response) : Pb.Response :=
  { version := some input.protocolVersion
    requestId := input.id
    outcome := writeOutcome input.body }

def encodeRequest (input : Request) : Result Bytes :=
  let message := requestMessage input
  match validateEnvelope Pb.requestEnvelope message with
  | some error => .error error
  | none =>
    if (readOperation message).isNone then .error ⟨.invalidFields, false, some input.id⟩
    else serialize Pb.requestEnvelope protobuf.requests message

def encodeResponse (input : Response) : Result Bytes :=
  let message := responseMessage input
  match validateEnvelope Pb.responseEnvelope message with
  | some error => .error error
  | none =>
    if (readOutcome message).isNone then .error ⟨.invalidFields, false, some input.id⟩
    else serialize Pb.responseEnvelope protobuf.responses message

end

end PipeForge.Protocol
