import PipeForge.Contracts.Validation
import PipeForge.Library.Proto3

/-!
# Wire messages

The messages of `protocol.proto` twice: as a schema, which fixes the meaning of
bytes, and as the records the Protobuf compiler generates, which the codec reads
and fills. `reflect` lists the present fields of a record the way reflection
does. An enumerator field holds any 32-bit number, as proto3 enums are open.

The generated parser and serializer are not part of this repository. `Runtime`
stands for them and `Runtime.Conforms` states what the codec relies on: the wire
size rules, that serialized messages parse back, and that whatever is accepted
is accepted with the documented meaning.
-/

namespace PipeForge.Protocol.Pb
open Contracts Library Proto3

/-! ## Schema -/

inductive MessageType where
  | value | namedValue | valueRecord | parameter | attribute | method | classDescription
  | objectSnapshot | listClasses | describeClass | putValue | getValue | listValues | createObject
  | getObject | releaseObject | getAttribute | invokeMethod | classesPage | valuesPage | released
  | remoteError | request | response
  deriving DecidableEq, Repr

def schema : Schema MessageType
  | .value =>
    [⟨1, .scalar .text, .member [1, 2, 3]⟩, ⟨2, .scalar .sint64, .member [1, 2, 3]⟩,
     ⟨3, .scalar .double, .member [1, 2, 3]⟩]
  | .namedValue => [⟨1, .scalar .text, .implicit⟩, ⟨2, .message .value, .explicit⟩]
  | .valueRecord => [⟨1, .scalar .uint64, .implicit⟩, ⟨2, .message .value, .explicit⟩]
  | .parameter => [⟨1, .scalar .text, .implicit⟩, ⟨2, .scalar .enum, .implicit⟩]
  | .attribute =>
    [⟨1, .scalar .text, .implicit⟩, ⟨2, .scalar .enum, .implicit⟩, ⟨3, .scalar .bool, .implicit⟩]
  | .method =>
    [⟨1, .scalar .text, .implicit⟩, ⟨2, .message .parameter, .repeated⟩,
     ⟨3, .scalar .enum, .implicit⟩]
  | .classDescription =>
    [⟨1, .scalar .text, .implicit⟩, ⟨2, .message .attribute, .repeated⟩,
     ⟨3, .message .method, .repeated⟩, ⟨4, .message .parameter, .repeated⟩]
  | .objectSnapshot =>
    [⟨1, .scalar .uint64, .implicit⟩, ⟨2, .scalar .text, .implicit⟩,
     ⟨3, .message .namedValue, .repeated⟩]
  | .listClasses => [⟨1, .scalar .text, .implicit⟩, ⟨2, .scalar .uint32, .implicit⟩]
  | .describeClass => [⟨1, .scalar .text, .implicit⟩]
  | .putValue => [⟨1, .message .value, .explicit⟩]
  | .getValue => [⟨1, .scalar .uint64, .implicit⟩]
  | .listValues => [⟨1, .scalar .uint64, .implicit⟩, ⟨2, .scalar .uint32, .implicit⟩]
  | .createObject => [⟨1, .scalar .text, .implicit⟩, ⟨2, .message .namedValue, .repeated⟩]
  | .getObject => [⟨1, .scalar .uint64, .implicit⟩]
  | .releaseObject => [⟨1, .scalar .uint64, .implicit⟩]
  | .getAttribute => [⟨1, .scalar .uint64, .implicit⟩, ⟨2, .scalar .text, .implicit⟩]
  | .invokeMethod =>
    [⟨1, .scalar .uint64, .implicit⟩, ⟨2, .scalar .text, .implicit⟩,
     ⟨3, .message .namedValue, .repeated⟩]
  | .classesPage => [⟨1, .scalar .text, .repeated⟩, ⟨2, .scalar .text, .implicit⟩]
  | .valuesPage => [⟨1, .message .valueRecord, .repeated⟩, ⟨2, .scalar .uint64, .implicit⟩]
  | .released => []
  | .remoteError => [⟨1, .scalar .enum, .implicit⟩, ⟨2, .scalar .text, .implicit⟩]
  | .request =>
    let operation := Label.member [10, 11, 12, 13, 14, 15, 16, 17, 18, 19]
    [⟨1, .scalar .uint32, .explicit⟩, ⟨2, .scalar .uint64, .implicit⟩,
     ⟨10, .message .listClasses, operation⟩, ⟨11, .message .describeClass, operation⟩,
     ⟨12, .message .putValue, operation⟩, ⟨13, .message .getValue, operation⟩,
     ⟨14, .message .listValues, operation⟩, ⟨15, .message .createObject, operation⟩,
     ⟨16, .message .getObject, operation⟩, ⟨17, .message .releaseObject, operation⟩,
     ⟨18, .message .getAttribute, operation⟩, ⟨19, .message .invokeMethod, operation⟩]
  | .response =>
    let outcome := Label.member [10, 11, 12, 13, 14, 15, 16, 17]
    [⟨1, .scalar .uint32, .explicit⟩, ⟨2, .scalar .uint64, .implicit⟩,
     ⟨10, .message .classesPage, outcome⟩, ⟨11, .message .classDescription, outcome⟩,
     ⟨12, .message .valueRecord, outcome⟩, ⟨13, .message .valuesPage, outcome⟩,
     ⟨14, .message .objectSnapshot, outcome⟩, ⟨15, .message .released, outcome⟩,
     ⟨16, .message .value, outcome⟩, ⟨17, .message .remoteError, outcome⟩]

theorem schema_proper : schema.Proper := by
  intro type field member
  cases type <;> revert field member <;> decide

/-! ## Generated records -/

/-- The `data` oneof. -/
inductive Data where
  | notSet
  | text (bytes : Bytes)
  | integer (n : Int64)
  | real (bits : UInt64)
  deriving DecidableEq, Repr

structure Value where
  data : Data := .notSet
  unknown : UnknownSet := .nil
  deriving DecidableEq, Repr

structure NamedValue where
  name : Bytes := []
  value : Option Value := none
  unknown : UnknownSet := .nil
  deriving DecidableEq, Repr

structure ValueRecord where
  id : UInt64 := 0
  value : Option Value := none
  unknown : UnknownSet := .nil
  deriving DecidableEq, Repr

structure Parameter where
  name : Bytes := []
  kind : Int32 := 0
  unknown : UnknownSet := .nil
  deriving DecidableEq, Repr

structure Attribute where
  name : Bytes := []
  kind : Int32 := 0
  readOnly : Bool := false
  unknown : UnknownSet := .nil
  deriving DecidableEq, Repr

structure Method where
  name : Bytes := []
  parameters : List Parameter := []
  resultKind : Int32 := 0
  unknown : UnknownSet := .nil
  deriving DecidableEq, Repr

structure ClassDescription where
  name : Bytes := []
  attributes : List Attribute := []
  methods : List Method := []
  constructorParameters : List Parameter := []
  unknown : UnknownSet := .nil
  deriving DecidableEq, Repr

structure ObjectSnapshot where
  id : UInt64 := 0
  className : Bytes := []
  state : List NamedValue := []
  unknown : UnknownSet := .nil
  deriving DecidableEq, Repr

structure ListClasses where
  after : Bytes := []
  limit : UInt32 := 0
  unknown : UnknownSet := .nil
  deriving DecidableEq, Repr

structure DescribeClass where
  name : Bytes := []
  unknown : UnknownSet := .nil
  deriving DecidableEq, Repr

structure PutValue where
  value : Option Value := none
  unknown : UnknownSet := .nil
  deriving DecidableEq, Repr

structure GetValue where
  id : UInt64 := 0
  unknown : UnknownSet := .nil
  deriving DecidableEq, Repr

structure ListValues where
  after : UInt64 := 0
  limit : UInt32 := 0
  unknown : UnknownSet := .nil
  deriving DecidableEq, Repr

structure CreateObject where
  className : Bytes := []
  arguments : List NamedValue := []
  unknown : UnknownSet := .nil
  deriving DecidableEq, Repr

structure GetObject where
  id : UInt64 := 0
  unknown : UnknownSet := .nil
  deriving DecidableEq, Repr

structure ReleaseObject where
  id : UInt64 := 0
  unknown : UnknownSet := .nil
  deriving DecidableEq, Repr

structure GetAttribute where
  id : UInt64 := 0
  name : Bytes := []
  unknown : UnknownSet := .nil
  deriving DecidableEq, Repr

structure InvokeMethod where
  id : UInt64 := 0
  name : Bytes := []
  arguments : List NamedValue := []
  unknown : UnknownSet := .nil
  deriving DecidableEq, Repr

structure ClassesPage where
  names : List Bytes := []
  next : Bytes := []
  unknown : UnknownSet := .nil
  deriving DecidableEq, Repr

structure ValuesPage where
  values : List ValueRecord := []
  next : UInt64 := 0
  unknown : UnknownSet := .nil
  deriving DecidableEq, Repr

structure Released where
  unknown : UnknownSet := .nil
  deriving DecidableEq, Repr

structure RemoteError where
  code : Int32 := 0
  message : Bytes := []
  unknown : UnknownSet := .nil
  deriving DecidableEq, Repr

/-- The `operation` oneof. -/
inductive OperationCase where
  | notSet
  | listClasses (m : ListClasses)
  | describeClass (m : DescribeClass)
  | putValue (m : PutValue)
  | getValue (m : GetValue)
  | listValues (m : ListValues)
  | createObject (m : CreateObject)
  | getObject (m : GetObject)
  | releaseObject (m : ReleaseObject)
  | getAttribute (m : GetAttribute)
  | invokeMethod (m : InvokeMethod)
  deriving DecidableEq, Repr

structure Request where
  version : Option UInt32 := none
  requestId : UInt64 := 0
  operation : OperationCase := .notSet
  unknown : UnknownSet := .nil
  deriving DecidableEq, Repr

/-- The `outcome` oneof. -/
inductive OutcomeCase where
  | notSet
  | classes (m : ClassesPage)
  | description (m : ClassDescription)
  | valueRecord (m : ValueRecord)
  | values (m : ValuesPage)
  | object (m : ObjectSnapshot)
  | released (m : Released)
  | value (m : Value)
  | error (m : RemoteError)
  deriving DecidableEq, Repr

structure Response where
  version : Option UInt32 := none
  requestId : UInt64 := 0
  outcome : OutcomeCase := .notSet
  unknown : UnknownSet := .nil
  deriving DecidableEq, Repr

/-! ## Reflection -/

def Value.reflect (m : Value) : Message :=
  match m.data with
  | .notSet => .done m.unknown
  | .text bytes => .scalar 1 (.text bytes) (.done m.unknown)
  | .integer n => .scalar 2 (.sint64 n) (.done m.unknown)
  | .real bits => .scalar 3 (.double bits) (.done m.unknown)

def NamedValue.reflect (m : NamedValue) : Message :=
  .implicit 1 (.text m.name) (.submessage 2 (m.value.map Value.reflect) (.done m.unknown))

def ValueRecord.reflect (m : ValueRecord) : Message :=
  .implicit 1 (.uint64 m.id) (.submessage 2 (m.value.map Value.reflect) (.done m.unknown))

def Parameter.reflect (m : Parameter) : Message :=
  .implicit 1 (.text m.name) (.implicit 2 (.enum m.kind) (.done m.unknown))

def Attribute.reflect (m : Attribute) : Message :=
  .implicit 1 (.text m.name) (.implicit 2 (.enum m.kind)
    (.implicit 3 (.bool m.readOnly) (.done m.unknown)))

def Method.reflect (m : Method) : Message :=
  .implicit 1 (.text m.name) (.repeatedMessage 2 (m.parameters.map Parameter.reflect)
    (.implicit 3 (.enum m.resultKind) (.done m.unknown)))

def ClassDescription.reflect (m : ClassDescription) : Message :=
  .implicit 1 (.text m.name) (.repeatedMessage 2 (m.attributes.map Attribute.reflect)
    (.repeatedMessage 3 (m.methods.map Method.reflect)
      (.repeatedMessage 4 (m.constructorParameters.map Parameter.reflect) (.done m.unknown))))

def ObjectSnapshot.reflect (m : ObjectSnapshot) : Message :=
  .implicit 1 (.uint64 m.id) (.implicit 2 (.text m.className)
    (.repeatedMessage 3 (m.state.map NamedValue.reflect) (.done m.unknown)))

def ListClasses.reflect (m : ListClasses) : Message :=
  .implicit 1 (.text m.after) (.implicit 2 (.uint32 m.limit) (.done m.unknown))

def DescribeClass.reflect (m : DescribeClass) : Message :=
  .implicit 1 (.text m.name) (.done m.unknown)

def PutValue.reflect (m : PutValue) : Message :=
  .submessage 1 (m.value.map Value.reflect) (.done m.unknown)

def GetValue.reflect (m : GetValue) : Message := .implicit 1 (.uint64 m.id) (.done m.unknown)

def ListValues.reflect (m : ListValues) : Message :=
  .implicit 1 (.uint64 m.after) (.implicit 2 (.uint32 m.limit) (.done m.unknown))

def CreateObject.reflect (m : CreateObject) : Message :=
  .implicit 1 (.text m.className)
    (.repeatedMessage 2 (m.arguments.map NamedValue.reflect) (.done m.unknown))

def GetObject.reflect (m : GetObject) : Message := .implicit 1 (.uint64 m.id) (.done m.unknown)

def ReleaseObject.reflect (m : ReleaseObject) : Message :=
  .implicit 1 (.uint64 m.id) (.done m.unknown)

def GetAttribute.reflect (m : GetAttribute) : Message :=
  .implicit 1 (.uint64 m.id) (.implicit 2 (.text m.name) (.done m.unknown))

def InvokeMethod.reflect (m : InvokeMethod) : Message :=
  .implicit 1 (.uint64 m.id) (.implicit 2 (.text m.name)
    (.repeatedMessage 3 (m.arguments.map NamedValue.reflect) (.done m.unknown)))

def ClassesPage.reflect (m : ClassesPage) : Message :=
  .repeatedScalar 1 (m.names.map .text) (.implicit 2 (.text m.next) (.done m.unknown))

def ValuesPage.reflect (m : ValuesPage) : Message :=
  .repeatedMessage 1 (m.values.map ValueRecord.reflect)
    (.implicit 2 (.uint64 m.next) (.done m.unknown))

def Released.reflect (m : Released) : Message := .done m.unknown

def RemoteError.reflect (m : RemoteError) : Message :=
  .implicit 1 (.enum m.code) (.implicit 2 (.text m.message) (.done m.unknown))

/-- The set member of the `operation` oneof, in front of what follows. -/
def OperationCase.reflect (m : OperationCase) (rest : Message) : Message :=
  match m with
  | .notSet => rest
  | .listClasses m => .nested 10 m.reflect rest
  | .describeClass m => .nested 11 m.reflect rest
  | .putValue m => .nested 12 m.reflect rest
  | .getValue m => .nested 13 m.reflect rest
  | .listValues m => .nested 14 m.reflect rest
  | .createObject m => .nested 15 m.reflect rest
  | .getObject m => .nested 16 m.reflect rest
  | .releaseObject m => .nested 17 m.reflect rest
  | .getAttribute m => .nested 18 m.reflect rest
  | .invokeMethod m => .nested 19 m.reflect rest

def Request.reflect (m : Request) : Message :=
  .optional 1 (m.version.map .uint32) (.implicit 2 (.uint64 m.requestId)
    (m.operation.reflect (.done m.unknown)))

def OutcomeCase.reflect (m : OutcomeCase) (rest : Message) : Message :=
  match m with
  | .notSet => rest
  | .classes m => .nested 10 m.reflect rest
  | .description m => .nested 11 m.reflect rest
  | .valueRecord m => .nested 12 m.reflect rest
  | .values m => .nested 13 m.reflect rest
  | .object m => .nested 14 m.reflect rest
  | .released m => .nested 15 m.reflect rest
  | .value m => .nested 16 m.reflect rest
  | .error m => .nested 17 m.reflect rest

def Response.reflect (m : Response) : Message :=
  .optional 1 (m.version.map .uint32) (.implicit 2 (.uint64 m.requestId)
    (m.outcome.reflect (.done m.unknown)))

/-! ## The Protobuf runtime -/

/-- What the codec's templates use of an envelope message. -/
structure Envelope (ε : Type) where
  type : MessageType
  reflect : ε → Message
  version : ε → Option UInt32
  requestId : ε → UInt64

def requestEnvelope : Envelope Request := ⟨.request, Request.reflect, (·.version), (·.requestId)⟩

def responseEnvelope : Envelope Response :=
  ⟨.response, Response.reflect, (·.version), (·.requestId)⟩

structure Runtime (ε : Type) where
  /-- `ParseFromCodedStream` with the byte and recursion limits set, together with
  `ConsumedEntireMessage`. -/
  parse : Bytes → Option ε
  byteSizeLong : ε → Nat
  /-- `SerializeToArray` into a buffer of the given size. -/
  serializeToArray : ε → Nat → Option Bytes

/-- A text a proto3 parser accepts. -/
def validText : Scalar → Bool
  | .text bytes => Utf8.isStructurallyValid bytes
  | _ => true

structure Runtime.Conforms {ε : Type} (envelope : Envelope ε) (runtime : Runtime ε) : Prop where
  /-- `ByteSizeLong` follows the wire size rules. -/
  size : ∀ m, (envelope.reflect m).plain = true →
    runtime.byteSizeLong m = (envelope.reflect m).byteSize
  /-- A large enough buffer is filled with exactly that many bytes. -/
  written : ∀ m, (envelope.reflect m).plain = true →
    (envelope.reflect m).byteSize ≤ maxPayloadBytes →
    ∃ bytes, runtime.serializeToArray m (runtime.byteSizeLong m) = some bytes ∧
      bytes.length = runtime.byteSizeLong m
  /-- The serialization of a message without unknown fields parses back to it, when
  its strings are UTF-8 and neither limit is reached. -/
  restored : ∀ m bytes, (envelope.reflect m).plain = true →
    (envelope.reflect m).allScalars validText = true →
    (envelope.reflect m).depth < maxRecursionDepth →
    (envelope.reflect m).byteSize ≤ maxPayloadBytes →
    runtime.serializeToArray m (runtime.byteSizeLong m) = some bytes →
    runtime.parse bytes = some m
  /-- What is accepted has the meaning the encoding documents. -/
  meaning : ∀ bytes m, runtime.parse bytes = some m →
    Proto3.parse schema envelope.type bytes = some (envelope.reflect m)

end PipeForge.Protocol.Pb
