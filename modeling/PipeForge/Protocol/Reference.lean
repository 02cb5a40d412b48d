import PipeForge.Protocol.RoundTrip
import PipeForge.Library.Proto3RoundTrip

/-!
# A reference runtime

An executable runtime for the wire messages: canonical serialization and the
documented parse, followed by the conversion of listed fields to records. It
meets `Runtime.Conforms`, so what is proved from that interface is about more
than the empty set of runtimes.
-/

namespace PipeForge.Protocol.Pb
open Contracts Library Proto3

/-! ## Looking up listed fields -/

/-- The listed scalars with a number. -/
def scalarsAt (number : Nat) : Message → List Scalar
  | .done _ => []
  | .scalar other value rest =>
    if other = number then value :: scalarsAt number rest else scalarsAt number rest
  | .nested _ _ rest => scalarsAt number rest

/-- The listed embedded messages with a number. -/
def childrenAt (number : Nat) : Message → List Message
  | .done _ => []
  | .scalar _ _ rest => childrenAt number rest
  | .nested other child rest =>
    if other = number then child :: childrenAt number rest else childrenAt number rest

/-- What a field without presence lists. -/
def listed (value : Scalar) : List Scalar := if value.isDefault then [] else [value]

section
variable (number other : Nat) (rest : Message)

@[simp] theorem scalarsAt_done (unknown : UnknownSet) : scalarsAt number (.done unknown) = [] := rfl

@[simp] theorem childrenAt_done (unknown : UnknownSet) :
    childrenAt number (.done unknown) = [] := rfl

@[simp] theorem scalarsAt_implicit (value : Scalar) :
    scalarsAt number (.implicit other value rest) =
      if other = number then listed value ++ scalarsAt number rest else scalarsAt number rest := by
  unfold Message.implicit listed
  split <;> simp [scalarsAt]

@[simp] theorem childrenAt_implicit (value : Scalar) :
    childrenAt number (.implicit other value rest) = childrenAt number rest := by
  unfold Message.implicit
  split <;> rfl

@[simp] theorem scalarsAt_optional (value : Option Scalar) :
    scalarsAt number (.optional other value rest) =
      if other = number then value.toList ++ scalarsAt number rest else scalarsAt number rest := by
  cases value <;> simp [Message.optional, scalarsAt]

@[simp] theorem scalarsAt_submessage (child : Option Message) :
    scalarsAt number (.submessage other child rest) = scalarsAt number rest := by
  cases child <;> rfl

@[simp] theorem childrenAt_submessage (child : Option Message) :
    childrenAt number (.submessage other child rest) =
      if other = number then child.toList ++ childrenAt number rest
      else childrenAt number rest := by
  cases child <;> simp [Message.submessage, childrenAt]

@[simp] theorem scalarsAt_repeatedMessage (children : List Message) :
    scalarsAt number (.repeatedMessage other children rest) = scalarsAt number rest := by
  induction children with
  | nil => rfl
  | cons child children ih => exact ih

@[simp] theorem childrenAt_repeatedMessage (children : List Message) :
    childrenAt number (.repeatedMessage other children rest) =
      if other = number then children ++ childrenAt number rest else childrenAt number rest := by
  induction children with
  | nil => simp [Message.repeatedMessage]
  | cons child children ih =>
    change childrenAt number (.nested other child (.repeatedMessage other children rest)) = _
    rw [childrenAt, ih]
    split <;> rfl

@[simp] theorem scalarsAt_repeatedScalar (values : List Scalar) :
    scalarsAt number (.repeatedScalar other values rest) =
      if other = number then values ++ scalarsAt number rest else scalarsAt number rest := by
  induction values with
  | nil => simp [Message.repeatedScalar]
  | cons value values ih =>
    change scalarsAt number (.scalar other value (.repeatedScalar other values rest)) = _
    rw [scalarsAt, ih]
    split <;> rfl

end

def textOf : List Scalar → Bytes
  | .text bytes :: _ => bytes
  | _ => []

def textsOf (values : List Scalar) : List Bytes :=
  values.filterMap fun value =>
    match value with
    | .text bytes => some bytes
    | _ => none

def uint32Of : List Scalar → Option UInt32
  | .uint32 n :: _ => some n
  | _ => none

def uint64Of : List Scalar → UInt64
  | .uint64 n :: _ => n
  | _ => 0

def enumOf : List Scalar → Int32
  | .enum n :: _ => n
  | _ => 0

def boolOf : List Scalar → Bool
  | .bool b :: _ => b
  | _ => false

@[simp] theorem textOf_listed (bytes : Bytes) : textOf (listed (.text bytes)) = bytes := by
  cases bytes <;> rfl

@[simp] theorem textsOf_map (texts : List Bytes) : textsOf (texts.map .text) = texts := by
  induction texts with
  | nil => rfl
  | cons text texts ih =>
    change text :: textsOf (texts.map .text) = _
    rw [ih]

@[simp] theorem uint32Of_listed (n : UInt32) : (uint32Of (listed (.uint32 n))).getD 0 = n := by
  by_cases zero : n = 0 <;> simp [listed, Scalar.isDefault, zero, uint32Of]

@[simp] theorem uint32Of_optional (version : Option UInt32) :
    uint32Of (version.map Scalar.uint32).toList = version := by
  cases version <;> rfl

@[simp] theorem uint64Of_listed (n : UInt64) : uint64Of (listed (.uint64 n)) = n := by
  by_cases zero : n = 0 <;> simp [listed, Scalar.isDefault, zero, uint64Of]

@[simp] theorem enumOf_listed (n : Int32) : enumOf (listed (.enum n)) = n := by
  by_cases zero : n = 0 <;> simp [listed, Scalar.isDefault, zero, enumOf]

@[simp] theorem boolOf_listed (b : Bool) : boolOf (listed (.bool b)) = b := by
  cases b <;> rfl

/-! ## Records from listed fields -/

def Value.ofMessage (d : Message) : Value where
  data :=
    match d with
    | .scalar 1 (.text bytes) _ => .text bytes
    | .scalar 2 (.sint64 n) _ => .integer n
    | .scalar 3 (.double bits) _ => .real bits
    | _ => .notSet
  unknown := d.unknown

/-- Reading back what reflection shows of a value gives the value. -/
@[simp] theorem Value.ofMessage_reflect (m : Value) : ofMessage m.reflect = m := by
  rcases m with ⟨data, unknown⟩
  cases data <;> rfl

def NamedValue.ofMessage (d : Message) : NamedValue where
  name := textOf (scalarsAt 1 d)
  value := (childrenAt 2 d).head?.map Value.ofMessage
  unknown := d.unknown

@[simp] theorem NamedValue.ofMessage_reflect (m : NamedValue) : ofMessage m.reflect = m := by
  simp [ofMessage, reflect, Message.unknown, Function.comp_def]

def ValueRecord.ofMessage (d : Message) : ValueRecord where
  id := uint64Of (scalarsAt 1 d)
  value := (childrenAt 2 d).head?.map Value.ofMessage
  unknown := d.unknown

@[simp] theorem ValueRecord.ofMessage_reflect (m : ValueRecord) : ofMessage m.reflect = m := by
  simp [ofMessage, reflect, Message.unknown, Function.comp_def]

def Parameter.ofMessage (d : Message) : Parameter where
  name := textOf (scalarsAt 1 d)
  kind := enumOf (scalarsAt 2 d)
  unknown := d.unknown

@[simp] theorem Parameter.ofMessage_reflect (m : Parameter) : ofMessage m.reflect = m := by
  simp [ofMessage, reflect, Message.unknown]

def Attribute.ofMessage (d : Message) : Attribute where
  name := textOf (scalarsAt 1 d)
  kind := enumOf (scalarsAt 2 d)
  readOnly := boolOf (scalarsAt 3 d)
  unknown := d.unknown

@[simp] theorem Attribute.ofMessage_reflect (m : Attribute) : ofMessage m.reflect = m := by
  simp [ofMessage, reflect, Message.unknown]

def Method.ofMessage (d : Message) : Method where
  name := textOf (scalarsAt 1 d)
  parameters := (childrenAt 2 d).map Parameter.ofMessage
  resultKind := enumOf (scalarsAt 3 d)
  unknown := d.unknown

@[simp] theorem Method.ofMessage_reflect (m : Method) : ofMessage m.reflect = m := by
  simp [ofMessage, reflect, Message.unknown, Function.comp_def]

def ClassDescription.ofMessage (d : Message) : ClassDescription where
  name := textOf (scalarsAt 1 d)
  attributes := (childrenAt 2 d).map Attribute.ofMessage
  methods := (childrenAt 3 d).map Method.ofMessage
  constructorParameters := (childrenAt 4 d).map Parameter.ofMessage
  unknown := d.unknown

@[simp] theorem ClassDescription.ofMessage_reflect (m : ClassDescription) :
    ofMessage m.reflect = m := by
  simp [ofMessage, reflect, Message.unknown, Function.comp_def]

def ObjectSnapshot.ofMessage (d : Message) : ObjectSnapshot where
  id := uint64Of (scalarsAt 1 d)
  className := textOf (scalarsAt 2 d)
  state := (childrenAt 3 d).map NamedValue.ofMessage
  unknown := d.unknown

@[simp] theorem ObjectSnapshot.ofMessage_reflect (m : ObjectSnapshot) :
    ofMessage m.reflect = m := by
  simp [ofMessage, reflect, Message.unknown, Function.comp_def]

def ListClasses.ofMessage (d : Message) : ListClasses where
  after := textOf (scalarsAt 1 d)
  limit := (uint32Of (scalarsAt 2 d)).getD 0
  unknown := d.unknown

@[simp] theorem ListClasses.ofMessage_reflect (m : ListClasses) : ofMessage m.reflect = m := by
  simp [ofMessage, reflect, Message.unknown]

def DescribeClass.ofMessage (d : Message) : DescribeClass where
  name := textOf (scalarsAt 1 d)
  unknown := d.unknown

@[simp] theorem DescribeClass.ofMessage_reflect (m : DescribeClass) : ofMessage m.reflect = m := by
  simp [ofMessage, reflect, Message.unknown]

def PutValue.ofMessage (d : Message) : PutValue where
  value := (childrenAt 1 d).head?.map Value.ofMessage
  unknown := d.unknown

@[simp] theorem PutValue.ofMessage_reflect (m : PutValue) : ofMessage m.reflect = m := by
  simp [ofMessage, reflect, Message.unknown, Function.comp_def]

def GetValue.ofMessage (d : Message) : GetValue where
  id := uint64Of (scalarsAt 1 d)
  unknown := d.unknown

@[simp] theorem GetValue.ofMessage_reflect (m : GetValue) : ofMessage m.reflect = m := by
  simp [ofMessage, reflect, Message.unknown]

def ListValues.ofMessage (d : Message) : ListValues where
  after := uint64Of (scalarsAt 1 d)
  limit := (uint32Of (scalarsAt 2 d)).getD 0
  unknown := d.unknown

@[simp] theorem ListValues.ofMessage_reflect (m : ListValues) : ofMessage m.reflect = m := by
  simp [ofMessage, reflect, Message.unknown]

def CreateObject.ofMessage (d : Message) : CreateObject where
  className := textOf (scalarsAt 1 d)
  arguments := (childrenAt 2 d).map NamedValue.ofMessage
  unknown := d.unknown

@[simp] theorem CreateObject.ofMessage_reflect (m : CreateObject) : ofMessage m.reflect = m := by
  simp [ofMessage, reflect, Message.unknown, Function.comp_def]

def GetObject.ofMessage (d : Message) : GetObject where
  id := uint64Of (scalarsAt 1 d)
  unknown := d.unknown

@[simp] theorem GetObject.ofMessage_reflect (m : GetObject) : ofMessage m.reflect = m := by
  simp [ofMessage, reflect, Message.unknown]

def ReleaseObject.ofMessage (d : Message) : ReleaseObject where
  id := uint64Of (scalarsAt 1 d)
  unknown := d.unknown

@[simp] theorem ReleaseObject.ofMessage_reflect (m : ReleaseObject) : ofMessage m.reflect = m := by
  simp [ofMessage, reflect, Message.unknown]

def GetAttribute.ofMessage (d : Message) : GetAttribute where
  id := uint64Of (scalarsAt 1 d)
  name := textOf (scalarsAt 2 d)
  unknown := d.unknown

@[simp] theorem GetAttribute.ofMessage_reflect (m : GetAttribute) : ofMessage m.reflect = m := by
  simp [ofMessage, reflect, Message.unknown]

def InvokeMethod.ofMessage (d : Message) : InvokeMethod where
  id := uint64Of (scalarsAt 1 d)
  name := textOf (scalarsAt 2 d)
  arguments := (childrenAt 3 d).map NamedValue.ofMessage
  unknown := d.unknown

@[simp] theorem InvokeMethod.ofMessage_reflect (m : InvokeMethod) : ofMessage m.reflect = m := by
  simp [ofMessage, reflect, Message.unknown, Function.comp_def]

def ClassesPage.ofMessage (d : Message) : ClassesPage where
  names := textsOf (scalarsAt 1 d)
  next := textOf (scalarsAt 2 d)
  unknown := d.unknown

@[simp] theorem ClassesPage.ofMessage_reflect (m : ClassesPage) : ofMessage m.reflect = m := by
  simp [ofMessage, reflect, Message.unknown]

def ValuesPage.ofMessage (d : Message) : ValuesPage where
  values := (childrenAt 1 d).map ValueRecord.ofMessage
  next := uint64Of (scalarsAt 2 d)
  unknown := d.unknown

@[simp] theorem ValuesPage.ofMessage_reflect (m : ValuesPage) : ofMessage m.reflect = m := by
  simp [ofMessage, reflect, Message.unknown, Function.comp_def]

def RemoteError.ofMessage (d : Message) : RemoteError where
  code := enumOf (scalarsAt 1 d)
  message := textOf (scalarsAt 2 d)
  unknown := d.unknown

@[simp] theorem RemoteError.ofMessage_reflect (m : RemoteError) : ofMessage m.reflect = m := by
  simp [ofMessage, reflect, Message.unknown]

/-- The first embedded message of an envelope decides its case. -/
def firstChild : Message → Option (Nat × Message)
  | .done _ => none
  | .scalar _ _ rest => firstChild rest
  | .nested number child _ => some (number, child)

def OperationCase.ofChild : Option (Nat × Message) → OperationCase
  | some (10, d) => .listClasses (.ofMessage d)
  | some (11, d) => .describeClass (.ofMessage d)
  | some (12, d) => .putValue (.ofMessage d)
  | some (13, d) => .getValue (.ofMessage d)
  | some (14, d) => .listValues (.ofMessage d)
  | some (15, d) => .createObject (.ofMessage d)
  | some (16, d) => .getObject (.ofMessage d)
  | some (17, d) => .releaseObject (.ofMessage d)
  | some (18, d) => .getAttribute (.ofMessage d)
  | some (19, d) => .invokeMethod (.ofMessage d)
  | _ => .notSet

def OutcomeCase.ofChild : Option (Nat × Message) → OutcomeCase
  | some (10, d) => .classes (.ofMessage d)
  | some (11, d) => .description (.ofMessage d)
  | some (12, d) => .valueRecord (.ofMessage d)
  | some (13, d) => .values (.ofMessage d)
  | some (14, d) => .object (.ofMessage d)
  | some (15, d) => .released ⟨d.unknown⟩
  | some (16, d) => .value (.ofMessage d)
  | some (17, d) => .error (.ofMessage d)
  | _ => .notSet

def Request.ofMessage (d : Message) : Request where
  version := uint32Of (scalarsAt 1 d)
  requestId := uint64Of (scalarsAt 2 d)
  operation := .ofChild (firstChild d)
  unknown := d.unknown

def Response.ofMessage (d : Message) : Response where
  version := uint32Of (scalarsAt 1 d)
  requestId := uint64Of (scalarsAt 2 d)
  outcome := .ofChild (firstChild d)
  unknown := d.unknown

@[simp] theorem firstChild_implicit (number : Nat) (value : Scalar) (rest : Message) :
    firstChild (.implicit number value rest) = firstChild rest := by
  unfold Message.implicit
  split <;> rfl

@[simp] theorem firstChild_optional (number : Nat) (value : Option Scalar) (rest : Message) :
    firstChild (.optional number value rest) = firstChild rest := by
  cases value <;> rfl

/-- A request is determined by what reflection shows of it. -/
theorem Request.ofMessage_reflect (m : Request) : ofMessage m.reflect = m := by
  rcases m with ⟨version, id, operation, unknown⟩
  cases operation <;> simp [ofMessage, reflect, OperationCase.reflect, scalarsAt, firstChild,
    OperationCase.ofChild, Message.unknown]

theorem Response.ofMessage_reflect (m : Response) : ofMessage m.reflect = m := by
  rcases m with ⟨version, id, outcome, unknown⟩
  cases outcome <;> simp [ofMessage, reflect, OutcomeCase.reflect, scalarsAt, firstChild,
    OutcomeCase.ofChild, Message.unknown, Released.reflect]

/-! ## Records list their fields in order -/

/-- The end of a message is in order, whatever came before. -/
theorem ordered_done {type : MessageType} {seen : List Nat} {unknown : UnknownSet}
    (plain : (Message.done unknown).plain = true) : Ordered schema type seen (.done unknown) := by
  simpa [Message.plain, Ordered] using plain

/-- A value fits the schema: one field of the case it holds. -/
theorem ordered_value (m : Value) (plain : m.reflect.plain = true) :
    Ordered schema .value [] m.reflect := by
  rcases m with ⟨data, unknown⟩
  cases data with
  | notSet => exact ordered_done plain
  | text bytes =>
    exact ordered_scalar rfl rfl (by decide) (by decide) (ordered_done plain)
  | integer n =>
    exact ordered_scalar rfl rfl (by decide) (by decide) (ordered_done plain)
  | real bits =>
    exact ordered_scalar rfl rfl (by decide) (by decide) (ordered_done plain)

theorem ordered_optionalValue (value : Option Value)
    (plain : (value.map Value.reflect).all Message.plain = true) :
    ∀ child ∈ value.map Value.reflect, Ordered schema .value [] child := by
  intro child present
  obtain ⟨m, same, rfl⟩ := Option.map_eq_some_iff.mp present
  subst same
  exact ordered_value m plain

theorem ordered_namedValue (m : NamedValue) (plain : m.reflect.plain = true) :
    Ordered schema .namedValue [] m.reflect := by
  unfold NamedValue.reflect at plain ⊢
  rw [Message.plain_implicit, Message.plain_submessage, Bool.and_eq_true] at plain
  refine ordered_implicit rfl rfl (by decide) ?_
  exact ordered_submessage rfl rfl (by decide)
    (ordered_optionalValue m.value plain.1) (ordered_done plain.2)

theorem ordered_valueRecord (m : ValueRecord) (plain : m.reflect.plain = true) :
    Ordered schema .valueRecord [] m.reflect := by
  unfold ValueRecord.reflect at plain ⊢
  rw [Message.plain_implicit, Message.plain_submessage, Bool.and_eq_true] at plain
  refine ordered_implicit rfl rfl (by decide) ?_
  exact ordered_submessage rfl rfl (by decide)
    (ordered_optionalValue m.value plain.1) (ordered_done plain.2)

/-- Every element of a list of plain messages is ordered if its type is. -/
theorem ordered_list {α : Type} {type : MessageType} (reflect : α → Message)
    (each : ∀ m, (reflect m).plain = true → Ordered schema type [] (reflect m)) (list : List α)
    (plain : (list.map reflect).all Message.plain = true) :
    ∀ child ∈ list.map reflect, Ordered schema type [] child := by
  intro child member
  have childPlain := List.all_eq_true.mp plain child member
  obtain ⟨m, -, rfl⟩ := List.mem_map.mp member
  exact each m childPlain

theorem ordered_parameter (m : Parameter) (plain : m.reflect.plain = true) :
    Ordered schema .parameter [] m.reflect := by
  unfold Parameter.reflect at plain ⊢
  rw [Message.plain_implicit, Message.plain_implicit] at plain
  refine ordered_implicit rfl rfl (by decide) ?_
  exact ordered_implicit rfl rfl (by decide) (ordered_done plain)

theorem ordered_attribute (m : Attribute) (plain : m.reflect.plain = true) :
    Ordered schema .attribute [] m.reflect := by
  unfold Attribute.reflect at plain ⊢
  rw [Message.plain_implicit, Message.plain_implicit, Message.plain_implicit] at plain
  refine ordered_implicit rfl rfl (by decide) ?_
  refine ordered_implicit rfl rfl (by decide) ?_
  exact ordered_implicit rfl rfl (by decide) (ordered_done plain)

theorem ordered_method (m : Method) (plain : m.reflect.plain = true) :
    Ordered schema .method [] m.reflect := by
  unfold Method.reflect at plain ⊢
  rw [Message.plain_implicit, Message.plain_repeatedMessage, Message.plain_implicit,
    Bool.and_eq_true] at plain
  refine ordered_implicit rfl rfl (by decide) ?_
  refine ordered_repeatedMessage rfl rfl rfl
    (ordered_list Parameter.reflect ordered_parameter m.parameters plain.1)
    (by decide) ?_
  exact ordered_implicit rfl rfl (by decide) (ordered_done plain.2)

theorem ordered_description (m : ClassDescription) (plain : m.reflect.plain = true) :
    Ordered schema .classDescription [] m.reflect := by
  unfold ClassDescription.reflect at plain ⊢
  rw [Message.plain_implicit, Message.plain_repeatedMessage, Message.plain_repeatedMessage,
    Message.plain_repeatedMessage, Bool.and_eq_true, Bool.and_eq_true, Bool.and_eq_true] at plain
  obtain ⟨attributes, methods, parameters, last⟩ := plain
  refine ordered_implicit rfl rfl (by decide) ?_
  refine ordered_repeatedMessage rfl rfl rfl
    (ordered_list Attribute.reflect ordered_attribute m.attributes attributes)
    (by decide) ?_
  refine ordered_repeatedMessage rfl rfl rfl
    (ordered_list Method.reflect ordered_method m.methods methods)
    (by decide) ?_
  exact ordered_repeatedMessage rfl rfl rfl
    (ordered_list Parameter.reflect ordered_parameter m.constructorParameters parameters)
    (by decide) (ordered_done last)

/-- The two fields at the head of an envelope. -/
theorem ordered_header {type : MessageType} {version : Option UInt32} {id : UInt64}
    {rest : Message}
    (first : schema.find type 1 0 = some ⟨1, .scalar .uint32, .explicit⟩)
    (second : schema.find type 2 0 = some ⟨2, .scalar .uint64, .implicit⟩)
    (later : Ordered schema type [2, 1] rest) :
    Ordered schema type [] (.optional 1 (version.map .uint32) (.implicit 2 (.uint64 id) rest)) := by
  refine ordered_optional .uint32 ?_ first rfl (by decide) (by decide) ?_
  · intro present member
    obtain ⟨n, -, rfl⟩ := Option.map_eq_some_iff.mp member
    rfl
  · exact ordered_implicit second rfl (by decide) later

/-- The envelope fields in front of a oneof member. -/
theorem ordered_envelope {type inner : MessageType} {version : Option UInt32} {id : UInt64}
    {number : Nat} {child : Message} {unknown : UnknownSet} {siblings : List Nat}
    (first : schema.find type 1 0 = some ⟨1, .scalar .uint32, .explicit⟩)
    (second : schema.find type 2 0 = some ⟨2, .scalar .uint64, .implicit⟩)
    (found : schema.find type number 2 = some ⟨number, .message inner, .member siblings⟩)
    (bounds : 2 < number ∧ number < 2 ^ 28 ∧ 1 ∉ siblings ∧ 2 ∉ siblings)
    (ordered : Ordered schema inner [] child)
    (plain : (Message.done unknown).plain = true) :
    Ordered schema type [] (.optional 1 (version.map .uint32)
      (.implicit 2 (.uint64 id) (.nested number child (.done unknown)))) := by
  obtain ⟨above, small, one, two⟩ := bounds
  apply ordered_header first second
  refine ⟨⟨_, inner, found, rfl, ⟨?_, small, ?_⟩, ordered⟩, ordered_done plain⟩
  · simp only
    omega
  · intro seen member
    simp only [List.mem_cons, List.not_mem_nil, or_false] at member
    rcases member with rfl | rfl
    · exact ⟨by simp only; omega, two⟩
    · exact ⟨by simp only; omega, one⟩

/-- Every request fits the schema, whatever operation it holds. -/
theorem ordered_request (m : Request) (plain : m.reflect.plain = true) :
    Ordered schema .request [] m.reflect := by
  rcases m with ⟨version, id, operation, unknown⟩
  unfold Request.reflect at plain ⊢
  rw [Message.plain_optional, Message.plain_implicit] at plain
  cases operation with
  | notSet => exact ordered_header rfl rfl (ordered_done plain)
  | listClasses m =>
    simp only [OperationCase.reflect, Message.plain, Bool.and_eq_true] at plain
    refine ordered_envelope rfl rfl rfl (by decide) ?_ plain.2
    refine ordered_implicit rfl rfl (by decide) ?_
    refine ordered_implicit rfl rfl (by decide) (ordered_done ?_)
    simpa [ListClasses.reflect] using plain.1
  | describeClass m =>
    simp only [OperationCase.reflect, Message.plain, Bool.and_eq_true] at plain
    refine ordered_envelope rfl rfl rfl (by decide) ?_ plain.2
    refine ordered_implicit rfl rfl (by decide) (ordered_done ?_)
    simpa [DescribeClass.reflect] using plain.1
  | putValue m =>
    simp only [OperationCase.reflect, Message.plain, Bool.and_eq_true, PutValue.reflect,
      Message.plain_submessage] at plain
    refine ordered_envelope rfl rfl rfl (by decide) ?_ plain.2
    exact ordered_submessage rfl rfl (by decide)
      (ordered_optionalValue m.value plain.1.1) (ordered_done plain.1.2)
  | getValue m =>
    simp only [OperationCase.reflect, Message.plain, Bool.and_eq_true] at plain
    refine ordered_envelope rfl rfl rfl (by decide) ?_ plain.2
    refine ordered_implicit rfl rfl (by decide) (ordered_done ?_)
    simpa [GetValue.reflect] using plain.1
  | listValues m =>
    simp only [OperationCase.reflect, Message.plain, Bool.and_eq_true] at plain
    refine ordered_envelope rfl rfl rfl (by decide) ?_ plain.2
    refine ordered_implicit rfl rfl (by decide) ?_
    refine ordered_implicit rfl rfl (by decide) (ordered_done ?_)
    simpa [ListValues.reflect] using plain.1
  | createObject m =>
    simp only [OperationCase.reflect, Message.plain, Bool.and_eq_true, CreateObject.reflect,
      Message.plain_implicit, Message.plain_repeatedMessage] at plain
    refine ordered_envelope rfl rfl rfl (by decide) ?_ plain.2
    refine ordered_implicit rfl rfl (by decide) ?_
    exact ordered_repeatedMessage rfl rfl rfl
      (ordered_list NamedValue.reflect ordered_namedValue m.arguments plain.1.1)
      (by decide) (ordered_done plain.1.2)
  | getObject m =>
    simp only [OperationCase.reflect, Message.plain, Bool.and_eq_true] at plain
    refine ordered_envelope rfl rfl rfl (by decide) ?_ plain.2
    refine ordered_implicit rfl rfl (by decide) (ordered_done ?_)
    simpa [GetObject.reflect] using plain.1
  | releaseObject m =>
    simp only [OperationCase.reflect, Message.plain, Bool.and_eq_true] at plain
    refine ordered_envelope rfl rfl rfl (by decide) ?_ plain.2
    refine ordered_implicit rfl rfl (by decide) (ordered_done ?_)
    simpa [ReleaseObject.reflect] using plain.1
  | getAttribute m =>
    simp only [OperationCase.reflect, Message.plain, Bool.and_eq_true] at plain
    refine ordered_envelope rfl rfl rfl (by decide) ?_ plain.2
    refine ordered_implicit rfl rfl (by decide) ?_
    refine ordered_implicit rfl rfl (by decide) (ordered_done ?_)
    simpa [GetAttribute.reflect] using plain.1
  | invokeMethod m =>
    simp only [OperationCase.reflect, Message.plain, Bool.and_eq_true, InvokeMethod.reflect,
      Message.plain_implicit, Message.plain_repeatedMessage] at plain
    refine ordered_envelope rfl rfl rfl (by decide) ?_ plain.2
    refine ordered_implicit rfl rfl (by decide) ?_
    refine ordered_implicit rfl rfl (by decide) ?_
    exact ordered_repeatedMessage rfl rfl rfl
      (ordered_list NamedValue.reflect ordered_namedValue m.arguments plain.1.1)
      (by decide) (ordered_done plain.1.2)

theorem ordered_response (m : Response) (plain : m.reflect.plain = true) :
    Ordered schema .response [] m.reflect := by
  rcases m with ⟨version, id, outcome, unknown⟩
  unfold Response.reflect at plain ⊢
  rw [Message.plain_optional, Message.plain_implicit] at plain
  cases outcome with
  | notSet => exact ordered_header rfl rfl (ordered_done plain)
  | classes m =>
    simp only [OutcomeCase.reflect, Message.plain, Bool.and_eq_true, ClassesPage.reflect,
      Message.plain_implicit, Message.plain_repeatedScalar] at plain
    refine ordered_envelope rfl rfl rfl (by decide) ?_ plain.2
    refine ordered_repeatedScalar .text ?_ rfl rfl rfl (by decide) ?_
    · intro value member
      obtain ⟨bytes, -, rfl⟩ := List.mem_map.mp member
      rfl
    · exact ordered_implicit rfl rfl (by decide) (ordered_done plain.1)
  | description m =>
    simp only [OutcomeCase.reflect, Message.plain, Bool.and_eq_true] at plain
    exact ordered_envelope rfl rfl rfl (by decide) (ordered_description m plain.1) plain.2
  | valueRecord m =>
    simp only [OutcomeCase.reflect, Message.plain, Bool.and_eq_true] at plain
    exact ordered_envelope rfl rfl rfl (by decide) (ordered_valueRecord m plain.1) plain.2
  | values m =>
    simp only [OutcomeCase.reflect, Message.plain, Bool.and_eq_true, ValuesPage.reflect,
      Message.plain_implicit, Message.plain_repeatedMessage] at plain
    refine ordered_envelope rfl rfl rfl (by decide) ?_ plain.2
    refine ordered_repeatedMessage rfl rfl rfl
      (ordered_list ValueRecord.reflect ordered_valueRecord m.values plain.1.1)
      (by decide) ?_
    exact ordered_implicit rfl rfl (by decide) (ordered_done plain.1.2)
  | object m =>
    simp only [OutcomeCase.reflect, Message.plain, Bool.and_eq_true, ObjectSnapshot.reflect,
      Message.plain_implicit, Message.plain_repeatedMessage] at plain
    refine ordered_envelope rfl rfl rfl (by decide) ?_ plain.2
    refine ordered_implicit rfl rfl (by decide) ?_
    refine ordered_implicit rfl rfl (by decide) ?_
    exact ordered_repeatedMessage rfl rfl rfl
      (ordered_list NamedValue.reflect ordered_namedValue m.state plain.1.1)
      (by decide) (ordered_done plain.1.2)
  | released m =>
    simp only [OutcomeCase.reflect, Message.plain, Bool.and_eq_true] at plain
    exact ordered_envelope rfl rfl rfl (by decide) (ordered_done plain.1) plain.2
  | value m =>
    simp only [OutcomeCase.reflect, Message.plain, Bool.and_eq_true] at plain
    exact ordered_envelope rfl rfl rfl (by decide) (ordered_value m plain.1) plain.2
  | error m =>
    simp only [OutcomeCase.reflect, Message.plain, Bool.and_eq_true] at plain
    refine ordered_envelope rfl rfl rfl (by decide) ?_ plain.2
    refine ordered_implicit rfl rfl (by decide) ?_
    refine ordered_implicit rfl rfl (by decide) (ordered_done ?_)
    simpa [RemoteError.reflect] using plain.1

/-! ## The runtime -/

def referenceRuntime {ε : Type} (envelope : Envelope ε) (ofMessage : Message → ε) :
    Runtime ε where
  parse bytes :=
    match Proto3.parse schema envelope.type bytes with
    | none => none
    | some d => if envelope.reflect (ofMessage d) = d then some (ofMessage d) else none
  byteSizeLong m := (envelope.reflect m).byteSize
  serializeToArray m size :=
    if (envelope.reflect m).encode.length ≤ size then some (envelope.reflect m).encode else none

/-- A runtime that writes and parses by the wire format is one the code may rely on. -/
theorem referenceRuntime_conforms {ε : Type} (envelope : Envelope ε) (ofMessage : Message → ε)
    (inverse : ∀ m, ofMessage (envelope.reflect m) = m)
    (ordered : ∀ m, (envelope.reflect m).plain = true →
      Ordered schema envelope.type [] (envelope.reflect m)) :
    (referenceRuntime envelope ofMessage).Conforms envelope := by
  have limit : maxPayloadBytes < 2 ^ 64 := by decide
  have length : ∀ m, (envelope.reflect m).plain = true →
      (envelope.reflect m).byteSize ≤ maxPayloadBytes →
      (envelope.reflect m).encode.length = (envelope.reflect m).byteSize := fun m plain small =>
    Message.length_encode _ _ _ (ordered m plain) (Nat.lt_of_le_of_lt small limit)
  refine ⟨fun m _ => rfl, ?_, ?_, ?_⟩
  · intro m plain small
    refine ⟨(envelope.reflect m).encode, ?_, length m plain small⟩
    simp [referenceRuntime, length m plain small]
  · intro m bytes plain _ _ small written
    simp only [referenceRuntime, length m plain small, Nat.le_refl, if_true,
      Option.some.injEq] at written
    subst written
    have parsed := parse_encode schema_proper (ordered m plain) (Nat.lt_of_le_of_lt small limit)
    simp [referenceRuntime, parsed, inverse]
  · intro bytes m accepted
    simp only [referenceRuntime] at accepted
    split at accepted
    · cases accepted
    · rename_i d parsed
      split at accepted
      · rename_i same
        cases accepted
        rw [parsed, same]
      · cases accepted

end PipeForge.Protocol.Pb

namespace PipeForge.Protocol

def referenceProtobuf : Protobuf where
  requests := Pb.referenceRuntime Pb.requestEnvelope Pb.Request.ofMessage
  responses := Pb.referenceRuntime Pb.responseEnvelope Pb.Response.ofMessage

/-- The contract of the generated code is satisfiable: the reference runtime meets it for both
envelopes. -/
theorem referenceProtobuf_conforms : referenceProtobuf.Conforms where
  requests := Pb.referenceRuntime_conforms _ _ Pb.Request.ofMessage_reflect Pb.ordered_request
  responses := Pb.referenceRuntime_conforms _ _ Pb.Response.ofMessage_reflect Pb.ordered_response

end PipeForge.Protocol
