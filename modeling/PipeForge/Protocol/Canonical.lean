import PipeForge.Protocol.Reference

/-!
# Encoding accepts what decoding accepts

Writing back what was read from a wire record gives the record without its
unknown fields (`readOperation_spec`, `readOutcome_spec`). Stripping keeps
the node, entry and string checks, and the known fields of a parsed message fit
in the bytes it came from, so the aggregate limits hold again and the canonical
form is never longer than the payload.
-/

namespace PipeForge.Protocol
open Contracts Library Proto3

/-! ## Writing back what was read -/

/-- What is read of a value is written back as the message without its unknown fields. -/
theorem readValue_spec {m : Pb.Value} {data : Value} (read : readValue m = some data) :
    finite data = true ∧ (writeValue data).reflect = m.reflect.strip := by
  rcases m with ⟨stored, unknown⟩
  unfold readValue at read
  split at read
  · rename_i bytes same
    subst same
    cases read
    exact ⟨rfl, rfl⟩
  · rename_i n same
    subst same
    cases read
    exact ⟨rfl, rfl⟩
  · rename_i bits same
    subst same
    split at read
    · rename_i real
      cases read
      exact ⟨real, rfl⟩
    · cases read
  · cases read

/-- Reading needs the embedded value to be present. -/
theorem optionalValue_spec {value : Option Pb.Value} {data : Value}
    (read : readValue (orDefault value) = some data) :
    finite data = true ∧
      (value.map Pb.Value.reflect).map Message.strip = some (writeValue data).reflect := by
  cases value with
  | none => cases read
  | some m =>
    obtain ⟨real, stripped⟩ := readValue_spec read
    rw [Option.map_some, Option.map_some]
    exact ⟨real, congrArg some stripped.symm⟩

theorem readEntries_spec {entries : List Pb.NamedValue} {output : List NamedValue}
    (read : readEntries entries = some output) :
    (output.all fun entry => finite entry.data) = true ∧
      (writeNamed output).map Pb.NamedValue.reflect =
        (entries.map Pb.NamedValue.reflect).map Message.strip := by
  induction entries generalizing output with
  | nil =>
    cases read
    exact ⟨rfl, rfl⟩
  | cons entry rest ih =>
    unfold readEntries at read
    split at read
    · cases read
    · rename_i data found
      simp only [Option.map_eq_some_iff] at read
      obtain ⟨later, tail, rfl⟩ := read
      obtain ⟨real, stripped⟩ := optionalValue_spec found
      obtain ⟨others, rest⟩ := ih tail
      have first : Pb.NamedValue.reflect { name := entry.name, value := some (writeValue data) } =
          entry.reflect.strip := by
        simp only [Pb.NamedValue.reflect, Message.strip_implicit, Message.strip_submessage,
          stripped, Option.map_some]
        rfl
      simp only [writeNamed, List.map_cons] at rest ⊢
      rw [List.all_cons, real, others, first, rest]
      exact ⟨rfl, rfl⟩

/-- Arguments are read with valid and distinct names, and written back in their order. -/
theorem readNamed_spec {entries : List Pb.NamedValue} {output : List NamedValue}
    (read : readNamed entries = some output) :
    readableNamed output = true ∧
      (writeNamed output).map Pb.NamedValue.reflect =
        (entries.map Pb.NamedValue.reflect).map Message.strip := by
  unfold readNamed at read
  split at read
  · cases read
  · rename_i found
    split at read
    · rename_i names
      cases read
      obtain ⟨real, stripped⟩ := readEntries_spec found
      exact ⟨by rw [readableNamed, real, names]; rfl, stripped⟩
    · cases read

theorem readRecord_spec {m : Pb.ValueRecord} {record : ValueRecord}
    (read : readRecord m = some record) :
    readableRecord record = true ∧ (writeRecord record).reflect = m.reflect.strip := by
  unfold readRecord at read
  split at read
  · cases read
  · rename_i data found
    split at read
    · rename_i nonzero
      cases read
      obtain ⟨real, stripped⟩ := optionalValue_spec found
      refine ⟨by simp [readableRecord, real, nonzero], ?_⟩
      simp only [writeRecord, Pb.ValueRecord.reflect, Message.strip_implicit,
        Message.strip_submessage, stripped, Option.map_some]
      rfl
    · cases read

/-- Kinds have one number each. -/
theorem readKind_spec {raw : Int32} {kind : ValueKind} (read : readKind raw = some kind) :
    validKind kind = true ∧ writeKind kind = raw := by
  unfold readKind at read
  dsimp only at read
  split at read
  · cases read
  · rename_i exact
    simp only [Bool.or_eq_true, Bool.not_eq_true', decide_eq_true_eq, not_or, not_not,
      Bool.not_eq_false] at exact
    cases read
    exact exact

theorem readParameterList_spec {entries : List Pb.Parameter} {output : List Parameter}
    (read : readParameterList entries = some output) :
    (output.all fun parameter => validKind parameter.kind) = true ∧
      (writeParameters output).map Pb.Parameter.reflect =
        (entries.map Pb.Parameter.reflect).map Message.strip := by
  induction entries generalizing output with
  | nil =>
    cases read
    exact ⟨rfl, rfl⟩
  | cons entry rest ih =>
    unfold readParameterList at read
    split at read
    · cases read
    · rename_i kind found
      simp only [Option.map_eq_some_iff] at read
      obtain ⟨later, tail, rfl⟩ := read
      obtain ⟨valid, written⟩ := readKind_spec found
      obtain ⟨others, rest⟩ := ih tail
      simp only [writeParameters, List.map_cons, written] at rest ⊢
      rw [List.all_cons, valid, others, rest]
      exact ⟨rfl, by simp [Pb.Parameter.reflect, Message.strip]⟩

/-- Parameters are read with valid and distinct names, and written back in their order. -/
theorem readParameters_spec {entries : List Pb.Parameter} {output : List Parameter}
    (read : readParameters entries = some output) :
    readableParameters output = true ∧
      (writeParameters output).map Pb.Parameter.reflect =
        (entries.map Pb.Parameter.reflect).map Message.strip := by
  unfold readParameters at read
  split at read
  · cases read
  · rename_i found
    split at read
    · rename_i names
      cases read
      obtain ⟨kinds, stripped⟩ := readParameterList_spec found
      exact ⟨by rw [readableParameters, kinds, names]; rfl, stripped⟩
    · cases read

theorem readAttributes_spec {entries : List Pb.Attribute} {output : List Attribute}
    (read : readAttributes entries = some output) :
    (output.all fun field => validKind field.kind) = true ∧
      (output.map fun field => Pb.Attribute.reflect
          { name := field.name, kind := writeKind field.kind, readOnly := field.readOnly }) =
        (entries.map Pb.Attribute.reflect).map Message.strip := by
  induction entries generalizing output with
  | nil =>
    cases read
    exact ⟨rfl, rfl⟩
  | cons entry rest ih =>
    unfold readAttributes at read
    split at read
    · cases read
    · rename_i kind found
      simp only [Option.map_eq_some_iff] at read
      obtain ⟨later, tail, rfl⟩ := read
      obtain ⟨valid, written⟩ := readKind_spec found
      obtain ⟨others, rest⟩ := ih tail
      rw [List.all_cons, valid, others]
      simp only [List.map_cons, written, rest]
      exact ⟨rfl, by simp [Pb.Attribute.reflect, Message.strip]⟩

theorem readMethods_spec {entries : List Pb.Method} {output : List Method}
    (read : readMethods entries = some output) :
    output.all readableMethod = true ∧
      (output.map fun function => Pb.Method.reflect
          { name := function.name
            resultKind := writeKind function.resultKind
            parameters := writeParameters function.parameters }) =
        (entries.map Pb.Method.reflect).map Message.strip := by
  induction entries generalizing output with
  | nil =>
    cases read
    exact ⟨rfl, rfl⟩
  | cons entry rest ih =>
    unfold readMethods at read
    split at read
    · cases read
    · rename_i kind found
      split at read
      · cases read
      · rename_i parameters listed
        simp only [Option.map_eq_some_iff] at read
        obtain ⟨later, tail, rfl⟩ := read
        obtain ⟨valid, written⟩ := readKind_spec found
        obtain ⟨readable, stripped⟩ := readParameters_spec listed
        obtain ⟨others, rest⟩ := ih tail
        rw [List.all_cons, readableMethod, valid, readable, others]
        simp only [List.map_cons, written, rest]
        exact ⟨rfl, by simp [Pb.Method.reflect, Message.strip, stripped]⟩

theorem readDescription_spec {m : Pb.ClassDescription} {description : ClassDescription}
    (read : readDescription m = some description) :
    readableDescription description = true ∧
      (writeDescription description).reflect = m.reflect.strip := by
  unfold readDescription at read
  split at read
  · cases read
  · rename_i named
    split at read
    · cases read
    · rename_i parameters constructors
      split at read
      · cases read
      · rename_i attributes fields
        split at read
        · cases read
        · rename_i methods functions
          split at read
          · cases read
          · rename_i unique
            cases read
            obtain ⟨readable, strippedParameters⟩ := readParameters_spec constructors
            obtain ⟨kinds, strippedFields⟩ := readAttributes_spec fields
            obtain ⟨all, strippedMethods⟩ := readMethods_spec functions
            constructor
            · simp only [Bool.or_eq_true, Bool.not_eq_true', not_or, Bool.not_eq_false]
                at named unique
              simp only [readableDescription, named, readable, kinds, all, unique.1, unique.2,
                Bool.and_self]
            · simp only [writeDescription, Pb.ClassDescription.reflect, Message.strip_implicit,
                Message.strip_repeatedMessage, strippedParameters, ← strippedFields,
                ← strippedMethods]
              simp [Message.strip, Function.comp_def]

/-- Identifiers of a page increase, and the last one is handed on to the check of the cursor. -/
theorem readRecords_spec {entries : List Pb.ValueRecord} {output : List ValueRecord}
    {previous last : UInt64} (read : readRecords previous entries = some (output, last)) :
    (readableRecords previous output = true ∧ last = lastId previous output) ∧
      (output.map writeRecord).map Pb.ValueRecord.reflect =
        (entries.map Pb.ValueRecord.reflect).map Message.strip := by
  induction entries generalizing previous output last with
  | nil =>
    cases read
    exact ⟨⟨rfl, rfl⟩, rfl⟩
  | cons entry rest ih =>
    unfold readRecords at read
    split at read
    · cases read
    · rename_i data found
      split at read
      · cases read
      · rename_i above
        simp only [Option.map_eq_some_iff] at read
        obtain ⟨⟨later, final⟩, tail, same⟩ := read
        cases same
        obtain ⟨readable, stripped⟩ := readRecord_spec found
        obtain ⟨⟨others, last⟩, rest⟩ := ih tail
        rw [readableRecords, readable, others, decide_eq_true (UInt64.not_le.mp above)]
        refine ⟨⟨rfl, last⟩, ?_⟩
        simp only [List.map_cons, stripped, rest]

/-- A page of names is read only if it is sorted and without repetition. -/
theorem readClasses_spec {m : Pb.ClassesPage} {page : ClassesPage}
    (read : readClasses m = some page) :
    readableClasses page = true ∧
      Pb.ClassesPage.reflect { names := page.names, next := page.next } = m.reflect.strip := by
  unfold readClasses at read
  split at read
  · cases read
  · rename_i checks
    cases read
    constructor
    · simp only [Bool.or_eq_true, Bool.not_eq_true', Bool.and_eq_true, not_or, not_and,
        Bool.not_eq_false, Bool.not_eq_true, decide_eq_false_iff_not, not_not] at checks
      obtain ⟨⟨⟨named, sorted⟩, distinct⟩, cursor⟩ := checks
      simp only [readableClasses, named, sorted, distinct, Bool.not_false, Bool.and_self,
        Bool.true_and, Bool.or_eq_true, decide_eq_true_eq]
      cases final : m.next.isEmpty with
      | true => exact Or.inl rfl
      | false => exact Or.inr (cursor final).2
    · simp only [Pb.ClassesPage.reflect, Message.strip_repeatedScalar, Message.strip_implicit]
      rfl

/-- The next cursor of a page is the last identifier on it, or zero. -/
theorem readValues_spec {m : Pb.ValuesPage} {page : ValuesPage}
    (read : readValues m = some page) :
    readableValues page = true ∧
      Pb.ValuesPage.reflect { values := page.values.map writeRecord, next := page.next } =
        m.reflect.strip := by
  unfold readValues at read
  split at read
  · cases read
  · rename_i values previous records
    split at read
    · cases read
    · rename_i cursor
      cases read
      obtain ⟨⟨readable, last⟩, stripped⟩ := readRecords_spec records
      constructor
      · subst last
        simp only [readableValues, readable, Bool.true_and, Bool.or_eq_true, Bool.and_eq_true,
          decide_eq_true_eq, Bool.not_eq_true']
        by_cases final : m.next = 0
        · exact Or.inl final
        · simp only [ne_eq, final, not_false_eq_true, true_and, not_or, not_not,
            Bool.not_eq_true] at cursor
          exact Or.inr cursor
      · simp only [Pb.ValuesPage.reflect, Message.strip_repeatedMessage, Message.strip_implicit,
          stripped]
        rfl

/-- Declared codes survive the narrowing to a byte. -/
theorem errorCode_cast {code : Int32} (range : 1 ≤ code ∧ code ≤ 10) :
    Int32.ofNat code.toUInt32.toUInt8.toNat = code ∧
      1 ≤ code.toUInt32.toUInt8 ∧ code.toUInt32.toUInt8 ≤ 10 := by
  have bounds : 1 ≤ code.toInt ∧ code.toInt ≤ 10 :=
    ⟨Int32.le_iff_toInt_le.mp range.1, Int32.le_iff_toInt_le.mp range.2⟩
  have table : ∀ n : Fin 10,
      Int32.ofNat (Int32.ofInt (n.val + 1)).toUInt32.toUInt8.toNat = Int32.ofInt (n.val + 1) ∧
        1 ≤ (Int32.ofInt (n.val + 1)).toUInt32.toUInt8 ∧
        (Int32.ofInt (n.val + 1)).toUInt32.toUInt8 ≤ 10 := by
    decide
  have entry := table ⟨code.toInt.toNat - 1, by omega⟩
  have value : ((code.toInt.toNat - 1 : Nat) : Int) + 1 = code.toInt := by omega
  simp only [value, Int32.ofInt_toInt] at entry
  exact entry

theorem readError_spec {m : Pb.RemoteError} {error : RemoteError}
    (read : readError m = some error) :
    error.code.declared = true ∧
      Pb.RemoteError.reflect
          { code := Int32.ofNat error.code.raw.toNat, message := error.message } =
        m.reflect.strip := by
  unfold readError at read
  split at read
  · rename_i range
    cases read
    obtain ⟨same, bounds⟩ := errorCode_cast range
    refine ⟨decide_eq_true bounds, ?_⟩
    simp only [Pb.RemoteError.reflect, same, Message.strip_implicit, Message.strip]
  · cases read

/-- Every operation that is read can be written, and the result is the message without unknown
fields. -/
theorem readOperation_spec {m : Pb.Request} {body : Operation} {found : UInt32}
    (present : m.version = some found) (read : readOperation m = some body) :
    readableOperation body = true ∧
      (requestMessage ⟨m.requestId, body, found⟩).reflect = m.reflect.strip := by
  rcases m with ⟨stored, id, operation, unknown⟩
  subst present
  suffices same : readableOperation body = true ∧ (writeOperation body).reflect (.done .nil) =
      (operation.reflect (.done unknown)).strip by
    simp [requestMessage, Pb.Request.reflect, same]
  cases operation with
  | notSet => cases read
  | putValue m =>
    simp only [readOperation, Option.map_eq_some_iff] at read
    obtain ⟨data, value, rfl⟩ := read
    obtain ⟨real, stripped⟩ := optionalValue_spec value
    refine ⟨real, ?_⟩
    simp only [writeOperation, Pb.OperationCase.reflect, Pb.PutValue.reflect, Message.strip,
      Message.strip_submessage, stripped, Option.map_some]
  | createObject m =>
    unfold readOperation at read
    dsimp only at read
    split at read
    · rename_i valid
      simp only [Option.map_eq_some_iff] at read
      obtain ⟨arguments, named, rfl⟩ := read
      obtain ⟨readable, stripped⟩ := readNamed_spec named
      refine ⟨by simp only [readableOperation, valid, readable, Bool.and_self], ?_⟩
      simp only [writeOperation, Pb.OperationCase.reflect, Pb.CreateObject.reflect, Message.strip,
        Message.strip_implicit, Message.strip_repeatedMessage, stripped]
    · cases read
  | invokeMethod m =>
    unfold readOperation at read
    dsimp only at read
    split at read
    · rename_i valid
      simp only [Option.map_eq_some_iff] at read
      obtain ⟨arguments, named, rfl⟩ := read
      obtain ⟨readable, stripped⟩ := readNamed_spec named
      refine ⟨by simp [readableOperation, valid, readable], ?_⟩
      simp only [writeOperation, Pb.OperationCase.reflect, Pb.InvokeMethod.reflect, Message.strip,
        Message.strip_implicit, Message.strip_repeatedMessage, stripped]
    · cases read
  | _ =>
    -- The remaining operations hold scalars only.
    unfold readOperation at read
    dsimp only at read
    split at read
    · rename_i valid
      cases read
      refine ⟨by simpa [readableOperation] using valid, ?_⟩
      simp only [writeOperation, Pb.OperationCase.reflect, Pb.ListClasses.reflect,
        Pb.DescribeClass.reflect, Pb.GetValue.reflect, Pb.ListValues.reflect, Pb.GetObject.reflect,
        Pb.ReleaseObject.reflect, Pb.GetAttribute.reflect, Message.strip, Message.strip_implicit]
    · cases read

theorem readOutcome_spec {m : Pb.Response} {body : Outcome} {found : UInt32}
    (present : m.version = some found) (read : readOutcome m = some body) :
    readableOutcome body = true ∧
      (responseMessage ⟨m.requestId, body, found⟩).reflect = m.reflect.strip := by
  rcases m with ⟨stored, id, outcome, unknown⟩
  subst present
  suffices same : readableOutcome body = true ∧ (writeOutcome body).reflect (.done .nil) =
      (outcome.reflect (.done unknown)).strip by
    simp [responseMessage, Pb.Response.reflect, same]
  cases outcome with
  | notSet => cases read
  | classes m =>
    simp only [readOutcome, Option.map_eq_some_iff] at read
    obtain ⟨page, listed, rfl⟩ := read
    obtain ⟨readable, stripped⟩ := readClasses_spec listed
    refine ⟨readable, ?_⟩
    simp only [writeOutcome, Pb.OutcomeCase.reflect, Message.strip, stripped]
  | description m =>
    simp only [readOutcome, Option.map_eq_some_iff] at read
    obtain ⟨description, described, rfl⟩ := read
    obtain ⟨readable, stripped⟩ := readDescription_spec described
    refine ⟨readable, ?_⟩
    simp only [writeOutcome, Pb.OutcomeCase.reflect, Message.strip, stripped]
  | valueRecord m =>
    simp only [readOutcome, Option.map_eq_some_iff] at read
    obtain ⟨record, recorded, rfl⟩ := read
    obtain ⟨readable, stripped⟩ := readRecord_spec recorded
    refine ⟨readable, ?_⟩
    simp only [writeOutcome, Pb.OutcomeCase.reflect, Message.strip, stripped]
  | values m =>
    simp only [readOutcome, Option.map_eq_some_iff] at read
    obtain ⟨page, listed, rfl⟩ := read
    obtain ⟨readable, stripped⟩ := readValues_spec listed
    refine ⟨readable, ?_⟩
    simp only [writeOutcome, Pb.OutcomeCase.reflect, Message.strip, stripped]
  | object m =>
    unfold readOutcome at read
    dsimp only at read
    split at read
    · rename_i valid
      simp only [Option.map_eq_some_iff] at read
      obtain ⟨state, named, rfl⟩ := read
      obtain ⟨readable, stripped⟩ := readNamed_spec named
      refine ⟨by simp [readableOutcome, readableObject, valid, readable], ?_⟩
      simp only [writeOutcome, Pb.OutcomeCase.reflect, Pb.ObjectSnapshot.reflect, Message.strip,
        Message.strip_implicit, Message.strip_repeatedMessage, stripped]
    · cases read
  | released m =>
    cases read
    exact ⟨rfl, rfl⟩
  | value m =>
    simp only [readOutcome, Option.map_eq_some_iff] at read
    obtain ⟨data, value, rfl⟩ := read
    obtain ⟨readable, stripped⟩ := readValue_spec value
    refine ⟨readable, ?_⟩
    simp only [writeOutcome, Pb.OutcomeCase.reflect, Message.strip, stripped]
  | error m =>
    simp only [readOutcome, Option.map_eq_some_iff] at read
    obtain ⟨error, failed, rfl⟩ := read
    obtain ⟨readable, stripped⟩ := readError_spec failed
    refine ⟨readable, ?_⟩
    simp only [writeOutcome, Pb.OutcomeCase.reflect, Message.strip, stripped]

/-! ## Stripping keeps the checks -/

/-- Dropping unknown fields leaves the runs of known ones. -/
theorem runLength_strip (number : Nat) (m : Message) :
    runLength number m.strip = runLength number m := by
  induction m with
  | done unknown => rfl
  | scalar other value rest ih => simp only [Message.strip, runLength, ih]
  | nested other child rest _ ih => simp only [Message.strip, runLength, ih]

theorem unknown_strip (m : Message) : m.strip.unknown = .nil := by
  induction m with
  | done unknown => rfl
  | scalar number value rest ih => exact ih
  | nested number child rest _ ih => exact ih

theorem boundedUnknowns_nil (budget : Nat) : boundedUnknowns .nil budget 0 = some budget := by
  simp [boundedUnknowns, UnknownSet.fieldCount, boundedFields]

/-- Without unknown fields the node budget runs as before and the other is untouched. -/
theorem validateFields_strip {m : Message} {nodes unknowns nodesLeft unknownsLeft : Nat}
    (accepted : validateFields m nodes unknowns = .ok (nodesLeft, unknownsLeft)) (budget : Nat) :
    validateFields m.strip nodes budget = .ok (nodesLeft, budget) := by
  induction m generalizing nodes unknowns nodesLeft unknownsLeft with
  | done unknown =>
    cases accepted
    rfl
  | scalar number value rest ih =>
    unfold validateFields at accepted
    split at accepted
    · cases accepted
    · rename_i few
      split at accepted
      · cases accepted
      · rename_i valid
        rw [Message.strip, validateFields, runLength_strip, if_neg few, valid]
        exact ih accepted
  | nested number child rest childIh ih =>
    unfold validateFields at accepted
    split at accepted
    · cases accepted
    · rename_i few
      split at accepted
      · cases accepted
      · rename_i available
        split at accepted
        · cases accepted
        · split at accepted
          · cases accepted
          · rename_i inner
            simp only [Message.strip, validateFields, runLength_strip, if_neg few,
              if_neg available, unknown_strip, boundedUnknowns_nil, childIh inner]
            exact ih accepted

/-- What passes the limits passes them without its unknown fields. -/
theorem validateMessage_strip {m : Message} {nodes unknowns : Nat} {left : Nat × Nat}
    (accepted : validateMessage m nodes unknowns = .ok left) :
    ∃ remaining, validateMessage m.strip nodes unknowns = .ok remaining := by
  unfold validateMessage at accepted
  split at accepted
  · cases accepted
  · rename_i available
    split at accepted
    · cases accepted
    · exact ⟨_, by
        simp only [validateMessage, if_neg available, unknown_strip, boundedUnknowns_nil]
        exact validateFields_strip accepted unknowns⟩

/-- An envelope that differs from an accepted one by unknown fields is accepted. -/
theorem validateEnvelope_strip {ε : Type} {envelope : Pb.Envelope ε} {message : ε} (written : ε)
    (accepted : validateEnvelope envelope message = none)
    (id : envelope.requestId written = envelope.requestId message)
    (versions : envelope.version written = envelope.version message)
    (stripped : envelope.reflect written = (envelope.reflect message).strip) :
    validateEnvelope envelope written = none := by
  obtain ⟨nonzero, supported, left, valid⟩ := validateEnvelope_none_iff.mp accepted
  obtain ⟨remaining, again⟩ := validateMessage_strip valid
  apply validateEnvelope_none_iff.mpr
  exact ⟨by rwa [id], by rwa [versions], remaining, by rwa [stripped]⟩

/-! ## The canonical form is no longer -/

/-- The enumerators written come from bytes. -/
@[simp] theorem nonnegative_byte (n : UInt8) : 0 ≤ (n.toNat : Int).bmod Int32.size := by
  have small := n.toNat_lt
  rw [Int32.size, Int.bmod_eq_of_le (by omega) (by omega)]
  omega

@[simp] theorem nonnegative_writeValue (data : Value) :
    (writeValue data).reflect.allScalars Scalar.nonnegative = true := by
  cases data <;> rfl

@[simp] theorem nonnegative_writeNamed (entries : List NamedValue) :
    (∀ entry ∈ writeNamed entries, entry.reflect.allScalars Scalar.nonnegative = true) = True := by
  simp [writeNamed, Pb.NamedValue.reflect, Message.allScalars, Scalar.nonnegative]

@[simp] theorem nonnegative_writeRecord (record : ValueRecord) :
    (writeRecord record).reflect.allScalars Scalar.nonnegative = true := by
  simp [writeRecord, Pb.ValueRecord.reflect, Message.allScalars, Scalar.nonnegative]

@[simp] theorem nonnegative_writeParameters (parameters : List Parameter) :
    (∀ parameter ∈ writeParameters parameters,
      parameter.reflect.allScalars Scalar.nonnegative = true) = True := by
  simp [writeParameters, writeKind, Pb.Parameter.reflect, Message.allScalars, Scalar.nonnegative]

@[simp] theorem nonnegative_writeDescription (description : ClassDescription) :
    (writeDescription description).reflect.allScalars Scalar.nonnegative = true := by
  simp [writeDescription, writeKind, Pb.ClassDescription.reflect, Pb.Attribute.reflect,
    Pb.Method.reflect, Message.allScalars, Scalar.nonnegative, Function.comp_def]

/-- The codec writes no negative number into a request. -/
theorem nonnegative_request (r : Request) :
    (requestMessage r).reflect.allScalars Scalar.nonnegative = true := by
  rcases r with ⟨id, operation, version⟩
  cases operation <;> simp [requestMessage, writeOperation, Pb.Request.reflect,
    Pb.OperationCase.reflect, Pb.ListClasses.reflect, Pb.DescribeClass.reflect, Pb.PutValue.reflect,
    Pb.GetValue.reflect, Pb.ListValues.reflect, Pb.CreateObject.reflect, Pb.GetObject.reflect,
    Pb.ReleaseObject.reflect, Pb.GetAttribute.reflect, Pb.InvokeMethod.reflect,
    Message.allScalars, Scalar.nonnegative]

theorem nonnegative_response (r : Response) :
    (responseMessage r).reflect.allScalars Scalar.nonnegative = true := by
  rcases r with ⟨id, outcome, version⟩
  cases outcome <;> simp [responseMessage, writeOutcome, Pb.Response.reflect,
    Pb.OutcomeCase.reflect, Pb.ClassesPage.reflect, Pb.ValuesPage.reflect,
    Pb.ObjectSnapshot.reflect, Pb.Released.reflect, Pb.RemoteError.reflect,
    Message.allScalars, Scalar.nonnegative]

/-- A written form of a parsed message fits where the message came from. -/
theorem byteSize_le_payload {ε : Type} {envelope : Pb.Envelope ε} {runtime : Pb.Runtime ε}
    (conforms : runtime.Conforms envelope) {payload : Bytes} {message : ε} (written : ε)
    (parsed : runtime.parse payload = some message)
    (plain : (envelope.reflect written).plain = true)
    (nonnegative : (envelope.reflect written).allScalars Scalar.nonnegative = true)
    (stripped : envelope.reflect written = (envelope.reflect message).strip) :
    (envelope.reflect written).byteSize ≤ payload.length := by
  calc (envelope.reflect written).byteSize
      = (envelope.reflect written).footprint := Message.byteSize_eq_footprint plain nonnegative
    _ = (envelope.reflect message).footprint := by rw [stripped, Message.footprint_strip]
    _ ≤ payload.length := parse_footprint Pb.schema_proper (conforms.meaning payload message parsed)

section
variable {protobuf : Protobuf}

/-- A decoded request can be encoded again, and the result is no longer. -/
theorem encodeRequest_decoded (conforms : protobuf.Conforms) {payload : Bytes} {r : Request}
    (decoded : decodeRequest protobuf payload = .ok r) :
    ∃ bytes, encodeRequest protobuf r = .ok bytes ∧ bytes.length ≤ payload.length := by
  rcases r with ⟨id, body, found⟩
  obtain ⟨message, parsed, read, rfl, supported⟩ := decodeRequest_ok decoded
  obtain ⟨bounded, restored, accepted⟩ := parse_ok parsed
  obtain ⟨readable, stripped⟩ := readOperation_spec supported read
  let written := requestMessage ⟨message.requestId, body, found⟩
  have again := validateEnvelope_strip written accepted rfl supported.symm stripped
  have fits := byteSize_le_payload conforms.requests written restored (plain_request _)
    (nonnegative_request _) stripped
  obtain ⟨bytes, encoded⟩ := encodeRequest_succeeds conforms again readable
    (Nat.le_trans fits bounded)
  refine ⟨bytes, encoded, ?_⟩
  rw [(parse_encodeRequest conforms encoded).2.1]
  exact fits

theorem encodeResponse_decoded (conforms : protobuf.Conforms) {payload : Bytes} {r : Response}
    (decoded : decodeResponse protobuf payload = .ok r) :
    ∃ bytes, encodeResponse protobuf r = .ok bytes ∧ bytes.length ≤ payload.length := by
  rcases r with ⟨id, body, found⟩
  obtain ⟨message, parsed, read, rfl, supported⟩ := decodeResponse_ok decoded
  obtain ⟨bounded, restored, accepted⟩ := parse_ok parsed
  obtain ⟨readable, stripped⟩ := readOutcome_spec supported read
  let written := responseMessage ⟨message.requestId, body, found⟩
  have again := validateEnvelope_strip written accepted rfl supported.symm stripped
  have fits := byteSize_le_payload conforms.responses written restored (plain_response _)
    (nonnegative_response _) stripped
  obtain ⟨bytes, encoded⟩ := encodeResponse_succeeds conforms again readable
    (Nat.le_trans fits bounded)
  refine ⟨bytes, encoded, ?_⟩
  rw [(parse_encodeResponse conforms encoded).2.1]
  exact fits

end

/-! ## Both directions agree -/

/-- Decoding returns exactly what was encoded, reals bit by bit. -/
theorem decode_undoes_encode (protobuf : Protobuf) (conforms : protobuf.Conforms) :
    (∀ r bytes, encodeRequest protobuf r = .ok bytes → decodeRequest protobuf bytes = .ok r) ∧
    (∀ r bytes, encodeResponse protobuf r = .ok bytes →
      decodeResponse protobuf bytes = .ok r) :=
  ⟨fun _ _ encoded => decodeRequest_encode conforms encoded,
    fun _ _ encoded => decodeResponse_encode conforms encoded⟩

/-- A negative zero survives, and so does a class description. -/
theorem decode_undoes_encode_reference :
    decodeRequest referenceProtobuf
        [8, 1, 16, 7, 98, 11, 10, 9, 25, 0, 0, 0, 0, 0, 0, 0, 128] =
      .ok ⟨7, .putValue (.real 0x8000000000000000), 1⟩ ∧
    decodeResponse referenceProtobuf
        [8, 1, 16, 7, 90, 26, 10, 1, 67, 18, 7, 10, 1, 118, 16, 2, 24, 1, 26, 12, 10, 1, 105, 18, 5,
          10, 1, 100, 16, 2, 24, 2] =
      .ok ⟨7, .description ⟨ascii "C", [⟨ascii "v", .integer, true⟩],
        [⟨ascii "i", [⟨ascii "d", .integer⟩], .integer⟩], []⟩, 1⟩ :=
  ⟨(decode_undoes_encode referenceProtobuf referenceProtobuf_conforms).1 _ _ (by decide +kernel),
    (decode_undoes_encode referenceProtobuf referenceProtobuf_conforms).2 _ _ (by decide +kernel)⟩

section
variable (protobuf : Protobuf)

def reencodeRequest (payload : Bytes) : Result Bytes :=
  match decodeRequest protobuf payload with
  | .error error => .error error
  | .ok r => encodeRequest protobuf r

def reencodeResponse (payload : Bytes) : Result Bytes :=
  match decodeResponse protobuf payload with
  | .error error => .error error
  | .ok r => encodeResponse protobuf r

end

/-- What was decoded encodes again, in no more bytes, without unknown fields, and
from then on unchanged. -/
theorem encode_accepts_decoded (protobuf : Protobuf) (conforms : protobuf.Conforms) :
    (∀ payload r, decodeRequest protobuf payload = .ok r →
      ∃ bytes, encodeRequest protobuf r = .ok bytes ∧ bytes.length ≤ payload.length ∧
        decodeRequest protobuf bytes = .ok r ∧ reencodeRequest protobuf bytes = .ok bytes ∧
        ∃ message, protobuf.requests.parse bytes = some message ∧
          message.reflect.plain = true) ∧
    (∀ payload r, decodeResponse protobuf payload = .ok r →
      ∃ bytes, encodeResponse protobuf r = .ok bytes ∧ bytes.length ≤ payload.length ∧
        decodeResponse protobuf bytes = .ok r ∧ reencodeResponse protobuf bytes = .ok bytes ∧
        ∃ message, protobuf.responses.parse bytes = some message ∧
          message.reflect.plain = true) := by
  constructor
  · intro payload r decoded
    obtain ⟨bytes, encoded, shorter⟩ := encodeRequest_decoded conforms decoded
    have again := decodeRequest_encode conforms encoded
    have parsed := parse_ok (parse_encodeRequest conforms encoded).1
    refine ⟨bytes, encoded, shorter, again, ?_, _, parsed.2.1, plain_request r⟩
    simp only [reencodeRequest, again, encoded]
  · intro payload r decoded
    obtain ⟨bytes, encoded, shorter⟩ := encodeResponse_decoded conforms decoded
    have again := decodeResponse_encode conforms encoded
    have parsed := parse_ok (parse_encodeResponse conforms encoded).1
    refine ⟨bytes, encoded, shorter, again, ?_, _, parsed.2.1, plain_response r⟩
    simp only [reencodeResponse, again, encoded]

/-- A payload with fields out of order, a repeated identifier, a replaced
alternative and an unknown field, and one with a split description. -/
theorem encode_accepts_decoded_reference :
    (∃ bytes, encodeRequest referenceProtobuf ⟨7, .getValue 9, 1⟩ = .ok bytes ∧
      bytes.length ≤ 17) ∧
    (∃ bytes, encodeResponse referenceProtobuf ⟨7, .description ⟨ascii "C", [], [], []⟩, 1⟩ =
      .ok bytes ∧ bytes.length ≤ 11) := by
  have results := encode_accepts_decoded referenceProtobuf referenceProtobuf_conforms
  obtain ⟨bytes, encoded, shorter, -⟩ := results.1
    [16, 5, 114, 2, 16, 5, 8, 1, 160, 6, 1, 106, 2, 8, 9, 16, 7] ⟨7, .getValue 9, 1⟩
    (by decide +kernel)
  obtain ⟨others, written, bounded, -⟩ := results.2
    [8, 1, 90, 0, 90, 3, 10, 1, 67, 16, 7] ⟨7, .description ⟨ascii "C", [], [], []⟩, 1⟩
    (by decide +kernel)
  exact ⟨⟨bytes, encoded, shorter⟩, others, written, bounded⟩

end PipeForge.Protocol
