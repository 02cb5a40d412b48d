import PipeForge.Protocol.Codec

/-!
# What the readers accept

The checks of each reader, stated on the contract value it returns. Reading back
what a writer produced gives the value itself exactly when these checks pass
(`readOperation_write`, `readOutcome_write`), so the conversions have no other
effect.
-/

namespace PipeForge.Protocol
open Contracts Library Proto3

/-! ## Checks on contract values -/

def finite : Value → Bool
  | .real bits => isfinite bits
  | _ => true

def readableNamed (entries : List NamedValue) : Bool :=
  (entries.all fun entry => finite entry.data) && validNames (entries.map (·.name))

def readableRecord (record : ValueRecord) : Bool :=
  finite record.data && decide (record.id ≠ 0)

def readableOperation : Operation → Bool
  | .listClasses after limit => validName after true && validPageSize limit
  | .describeClass name => validName name false
  | .putValue data => finite data
  | .getValue id | .getObject id | .releaseObject id => decide (id ≠ 0)
  | .listValues _ limit => validPageSize limit
  | .createObject className arguments => validName className false && readableNamed arguments
  | .getAttribute id name => decide (id ≠ 0) && validName name false
  | .invokeMethod id name arguments =>
    decide (id ≠ 0) && validName name false && readableNamed arguments

def readableParameters (parameters : List Parameter) : Bool :=
  (parameters.all fun parameter => validKind parameter.kind) &&
    validNames (parameters.map (·.name))

def readableMethod (method : Method) : Bool :=
  validKind method.resultKind && readableParameters method.parameters

def readableDescription (description : ClassDescription) : Bool :=
  validName description.name false && readableParameters description.constructorParameters &&
    (description.attributes.all fun field => validKind field.kind) &&
    description.methods.all readableMethod &&
    validNames (description.attributes.map (·.name)) &&
    validNames (description.methods.map (·.name))

def readableClasses (page : ClassesPage) : Bool :=
  (page.names.all fun name => validName name false) && isSorted page.names &&
    !adjacentFind page.names && (page.next.isEmpty || decide (page.names.getLast? = some page.next))

/-- Identifiers above `previous` and strictly increasing. -/
def readableRecords (previous : UInt64) : List ValueRecord → Bool
  | [] => true
  | record :: rest =>
    readableRecord record && decide (previous < record.id) && readableRecords record.id rest

def lastId (previous : UInt64) : List ValueRecord → UInt64
  | [] => previous
  | record :: rest => lastId record.id rest

def readableValues (page : ValuesPage) : Bool :=
  readableRecords 0 page.values &&
    (decide (page.next = 0) ||
      (!page.values.isEmpty && decide (page.next = lastId 0 page.values)))

def readableObject (snapshot : ObjectSnapshot) : Bool :=
  decide (snapshot.id ≠ 0) && validName snapshot.className false && readableNamed snapshot.state

def readableOutcome : Outcome → Bool
  | .classes page => readableClasses page
  | .description description => readableDescription description
  | .valueRecord record => readableRecord record
  | .values page => readableValues page
  | .object snapshot => readableObject snapshot
  | .released => true
  | .value data => finite data
  | .error error => error.code.declared

/-! ## Reading what was written -/

/-- Values are read back unless they are not finite. -/
theorem readValue_write (data : Value) :
    readValue (writeValue data) = if finite data then some data else none := by
  cases data <;> rfl

theorem readEntries_write (entries : List NamedValue) :
    readEntries (writeNamed entries) =
      if entries.all fun entry => finite entry.data then some entries else none := by
  induction entries with
  | nil => rfl
  | cons entry rest ih =>
    simp only [writeNamed, List.map_cons] at ih ⊢
    simp only [readEntries, orDefault, Option.getD_some, readValue_write, ih, List.all_cons]
    by_cases first : finite entry.data = true <;>
      by_cases later : (rest.all fun entry => finite entry.data) = true <;> simp [first, later]

/-- Arguments are read back if their data are finite and their names valid and distinct. -/
theorem readNamed_write (entries : List NamedValue) :
    readNamed (writeNamed entries) = if readableNamed entries then some entries else none := by
  simp only [readNamed, readEntries_write, readableNamed]
  by_cases all : (entries.all fun entry => finite entry.data) = true <;> simp [all]

theorem readRecord_write (record : ValueRecord) :
    readRecord (writeRecord record) = if readableRecord record then some record else none := by
  simp only [readRecord, writeRecord, orDefault, Option.getD_some, readValue_write,
    readableRecord]
  by_cases real : finite record.data = true <;> by_cases zero : record.id = 0 <;>
    simp [real, zero]

/-- The cast from the wire enumerator undoes the cast to it. -/
theorem cast_raw (raw : UInt8) : (Int32.ofNat raw.toNat).toUInt32.toUInt8 = raw := by
  have table : ∀ n : Fin 256, (Int32.ofNat (UInt8.ofFin n).toNat).toUInt32.toUInt8 = UInt8.ofFin n := by
    decide +kernel
  exact table raw.toFin

theorem readKind_write (kind : ValueKind) :
    readKind (writeKind kind) = if validKind kind then some kind else none := by
  simp only [readKind, writeKind, cast_raw, ne_eq, not_true_eq_false, decide_false, Bool.or_false]
  by_cases valid : validKind kind = true <;> simp [valid]

theorem readParameterList_write (parameters : List Parameter) :
    readParameterList (writeParameters parameters) =
      if parameters.all fun parameter => validKind parameter.kind then some parameters
      else none := by
  induction parameters with
  | nil => rfl
  | cons parameter rest ih =>
    simp only [writeParameters, List.map_cons] at ih ⊢
    simp only [readParameterList, readKind_write, ih, List.all_cons]
    by_cases first : validKind parameter.kind = true <;>
      by_cases later : (rest.all fun parameter => validKind parameter.kind) = true <;>
      simp [first, later]

theorem readParameters_write (parameters : List Parameter) :
    readParameters (writeParameters parameters) =
      if readableParameters parameters then some parameters else none := by
  simp only [readParameters, readParameterList_write, readableParameters]
  by_cases all : (parameters.all fun parameter => validKind parameter.kind) = true <;> simp [all]

theorem readAttributes_write (attributes : List Attribute) :
    readAttributes (attributes.map fun field =>
        { name := field.name, kind := writeKind field.kind, readOnly := field.readOnly }) =
      if attributes.all fun field => validKind field.kind then some attributes else none := by
  induction attributes with
  | nil => rfl
  | cons field rest ih =>
    simp only [List.map_cons, readAttributes, readKind_write, ih, List.all_cons]
    by_cases first : validKind field.kind = true <;>
      by_cases later : (rest.all fun field => validKind field.kind) = true <;> simp [first, later]

theorem readMethods_write (methods : List Method) :
    readMethods (methods.map fun function =>
        { name := function.name
          resultKind := writeKind function.resultKind
          parameters := writeParameters function.parameters }) =
      if methods.all readableMethod then some methods else none := by
  induction methods with
  | nil => rfl
  | cons function rest ih =>
    simp only [List.map_cons, readMethods, readKind_write, readParameters_write, ih,
      List.all_cons, readableMethod]
    by_cases kind : validKind function.resultKind = true <;>
      by_cases listed : readableParameters function.parameters = true <;>
      by_cases later : rest.all readableMethod = true <;> simp [kind, listed, later]

/-- Descriptions are read back if they are readable. -/
theorem readDescription_write (description : ClassDescription) :
    readDescription (writeDescription description) =
      if readableDescription description then some description else none := by
  simp only [readDescription, writeDescription, readParameters_write, readAttributes_write,
    readMethods_write, readableDescription]
  by_cases named : validName description.name false = true <;>
    by_cases constructors : readableParameters description.constructorParameters = true <;>
    by_cases fields : (description.attributes.all fun field => validKind field.kind) = true <;>
    by_cases functions : description.methods.all readableMethod = true <;>
    by_cases unique : validNames (description.attributes.map (·.name)) = true <;>
    by_cases distinct : validNames (description.methods.map (·.name)) = true <;>
    simp [named, constructors, fields, functions, unique, distinct]

/-- Records are read back if their identifiers increase. -/
theorem readRecords_write (previous : UInt64) (records : List ValueRecord) :
    readRecords previous (records.map writeRecord) =
      if readableRecords previous records then some (records, lastId previous records)
      else none := by
  induction records generalizing previous with
  | nil => rfl
  | cons record rest ih =>
    simp only [List.map_cons, readRecords, readRecord_write, ih, readableRecords, lastId]
    by_cases first : readableRecord record = true
    · by_cases below : previous < record.id
      · have above : ¬ record.id ≤ previous := UInt64.not_le.mpr below
        by_cases later : readableRecords record.id rest = true <;>
          simp [first, below, above, later]
      · have above : record.id ≤ previous := UInt64.not_lt.mp below
        simp [first, below, above]
    · simp [first]

theorem readValues_write (page : ValuesPage) :
    readValues { values := page.values.map writeRecord, next := page.next } =
      if readableValues page then some page else none := by
  rcases page with ⟨values, next⟩
  simp only [readValues, readRecords_write, readableValues]
  by_cases records : readableRecords 0 values = true
  · by_cases last : next = 0
    · simp [records, last]
    · by_cases same : next = lastId 0 values
      · cases values with
        | nil => exact absurd same last
        | cons record rest => simp [records, same]
      · simp [records, last, same]
  · simp [records]

theorem readClasses_write (page : ClassesPage) :
    readClasses { names := page.names, next := page.next } =
      if readableClasses page then some page else none := by
  rcases page with ⟨names, next⟩
  have back : names.isEmpty = true → names.getLast? ≠ some next := by
    intro none
    simp [List.isEmpty_iff.mp none]
  simp only [readClasses, readableClasses]
  by_cases valid : (names.all fun name => validName name false) = true <;>
    by_cases sorted : isSorted names = true <;>
    by_cases adjacent : adjacentFind names = true <;>
    by_cases final : next.isEmpty = true <;>
    by_cases empty : names.isEmpty = true <;>
    by_cases same : names.getLast? = some next <;>
    simp_all

theorem readError_write (error : RemoteError) :
    readError { code := Int32.ofNat error.code.raw.toNat, message := error.message } =
      if error.code.declared then some error else none := by
  have bounds : (1 ≤ Int32.ofNat error.code.raw.toNat ∧ Int32.ofNat error.code.raw.toNat ≤ 10) ↔
      error.code.declared = true := by
    have table : ∀ n : Fin 256, (1 ≤ Int32.ofNat (UInt8.ofFin n).toNat ∧
        Int32.ofNat (UInt8.ofFin n).toNat ≤ 10) ↔ 1 ≤ UInt8.ofFin n ∧ UInt8.ofFin n ≤ 10 := by
      decide +kernel
    rw [ErrorCode.declared, decide_eq_true_eq]
    exact table error.code.raw.toFin
  simp only [readError, cast_raw, bounds]

/-- Every readable operation is read back. -/
theorem readOperation_write (r : Request) :
    readOperation (requestMessage r) =
      if readableOperation r.body then some r.body else none := by
  rcases r with ⟨id, operation, version⟩
  cases operation with
  | putValue data =>
    simp only [readOperation, requestMessage, writeOperation, orDefault, Option.getD_some,
      readValue_write, readableOperation]
    by_cases real : finite data = true <;> simp [real]
  | createObject className arguments =>
    simp only [readOperation, requestMessage, writeOperation, readNamed_write, readableOperation]
    by_cases named : validName className false = true <;>
      by_cases listed : readableNamed arguments = true <;> simp [named, listed]
  | invokeMethod id name arguments =>
    simp only [readOperation, requestMessage, writeOperation, readNamed_write, readableOperation]
    by_cases zero : id = 0 <;> by_cases named : validName name false = true <;>
      by_cases listed : readableNamed arguments = true <;> simp [zero, named, listed]
  | describeClass name => rfl
  | listValues after limit => rfl
  | _ =>
    simp [readOperation, requestMessage, writeOperation, readableOperation]

/-- Every readable outcome is read back. -/
theorem readOutcome_write (r : Response) :
    readOutcome (responseMessage r) = if readableOutcome r.body then some r.body else none := by
  rcases r with ⟨id, outcome, version⟩
  cases outcome with
  | classes page =>
    simp only [readOutcome, responseMessage, writeOutcome, readClasses_write, readableOutcome]
    by_cases readable : readableClasses page = true <;> simp [readable]
  | description description =>
    simp only [readOutcome, responseMessage, writeOutcome, readDescription_write, readableOutcome]
    by_cases readable : readableDescription description = true <;> simp [readable]
  | valueRecord record =>
    simp only [readOutcome, responseMessage, writeOutcome, readRecord_write, readableOutcome]
    by_cases readable : readableRecord record = true <;> simp [readable]
  | values page =>
    simp only [readOutcome, responseMessage, writeOutcome, readValues_write, readableOutcome]
    by_cases readable : readableValues page = true <;> simp [readable]
  | object snapshot =>
    simp only [readOutcome, responseMessage, writeOutcome, readNamed_write, readableOutcome,
      readableObject]
    by_cases zero : snapshot.id = 0 <;>
      by_cases named : validName snapshot.className false = true <;>
      by_cases listed : readableNamed snapshot.state = true <;> simp [zero, named, listed]
  | released => rfl
  | value data =>
    simp only [readOutcome, responseMessage, writeOutcome, readValue_write, readableOutcome]
    by_cases readable : finite data = true <;> simp [readable]
  | error error =>
    simp only [readOutcome, responseMessage, writeOutcome, readError_write, readableOutcome]
    by_cases readable : error.code.declared = true <;> simp [readable]

end PipeForge.Protocol
