import PipeForge.Contracts.Types
import PipeForge.Library.Utf8

/-!
# Shared validation

The field, metadata and resource checks of `validation.cpp` and the fixed error
texts of `make_error`. Each check is a Boolean function as in the source; the
lemmas after it restate acceptance as a proposition.
-/

namespace PipeForge.Contracts
open Library.Utf8

/-- The character class of an identifier. -/
def nameCharacter (c : UInt8) : Bool :=
  (0x61 ≤ c && c ≤ 0x7A) || (0x41 ≤ c && c ≤ 0x5A) || (0x30 ≤ c && c ≤ 0x39) || c == 0x5F

def validName (name : Bytes) (allowEmpty : Bool) : Bool :=
  match name with
  | [] => allowEmpty
  | front :: _ =>
    if name.length > maxNameBytes || (0x30 ≤ front && front ≤ 0x39) then false
    else name.all nameCharacter

def validKind (kind : ValueKind) : Bool :=
  kind == .text || kind == .integer || kind == .real

/-- A variant emptied by an exception has no counterpart here: allocation
failures end the process. -/
def validValue : Value → Bool
  | .text bytes => decide (bytes.length ≤ maxStringBytes) && isStructurallyValid bytes
  | .integer _ => true
  | .real bits => isfinite bits

def kindOf : Value → ValueKind
  | .text _ => .text
  | .integer _ => .integer
  | .real _ => .real

def valueBytes : Value → Nat
  | .text bytes => bytes.length
  | .integer _ => 8
  | .real _ => 8

def validPageSize (size : UInt32) : Bool :=
  size != 0 && decide (size.toNat ≤ maxEntries)

/-- `all_of` with the set of names inserted so far. -/
def validNamesFrom (seen : List Bytes) : List Bytes → Bool
  | [] => true
  | name :: rest => validName name false && !seen.contains name && validNamesFrom (name :: seen) rest

def validNames (names : List Bytes) : Bool := validNamesFrom [] names

def validParameters (parameters : List Parameter) : Bool :=
  decide (parameters.length ≤ maxEntries) && validNames (parameters.map (·.name)) &&
    parameters.all fun item => validKind item.kind

def validNamedValues (entries : List NamedValue) : Bool :=
  decide (entries.length ≤ maxEntries) && validNames (entries.map (·.name)) &&
    entries.all fun item => validValue item.data

/-- `std::ranges::find` by name. -/
def findNamed (entries : List NamedValue) (name : Bytes) : Option NamedValue :=
  entries.find? fun item => decide (item.name = name)

/-- The declared name is found with the declared kind. -/
def namedOfKind (entries : List NamedValue) (name : Bytes) (kind : ValueKind) : Bool :=
  match findNamed entries name with
  | some found => kindOf found.data == kind
  | none => false

def validArguments (arguments : List NamedValue) (parameters : List Parameter) : Bool :=
  if arguments.length != parameters.length || !validNamedValues arguments then false
  else parameters.all fun parameter => namedOfKind arguments parameter.name parameter.kind

/-- Nodes of a description message, its envelope not counted. -/
def descriptionNodes (description : ClassDescription) : Nat :=
  1 + description.attributes.length + description.methods.length +
    description.constructorParameters.length +
    (description.methods.map fun method => method.parameters.length).sum

def validDescription (description : ClassDescription) : Bool :=
  if !validName description.name false || decide (description.attributes.length > maxEntries) ||
      decide (description.methods.length > maxEntries) ||
      !validNames (description.attributes.map (·.name)) ||
      !validNames (description.methods.map (·.name)) ||
      !validParameters description.constructorParameters then false
  else if !description.attributes.all fun field => validKind field.kind then false
  else if !description.methods.all fun method =>
      validKind method.resultKind && validParameters method.parameters then false
  -- Room is left for the envelope itself in the codec's aggregate node limit.
  else decide (descriptionNodes description < maxMessageNodes)

def makeError (code : ErrorCode) : RemoteError :=
  if code = .invalidRequest then ⟨code, ascii "Invalid request"⟩
  else if code = .notFound then ⟨code, ascii "Resource not found"⟩
  else if code = .quotaExceeded then ⟨code, ascii "Resource limit exceeded"⟩
  else if code = .timeout then ⟨code, ascii "Operation timed out"⟩
  else if code = .cancelled then ⟨code, ascii "Operation cancelled"⟩
  else if code = .accessDenied then ⟨code, ascii "Session access denied"⟩
  else if code = .transportFailure then ⟨code, ascii "Transport failure"⟩
  else if code = .unsupportedVersion then ⟨code, ascii "Unsupported protocol version"⟩
  else if code = .numericOverflow then ⟨code, ascii "Numeric overflow"⟩
  else ⟨.internalFailure, ascii "Internal failure"⟩

/-! ## Names -/

theorem validName_cons_length {name : Bytes} {allowEmpty : Bool}
    (valid : validName name allowEmpty = true) : name.length ≤ maxNameBytes := by
  cases name with
  | nil => simp
  | cons front rest =>
    simp only [validName] at valid
    split at valid
    · cases valid
    · rename_i checks
      simp only [Bool.or_eq_true, decide_eq_true_eq, not_or, Nat.not_lt] at checks
      exact checks.1

theorem nameCharacter_ascii {c : UInt8} (valid : nameCharacter c = true) : c < 0x80 := by
  simp only [nameCharacter, Bool.or_eq_true, Bool.and_eq_true, decide_eq_true_eq, beq_iff_eq,
    UInt8.le_iff_toNat_le] at valid
  rw [UInt8.lt_iff_toNat_lt]
  rcases valid with ((range | range) | range) | rfl
  · exact Nat.lt_of_le_of_lt range.2 (by decide)
  · exact Nat.lt_of_le_of_lt range.2 (by decide)
  · exact Nat.lt_of_le_of_lt range.2 (by decide)
  · decide

/-- An identifier is seven-bit text, so the codec's string checks accept it. -/
theorem validName_utf8 {name : Bytes} {allowEmpty : Bool}
    (valid : validName name allowEmpty = true) : isStructurallyValid name = true := by
  cases name with
  | nil => rfl
  | cons front rest =>
    simp only [validName] at valid
    split at valid
    · cases valid
    · apply isStructurallyValid_ascii
      intro c member
      exact nameCharacter_ascii (List.all_eq_true.mp valid c member)

theorem validName_of_strict {name : Bytes} {allowEmpty : Bool}
    (valid : validName name false = true) : validName name allowEmpty = true := by
  cases name with
  | nil => cases valid
  | cons front rest => exact valid

/-- Names are valid together if each is, and none was seen before. -/
private theorem validNamesFrom_iff (seen names : List Bytes) :
    validNamesFrom seen names = true ↔
      (∀ name ∈ names, validName name false = true ∧ name ∉ seen) ∧ names.Nodup := by
  induction names generalizing seen with
  | nil => simp [validNamesFrom]
  | cons name rest ih =>
    simp only [validNamesFrom, Bool.and_eq_true, Bool.not_eq_true', List.contains_eq_mem,
      decide_eq_false_iff_not, ih, List.mem_cons, not_or, forall_eq_or_imp, List.nodup_cons]
    constructor
    · rintro ⟨⟨valid, fresh⟩, later, distinct⟩
      refine ⟨⟨⟨valid, fresh⟩, fun other member => ?_⟩, fun member => ?_, distinct⟩
      · exact ⟨(later other member).1, (later other member).2.2⟩
      · exact (later name member).2.1 rfl
    · rintro ⟨⟨⟨valid, fresh⟩, later⟩, absent, distinct⟩
      refine ⟨⟨valid, fresh⟩, fun other member => ?_, distinct⟩
      exact ⟨(later other member).1, fun same => absent (same ▸ member), (later other member).2⟩

/-- Insertion into the set fails exactly at the first repeated name. -/
theorem validNames_iff (names : List Bytes) :
    validNames names = true ↔ (∀ name ∈ names, validName name false = true) ∧ names.Nodup := by
  simp [validNames, validNamesFrom_iff]

/-! ## Values -/

theorem validValue_finite {v : Value} (valid : validValue v = true) :
    ∀ bits, v = .real bits → isfinite bits = true := by
  rintro bits rfl
  exact valid

/-- A valid value is charged at most one maximal string. -/
theorem valueBytes_le {v : Value} (valid : validValue v = true) :
    valueBytes v ≤ maxStringBytes := by
  cases v with
  | text bytes =>
    simp only [validValue, Bool.and_eq_true, decide_eq_true_eq] at valid
    exact valid.1
  | integer n => simp [valueBytes, maxStringBytes]
  | real bits => simp [valueBytes, maxStringBytes]

/-- Named values are valid if they are few, their names differ and their data are valid. -/
theorem validNamedValues_iff (entries : List NamedValue) :
    validNamedValues entries = true ↔ entries.length ≤ maxEntries ∧
      validNames (entries.map (·.name)) = true ∧ ∀ item ∈ entries, validValue item.data = true := by
  simp [validNamedValues, and_assoc]

theorem findNamed_mem {entries : List NamedValue} {name : Bytes} {found : NamedValue}
    (h : findNamed entries name = some found) : found ∈ entries ∧ found.name = name :=
  ⟨List.mem_of_find?_eq_some h, by simpa using List.find?_some h⟩

/-! ## Descriptions -/

theorem validParameters_iff (parameters : List Parameter) :
    validParameters parameters = true ↔ parameters.length ≤ maxEntries ∧
      validNames (parameters.map (·.name)) = true ∧
      ∀ item ∈ parameters, validKind item.kind = true := by
  simp [validParameters, and_assoc]

/-- Every check of a description at once. -/
structure DescriptionChecks (description : ClassDescription) : Prop where
  name : validName description.name false = true
  attributes : description.attributes.length ≤ maxEntries
  methods : description.methods.length ≤ maxEntries
  attributeNames : validNames (description.attributes.map (·.name)) = true
  methodNames : validNames (description.methods.map (·.name)) = true
  constructors : validParameters description.constructorParameters = true
  attributeKinds : ∀ field ∈ description.attributes, validKind field.kind = true
  resultKinds : ∀ method ∈ description.methods, validKind method.resultKind = true
  parameters : ∀ method ∈ description.methods, validParameters method.parameters = true
  nodes : descriptionNodes description < maxMessageNodes

theorem validDescription_iff (description : ClassDescription) :
    validDescription description = true ↔ DescriptionChecks description := by
  constructor
  · intro valid
    unfold validDescription at valid
    split at valid
    · cases valid
    · rename_i shape
      split at valid
      · cases valid
      · rename_i kinds
        split at valid
        · cases valid
        · rename_i functions
          simp only [Bool.or_eq_true, Bool.not_eq_true', decide_eq_true_eq, not_or,
            Bool.not_eq_false, Nat.not_lt] at shape
          simp only [Bool.not_eq_true', Bool.not_eq_false, List.all_eq_true] at kinds
          simp only [Bool.not_eq_true', Bool.not_eq_false, List.all_eq_true,
            Bool.and_eq_true] at functions
          obtain ⟨⟨⟨⟨⟨name, attributes⟩, methods⟩, attributeNames⟩, methodNames⟩, constructors⟩ :=
            shape
          exact ⟨name, attributes, methods, attributeNames, methodNames, constructors, kinds,
            fun method member => (functions method member).1,
            fun method member => (functions method member).2, of_decide_eq_true valid⟩
  · intro checks
    have functions : (description.methods.all fun method =>
        validKind method.resultKind && validParameters method.parameters) = true := by
      simp only [List.all_eq_true, Bool.and_eq_true]
      exact fun method member =>
        ⟨checks.resultKinds method member, checks.parameters method member⟩
    have kinds : (description.attributes.all fun field => validKind field.kind) = true :=
      List.all_eq_true.mpr checks.attributeKinds
    simp only [validDescription, checks.name, checks.attributeNames, checks.methodNames,
      checks.constructors, functions, kinds, checks.nodes, Nat.not_lt.mpr checks.attributes,
      Nat.not_lt.mpr checks.methods, decide_false, decide_true, Bool.not_true,
      Bool.or_self, Bool.false_eq_true, if_false]

/-! ## Errors -/

/-- The ten enumerators; a code outside them is reported as `internal_failure`. -/
def ErrorCode.declared (code : ErrorCode) : Bool := decide (1 ≤ code.raw ∧ code.raw ≤ 10)

private theorem makeError_table :
    ∀ raw : Fin 256, (makeError ⟨UInt8.ofFin raw⟩).code.declared = true ∧
      (makeError ⟨UInt8.ofFin raw⟩).message.length ≤ maxStringBytes ∧
      isStructurallyValid (makeError ⟨UInt8.ofFin raw⟩).message = true := by
  decide +kernel

/-- Every code yields a declared code and a bounded text of well-formed UTF-8. -/
theorem makeError_bounded (code : ErrorCode) :
    (makeError code).code.declared = true ∧ (makeError code).message.length ≤ maxStringBytes ∧
      isStructurallyValid (makeError code).message = true :=
  makeError_table code.raw.toFin

/-- A text keeps its code unless the code is reported as `internal_failure`. -/
theorem makeError_code_cases (code : ErrorCode) :
    (makeError code).code = code ∨ (makeError code).code = .internalFailure := by
  have table : ∀ raw : Fin 256, (makeError ⟨UInt8.ofFin raw⟩).code = ⟨UInt8.ofFin raw⟩ ∨
      (makeError ⟨UInt8.ofFin raw⟩).code = .internalFailure := by decide +kernel
  exact table code.raw.toFin

end PipeForge.Contracts
