import Mathlib

/-!
# Version-1 contracts

The owning values, operations and outcomes of `contracts.hpp`. A `std::string`
is its list of bytes, a `double` its IEEE-754 bit pattern, so equality of Lean
values compares reals bit by bit; `Value.sameAs` is the C++ `==`.
-/

namespace PipeForge.Contracts

abbrev Bytes := List UInt8

/-- Bytes of a text literal. -/
def ascii (text : String) : Bytes := text.toUTF8.data.toList

def version : UInt32 := 1
def maxPayloadBytes : Nat := 1024 * 1024
def maxStringBytes : Nat := 64 * 1024
def frameHeaderBytes : Nat := 4
def maxEntries : Nat := 64
def maxNameBytes : Nat := 128
def maxRecursionDepth : Nat := 16
/-- Aggregate node ceiling of `validation.hpp`. -/
def maxMessageNodes : Nat := 4096

/-- `std::variant<std::string, std::int64_t, double>`. -/
inductive Value where
  | text (bytes : Bytes)
  | integer (n : Int64)
  | real (bits : UInt64)
  deriving DecidableEq, Repr

/-- `std::isfinite`: the exponent field is not all ones. -/
def isfinite (bits : UInt64) : Bool := decide ((bits.toNat / 2 ^ 52) % 2 ^ 11 ≠ 2047)

/-- `double ==` on bit patterns: a NaN differs from everything, the two zeros agree. -/
def realEqual (a b : UInt64) : Bool :=
  let isNaN (bits : UInt64) : Bool := !isfinite bits && decide (bits.toNat % 2 ^ 52 ≠ 0)
  let isZero (bits : UInt64) : Bool := decide (bits.toNat % 2 ^ 63 = 0)
  !isNaN a && !isNaN b && (decide (a = b) || (isZero a && isZero b))

/-- `operator==` of the variant. -/
def Value.sameAs : Value → Value → Bool
  | .text a, .text b => decide (a = b)
  | .integer a, .integer b => decide (a = b)
  | .real a, .real b => realEqual a b
  | _, _ => false

/-- `enum class error_code : std::uint8_t`. Every byte is a value of the type;
the enumerators name ten of them. -/
structure ErrorCode where
  raw : UInt8
  deriving DecidableEq, Repr

namespace ErrorCode
def invalidRequest : ErrorCode := ⟨1⟩
def notFound : ErrorCode := ⟨2⟩
def quotaExceeded : ErrorCode := ⟨3⟩
def timeout : ErrorCode := ⟨4⟩
def cancelled : ErrorCode := ⟨5⟩
def accessDenied : ErrorCode := ⟨6⟩
def transportFailure : ErrorCode := ⟨7⟩
def internalFailure : ErrorCode := ⟨8⟩
def unsupportedVersion : ErrorCode := ⟨9⟩
def numericOverflow : ErrorCode := ⟨10⟩
end ErrorCode

/-- `enum class value_kind : std::uint8_t`, with the same reading as `ErrorCode`. -/
structure ValueKind where
  raw : UInt8
  deriving DecidableEq, Repr

namespace ValueKind
def text : ValueKind := ⟨1⟩
def integer : ValueKind := ⟨2⟩
def real : ValueKind := ⟨3⟩
end ValueKind

structure NamedValue where
  name : Bytes
  data : Value
  deriving DecidableEq, Repr

structure ValueRecord where
  id : UInt64
  data : Value
  deriving DecidableEq, Repr

structure Parameter where
  name : Bytes
  kind : ValueKind
  deriving DecidableEq, Repr

structure Attribute where
  name : Bytes
  kind : ValueKind
  readOnly : Bool
  deriving DecidableEq, Repr

structure Method where
  name : Bytes
  parameters : List Parameter
  resultKind : ValueKind
  deriving DecidableEq, Repr

structure ClassDescription where
  name : Bytes
  attributes : List Attribute
  methods : List Method
  constructorParameters : List Parameter
  deriving DecidableEq, Repr

structure ObjectSnapshot where
  id : UInt64
  className : Bytes
  state : List NamedValue
  deriving DecidableEq, Repr

/-- The closed set of version-1 operations. -/
inductive Operation where
  | listClasses (after : Bytes) (limit : UInt32)
  | describeClass (name : Bytes)
  | putValue (data : Value)
  | getValue (id : UInt64)
  | listValues (after : UInt64) (limit : UInt32)
  | createObject (className : Bytes) (arguments : List NamedValue)
  | getObject (id : UInt64)
  | releaseObject (id : UInt64)
  | getAttribute (id : UInt64) (name : Bytes)
  | invokeMethod (id : UInt64) (name : Bytes) (arguments : List NamedValue)
  deriving DecidableEq, Repr

structure ClassesPage where
  names : List Bytes
  next : Bytes
  deriving DecidableEq, Repr

structure ValuesPage where
  values : List ValueRecord
  next : UInt64
  deriving DecidableEq, Repr

structure RemoteError where
  code : ErrorCode
  message : Bytes
  deriving DecidableEq, Repr

/-- The closed set of success results and structured remote errors. -/
inductive Outcome where
  | classes (page : ClassesPage)
  | description (description : ClassDescription)
  | valueRecord (record : ValueRecord)
  | values (page : ValuesPage)
  | object (snapshot : ObjectSnapshot)
  | released
  | value (data : Value)
  | error (error : RemoteError)
  deriving DecidableEq, Repr

structure Request where
  id : UInt64
  body : Operation
  protocolVersion : UInt32 := version
  deriving DecidableEq, Repr

structure Response where
  id : UInt64
  body : Outcome
  protocolVersion : UInt32 := version
  deriving DecidableEq, Repr

/-- A value equals itself unless it is a NaN, which `valid_value` rejects. -/
theorem Value.sameAs_self (v : Value)
    (finite : ∀ bits, v = .real bits → isfinite bits = true) : v.sameAs v = true := by
  cases v with
  | text bytes => simp [sameAs]
  | integer n => simp [sameAs]
  | real bits => simp [sameAs, realEqual, finite bits rfl]

end PipeForge.Contracts
