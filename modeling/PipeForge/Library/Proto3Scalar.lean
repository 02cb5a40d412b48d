import PipeForge.Library.Varint

/-!
# Protocol Buffers scalars

The scalar types of proto3 messages, their wire types, sizes, encodings and
readers. A reader takes the value and returns what follows it. Every varint type
drops the bits above its width, as the encoding guide documents; an enumerator is
a 32-bit signed number that is written sign-extended to 64 bits.
-/

namespace PipeForge.Library.Proto3

inductive ScalarType where
  | text | uint32 | uint64 | sint64 | bool | enum | double
  deriving DecidableEq, Repr

inductive Scalar where
  | text (bytes : List UInt8)
  | uint32 (n : UInt32)
  | uint64 (n : UInt64)
  | sint64 (n : Int64)
  | bool (b : Bool)
  | enum (n : Int32)
  | double (bits : UInt64)
  deriving DecidableEq, Repr

/-- 0 is a varint, 1 eight bytes, 2 length-delimited. -/
def ScalarType.wire : ScalarType → Nat
  | .text => 2
  | .double => 1
  | .uint32 | .uint64 | .sint64 | .bool | .enum => 0

def Scalar.type : Scalar → ScalarType
  | .text _ => .text
  | .uint32 _ => .uint32
  | .uint64 _ => .uint64
  | .sint64 _ => .sint64
  | .bool _ => .bool
  | .enum _ => .enum
  | .double _ => .double

/-- The value a field without presence has when it is absent. -/
def Scalar.isDefault : Scalar → Bool
  | .text bytes => bytes.isEmpty
  | .uint32 n => n == 0
  | .uint64 n => n == 0
  | .sint64 n => n == 0
  | .bool b => !b
  | .enum n => n == 0
  | .double bits => bits == 0

/-! ## Numbers on the wire -/

/-- Small absolute values become small unsigned ones. -/
def zigzag (n : Int64) : Nat :=
  if 0 ≤ n.toInt then (2 * n.toInt).toNat else (-2 * n.toInt - 1).toNat

def unzigzag (n : Nat) : Int64 :=
  Int64.ofInt (if n % 2 = 0 then (n / 2 : Nat) else -((n / 2 : Nat) : Int) - 1)

/-- Two's complement over 64 bits. -/
def signExtended (n : Int32) : Nat := (n.toInt % 2 ^ 64).toNat

/-- The low 32 bits of the same. -/
def lowWord (n : Int32) : Nat := (n.toInt % 2 ^ 32).toNat

theorem zigzag_lt (n : Int64) : zigzag n < 2 ^ 64 := by
  have upper := n.toInt_lt
  have lower := n.le_toInt
  unfold zigzag
  split <;> omega

theorem unzigzag_zigzag (n : Int64) : unzigzag (zigzag n) = n := by
  have back : (if zigzag n % 2 = 0 then ((zigzag n / 2 : Nat) : Int)
      else -((zigzag n / 2 : Nat) : Int) - 1) = n.toInt := by
    unfold zigzag
    split <;> split <;> omega
  rw [unzigzag, back, Int64.ofInt_toInt]

theorem zigzag_unzigzag {n : Nat} (fits : n < 2 ^ 64) : zigzag (unzigzag n) = n := by
  have value : (unzigzag n).toInt =
      if n % 2 = 0 then ((n / 2 : Nat) : Int) else -((n / 2 : Nat) : Int) - 1 := by
    rw [unzigzag]
    apply Int64.toInt_ofInt_of_le
    · split <;> omega
    · split <;> omega
  unfold zigzag
  by_cases even : n % 2 = 0
  · rw [if_pos even] at value
    rw [value, if_pos (by omega)]
    omega
  · rw [if_neg even] at value
    rw [value, if_neg (by omega)]
    omega

theorem signExtended_lt (n : Int32) : signExtended n < 2 ^ 64 := by
  unfold signExtended
  omega

theorem signExtended_eq {n : Int32} (nonnegative : 0 ≤ n.toInt) : signExtended n = lowWord n := by
  have upper := n.toInt_lt
  unfold signExtended lowWord
  omega

/-- A negative 32-bit number survives its extension to 64 bits. -/
theorem ofNat_signExtended (n : Int32) : Int32.ofNat (signExtended n) = n := by
  have upper := n.toInt_lt
  have lower := n.le_toInt
  apply Int32.toInt_inj.mp
  rw [Int32.toInt_ofNat', signExtended, Int.toNat_of_nonneg (by omega), Int32.size]
  rw [Int.bmod_def]
  split <;> omega

theorem lowWord_ofNat (n : Nat) : lowWord (Int32.ofNat n) = n % 2 ^ 32 := by
  rw [lowWord, Int32.toInt_ofNat', Int32.size, Int.bmod_def]
  split <;> omega

/-! ## Fixed-width and length-delimited data -/

def fixed : Nat → Nat → List UInt8
  | 0, _ => []
  | count + 1, n => UInt8.ofNat (n % 256) :: fixed count (n / 256)

def ofFixed : List UInt8 → Nat
  | [] => 0
  | b :: rest => b.toNat + 256 * ofFixed rest

def readFixed (count : Nat) (input : List UInt8) : Option (Nat × List UInt8) :=
  if count ≤ input.length then some (ofFixed (input.take count), input.drop count) else none

def readDelimited (input : List UInt8) : Option (List UInt8 × List UInt8) :=
  match Varint.read input with
  | none => none
  | some (count, rest) =>
    if count ≤ rest.length then some (rest.take count, rest.drop count) else none

def delimited (bytes : List UInt8) : List UInt8 := Varint.encode bytes.length ++ bytes

@[simp] theorem length_fixed (count n : Nat) : (fixed count n).length = count := by
  induction count generalizing n with
  | zero => rfl
  | succ count ih => rw [fixed, List.length_cons, ih]

theorem ofFixed_fixed (count n : Nat) (fits : n < 256 ^ count) : ofFixed (fixed count n) = n := by
  induction count generalizing n with
  | zero =>
    rw [Nat.pow_zero] at fits
    rw [fixed, ofFixed]
    omega
  | succ count ih =>
    have high : n / 256 < 256 ^ count := by
      rw [Nat.pow_succ] at fits
      exact (Nat.div_lt_iff_lt_mul (by omega)).mpr fits
    have low : (UInt8.ofNat (n % 256)).toNat = n % 256 := by
      rw [UInt8.toNat_ofNat']
      omega
    rw [fixed, ofFixed, ih _ high, low, Nat.mod_add_div]

theorem readFixed_fixed (count n : Nat) (fits : n < 256 ^ count) (rest : List UInt8) :
    readFixed count (fixed count n ++ rest) = some (n, rest) := by
  have size := length_fixed count n
  rw [readFixed, if_pos (by simp), List.take_left' size, List.drop_left' size,
    ofFixed_fixed count n fits]

theorem readFixed_size {count n : Nat} {input rest : List UInt8}
    (success : readFixed count input = some (n, rest)) : count + rest.length = input.length := by
  unfold readFixed at success
  split at success
  · rename_i enough
    cases success
    rw [List.length_drop]
    omega
  · cases success

/-- The bytes read and their length prefix were all in the input. -/
theorem readDelimited_size {input bytes rest : List UInt8}
    (success : readDelimited input = some (bytes, rest)) :
    Varint.size bytes.length + bytes.length + rest.length ≤ input.length := by
  unfold readDelimited at success
  split at success
  · cases success
  · rename_i count tail counted
    split at success
    · rename_i enough
      cases success
      have read := Varint.read_size counted
      rw [List.length_take, List.length_drop, Nat.min_eq_left enough]
      omega
    · cases success

/-- Length-delimited bytes are read back, with the rest left over. -/
theorem readDelimited_delimited {bytes : List UInt8} (fits : bytes.length < 2 ^ 64)
    (rest : List UInt8) : readDelimited (delimited bytes ++ rest) = some (bytes, rest) := by
  rw [readDelimited, delimited, List.append_assoc, Varint.read_encode fits]
  simp

theorem length_delimited {bytes : List UInt8} (fits : bytes.length < 2 ^ 64) :
    (delimited bytes).length = Varint.size bytes.length + bytes.length := by
  rw [delimited, List.length_append, Varint.length_encode fits]

/-! ## Scalars -/

def Scalar.encode : Scalar → List UInt8
  | .text bytes => delimited bytes
  | .uint32 n => Varint.encode n.toNat
  | .uint64 n => Varint.encode n.toNat
  | .sint64 n => Varint.encode (zigzag n)
  | .bool b => Varint.encode b.toNat
  | .enum n => Varint.encode (signExtended n)
  | .double bits => fixed 8 bits.toNat

theorem ScalarType.wire_lt (type : ScalarType) : type.wire < 8 := by
  cases type <;> decide

/-- Encoded size without the tag. -/
def Scalar.byteSize : Scalar → Nat
  | .text bytes => Varint.size bytes.length + bytes.length
  | .uint32 n => Varint.size n.toNat
  | .uint64 n => Varint.size n.toNat
  | .sint64 n => Varint.size (zigzag n)
  | .bool _ => 1
  | .enum n => Varint.size (signExtended n)
  | .double _ => 8

/-- A size no reader can exceed: as `byteSize`, but a negative enumerator counts
its low word only, which is all that needs to be on the wire. -/
def Scalar.footprint : Scalar → Nat
  | .enum n => Varint.size (lowWord n)
  | value => value.byteSize

/-- Not a negative enumerator. -/
def Scalar.nonnegative : Scalar → Bool
  | .enum n => decide (0 ≤ n.toInt)
  | _ => true

/-- A number that is not negative costs its own size. -/
theorem Scalar.footprint_eq {value : Scalar} (allowed : value.nonnegative = true) :
    value.footprint = value.byteSize := by
  cases value with
  | enum n =>
    rw [nonnegative, decide_eq_true_eq] at allowed
    rw [footprint, byteSize, signExtended_eq allowed]
  | _ => rfl

def readScalar (type : ScalarType) (input : List UInt8) : Option (Scalar × List UInt8) :=
  match type with
  | .text => (readDelimited input).map fun found => (.text found.1, found.2)
  | .uint32 => (Varint.read input).map fun found => (.uint32 (UInt32.ofNat found.1), found.2)
  | .uint64 => (Varint.read input).map fun found => (.uint64 (UInt64.ofNat found.1), found.2)
  | .sint64 => (Varint.read input).map fun found => (.sint64 (unzigzag (found.1 % 2 ^ 64)), found.2)
  | .bool => (Varint.read input).map fun found => (.bool (found.1 % 2 ^ 64 != 0), found.2)
  | .enum => (Varint.read input).map fun found => (.enum (Int32.ofNat found.1), found.2)
  | .double => (readFixed 8 input).map fun found => (.double (UInt64.ofNat found.1), found.2)

/-- A text short enough for its length to be a 64-bit number. -/
def Scalar.Encodable : Scalar → Prop
  | .text bytes => bytes.length < 2 ^ 64
  | _ => True

/-- An encoded scalar is as long as computed beforehand. -/
theorem Scalar.length_encode {value : Scalar} (encodable : value.Encodable) :
    value.encode.length = value.byteSize := by
  cases value with
  | text bytes => exact length_delimited encodable
  | uint32 n => exact Varint.length_encode (Nat.lt_trans n.toNat_lt (by decide))
  | uint64 n => exact Varint.length_encode n.toNat_lt
  | sint64 n => exact Varint.length_encode (zigzag_lt n)
  | bool b => cases b <;> rfl
  | enum n => exact Varint.length_encode (signExtended_lt n)
  | double bits => exact length_fixed 8 bits.toNat

/-- An encoded scalar is read back, with the rest left over. -/
theorem readScalar_encode {value : Scalar} (encodable : value.Encodable) (rest : List UInt8) :
    readScalar value.type (value.encode ++ rest) = some (value, rest) := by
  cases value with
  | text bytes => simp [Scalar.type, Scalar.encode, readScalar, readDelimited_delimited encodable]
  | uint32 n =>
    have fits : n.toNat < 2 ^ 64 := Nat.lt_trans n.toNat_lt (by decide)
    simp [Scalar.type, Scalar.encode, readScalar, Varint.read_encode fits]
  | uint64 n => simp [Scalar.type, Scalar.encode, readScalar, Varint.read_encode n.toNat_lt]
  | sint64 n =>
    have fits := zigzag_lt n
    simp only [Scalar.type, Scalar.encode, readScalar, Varint.read_encode fits, Option.map_some,
      Nat.mod_eq_of_lt fits, unzigzag_zigzag]
  | bool b => cases b <;> rfl
  | enum n =>
    simp only [Scalar.type, Scalar.encode, readScalar, Varint.read_encode (signExtended_lt n),
      Option.map_some, ofNat_signExtended]
  | double bits =>
    have fits : bits.toNat < 256 ^ 8 := Nat.lt_of_lt_of_le bits.toNat_lt (by decide)
    simp [Scalar.type, Scalar.encode, readScalar, readFixed_fixed 8 _ fits]

/-- A scalar read from a varint is no longer than the varint was. -/
private theorem readVarint_size (decode : Nat → Scalar) {input rest : List UInt8} {value : Scalar}
    (reduced : ∀ n, (decode n).footprint ≤ Varint.size n)
    (success : (Varint.read input).map (fun found => (decode found.1, found.2)) =
      some (value, rest)) :
    ∃ n, value = decode n ∧ value.footprint + rest.length ≤ input.length := by
  simp only [Option.map_eq_some_iff, Prod.mk.injEq] at success
  obtain ⟨⟨n, tail⟩, found, rfl, rfl⟩ := success
  exact ⟨n, rfl, Nat.le_trans (Nat.add_le_add_right (reduced n) _) (Varint.read_size found)⟩

/-- A reader yields a value of its type that is no larger than what it took. -/
theorem readScalar_size {type : ScalarType} {input rest : List UInt8} {value : Scalar}
    (success : readScalar type input = some (value, rest)) :
    value.type = type ∧ value.footprint + rest.length ≤ input.length := by
  cases type with
  | text =>
    simp only [readScalar, Option.map_eq_some_iff, Prod.mk.injEq] at success
    obtain ⟨⟨bytes, tail⟩, found, rfl, rfl⟩ := success
    exact ⟨rfl, readDelimited_size found⟩
  | double =>
    simp only [readScalar, Option.map_eq_some_iff, Prod.mk.injEq] at success
    obtain ⟨⟨n, tail⟩, found, rfl, rfl⟩ := success
    exact ⟨rfl, Nat.le_of_eq (readFixed_size found)⟩
  | uint32 =>
    have reduced : ∀ n, (UInt32.ofNat n).toNat ≤ n := by
      intro n
      rw [UInt32.toNat_ofNat']
      exact Nat.mod_le _ _
    obtain ⟨n, rfl, size⟩ := readVarint_size (fun n => .uint32 (UInt32.ofNat n))
      (fun n => Varint.size_mono (reduced n)) success
    exact ⟨rfl, size⟩
  | uint64 =>
    have reduced : ∀ n, (UInt64.ofNat n).toNat ≤ n := by
      intro n
      rw [UInt64.toNat_ofNat']
      exact Nat.mod_le _ _
    obtain ⟨n, rfl, size⟩ := readVarint_size (fun n => .uint64 (UInt64.ofNat n))
      (fun n => Varint.size_mono (reduced n)) success
    exact ⟨rfl, size⟩
  | sint64 =>
    have reduced : ∀ n, zigzag (unzigzag (n % 2 ^ 64)) ≤ n := by
      intro n
      rw [zigzag_unzigzag (Nat.mod_lt _ (by decide))]
      exact Nat.mod_le _ _
    obtain ⟨n, rfl, size⟩ := readVarint_size (fun n => .sint64 (unzigzag (n % 2 ^ 64)))
      (fun n => Varint.size_mono (reduced n)) success
    exact ⟨rfl, size⟩
  | bool =>
    obtain ⟨n, rfl, size⟩ := readVarint_size (fun n => .bool (n % 2 ^ 64 != 0))
      (fun n => Varint.size_pos n) success
    exact ⟨rfl, size⟩
  | enum =>
    have reduced : ∀ n, lowWord (Int32.ofNat n) ≤ n := by
      intro n
      rw [lowWord_ofNat]
      exact Nat.mod_le _ _
    obtain ⟨n, rfl, size⟩ := readVarint_size (fun n => .enum (Int32.ofNat n))
      (fun n => Varint.size_mono (reduced n)) success
    exact ⟨rfl, size⟩

end PipeForge.Library.Proto3
