import PipeForge.Library.Proto3

/-!
# Size estimates

A length prefix depends on what follows it, which makes exact sizes awkward to
add up. `weight` charges every prefix four bytes and every number ten, so it is
additive over the fields of a message, and it bounds the size as long as it is
itself below `2 ^ 28`.
-/

namespace PipeForge.Library.Proto3

def Scalar.weight : Scalar → Nat
  | .text bytes => 4 + bytes.length
  | _ => 10

def Message.weight : Message → Nat
  | .done _ => 0
  | .scalar number value rest => tagSize number value.type.wire + value.weight + rest.weight
  | .nested number child rest => tagSize number 2 + 4 + child.weight + rest.weight

theorem lengthPrefix_le {n : Nat} (small : n < 2 ^ 28) : Varint.size n ≤ 4 :=
  (Varint.size_le_iff (by decide)).mpr small

theorem number_le {n : Nat} (fits : n < 2 ^ 64) : Varint.size n ≤ 10 :=
  (Varint.size_le_iff (by decide)).mpr (Nat.lt_trans fits (by decide))

/-- The weight bounds the size of a scalar as long as both are small. -/
theorem Scalar.byteSize_le_weight {value : Scalar} (small : value.weight < 2 ^ 28) :
    value.byteSize ≤ value.weight := by
  cases value with
  | text bytes =>
    rw [weight] at small ⊢
    have prefixed := lengthPrefix_le (show bytes.length < 2 ^ 28 by omega)
    rw [byteSize]
    omega
  | uint32 n => exact number_le (Nat.lt_trans n.toNat_lt (by decide))
  | uint64 n => exact number_le n.toNat_lt
  | sint64 n => exact number_le (zigzag_lt n)
  | bool flag => exact show 1 ≤ 10 by decide
  | enum n => exact number_le (signExtended_lt n)
  | double bits => exact show 8 ≤ 10 by decide

theorem tagSize_le {number wire : Nat} (field : number < 2048) (legal : wire < 8) :
    tagSize number wire ≤ 2 :=
  (Varint.size_le_iff (by decide)).mpr (by omega)

namespace Message

/-- The weight bounds the size of a plain message. -/
theorem byteSize_le_weight {m : Message} (known : m.plain = true) (small : m.weight < 2 ^ 28) :
    m.byteSize ≤ m.weight := by
  induction m with
  | done unknown =>
    rw [plain, decide_eq_true_eq] at known
    rw [known]
    exact Nat.le_refl 0
  | scalar number value rest ih =>
    rw [weight] at small ⊢
    have first := Scalar.byteSize_le_weight (show value.weight < 2 ^ 28 by omega)
    have later := ih known (by omega)
    rw [byteSize]
    omega
  | nested number child rest childIh ih =>
    rw [plain, Bool.and_eq_true] at known
    rw [weight] at small ⊢
    have inner := childIh known.1 (by omega)
    have later := ih known.2 (by omega)
    have prefixed := lengthPrefix_le (show child.byteSize < 2 ^ 28 by omega)
    rw [byteSize]
    omega

section
variable {number : Nat} (field : number < 2048)
include field

theorem weight_implicit_le (value : Scalar) (rest : Message) :
    (implicit number value rest).weight ≤ 2 + value.weight + rest.weight := by
  unfold implicit
  split
  · omega
  · have tag := tagSize_le field value.type.wire_lt
    rw [weight]
    omega

theorem weight_optional_le (value : Option Scalar) (rest : Message) :
    (optional number value rest).weight ≤
      (value.elim 0 fun value => 2 + value.weight) + rest.weight := by
  cases value with
  | none => exact Nat.le_add_left _ _
  | some value =>
    have tag := tagSize_le field value.type.wire_lt
    rw [optional, weight, Option.elim_some]
    omega

/-- A nested message costs a tag and a length more than its own weight. -/
theorem weight_nested_le (child rest : Message) :
    (nested number child rest).weight ≤ 6 + child.weight + rest.weight := by
  have tag := tagSize_le field (show 2 < 8 by decide)
  rw [weight]
  omega

theorem weight_repeatedScalar_le (values : List Scalar) (rest : Message) :
    (repeatedScalar number values rest).weight ≤
      (values.map fun value => 2 + value.weight).sum + rest.weight := by
  induction values with
  | nil => exact Nat.le_add_left _ _
  | cons value values ih =>
    have tag := tagSize_le field value.type.wire_lt
    change tagSize number value.type.wire + value.weight +
      (repeatedScalar number values rest).weight ≤ _
    rw [List.map_cons, List.sum_cons]
    omega

/-- A run of messages costs the sum of its elements. -/
theorem weight_repeatedMessage_le (inner : List Message) (rest : Message) :
    (repeatedMessage number inner rest).weight ≤
      (inner.map fun child => 6 + child.weight).sum + rest.weight := by
  induction inner with
  | nil => exact Nat.le_add_left _ _
  | cons child inner ih =>
    have first := weight_nested_le field child (repeatedMessage number inner rest)
    rw [List.map_cons, List.sum_cons]
    change (nested number child (repeatedMessage number inner rest)).weight ≤ _
    omega

end

end Message

end PipeForge.Library.Proto3
