import Mathlib

/-!
# Base-128 varints

Seven payload bits per byte, least significant group first, with the top bit of
every byte but the last set. A reader accepts at most ten bytes and need not be
given the shortest form; `size` is the length of the shortest one, so reading
never yields a number whose canonical form is longer than what was read.
-/

namespace PipeForge.Library.Varint

def maxBytes : Nat := 10

/-- Length of the shortest encoding. -/
def size (n : Nat) : Nat := n.log2 / 7 + 1

def encodeUpTo : Nat → Nat → List UInt8
  | 0, _ => []
  | bytes + 1, n =>
    if n < 128 then [UInt8.ofNat n]
    else UInt8.ofNat (n % 128 + 128) :: encodeUpTo bytes (n / 128)

def encode (n : Nat) : List UInt8 := encodeUpTo maxBytes n

def readUpTo : Nat → List UInt8 → Option (Nat × List UInt8)
  | 0, _ => none
  | _ + 1, [] => none
  | bytes + 1, b :: rest =>
    if b < 128 then some (b.toNat, rest)
    else (readUpTo bytes rest).map fun later => (b.toNat - 128 + 128 * later.1, later.2)

def read (input : List UInt8) : Option (Nat × List UInt8) := readUpTo maxBytes input

/-! ## Sizes -/

theorem size_pos (n : Nat) : 0 < size n := Nat.succ_pos _

/-- A number takes at most `k` bytes exactly if it has at most `7 * k` bits. -/
theorem size_le_iff {n k : Nat} (positive : 0 < k) : size n ≤ k ↔ n < 2 ^ (7 * k) := by
  unfold size
  by_cases zero : n = 0
  · subst zero
    have power : 0 < 2 ^ (7 * k) := Nat.two_pow_pos _
    simp only [Nat.log2_zero]
    omega
  · rw [← Nat.log2_lt zero]
    omega

theorem lt_two_pow_size (n : Nat) : n < 2 ^ (7 * size n) :=
  (size_le_iff (size_pos n)).mp (Nat.le_refl _)

theorem size_mono {a b : Nat} (order : a ≤ b) : size a ≤ size b :=
  (size_le_iff (size_pos b)).mpr (Nat.lt_of_le_of_lt order (lt_two_pow_size b))

theorem size_of_lt {n : Nat} (small : n < 128) : size n = 1 := by
  have upper : size n ≤ 1 := (size_le_iff Nat.one_pos).mpr small
  have lower := size_pos n
  omega

private theorem two_pow_size_ge (n : Nat) : 128 ≤ 2 ^ (7 * size n) := by
  have lower := size_pos n
  calc 128 = 2 ^ 7 := rfl
    _ ≤ 2 ^ (7 * size n) := Nat.pow_le_pow_right (by omega) (by omega)

/-- Two lengths add to a number no longer than the two numbers together. -/
theorem size_add_le (a b : Nat) : size (a + b) ≤ size a + size b := by
  have left := lt_two_pow_size a
  have right := lt_two_pow_size b
  have bigLeft := two_pow_size_ge a
  have bigRight := two_pow_size_ge b
  refine (size_le_iff (Nat.add_pos_left (size_pos a) _)).mpr ?_
  rw [Nat.mul_add, Nat.pow_add]
  generalize 2 ^ (7 * size a) = x at *
  generalize 2 ^ (7 * size b) = y at *
  have product : x + y ≤ x * y := by
    have first : x * 2 ≤ x * y := Nat.mul_le_mul_left x (by omega)
    have second : 2 * y ≤ x * y := Nat.mul_le_mul_right y (by omega)
    omega
  omega

theorem size_group {low : Nat} (small : low < 128) (n : Nat) :
    size (low + 128 * n) ≤ size n + 1 := by
  refine (size_le_iff (Nat.add_pos_right _ Nat.one_pos)).mpr ?_
  have bound := lt_two_pow_size n
  rw [Nat.mul_add, Nat.pow_add]
  generalize 2 ^ (7 * size n) = x at *
  omega

/-- Each byte carries seven bits. -/
theorem size_div {n : Nat} (large : 128 ≤ n) : size n = size (n / 128) + 1 := by
  apply Nat.le_antisymm
  · have whole : n % 128 + 128 * (n / 128) = n := Nat.mod_add_div n 128
    have step := size_group (Nat.mod_lt n (by omega : 0 < 128)) (n / 128)
    rwa [whole] at step
  · have lower : 1 < size n := by
      by_contra small
      have upper := (size_le_iff Nat.one_pos).mp (Nat.le_of_not_lt small)
      omega
    have shorter : size (n / 128) ≤ size n - 1 := by
      refine (size_le_iff (by omega)).mpr ?_
      have bound := lt_two_pow_size n
      have split : 7 * size n = 7 * (size n - 1) + 7 := by omega
      rw [split, Nat.pow_add] at bound
      exact (Nat.div_lt_iff_lt_mul (by omega)).mpr bound
    omega

/-! ## Reading -/

private theorem readUpTo_size (bytes : Nat) (input rest : List UInt8) (n : Nat)
    (success : readUpTo bytes input = some (n, rest)) : size n + rest.length ≤ input.length := by
  induction bytes generalizing input n with
  | zero => cases success
  | succ bytes ih =>
    cases input with
    | nil => cases success
    | cons b tail =>
      simp only [readUpTo] at success
      split at success
      · rename_i last
        cases success
        rw [UInt8.lt_iff_toNat_lt] at last
        rw [size_of_lt last, List.length_cons]
        omega
      · simp only [Option.map_eq_some_iff, Prod.mk.injEq] at success
        obtain ⟨⟨high, later⟩, inner, rfl, rfl⟩ := success
        have bound := ih tail high inner
        have byte : b.toNat < 256 := b.toNat_lt
        have low : b.toNat - 128 < 128 := by omega
        have step := size_group low high
        simp only [List.length_cons] at bound ⊢
        omega

/-- What is read is at least as long as the shortest form of its value. -/
theorem read_size {input rest : List UInt8} {n : Nat} (success : read input = some (n, rest)) :
    size n + rest.length ≤ input.length :=
  readUpTo_size maxBytes input rest n success

/-- The low group with its continuation bit, as a byte. -/
private theorem continued_byte (n : Nat) :
    (UInt8.ofNat (n % 128 + 128)).toNat = n % 128 + 128 ∧ ¬ UInt8.ofNat (n % 128 + 128) < 128 := by
  have byte : (UInt8.ofNat (n % 128 + 128)).toNat = n % 128 + 128 := by
    rw [UInt8.toNat_ofNat']
    omega
  refine ⟨byte, ?_⟩
  rw [UInt8.lt_iff_toNat_lt, byte]
  exact Nat.not_lt.mpr (Nat.le_add_left 128 _)

private theorem last_byte {n : Nat} (small : n < 128) :
    (UInt8.ofNat n).toNat = n ∧ UInt8.ofNat n < 128 := by
  have byte : (UInt8.ofNat n).toNat = n := by
    rw [UInt8.toNat_ofNat']
    omega
  refine ⟨byte, ?_⟩
  rw [UInt8.lt_iff_toNat_lt, byte]
  exact small

/-- Reading inverts writing within the number of bytes allowed. -/
private theorem readUpTo_encodeUpTo (bytes n : Nat) (fits : n < 128 ^ (bytes + 1))
    (rest : List UInt8) :
    readUpTo (bytes + 1) (encodeUpTo (bytes + 1) n ++ rest) = some (n, rest) := by
  induction bytes generalizing n with
  | zero =>
    have small : n < 128 := fits
    obtain ⟨byte, last⟩ := last_byte small
    rw [encodeUpTo, if_pos small, List.singleton_append, readUpTo, if_pos last, byte]
  | succ bytes ih =>
    by_cases small : n < 128
    · obtain ⟨byte, last⟩ := last_byte small
      rw [encodeUpTo, if_pos small, List.singleton_append, readUpTo, if_pos last, byte]
    · obtain ⟨byte, more⟩ := continued_byte n
      have high : n / 128 < 128 ^ (bytes + 1) := by
        rw [Nat.pow_succ] at fits
        exact (Nat.div_lt_iff_lt_mul (by omega)).mpr fits
      rw [encodeUpTo, if_neg small, List.cons_append, readUpTo, if_neg more, ih _ high, byte]
      simp only [Option.map_some, Nat.add_sub_cancel, Nat.mod_add_div]

/-- Reading undoes writing, whatever follows. -/
theorem read_encode {n : Nat} (fits : n < 2 ^ 64) (rest : List UInt8) :
    read (encode n ++ rest) = some (n, rest) :=
  readUpTo_encodeUpTo 9 n (Nat.lt_trans fits (by decide)) rest

private theorem length_encodeUpTo (bytes n : Nat) (fits : n < 128 ^ (bytes + 1)) :
    (encodeUpTo (bytes + 1) n).length = size n := by
  induction bytes generalizing n with
  | zero =>
    have small : n < 128 := fits
    rw [encodeUpTo, if_pos small, size_of_lt small]
    rfl
  | succ bytes ih =>
    by_cases small : n < 128
    · rw [encodeUpTo, if_pos small, size_of_lt small]
      rfl
    · have high : n / 128 < 128 ^ (bytes + 1) := by
        rw [Nat.pow_succ] at fits
        exact (Nat.div_lt_iff_lt_mul (by omega)).mpr fits
      rw [encodeUpTo, if_neg small, List.length_cons, ih _ high, size_div (Nat.le_of_not_lt small)]

/-- The encoding has the length computed beforehand. -/
theorem length_encode {n : Nat} (fits : n < 2 ^ 64) : (encode n).length = size n :=
  length_encodeUpTo 9 n (Nat.lt_trans fits (by decide))

end PipeForge.Library.Varint
