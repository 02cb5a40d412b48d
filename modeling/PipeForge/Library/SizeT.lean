import Mathlib

/-!
# Unsigned machine arithmetic

`std::size_t` on the 64-bit targets, as naturals with every result reduced
modulo `2 ^ 64`. Later proofs use three facts: a sum that fits and a difference
that does not go below zero are the natural ones, and a 64-bit counter below its
maximum increases.
-/

namespace PipeForge.Library.SizeT

def modulus : Nat := 2 ^ 64

def add (a b : Nat) : Nat := (a + b) % modulus

def sub (a b : Nat) : Nat := (a + modulus - b) % modulus

theorem add_eq {a b : Nat} (fits : a + b < modulus) : add a b = a + b :=
  Nat.mod_eq_of_lt fits

/-- Subtraction of no more than there is does not wrap. -/
theorem sub_eq {a b : Nat} (order : b ≤ a) (fits : a < modulus) : sub a b = a - b := by
  have shifted : a + modulus - b = (a - b) + modulus := by omega
  rw [sub, shifted, Nat.add_mod_right]
  exact Nat.mod_eq_of_lt (by omega)

theorem lt_succ {n : UInt64} (below : n ≠ 18446744073709551615) : n < n + 1 := by
  have bound : n.toNat < 2 ^ 64 := n.toNat_lt
  have other : n.toNat ≠ 2 ^ 64 - 1 := fun same => below (UInt64.toNat_inj.mp same)
  have value : (n + 1).toNat = n.toNat + 1 := by
    rw [UInt64.toNat_add]
    exact Nat.mod_eq_of_lt (by simp only [UInt64.toNat_one]; omega)
  rw [UInt64.lt_iff_toNat_lt, value]
  exact Nat.lt_succ_self _

end PipeForge.Library.SizeT
