import Mathlib.Algebra.Order.Ring.Int

/-!
Machine words read as numbers. A conversion between the signed and the unsigned type of
one width keeps the bits, so it keeps the value up to the modulus, and the value itself
where that is in the range of both. A sum is exact while it stays in range.
-/

namespace Iperf.MachineWords

theorem unsigned_toInt (value : Int64) : (value.toUInt64.toNat : Int) = value.toInt % 2 ^ 64 := by
  have read : value.toInt = ((value.toUInt64.toNat : Nat) : Int).bmod (2 ^ 64) :=
    BitVec.toInt_eq_toNat_bmod _
  have small := value.toUInt64.toNat_lt
  rw [read, Int.bmod_def]
  omega

theorem unsigned_toNat {value : Int64} (nonneg : 0 ≤ value.toInt) :
    value.toUInt64.toNat = value.toInt.toNat := by
  have converted := unsigned_toInt value
  have high := value.toInt_lt
  omega

theorem unsigned32_toNat {value : Int32} (nonneg : 0 ≤ value.toInt) :
    value.toUInt32.toNat = value.toInt.toNat := by
  have read : value.toInt = ((value.toUInt32.toNat : Nat) : Int).bmod (2 ^ 32) :=
    BitVec.toInt_eq_toNat_bmod _
  have small := value.toUInt32.toNat_lt
  have high := value.toInt_lt
  rw [Int.bmod_def] at read
  omega

theorem signed_toInt (word : UInt64) :
    word.toInt64.toInt = ((word.toNat : Nat) : Int).bmod (2 ^ 64) :=
  BitVec.toInt_eq_toNat_bmod _

theorem ofInt_natCast (value : Nat) : UInt64.ofInt value = UInt64.ofNat value := by
  rw [← UInt64.toNat_inj]
  simp only [UInt64.ofInt, UInt64.toNat_ofNat']
  omega

/-- A signed word is widened before it loses its sign. -/
theorem widened_toInt (value : Int32) :
    (value.toInt64.toUInt64.toNat : Int) = value.toInt % 2 ^ 64 := by
  rw [unsigned_toInt, Int32.toInt_toInt64]

theorem widened_toNat {value : Int32} (nonneg : 0 ≤ value.toInt) :
    value.toInt64.toUInt64.toNat = value.toInt.toNat := by
  apply (unsigned_toNat _).trans
  · rw [Int32.toInt_toInt64]
  · rw [Int32.toInt_toInt64]
    exact nonneg

/-- An `int` that is passed as a `size_t`. -/
def size_of_int (value : Int32) : Nat := value.toInt64.toUInt64.toNat

theorem size_of_nonneg {value : Int32} (nonneg : 0 ≤ value.toInt) :
    size_of_int value = value.toInt.toNat :=
  widened_toNat nonneg

theorem add_toInt {first second : Int32} (low : -2 ^ 31 ≤ first.toInt + second.toInt)
    (high : first.toInt + second.toInt < 2 ^ 31) :
    (first + second).toInt = first.toInt + second.toInt := by
  rw [Int32.toInt_add, Int.bmod_eq_of_le]
  · omega
  · omega

theorem sub_toInt {first second : Int32} (low : -2 ^ 31 ≤ first.toInt - second.toInt)
    (high : first.toInt - second.toInt < 2 ^ 31) :
    (first - second).toInt = first.toInt - second.toInt := by
  rw [Int32.toInt_sub, Int.bmod_eq_of_le]
  · omega
  · omega

end Iperf.MachineWords
