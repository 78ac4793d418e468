import Iperf.FixedPoint
import Mathlib.Data.Int.Log

/-!
Binary floating point numbers as rationals: integers of a fixed count of bits times a
power of two that is not too small. There is no largest power here. A rational is
rounded to a nearest number, of two nearest ones to the one with the even integer.
-/

namespace Iperf.BinaryFloat

open FixedPoint

structure Format where
  precision : Nat
  emin : Int
  positive : 0 < precision

/-- The format of a `double`. -/
def binary64 : Format := ⟨53, -1074, by decide⟩

variable (format : Format)

def Representable (value : ℚ) : Prop :=
  ∃ m e : Int, |m| < 2 ^ format.precision ∧ format.emin ≤ e ∧ value = m * 2 ^ e

/-- The exponent of a unit in the last place. -/
def ulp (value : ℚ) : Int := max (Int.log 2 |value| + 1 - format.precision) format.emin

def nearest (value : ℚ) : ℚ :=
  (if value < 0 then -1 else 1) *
    (half_even (|value| / 2 ^ ulp format value) * 2 ^ ulp format value)

section Integers

theorem nearest_integer {value : ℚ} (nonneg : 0 ≤ value) (other : Int) :
    |(half_even value : ℚ) - value| ≤ |(other : ℚ) - value| := by
  have error := half_even_nearest value nonneg
  by_cases same : other = half_even value
  · rw [same]
    simp
  · have apart : (1 : ℚ) ≤ |(other : ℚ) - half_even value| := by
      have : (1 : Int) ≤ |other - half_even value| := Int.one_le_abs (sub_ne_zero.mpr same)
      exact_mod_cast this
    have through : |(other : ℚ) - half_even value| ≤
        |(other : ℚ) - value| + |(half_even value : ℚ) - value| := by
      rw [abs_sub_comm (half_even value : ℚ) value]
      exact abs_sub_le _ _ _
    linarith

/-- The same on a grid of multiples of a unit. -/
theorem nearest_multiple {value unit : ℚ} (nonneg : 0 ≤ value) (positive : 0 < unit)
    (other : Int) :
    |half_even (value / unit) * unit - value| ≤ |other * unit - value| := by
  have scaled : ∀ count : ℚ, |count * unit - value| = |count - value / unit| * unit := by
    intro count
    have split : count * unit - value = (count - value / unit) * unit := by field_simp
    rw [split, abs_mul, abs_of_pos positive]
  rw [scaled, scaled]
  exact mul_le_mul_of_nonneg_right (nearest_integer (by positivity) other) positive.le

end Integers

section Grid
variable {format} {value other : ℚ}

theorem two_zpow_pos (e : Int) : (0 : ℚ) < 2 ^ e := zpow_pos (by norm_num) e

theorem representable_neg (exact_ : Representable format value) :
    Representable format (-value) := by
  obtain ⟨m, e, bits, least, rfl⟩ := exact_
  exact ⟨-m, e, by rwa [abs_neg], least, by push_cast; ring⟩

theorem representable_zero : Representable format 0 :=
  ⟨0, format.emin, by simp, le_rfl, by simp⟩

theorem representable_int (least : format.emin ≤ 0) {count : Int}
    (bits : |count| ≤ 2 ^ format.precision) : Representable format count := by
  rcases lt_or_eq_of_le bits with fewer | full
  · exact ⟨count, 0, fewer, least, by simp⟩
  · -- the power itself is one, with a higher exponent
    have one : |count.sign| < 2 ^ format.precision := by
      have large : (2 : Int) ^ 1 ≤ 2 ^ format.precision :=
        pow_le_pow_right₀ (by norm_num) format.positive
      have : |count.sign| ≤ 1 := by rcases Int.sign_trichotomy count with h | h | h <;> simp [h]
      linarith
    refine ⟨count.sign, format.precision, one, by omega, ?_⟩
    have shape : count = count.sign * 2 ^ format.precision := by
      rw [← full, Int.sign_mul_abs]
    rw [zpow_natCast]
    exact_mod_cast shape

theorem ulp_neg (value : ℚ) : ulp format (-value) = ulp format value := by
  simp [ulp]

theorem emin_le_ulp (value : ℚ) : format.emin ≤ ulp format value := le_max_right _ _

theorem below_ulp (value : ℚ) :
    |value| < 2 ^ format.precision * 2 ^ ulp format value := by
  have bound := Int.lt_zpow_succ_log_self (R := ℚ) (b := 2) (by decide) |value|
  have power : Int.log 2 |value| + 1 ≤ format.precision + ulp format value := by
    have : Int.log 2 |value| + 1 - format.precision ≤ ulp format value := le_max_left _ _
    omega
  rw [← zpow_natCast, ← zpow_add₀ (by norm_num)]
  exact lt_of_lt_of_le (by exact_mod_cast bound) (zpow_le_zpow_right₀ (by norm_num) power)

/-- A unit above the least one is that of a number with all its bits. -/
theorem above_ulp (nonzero : value ≠ 0) (larger : format.emin < ulp format value) :
    2 ^ (format.precision - 1) * 2 ^ ulp format value ≤ |value| := by
  have bound := Int.zpow_log_le_self (R := ℚ) (b := 2) (by decide) (abs_pos.mpr nonzero)
  have unit : ulp format value = Int.log 2 |value| + 1 - format.precision := by
    unfold ulp at larger ⊢
    omega
  have power : ((format.precision - 1 : Nat) : Int) + ulp format value = Int.log 2 |value| := by
    have := format.positive
    omega
  rw [← zpow_natCast, ← zpow_add₀ (by norm_num), power]
  exact_mod_cast bound

end Grid

section Nearest
variable {format} {value other : ℚ}

theorem nearest_zero : nearest format 0 = 0 := by
  have none : half_even 0 = 0 := by simp [half_even]
  simp [nearest, none]

theorem nearest_neg (value : ℚ) : nearest format (-value) = -nearest format value := by
  rcases lt_trichotomy value 0 with below | rfl | above
  · simp [nearest, ulp_neg, below, not_lt.mpr below.le]
  · simp [nearest_zero]
  · simp [nearest, ulp_neg, above, not_lt.mpr above.le]

theorem nearest_nonneg (nonneg : 0 ≤ value) :
    nearest format value =
      half_even (value / 2 ^ ulp format value) * 2 ^ ulp format value := by
  simp [nearest, abs_of_nonneg nonneg, not_lt.mpr nonneg]

theorem representable_nearest_pos (positive : 0 < value) :
    Representable format (nearest format value) := by
  have unit := two_zpow_pos (ulp format value)
  rw [nearest_nonneg positive.le]
  have few : half_even (value / 2 ^ ulp format value) ≤ 2 ^ format.precision := by
    have below : value / 2 ^ ulp format value < 2 ^ format.precision := by
      rw [div_lt_iff₀ unit]
      simpa [abs_of_pos positive] using @below_ulp format value
    have rounded : half_even (value / 2 ^ ulp format value) < 2 ^ format.precision + 1 :=
      half_even_nearest.lt (by positivity) (by push_cast; linarith)
    omega
  have exact_ : Representable ⟨format.precision, 0, format.positive⟩
      (((half_even (value / 2 ^ ulp format value) : Nat) : Int) : ℚ) :=
    @representable_int ⟨format.precision, 0, format.positive⟩ le_rfl _
      (by rw [abs_of_nonneg (by positivity)]; exact_mod_cast few)
  obtain ⟨m, e, bits, nonneg, shape⟩ := exact_
  refine ⟨m, e + ulp format value, bits, ?_, ?_⟩
  · have := @emin_le_ulp format value
    simp only at nonneg
    omega
  · rw [zpow_add₀ (by norm_num), ← mul_assoc, ← shape]
    simp

theorem representable_nearest (value : ℚ) : Representable format (nearest format value) := by
  rcases lt_trichotomy value 0 with below | rfl | above
  · have opposite := @representable_nearest_pos format _ (neg_pos.mpr below)
    rw [nearest_neg] at opposite
    simpa using representable_neg opposite
  · rw [nearest_zero]
    exact representable_zero
  · exact representable_nearest_pos above

theorem nearest_least_pos (positive : 0 < value) (exact_ : Representable format other) :
    |nearest format value - value| ≤ |other - value| := by
  obtain ⟨m, e, bits, least, rfl⟩ := exact_
  have unit := two_zpow_pos (ulp format value)
  have grid := nearest_multiple positive.le unit
  rw [nearest_nonneg positive.le]
  by_cases coarse : ulp format value ≤ e
  · -- the other number lies on the grid itself
    obtain ⟨k, rfl⟩ := Int.le.dest coarse
    have shape : (m : ℚ) * 2 ^ (ulp format value + k) =
        ((m * 2 ^ k : Int) : ℚ) * 2 ^ ulp format value := by
      rw [zpow_add₀ (by norm_num), zpow_natCast]
      push_cast
      ring
    rw [shape]
    exact grid _
  · -- it has fewer bits left than the value, and a point of the grid is in between
    have between := above_ulp positive.ne' (lt_of_le_of_lt least (not_le.mp coarse))
    rw [abs_of_pos positive] at between
    have small : (m : ℚ) * 2 ^ e ≤ 2 ^ (format.precision - 1) * 2 ^ ulp format value := by
      have bound : (m : ℚ) ≤ 2 ^ format.precision := by
        exact_mod_cast (le_abs_self m).trans bits.le
      have step : (2 : ℚ) ^ format.precision * 2 ^ e ≤
          2 ^ (format.precision - 1) * 2 ^ ulp format value := by
        rw [← zpow_natCast, ← zpow_natCast, ← zpow_add₀ (by norm_num),
          ← zpow_add₀ (by norm_num)]
        apply zpow_le_zpow_right₀ (by norm_num)
        have := format.positive
        omega
      exact (mul_le_mul_of_nonneg_right bound (two_zpow_pos e).le).trans step
    have corner := grid (2 ^ (format.precision - 1))
    push_cast at corner
    have left : |(2 : ℚ) ^ (format.precision - 1) * 2 ^ ulp format value - value| =
        value - 2 ^ (format.precision - 1) * 2 ^ ulp format value := by
      rw [abs_of_nonpos (by linarith)]
      ring
    have right : |(m : ℚ) * 2 ^ e - value| = value - m * 2 ^ e := by
      rw [abs_of_nonpos (by linarith)]
      ring
    rw [left] at corner
    rw [right]
    linarith

/-- No number of the format is nearer. -/
theorem nearest_least (value : ℚ) (exact_ : Representable format other) :
    |nearest format value - value| ≤ |other - value| := by
  rcases lt_trichotomy value 0 with below | rfl | above
  · have opposite := nearest_least_pos (neg_pos.mpr below) (representable_neg exact_)
    rw [nearest_neg] at opposite
    have first : |-nearest format value - -value| = |nearest format value - value| := by
      rw [← abs_neg]
      ring_nf
    have second : |-other - -value| = |other - value| := by
      rw [← abs_neg]
      ring_nf
    rwa [first, second] at opposite
  · simp [nearest_zero]
  · exact nearest_least_pos above exact_

theorem nearest_self (exact_ : Representable format value) : nearest format value = value := by
  have error := nearest_least value exact_
  rw [sub_self, abs_zero] at error
  exact sub_eq_zero.mp (abs_nonpos_iff.mp error)

end Nearest

section Order
variable {format} {value other : ℚ}

/-- Rounding does not pass a number of the format. -/
theorem nearest_le (exact_ : Representable format other) (below : value ≤ other) :
    nearest format value ≤ other := by
  have error := nearest_least value exact_
  rw [abs_of_nonneg (sub_nonneg.mpr below)] at error
  have := le_abs_self (nearest format value - value)
  linarith

theorem le_nearest (exact_ : Representable format other) (above : other ≤ value) :
    other ≤ nearest format value := by
  have error := nearest_least value exact_
  rw [abs_of_nonpos (sub_nonpos.mpr above)] at error
  have := neg_abs_le (nearest format value - value)
  linarith

/-- Half a unit below an even multiple of the unit is rounded up to it. -/
theorem nearest_lt (nonneg : 0 ≤ value) {count : Nat} (even : count % 2 = 0) :
    nearest format value < count * 2 ^ ulp format value ↔
      value < (count - 1 / 2) * 2 ^ ulp format value := by
  have unit := two_zpow_pos (ulp format value)
  rw [nearest_nonneg nonneg, mul_lt_mul_iff_left₀ unit, Nat.cast_lt,
    half_even_lt_iff (by positivity) even, div_lt_iff₀ unit]

theorem ulp_between {power : Int} (normal : format.emin ≤ power + 1 - format.precision)
    (least : 2 ^ power ≤ value) (most : value < 2 ^ (power + 1)) :
    ulp format value = power + 1 - format.precision := by
  have positive : 0 < value := lt_of_lt_of_le (two_zpow_pos power) least
  have low := (Int.zpow_le_iff_le_log (b := 2) (by decide) positive).mp (by exact_mod_cast least)
  have high := (Int.lt_zpow_iff_log_lt (b := 2) (by decide) positive).mp (by exact_mod_cast most)
  unfold ulp
  rw [abs_of_pos positive]
  omega

end Order

section Spacing
variable {format} {value other : ℚ}

/-- Two different numbers are at least a relative unit apart. -/
theorem gap (first : Representable format value) (second : Representable format other)
    (differs : value ≠ other) : |value| ≤ 2 ^ format.precision * |value - other| := by
  obtain ⟨m, e, bits, -, rfl⟩ := first
  obtain ⟨n, f, fewer, -, rfl⟩ := second
  have bound : |(m : ℚ)| ≤ 2 ^ format.precision - 1 := by
    have : |m| ≤ 2 ^ format.precision - 1 := by omega
    exact_mod_cast this
  have limit : |(n : ℚ)| ≤ 2 ^ format.precision - 1 := by
    have : |n| ≤ 2 ^ format.precision - 1 := by omega
    exact_mod_cast this
  -- both are multiples of the smaller of the two units
  have on_grid : ∀ (k l : Int) (g : Int), (k : ℚ) * 2 ^ g ≠ l * 2 ^ g →
      2 ^ g ≤ |(k : ℚ) * 2 ^ g - l * 2 ^ g| := by
    intro k l g apart
    have different : k ≠ l := fun same => apart (by rw [same])
    have one : (1 : ℚ) ≤ |(k : ℚ) - l| := by
      exact_mod_cast Int.one_le_abs (sub_ne_zero.mpr different)
    rw [← sub_mul, abs_mul, abs_of_pos (two_zpow_pos g)]
    nlinarith [two_zpow_pos g]
  rcases le_total e f with lower | lower
  · obtain ⟨k, rfl⟩ := Int.le.dest lower
    have shape : (n : ℚ) * 2 ^ (e + k) = ((n * 2 ^ k : Int) : ℚ) * 2 ^ e := by
      rw [zpow_add₀ (by norm_num), zpow_natCast]
      push_cast
      ring
    rw [shape] at differs ⊢
    have apart := on_grid _ _ e differs
    have size : |(m : ℚ) * 2 ^ e| ≤ 2 ^ format.precision * 2 ^ e := by
      rw [abs_mul, abs_of_pos (two_zpow_pos e)]
      exact mul_le_mul_of_nonneg_right (by linarith) (two_zpow_pos e).le
    exact size.trans (mul_le_mul_of_nonneg_left apart (by positivity))
  · obtain ⟨k, rfl⟩ := Int.le.dest lower
    have shape : (m : ℚ) * 2 ^ (f + k) = ((m * 2 ^ k : Int) : ℚ) * 2 ^ f := by
      rw [zpow_add₀ (by norm_num), zpow_natCast]
      push_cast
      ring
    rw [shape] at differs ⊢
    have apart := on_grid _ _ f differs
    have room := two_zpow_pos f
    set count : ℚ := ((m * 2 ^ k : Int) : ℚ)
    have size : |count * 2 ^ f| = |count| * 2 ^ f := by
      rw [abs_mul, abs_of_pos room]
    have reach : |(n : ℚ) * 2 ^ f| ≤ (2 ^ format.precision - 1) * 2 ^ f := by
      rw [abs_mul, abs_of_pos room]
      exact mul_le_mul_of_nonneg_right limit room.le
    have far : |count * 2 ^ f| - |(n : ℚ) * 2 ^ f| ≤ |count * 2 ^ f - n * 2 ^ f| :=
      abs_sub_abs_le_abs_sub _ _
    have power : (1 : ℚ) ≤ 2 ^ format.precision := one_le_pow₀ (by norm_num)
    -- a number beyond the other's reach is apart by what it is beyond it
    by_cases within : |count * 2 ^ f| ≤ 2 ^ format.precision * 2 ^ f
    · exact within.trans (mul_le_mul_of_nonneg_left apart (by positivity))
    · rw [not_le] at within
      nlinarith

/-- What is much nearer to a number than its neighbours are is rounded to it. -/
theorem nearest_of_close (exact_ : Representable format other)
    (close : 2 ^ (format.precision + 1) * |value - other| < |other|) :
    nearest format value = other := by
  by_contra differs
  have spacing := gap exact_ (@representable_nearest format value) (Ne.symm differs)
  have error := nearest_least value exact_
  have through : |other - nearest format value| ≤ 2 * |value - other| := by
    have := abs_sub_le other value (nearest format value)
    rw [abs_sub_comm other value] at this error
    rw [abs_sub_comm value (nearest format value)] at this
    linarith
  have power : (0 : ℚ) < 2 ^ format.precision := by positivity
  rw [pow_succ] at close
  nlinarith

/-- The difference of two numbers of a size is a number. -/
theorem representable_sub (first : Representable format value)
    (second : Representable format other) (near : |value - other| ≤ |value|)
    (too : |value - other| ≤ |other|) : Representable format (value - other) := by
  obtain ⟨m, e, bits, least, rfl⟩ := first
  obtain ⟨n, f, fewer, lowest, rfl⟩ := second
  have on_grid : ∀ k l g : Int, |(k : ℚ) * 2 ^ g| ≤ |(l : ℚ) * 2 ^ g| →
      |l| < 2 ^ format.precision → format.emin ≤ g →
      Representable format ((k : ℚ) * 2 ^ g) := by
    intro k l g size few low
    refine ⟨k, g, ?_, low, rfl⟩
    rw [abs_mul, abs_mul, abs_of_pos (two_zpow_pos g),
      mul_le_mul_iff_left₀ (two_zpow_pos g)] at size
    have : |k| ≤ |l| := by exact_mod_cast size
    omega
  rcases le_total e f with lower | lower
  · obtain ⟨k, rfl⟩ := Int.le.dest lower
    have shape : (m : ℚ) * 2 ^ e - n * 2 ^ (e + k) = ((m - n * 2 ^ k : Int) : ℚ) * 2 ^ e := by
      rw [zpow_add₀ (by norm_num), zpow_natCast]
      push_cast
      ring
    rw [shape] at near ⊢
    exact on_grid _ m e near bits least
  · obtain ⟨k, rfl⟩ := Int.le.dest lower
    have shape : (m : ℚ) * 2 ^ (f + k) - n * 2 ^ f = ((m * 2 ^ k - n : Int) : ℚ) * 2 ^ f := by
      rw [zpow_add₀ (by norm_num), zpow_natCast]
      push_cast
      ring
    rw [shape] at too ⊢
    exact on_grid _ n f too fewer lowest

end Spacing

end Iperf.BinaryFloat
