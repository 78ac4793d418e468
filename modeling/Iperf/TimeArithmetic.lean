import Iperf.Time
import Mathlib.Data.Fintype.Basic

/-!
`iperf_time.c` as arithmetic on whole microseconds. A normalised time is a number
below 2^32 seconds of microseconds, and the comparison, the sum, the difference and
the conversion are those of the number.
-/

namespace Iperf.TimeArithmetic

open Time

section Functions

/-- The product and the sum of the source are `long long`; both stay below 2^63. -/
def iperf_time_in_usecs_word (time : iperf_time) : UInt64 :=
  time.secs.toUInt64 * 1000000 + time.usecs.toUInt64

end Functions

section Value

/-- What a time stands for. -/
def val (time : iperf_time) : Int := time.secs.toNat * 1000000 + time.usecs.toNat

/-- The seconds that the sum carries still fit. -/
def NoWrap (time : iperf_time) (usecs : UInt64) : Prop :=
  time.secs.toNat + (time.usecs.toNat + usecs.toNat) / 1000000 < 2 ^ 32

instance (time : iperf_time) (usecs : UInt64) : Decidable (NoWrap time usecs) :=
  inferInstanceAs (Decidable (_ < _))

theorem micros_val (time : iperf_time) : micros time = val time := by
  unfold micros iperf_time_in_usecs val
  omega

theorem val_nonneg (time : iperf_time) : 0 ≤ val time := by
  unfold val
  omega

theorem val_lt {time : iperf_time} (normal : Proper time) : val time < 2 ^ 32 * 1000000 := by
  have seconds := time.secs.toNat_lt
  unfold Proper at normal
  unfold val
  omega

/-- No two normalised times stand for one number. -/
theorem val_injective {a b : iperf_time} (normal_a : Proper a) (normal_b : Proper b)
    (same : val a = val b) : a = b := by
  unfold Proper at normal_a normal_b
  unfold val at same
  have seconds : a.secs = b.secs := UInt32.toNat_inj.mp (by omega)
  have micros : a.usecs = b.usecs := UInt32.toNat_inj.mp (by omega)
  cases a
  cases b
  cases seconds
  cases micros
  rfl

theorem no_wrap_iff {time : iperf_time} {usecs : UInt64} :
    NoWrap time usecs ↔ val time + usecs.toNat < 2 ^ 32 * 1000000 := by
  unfold NoWrap val
  omega

/-- Each number below the end of the clock is the value of a normalised time. -/
def of_val (n : Fin (2 ^ 32 * 1000000)) : iperf_time :=
  { secs := .ofNat (n / 1000000), usecs := .ofNat (n % 1000000) }

theorem of_val_proper (n : Fin (2 ^ 32 * 1000000)) : Proper (of_val n) := by
  unfold Proper of_val
  rw [UInt32.toNat_ofNat']
  omega

theorem val_of_val (n : Fin (2 ^ 32 * 1000000)) : val (of_val n) = n := by
  have below := n.isLt
  unfold val of_val
  simp only [UInt32.toNat_ofNat']
  omega

/-- The normalised times, as the numbers below the end of the clock. -/
def clock : { time : iperf_time // Proper time } ≃ Fin (2 ^ 32 * 1000000) where
  toFun time := ⟨(val time).toNat, by have := val_lt time.2; omega⟩
  invFun n := ⟨of_val n, of_val_proper n⟩
  left_inv time := by
    apply Subtype.ext
    apply val_injective (of_val_proper _) time.2
    rw [val_of_val]
    exact Int.toNat_of_nonneg (val_nonneg _)
  right_inv n := by
    apply Fin.ext
    dsimp only
    rw [val_of_val]
    exact Int.toNat_natCast _

end Value

section Operations

/-- The seconds decide, and where they are equal the microseconds. -/
theorem compare_sign {a b : iperf_time} (normal_a : Proper a) (normal_b : Proper b) :
    iperf_time_compare a b = (val a - val b).sign := by
  unfold Proper at normal_a normal_b
  have low : val a < val b → iperf_time_compare a b = -1 := by
    intro earlier
    unfold val at earlier
    simp only [iperf_time_compare, UInt32.lt_iff_toNat_lt, gt_iff_lt]
    repeat' split
    all_goals omega
  have high : val b < val a → iperf_time_compare a b = 1 := by
    intro later
    unfold val at later
    simp only [iperf_time_compare, UInt32.lt_iff_toNat_lt, gt_iff_lt]
    repeat' split
    all_goals omega
  rcases lt_trichotomy (val a) (val b) with earlier | same | later
  · rw [low earlier, Int.sign_eq_neg_one_of_neg (by omega)]
  · rw [val_injective normal_a normal_b same, Int.sub_self]
    simp [iperf_time_compare]
  · rw [high later, Int.sign_eq_one_of_pos (by omega)]

theorem add_usecs_val {time : iperf_time} {usecs : UInt64} (fits : NoWrap time usecs) :
    val (iperf_time_add_usecs time usecs) = val time + usecs.toNat := by
  rw [no_wrap_iff] at fits
  rw [← micros_val, ← micros_val] at *
  exact add_usecs_exact (by omega)

/-- The borrow leaves a normalised time. -/
theorem subtract_proper {later earlier : iperf_time} (normal : Proper later)
    (normal_earlier : Proper earlier) : Proper (subtract later earlier) := by
  have million : (1000000 : UInt32).toNat = 1000000 := rfl
  unfold Proper at *
  unfold subtract
  split
  · rename_i borrow
    rw [UInt32.lt_iff_toNat_lt] at borrow
    simp only [UInt32.toNat_sub, UInt32.toNat_add, million]
    omega
  · rename_i enough
    rw [UInt32.lt_iff_toNat_lt] at enough
    simp only [UInt32.toNat_sub]
    omega

theorem subtract_val {later earlier : iperf_time} (normal : Proper later)
    (normal_earlier : Proper earlier) (ordered : val earlier ≤ val later) :
    val (subtract later earlier) = val later - val earlier := by
  simp only [← micros_val] at *
  exact subtract_micros normal normal_earlier ordered

/-- Each branch of `iperf_time_diff` takes the earlier time from the later one. -/
theorem diff_val {a b : iperf_time} (normal_a : Proper a) (normal_b : Proper b) :
    Proper (iperf_time_diff a b).1 ∧ val (iperf_time_diff a b).1 = |val a - val b| ∧
      ((iperf_time_diff a b).2 = true ↔ val a ≤ val b) := by
  have sign := compare_sign normal_a normal_b
  unfold iperf_time_diff
  rcases lt_trichotomy (val a) (val b) with earlier | same | later
  · rw [Int.sign_eq_neg_one_of_neg (by omega)] at sign
    simp only [sign]
    refine ⟨subtract_proper normal_b normal_a, ?_, ?_⟩
    · rw [abs_of_neg (by omega), Int.neg_sub]
      exact subtract_val normal_b normal_a earlier.le
    · simpa using earlier.le
  · rw [same, Int.sub_self, Int.sign_zero] at sign
    simp only [sign, if_true, same, Int.sub_self, abs_zero]
    exact ⟨by decide, by decide, by simp⟩
  · rw [Int.sign_eq_one_of_pos (by omega)] at sign
    simp only [sign]
    refine ⟨subtract_proper normal_a normal_b, ?_, ?_⟩
    · rw [abs_of_pos (by omega)]
      exact subtract_val normal_a normal_b later.le
    · simpa using later

theorem in_usecs_val (time : iperf_time) :
    ((iperf_time_in_usecs_word time).toNat : Int) = val time := by
  have seconds := time.secs.toNat_lt
  have low := time.usecs.toNat_lt
  have million : (1000000 : UInt64).toNat = 1000000 := rfl
  unfold iperf_time_in_usecs_word val
  rw [UInt64.toNat_add, UInt64.toNat_mul, UInt32.toNat_toUInt64, UInt32.toNat_toUInt64, million]
  omega

/-- What was added is the difference. -/
theorem diff_add_usecs {time : iperf_time} {usecs : UInt64} (normal : Proper time)
    (fits : NoWrap time usecs) :
    val (iperf_time_diff (iperf_time_add_usecs time usecs) time).1 = usecs.toNat := by
  rw [(diff_val (add_usecs_proper time usecs) normal).2.1, add_usecs_val fits,
    add_sub_cancel_left]
  exact abs_of_nonneg (Int.natCast_nonneg _)

/-- The functions of `iperf_time.c` do to a time what they say of its value. -/
theorem time_arithmetic (a b : iperf_time) (usecs : UInt64) (normal_a : Proper a)
    (normal_b : Proper b) (fits : NoWrap a usecs) :
    iperf_time_compare a b = (val a - val b).sign ∧
      (Proper (iperf_time_add_usecs a usecs) ∧
        val (iperf_time_add_usecs a usecs) = val a + usecs.toNat) ∧
      (Proper (iperf_time_diff a b).1 ∧ val (iperf_time_diff a b).1 = |val a - val b| ∧
        ((iperf_time_diff a b).2 = true ↔ val a ≤ val b)) ∧
      (iperf_time_in_usecs_word a).toNat = val a ∧
      (Proper (iperf_time_diff (iperf_time_add_usecs a usecs) a).1 ∧
        val (iperf_time_diff (iperf_time_add_usecs a usecs) a).1 = usecs.toNat) := by
  have later := add_usecs_proper a usecs
  refine ⟨compare_sign normal_a normal_b, ⟨later, add_usecs_val fits⟩, diff_val normal_a normal_b,
    in_usecs_val a, (diff_val later normal_a).1, diff_add_usecs normal_a fits⟩

/-- A borrow in the difference and a carry in the sum. -/
theorem time_arithmetic_borrow :
    iperf_time_compare ⟨1, 999999⟩ ⟨2, 0⟩ = -1 ∧
      val (iperf_time_add_usecs ⟨1, 999999⟩ 3) = 2000002 ∧
      iperf_time_diff ⟨1, 999999⟩ ⟨2, 0⟩ = (⟨0, 1⟩, true) := by
  obtain ⟨order, ⟨_, sum⟩, ⟨normal, apart, past⟩, _⟩ :=
    time_arithmetic ⟨1, 999999⟩ ⟨2, 0⟩ 3 (by decide) (by decide) (by decide)
  refine ⟨order.trans (by decide), sum.trans (by decide), Prod.ext ?_ (past.mpr (by decide))⟩
  exact val_injective normal (by decide) (apart.trans (by decide))

end Operations

end Iperf.TimeArithmetic
