import Mathlib.Data.Rat.Defs
import Mathlib.Tactic.Linarith

/-!
`iperf_time.c`: time stamps with second and microsecond words. Every word has
the width of the source, so sums wrap exactly where the C code wraps.
-/

namespace Iperf.Time

structure iperf_time where
  secs : UInt32
  usecs : UInt32
  deriving DecidableEq, Repr

/-- `total_usecs` is a 64-bit sum; the carry is truncated back into `secs`. -/
def iperf_time_add_usecs (time1 : iperf_time) (usecs : UInt64) : iperf_time :=
  let total_usecs := time1.usecs.toUInt64 + usecs
  { secs := (time1.secs.toUInt64 + total_usecs / 1000000).toUInt32
    usecs := (total_usecs % 1000000).toUInt32 }

/-- The `double` of the source, taken as the exact rational. -/
def iperf_time_in_secs (time : iperf_time) : ℚ :=
  (time.secs.toNat : ℚ) + (time.usecs.toNat : ℚ) / 1000000

def iperf_time_compare (time1 time2 : iperf_time) : Int :=
  if time1.secs < time2.secs then -1
  else if time1.secs > time2.secs then 1
  else if time1.usecs < time2.usecs then -1
  else if time1.usecs > time2.usecs then 1
  else 0

/-- `later - earlier`, borrowing one second when the microseconds do not suffice. -/
def subtract (later earlier : iperf_time) : iperf_time :=
  if later.usecs < earlier.usecs then
    { secs := later.secs - earlier.secs - 1
      usecs := later.usecs + 1000000 - earlier.usecs }
  else
    { secs := later.secs - earlier.secs
      usecs := later.usecs - earlier.usecs }

/-- The absolute difference, and `true` when `time1` is not later than `time2`. -/
def iperf_time_diff (time1 time2 : iperf_time) : iperf_time × Bool :=
  if iperf_time_compare time1 time2 = 0 then (⟨0, 0⟩, true)
  else if iperf_time_compare time1 time2 = 1 then (subtract time1 time2, false)
  else (subtract time2 time1, true)

/-- The order that `iperf_time_compare` decides: seconds first, then microseconds. -/
def key (time : iperf_time) : Nat := time.secs.toNat * 2 ^ 32 + time.usecs.toNat

theorem compare_key (time1 time2 : iperf_time) :
    iperf_time_compare time1 time2 =
      if key time1 < key time2 then -1 else if key time2 < key time1 then 1 else 0 := by
  have low1 := time1.usecs.toNat_lt
  have low2 := time2.usecs.toNat_lt
  simp only [iperf_time_compare, key, UInt32.lt_iff_toNat_lt, gt_iff_lt]
  repeat' split
  all_goals omega

theorem compare_neg_iff (time1 time2 : iperf_time) :
    iperf_time_compare time1 time2 < 0 ↔ key time1 < key time2 := by
  rw [compare_key]
  split_ifs <;> omega

theorem compare_pos_iff (time1 time2 : iperf_time) :
    iperf_time_compare time1 time2 > 0 ↔ key time2 < key time1 := by
  rw [compare_key]
  split_ifs <;> omega

section Micros

def iperf_time_in_usecs (time : iperf_time) : Nat :=
  time.secs.toNat * 1000000 + time.usecs.toNat

/-- A time of a clock: the microseconds stay below a second. -/
def Proper (time : iperf_time) : Prop := time.usecs.toNat < 1000000

instance (time : iperf_time) : Decidable (Proper time) :=
  inferInstanceAs (Decidable (_ < _))

def micros (time : iperf_time) : Int := (iperf_time_in_usecs time : Nat)

theorem subtract_micros {later earlier : iperf_time} (normal : Proper later)
    (normal_earlier : Proper earlier) (ordered : micros earlier ≤ micros later) :
    micros (subtract later earlier) = micros later - micros earlier := by
  have seconds := later.secs.toNat_lt
  have million : (1000000 : UInt32).toNat = 1000000 := rfl
  have one : (1 : UInt32).toNat = 1 := rfl
  unfold Proper at normal normal_earlier
  unfold micros iperf_time_in_usecs at ordered ⊢
  unfold subtract
  split
  · rename_i borrow
    rw [UInt32.lt_iff_toNat_lt] at borrow
    simp only [UInt32.toNat_sub, UInt32.toNat_add, million, one]
    omega
  · rename_i enough
    rw [UInt32.lt_iff_toNat_lt] at enough
    simp only [UInt32.toNat_sub]
    omega

theorem compare_micros {time1 time2 : iperf_time} (normal : Proper time1)
    (normal_second : Proper time2) :
    (iperf_time_compare time1 time2 = 0 → micros time1 = micros time2) ∧
      (iperf_time_compare time1 time2 = 1 → micros time2 ≤ micros time1) ∧
      (iperf_time_compare time1 time2 = -1 → micros time1 ≤ micros time2) ∧
      (iperf_time_compare time1 time2 ∈ [-1, 0, 1]) := by
  unfold Proper at normal normal_second
  simp only [iperf_time_compare, micros, iperf_time_in_usecs, UInt32.lt_iff_toNat_lt, gt_iff_lt]
  repeat' split
  all_goals simp
  all_goals omega

/-- Whatever is added, the microseconds stay below a second. -/
theorem add_usecs_proper (time : iperf_time) (usecs : UInt64) :
    Proper (iperf_time_add_usecs time usecs) := by
  have below := Nat.mod_lt (time.usecs.toUInt64 + usecs).toNat (by decide : 0 < 1000000)
  have million : (1000000 : UInt64).toNat = 1000000 := rfl
  simp only [Proper, iperf_time_add_usecs, UInt64.toNat_toUInt32, UInt64.toNat_mod, million]
  omega

/-- The seconds wrap, and nothing else does as long as `total_usecs` does not. -/
theorem add_usecs_wraps {time : iperf_time} {usecs : UInt64}
    (fits : time.usecs.toNat + usecs.toNat < 2 ^ 64) :
    micros (iperf_time_add_usecs time usecs) =
      (micros time + usecs.toNat) % (2 ^ 32 * 1000000) := by
  have seconds := time.secs.toNat_lt
  have million : (1000000 : UInt64).toNat = 1000000 := rfl
  have total : (time.usecs.toUInt64 + usecs).toNat = time.usecs.toNat + usecs.toNat := by
    rw [UInt64.toNat_add, UInt32.toNat_toUInt64, Nat.mod_eq_of_lt fits]
  have carried : (time.secs.toUInt64 + (time.usecs.toUInt64 + usecs) / 1000000).toNat =
      time.secs.toNat + (time.usecs.toNat + usecs.toNat) / 1000000 := by
    rw [UInt64.toNat_add, UInt32.toNat_toUInt64, UInt64.toNat_div, total, million]
    omega
  simp only [micros, iperf_time_in_usecs, iperf_time_add_usecs, UInt64.toNat_toUInt32, carried,
    UInt64.toNat_mod, total, million]
  omega

/-- An addition that does not wrap the seconds is exact. -/
theorem add_usecs_exact {time : iperf_time} {usecs : UInt64}
    (room : micros time + usecs.toNat < 2 ^ 32 * 1000000) :
    micros (iperf_time_add_usecs time usecs) = micros time + usecs.toNat := by
  have low : (time.usecs.toNat : Int) ≤ micros time := by
    unfold micros iperf_time_in_usecs
    omega
  have start : 0 ≤ micros time := Int.natCast_nonneg _
  rw [add_usecs_wraps (by omega), Int.emod_eq_of_lt (by omega) room]

end Micros

end Iperf.Time
