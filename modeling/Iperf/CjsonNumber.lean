import Iperf.BinaryFloat
import Iperf.GeneralFormat
import Iperf.Json
import Mathlib.Tactic.NormNum

/-!
The numbers of cJSON. They are doubles; what is printed is the whole number where the
double is one, else 15 digits where these are close enough, else 17 digits. The
locale is the C locale.
-/

namespace Iperf.CjsonNumber

open BinaryFloat GeneralFormat FormattedText

section Doubles

abbrev Finite := { value : ℚ // Representable binary64 value ∧ |value| < 2 ^ 1024 }

inductive Double where
  | finite (value : Finite)
  | infinite (negative : Bool)
  | nan

/-- A number beyond the largest double is rounded to an infinity. -/
def to_double (value : ℚ) : Double :=
  if fits : |nearest binary64 value| < 2 ^ 1024 then
    .finite ⟨nearest binary64 value, representable_nearest value, fits⟩
  else .infinite (decide (value < 0))

def fabs : Double → Double
  | .finite value => .finite ⟨|value.1|, by
      refine ⟨?_, by rw [abs_abs]; exact value.2.2⟩
      rcases abs_choice value.1 with same | opposite
      · rw [same]
        exact value.2.1
      · rw [opposite]
        exact representable_neg value.2.1⟩
  | .infinite _ => .infinite false
  | .nan => .nan

def sub : Double → Double → Double
  | .finite a, .finite b => to_double (a.1 - b.1)
  | .finite _, .infinite negative => .infinite !negative
  | .infinite negative, .finite _ => .infinite negative
  | .infinite a, .infinite b => if a = b then .nan else .infinite a
  | _, _ => .nan

/-- Times `DBL_EPSILON`. -/
def times_epsilon : Double → Double
  | .finite value => to_double (value.1 * 2 ^ (-52 : Int))
  | other => other

def lt : Double → Double → Bool
  | .finite a, .finite b => a.1 < b.1
  | .finite _, .infinite negative => !negative
  | .infinite negative, .finite _ => negative
  | .infinite a, .infinite b => a && !b
  | _, _ => false

def equal : Double → Double → Bool
  | .finite a, .finite b => a.1 = b.1
  | .infinite a, .infinite b => a == b
  | _, _ => false

def le (a b : Double) : Bool := lt a b || equal a b

/-- C leaves the cast of a NaN open; no numeral and no test of `print_number` needs it. -/
def valueint : Double → Int64
  | .finite value => Int64.ofInt (Json.saturate value.1)
  | .infinite false => Int64.ofInt Json.LLONG_MAX
  | .infinite true => Int64.ofInt Json.LLONG_MIN
  | .nan => 0

end Doubles

section Numbers

def compare_double (a b : Double) : Bool :=
  let maxVal := if lt (fabs b) (fabs a) then fabs a else fabs b
  le (fabs (sub a b)) (times_epsilon maxVal)

/-- What `sprintf` writes into `number_buffer`. -/
def number_text : Double → List UInt8
  | .nan => ascii "null"
  | .infinite _ => ascii "null"
  | .finite d =>
      if equal (.finite d) (to_double (valueint (.finite d)).toInt) then
        signed (valueint (.finite d))
      else
        match strtod (general 15 d.1) with
        | some (test, _) =>
            if compare_double (to_double test) (.finite d) then general 15 d.1
            else general 17 d.1
        | none => general 17 d.1

/-- The size of `number_buffer`. -/
def NUMBER_BUFFER : Nat := 26

/-- `sprintf` has no bound: a longer text is written past the buffer before it is
noticed, and the call fails. -/
def print_number (d : Double) : Option (List UInt8) :=
  if (number_text d).length > NUMBER_BUFFER - 1 then none else some (number_text d)

/-- The bytes that are copied to `number_c_string`. -/
def number_c_string (input : List UInt8) : List UInt8 := (input.takeWhile numeral).take 63

/-- The number, and by how much the offset grows. -/
def parse_number (input : List UInt8) : Option (Double × Nat) :=
  let text := number_c_string input
  (strtod text).map fun read => (to_double read.1, text.length - read.2.length)

end Numbers

section Reading
variable {text rest : List UInt8} {value : ℚ} {size : Nat}

theorem parse_number_reads (reads : Reads text value size) (fits : size ≤ 63)
    (stops : Stops rest) : parse_number (text ++ rest) = some (to_double value, text.length) := by
  have stop : rest.takeWhile numeral = [] := by
    cases rest with
    | nil => rfl
    | cons c rest => simp [stops c rfl]
  have copied : number_c_string (text ++ rest) = text := by
    rw [number_c_string, List.takeWhile_append_of_pos reads.numerals, stop, List.append_nil]
    exact List.take_of_length_le (reads.short.trans fits)
  have whole := reads.whole [] (by simp [Stops])
  rw [List.append_nil] at whole
  simp [parse_number, copied, whole]

end Reading

section Rereading
variable {d e : Finite}

/-- The number that stands in the text. -/
def shown (d : Finite) : ℚ :=
  if equal (.finite d) (to_double (valueint (.finite d)).toInt) then (valueint (.finite d)).toInt
  else if compare_double (to_double (rounded 15 d.1)) (.finite d) then rounded 15 d.1
  else rounded 17 d.1

/-- The double that is read back. -/
def reread (d : Finite) : Double := to_double (shown d)

theorem two_le_ten (n : Nat) : (2 : ℚ) ^ (4 * n) ≤ 10 ^ (2 * n) := by
  rw [pow_mul, pow_mul]
  exact pow_le_pow_left₀ (by norm_num) (by norm_num) n

theorem representable_size (nonzero : d.1 ≠ 0) :
    (10 : ℚ) ^ (-((2 * 270 : Nat) : Int)) ≤ |d.1| ∧ |d.1| < 10 ^ (2 * 270) := by
  obtain ⟨⟨m, e, -, least, shape⟩, below⟩ := d.2
  constructor
  · have one : (1 : ℚ) ≤ |(m : ℚ)| := by
      have : m ≠ 0 := by
        rintro rfl
        simp [shape] at nonzero
      exact_mod_cast Int.one_le_abs this
    have unit : (2 : ℚ) ^ (-((4 * 270 : Nat) : Int)) ≤ 2 ^ e := by
      apply zpow_le_zpow_right₀ (by norm_num)
      simp only [binary64] at least
      push_cast
      omega
    have small : (10 : ℚ) ^ (-((2 * 270 : Nat) : Int)) ≤ 2 ^ (-((4 * 270 : Nat) : Int)) := by
      rw [zpow_neg, zpow_neg, zpow_natCast, zpow_natCast]
      exact inv_anti₀ (by positivity) (two_le_ten 270)
    rw [shape, abs_mul, abs_of_pos (two_zpow_pos e)]
    exact (small.trans unit).trans (le_mul_of_one_le_left (two_zpow_pos e).le one)
  · have bound : (2 : ℚ) ^ 1024 ≤ 2 ^ (4 * 270) := pow_le_pow_right₀ (by norm_num) (by norm_num)
    exact below.trans_le (bound.trans (two_le_ten 270))

theorem general_finite (d : Finite) (places : Nat) (positive : 0 < places) :
    Reads (general places d.1) (rounded places d.1) (places + 7) := by
  refine general_reads positive fun nonzero => ?_
  obtain ⟨low, high⟩ := representable_size nonzero
  exact scientific_small (by norm_num) (abs_pos.mpr nonzero) low high

theorem number_text_reads (d : Finite) : Reads (number_text (.finite d)) (shown d) 24 := by
  have short := general_finite d 15 (by decide)
  have long := general_finite d 17 (by decide)
  have scanned : strtod (general 15 d.1) = some (rounded 15 d.1, []) := by
    simpa using short.whole [] (by simp [Stops])
  have grow : ∀ {text : List UInt8} {value : ℚ} {size : Nat}, Reads text value size →
      size ≤ 24 → Reads text value 24 := fun reads fits =>
    ⟨reads.numerals, reads.start, reads.whole, reads.short.trans fits⟩
  simp only [number_text, shown, scanned]
  split
  · exact grow (signed_reads _) (by decide)
  · split
    · exact grow short (by decide)
    · exact long

/-- No number is too long for the buffer, so `print_number` does not fail. -/
theorem print_number_text (d : Double) : print_number d = some (number_text d) := by
  have short : (number_text d).length ≤ NUMBER_BUFFER - 1 := by
    cases d with
    | finite d =>
        have := (number_text_reads d).short
        simp only [NUMBER_BUFFER]
        omega
    | infinite negative => exact (by decide : (ascii "null").length ≤ 25)
    | nan => decide
  simp [print_number, not_lt.mpr short]

theorem parse_print_number (d : Finite) {rest : List UInt8} (stops : Stops rest) :
    parse_number (number_text (.finite d) ++ rest) =
      some (reread d, (number_text (.finite d)).length) :=
  parse_number_reads (number_text_reads d) (by decide) stops

end Rereading

section Accuracy
variable {d e : Finite}

theorem to_double_finite (d : Finite) : to_double d.1 = .finite d := by
  have same := nearest_self d.2.1
  unfold to_double
  rw [dif_pos (by rw [same]; exact d.2.2)]
  congr 1
  exact Subtype.ext same

theorem to_double_value {value : ℚ} (rounds : to_double value = .finite e) :
    e.1 = nearest binary64 value := by
  unfold to_double at rounds
  split at rounds
  · rw [← Double.finite.inj rounds]
  · cases rounds

/-- The whole numbers of `int64_t`, and the power of two behind them. -/
def Whole (d : Finite) : Prop := ∃ count : Int, d.1 = count ∧ -2 ^ 63 ≤ count ∧ count ≤ 2 ^ 63

theorem reread_whole (whole : Whole d) : reread d = .finite d := by
  obtain ⟨count, shape, low, high⟩ := whole
  have cast : (to_double (valueint (.finite d)).toInt) = .finite d := by
    have saturated : Json.saturate d.1 = min (2 ^ 63 - 1) count := by
      rw [shape]
      rcases lt_or_eq_of_le high with below | full
      · rcases lt_or_eq_of_le low with above | least
        · rw [Json.saturate_int (by simp only [Json.LLONG_MIN]; omega)
            (by simp only [Json.LLONG_MAX]; omega)]
          omega
        · rw [← least]
          decide +kernel
      · rw [full]
        decide +kernel
    have stored : (valueint (.finite d)).toInt = min (2 ^ 63 - 1) count := by
      rw [valueint, saturated]
      exact Int64.toInt_ofInt_of_le (by omega) (by omega)
    rw [stored]
    rcases lt_or_eq_of_le high with below | full
    · rw [min_eq_right (by omega), ← shape]
      exact to_double_finite d
    · -- the largest integer is rounded to the power
      have power : nearest binary64 ((2 ^ 63 - 1 : Int) : ℚ) = d.1 := by
        apply nearest_of_close d.2.1
        rw [shape, full]
        norm_num [binary64, abs_of_nonneg]
      rw [full, min_eq_left (by norm_num)]
      unfold to_double
      rw [dif_pos (by rw [power]; exact d.2.2)]
      congr 1
      exact Subtype.ext power
  have same : equal (.finite d) (to_double (valueint (.finite d)).toInt) = true := by
    rw [cast]
    simp [equal]
  rw [reread, shown, if_pos same, cast]

/-- Neither tiny nor huge. -/
def Ordinary (d : Finite) : Prop := 2 ^ (-960 : Int) ≤ |d.1| ∧ |d.1| < 2 ^ 1000

theorem rounded_close (places : Nat) (positive : 0 < places) (value : ℚ) :
    |rounded places value - value| ≤ |value| / (2 * 10 ^ (places - 1)) := by
  rw [le_div_iff₀ (by positivity)]
  exact rounded_error positive value

/-- Seventeen digits are enough for every double. -/
theorem seventeen_exact (d : Finite) : to_double (rounded 17 d.1) = .finite d := by
  by_cases zero : d.1 = 0
  · have : rounded 17 d.1 = d.1 := by simp [rounded, zero]
    rw [this]
    exact to_double_finite d
  · have same : nearest binary64 (rounded 17 d.1) = d.1 := by
      apply nearest_of_close d.2.1
      have close := rounded_close 17 (by decide) d.1
      have size := abs_pos.mpr zero
      simp only [binary64]
      norm_num at close ⊢
      linarith
    unfold to_double
    rw [dif_pos (by rw [same]; exact d.2.2)]
    congr 1
    exact Subtype.ext same

theorem near_fits {value : ℚ} (d : Finite) (small : |d.1| < 2 ^ 1000)
    (close : |value - d.1| ≤ |d.1|) : |nearest binary64 value| < 2 ^ 1024 := by
  have least := @nearest_least binary64 _ value representable_zero
  rw [zero_sub, abs_neg] at least
  have through : |nearest binary64 value| ≤ 2 * |value| := by
    have := abs_sub_abs_le_abs_sub (nearest binary64 value) value
    linarith
  have size : |value| ≤ 2 * |d.1| := by
    have := abs_sub_abs_le_abs_sub value d.1
    linarith
  have bound : (4 : ℚ) * 2 ^ 1000 < 2 ^ 1024 := by
    rw [show 1024 = 24 + 1000 from rfl, pow_add]
    exact mul_lt_mul_of_pos_right (by norm_num) (by positivity)
  generalize (2 : ℚ) ^ 1000 = huge at bound small
  generalize (2 : ℚ) ^ 1024 = limit at bound ⊢
  linarith

theorem rounded_fits (d : Finite) :
    |rounded 15 d.1 - d.1| ≤ |d.1| / 10 ^ 14 := by
  have close := rounded_close 15 (by decide) d.1
  have size := abs_nonneg d.1
  norm_num at close ⊢
  linarith

theorem reread_finite (d : Finite) (small : |d.1| < 2 ^ 1000) : ∃ e, reread d = .finite e := by
  unfold reread shown
  split
  · rename_i same
    generalize to_double (valueint (.finite d)).toInt = cast at same ⊢
    cases cast with
    | finite e => exact ⟨e, rfl⟩
    | infinite negative => simp [equal] at same
    | nan => simp [equal] at same
  · split
    · have near : |rounded 15 d.1 - d.1| ≤ |d.1| :=
        (rounded_fits d).trans (div_le_self (abs_nonneg _) (by norm_num))
      exact ⟨_, dif_pos (near_fits d small near)⟩
    · exact ⟨d, seventeen_exact d⟩

theorem representable_scaled {value : ℚ} (exact_ : Representable binary64 value)
    (least : (2 : ℚ) ^ (-970 : Int) ≤ |value|) :
    Representable binary64 (value * 2 ^ (-52 : Int)) := by
  obtain ⟨m, e, bits, -, rfl⟩ := exact_
  refine ⟨m, e - 52, bits, ?_, by rw [mul_assoc, ← zpow_add₀ (by norm_num)]; rfl⟩
  simp only [binary64]
  by_contra low
  have few : |(m : ℚ)| < 2 ^ (53 : Int) := by
    have : |m| < 2 ^ 53 := bits
    exact_mod_cast this
  have tiny : (2 : ℚ) ^ (53 : Int) * 2 ^ e ≤ 2 ^ (-970 : Int) := by
    rw [← zpow_add₀ (by norm_num)]
    exact zpow_le_zpow_right₀ (by norm_num) (by omega)
  rw [abs_mul, abs_of_pos (two_zpow_pos e)] at least
  have := mul_lt_mul_of_pos_right few (two_zpow_pos e)
  linarith

/-- Below the normal numbers the doubles are the multiples of the smallest one. -/
theorem nearest_tiny {value : ℚ} (tiny : |value| ≤ 2 ^ (-1022 : Int)) :
    |nearest binary64 value - value| ≤ 2 ^ (-1075 : Int) := by
  have unit := two_zpow_pos (-1074)
  obtain ⟨count, shape⟩ : ∃ count : ℚ, value = count * 2 ^ (-1074 : Int) :=
    ⟨value / 2 ^ (-1074 : Int), (div_mul_cancel₀ _ unit.ne').symm⟩
  have few : |count| ≤ 2 ^ 52 := by
    rw [shape, abs_mul, abs_of_pos unit] at tiny
    have power : (2 : ℚ) ^ (-1022 : Int) = 2 ^ 52 * 2 ^ (-1074 : Int) := by
      rw [← zpow_natCast, ← zpow_add₀ (by norm_num)]
      rfl
    rw [power] at tiny
    exact le_of_mul_le_mul_right tiny unit
  have whole := abs_sub_round count
  have bits : |round count| < 2 ^ 53 := by
    have through := abs_sub_abs_le_abs_sub (round count : ℚ) count
    rw [abs_sub_comm] at through
    have bound : |(round count : ℚ)| < 2 ^ 53 := by
      norm_num at few ⊢
      linarith
    exact_mod_cast bound
  have least := @nearest_least binary64 _ value
    ⟨round count, -1074, bits, by simp only [binary64]; omega, rfl⟩
  refine least.trans ?_
  have half : (2 : ℚ) ^ (-1075 : Int) = 1 / 2 * 2 ^ (-1074 : Int) := by
    rw [show (-1075 : Int) = -1 + -1074 from rfl, zpow_add₀ (by norm_num)]
    norm_num
  rw [shape, ← sub_mul, abs_mul, abs_of_pos unit, abs_sub_comm, half]
  exact mul_le_mul_of_nonneg_right whole unit.le

/-- By how much the product with `DBL_EPSILON` is rounded. -/
theorem scaled_error (g : Finite) :
    |nearest binary64 (g.1 * 2 ^ (-52 : Int)) - g.1 * 2 ^ (-52 : Int)| ≤ 2 ^ (-1075 : Int) := by
  by_cases least : (2 : ℚ) ^ (-970 : Int) ≤ |g.1|
  · rw [nearest_self (representable_scaled g.2.1 least), sub_self, abs_zero]
    exact (two_zpow_pos _).le
  · apply nearest_tiny
    rw [abs_mul, abs_of_pos (two_zpow_pos _),
      show (-1022 : Int) = -970 + -52 from rfl, zpow_add₀ (by norm_num)]
    exact mul_le_mul_of_nonneg_right (not_le.mp least).le (two_zpow_pos _).le

theorem scaled_fits (g : Finite) : |nearest binary64 (g.1 * 2 ^ (-52 : Int))| < 2 ^ 1024 := by
  have smaller : |g.1 * 2 ^ (-52 : Int)| ≤ |g.1| := by
    rw [abs_mul, abs_of_pos (two_zpow_pos _)]
    exact mul_le_of_le_one_right (abs_nonneg _) (by norm_num)
  obtain ⟨low, high⟩ := abs_le.mp smaller
  have exact_ : Representable binary64 |g.1| := by
    rcases abs_choice g.1 with same | opposite
    · rw [same]
      exact g.2.1
    · rw [opposite]
      exact representable_neg g.2.1
  have bound : |nearest binary64 (g.1 * 2 ^ (-52 : Int))| ≤ |g.1| :=
    abs_le.mpr ⟨le_nearest (representable_neg exact_) low, nearest_le exact_ high⟩
  exact bound.trans_lt g.2.2

theorem fabs_finite (d : Finite) : ∃ e, fabs (.finite d) = .finite e ∧ e.1 = |d.1| :=
  ⟨_, rfl, rfl⟩

/-- The test of two doubles that are near each other is the exact one, but for the
rounding of the bound. -/
theorem compare_double_near {slack : ℚ} (near : |e.1 - d.1| ≤ |d.1| / 4)
    (scaled : ∀ g : Finite, |d.1| ≤ |g.1| →
      |nearest binary64 (g.1 * 2 ^ (-52 : Int)) - g.1 * 2 ^ (-52 : Int)| ≤ slack)
    (accepted : compare_double (.finite e) (.finite d)) :
    |e.1 - d.1| ≤ 2 ^ (-52 : Int) * max |e.1| |d.1| + slack := by
  have size := abs_nonneg d.1
  have within : |e.1 - d.1| ≤ |e.1| := by
    have := abs_sub_abs_le_abs_sub d.1 e.1
    rw [abs_sub_comm d.1 e.1] at this
    linarith
  have difference : Representable binary64 (e.1 - d.1) :=
    representable_sub e.2.1 d.2.1 within (by linarith)
  have fits : |e.1 - d.1| < 2 ^ 1024 := within.trans_lt e.2.2
  have subtracted : sub (.finite e) (.finite d) = .finite ⟨e.1 - d.1, difference, fits⟩ :=
    to_double_finite ⟨e.1 - d.1, difference, fits⟩
  obtain ⟨f, absolute, shape⟩ := fabs_finite ⟨e.1 - d.1, difference, fits⟩
  obtain ⟨left, left_fabs, left_shape⟩ := fabs_finite e
  obtain ⟨right, right_fabs, right_shape⟩ := fabs_finite d
  -- the larger of the two, times the power
  have bounded : ∀ g : Finite, |d.1| ≤ |g.1| →
      le (.finite f) (times_epsilon (.finite g)) → f.1 ≤ g.1 * 2 ^ (-52 : Int) + slack := by
    intro g least below
    have product : times_epsilon (.finite g) =
        .finite ⟨_, representable_nearest _, scaled_fits g⟩ := dif_pos (scaled_fits g)
    have error := (abs_le.mp (scaled g least)).2
    simp only [product, le, lt, equal, Bool.or_eq_true, decide_eq_true_eq] at below
    rcases below with less | same
    · linarith
    · linarith
  unfold compare_double at accepted
  rw [subtracted, absolute, left_fabs, right_fabs] at accepted
  dsimp only at accepted shape
  rw [← shape, mul_comm]
  split at accepted
  · rename_i larger
    simp only [lt, decide_eq_true_eq, left_shape, right_shape] at larger
    rw [max_eq_left larger.le, ← left_shape]
    refine bounded left ?_ accepted
    rw [left_shape, abs_abs]
    exact larger.le
  · rename_i larger
    simp only [lt, decide_eq_true_eq, left_shape, right_shape, not_lt] at larger
    rw [max_eq_right larger, ← right_shape]
    refine bounded right ?_ accepted
    rw [right_shape, abs_abs]

/-- What is read back differs by the test of `compare_double` at most. -/
theorem reread_within {slack : ℚ} (nonneg : 0 ≤ slack)
    (scaled : ∀ g : Finite, |d.1| ≤ |g.1| →
      |nearest binary64 (g.1 * 2 ^ (-52 : Int)) - g.1 * 2 ^ (-52 : Int)| ≤ slack)
    (back : reread d = .finite e) :
    |e.1 - d.1| ≤ 2 ^ (-52 : Int) * max |e.1| |d.1| + slack := by
  have same : e.1 = d.1 → |e.1 - d.1| ≤ 2 ^ (-52 : Int) * max |e.1| |d.1| + slack := by
    intro equal
    rw [equal, sub_self, abs_zero]
    positivity
  unfold reread shown at back
  split at back
  · rename_i whole
    rw [back] at whole
    have : d.1 = e.1 := by simpa [equal] using whole
    exact same this.symm
  · split at back
    · rename_i accepted
      rw [back] at accepted
      refine compare_double_near ?_ scaled accepted
      -- the double is as near to the text as the one that was printed
      have text := rounded_fits d
      have error := nearest_least (rounded 15 d.1) d.2.1
      rw [← to_double_value back] at error
      have through := abs_sub_le e.1 (rounded 15 d.1) d.1
      rw [abs_sub_comm d.1] at error
      have size := abs_nonneg d.1
      norm_num at text
      linarith
    · rw [seventeen_exact] at back
      exact same (by rw [← Double.finite.inj back])

theorem reread_close (ordinary : Ordinary d) (back : reread d = .finite e) :
    |e.1 - d.1| ≤ 2 ^ (-52 : Int) * max |e.1| |d.1| := by
  have close := @reread_within d e 0 le_rfl (fun g larger => ?_) back
  · rwa [add_zero] at close
  · have least : (2 : ℚ) ^ (-970 : Int) ≤ |g.1| :=
      ((zpow_le_zpow_right₀ (by norm_num) (by norm_num)).trans ordinary.1).trans larger
    rw [nearest_self (representable_scaled g.2.1 least), sub_self, abs_zero]

/-- For a tiny double the test is rounded too, by half of the smallest double. -/
theorem reread_near (back : reread d = .finite e) :
    |e.1 - d.1| ≤ 2 ^ (-52 : Int) * max |e.1| |d.1| + 2 ^ (-1075 : Int) :=
  reread_within (two_zpow_pos _).le (fun g _ => scaled_error g) back

/-- A number that is printed is read back, exactly where it is whole, and to the last bit
or so where it is not. -/
theorem number_roundtrip {rest : List UInt8} (ordinary : Ordinary d) (stops : Stops rest) :
    ∃ e, parse_number (number_text (.finite d) ++ rest) =
        some (.finite e, (number_text (.finite d)).length) ∧
      |e.1 - d.1| ≤ 2 ^ (-52 : Int) * max |e.1| |d.1| ∧ (Whole d → e = d) := by
  obtain ⟨e, back⟩ := reread_finite d ordinary.2
  refine ⟨e, ?_, reread_close ordinary back, fun whole => ?_⟩
  · rw [parse_print_number d stops, back]
  · rw [reread_whole whole] at back
    exact (Double.finite.inj back).symm

/-- 0.1 + 0.2 -/
def above_three_tenths : Finite :=
  ⟨5404319552844596 * 2 ^ (-54 : Int),
    ⟨5404319552844596, -54, by decide, by decide, by norm_num⟩, by
      have one : |5404319552844596 * 2 ^ (-54 : Int)| < (1 : ℚ) := by norm_num [abs_of_pos]
      exact one.trans (one_lt_pow₀ (by norm_num) (by decide))⟩

/-- It is printed as 0.3, and read back as the double below it. -/
theorem number_roundtrip_tenths :
    number_text (.finite above_three_tenths) = ascii "0.3" ∧
    ∃ e : Finite, parse_number (number_text (.finite above_three_tenths) ++ [93]) =
        some (.finite e, 3) ∧
      |e.1 - above_three_tenths.1| ≤ 2 ^ (-52 : Int) * max |e.1| |above_three_tenths.1| ∧
      e.1 = 5404319552844595 * 2 ^ (-54 : Int) := by
  have printed : number_text (.finite above_three_tenths) = ascii "0.3" := by decide +kernel
  have length : (number_text (.finite above_three_tenths)).length = 3 := by
    rw [printed]
    rfl
  have ordinary : Ordinary above_three_tenths := by
    have quarter : 2 ^ (-2 : Int) ≤ |above_three_tenths.1| := by decide +kernel
    have one : |above_three_tenths.1| < 1 := by decide +kernel
    exact ⟨(zpow_le_zpow_right₀ (by norm_num) (by decide)).trans quarter,
      one.trans (one_lt_pow₀ (by norm_num) (by decide))⟩
  have stops : Stops [93] := by
    rintro c ⟨⟩
    decide
  obtain ⟨e, read, close, -⟩ := number_roundtrip ordinary stops
  refine ⟨printed, e, by rw [read, length], close, ?_⟩
  rw [parse_print_number above_three_tenths stops] at read
  have value := to_double_value (congrArg Prod.fst (Option.some.inj read))
  rw [value]
  decide +kernel

end Accuracy

end Iperf.CjsonNumber
