import Iperf.FormattedText
import Mathlib.Data.Rat.Floor
import Mathlib.Tactic.FieldSimp
import Mathlib.Tactic.Linarith
import Mathlib.Tactic.Positivity
import Mathlib.Tactic.Ring

/-!
Numbers printed with a fixed count of decimals, as `%.2f` prints them: the exact
number, rounded to a nearest multiple of the last decimal. Which way a tie goes is
left open. A printed number is read back through its digits and its point.
-/

namespace Iperf.FixedPoint

open FormattedText

section Rounding

/-- A nearest natural number; of two nearest ones, either. -/
def Nearest (round : ℚ → Nat) : Prop :=
  ∀ value, 0 ≤ value → |(round value : ℚ) - value| ≤ 1 / 2

/-- Of two nearest numbers, the even one. -/
def half_even (value : ℚ) : Nat :=
  let below := ⌊value⌋₊
  let rest := value - below
  if rest < 1 / 2 then below
  else if 1 / 2 < rest then below + 1
  else below + below % 2

variable {round : ℚ → Nat} {value : ℚ} {bound : Nat}

theorem half_even_nearest : Nearest half_even := by
  intro value nonneg
  have low := Nat.floor_le nonneg
  have high := Nat.lt_floor_add_one value
  have parity : ((⌊value⌋₊ % 2 : Nat) : ℚ) ≤ 1 := by
    exact_mod_cast Nat.le_of_lt_succ (Nat.mod_lt ⌊value⌋₊ (by decide))
  have positive : (0 : ℚ) ≤ (⌊value⌋₊ % 2 : Nat) := Nat.cast_nonneg _
  rw [abs_le]
  unfold half_even
  dsimp only
  split_ifs
  · constructor <;> linarith
  · push_cast
    constructor <;> linarith
  · push_cast at parity positive ⊢
    constructor <;> linarith

theorem Nearest.lt (nearest : Nearest round) (nonneg : 0 ≤ value)
    (below : value < (bound : ℚ) - 1 / 2) : round value < bound := by
  have error := abs_le.mp (nearest value nonneg)
  have : (round value : ℚ) < bound := by linarith
  exact_mod_cast this

theorem Nearest.le (nearest : Nearest round) (nonneg : 0 ≤ value)
    (above : (bound : ℚ) - 1 / 2 < value) : bound ≤ round value := by
  have error := abs_le.mp (nearest value nonneg)
  have : (bound : ℚ) < round value + 1 := by linarith
  exact Nat.le_of_lt_succ (by exact_mod_cast this)

/-- A tie below an even number is rounded up to it. -/
theorem half_even_lt_iff (nonneg : 0 ≤ value) (even : bound % 2 = 0) :
    half_even value < bound ↔ value < (bound : ℚ) - 1 / 2 := by
  constructor
  · intro below
    by_contra reached
    rcases eq_or_lt_of_le (not_lt.mp reached) with tie | above
    · cases bound with
      | zero =>
          norm_num at tie
          linarith
      | succ odd =>
          push_cast at tie
          have whole : ⌊value⌋₊ = odd := (Nat.floor_eq_iff nonneg).mpr ⟨by linarith, by linarith⟩
          have rest : value - (odd : ℚ) = 1 / 2 := by linarith
          simp only [half_even, whole, rest, lt_irrefl, if_false] at below
          omega
    · exact absurd below (Nat.not_lt.mpr (half_even_nearest.le nonneg above))
  · exact half_even_nearest.lt nonneg

end Rounding

section Digits

theorem digits_value_append (high low : List UInt8) :
    digits_value (high ++ low) = digits_value high * 10 ^ low.length + digits_value low := by
  induction low using List.reverseRecOn with
  | nil => simp [digits_value]
  | append_singleton low c ih =>
      rw [← List.append_assoc]
      simp only [digits_value, List.foldl_append, List.foldl_cons, List.foldl_nil,
        List.length_append, List.length_singleton] at ih ⊢
      rw [ih, Nat.pow_succ]
      ring

/-- Leading zeros stand for nothing. -/
theorem digits_value_zeros (digits : List UInt8) :
    digits_value (digits.dropWhile (· = 48)) = digits_value digits := by
  induction digits with
  | nil => rfl
  | cons c digits ih =>
      rw [List.dropWhile_cons]
      split
      · rename_i zero
        rw [ih, of_decide_eq_true zero]
        rfl
      · rfl

theorem digits_value_lt {digits : List UInt8} (all : ∀ c ∈ digits, isdigit c) :
    digits_value digits < 10 ^ digits.length := by
  induction digits using List.reverseRecOn with
  | nil => decide
  | append_singleton digits c ih =>
      have shorter := ih fun d member => all d (List.mem_append_left _ member)
      have last := all c (by simp)
      simp only [isdigit, decide_eq_true_eq, UInt8.le_iff_toNat_le] at last
      have nine : (57 : UInt8).toNat = 57 := rfl
      rw [digits_value_append, List.length_append, List.length_singleton, Nat.pow_succ]
      simp only [digits_value, List.foldl_cons, List.foldl_nil] at shorter ⊢
      omega

end Digits

section Printing
variable (round : ℚ → Nat)

/-- The last digits of a number, with leading zeros. -/
def padded : Nat → Nat → List UInt8
  | 0, _ => []
  | places + 1, value => padded places (value / 10) ++ [UInt8.ofNat (48 + value % 10)]

/-- A count of units of the last decimal. -/
def point (places value : Nat) : List UInt8 :=
  decimal (value / 10 ^ places) ++ if places = 0 then [] else 46 :: padded places value

/-- `%.*f`, of a number that is finite. -/
def fixed (places : Nat) (value : ℚ) : List UInt8 :=
  (if value < 0 then [45] else []) ++ point places (round (|value| * 10 ^ places))

/-- A field is filled up with spaces on its left. -/
def field (width : Nat) (text : List UInt8) : List UInt8 :=
  List.replicate (width - text.length) 32 ++ text

end Printing

section Reading

def digits (text : List UInt8) : List UInt8 := text.filter isdigit

/-- How many digits follow the point. -/
def decimals (text : List UInt8) : Nat := (text.dropWhile (· ≠ 46)).tail.length

/-- The number that a text shows. -/
def shown (text : List UInt8) : ℚ :=
  (if 45 ∈ text then -1 else 1) * (digits_value (digits text) / 10 ^ decimals text)

/-- The digits from the first one that is not zero. -/
def significant (text : List UInt8) : Nat := ((digits text).dropWhile (· = 48)).length

end Reading

section Points
variable {round : ℚ → Nat} {value : ℚ} {places count : Nat}

theorem padded_length (places count : Nat) : (padded places count).length = places := by
  induction places generalizing count with
  | zero => rfl
  | succ places ih => rw [padded, List.length_append, ih, List.length_singleton]

theorem padded_digits (places count : Nat) : ∀ c ∈ padded places count, isdigit c := by
  induction places generalizing count with
  | zero => simp [padded]
  | succ places ih =>
      intro c member
      rw [padded, List.mem_append, List.mem_singleton] at member
      rcases member with earlier | rfl
      · exact ih _ c earlier
      · exact digit_isdigit count

theorem padded_value (places count : Nat) :
    digits_value (padded places count) = count % 10 ^ places := by
  induction places generalizing count with
  | zero => simp [padded, digits_value, Nat.mod_one]
  | succ places ih =>
      have last : digits_value [UInt8.ofNat (48 + count % 10)] = count % 10 := by
        rw [digits_value, List.foldl_cons, List.foldl_nil, digit_toNat]
        omega
      rw [padded, digits_value_append, ih, last, List.length_singleton, Nat.pow_one,
        Nat.pow_succ', Nat.mod_mul]
      ring

theorem decimal_digits (count : Nat) : ∀ c ∈ decimal count, isdigit c := decimalOf_digits _ _

theorem decimal_value (count : Nat) : digits_value (decimal count) = count :=
  decimalOf_value _ _ (Nat.lt_succ_self _)

/-- The point is the only character that is not a digit. -/
theorem point_digits (places count : Nat) :
    digits (point places count) = decimal (count / 10 ^ places) ++ padded places count := by
  have whole := List.filter_eq_self.mpr (decimal_digits (count / 10 ^ places))
  have rest := List.filter_eq_self.mpr (padded_digits places count)
  have dot : isdigit 46 = false := by decide
  unfold digits point
  rw [List.filter_append, whole]
  split
  · rename_i none
    subst none
    rfl
  · rw [List.filter_cons_of_neg (by simp [dot]), rest]

theorem point_value (places count : Nat) : digits_value (digits (point places count)) = count := by
  rw [point_digits, digits_value_append, decimal_value, padded_length, padded_value]
  exact Nat.div_add_mod' _ _

theorem point_decimals (places count : Nat) : decimals (point places count) = places := by
  have skipped : ∀ c ∈ decimal (count / 10 ^ places), decide (c ≠ 46) = true := by
    intro c member
    have digit := decimal_digits _ c member
    apply decide_eq_true
    rintro rfl
    exact absurd digit (by decide)
  unfold decimals point
  rw [List.dropWhile_append_of_pos skipped]
  split
  · rename_i none
    rw [none]
    rfl
  · rw [List.dropWhile_cons_of_neg (by decide), List.tail_cons, padded_length]

theorem point_unsigned (places count : Nat) : 45 ∉ point places count := by
  have minus : ¬ isdigit 45 := by decide
  unfold point
  rw [List.mem_append]
  rintro (whole | decimal)
  · exact minus (decimal_digits _ _ whole)
  · split at decimal
    · simp at decimal
    · rcases List.mem_cons.mp decimal with dot | digit
      · exact absurd dot (by decide)
      · exact minus (padded_digits _ _ _ digit)

theorem point_shown (places count : Nat) : shown (point places count) = count / 10 ^ places := by
  rw [shown, if_neg (point_unsigned places count), point_value, point_decimals, one_mul]

theorem minus_decimals (text : List UInt8) : decimals (45 :: text) = decimals text := by
  unfold decimals
  rw [List.dropWhile_cons_of_pos (by decide)]

theorem minus_shown (places count : Nat) :
    shown (45 :: point places count) = -(count / 10 ^ places) := by
  have same : digits (45 :: point places count) = digits (point places count) :=
    List.filter_cons_of_neg (by decide)
  rw [shown, if_pos List.mem_cons_self, same, minus_decimals, point_value, point_decimals,
    neg_one_mul]

/-- As many digits as the count has. -/
theorem point_significant {size : Nat} (large : 10 ^ size ≤ count) :
    size < significant (point places count) := by
  have all : ∀ c ∈ (digits (point places count)).dropWhile (· = 48), isdigit c := by
    intro c member
    exact (List.mem_filter.mp (List.dropWhile_sublist _ |>.subset member)).2
  have below := digits_value_lt all
  rw [digits_value_zeros, point_value] at below
  exact (Nat.pow_lt_pow_iff_right (by decide : 1 < 10)).mp (large.trans_lt below)

/-- Digits before the point, the point, and the decimals. -/
theorem point_length {size : Nat} (small : count < 10 ^ (size + 1 + places)) :
    (point places count).length ≤ size + 1 + if places = 0 then 0 else places + 1 := by
  have whole : count / 10 ^ places < 10 ^ (size + 1) := by
    rw [Nat.div_lt_iff_lt_mul (Nat.pow_pos (by decide)), ← Nat.pow_add]
    exact small
  have short := decimalOf_length (count / 10 ^ places + 1) _ size whole
  unfold point decimal
  rw [List.length_append]
  split
  · simpa using short
  · rw [List.length_cons, padded_length]
    omega

end Points

section Fields
variable {round : ℚ → Nat} {value : ℚ} {text : List UInt8}

theorem field_length (width : Nat) (text : List UInt8) :
    (field width text).length = max width text.length := by
  rw [field, List.length_append, List.length_replicate]
  omega

/-- The spaces before a number show nothing. -/
theorem field_digits (width : Nat) (text : List UInt8) :
    digits (field width text) = digits text := by
  have space : isdigit 32 = false := by decide
  rw [digits, field, List.filter_append, List.filter_replicate_of_neg (by simp [space])]
  rfl

theorem field_decimals (width : Nat) (text : List UInt8) :
    decimals (field width text) = decimals text := by
  unfold decimals field
  rw [List.dropWhile_append_of_pos]
  intro c member
  rw [List.eq_of_mem_replicate member]
  decide

theorem field_shown (width : Nat) (text : List UInt8) : shown (field width text) = shown text := by
  have signs : 45 ∈ field width text ↔ 45 ∈ text := by
    simp [field, List.mem_replicate]
  simp only [shown, field_digits, field_decimals, signs]

theorem field_significant (width : Nat) (text : List UInt8) :
    significant (field width text) = significant text := by
  rw [significant, field_digits, significant]

theorem fixed_nonneg (round : ℚ → Nat) (places : Nat) (nonneg : 0 ≤ value) :
    fixed round places value = point places (round (value * 10 ^ places)) := by
  rw [fixed, if_neg nonneg.not_gt, List.nil_append, abs_of_nonneg nonneg]

theorem fixed_decimals (round : ℚ → Nat) (places : Nat) (value : ℚ) :
    decimals (fixed round places value) = places := by
  unfold fixed
  split
  · rw [List.singleton_append, minus_decimals, point_decimals]
  · rw [List.nil_append, point_decimals]

theorem count_error (nearest : Nearest round) (places : Nat) (nonneg : 0 ≤ value) :
    |(round (value * 10 ^ places) : ℚ) / 10 ^ places - value| ≤ 1 / 2 / 10 ^ places := by
  have scale : (0 : ℚ) < 10 ^ places := by positivity
  have error := nearest (value * 10 ^ places) (by positivity)
  have whole : ((round (value * 10 ^ places) : ℚ) / 10 ^ places - value) * 10 ^ places =
      round (value * 10 ^ places) - value * 10 ^ places := by
    field_simp
  rw [le_div_iff₀ scale, ← abs_of_pos scale, ← abs_mul, abs_of_pos scale, whole]
  exact error

/-- The number that is shown is off by half a unit of the last decimal at most. -/
theorem fixed_error (nearest : Nearest round) (places : Nat) (value : ℚ) :
    |shown (fixed round places value) - value| ≤ 1 / 2 / 10 ^ places := by
  by_cases negative : value < 0
  · have error := count_error nearest places (neg_nonneg.mpr negative.le)
    rw [fixed, if_pos negative, List.singleton_append, minus_shown, abs_of_neg negative, ← abs_neg,
      neg_sub, sub_neg_eq_add]
    rwa [sub_neg_eq_add, add_comm] at error
  · have nonneg := not_lt.mp negative
    rw [fixed_nonneg round places nonneg, point_shown]
    exact count_error nearest places nonneg

end Fields

end Iperf.FixedPoint
