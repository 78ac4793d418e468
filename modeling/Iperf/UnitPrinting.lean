import Iperf.FixedPoint

/-!
`unit_snprintf`: a number in bytes as a short text, in the unit that the format names
or, with an adaptive format, in the largest one that the number reaches. Numbers are
exact, and `printf` rounds to nearest.
-/

namespace Iperf.UnitPrinting

open FormattedText FixedPoint

section Tables

inductive Conv where
  | UNIT_CONV
  | KILO_CONV
  | MEGA_CONV
  | GIGA_CONV
  | TERA_CONV
  deriving DecidableEq, Repr

/-- `conv++`, which the loop takes below `TERA_CONV` only. -/
def Conv.next : Conv → Conv
  | .UNIT_CONV => .KILO_CONV
  | .KILO_CONV => .MEGA_CONV
  | .MEGA_CONV => .GIGA_CONV
  | .GIGA_CONV => .TERA_CONV
  | .TERA_CONV => .TERA_CONV

def conversion_bytes : Conv → ℚ
  | .UNIT_CONV => 1
  | .KILO_CONV => 1 / 1024
  | .MEGA_CONV => 1 / 1024 / 1024
  | .GIGA_CONV => 1 / 1024 / 1024 / 1024
  | .TERA_CONV => 1 / 1024 / 1024 / 1024 / 1024

def conversion_bits : Conv → ℚ
  | .UNIT_CONV => 1
  | .KILO_CONV => 1 / 1000
  | .MEGA_CONV => 1 / 1000 / 1000
  | .GIGA_CONV => 1 / 1000 / 1000 / 1000
  | .TERA_CONV => 1 / 1000 / 1000 / 1000 / 1000

def label_byte : Conv → List UInt8
  | .UNIT_CONV => ascii "Byte"
  | .KILO_CONV => ascii "KByte"
  | .MEGA_CONV => ascii "MByte"
  | .GIGA_CONV => ascii "GByte"
  | .TERA_CONV => ascii "TByte"

def label_bit : Conv → List UInt8
  | .UNIT_CONV => ascii "bit"
  | .KILO_CONV => ascii "Kbit"
  | .MEGA_CONV => ascii "Mbit"
  | .GIGA_CONV => ascii "Gbit"
  | .TERA_CONV => ascii "Tbit"

end Tables

section Functions
variable (round : ℚ → Nat)

/-- The loop of the adaptive formats; `fuel` counts the units above `conv`. -/
def adaptive (base : ℚ) : Nat → ℚ → Conv → Conv
  | 0, _, conv => conv
  | fuel + 1, tmpNum, conv =>
      if base ≤ tmpNum ∧ conv ≠ .TERA_CONV then adaptive base fuel (tmpNum / base) conv.next
      else conv

/-- `%4.2f`, `%4.1f` or `%4.0f`; the last two branches have one format. -/
def precision (inNum : ℚ) : Nat :=
  if inNum < 9995 / 1000 then 2
  else if inNum < 9995 / 100 then 1
  else if inNum < 9995 / 10 then 0
  else 0

/-- What `snprintf` leaves in a buffer of a positive size. -/
def snprintf (inLen : Nat) (text : List UInt8) : List UInt8 := text.take (inLen - 1) ++ [0]

def choose_conv (inNum : ℚ) (inFormat : Char) : Conv :=
  match inFormat.toUpper with
  | 'B' => .UNIT_CONV
  | 'K' => .KILO_CONV
  | 'M' => .MEGA_CONV
  | 'G' => .GIGA_CONV
  | 'T' => .TERA_CONV
  | _ =>
      -- 'A' and every other character
      if inFormat.isUpper then adaptive 1024 4 inNum .UNIT_CONV
      else adaptive 1000 4 inNum .UNIT_CONV

def unit_snprintf (inLen : Nat) (inNum : ℚ) (inFormat : Char) : List UInt8 :=
  let inNum := if inFormat.isUpper then inNum else inNum * 8
  let conv := choose_conv inNum inFormat
  let suffix := if inFormat.isUpper then label_byte conv else label_bit conv
  let inNum := inNum * if inFormat.isUpper then conversion_bytes conv else conversion_bits conv
  snprintf inLen (field 4 (fixed round (precision inNum) inNum) ++ 32 :: suffix)

end Functions

section Units

/-- The power of the base that a unit stands for. -/
def Conv.power : Conv → Nat
  | .UNIT_CONV => 0
  | .KILO_CONV => 1
  | .MEGA_CONV => 2
  | .GIGA_CONV => 3
  | .TERA_CONV => 4

/-- The largest unit that does not exceed the value, or the base unit. -/
structure Largest (base value : ℚ) (conv : Conv) : Prop where
  reached : conv = .UNIT_CONV ∨ base ^ conv.power ≤ value
  largest : ∀ other : Conv, base ^ other.power ≤ value → other.power ≤ conv.power

variable {base value tmpNum : ℚ} {conv : Conv}

theorem next_power (below : conv ≠ .TERA_CONV) : conv.next.power = conv.power + 1 := by
  cases conv <;> first | rfl | exact absurd rfl below

theorem power_le (conv : Conv) : conv.power ≤ 4 := by
  cases conv <;> decide

theorem power_tera (high : 4 ≤ conv.power) : conv = .TERA_CONV := by
  cases conv <;> first | rfl | exact absurd high (by decide)

theorem conversion_bytes_power (conv : Conv) : conversion_bytes conv = 1 / 1024 ^ conv.power := by
  cases conv <;> norm_num [conversion_bytes, Conv.power]

theorem conversion_bits_power (conv : Conv) : conversion_bits conv = 1 / 1000 ^ conv.power := by
  cases conv <;> norm_num [conversion_bits, Conv.power]

/-- Where the loop stops, no larger unit is reached. -/
theorem largest_of_below (positive : 1 ≤ base)
    (reached : conv = .UNIT_CONV ∨ base ^ conv.power ≤ value)
    (below : conv = .TERA_CONV ∨ value < base ^ (conv.power + 1)) : Largest base value conv := by
  refine ⟨reached, fun other above => ?_⟩
  rcases below with rfl | below
  · exact power_le other
  · by_contra larger
    have more : base ^ (conv.power + 1) ≤ base ^ other.power :=
      pow_le_pow_right₀ positive (by omega)
    linarith

/-- Each pass divides by the base and goes on to the next unit. -/
theorem adaptive_largest (fuel : Nat) (above : 1 < base)
    (scaled : tmpNum = value / base ^ conv.power)
    (reached : conv = .UNIT_CONV ∨ base ^ conv.power ≤ value)
    (enough : 4 ≤ fuel + conv.power) : Largest base value (adaptive base fuel tmpNum conv) := by
  have positive : ∀ power, (0 : ℚ) < base ^ power := fun power => by positivity
  induction fuel generalizing tmpNum conv with
  | zero =>
      have top := power_tera (by omega : 4 ≤ conv.power)
      exact largest_of_below above.le reached (.inl top)
  | succ fuel ih =>
      rw [adaptive]
      split
      · rename_i again
        obtain ⟨large, below⟩ := again
        have power := next_power below
        apply ih
        · rw [power, pow_succ, scaled, div_div]
        · right
          rw [scaled, le_div_iff₀ (positive _)] at large
          rw [power, pow_succ, mul_comm]
          exact large
        · omega
      · rename_i stopped
        apply largest_of_below above.le reached
        by_cases top : conv = .TERA_CONV
        · exact .inl top
        · right
          have small : tmpNum < base := by
            by_contra large
            exact stopped ⟨not_lt.mp large, top⟩
          rw [scaled, div_lt_iff₀ (positive _)] at small
          rw [pow_succ, mul_comm]
          exact small

end Units

section Numbers
variable {round : ℚ → Nat} {inNum : ℚ}

/-- The thresholds keep the rounded number below a thousand units of its last decimal,
as long as there is a decimal. -/
theorem fixed_short (nearest : Nearest round) (nonneg : 0 ≤ inNum) (small : inNum < 99995 / 10) :
    (fixed round (precision inNum) inNum).length ≤ 4 := by
  rw [fixed_nonneg round _ nonneg]
  unfold precision
  split_ifs with two one three
  · have count : round (inNum * 10 ^ 2) < 1000 :=
        nearest.lt (by positivity) (by push_cast; linarith)
    exact @point_length 2 _ 0 count
  · have count : round (inNum * 10 ^ 1) < 1000 :=
        nearest.lt (by positivity) (by push_cast; linarith)
    exact @point_length 1 _ 1 count
  all_goals
    have count : round (inNum * 10 ^ 0) < 10000 :=
      nearest.lt (by positivity) (by push_cast; linarith)
    exact @point_length 0 _ 3 count

/-- They keep it from a hundred on, where the number is at least one. -/
theorem fixed_significant (nearest : Nearest round) (large : 1 ≤ inNum) :
    3 ≤ significant (fixed round (precision inNum) inNum) := by
  have nonneg : 0 ≤ inNum := by linarith
  rw [fixed_nonneg round _ nonneg]
  apply @point_significant _ _ 2
  unfold precision
  split_ifs with two one three
  all_goals exact nearest.le (by positivity) (by push_cast; linarith)

end Numbers

section Texts
variable {round : ℚ → Nat} {inFormat : Char} {inNum : ℚ}

/-- Bytes for an upper case format, bits for any other. -/
def counted (inFormat : Char) (inNum : ℚ) : ℚ := if inFormat.isUpper then inNum else inNum * 8

def base (inFormat : Char) : ℚ := if inFormat.isUpper then 1024 else 1000

def label (inFormat : Char) (conv : Conv) : List UInt8 :=
  if inFormat.isUpper then label_byte conv else label_bit conv

theorem base_bounds (inFormat : Char) : 1000 ≤ base inFormat ∧ base inFormat ≤ 1024 := by
  unfold base
  split_ifs <;> norm_num

theorem label_length (inFormat : Char) (conv : Conv) : (label inFormat conv).length ≤ 5 := by
  unfold label
  split_ifs <;> cases conv <;> decide +kernel

/-- Whatever the format, the number is the value in the chosen unit. -/
theorem unit_snprintf_eq (round : ℚ → Nat) (inLen : Nat) (inNum : ℚ) (inFormat : Char) :
    let conv := choose_conv (counted inFormat inNum) inFormat
    let scaled := counted inFormat inNum / base inFormat ^ conv.power
    unit_snprintf round inLen inNum inFormat =
      snprintf inLen (field 4 (fixed round (precision scaled) scaled) ++
        32 :: label inFormat conv) := by
  unfold unit_snprintf counted base label
  dsimp only
  split_ifs
  · rw [conversion_bytes_power, mul_one_div]
  · rw [conversion_bits_power, mul_one_div]

/-- With every format, the number is off by half a unit of its last decimal at most. -/
theorem printed_number (nearest : Nearest round) (inLen : Nat) (inNum : ℚ) (inFormat : Char) :
    ∃ number,
      let conv := choose_conv (counted inFormat inNum) inFormat
      unit_snprintf round inLen inNum inFormat =
          snprintf inLen (number ++ 32 :: label inFormat conv) ∧
        |shown number - counted inFormat inNum / base inFormat ^ conv.power| ≤
          1 / 2 / 10 ^ decimals number := by
  refine ⟨_, unit_snprintf_eq round inLen inNum inFormat, ?_⟩
  rw [field_shown, field_decimals, fixed_decimals]
  exact fixed_error nearest _ _

/-- Nothing is written beyond the buffer. -/
theorem unit_snprintf_within (round : ℚ → Nat) {inLen : Nat} (some : 0 < inLen) (inNum : ℚ)
    (inFormat : Char) : (unit_snprintf round inLen inNum inFormat).length ≤ inLen := by
  rw [unit_snprintf_eq, snprintf, List.length_append, List.length_take, List.length_singleton]
  omega

theorem choose_adaptive (adapts : inFormat = 'A' ∨ inFormat = 'a') (value : ℚ) :
    choose_conv value inFormat = adaptive (base inFormat) 4 value .UNIT_CONV := by
  rcases adapts with rfl | rfl <;> rfl

/-- What the text of a value in a unit has to be. -/
structure Readable (base value : ℚ) (conv : Conv) (number : List UInt8) : Prop where
  unit : Largest base value conv
  short : number.length ≤ 4
  near : |shown number - value / base ^ conv.power| ≤ 1 / 2 / 10 ^ decimals number
  precise : 1 ≤ value / base ^ conv.power → 3 ≤ significant number

/-- In the largest unit a value below it stays below what four characters hold. -/
theorem scaled_small {value : ℚ} {conv : Conv} (inFormat : Char)
    (largest : Largest (base inFormat) value conv)
    (below : value < 99995 / 10 * base inFormat ^ Conv.TERA_CONV.power) :
    value / base inFormat ^ conv.power < 99995 / 10 := by
  obtain ⟨low, high⟩ := base_bounds inFormat
  have positive : (0 : ℚ) < base inFormat ^ conv.power := pow_pos (by linarith) _
  rw [div_lt_iff₀ positive]
  by_cases top : conv = .TERA_CONV
  · rwa [top]
  · have next : value < base inFormat ^ conv.next.power := by
      by_contra reached
      have := largest.largest conv.next (not_lt.mp reached)
      rw [next_power top] at this
      omega
    rw [next_power top, pow_succ] at next
    nlinarith

/-- With an adaptive format, the text is the value in the largest unit that it reaches,
in four characters with three digits, and a buffer of eleven characters holds it. -/
theorem adaptive_faithful (round : ℚ → Nat) (nearest : Nearest round) (inFormat : Char)
    (adapts : inFormat = 'A' ∨ inFormat = 'a') (inLen : Nat) (room : 11 ≤ inLen) (inNum : ℚ)
    (nonneg : 0 ≤ inNum)
    (below : counted inFormat inNum < 99995 / 10 * base inFormat ^ Conv.TERA_CONV.power) :
    ∃ conv number,
      Readable (base inFormat) (counted inFormat inNum) conv number ∧
      unit_snprintf round inLen inNum inFormat = number ++ 32 :: label inFormat conv ++ [0] ∧
      (number ++ 32 :: label inFormat conv ++ [0]).length ≤ 11 := by
  obtain ⟨low, high⟩ := base_bounds inFormat
  have value_nonneg : 0 ≤ counted inFormat inNum := by
    unfold counted
    split_ifs <;> linarith
  have largest : Largest (base inFormat) (counted inFormat inNum)
      (choose_conv (counted inFormat inNum) inFormat) := by
    rw [choose_adaptive adapts]
    exact adaptive_largest 4 (by linarith) (by simp [Conv.power]) (.inl rfl) (by decide)
  have text := unit_snprintf_eq round inLen inNum inFormat
  dsimp only at text
  generalize choose_conv (counted inFormat inNum) inFormat = conv at largest text
  have small := scaled_small inFormat largest below
  have positive : 0 ≤ counted inFormat inNum / base inFormat ^ conv.power := by positivity
  generalize scaled_eq : counted inFormat inNum / base inFormat ^ conv.power = scaled at *
  have short : (field 4 (fixed round (precision scaled) scaled)).length ≤ 4 := by
    rw [field_length]
    exact max_le le_rfl (fixed_short nearest positive small)
  have labelled := label_length inFormat conv
  refine ⟨conv, field 4 (fixed round (precision scaled) scaled), ⟨largest, short, ?_, ?_⟩, ?_, ?_⟩
  · rw [scaled_eq, field_shown, field_decimals, fixed_decimals]
    exact fixed_error nearest _ scaled
  · intro large
    rw [field_significant]
    exact fixed_significant nearest (by rwa [scaled_eq] at large)
  · rw [text, snprintf, List.take_of_length_le]
    simp only [List.length_append, List.length_cons]
    omega
  · simp only [List.length_append, List.length_cons, List.length_nil]
    omega

/-- The threshold itself, where another digit before the point is due. -/
theorem adaptive_faithful_threshold :
    unit_snprintf half_even 11 (9995 / 1000 * 1024) 'A' = ascii "10.0 KByte" ++ [0] ∧
      ∃ conv number,
        Readable (base 'A') (counted 'A' (9995 / 1000 * 1024)) conv number ∧
        unit_snprintf half_even 11 (9995 / 1000 * 1024) 'A' =
          number ++ 32 :: label 'A' conv ++ [0] ∧
        (number ++ 32 :: label 'A' conv ++ [0]).length ≤ 11 :=
  ⟨by decide +kernel,
    adaptive_faithful half_even half_even_nearest 'A' (.inl rfl) 11 (by decide) _
      (by norm_num) (by decide +kernel)⟩

/-- Bits are counted in powers of 1000. -/
example : unit_snprintf half_even 11 (4 * 1024 * 1024 * 1024) 'a' = ascii "34.4 Gbit" ++ [0] := by
  decide +kernel

end Texts

end Iperf.UnitPrinting
