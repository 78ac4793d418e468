import Iperf.FixedPoint
import Mathlib.Data.Int.Log

/-!
Numbers printed as `%.15g` prints them, with a count of significant digits, and read
by `strtod`. The number that is printed is rounded once, to its last digit; what is
read back is exactly that. A numeral ends before the first character that cannot
belong to it.
-/

namespace Iperf.GeneralFormat

open FormattedText FixedPoint

section Printing

/-- The digits as one integer, and the power of ten of the first digit. -/
structure Scientific where
  coefficient : Nat
  exponent : Int

def Scientific.value (places : Nat) (s : Scientific) : ℚ :=
  s.coefficient * 10 ^ (s.exponent + 1 - places)

/-- Of a number that is positive. -/
def scientific (places : Nat) (value : ℚ) : Scientific :=
  let exponent := Int.log 10 value
  let coefficient := half_even (value / 10 ^ (exponent + 1 - places))
  if coefficient = 10 ^ places then ⟨10 ^ (places - 1), exponent + 1⟩
  else ⟨coefficient, exponent⟩

/-- Trailing zeros are dropped, and then the point if nothing follows it. -/
def strip (digits : List UInt8) : List UInt8 := (digits.reverse.dropWhile (· = 48)).reverse

def fraction (digits : List UInt8) : List UInt8 := if digits = [] then [] else 46 :: digits

/-- At least two. -/
def exponent_digits (exponent : Int) : List UInt8 :=
  (if exponent.natAbs < 10 then [48] else []) ++ decimal exponent.natAbs

def exponent_text (exponent : Int) : List UInt8 :=
  101 :: (if exponent < 0 then 45 else 43) :: exponent_digits exponent

def scientific_text (places : Nat) (s : Scientific) : List UInt8 :=
  let digits := padded places s.coefficient
  if -4 ≤ s.exponent ∧ s.exponent < places then
    if 0 ≤ s.exponent then
      digits.take (s.exponent.toNat + 1) ++ fraction (strip (digits.drop (s.exponent.toNat + 1)))
    else 48 :: fraction (strip (List.replicate (-s.exponent - 1).toNat 48 ++ digits))
  else
    digits.take 1 ++ fraction (strip (digits.drop 1)) ++ exponent_text s.exponent

/-- `%.*g`, of a number that is finite. -/
def general (places : Nat) (value : ℚ) : List UInt8 :=
  if value = 0 then [48]
  else (if value < 0 then [45] else []) ++ scientific_text places (scientific places |value|)

/-- What is printed. -/
def rounded (places : Nat) (value : ℚ) : ℚ :=
  if value = 0 then 0
  else (if value < 0 then -1 else 1) * (scientific places |value|).value places

end Printing

section Reading

def split_sign : List UInt8 → Bool × List UInt8
  | 45 :: rest => (true, rest)
  | 43 :: rest => (false, rest)
  | input => (false, input)

/-- The digits behind a point, if there is one. -/
def split_point : List UInt8 → List UInt8 × List UInt8
  | 46 :: rest => (rest.takeWhile isdigit, rest.dropWhile isdigit)
  | input => ([], input)

def signed_value (negative : Bool) (digits : List UInt8) : Int :=
  if negative then -digits_value digits else digits_value digits

/-- An exponent without digits is none. -/
def split_exponent : List UInt8 → Int × List UInt8
  | c :: rest =>
      if c = 101 ∨ c = 69 then
        let (negative, input) := split_sign rest
        if input.takeWhile isdigit = [] then (0, c :: rest)
        else (signed_value negative (input.takeWhile isdigit), input.dropWhile isdigit)
      else (0, c :: rest)
  | [] => (0, [])

/-- The decimal numerals of `strtod`, on a text that does not start with a space: the
exact number, and what follows the numeral. -/
def strtod (input : List UInt8) : Option (ℚ × List UInt8) :=
  let (negative, input) := split_sign input
  let whole := input.takeWhile isdigit
  let (places, input) := split_point (input.dropWhile isdigit)
  if whole = [] ∧ places = [] then none
  else
    let (exponent, input) := split_exponent input
    some (signed_value negative (whole ++ places) * 10 ^ (exponent - places.length), input)

/-- The characters that a numeral is made of. -/
def numeral (c : UInt8) : Bool := isdigit c ∨ c = 43 ∨ c = 45 ∨ c = 101 ∨ c = 69 ∨ c = 46

end Reading

section Pieces
variable {digits rest : List UInt8}

/-- What follows does not go on with a numeral. -/
def Stops (rest : List UInt8) : Prop := ∀ c ∈ rest.head?, numeral c = false

theorem takes_digits (all : ∀ c ∈ digits, isdigit c) (stops : ∀ c ∈ rest.head?, isdigit c = false) :
    (digits ++ rest).takeWhile isdigit = digits ∧
      (digits ++ rest).dropWhile isdigit = rest := by
  have stop : rest.takeWhile isdigit = [] ∧ rest.dropWhile isdigit = rest := by
    cases rest with
    | nil => exact ⟨rfl, rfl⟩
    | cons c rest =>
        have other := stops c rfl
        simp [other]
  rw [List.takeWhile_append_of_pos all, List.dropWhile_append_of_pos all, stop.1, stop.2,
    List.append_nil]
  exact ⟨rfl, rfl⟩

theorem strip_shape (digits : List UInt8) :
    digits = strip digits ++ List.replicate (digits.length - (strip digits).length) 48 := by
  induction digits using List.reverseRecOn with
  | nil => rfl
  | append_singleton front c ih =>
      by_cases zero : c = 48
      · have same : strip (front ++ [c]) = strip front := by simp [strip, zero]
        have shorter : (strip front).length ≤ front.length := by
          conv_rhs => rw [ih]
          simp
        rw [same, List.length_append, List.length_singleton, Nat.sub_add_comm shorter,
          List.replicate_succ', ← List.append_assoc, ← ih, zero]
      · simp [strip, zero]

theorem strip_value (high digits : List UInt8) :
    (digits_value (high ++ strip digits) : ℚ) / 10 ^ (strip digits).length =
      digits_value (high ++ digits) / 10 ^ digits.length := by
  obtain ⟨k, shape⟩ : ∃ k, digits = strip digits ++ List.replicate k 48 := ⟨_, strip_shape digits⟩
  have zeros : ∀ k, digits_value (List.replicate k 48) = 0 := by
    intro k
    induction k with
    | zero => rfl
    | succ k ih =>
        rw [List.replicate_succ', digits_value_append, ih]
        decide
  generalize strip digits = stripped at shape
  subst shape
  rw [← List.append_assoc, digits_value_append (high ++ stripped), zeros, List.length_append,
    List.length_replicate, pow_add]
  push_cast
  field_simp
  ring

theorem strip_digits (all : ∀ c ∈ digits, isdigit c) : ∀ c ∈ strip digits, isdigit c := by
  intro c member
  apply all
  rw [strip_shape digits]
  exact List.mem_append_left _ member

theorem strip_length (digits : List UInt8) : (strip digits).length ≤ digits.length := by
  conv_rhs => rw [strip_shape digits]
  simp

theorem numeral_digit {c : UInt8} (digit : isdigit c) : numeral c := by
  simp [numeral, digit]

theorem fraction_numeral (all : ∀ c ∈ digits, isdigit c) :
    ∀ c ∈ fraction digits, numeral c := by
  intro c member
  unfold fraction at member
  split at member
  · cases member
  · rcases List.mem_cons.mp member with rfl | member
    · decide
    · exact numeral_digit (all c member)

theorem exponent_all_digits (exponent : Int) : ∀ c ∈ exponent_digits exponent, isdigit c := by
  intro c member
  rcases List.mem_append.mp member with zero | digit
  · split at zero
    · rw [List.mem_singleton.mp zero]
      decide
    · cases zero
  · exact decimal_digits _ c digit

theorem exponent_value (exponent : Int) :
    digits_value (exponent_digits exponent) = exponent.natAbs := by
  rw [exponent_digits, digits_value_append, decimal_value]
  split <;> simp [digits_value]

theorem exponent_numeral (exponent : Int) : ∀ c ∈ exponent_text exponent, numeral c := by
  intro c member
  rcases List.mem_cons.mp member with rfl | member
  · decide
  rcases List.mem_cons.mp member with rfl | digit
  · split <;> decide
  · exact numeral_digit (exponent_all_digits exponent c digit)

theorem split_point_fraction (all : ∀ c ∈ digits, isdigit c)
    (stops : ∀ c ∈ rest.head?, isdigit c = false ∧ c ≠ 46) :
    split_point (fraction digits ++ rest) = (digits, rest) := by
  by_cases none : digits = []
  · subst none
    cases rest with
    | nil => rfl
    | cons c rest =>
        have other := (stops c rfl).2
        simp only [fraction, ↓reduceIte, List.nil_append]
        unfold split_point
        split
        · rename_i same
          exact absurd (List.cons.inj same).1 other
        · rfl
  · have taken := takes_digits all fun c first => (stops c first).1
    simp [fraction, none, split_point, taken]

theorem split_exponent_text (exponent : Int) (stops : ∀ c ∈ rest.head?, isdigit c = false) :
    split_exponent (exponent_text exponent ++ rest) = (exponent, rest) := by
  have taken := takes_digits (exponent_all_digits exponent) stops
  have written : exponent_digits exponent ≠ [] := by
    simp [exponent_digits, decimal_nonempty]
  have value := exponent_value exponent
  by_cases negative : exponent < 0
  · simp only [exponent_text, negative, ↓reduceIte, List.cons_append, split_exponent, true_or,
      split_sign, taken, written, signed_value, value]
    congr 1
    omega
  · simp only [exponent_text, negative, ↓reduceIte, List.cons_append, split_exponent, true_or,
      split_sign, taken, written, signed_value, value, Bool.false_eq_true]
    congr 1
    omega

theorem split_exponent_none (stops : Stops rest) : split_exponent rest = (0, rest) := by
  cases rest with
  | nil => rfl
  | cons c rest =>
      have other : c ≠ 101 ∧ c ≠ 69 := by
        have := stops c rfl
        constructor <;> rintro rfl <;> exact absurd this (by decide)
      simp [split_exponent, other]

theorem split_sign_digit (all : ∀ c ∈ digits, isdigit c) (some_digit : digits ≠ []) :
    split_sign (digits ++ rest) = (false, digits ++ rest) := by
  cases digits with
  | nil => exact absurd rfl some_digit
  | cons c digits =>
      have digit := all c List.mem_cons_self
      rw [List.cons_append]
      unfold split_sign
      split
      · rename_i same
        obtain ⟨rfl, -⟩ := List.cons.inj same
        exact absurd digit (by decide)
      · rename_i same
        obtain ⟨rfl, -⟩ := List.cons.inj same
        exact absurd digit (by decide)
      · rfl

end Pieces

section Numerals
variable {whole places rest : List UInt8} {exponent : Option Int}

/-- A numeral in its parts. -/
def numeral_text (negative : Bool) (whole places : List UInt8) (exponent : Option Int) :
    List UInt8 :=
  (if negative then [45] else []) ++ whole ++ fraction places ++
    (exponent.map exponent_text).getD []

theorem strtod_numeral (negative : Bool) (whole_digits : ∀ c ∈ whole, isdigit c)
    (some_digit : whole ≠ []) (place_digits : ∀ c ∈ places, isdigit c) (stops : Stops rest) :
    strtod (numeral_text negative whole places exponent ++ rest) =
      some ((signed_value negative (whole ++ places) : ℚ) *
        10 ^ (exponent.getD 0 - places.length), rest) := by
  set back := (exponent.map exponent_text).getD [] ++ rest with back_def
  have behind : ∀ c ∈ back.head?, isdigit c = false ∧ c ≠ 46 := by
    intro c first
    cases exponent with
    | none =>
        have other := stops c first
        constructor
        · by_contra digit
          rw [Bool.not_eq_false] at digit
          rw [numeral_digit digit] at other
          contradiction
        · rintro rfl
          exact absurd other (by decide)
    | some exponent =>
        obtain rfl : c = 101 := by simpa [back_def, exponent_text] using first.symm
        decide
  have power : split_exponent back = (exponent.getD 0, rest) := by
    cases exponent with
    | none => exact split_exponent_none stops
    | some exponent =>
        refine split_exponent_text exponent fun c first => ?_
        by_contra digit
        rw [Bool.not_eq_false] at digit
        have other := stops c first
        rw [numeral_digit digit] at other
        contradiction
  have front : ∀ c ∈ (fraction places ++ back).head?, isdigit c = false := by
    intro c first
    unfold fraction at first
    split at first
    · exact (behind c first).1
    · obtain rfl : c = 46 := by simpa using first.symm
      decide
  have sign : split_sign (numeral_text negative whole places exponent ++ rest) =
      (negative, whole ++ (fraction places ++ back)) := by
    cases negative with
    | true => simp [numeral_text, split_sign, back_def]
    | false =>
        rw [← split_sign_digit whole_digits some_digit]
        simp [numeral_text, back_def]
  have taken := takes_digits whole_digits front
  have point := split_point_fraction place_digits behind
  simp only [strtod, sign, taken, point, power, some_digit, false_and, ↓reduceIte]

theorem split_sign_length (input : List UInt8) : (split_sign input).2.length ≤ input.length := by
  unfold split_sign
  split
  · simp
  · simp
  · exact le_refl _

theorem split_exponent_length (input : List UInt8) :
    (split_exponent input).2.length ≤ input.length := by
  unfold split_exponent
  split
  · rename_i c rest
    have sign := split_sign_length rest
    have left := (List.dropWhile_suffix (l := (split_sign rest).2) isdigit).length_le
    split
    · dsimp only
      split
      · exact le_refl _
      · rw [List.length_cons]
        exact (left.trans sign).trans (Nat.le_succ _)
    · exact le_refl _
  · exact le_refl _

theorem split_point_length (input : List UInt8) :
    (split_point input).1.length + (split_point input).2.length ≤ input.length := by
  unfold split_point
  split
  · rename_i rest
    have both := congrArg List.length (List.takeWhile_append_dropWhile (p := isdigit) (l := rest))
    rw [List.length_append] at both
    rw [List.length_cons]
    dsimp only
    omega
  · simp

/-- A conversion takes a digit at least. -/
theorem strtod_shorter {input rest : List UInt8} {value : ℚ}
    (read : strtod input = some (value, rest)) : rest.length < input.length := by
  unfold strtod at read
  have sign := split_sign_length input
  have both := congrArg List.length
    (List.takeWhile_append_dropWhile (p := isdigit) (l := (split_sign input).2))
  have point := split_point_length ((split_sign input).2.dropWhile isdigit)
  have exponent := split_exponent_length (split_point ((split_sign input).2.dropWhile isdigit)).2
  rw [List.length_append] at both
  dsimp only at read
  split at read
  · cases read
  · rename_i digits
    have left := congrArg (fun result => result.2.length) (Option.some.inj read)
    dsimp only at left
    have some_digit : 0 < ((split_sign input).2.takeWhile isdigit).length +
        (split_point ((split_sign input).2.dropWhile isdigit)).1.length := by
      rw [← not_le]
      intro zero
      exact digits ⟨List.length_eq_zero_iff.mp (by omega), List.length_eq_zero_iff.mp (by omega)⟩
    omega

theorem numeral_text_numeral (negative : Bool) (whole_digits : ∀ c ∈ whole, isdigit c)
    (place_digits : ∀ c ∈ places, isdigit c) :
    ∀ c ∈ numeral_text negative whole places exponent, numeral c := by
  intro c member
  rcases List.mem_append.mp member with member | last
  · rcases List.mem_append.mp member with member | point
    · rcases List.mem_append.mp member with sign | digit
      · split at sign
        · rw [List.mem_singleton.mp sign]
          decide
        · cases sign
      · exact numeral_digit (whole_digits c digit)
    · exact fraction_numeral place_digits c point
  · cases exponent with
    | none => cases last
    | some exponent => exact exponent_numeral exponent c last

end Numerals

section Rounding
variable {places : Nat} {value : ℚ}

theorem ten_zpow_pos (e : Int) : (0 : ℚ) < 10 ^ e := zpow_pos (by norm_num) e

/-- The digits are a full count, and the last one is rounded. -/
theorem scientific_spec (positive : 0 < places) (nonzero : 0 < value) :
    10 ^ (places - 1) ≤ (scientific places value).coefficient ∧
      (scientific places value).coefficient < 10 ^ places ∧
      |(scientific places value).value places - value| * (2 * 10 ^ (places - 1)) ≤ value := by
  have low := Int.zpow_log_le_self (R := ℚ) (b := 10) (by decide) nonzero
  have high := Int.lt_zpow_succ_log_self (R := ℚ) (b := 10) (by decide) value
  push_cast at low high
  set exponent := Int.log 10 value with exponent_def
  have unit := ten_zpow_pos (exponent + 1 - places)
  set count := half_even (value / 10 ^ (exponent + 1 - places)) with count_def
  have error := half_even_nearest (value / 10 ^ (exponent + 1 - places)) (by positivity)
  have least : (10 : ℚ) ^ (places - 1) ≤ value / 10 ^ (exponent + 1 - places) := by
    rw [le_div_iff₀ unit, ← zpow_natCast, ← zpow_add₀ (by norm_num)]
    refine le_trans (zpow_le_zpow_right₀ (by norm_num) ?_) low
    omega
  have most : value / 10 ^ (exponent + 1 - places) < 10 ^ places := by
    rw [div_lt_iff₀ unit, ← zpow_natCast, ← zpow_add₀ (by norm_num)]
    refine lt_of_lt_of_le high (zpow_le_zpow_right₀ (by norm_num) ?_)
    omega
  have enough : 10 ^ (places - 1) ≤ count :=
    half_even_nearest.le (by positivity) (by push_cast; linarith)
  have few : count ≤ 10 ^ places := by
    have below : count < 10 ^ places + 1 :=
      half_even_nearest.lt (by positivity) (by push_cast; linarith)
    omega
  have close : |(count : ℚ) * 10 ^ (exponent + 1 - places) - value| * (2 * 10 ^ (places - 1)) ≤
      value := by
    have split : (count : ℚ) * 10 ^ (exponent + 1 - places) - value =
        (count - value / 10 ^ (exponent + 1 - places)) * 10 ^ (exponent + 1 - places) := by
      field_simp
    rw [split, abs_mul, abs_of_pos unit]
    have grid : (10 : ℚ) ^ (places - 1) * 10 ^ (exponent + 1 - places) ≤ value := by
      rwa [le_div_iff₀ unit] at least
    have power : (0 : ℚ) < 10 ^ (places - 1) := by positivity
    rw [← count_def] at error
    nlinarith [mul_pos power unit]
  unfold scientific
  simp only [← exponent_def, ← count_def]
  split
  · rename_i full
    refine ⟨le_rfl, Nat.pow_lt_pow_right (by decide) (by omega), ?_⟩
    have same : (⟨10 ^ (places - 1), exponent + 1⟩ : Scientific).value places =
        count * 10 ^ (exponent + 1 - places) := by
      rw [full]
      simp only [Scientific.value]
      push_cast
      rw [← zpow_natCast, ← zpow_natCast, ← zpow_add₀ (by norm_num), ← zpow_add₀ (by norm_num)]
      congr 1
      omega
    rw [same]
    exact close
  · rename_i short
    exact ⟨enough, lt_of_le_of_ne few short, close⟩

end Rounding

section General
variable {places : Nat} {s : Scientific} {value : ℚ} {rest : List UInt8}

/-- A text as a numeral without a sign. -/
structure Spells (text : List UInt8) (value : ℚ) (size : Nat) : Prop where
  parts : ∃ whole fractional exponent, text = numeral_text false whole fractional exponent ∧
    (∀ c ∈ whole, isdigit c) ∧ whole ≠ [] ∧ (∀ c ∈ fractional, isdigit c) ∧
    (digits_value (whole ++ fractional) : ℚ) * 10 ^ (exponent.getD 0 - fractional.length) = value
  short : text.length ≤ size

theorem fraction_length (digits : List UInt8) : (fraction digits).length ≤ digits.length + 1 := by
  unfold fraction
  split <;> simp

theorem exponent_text_length {exponent : Int} (small : exponent.natAbs < 1000) :
    (exponent_text exponent).length ≤ 5 := by
  have two := decimalOf_length (exponent.natAbs + 1) exponent.natAbs 2 (by omega)
  have one : exponent.natAbs < 10 → (decimal exponent.natAbs).length ≤ 1 := fun less =>
    decimalOf_length (exponent.natAbs + 1) exponent.natAbs 0 (by omega)
  rw [← decimal] at two
  simp only [exponent_text, exponent_digits, List.length_cons, List.length_append]
  split
  · rename_i less
    have := one less
    simp only [List.length_singleton]
    omega
  · simp only [List.length_nil]
    omega

theorem strip_scaled (whole digits : List UInt8) (power : Int) :
    (digits_value (whole ++ strip digits) : ℚ) * 10 ^ (power - (strip digits).length) =
      digits_value (whole ++ digits) * 10 ^ (power - digits.length) := by
  have same := strip_value whole digits
  rw [zpow_sub₀ (by norm_num), zpow_sub₀ (by norm_num), zpow_natCast, zpow_natCast]
  rw [div_eq_div_iff (by positivity) (by positivity)] at same
  field_simp
  rw [same]
  ring

theorem scientific_text_spells (positive : 0 < places)
    (few : s.coefficient < 10 ^ places) (small : s.exponent.natAbs < 1000) :
    Spells (scientific_text places s) (s.value places) (places + 6) := by
  have all := padded_digits places s.coefficient
  have count := padded_length places s.coefficient
  have written : digits_value (padded places s.coefficient) = s.coefficient := by
    rw [padded_value, Nat.mod_eq_of_lt few]
  unfold scientific_text
  generalize padded places s.coefficient = digits at all count written
  have taken : ∀ n, ∀ c ∈ digits.take n, isdigit c := fun n c member =>
    all c (List.mem_of_mem_take member)
  have dropped : ∀ n, ∀ c ∈ strip (digits.drop n), isdigit c := fun n =>
    strip_digits fun c member => all c (List.mem_of_mem_drop member)
  dsimp only
  by_cases fixed : -4 ≤ s.exponent ∧ s.exponent < places
  · rw [if_pos fixed]
    obtain ⟨low, high⟩ := fixed
    by_cases whole : 0 ≤ s.exponent
    · -- the point stands among the digits
      rw [if_pos whole]
      set n := s.exponent.toNat + 1 with n_def
      refine ⟨⟨digits.take n, strip (digits.drop n), none, by simp [numeral_text], taken n, ?_,
        dropped n, ?_⟩, ?_⟩
      · rw [ne_eq, List.take_eq_nil_iff]
        rintro (zero | none)
        · omega
        · rw [none] at count
          simp only [List.length_nil] at count
          omega
      · have scaled := strip_scaled (digits.take n) (digits.drop n) 0
        rw [Option.getD_none, scaled, List.take_append_drop, written, List.length_drop, count,
          Scientific.value]
        congr 2
        omega
      · have shorter := strip_length (digits.drop n)
        have point := fraction_length (strip (digits.drop n))
        simp only [List.length_append, List.length_take, List.length_drop, count] at shorter ⊢
        omega
    · -- zeros stand before the digits
      rw [if_neg whole]
      set zeros := (-s.exponent - 1).toNat with zeros_def
      have leading : ∀ c ∈ List.replicate zeros (48 : UInt8) ++ digits, isdigit c := by
        intro c member
        rcases List.mem_append.mp member with zero | digit
        · rw [List.eq_of_mem_replicate zero]
          decide
        · exact all c digit
      refine ⟨⟨[48], strip (List.replicate zeros 48 ++ digits), none, by simp [numeral_text],
        ?_, by simp, strip_digits leading, ?_⟩, ?_⟩
      · intro c member
        rw [List.mem_singleton.mp member]
        decide
      · have scaled := strip_scaled [48] (List.replicate zeros 48 ++ digits) 0
        have none : digits_value ([48] ++ (List.replicate zeros 48 ++ digits)) =
            s.coefficient := by
          have front : digits_value ([48] ++ List.replicate zeros 48) = 0 := by
            rw [← digits_value_zeros]
            simp [digits_value]
          rw [← List.append_assoc, digits_value_append, front, written]
          simp
        rw [Option.getD_none, scaled, none, List.length_append, List.length_replicate, count,
          Scientific.value]
        congr 2
        omega
      · have shorter := strip_length (List.replicate zeros 48 ++ digits)
        have point := fraction_length (strip (List.replicate zeros 48 ++ digits))
        simp only [List.length_append, List.length_replicate, List.length_cons, count]
          at shorter ⊢
        omega
  · rw [if_neg fixed]
    refine ⟨⟨digits.take 1, strip (digits.drop 1), some s.exponent, by simp [numeral_text],
      taken 1, ?_, dropped 1, ?_⟩, ?_⟩
    · rw [ne_eq, List.take_eq_nil_iff]
      rintro (zero | none)
      · omega
      · rw [none] at count
        simp only [List.length_nil] at count
        omega
    · have scaled := strip_scaled (digits.take 1) (digits.drop 1) s.exponent
      rw [Option.getD_some, scaled, List.take_append_drop, written, List.length_drop, count,
        Scientific.value]
      congr 2
      omega
    · have shorter := strip_length (digits.drop 1)
      have point := fraction_length (strip (digits.drop 1))
      have power := exponent_text_length small
      simp only [List.length_append, List.length_take, List.length_drop, count] at shorter ⊢
      omega

/-- What a text with a sign spells out. -/
structure Reads (text : List UInt8) (value : ℚ) (size : Nat) : Prop where
  numerals : ∀ c ∈ text, numeral c
  start : ∃ first rest, text = first :: rest ∧ (isdigit first ∨ first = 45)
  whole : ∀ rest, Stops rest → strtod (text ++ rest) = some (value, rest)
  short : text.length ≤ size

theorem Spells.reads {text : List UInt8} {size : Nat} (spells : Spells text value size)
    (negative : Bool) :
    Reads ((if negative then [45] else []) ++ text) ((if negative then -1 else 1) * value)
      (size + 1) := by
  obtain ⟨⟨whole, fractional, exponent, rfl, whole_digits, some_digit, place_digits, rfl⟩,
    short⟩ := spells
  have shape : (if negative then [45] else []) ++ numeral_text false whole fractional exponent =
      numeral_text negative whole fractional exponent := by
    cases negative <;> simp [numeral_text]
  rw [shape]
  refine ⟨numeral_text_numeral negative whole_digits place_digits, ?_, fun rest stops => ?_, ?_⟩
  · cases negative with
    | true => exact ⟨45, whole ++ fraction fractional ++ (exponent.map exponent_text).getD [],
        by simp [numeral_text], .inr rfl⟩
    | false =>
        cases whole with
        | nil => exact absurd rfl some_digit
        | cons c whole => exact ⟨c, whole ++ fraction fractional ++
            (exponent.map exponent_text).getD [], by simp [numeral_text],
            .inl (whole_digits c List.mem_cons_self)⟩
  · rw [strtod_numeral negative whole_digits some_digit place_digits stops]
    cases negative <;> simp [signed_value]
  · rw [← shape, List.length_append]
    have : (if negative then [(45 : UInt8)] else []).length ≤ 1 := by cases negative <;> simp
    omega

/-- A number that is printed is read back as it was rounded. -/
theorem general_reads (positive : 0 < places)
    (small : value ≠ 0 → (scientific places |value|).exponent.natAbs < 1000) :
    Reads (general places value) (rounded places value) (places + 7) := by
  by_cases zero : value = 0
  · have single : Spells [48] 0 (places + 6) :=
      ⟨⟨[48], [], none, rfl, by decide +kernel, by simp, by simp, by simp [digits_value]⟩, by simp⟩
    simpa [general, rounded, zero] using single.reads false
  · have spec := scientific_spec positive (abs_pos.mpr zero)
    have spells := scientific_text_spells positive spec.2.1 (small zero)
    simpa [general, rounded, zero] using spells.reads (decide (value < 0))

/-- A whole number is printed with all its digits, and read back. -/
theorem signed_reads (count : Int64) : Reads (signed count) count.toInt 20 := by
  have spells : Spells (decimal count.toInt.natAbs) count.toInt.natAbs 19 := by
    refine ⟨⟨decimal count.toInt.natAbs, [], none, by simp [numeral_text, fraction],
      decimal_digits _, decimal_nonempty _, by simp, by simp [decimal_value]⟩, ?_⟩
    have low := count.le_toInt
    have high := count.toInt_lt
    exact decimalOf_length _ _ 18 (by omega)
  have reads := spells.reads (decide (count.toInt < 0))
  have value : (if decide (count.toInt < 0) = true then (-1 : ℚ) else 1) *
      (count.toInt.natAbs : ℚ) = count.toInt := by
    rw [Nat.cast_natAbs]
    split
    · rename_i negative
      rw [abs_of_neg (of_decide_eq_true negative)]
      push_cast
      ring
    · rename_i nonneg
      rw [abs_of_nonneg (by simpa using nonneg), one_mul]
  rw [value] at reads
  simpa [signed] using reads

/-- What is printed differs by half a unit of the last digit at most. -/
theorem rounded_error (positive : 0 < places) (value : ℚ) :
    |rounded places value - value| * (2 * 10 ^ (places - 1)) ≤ |value| := by
  by_cases zero : value = 0
  · simp [rounded, zero]
  · have close := (scientific_spec positive (abs_pos.mpr zero)).2.2
    rcases lt_or_gt_of_ne zero with below | above
    · have same : |rounded places value - value| =
          |(scientific places |value|).value places - (|value|)| := by
        rw [rounded, if_neg zero, if_pos below, abs_of_neg below, ← abs_neg]
        ring_nf
      rwa [same]
    · have same : |rounded places value - value| =
          |(scientific places |value|).value places - (|value|)| := by
        rw [rounded, if_neg zero, if_neg (not_lt.mpr above.le), one_mul, abs_of_pos above]
      rwa [same]

theorem scientific_small {power : Nat} (few : power < 999) (nonzero : 0 < value)
    (low : (10 : ℚ) ^ (-(power : Int)) ≤ value) (high : value < 10 ^ power) :
    (scientific places value).exponent.natAbs < 1000 := by
  have least : -(power : Int) ≤ Int.log 10 value :=
    (Int.zpow_le_iff_le_log (b := 10) (by decide) nonzero).mp (by exact_mod_cast low)
  have most : Int.log 10 value < power :=
    (Int.lt_zpow_iff_log_lt (b := 10) (by decide) nonzero).mp (by exact_mod_cast high)
  unfold scientific
  dsimp only
  split <;> dsimp only <;> omega

end General

end Iperf.GeneralFormat
