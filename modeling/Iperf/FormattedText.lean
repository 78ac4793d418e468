import Mathlib.Algebra.Order.Ring.Int
import Mathlib.Data.List.DropRight
import Mathlib.Data.List.TakeWhile
import Mathlib.Tactic.TypeStar

/-!
One format for printing and for scanning, with `%s` and `%ld`. Printing copies
the text of the format; scanning takes any whitespace for the whitespace in it and
ends a string at the first whitespace. Fields that are words, printed with
whitespace between them, are scanned back.
-/

namespace Iperf.FormattedText

section Characters

def ascii (text : String) : List UInt8 := text.toList.map fun c => UInt8.ofNat c.toNat

/-- Space, and tab to carriage return. -/
def isspace (c : UInt8) : Bool := c = 32 ∨ (9 ≤ c ∧ c ≤ 13)

def isdigit (c : UInt8) : Bool := 48 ≤ c ∧ c ≤ 57

def skip_space (input : List UInt8) : List UInt8 := input.dropWhile isspace

/-- What `%s` reads: at least one character, and no whitespace. -/
def Word (text : List UInt8) : Prop := text ≠ [] ∧ ∀ c ∈ text, isspace c = false

instance (text : List UInt8) : Decidable (Word text) := inferInstanceAs (Decidable (_ ∧ _))

end Characters

section Format

inductive Item where
  | text (bytes : List UInt8)
  | string
  | number
  deriving DecidableEq, Repr

inductive Field where
  | string (bytes : List UInt8)
  | number (value : Int64)
  deriving DecidableEq, Repr

def text_before (text : List UInt8) (items : List Item) : List Item :=
  if text = [] then items else .text text :: items

/-- The items of a format, behind text that was already taken from it. -/
def items : List UInt8 → List UInt8 → List Item
  | text, [] => text_before text []
  | text, 37 :: 115 :: format => text_before text (.string :: items [] format)
  | text, 37 :: 108 :: 100 :: format => text_before text (.number :: items [] format)
  | text, c :: format => items (text ++ [c]) format

def decimalOf : Nat → Nat → List UInt8
  | 0, _ => []
  | fuel + 1, value =>
      (if value < 10 then [] else decimalOf fuel (value / 10)) ++ [UInt8.ofNat (48 + value % 10)]

def decimal (value : Nat) : List UInt8 := decimalOf (value + 1) value

def signed (value : Int64) : List UInt8 :=
  (if value.toInt < 0 then [45] else []) ++ decimal value.toInt.natAbs

def print : List Item → List Field → List UInt8
  | .text bytes :: items, fields => bytes ++ print items fields
  | .string :: items, .string bytes :: fields => bytes ++ print items fields
  | .number :: items, .number value :: fields => signed value ++ print items fields
  | _, _ => []

def scan_text : List UInt8 → List UInt8 → Option (List UInt8)
  | [], input => some input
  | c :: text, input =>
      if isspace c then scan_text text (skip_space input)
      else if input.head? = some c then scan_text text input.tail
      else none

def scan_string (input : List UInt8) : Option (List UInt8 × List UInt8) :=
  let input := skip_space input
  if input = [] then none
  else some (input.takeWhile (!isspace ·), input.dropWhile (!isspace ·))

def digits_value (digits : List UInt8) : Nat :=
  digits.foldl (fun value c => 10 * value + (c.toNat - 48)) 0

/-- A value beyond the type is taken for the nearest one. -/
def scan_number (input : List UInt8) : Option (Int64 × List UInt8) :=
  let input := skip_space input
  let negative : Bool := input.head? = some 45
  let input := if negative ∨ input.head? = some 43 then input.tail else input
  let digits := input.takeWhile isdigit
  if digits = [] then none
  else
    let value : Int := if negative then -digits_value digits else digits_value digits
    some (Int64.ofInt (max (-2 ^ 63) (min value (2 ^ 63 - 1))), input.dropWhile isdigit)

/-- The fields that were converted before the first mismatch. -/
def scan : List Item → List UInt8 → List Field
  | [], _ => []
  | .text bytes :: items, input =>
      ((scan_text bytes input).map (scan items)).getD []
  | .string :: items, input =>
      ((scan_string input).map fun read => .string read.1 :: scan items read.2).getD []
  | .number :: items, input =>
      ((scan_number input).map fun read => .number read.1 :: scan items read.2).getD []

end Format

section Numbers

theorem digit_toNat (value : Nat) : (UInt8.ofNat (48 + value % 10)).toNat = 48 + value % 10 := by
  have small : value % 10 < 10 := Nat.mod_lt _ (by decide)
  rw [UInt8.toNat_ofNat']
  omega

theorem digit_isdigit (value : Nat) : isdigit (UInt8.ofNat (48 + value % 10)) := by
  have small : value % 10 < 10 := Nat.mod_lt _ (by decide)
  have read := digit_toNat value
  have low : (48 : UInt8).toNat = 48 := rfl
  have high : (57 : UInt8).toNat = 57 := rfl
  simp only [isdigit, UInt8.le_iff_toNat_le, read, decide_eq_true_eq]
  omega

theorem decimalOf_digits (fuel value : Nat) : ∀ c ∈ decimalOf fuel value, isdigit c := by
  induction fuel generalizing value with
  | zero => simp [decimalOf]
  | succ fuel ih =>
      intro c member
      rw [decimalOf, List.mem_append, List.mem_singleton] at member
      rcases member with earlier | rfl
      · split at earlier
        · simp at earlier
        · exact ih _ c earlier
      · exact digit_isdigit value

theorem decimalOf_value (fuel value : Nat) (enough : value < fuel) :
    digits_value (decimalOf fuel value) = value := by
  induction fuel generalizing value with
  | zero => omega
  | succ fuel ih =>
      have read := digit_toNat value
      simp only [decimalOf, digits_value, List.foldl_append, List.foldl_cons, List.foldl_nil, read]
      split
      · simp only [List.foldl_nil]
        omega
      · have shorter := ih (value / 10) (by omega)
        rw [digits_value] at shorter
        rw [shorter]
        omega

theorem decimalOf_length (fuel value size : Nat) (small : value < 10 ^ (size + 1)) :
    (decimalOf fuel value).length ≤ size + 1 := by
  induction fuel generalizing value size with
  | zero => simp [decimalOf]
  | succ fuel ih =>
      rw [decimalOf]
      split
      · simp
      · rename_i long
        cases size with
        | zero => omega
        | succ size =>
            have shorter : value / 10 < 10 ^ (size + 1) := by
              rw [Nat.div_lt_iff_lt_mul (by decide), ← Nat.pow_succ]
              exact small
            have := ih (value / 10) size shorter
            simp only [List.length_append, List.length_singleton]
            omega

theorem decimal_nonempty (value : Nat) : decimal value ≠ [] := by
  simp [decimal, decimalOf]

theorem digit_not_space {c : UInt8} (digit : isdigit c) : isspace c = false := by
  simp only [isdigit, isspace, decide_eq_true_eq, decide_eq_false_iff_not, UInt8.le_iff_toNat_le,
    ← UInt8.toNat_inj] at digit ⊢
  have constants : (48 : UInt8).toNat = 48 ∧ (57 : UInt8).toNat = 57 ∧ (32 : UInt8).toNat = 32 ∧
    (9 : UInt8).toNat = 9 ∧ (13 : UInt8).toNat = 13 := by decide
  omega

/-- A printed number is at most a sign and nineteen digits. -/
theorem signed_length (value : Int64) : (signed value).length ≤ 20 := by
  have low := value.le_toInt
  have high := value.toInt_lt
  have digits := decimalOf_length (value.toInt.natAbs + 1) value.toInt.natAbs 18 (by omega)
  rw [signed, decimal, List.length_append]
  split
  · simp only [List.length_singleton]
    omega
  · simp only [List.length_nil]
    omega

theorem signed_word (value : Int64) : Word (signed value) := by
  constructor
  · simp [signed, decimal_nonempty]
  · intro c member
    rw [signed, List.mem_append] at member
    rcases member with sign | digit
    · split at sign
      · rw [List.mem_singleton.mp sign]
        decide
      · simp at sign
    · exact digit_not_space (decimalOf_digits _ _ c digit)

theorem signed_nonzero (value : Int64) : ∀ c ∈ signed value, c ≠ 0 := by
  intro c member
  rw [signed, List.mem_append] at member
  rcases member with sign | digit
  · split at sign
    · rw [List.mem_singleton.mp sign]
      decide
    · simp at sign
  · rintro rfl
    exact absurd (decimalOf_digits _ _ 0 digit) (by decide)

end Numbers

section Scanning
variable {text rest : List UInt8}

/-- A place where skipping whitespace changes nothing. -/
def Starts (input : List UInt8) : Prop := skip_space input = input

/-- A place where a string or a number ends. -/
def Ends (input : List UInt8) : Prop := ∀ c ∈ input.head?, isspace c

theorem starts_word (word : Word text) (rest : List UInt8) : Starts (text ++ rest) := by
  obtain ⟨nonempty, plain⟩ := word
  cases text with
  | nil => exact absurd rfl nonempty
  | cons c text =>
      have first := plain c List.mem_cons_self
      simp [Starts, skip_space, first]

/-- Text is scanned back, with or without the whitespace before it. -/
theorem scan_text_print (text : List UInt8) (starts : Starts rest) :
    scan_text text (text ++ rest) = some rest ∧
      scan_text text (skip_space (text ++ rest)) = some rest := by
  induction text with
  | nil => exact ⟨rfl, congrArg some starts⟩
  | cons c text ih =>
      cases space : isspace c with
      | true =>
          have skipped : skip_space (c :: (text ++ rest)) = skip_space (text ++ rest) := by
            simp [skip_space, space]
          have again : skip_space (skip_space (text ++ rest)) = skip_space (text ++ rest) :=
            List.dropWhile_idempotent _ _
          simp only [List.cons_append, scan_text, space, if_true, skipped, again]
          exact ⟨ih.2, ih.2⟩
      | false =>
          have kept : skip_space (c :: (text ++ rest)) = c :: (text ++ rest) := by
            simp [skip_space, space]
          simp only [List.cons_append, kept, scan_text, space, List.head?_cons, List.tail_cons,
            if_true, Bool.false_eq_true, if_false]
          exact ⟨ih.1, ih.1⟩

theorem scan_string_print (word : Word text) (ends : Ends rest) :
    scan_string (text ++ rest) = some (text, rest) := by
  have starts : skip_space (text ++ rest) = text ++ rest := starts_word word rest
  have nonempty : text ++ rest ≠ [] := by
    simp [word.1]
  have plain : ∀ c ∈ text, !isspace c := fun c member => by simp [word.2 c member]
  have stops : rest.takeWhile (!isspace ·) = [] ∧ rest.dropWhile (!isspace ·) = rest := by
    cases rest with
    | nil => exact ⟨rfl, rfl⟩
    | cons c rest =>
        have space := ends c rfl
        simp [space]
  rw [scan_string, starts, if_neg nonempty, List.takeWhile_append_of_pos plain,
    List.dropWhile_append_of_pos plain, stops.1, stops.2, List.append_nil]

/-- Every string that was scanned is a word. -/
theorem scan_string_word {input : List UInt8} (read : scan_string input = some (text, rest)) :
    Word text := by
  unfold scan_string at read
  dsimp only at read
  split at read
  · contradiction
  · rename_i some_input
    cases read
    constructor
    · have first := List.head_dropWhile_not isspace some_input
      cases left : skip_space input with
      | nil => exact absurd left some_input
      | cons c tail =>
          have head : isspace c = false := by
            simpa only [show List.dropWhile isspace input = c :: tail from left,
              List.head_cons] using first
          simp [head]
    · intro c member
      simpa using List.mem_takeWhile_imp member

theorem digits_stop (ends : Ends rest) :
    rest.takeWhile isdigit = [] ∧ rest.dropWhile isdigit = rest := by
  cases rest with
  | nil => exact ⟨rfl, rfl⟩
  | cons c rest =>
      have space := ends c rfl
      cases digit : isdigit c with
      | true =>
          rw [digit_not_space digit] at space
          contradiction
      | false => simp [digit]

/-- A sign is not a digit. -/
theorem decimal_unsigned (value : Nat) :
    (decimal value ++ rest).head? ≠ some 45 ∧ (decimal value ++ rest).head? ≠ some 43 := by
  have digits := decimalOf_digits (value + 1) value
  have nonempty := decimal_nonempty value
  cases written : decimal value with
  | nil => exact absurd written nonempty
  | cons c tail =>
      have first : isdigit c := digits c (by rw [← decimal, written]; exact List.mem_cons_self)
      simp only [List.cons_append, List.head?_cons, ne_eq, Option.some.injEq]
      constructor
      · rintro rfl
        exact absurd first (by decide)
      · rintro rfl
        exact absurd first (by decide)

theorem scan_number_print (value : Int64) (ends : Ends rest) :
    scan_number (signed value ++ rest) = some (value, rest) := by
  have starts : skip_space (signed value ++ rest) = signed value ++ rest :=
    starts_word (signed_word value) rest
  have low := value.le_toInt
  have high := value.toInt_lt
  have digits := decimalOf_digits (value.toInt.natAbs + 1) value.toInt.natAbs
  rw [← decimal] at digits
  have stop := digits_stop ends
  have taken : (decimal value.toInt.natAbs ++ rest).takeWhile isdigit =
      decimal value.toInt.natAbs := by
    rw [List.takeWhile_append_of_pos digits, stop.1, List.append_nil]
  have dropped : (decimal value.toInt.natAbs ++ rest).dropWhile isdigit = rest := by
    rw [List.dropWhile_append_of_pos digits, stop.2]
  have read : digits_value (decimal value.toInt.natAbs) = value.toInt.natAbs :=
    decimalOf_value _ _ (Nat.lt_succ_self _)
  have unsigned := @decimal_unsigned rest value.toInt.natAbs
  have nonempty := decimal_nonempty value.toInt.natAbs
  rw [scan_number, starts, signed]
  by_cases negative : value.toInt < 0
  · have exactly : max (-2 ^ 63) (min (-(value.toInt.natAbs : Int)) (2 ^ 63 - 1)) = value.toInt := by
      omega
    simp only [if_pos negative, List.cons_append, List.nil_append, List.head?_cons, decide_true,
      true_or, if_true, List.tail_cons, taken, dropped, read, nonempty, if_false, exactly,
      Int64.ofInt_toInt]
  · have exactly : max (-2 ^ 63) (min (value.toInt.natAbs : Int) (2 ^ 63 - 1)) = value.toInt := by
      omega
    simp only [if_neg negative, List.nil_append, unsigned.1, unsigned.2, decide_false,
      Bool.false_eq_true, or_self, if_false, taken, dropped, read, nonempty, exactly,
      Int64.ofInt_toInt]

/-- What is left is never longer than what was read. -/
theorem skip_space_length (input : List UInt8) : (skip_space input).length ≤ input.length := by
  apply List.Sublist.length_le
  exact List.dropWhile_sublist _

theorem scan_text_length {text input rest : List UInt8} (read : scan_text text input = some rest) :
    rest.length + (text.filter (!isspace ·)).length ≤ input.length := by
  induction text generalizing input with
  | nil =>
      cases read
      simp
  | cons c text ih =>
      rw [scan_text] at read
      cases space : isspace c with
      | true =>
          have := ih (by simpa [space] using read)
          have := skip_space_length input
          simp only [List.filter_cons, space, Bool.not_true, Bool.false_eq_true, if_false]
          omega
      | false =>
          cases input with
          | nil => simp [space] at read
          | cons d input =>
              by_cases same : d = c
              · have := ih (by simpa [space, same] using read)
                simp only [List.filter_cons, space, Bool.not_false, if_true, List.length_cons]
                omega
              · simp [space, same] at read

/-- A string takes its own characters. -/
theorem scan_string_takes {input : List UInt8} (read : scan_string input = some (text, rest)) :
    rest.length + text.length ≤ input.length ∧ Ends rest := by
  have skipped := skip_space_length input
  unfold scan_string at read
  dsimp only at read
  split at read
  · contradiction
  · cases read
    constructor
    · have parts := congrArg List.length
        (List.takeWhile_append_dropWhile (p := (!isspace ·)) (l := skip_space input))
      rw [List.length_append] at parts
      omega
    · intro c member
      have first := List.head?_dropWhile_not (!isspace ·) (skip_space input)
      rw [Option.mem_def.mp member] at first
      simpa using first

theorem scan_string_length {input : List UInt8} (read : scan_string input = some (text, rest)) :
    text.length ≤ input.length ∧ rest.length ≤ input.length := by
  have taken := (scan_string_takes read).1
  omega

/-- A number has a digit. -/
theorem scan_number_takes {input : List UInt8} {found : Int64 × List UInt8}
    (read : scan_number input = some found) : found.2.length < input.length := by
  have skipped := skip_space_length input
  have digits (left : List UInt8) (some_digits : left.takeWhile isdigit ≠ []) :
      (left.dropWhile isdigit).length < left.length := by
    have parts := congrArg List.length
      (List.takeWhile_append_dropWhile (p := isdigit) (l := left))
    have positive := List.length_pos_iff.mpr some_digits
    rw [List.length_append] at parts
    omega
  unfold scan_number at read
  dsimp only at read
  split at read <;> split at read
  · contradiction
  · rename_i signed some_digits
    cases read
    have := digits _ some_digits
    have := (List.tail_sublist (skip_space input)).length_le
    dsimp only
    omega
  · contradiction
  · rename_i unsigned some_digits
    cases read
    have := digits _ some_digits
    dsimp only
    omega

theorem scan_number_length {input : List UInt8} {found : Int64 × List UInt8}
    (read : scan_number input = some found) : found.2.length ≤ input.length :=
  Nat.le_of_lt (scan_number_takes read)

end Scanning

section RoundTrip

/-- Nothing, or text that starts with whitespace. -/
def spaced : List Item → Bool
  | [] => true
  | .text (c :: _) :: _ => isspace c
  | _ => false

def converts : List Item → Bool
  | .text _ :: _ => false
  | _ => true

/-- There is whitespace between a field and the text behind it. -/
def Separated : List Item → Bool
  | [] => true
  | .text _ :: items => converts items && Separated items
  | _ :: items => spaced items && Separated items

/-- Fields of the types of a format, with words for its strings. -/
def Fits : List Item → List Field → Prop
  | [], [] => True
  | .text _ :: items, fields => Fits items fields
  | .string :: items, .string bytes :: fields => Word bytes ∧ Fits items fields
  | .number :: items, .number _ :: fields => Fits items fields
  | _, _ => False

theorem print_ends {items : List Item} (fields : List Field) (between : spaced items) :
    Ends (print items fields) := by
  cases items with
  | nil =>
      intro c member
      simp [print] at member
  | cons item items =>
      cases item with
      | string => contradiction
      | number => contradiction
      | text bytes =>
          cases bytes with
          | nil => contradiction
          | cons first bytes =>
              intro c member
              simp only [print, List.cons_append, List.head?_cons, Option.mem_def,
                Option.some.injEq] at member
              rw [← member]
              exact between

theorem print_starts {items : List Item} {fields : List Field} (field : converts items)
    (fits : Fits items fields) : Starts (print items fields) := by
  cases items with
  | nil => rw [print] <;> simp [Starts, skip_space]
  | cons item items =>
      cases item with
      | text bytes => contradiction
      | string =>
          cases fields with
          | nil => exact fits.elim
          | cons first fields =>
              cases first with
              | number value => exact fits.elim
              | string bytes => exact starts_word fits.1 _
      | number =>
          cases fields with
          | nil => exact fits.elim
          | cons first fields =>
              cases first with
              | string bytes => exact fits.elim
              | number value => exact starts_word (signed_word value) _

/-- Scanning undoes printing. -/
theorem scan_print {items : List Item} {fields : List Field} (separated : Separated items)
    (fits : Fits items fields) : scan items (print items fields) = fields := by
  induction items generalizing fields with
  | nil =>
      cases fields with
      | nil => rfl
      | cons first fields => exact fits.elim
  | cons item items ih =>
      cases item with
      | text bytes =>
          rw [Separated, Bool.and_eq_true] at separated
          have read := (scan_text_print bytes (print_starts separated.1 fits)).1
          simp only [print, scan, read, Option.map_some, Option.getD_some]
          exact ih separated.2 fits
      | string =>
          rw [Separated, Bool.and_eq_true] at separated
          · cases fields with
            | nil => exact fits.elim
            | cons first fields =>
                cases first with
                | number value => exact fits.elim
                | string bytes =>
                    have read := scan_string_print fits.1 (print_ends fields separated.1)
                    simp only [print, scan, read, Option.map_some, Option.getD_some]
                    rw [ih separated.2 fits.2]
          · simp
      | number =>
          rw [Separated, Bool.and_eq_true] at separated
          · cases fields with
            | nil => exact fits.elim
            | cons first fields =>
                cases first with
                | string bytes => exact fits.elim
                | number value =>
                    have read := scan_number_print value (print_ends fields separated.1)
                    simp only [print, scan, read, Option.map_some, Option.getD_some]
                    rw [ih separated.2 fits]
          · simp

/-- A string comes from what was left of the input when its turn came. -/
theorem scan_source (items : List Item) (input : List UInt8) {bytes : List UInt8}
    (field : .string bytes ∈ scan items input) :
    ∃ left rest, left.length ≤ input.length ∧ scan_string left = some (bytes, rest) := by
  induction items generalizing input with
  | nil => simp [scan] at field
  | cons item items ih =>
      cases item with
      | text literal =>
          cases read : scan_text literal input with
          | none => simp [scan, read] at field
          | some rest =>
              simp only [scan, read, Option.map_some, Option.getD_some] at field
              obtain ⟨left, rest, shorter, source⟩ := ih rest field
              have consumed := scan_text_length read
              exact ⟨left, rest, by omega, source⟩
      | string =>
          cases read : scan_string input with
          | none => simp [scan, read] at field
          | some found =>
              simp only [scan, read, Option.map_some, Option.getD_some, List.mem_cons,
                Field.string.injEq] at field
              rcases field with rfl | later
              · exact ⟨input, found.2, Nat.le_refl _, read⟩
              · obtain ⟨left, rest, shorter, source⟩ := ih found.2 later
                exact ⟨left, rest, shorter.trans (scan_string_length read).2, source⟩
      | number =>
          cases read : scan_number input with
          | none => simp [scan, read] at field
          | some found =>
              simp only [scan, read, Option.map_some, Option.getD_some, List.mem_cons, reduceCtorEq,
                false_or] at field
              obtain ⟨left, rest, shorter, source⟩ := ih found.2 field
              exact ⟨left, rest, shorter.trans (scan_number_length read), source⟩

/-- Whatever is scanned, its strings are words. -/
theorem scan_words (items : List Item) (input : List UInt8) {bytes : List UInt8}
    (field : .string bytes ∈ scan items input) : Word bytes := by
  obtain ⟨left, rest, _, source⟩ := scan_source items input field
  exact scan_string_word source

/-- No string is longer than what it was scanned from. -/
theorem scan_length (items : List Item) (input : List UInt8) {bytes : List UInt8}
    (field : .string bytes ∈ scan items input) : bytes.length ≤ input.length := by
  obtain ⟨left, rest, shorter, source⟩ := scan_source items input field
  exact (scan_string_length source).1.trans shorter

end RoundTrip

end Iperf.FormattedText
