import Iperf.FormattedText
import Iperf.LongestMatch
import Mathlib.Algebra.Order.Field.Rat
import Mathlib.Data.Rat.Defs

/-!
What `%lf` reads, by the C standard: a number as `strtod` takes it, with an optional
sign, in decimal or hexadecimal form, or an infinity, or not a number. The state of the
scanner is the numeral as far as it was read, and numbers are exact.
-/

namespace Iperf.FloatText

open FormattedText LongestMatch

section Characters

def tolower (c : UInt8) : UInt8 := if 65 ≤ c ∧ c ≤ 90 then c + 32 else c

def isxdigit (c : UInt8) : Bool := isdigit c ∨ (97 ≤ tolower c ∧ tolower c ≤ 102)

/-- What may stand between the parentheses behind `nan`. -/
def isword (c : UInt8) : Bool := isdigit c ∨ (97 ≤ tolower c ∧ tolower c ≤ 122) ∨ c = 95

def issign (c : UInt8) : Bool := c = 43 ∨ c = 45

def digit_value (c : UInt8) : Nat :=
  if isdigit c then c.toNat - 48 else (tolower c).toNat - 87

def value_in (base : Nat) (digits : List UInt8) : Nat :=
  digits.foldl (fun value c => base * value + digit_value c) 0

theorem tolower_digit {c : UInt8} (digit : isdigit c) : tolower c = c := by
  have high : (57 : UInt8).toNat = 57 := rfl
  have upper : (65 : UInt8).toNat = 65 := rfl
  simp only [isdigit, decide_eq_true_eq, UInt8.le_iff_toNat_le, high] at digit
  apply if_neg
  rw [UInt8.le_iff_toNat_le, upper]
  omega

/-- A letter is not a digit. -/
theorem letter_not_digit {c letter : UInt8} (same : tolower c = letter)
    (other : isdigit letter = false) : isdigit c = false := by
  cases digit : isdigit c with
  | false => rfl
  | true =>
      rw [tolower_digit digit] at same
      rw [← other, ← same, digit]

end Characters

section Numerals

/-- Digits with at most one point; `hex` is the letter of a hexadecimal prefix. -/
structure Mantissa where
  hex : Option UInt8
  whole : List UInt8
  fraction : Option (List UInt8)
  deriving DecidableEq, Repr

structure Exponent where
  letter : UInt8
  sign : Option UInt8
  digits : List UInt8
  deriving DecidableEq, Repr

/-- A numeral without its sign, read to its end or not. -/
inductive Body where
  | empty
  | mantissa (m : Mantissa)
  | exponent (m : Mantissa) (e : Exponent)
  | infinity (word : List UInt8)
  | nan (word : List UInt8)
  | nan_chars (word chars : List UInt8)
  | nan_closed (word chars : List UInt8)
  deriving DecidableEq, Repr

structure Numeral where
  sign : Option UInt8
  body : Body
  deriving DecidableEq, Repr

/-- A `double`, with an exact value where it is finite. -/
inductive Number where
  | finite (value : ℚ)
  | infinity (negative : Bool)
  | nan
  deriving DecidableEq

namespace Mantissa
variable (m : Mantissa)

def isdigit (c : UInt8) : Bool := if m.hex = none then FormattedText.isdigit c else isxdigit c

def decimals : List UInt8 := m.fraction.getD []

def digits : List UInt8 := m.whole ++ m.decimals

/-- The letter that opens an exponent. -/
def mark : UInt8 := if m.hex = none then 101 else 112

def base : Nat := if m.hex = none then 10 else 16

def value : ℚ := value_in m.base m.digits / m.base ^ m.decimals.length

def text : List UInt8 :=
  m.hex.elim [] (fun x => [48, x]) ++ m.whole ++ m.fraction.elim [] (46 :: ·)

def push (c : UInt8) : Mantissa :=
  match m.fraction with
  | none => { m with whole := m.whole ++ [c] }
  | some fraction => { m with fraction := some (fraction ++ [c]) }

/-- The digits are digits, and something was read. -/
structure Valid : Prop where
  prefixed : ∀ x ∈ m.hex, tolower x = 120
  all : ∀ c ∈ m.digits, m.isdigit c
  started : m.hex ≠ none ∨ m.whole ≠ [] ∨ m.fraction ≠ none

def step (c : UInt8) : Option Body :=
  if m.isdigit c then some (.mantissa (m.push c))
  else if c = 46 ∧ m.fraction = none then some (.mantissa { m with fraction := some [] })
  else if m = ⟨none, [48], none⟩ ∧ tolower c = 120 then some (.mantissa ⟨some c, [], none⟩)
  else if m.digits ≠ [] ∧ tolower c = m.mark then some (.exponent m ⟨c, none, []⟩)
  else none

end Mantissa

namespace Exponent
variable (e : Exponent)

def text : List UInt8 := e.letter :: (e.sign.toList ++ e.digits)

def power : Int := if e.sign = some 45 then -value_in 10 e.digits else value_in 10 e.digits

structure Valid (mark : UInt8) : Prop where
  marked : tolower e.letter = mark
  signed : ∀ c ∈ e.sign, issign c
  all : ∀ c ∈ e.digits, isdigit c

def step (c : UInt8) : Option Exponent :=
  if isdigit c then some { e with digits := e.digits ++ [c] }
  else if issign c ∧ e.sign = none ∧ e.digits = [] then some { e with sign := some c }
  else none

end Exponent

/-- The next letter of a word, in either case. -/
def spell (name word : List UInt8) (c : UInt8) : Option (List UInt8) :=
  if name[word.length]? = some (tolower c) then some (word ++ [c]) else none

def infinity_name : List UInt8 := ascii "infinity"

def nan_name : List UInt8 := ascii "nan"

namespace Body

def text : Body → List UInt8
  | .empty => []
  | .mantissa m => m.text
  | .exponent m e => m.text ++ e.text
  | .infinity word => word
  | .nan word => word
  | .nan_chars word chars => word ++ 40 :: chars
  | .nan_closed word chars => word ++ 40 :: chars ++ [41]

/-- A numeral of the standard, or a prefix of one. -/
def Valid : Body → Prop
  | .empty => True
  | .mantissa m => m.Valid
  | .exponent m e => m.Valid ∧ m.digits ≠ [] ∧ e.Valid m.mark
  | .infinity word => word ≠ [] ∧ word.map tolower <+: infinity_name
  | .nan word => word ≠ [] ∧ word.map tolower <+: nan_name
  | .nan_chars word chars => word.map tolower = nan_name ∧ ∀ c ∈ chars, isword c
  | .nan_closed word chars => word.map tolower = nan_name ∧ ∀ c ∈ chars, isword c

/-- The number, where the numeral is complete. `inf` and `infinity` both are. -/
def result : Body → Option Number
  | .empty => none
  | .mantissa m => if m.digits = [] then none else some (.finite m.value)
  | .exponent m e =>
      if e.digits = [] then none
      else some (.finite (m.value * (if m.hex = none then 10 else 2) ^ e.power))
  | .infinity word =>
      if word.length = 3 ∨ word.length = 8 then some (.infinity false) else none
  | .nan word => if word.length = 3 then some .nan else none
  | .nan_chars _ _ => none
  | .nan_closed _ _ => some .nan

def step : Body → UInt8 → Option Body
  | .empty, c =>
      if isdigit c then some (.mantissa ⟨none, [c], none⟩)
      else if c = 46 then some (.mantissa ⟨none, [], some []⟩)
      else if tolower c = 105 then some (.infinity [c])
      else if tolower c = 110 then some (.nan [c])
      else none
  | .mantissa m, c => m.step c
  | .exponent m e, c => (e.step c).map (.exponent m)
  | .infinity word, c => (spell infinity_name word c).map .infinity
  | .nan word, c =>
      if word.length = 3 ∧ c = 40 then some (.nan_chars word [])
      else (spell nan_name word c).map .nan
  | .nan_chars word chars, c =>
      if c = 41 then some (.nan_closed word chars)
      else if isword c then some (.nan_chars word (chars ++ [c]))
      else none
  | .nan_closed _ _, _ => none

end Body

def Number.negate : Number → Number
  | .finite value => .finite (-value)
  | .infinity negative => .infinity !negative
  | .nan => .nan

namespace Numeral

def text (n : Numeral) : List UInt8 := n.sign.toList ++ n.body.text

structure Valid (n : Numeral) : Prop where
  signed : ∀ c ∈ n.sign, issign c
  body : n.body.Valid

def result (n : Numeral) : Option Number :=
  n.body.result.map fun number => if n.sign = some 45 then number.negate else number

def step (n : Numeral) (c : UInt8) : Option Numeral :=
  if n = ⟨none, .empty⟩ ∧ issign c then some ⟨some c, .empty⟩
  else (n.body.step c).map (⟨n.sign, ·⟩)

end Numeral

def lf : Reader Numeral UInt8 Number where
  start := ⟨none, .empty⟩
  step := Numeral.step
  result := Numeral.result

/-- `sscanf` with `%lf%c`: the number, and the character behind it if there is one. -/
def sscanf_lf_c (s : List UInt8) : Option (Number × Option UInt8) :=
  (scan lf (skip_space s)).map fun read => (read.1, read.2.head?)

end Numerals

section Reading
variable {m : Mantissa} {e : Exponent} {b next : Body} {n : Numeral} {c : UInt8}
  {word name spelt : List UInt8}

theorem push_text (m : Mantissa) (c : UInt8) : (m.push c).text = m.text ++ [c] := by
  unfold Mantissa.push
  split
  · rename_i none
    simp [Mantissa.text, none]
  · rename_i fraction some
    simp [Mantissa.text, some]

theorem push_digits (m : Mantissa) (c : UInt8) : (m.push c).digits = m.digits ++ [c] := by
  unfold Mantissa.push
  split
  · rename_i none
    simp [Mantissa.digits, Mantissa.decimals, none]
  · rename_i fraction some
    simp [Mantissa.digits, Mantissa.decimals, some]

theorem push_hex (m : Mantissa) (c : UInt8) : (m.push c).hex = m.hex := by
  unfold Mantissa.push
  split <;> rfl

theorem spell_some (spells : spell name word c = some spelt) :
    spelt = word ++ [c] ∧ name[word.length]? = some (tolower c) := by
  unfold spell at spells
  split at spells
  · rename_i letter
    exact ⟨(Option.some.inj spells).symm, letter⟩
  · cases spells

/-- A word that goes on with the right letter is still a prefix of the name. -/
theorem spelt_prefix (before : word.map tolower <+: name)
    (letter : name[word.length]? = some (tolower c)) : (word ++ [c]).map tolower <+: name := by
  obtain ⟨rest, rfl⟩ := before
  rw [List.getElem?_append_right (by simp), List.length_map, Nat.sub_self] at letter
  cases rest with
  | nil => cases letter
  | cons first rest =>
      cases letter
      exact ⟨rest, by simp⟩

theorem mantissa_step_text (stepped : m.step c = some next) : next.text = m.text ++ [c] := by
  unfold Mantissa.step at stepped
  split_ifs at stepped with digit point prefixed mark
  · cases stepped
    exact push_text m c
  · cases stepped
    simp [Body.text, Mantissa.text, point.1, point.2]
  · cases stepped
    rw [prefixed.1]
    rfl
  · cases stepped
    simp [Body.text, Exponent.text]

theorem exponent_step_text {e' : Exponent} (stepped : e.step c = some e') :
    e'.text = e.text ++ [c] := by
  unfold Exponent.step at stepped
  split_ifs at stepped with digit sign
  · cases stepped
    simp [Exponent.text]
  · cases stepped
    simp [Exponent.text, sign.2.1, sign.2.2]

/-- The state holds what was read. -/
theorem body_step_text (stepped : b.step c = some next) : next.text = b.text ++ [c] := by
  cases b with
  | empty =>
      simp only [Body.step] at stepped
      split_ifs at stepped with digit point infinity nan
      · cases stepped
        rfl
      · cases stepped
        rw [point]
        rfl
      · cases stepped
        rfl
      · cases stepped
        rfl
  | mantissa m => exact mantissa_step_text stepped
  | exponent m e =>
      obtain ⟨e', within, rfl⟩ := Option.map_eq_some_iff.mp stepped
      simp [Body.text, exponent_step_text within]
  | infinity word =>
      obtain ⟨spelt, spells, rfl⟩ := Option.map_eq_some_iff.mp stepped
      exact (spell_some spells).1
  | nan word =>
      simp only [Body.step] at stepped
      split_ifs at stepped with opened
      · cases stepped
        rw [opened.2]
        rfl
      · obtain ⟨spelt, spells, rfl⟩ := Option.map_eq_some_iff.mp stepped
        exact (spell_some spells).1
  | nan_chars word chars =>
      simp only [Body.step] at stepped
      split_ifs at stepped with closed char
      · cases stepped
        rw [closed]
        rfl
      · cases stepped
        simp [Body.text]
  | nan_closed word chars => cases stepped

theorem mantissa_step_valid (valid : m.Valid) (stepped : m.step c = some next) : next.Valid := by
  unfold Mantissa.step at stepped
  split_ifs at stepped with digit point prefixed mark
  · cases stepped
    constructor
    · rw [push_hex]
      exact valid.prefixed
    · intro d member
      rw [push_digits, List.mem_append, List.mem_singleton] at member
      have same : (m.push c).isdigit d = m.isdigit d := by
        rw [Mantissa.isdigit, push_hex, Mantissa.isdigit]
      rw [same]
      rcases member with earlier | rfl
      · exact valid.all d earlier
      · exact digit
    · unfold Mantissa.push
      split
      · exact .inr (.inl (by simp))
      · exact .inr (.inr (by simp))
  · cases stepped
    have same : ({ m with fraction := some [] } : Mantissa).digits = m.digits := by
      simp [Mantissa.digits, Mantissa.decimals, point.2]
    refine ⟨valid.prefixed, ?_, .inr (.inr (by simp))⟩
    rw [same]
    exact valid.all
  · cases stepped
    refine ⟨?_, by simp [Mantissa.digits, Mantissa.decimals], .inl (by simp)⟩
    rintro x ⟨⟩
    exact prefixed.2
  · cases stepped
    exact ⟨valid, mark.1, mark.2, by simp, by simp⟩

theorem exponent_step_valid {mark : UInt8} {e' : Exponent} (valid : e.Valid mark)
    (stepped : e.step c = some e') : e'.Valid mark := by
  unfold Exponent.step at stepped
  split_ifs at stepped with digit sign
  · cases stepped
    refine ⟨valid.marked, valid.signed, ?_⟩
    intro d member
    rcases List.mem_append.mp member with earlier | last
    · exact valid.all d earlier
    · rw [List.mem_singleton.mp last]
      exact digit
  · cases stepped
    refine ⟨valid.marked, ?_, valid.all⟩
    rintro d ⟨⟩
    exact sign.1

/-- A first digit, or a point before any digit. -/
theorem mantissa_start {whole : List UInt8} {fraction : Option (List UInt8)}
    (all : ∀ d ∈ whole ++ fraction.getD [], isdigit d) (some : whole ≠ [] ∨ fraction ≠ none) :
    (⟨none, whole, fraction⟩ : Mantissa).Valid :=
  ⟨by simp, all, .inr some⟩

theorem body_step_valid (valid : b.Valid) (stepped : b.step c = some next) : next.Valid := by
  cases b with
  | empty =>
      simp only [Body.step] at stepped
      split_ifs at stepped with digit point infinity nan
      · cases stepped
        exact mantissa_start (by simpa using digit) (by simp)
      · cases stepped
        exact mantissa_start (by simp) (by simp)
      · cases stepped
        refine ⟨by simp, ?_⟩
        rw [List.map_singleton, infinity]
        decide
      · cases stepped
        refine ⟨by simp, ?_⟩
        rw [List.map_singleton, nan]
        decide
  | mantissa m => exact mantissa_step_valid valid stepped
  | exponent m e =>
      obtain ⟨e', within, rfl⟩ := Option.map_eq_some_iff.mp stepped
      exact ⟨valid.1, valid.2.1, exponent_step_valid valid.2.2 within⟩
  | infinity word =>
      obtain ⟨spelt, spells, rfl⟩ := Option.map_eq_some_iff.mp stepped
      obtain ⟨rfl, letter⟩ := spell_some spells
      exact ⟨by simp, spelt_prefix valid.2 letter⟩
  | nan word =>
      simp only [Body.step] at stepped
      split_ifs at stepped with opened
      · cases stepped
        have whole := valid.2.eq_of_length (by rw [List.length_map, opened.1]; rfl)
        exact ⟨whole, by simp⟩
      · obtain ⟨spelt, spells, rfl⟩ := Option.map_eq_some_iff.mp stepped
        obtain ⟨rfl, letter⟩ := spell_some spells
        exact ⟨by simp, spelt_prefix valid.2 letter⟩
  | nan_chars word chars =>
      simp only [Body.step] at stepped
      split_ifs at stepped with closed char
      · cases stepped
        exact valid
      · cases stepped
        refine ⟨valid.1, ?_⟩
        intro d member
        rcases List.mem_append.mp member with earlier | last
        · exact valid.2 d earlier
        · rw [List.mem_singleton.mp last]
          exact char
  | nan_closed word chars => cases stepped

theorem step_text {n' : Numeral} (stepped : n.step c = some n') : n'.text = n.text ++ [c] := by
  unfold Numeral.step at stepped
  split_ifs at stepped with signed
  · cases stepped
    rw [signed.1]
    rfl
  · obtain ⟨b, within, rfl⟩ := Option.map_eq_some_iff.mp stepped
    simp [Numeral.text, body_step_text within]

theorem step_valid {n' : Numeral} (valid : n.Valid) (stepped : n.step c = some n') : n'.Valid := by
  unfold Numeral.step at stepped
  split_ifs at stepped with signed
  · cases stepped
    refine ⟨?_, trivial⟩
    rintro d ⟨⟩
    exact signed.2
  · obtain ⟨b, within, rfl⟩ := Option.map_eq_some_iff.mp stepped
    exact ⟨valid.signed, body_step_valid valid.body within⟩

/-- Whatever is read is a numeral, or a prefix of one. -/
theorem run_sound {n' : Numeral} (valid : n.Valid) (reached : run lf n word = some n') :
    n'.Valid ∧ n'.text = n.text ++ word := by
  induction word generalizing n with
  | nil =>
      cases reached
      exact ⟨valid, (List.append_nil _).symm⟩
  | cons c word ih =>
      obtain ⟨next, stepped, reached⟩ := Option.bind_eq_some_iff.mp reached
      obtain ⟨valid', text⟩ := ih (step_valid valid stepped) reached
      rw [step_text stepped, List.append_assoc] at text
      exact ⟨valid', text⟩

end Reading

end Iperf.FloatText
