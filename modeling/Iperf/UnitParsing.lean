import Iperf.AuthToken
import Iperf.FloatStandard

/-!
`unit_atof`, `unit_atof_rate` and `unit_atoi`, in exact arithmetic: a number as `%lf`
reads it, and one more character that may be a unit letter. What stands behind that
character is not looked at.
-/

namespace Iperf.UnitParsing

open FormattedText LongestMatch FloatText FloatStandard
open AuthToken (CString)

section Functions

def KILO_UNIT : ℚ := 1024
def MEGA_UNIT : ℚ := 1024 * 1024
def GIGA_UNIT : ℚ := 1024 * 1024 * 1024
def TERA_UNIT : ℚ := 1024 * 1024 * 1024 * 1024

def KILO_RATE_UNIT : ℚ := 1000
def MEGA_RATE_UNIT : ℚ := 1000 * 1000
def GIGA_RATE_UNIT : ℚ := 1000 * 1000 * 1000
def TERA_RATE_UNIT : ℚ := 1000 * 1000 * 1000 * 1000

/-- The constants that a function multiplies with. -/
structure Scale where
  kilo : ℚ
  mega : ℚ
  giga : ℚ
  tera : ℚ

def unit_scale : Scale := ⟨KILO_UNIT, MEGA_UNIT, GIGA_UNIT, TERA_UNIT⟩

def rate_scale : Scale := ⟨KILO_RATE_UNIT, MEGA_RATE_UNIT, GIGA_RATE_UNIT, TERA_RATE_UNIT⟩

/-- The switch on the character behind the number, without its default. -/
def Scale.factor (scale : Scale) (suffix : UInt8) : Option ℚ :=
  if suffix = 116 ∨ suffix = 84 then some scale.tera
  else if suffix = 103 ∨ suffix = 71 then some scale.giga
  else if suffix = 109 ∨ suffix = 77 then some scale.mega
  else if suffix = 107 ∨ suffix = 75 then some scale.kilo
  else if suffix = 0 then some 1
  else none

/-- The product with a positive constant. -/
def times (factor : ℚ) : Number → Number
  | .finite value => .finite (value * factor)
  | .infinity negative => .infinity negative
  | .nan => .nan

/-- What a function returns. Where it sets `i_errno` to `IEUNITVAL`, it sets `errarg`. -/
structure Returned (Value : Type) where
  value : Value
  errarg : Option CString

/-- The body that `unit_atof` and `unit_atof_rate` share. -/
def unit_scan (scale : Scale) (s : CString) : Returned Number :=
  match sscanf_lf_c s.1 with
  | none => ⟨.finite 0, some s⟩
  | some (n, suffix) =>
      -- without a character behind the number, `suffix` keeps its zero
      match scale.factor (suffix.getD 0) with
      | some factor => ⟨times factor n, none⟩
      | none => ⟨n, some s⟩

def unit_atof : CString → Returned Number := unit_scan unit_scale

def unit_atof_rate : CString → Returned Number := unit_scan rate_scale

/-- A fraction without what is behind its point. -/
def truncated (value : ℚ) : Int := value.num.tdiv value.den

/-- The cast to `iperf_size_t`. C does not define it for numbers that the type does not hold. -/
def to_size (undefined : Number → UInt64) (n : Number) : UInt64 :=
  match n with
  | .finite value =>
      if 0 ≤ truncated value ∧ truncated value < 2 ^ 64 then .ofNat (truncated value).toNat
      else undefined n
  | _ => undefined n

def unit_atoi (undefined : Number → UInt64) (s : CString) : Returned UInt64 :=
  match sscanf_lf_c s.1 with
  | none => ⟨0, some s⟩
  | some (n, suffix) =>
      match unit_scale.factor (suffix.getD 0) with
      | some factor => ⟨to_size undefined (times factor n), none⟩
      | none => ⟨0, some s⟩

end Functions

section Amounts

inductive Suffix where
  | k
  | K
  | m
  | M
  | g
  | G
  | t
  | T
  deriving DecidableEq, Repr

def Suffix.letter : Suffix → UInt8
  | .k => 107
  | .K => 75
  | .m => 109
  | .M => 77
  | .g => 103
  | .G => 71
  | .t => 116
  | .T => 84

def Suffix.power : Suffix → Nat
  | .k | .K => 1
  | .m | .M => 2
  | .g | .G => 3
  | .t | .T => 4

/-- A number as `%lf` reads it, and a unit letter or none. -/
structure Amount where
  spaces : List UInt8
  blank : ∀ c ∈ spaces, isspace c
  numeral : Numeral
  valid : numeral.Valid
  number : Number
  read : numeral.result = some number
  suffix : Option Suffix

namespace Amount
variable (amount : Amount)

def letter : Option UInt8 := amount.suffix.map Suffix.letter

def text : List UInt8 := amount.spaces ++ amount.numeral.text ++ amount.letter.toList

def power : Nat := amount.suffix.elim 0 Suffix.power

/-- The number times the power of the base that the letter stands for. -/
def value (base : ℚ) : Number := times (base ^ amount.power) amount.number

/-- A non-negative decimal number: digits, with a point or without. -/
structure Plain : Prop where
  bare : amount.spaces = []
  unsigned : amount.numeral.sign = none
  decimal : ∃ m, amount.numeral.body = .mantissa m ∧ m.hex = none

end Amount

/-- An amount with a unit letter, and more behind the letter. -/
def Trailing (s : CString) : Prop :=
  ∃ (amount : Amount) (more : List UInt8),
    amount.suffix ≠ none ∧ more ≠ [] ∧ s.1 = amount.text ++ more

end Amounts

section Reading
variable {scale : Scale} {base : ℚ} {s : CString} {amount : Amount} {more : List UInt8}
  {n : Number} {undefined : Number → UInt64}

/-- The number that a string is read as, where the switch does not take its default. -/
def parsed (scale : Scale) (s : CString) : Option Number :=
  (sscanf_lf_c s.1).bind fun read => (scale.factor (read.2.getD 0)).map (times · read.1)

theorem unit_scan_parsed (accepted : parsed scale s = some n) : unit_scan scale s = ⟨n, none⟩ := by
  obtain ⟨⟨number, suffix⟩, read, scaled⟩ := Option.bind_eq_some_iff.mp accepted
  obtain ⟨factor, found, rfl⟩ := Option.map_eq_some_iff.mp scaled
  simp [unit_scan, read, found]

theorem unit_atoi_parsed (accepted : parsed unit_scale s = some n) :
    unit_atoi undefined s = ⟨to_size undefined n, none⟩ := by
  obtain ⟨⟨number, suffix⟩, read, scaled⟩ := Option.bind_eq_some_iff.mp accepted
  obtain ⟨factor, found, rfl⟩ := Option.map_eq_some_iff.mp scaled
  simp [unit_atoi, read, found]

/-- What is refused is named in `errarg`, and `unit_atoi` returns zero with it. -/
theorem unit_scan_refused (refused : parsed scale s = none) :
    (unit_scan scale s).errarg = some s := by
  cases read : sscanf_lf_c s.1 with
  | none => simp [unit_scan, read]
  | some found =>
      simp only [parsed, read, Option.bind_some, Option.map_eq_none_iff] at refused
      simp [unit_scan, read, refused]

theorem unit_atoi_refused (refused : parsed unit_scale s = none) :
    unit_atoi undefined s = ⟨0, some s⟩ := by
  cases read : sscanf_lf_c s.1 with
  | none => simp [unit_atoi, read]
  | some found =>
      simp only [parsed, read, Option.bind_some, Option.map_eq_none_iff] at refused
      simp [unit_atoi, read, refused]

/-- The constants are the powers that the letters stand for. -/
def Powers (scale : Scale) (base : ℚ) : Prop :=
  ∀ suffix : Suffix, scale.factor suffix.letter = some (base ^ suffix.power)

theorem unit_powers : Powers unit_scale 1024 := by
  intro suffix
  cases suffix <;> decide +kernel

theorem rate_powers : Powers rate_scale 1000 := by
  intro suffix
  cases suffix <;> decide +kernel

theorem letter_foreign (suffix : Suffix) : Foreign suffix.letter := by
  cases suffix <;> decide

/-- The switch knows the unit letters, and the zero that `suffix` starts with. -/
theorem factor_suffix {c : UInt8} (known : scale.factor c ≠ none) :
    c = 0 ∨ ∃ suffix : Suffix, c = suffix.letter := by
  unfold Scale.factor at known
  split_ifs at known with t g m k zero
  · rcases t with rfl | rfl
    · exact .inr ⟨.t, rfl⟩
    · exact .inr ⟨.T, rfl⟩
  · rcases g with rfl | rfl
    · exact .inr ⟨.g, rfl⟩
    · exact .inr ⟨.G, rfl⟩
  · rcases m with rfl | rfl
    · exact .inr ⟨.m, rfl⟩
    · exact .inr ⟨.M, rfl⟩
  · rcases k with rfl | rfl
    · exact .inr ⟨.k, rfl⟩
    · exact .inr ⟨.K, rfl⟩
  · exact .inl zero
  · exact absurd rfl known

/-- An amount is read to its end, and nothing behind its letter is looked at. -/
theorem sscanf_amount (behind : amount.suffix = none → more = []) :
    sscanf_lf_c (amount.text ++ more) = some (amount.number, amount.letter) := by
  rw [sscanf_lf_c_iff]
  refine ⟨amount.spaces, amount.numeral, amount.letter.toList ++ more, ?_, amount.blank,
    amount.valid, amount.read, ?_, ?_⟩
  · simp [Amount.text]
  · cases suffix : amount.suffix with
    | none => simp [Amount.letter, suffix, behind suffix]
    | some unit => simp [Amount.letter, suffix]
  · -- no numeral goes on with a unit letter
    intro c letter
    obtain ⟨unit, -, rfl⟩ := Option.map_eq_some_iff.mp letter
    exact numeral_stops (letter_foreign unit) amount.read

theorem parsed_amount (powers : Powers scale base) (behind : amount.suffix = none → more = [])
    (text : s.1 = amount.text ++ more) : parsed scale s = some (amount.value base) := by
  rw [parsed, text, sscanf_amount behind, Option.bind_some]
  cases suffix : amount.suffix with
  | none =>
      have one : scale.factor 0 = some 1 := by simp [Scale.factor]
      simp [Amount.letter, Amount.value, Amount.power, suffix, one]
  | some unit =>
      simp [Amount.letter, Amount.value, Amount.power, suffix, powers unit]

/-- What is accepted is an amount, with anything behind its letter. -/
theorem amount_of_parsed (accepted : parsed scale s = some n) :
    ∃ (amount : Amount) (more : List UInt8),
      (amount.suffix = none → more = []) ∧ s.1 = amount.text ++ more := by
  obtain ⟨⟨number, next⟩, scanned, scaled⟩ := Option.bind_eq_some_iff.mp accepted
  obtain ⟨factor, found, -⟩ := Option.map_eq_some_iff.mp scaled
  obtain ⟨spaces, numeral, more, text, blank, valid, read, head, -⟩ := sscanf_lf_c_iff.mp scanned
  cases more with
  | nil =>
      refine ⟨⟨spaces, blank, numeral, valid, number, read, none⟩, [], fun _ => rfl, ?_⟩
      simp [Amount.text, Amount.letter, text]
  | cons c more =>
      subst head
      have inside : c ∈ s.1 := by simp [text]
      have known : scale.factor c ≠ none := Option.ne_none_iff_exists'.mpr ⟨factor, found⟩
      rcases factor_suffix known with zero | ⟨suffix, rfl⟩
      · -- the switch knows a zero, but there is none within a string
        exact absurd zero (s.2 c inside)
      · refine ⟨⟨spaces, blank, numeral, valid, number, read, some suffix⟩, more, nofun, ?_⟩
        simp [Amount.text, Amount.letter, text]

/-- A plain amount has digits, a point and a unit letter. -/
theorem plain_character (plain : amount.Plain) {c : UInt8} (member : c ∈ amount.text) :
    isdigit c ∨ c = 46 ∨ ∃ suffix : Suffix, c = suffix.letter := by
  obtain ⟨bare, unsigned, m, body, decimal⟩ := plain
  have valid := amount.valid.body
  rw [body] at valid
  have digit (d : UInt8) (read : d ∈ m.digits) : isdigit d := by
    have all := valid.all d read
    rwa [Mantissa.isdigit, if_pos decimal] at all
  simp only [Amount.text, bare, Numeral.text, unsigned, body, Body.text, Mantissa.text, decimal,
    Option.toList_none, Option.elim_none, List.nil_append, List.mem_append] at member
  rcases member with (whole | fraction) | letter
  · exact .inl (digit c (List.mem_append_left _ whole))
  · cases found : m.fraction with
    | none => simp [found] at fraction
    | some decimals =>
        simp only [found, Option.elim_some, List.mem_cons] at fraction
        rcases fraction with point | inside
        · exact .inr (.inl point)
        · refine .inl (digit c (List.mem_append_right _ ?_))
          simpa [Mantissa.decimals, found] using inside
  · rw [Option.mem_toList] at letter
    obtain ⟨suffix, -, rfl⟩ := Option.map_eq_some_iff.mp letter
    exact .inr (.inr ⟨suffix, rfl⟩)

end Reading

section Strings
variable {Value : Type} {scale : Scale} {base : ℚ} {undefined : Number → UInt64}

/-- Strings with more behind a unit letter aside, what is reported is what is no amount. -/
def Reports (unit_ato : CString → Returned Value) : Prop :=
  ∀ s, ¬ Trailing s → ((unit_ato s).errarg = none ↔ ∃ amount : Amount, amount.text = s.1)

structure Exact (base : ℚ) (unit_ato : CString → Returned Number) : Prop where
  reported : Reports unit_ato
  value : ∀ s (amount : Amount), amount.text = s.1 → (unit_ato s).value = amount.value base

structure Truncates (base : ℚ) (unit_ato : CString → Returned UInt64) : Prop where
  reported : Reports unit_ato
  value : ∀ s (amount : Amount) value, amount.text = s.1 → amount.value base = .finite value →
    0 ≤ truncated value → truncated value < 2 ^ 64 →
      ((unit_ato s).value.toNat : Int) = truncated value

theorem parsed_text (powers : Powers scale base) {s : CString} {amount : Amount}
    (text : amount.text = s.1) : parsed scale s = some (amount.value base) :=
  parsed_amount powers (fun _ => rfl) (by rw [text, List.append_nil])

/-- The strings that are read are the amounts, and those with more behind a unit letter. -/
theorem parsed_iff (powers : Powers scale base) {s : CString} :
    (∃ n, parsed scale s = some n) ↔ (∃ amount : Amount, amount.text = s.1) ∨ Trailing s := by
  constructor
  · rintro ⟨n, accepted⟩
    obtain ⟨amount, more, behind, text⟩ := amount_of_parsed accepted
    cases more with
    | nil => exact .inl ⟨amount, by rw [text, List.append_nil]⟩
    | cons c more =>
        have unit : amount.suffix ≠ none := fun none => by cases behind none
        exact .inr ⟨amount, c :: more, unit, nofun, text⟩
  · rintro (⟨amount, text⟩ | ⟨amount, more, unit, -, text⟩)
    · exact ⟨_, parsed_text powers text⟩
    · exact ⟨_, parsed_amount powers (fun none => absurd none unit) text⟩

/-- Both bodies report where the switch takes its default or nothing is read. -/
theorem reports_of_parsed {unit_ato : CString → Returned Value} (powers : Powers scale base)
    (accepts : ∀ s n, parsed scale s = some n → (unit_ato s).errarg = none)
    (refuses : ∀ s, parsed scale s = none → (unit_ato s).errarg = some s) : Reports unit_ato := by
  intro s whole
  have silent : (unit_ato s).errarg = none ↔ ∃ n, parsed scale s = some n := by
    cases accepted : parsed scale s with
    | none => simp [refuses s accepted]
    | some n => simp [accepts s n accepted]
  rw [silent, parsed_iff powers, or_iff_left whole]

theorem unit_scan_exact (powers : Powers scale base) : Exact base (unit_scan scale) where
  reported := by
    apply reports_of_parsed powers
    · intro s n accepted
      rw [unit_scan_parsed accepted]
    · exact fun s => unit_scan_refused
  value := by
    intro s amount text
    rw [unit_scan_parsed (parsed_text powers text)]

theorem to_size_exact {value : ℚ} (nonnegative : 0 ≤ truncated value)
    (fits : truncated value < 2 ^ 64) :
    ((to_size undefined (.finite value)).toNat : Int) = truncated value := by
  simp only [to_size, nonnegative, fits, and_self, if_true, UInt64.toNat_ofNat']
  omega

theorem unit_atoi_truncates (undefined : Number → UInt64) :
    Truncates 1024 (unit_atoi undefined) where
  reported := by
    apply reports_of_parsed unit_powers
    · intro s n accepted
      rw [unit_atoi_parsed accepted]
    · intro s refused
      rw [unit_atoi_refused refused]
  value := by
    intro s amount value text finite nonnegative fits
    rw [unit_atoi_parsed (parsed_text unit_powers text), finite]
    exact to_size_exact nonnegative fits

end Strings

end Iperf.UnitParsing
