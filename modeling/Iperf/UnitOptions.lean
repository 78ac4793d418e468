import Iperf.OptionOrder
import Iperf.UnitParsing

/-!
The options that store what `unit_atoi` returned in an `int`. The last of them on an
accepted line decides, and what it stores is the amount that was written wherever that
fits an `int`.
-/

namespace Iperf.UnitOptions

open KeyedWrites CommandLine OptionSettings ComputedMode OptionOrder UnitParsing
open Arguments (int_of_size)
open AuthToken (CString)
open FloatText (Number)

section Options

inductive Valued where
  | l
  | pacing_timer
  | connect_timeout
  deriving DecidableEq, Repr

/-- The number that an option comes with, where its text was accepted. -/
def argument (returned : Returned UInt64) : Option UInt64 :=
  if returned.errarg = none then some returned.value else none

namespace Valued

def opt : Valued → Option UInt64 → Opt
  | .l, value => .assign (.l value)
  | .pacing_timer, value => .assign (.pacing_timer value)
  | .connect_timeout, value => .assign (.connect_timeout value)

def setting : Valued → Field
  | .l => .blksize
  | .pacing_timer => .pacing_timer
  | .connect_timeout => .connect_timeout

/-- What the case of the option has assigned. -/
def assigned (test : Values) : Valued → Int32
  | .l => test .arg_blksize
  | .pacing_timer => test .pacing_timer
  | .connect_timeout => test .connect_timeout

def stored (test : Values) : Valued → Int32
  | .l => test .blksize
  | .pacing_timer => test .pacing_timer
  | .connect_timeout => test .connect_timeout

/-- A block size of zero asks for the default of the protocol. -/
def asked (test : Values) (option : Valued) (value : Int) : Int :=
  if option = .l ∧ value = 0 then (Arguments.default_blksize (test .protocol)).toInt else value

end Valued

/-- The last text of an option is what an accepted line stores for it, where it is an amount
that fits an `int`. -/
def StoresLast (undefined : Number → UInt64) : Prop :=
  ∀ (build : Build) (environment : Environment) (option : Valued) (s : CString)
    (before after : List Opt) (test : Values), (∀ value, option.opt value ∉ after) →
    iperf_parse_arguments build environment
      (before ++ option.opt (argument (unit_atoi undefined s)) :: after) = .ok test →
    ∀ (amount : Amount) (value : ℚ), amount.text = s.1 → amount.value 1024 = .finite value →
      0 ≤ truncated value → truncated value < 2 ^ 31 →
        (option.stored test).toInt = option.asked test (truncated value)

end Options

section Line
variable (build : Build) (environment : Environment) {option : Valued} {opt : Opt}
  {test next final : Values}

theorem touched_opt (touches : option.setting ∈ touched opt) : ∃ value, opt = option.opt value := by
  have within := touched_reach opt touches
  cases opt with
  | assign assignment =>
      cases assignment with
      | l value | pacing_timer value | connect_timeout value =>
          -- each of the three names a setting of its own
          cases option <;>
            simp_all [Valued.setting, Valued.opt, reach, touched, touched_by, settings_of]
      | _ =>
          cases option <;>
            simp [Valued.setting, reach, touched, touched_by, settings_of] at within
  | _ => cases option <;> simp [Valued.setting, reach, touched, documented] at within

/-- The value that an accepted option assigns. -/
theorem assigned_ok {value : Option UInt64}
    (accepted : step build test (option.opt value) = some next) :
    ∃ number, value = some number ∧ option.assigned next = int_of_size number := by
  cases option with
  | l | pacing_timer | connect_timeout =>
      obtain ⟨entries, written, rfl⟩ := assign_ok.mp (toOption_some.mp accepted)
      obtain ⟨number, rfl, ⟨⟩⟩ := given_ok.mp written
      exact ⟨number, rfl, by simp [Valued.assigned, write_other]⟩

/-- Another option leaves the value alone. -/
theorem assigned_kept (accepted : step build test opt = some next)
    (other : ∀ value, opt ≠ option.opt value) : option.assigned next = option.assigned test := by
  have kept {field : Field} (computed : field ≠ .mode ∧ field ≠ .sender_has_retransmits)
      (flags : field ≠ .server_flag ∧ field ≠ .client_flag)
      (stands : stands_for field = [option.setting]) : next field = test field := by
    by_contra changed
    rcases changed_covered build (toOption_some.mp accepted) computed.1 computed.2 changed with
      server | client | ⟨setting, covered, touches⟩
    · exact flags.1 server
    · exact flags.2 client
    · rw [stands, List.mem_singleton] at covered
      rw [covered] at touches
      obtain ⟨value, same⟩ := touched_opt touches
      exact other value same
  cases option with
  | l => exact kept (by decide) (by decide) rfl
  | pacing_timer => exact kept (by decide) (by decide) rfl
  | connect_timeout => exact kept (by decide) (by decide) rfl

/-- The end of the function replaces a block size of zero, and keeps any other value. -/
theorem finish_stored (accepted : finish build environment test = .ok final) :
    option.stored final =
      if option = .l ∧ option.assigned test = 0 then Arguments.default_blksize (final .protocol)
      else option.assigned test := by
  obtain ⟨ssl, sized, -, fits, kept, -⟩ := finish_ok build environment accepted
  have through {field : Field} (apart : ∀ other ∈ completed, other ≠ field)
      (not_size : .blksize ≠ field) : final field = test field := by
    rw [(kept field apart).2, set_blksize_ok fits, set_other _ _ not_size]
    exact (kept field apart).1
  cases option with
  | l =>
      have size := (kept .blksize (by decide)).2
      have argument := (kept .arg_blksize (by decide)).1
      have protocol := (kept .protocol (by decide)).1
      rw [← through (by decide : ∀ other ∈ completed, other ≠ .protocol) (by decide)] at protocol
      simp [Valued.stored, Valued.assigned, size, set_blksize_ok fits, argument, protocol]
  | pacing_timer => simpa [Valued.stored, Valued.assigned] using through (by decide) (by decide)
  | connect_timeout => simpa [Valued.stored, Valued.assigned] using through (by decide) (by decide)

/-- The last argument of an option is what an accepted line stores for it. -/
theorem stored_last {returned : Returned UInt64} {before after : List Opt}
    (last : ∀ value, option.opt value ∉ after)
    (accepted : iperf_parse_arguments build environment
      (before ++ option.opt (argument returned) :: after) = .ok final) :
    option.stored final =
      if option = .l ∧ int_of_size returned.value = 0 then
        Arguments.default_blksize (final .protocol)
      else int_of_size returned.value := by
  obtain ⟨test, reached, finished⟩ := (parse_arguments_ok build environment).mp accepted
  have assigned : option.assigned test = int_of_size returned.value := by
    -- the last use assigns the value, and what comes behind it leaves it alone
    apply run_last (step build) _ _ reached
    · intro before next stepped
      obtain ⟨number, given, stored⟩ := assigned_ok build stepped
      simp only [argument, Option.ite_none_right_eq_some, Option.some.injEq] at given
      rw [stored, given.2]
    · intro other member before next holds stepped
      rw [← holds]
      apply assigned_kept build stepped
      rintro value rfl
      exact last value member
  rw [finish_stored build environment finished, assigned]

/-- The cast to `int` keeps exactly the sizes that an `int` holds. -/
theorem int_of_size_iff {value : UInt64} :
    (int_of_size value).toInt = value.toNat ↔ value.toNat < 2 ^ 31 := by
  constructor
  · intro kept
    have below := Int32.toInt_lt (int_of_size value)
    omega
  · intro fits
    exact Int32.toInt_ofInt_of_le (by omega) (by omega)

theorem stores_last (undefined : Number → UInt64) : StoresLast undefined := by
  intro build environment option s before after test last accepted amount value text finite
    nonnegative fits
  have returned : ((unit_atoi undefined s).value.toNat : Int) = truncated value :=
    (unit_atoi_truncates undefined).value s amount value text finite nonnegative (by omega)
  have held : (int_of_size (unit_atoi undefined s).value).toInt = truncated value := by
    rw [int_of_size_iff.mpr (by omega), returned]
  -- whether the default size is asked for is decided by the `int`
  have zero : int_of_size (unit_atoi undefined s).value = 0 ↔ truncated value = 0 := by
    rw [← held, ← Int32.toInt_inj]
    rfl
  rw [stored_last build environment last accepted]
  simp only [Valued.asked, zero]
  split
  · rfl
  · exact held

end Line

section Amounts

/-- What is reported, what is returned and what is stored, for every string and every line. -/
theorem unit_values (undefined : Number → UInt64) :
    Exact 1024 unit_atof ∧ Exact 1000 unit_atof_rate ∧ Truncates 1024 (unit_atoi undefined) ∧
      StoresLast undefined :=
  ⟨unit_scan_exact unit_powers, unit_scan_exact rate_powers, unit_atoi_truncates undefined,
    stores_last undefined⟩

def sixteen_k : CString := ⟨FormattedText.ascii "16K", by decide +kernel⟩

def sixteen_k_amount : Amount where
  spaces := []
  blank := by simp
  numeral := ⟨none, .mantissa ⟨none, [49, 54], none⟩⟩
  valid := ⟨by simp, ⟨by simp, by decide +kernel, by simp⟩⟩
  number := .finite 16
  read := by decide +kernel
  suffix := some .K

/-- A client line with one argument of `-l`. -/
def sized_line (s : CString) : List Opt :=
  [.c "host" none, Valued.l.opt (argument (unit_atoi (fun _ => 0) s))]

theorem unit_values_sixteen_k :
    ∃ test,
      iperf_parse_arguments sample_build sample_environment (sized_line sixteen_k) = .ok test ∧
        (test .blksize).toInt = 16384 := by
  have argued : argument (unit_atoi (fun _ => 0) sixteen_k) = some 16384 := by decide +kernel
  have accepted : ∃ test,
      iperf_parse_arguments sample_build sample_environment (sized_line sixteen_k) = .ok test := by
    rw [sized_line, argued]
    exact ⟨_, rfl⟩
  obtain ⟨test, accepted⟩ := accepted
  refine ⟨test, accepted, ?_⟩
  have stored := (unit_values fun _ => 0).2.2.2 sample_build sample_environment .l sixteen_k
    [.c "host" none] [] test (by simp) accepted sixteen_k_amount 16384 rfl (by decide +kernel)
    (by decide +kernel) (by decide +kernel)
  have size : truncated 16384 = 16384 := by decide +kernel
  simpa [Valued.stored, Valued.asked, size] using stored

def hexadecimal : CString := ⟨FormattedText.ascii "0x10", by decide +kernel⟩

def zero : CString := ⟨FormattedText.ascii "0", by decide +kernel⟩

def zero_amount : Amount where
  spaces := []
  blank := by simp
  numeral := ⟨none, .mantissa ⟨none, [48], none⟩⟩
  valid := ⟨by simp, FloatStandard.zero_valid⟩
  number := .finite 0
  read := by decide +kernel
  suffix := none

/-- A hexadecimal number is read, and a block size of zero is not stored. -/
theorem hexadecimal_and_zero :
    ¬ (∀ s, (unit_atof s).errarg = none ↔ ∃ amount : Amount, amount.Plain ∧ amount.text = s.1) ∧
    ¬ (∀ (s : CString) (amount : Amount) (test : Values), amount.Plain → amount.text = s.1 →
      iperf_parse_arguments sample_build sample_environment (sized_line s) = .ok test →
        amount.value 1024 = .finite (test .blksize).toInt) := by
  constructor
  · intro exactly
    have silent : (unit_atof hexadecimal).errarg = none := by decide +kernel
    obtain ⟨amount, plain, text⟩ := (exactly hexadecimal).mp silent
    have x : (120 : UInt8) ∈ amount.text := by
      rw [text]
      decide
    rcases plain_character plain x with digit | point | ⟨suffix, letter⟩
    · exact absurd digit (by decide)
    · exact absurd point (by decide)
    · cases suffix <;> exact absurd letter (by decide)
  · intro stored
    have argued : argument (unit_atoi (fun _ => 0) zero) = some 0 := by decide +kernel
    have accepted : ∃ test, iperf_parse_arguments sample_build sample_environment
        (sized_line zero) = .ok test ∧ test .blksize = 131072 := by
      rw [sized_line, argued]
      exact ⟨_, rfl, by decide⟩
    obtain ⟨test, accepted, default⟩ := accepted
    have value := stored zero zero_amount test ⟨rfl, rfl, _, rfl, rfl⟩ rfl accepted
    rw [default] at value
    exact absurd value (by decide +kernel)

end Amounts

end Iperf.UnitOptions
