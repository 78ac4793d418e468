import Mathlib.Algebra.Order.Field.Basic
import Mathlib.Tactic.Linarith
import Iperf.Outcome
import Iperf.RateLimit

/-!
The buffer of the rate limiter holds 60 intervals, and the options make a window
of up to 600 of them. The calls stay inside the buffer, and divide by something,
exactly when the window that the options ask for is neither empty nor longer.
-/

namespace Iperf.RateLimitBounds

open Config CyclicBuffer BinaryFloat RateLimit Outcome

section Options
variable {features : Features} {limiter : Limiter}

/-- Switched off, or within the bounds of an interval. -/
def Interval (seconds : Rat) : Prop := seconds = 0 ∨ 1 / 10 ≤ seconds ∧ seconds ≤ 60

theorem interval_of_accepted {seconds : Rat} (accepted : ¬ refuses seconds = true) :
    Interval seconds := by
  unfold refuses at accepted
  rw [decide_eq_true_eq] at accepted
  by_cases off : seconds = 0
  · exact .inl off
  · right
    constructor
    · by_contra small
      exact accepted ⟨.inl (not_le.mp small), off⟩
    · by_contra large
      exact accepted ⟨.inr (not_le.mp large), off⟩

/-- What the options make of a new limiter. -/
structure Optioned (limiter : Limiter) : Prop where
  interval : Interval limiter.stats_interval
  averaging : Interval limiter.bitrate_limit_interval
  rest : limiter = { new_limiter with
    stats_interval := limiter.stats_interval
    bitrate_limit := limiter.bitrate_limit
    bitrate_limit_interval := limiter.bitrate_limit_interval }

theorem optioned_new : Optioned new_limiter := by
  constructor
  · exact .inr (by norm_num [new_limiter])
  · exact .inr (by norm_num [new_limiter])
  · rfl

theorem optioned_arguments {state : Parsing} (optioned : Optioned state.limiter)
    (opt : Arguments.Opt) :
    Ends (fun after => Optioned after.limiter) (fun _ => True)
      (parse_arguments_option features state opt) := by
  unfold parse_arguments_option
  split
  · exact optioned
  · trivial

theorem optioned_option (state : Parsing) (opt : Opt) (optioned : Optioned state.limiter) :
    Ends (fun after => Optioned after.limiter) (fun _ => True)
      (parse_option features state opt) := by
  obtain ⟨interval, averaging, rest⟩ := optioned
  cases opt with
  | i seconds =>
      simp only [parse_option]
      split
      · trivial
      · rename_i accepted
        refine ⟨interval_of_accepted accepted, averaging, ?_⟩
        rw [rest]
  | server_bitrate_limit asked rate =>
      simp only [parse_option]
      split
      · trivial
      · rename_i accepted
        cases rate with
        | none => trivial
        | some rate =>
            apply optioned_arguments
            refine ⟨interval, ?_, ?_⟩
            · cases asked with
              | none => exact averaging
              | some seconds => exact interval_of_accepted accepted
            · rw [rest]
  | other opt => exact optioned_arguments ⟨interval, averaging, rest⟩ opt

end Options

section Runs
variable {limiter : Limiter}

/-- The window is neither empty nor longer than the buffer, and the interval is not zero. -/
structure Sized (limiter : Limiter) : Prop where
  some_period : 1 ≤ limiter.bitrate_limit_stats_per_interval.toInt
  fits : limiter.bitrate_limit_stats_per_interval.toInt ≤ MAX_INTERVAL
  timed : limiter.stats_interval ≠ 0
  allocated : limiter.bitrate_limit_intervals_traffic_bytes.length = MAX_INTERVAL

theorem sized_check (sized : Sized limiter) (bytes : UInt64) :
    Ends Sized (fun _ => False) (iperf_check_total_rate limiter bytes) := by
  obtain ⟨some_period, fits, timed, allocated⟩ := sized
  have count : periods limiter = limiter.bitrate_limit_stats_per_interval.toInt.toNat :=
    periods_of_sized (by omega)
  have room : next (periods limiter) limiter.bitrate_limit_last_interval_index <
      limiter.bitrate_limit_intervals_traffic_bytes.length := by
    have inside := @next_lt (periods limiter) (by omega)
      limiter.bitrate_limit_last_interval_index
    omega
  have divides : limiter.stats_interval * limiter.bitrate_limit_stats_per_interval.toInt ≠ 0 := by
    have not_zero : limiter.bitrate_limit_stats_per_interval.toInt ≠ 0 := by omega
    exact mul_ne_zero timed (by exact_mod_cast not_zero)
  have length : (stored limiter bytes).bitrate_limit_intervals_traffic_bytes.length =
      MAX_INTERVAL := by
    simpa [stored] using allocated
  by_cases idle : limiter.done ≠ 0 ∨ limiter.bitrate_limit = 0
  · rw [iperf_check_total_rate, if_pos idle]
    exact ⟨some_period, fits, timed, allocated⟩
  · obtain ⟨running, limited⟩ := not_or.mp idle
    rw [check_stored (not_not.mp running) limited room]
    split
    · exact ⟨some_period, fits, timed, length⟩
    · obtain ⟨total, _, checked⟩ := @check_average_within (stored limiter bytes)
        (by rw [length]; exact Int.toNat_le.mpr fits) divides
      rw [checked]
      exact ⟨some_period, fits, timed, length⟩

theorem sized_step (now : Limiter) (event : Event) (sized : Sized now) :
    Ends Sized (fun _ => False) (step now event) := by
  cases event with
  | traffic bytes => exact sized_check sized bytes
  | done =>
      obtain ⟨some_period, fits, timed, allocated⟩ := sized
      exact ⟨some_period, fits, timed, allocated⟩
  | reset =>
      obtain ⟨some_period, fits, timed, allocated⟩ := sized
      exact ⟨some_period, fits, timed, by simp [iperf_reset_test, allocated]⟩

/-- Without a limit nothing is stored. -/
theorem unlimited_step (now : Limiter) (event : Event) (unlimited : now.bitrate_limit = 0) :
    Ends (fun after => after.bitrate_limit = 0) (fun _ => False) (step now event) := by
  cases event with
  | traffic bytes =>
      rw [step, iperf_check_total_rate, if_pos (.inr unlimited)]
      exact unlimited
  | done => exact unlimited
  | reset => exact unlimited

/-- At the start of a test that is watched, with the whole buffer. -/
structure Watching (limiter : Limiter) : Prop where
  running : limiter.done = 0
  limited : limiter.bitrate_limit ≠ 0
  allocated : limiter.bitrate_limit_intervals_traffic_bytes.length = MAX_INTERVAL
  begun : limiter.bitrate_limit_stats_count = 0
  first : limiter.bitrate_limit_last_interval_index = 0

/-- The first calls, as long as the window is not full and the buffer has room. -/
structure Filling (start : Limiter) (count : Nat) (now : Limiter) : Prop where
  running : now.done = 0
  limited : now.bitrate_limit ≠ 0
  allocated : now.bitrate_limit_intervals_traffic_bytes.length = MAX_INTERVAL
  counted : now.bitrate_limit_stats_count = count
  index : now.bitrate_limit_last_interval_index = count
  timed : now.stats_interval = start.stats_interval
  sized : now.bitrate_limit_stats_per_interval = start.bitrate_limit_stats_per_interval

theorem filling_periods {start now : Limiter} {count : Nat} (filling : Filling start count now) :
    periods now = periods start := by
  rw [periods, periods, filling.sized]

theorem filling_run {start : Limiter} (watching : Watching start) {count : Nat}
    (short : count ≤ periods start - 1) (room : count < MAX_INTERVAL) :
    ∃ now, run start (List.replicate count (.traffic 0)) = .ok now ∧ Filling start count now := by
  obtain ⟨running, limited, allocated, begun, first⟩ := watching
  induction count with
  | zero => exact ⟨start, rfl, running, limited, allocated, begun, first, rfl, rfl⟩
  | succ count ih =>
      obtain ⟨now, reached, filling⟩ := ih (by omega) (by omega)
      have same := filling_periods filling
      obtain ⟨running, limited, allocated, counted, index, timed, sized⟩ := filling
      have fresh : next (periods now) now.bitrate_limit_last_interval_index = count + 1 := by
        rw [same, index, next, if_neg (by omega)]
      have free : next (periods now) now.bitrate_limit_last_interval_index <
          now.bitrate_limit_intervals_traffic_bytes.length := by
        rw [fresh, allocated]
        exact room
      have early : now.bitrate_limit_stats_count + 1 < periods now := by
        rw [same, counted]
        omega
      have called : step now (.traffic 0) = .ok (stored now 0) := by
        rw [step, check_stored running limited free, if_pos early]
      refine ⟨stored now 0, ?_, ?_⟩
      · rw [run] at reached ⊢
        rw [List.replicate_succ', List.foldlM_append, reached]
        show (step now (.traffic 0) >>= pure) = _
        rw [called]
        rfl
      · refine ⟨running, limited, ?_, ?_, fresh, timed, sized⟩
        · simpa [stored] using allocated
        · simp [stored, counted]

theorem run_next {start now : Limiter} {events : List Event}
    (reached : run start events = .ok now) (event : Event) :
    run start (events ++ [event]) = step now event := by
  rw [run] at reached ⊢
  rw [List.foldlM_append, reached]
  show (step now event >>= pure) = _
  cases step now event <;> rfl

/-- A window that is longer than the buffer is written beyond its end. -/
theorem overruns {start : Limiter} (watching : Watching start)
    (long : MAX_INTERVAL < periods start) :
    run start (List.replicate MAX_INTERVAL (.traffic 0)) = .error (.write MAX_INTERVAL) := by
  have last : MAX_INTERVAL - 1 < MAX_INTERVAL := by decide
  obtain ⟨now, reached, filling⟩ :=
    @filling_run start watching (MAX_INTERVAL - 1) (by omega) last
  have same := filling_periods filling
  have beyond : next (periods now) now.bitrate_limit_last_interval_index = MAX_INTERVAL := by
    rw [same, filling.index, next, if_neg (by omega)]
    rfl
  have split : List.replicate MAX_INTERVAL (Event.traffic 0) =
      List.replicate (MAX_INTERVAL - 1) (.traffic 0) ++ [.traffic 0] := by
    unfold MAX_INTERVAL
    exact List.replicate_succ'
  have checked : ¬ (now.done ≠ 0 ∨ now.bitrate_limit = 0) :=
    not_or.mpr ⟨not_not.mpr filling.running, filling.limited⟩
  rw [split, run_next reached, step, iperf_check_total_rate, if_neg checked, store_interval, beyond,
    filling.allocated]
  rfl

/-- The first average over nothing divides by zero, unless a read fails before. -/
theorem average_divides (zero : limiter.stats_interval *
      limiter.bitrate_limit_stats_per_interval.toInt = 0) :
    Ends (fun _ => False) (fun _ => True) (check_average limiter) := by
  unfold check_average
  cases sum_intervals limiter.bitrate_limit_intervals_traffic_bytes
      limiter.bitrate_limit_stats_per_interval.toInt.toNat with
  | error fault => trivial
  | ok total =>
      show Ends _ _ (bits_per_second limiter total >>= _)
      rw [bits_per_second, if_pos zero]
      trivial

theorem divides {start : Limiter} (watching : Watching start)
    (short : periods start ≤ MAX_INTERVAL)
    (zero : start.stats_interval * start.bitrate_limit_stats_per_interval.toInt = 0) :
    Ends (fun _ => False) (fun _ => True)
      (run start (List.replicate (periods start - 1) (.traffic 0) ++ [.traffic 0])) := by
  have room : periods start - 1 < MAX_INTERVAL := by
    unfold MAX_INTERVAL at short ⊢
    omega
  obtain ⟨now, reached, filling⟩ := filling_run watching (Nat.le_refl _) room
  have same := filling_periods filling
  have wrapped : next (periods now) now.bitrate_limit_last_interval_index = 0 := by
    rw [same, filling.index, next, if_pos (by omega)]
  have free : next (periods now) now.bitrate_limit_last_interval_index <
      now.bitrate_limit_intervals_traffic_bytes.length := by
    rw [wrapped, filling.allocated]
    decide
  have full : ¬ now.bitrate_limit_stats_count + 1 < periods now := by
    rw [same, filling.counted]
    omega
  rw [run_next reached, step, check_stored filling.running filling.limited free, if_neg full]
  apply average_divides
  show now.stats_interval * now.bitrate_limit_stats_per_interval.toInt = 0
  rw [filling.timed, filling.sized]
  exact zero

/-- No sequence of calls, ends of tests and resets reaches a fault. -/
def Safe (limiter : Limiter) : Prop :=
  ∀ events, Ends (fun _ => True) (fun _ => False) (run limiter events)

theorem safe_of_sized (sized : Sized limiter) : Safe limiter := fun events =>
  (Ends.foldlM sized_step sized events).imp (fun _ _ => trivial) (fun _ => id)

theorem safe_of_unlimited (unlimited : limiter.bitrate_limit = 0) : Safe limiter := fun events =>
  (Ends.foldlM unlimited_step unlimited events).imp (fun _ _ => trivial) (fun _ => id)

theorem unsafe_window {start : Limiter} (watching : Watching start)
    (bad : MAX_INTERVAL < periods start ∨
      start.stats_interval * start.bitrate_limit_stats_per_interval.toInt = 0) : ¬ Safe start := by
  intro safe
  by_cases long : MAX_INTERVAL < periods start
  · have inside := safe (List.replicate MAX_INTERVAL (.traffic 0))
    rw [overruns watching long] at inside
    exact inside
  · have fault := divides watching (Nat.not_lt.mp long) (bad.resolve_left long)
    have fine := safe (List.replicate (periods start - 1) (.traffic 0) ++ [.traffic 0])
    cases ended : run start (List.replicate (periods start - 1) (.traffic 0) ++ [.traffic 0]) with
    | ok now =>
        rw [ended] at fault
        exact fault
    | error reason =>
        rw [ended] at fine
        exact fine

end Runs

section Accepted
variable {features : Features} {environment : Arguments.Environment} {limiter : Limiter}

/-- The options ask for a window that is not empty and fits into the buffer. A quotient
that is half a unit or less below 60.5 is 60.5 as a double. -/
def Fits (limiter : Limiter) : Prop :=
  0 < limiter.bitrate_limit_interval ∧ 0 < limiter.stats_interval ∧
    limiter.bitrate_limit_interval < (121 / 2 - 1 / 2 ^ 48) * limiter.stats_interval

theorem small_representable {count : Int} (nonneg : 0 ≤ count) (small : count ≤ 600) :
    Representable binary64 count :=
  representable_int (by decide) (by
    rw [abs_of_nonneg nonneg]
    exact small.trans (by decide))

/-- 60.5 has an even integer, so half a unit below it is rounded up to it. -/
theorem nearest_window {value : ℚ} (nonneg : 0 ≤ value) :
    2 * nearest binary64 value < 121 ↔ value < 121 / 2 - 1 / 2 ^ 48 := by
  rcases lt_or_ge value 32 with less | more
  · have bound := nearest_le (small_representable (by decide) (by decide : (32 : Int) ≤ 600))
      (by exact_mod_cast less.le)
    push_cast at bound
    refine ⟨fun _ => ?_, fun _ => by linarith⟩
    norm_num
    linarith
  rcases lt_or_ge value 64 with less | large
  · have unit : ulp binary64 value = -47 :=
      @ulp_between binary64 value 5 (by decide) (by norm_num; exact more) (by norm_num; exact less)
    have rounded := @nearest_lt binary64 value nonneg (121 * 2 ^ 46) (by decide)
    rw [unit] at rounded
    norm_num at rounded ⊢
    constructor
    · intro below
      have := rounded.mp (by linarith)
      linarith
    · intro short
      have := rounded.mpr (by linarith)
      linarith
  · have bound := le_nearest (small_representable (by decide) (by decide : (64 : Int) ≤ 600))
      (by exact_mod_cast large)
    push_cast at bound
    refine ⟨fun _ => by linarith, fun short => ?_⟩
    norm_num at short
    linarith

theorem round_bounds {value : Rat} (more : 1 ≤ value) (large : value ≤ 600) :
    1 ≤ RateLimit.round value ∧ RateLimit.round value ≤ 600 ∧
      (RateLimit.round value ≤ 60 ↔ 2 * value < 121) := by
  have least : 1 ≤ RateLimit.round value := by
    rw [RateLimit.round, Rat.le_floor_iff]
    push_cast
    linarith
  have most : RateLimit.round value < 601 := by
    rw [RateLimit.round, Rat.floor_lt_iff]
    push_cast
    linarith
  have fits : RateLimit.round value < 61 ↔ value + 1 / 2 < 61 := by
    rw [RateLimit.round, Rat.floor_lt_iff]
    norm_num
  refine ⟨least, by omega, ?_⟩
  constructor
  · intro small
    have below := fits.mp (by omega)
    linarith
  · intro small
    have below := fits.mpr (by linarith)
    omega

theorem watching_of_optioned (optioned : Optioned limiter) (limited : limiter.bitrate_limit ≠ 0)
    (infinite : Int32) : Watching (set_stats_per_interval infinite limiter) := by
  have fields : limiter.done = 0 ∧
      limiter.bitrate_limit_intervals_traffic_bytes.length = MAX_INTERVAL ∧
      limiter.bitrate_limit_stats_count = 0 ∧ limiter.bitrate_limit_last_interval_index = 0 := by
    rw [optioned.rest]
    exact ⟨rfl, List.length_replicate, rfl, rfl⟩
  obtain ⟨running, allocated, begun, first⟩ := fields
  unfold set_stats_per_interval
  split
  · exact ⟨running, limited, allocated, begun, first⟩
  · exact ⟨running, limited, allocated, begun, first⟩

/-- The quotient of the two intervals, where both are set and the first is longer. -/
theorem quotient_bounds {averaging interval : Rat} (within : averaging ≤ 60)
    (least : 1 / 10 ≤ interval) (longer : interval < averaging) :
    1 ≤ nearest binary64 (averaging / interval) ∧ nearest binary64 (averaging / interval) ≤ 600 ∧
      (2 * nearest binary64 (averaging / interval) < 121 ↔
        averaging < (121 / 2 - 1 / 2 ^ 48) * interval) := by
  have positive : 0 < interval := by linarith
  have more : 1 ≤ averaging / interval := by
    rw [le_div_iff₀ positive]
    linarith
  have large : averaging / interval ≤ 600 := by
    rw [div_le_iff₀ positive]
    linarith
  refine ⟨?_, ?_, ?_⟩
  · simpa using le_nearest (small_representable (by decide) (by decide : (1 : Int) ≤ 600))
      (by simpa using more)
  · simpa using nearest_le (small_representable (by decide) (le_refl (600 : Int)))
      (by simpa using large)
  · rw [nearest_window (by linarith), div_lt_iff₀ positive]

/-- The window that the options make, where both intervals are set. -/
theorem window_bounds (infinite : Int32) {averaging interval : Rat} (within : averaging ≤ 60)
    (least : 1 / 10 ≤ interval) :
    1 ≤ (stats_per_interval infinite averaging interval).toInt ∧
      ((stats_per_interval infinite averaging interval).toInt ≤ 60 ↔
        averaging < (121 / 2 - 1 / 2 ^ 48) * interval) := by
  have positive : 0 < interval := by linarith
  unfold stats_per_interval
  split
  · rename_i shorter
    have longer : 1 * interval < (121 / 2 - 1 / 2 ^ 48) * interval :=
      mul_lt_mul_of_pos_right (by norm_num) positive
    refine ⟨by decide, fun _ => by linarith, fun _ => by decide⟩
  · rename_i longer
    rw [if_neg (ne_of_gt positive)]
    obtain ⟨more, large, fits⟩ := quotient_bounds within least (not_le.mp longer)
    obtain ⟨least_round, most, bound⟩ := round_bounds more large
    have exact_int :
        (Int32.ofInt (RateLimit.round (nearest binary64 (averaging / interval)))).toInt =
          RateLimit.round (nearest binary64 (averaging / interval)) := by
      apply Int32.toInt_ofInt_of_le
      · omega
      · omega
    rw [exact_int, bound, fits]
    exact ⟨least_round, Iff.rfl⟩

/-- With a limit, the calls are safe exactly when the window fits. -/
theorem safe_iff_fits (optioned : Optioned limiter) (limited : limiter.bitrate_limit ≠ 0)
    (infinite : Int32) : Safe (set_stats_per_interval infinite limiter) ↔ Fits limiter := by
  have watching := watching_of_optioned optioned limited infinite
  obtain ⟨interval, averaging, rest⟩ := optioned
  rcases averaging with none_averaged | ⟨least_averaging, within⟩
  · have unset : set_stats_per_interval infinite limiter = limiter := by
      rw [set_stats_per_interval, if_neg (not_not.mpr none_averaged)]
    have empty : limiter.bitrate_limit_stats_per_interval = 0 := by
      rw [rest]
      rfl
    have bad := unsafe_window watching (.inr (by rw [unset, empty]; simp))
    refine ⟨fun safe => absurd safe bad, fun fits => ?_⟩
    have positive := fits.1
    rw [none_averaged] at positive
    exact absurd positive (lt_irrefl _)
  · have averaged : limiter.bitrate_limit_interval ≠ 0 := by
      intro zero
      rw [zero] at least_averaging
      norm_num at least_averaging
    have set : set_stats_per_interval infinite limiter = { limiter with
        bitrate_limit_stats_per_interval :=
          stats_per_interval infinite limiter.bitrate_limit_interval limiter.stats_interval } := by
      rw [set_stats_per_interval, if_pos averaged]
    rcases interval with off | ⟨least, _⟩
    · have bad := unsafe_window watching (.inr (by rw [set, off]; simp))
      refine ⟨fun safe => absurd safe bad, fun fits => ?_⟩
      have positive := fits.2.1
      rw [off] at positive
      exact absurd positive (lt_irrefl _)
    · obtain ⟨some_period, bound⟩ := window_bounds infinite within least
      constructor
      · intro safe
        refine ⟨by linarith, by linarith, bound.mp ?_⟩
        by_contra large
        apply unsafe_window watching (.inl _) safe
        have converted := MachineWords.widened_toInt
          (stats_per_interval infinite limiter.bitrate_limit_interval limiter.stats_interval)
        have top := (stats_per_interval infinite limiter.bitrate_limit_interval
          limiter.stats_interval).toInt_lt
        rw [set]
        change 60 < (stats_per_interval infinite limiter.bitrate_limit_interval
          limiter.stats_interval).toInt64.toUInt64.toNat
        omega
      · rintro ⟨_, positive, short⟩
        apply safe_of_sized
        rw [set]
        refine ⟨some_period, bound.mpr short, ne_of_gt positive, ?_⟩
        rw [rest]
        exact List.length_replicate

/-- On every command line that is accepted, the limiter stays inside its buffer and divides by
something exactly when no limit is set, or both intervals are set and their quotient is
less than 60.5 by more than 2^-48. -/
theorem limiter_safe_iff {infinite : Int32} {parsing : Arguments.Parsing} {options : List Opt}
    {after : iperf_test}
    (accepted : iperf_parse_arguments features environment infinite ⟨parsing, new_limiter⟩ options =
      .ok (after, limiter)) :
    Safe limiter ↔ limiter.bitrate_limit = 0 ∨ Fits limiter := by
  have parsed := Ends.foldlM (@optioned_option features) (show Optioned
    (Parsing.mk parsing new_limiter).limiter from optioned_new) options
  rw [iperf_parse_arguments] at accepted
  cases reached : options.foldlM (parse_option features) ⟨parsing, new_limiter⟩ with
  | error refusal =>
      rw [reached] at accepted
      cases accepted
  | ok state =>
      have optioned := parsed.of_ok reached
      rw [reached] at accepted
      have finished : set_stats_per_interval infinite state.limiter = limiter := by
        cases ended : Arguments.finish environment state.parsing with
        | ok test =>
            have result : test = after ∧ set_stats_per_interval infinite state.limiter = limiter := by
              simpa [bind, Except.bind, ended] using accepted
            exact result.2
        | error errno => simp [bind, Except.bind, ended] at accepted
      have limit : limiter.bitrate_limit = state.limiter.bitrate_limit ∧
          limiter.bitrate_limit_interval = state.limiter.bitrate_limit_interval ∧
          limiter.stats_interval = state.limiter.stats_interval := by
        rw [← finished, set_stats_per_interval]
        split
        · exact ⟨rfl, rfl, rfl⟩
        · exact ⟨rfl, rfl, rfl⟩
      by_cases unlimited : limiter.bitrate_limit = 0
      · exact ⟨fun _ => .inl unlimited, fun _ => safe_of_unlimited unlimited⟩
      · have exact_fits := safe_iff_fits optioned (limit.1 ▸ unlimited) infinite
        rw [finished] at exact_fits
        rw [exact_fits, Fits, Fits, limit.2.1, limit.2.2]
        exact ⟨.inr, fun holds => holds.resolve_left unlimited⟩

end Accepted

section Samples

/-- `-s -i 0.1 --server-bitrate-limit 1M/60` -/
def long_options : List Opt :=
  [.other .s, .i (1 / 10), .server_bitrate_limit (some 60) (some 1000000)]

/-- `-s --server-bitrate-limit 1M/5` -/
def usual_options : List Opt := [.other .s, .server_bitrate_limit (some 5) (some 1000000)]

def parsed (options : List Opt) : Except Refusal (iperf_test × Limiter) :=
  iperf_parse_arguments sample_features Arguments.sample_environment 0
    ⟨{ test := iperf_defaults sample_features }, new_limiter⟩ options

/-- What a command line that is accepted makes. -/
def made_of (options : List Opt) : iperf_test × Limiter :=
  match parsed options with
  | .ok made => made
  | .error _ => (iperf_defaults sample_features, new_limiter)

theorem usual_accepted : parsed usual_options = .ok (made_of usual_options) := by
  decide +kernel

theorem limiter_safe_iff_sample :
    Safe (made_of usual_options).2 ↔
      (made_of usual_options).2.bitrate_limit = 0 ∨ Fits (made_of usual_options).2 :=
  limiter_safe_iff usual_accepted

/-- A window of 600 intervals: the 60th call writes beyond the buffer. -/
theorem limiter_safe_counterexample :
    parsed long_options = .ok (made_of long_options) ∧ (made_of long_options).1.role = .s ∧
      run (made_of long_options).2 (List.replicate 60 (.traffic 0)) = .error (.write 60) := by
  decide +kernel

end Samples

end Iperf.RateLimitBounds
