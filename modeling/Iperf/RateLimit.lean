import Mathlib.Algebra.GroupWithZero.Nat
import Iperf.BinaryFloat
import Iperf.MachineWords
import Iperf.Arguments
import Iperf.CyclicBuffer

/-!
The server's limit on the total rate: `iperf_check_total_rate` after each
statistics interval, and the part of the command line that sizes its window.
-/

namespace Iperf.RateLimit

open Config CyclicBuffer BinaryFloat

/-- What `iperf_check_total_rate` reads and writes. The intervals are values of doubles. The
count of the stored intervals is a number here and a 64-bit word in the source; it takes
2^64 calls of a test to tell the two apart. -/
structure Limiter where
  done : Int32
  stats_interval : Rat
  bitrate_limit : UInt64
  bitrate_limit_interval : Rat
  bitrate_limit_stats_per_interval : Int32
  bitrate_limit_stats_count : Nat
  bitrate_limit_last_interval_index : Nat
  bitrate_limit_intervals_traffic_bytes : List UInt64
  bitrate_limit_exceeded : Bool
  deriving DecidableEq, Repr

/-- An access outside the buffer, or a division by zero. -/
inductive Fault where
  | write (index : Nat)
  | read (index : Nat)
  | division
  deriving DecidableEq, Repr

section Check
variable (limiter : Limiter)

/-- The number of periods where it is compared with an `iperf_size_t`. -/
def periods : Nat := limiter.bitrate_limit_stats_per_interval.toInt64.toUInt64.toNat

def store_interval (last_interval_bytes_transferred : UInt64) : Except Fault Limiter :=
  let index := next (periods limiter) limiter.bitrate_limit_last_interval_index
  let cells := limiter.bitrate_limit_intervals_traffic_bytes
  if index < cells.length then
    .ok { limiter with
      bitrate_limit_last_interval_index := index
      bitrate_limit_intervals_traffic_bytes := cells.set index last_interval_bytes_transferred }
  else .error (.write index)

/-- The loop over the buffer, up to `count`. -/
def sum_intervals (cells : List UInt64) : Nat → Except Fault UInt64
  | 0 => .ok 0
  | count + 1 => do
      let total_bytes ← sum_intervals cells count
      match cells[count]? with
      | some bytes => .ok (total_bytes + bytes)
      | none => .error (.read count)

def bits_per_second (total_bytes : UInt64) : Except Fault Nat :=
  let seconds := limiter.stats_interval * limiter.bitrate_limit_stats_per_interval.toInt
  if seconds = 0 then .error .division
  else .ok (((total_bytes * 8).toNat : Rat) / seconds).floor.toNat

/-- The average over the last periods, with the one that was stored last. -/
def check_average : Except Fault Limiter := do
  let total_bytes ← sum_intervals limiter.bitrate_limit_intervals_traffic_bytes
    limiter.bitrate_limit_stats_per_interval.toInt.toNat
  let rate ← bits_per_second limiter total_bytes
  .ok { limiter with
    bitrate_limit_exceeded :=
      limiter.bitrate_limit_exceeded || decide (limiter.bitrate_limit.toNat < rate) }

def iperf_check_total_rate (last_interval_bytes_transferred : UInt64) : Except Fault Limiter :=
  if limiter.done ≠ 0 ∨ limiter.bitrate_limit = 0 then .ok limiter
  else do
    let limiter ← store_interval limiter last_interval_bytes_transferred
    let limiter :=
      { limiter with bitrate_limit_stats_count := limiter.bitrate_limit_stats_count + 1 }
    if limiter.bitrate_limit_stats_count < periods limiter then .ok limiter
    else check_average limiter

/-- One call after the other. -/
def check_intervals (intervals : List UInt64) : Except Fault Limiter :=
  intervals.foldlM iperf_check_total_rate limiter

end Check

section Window
variable {start limiter : Limiter} {count : Nat}

/-- A limiter at the start of a test, with `count` periods in its window. -/
structure Ready (limiter : Limiter) (count : Nat) : Prop where
  running : limiter.done = 0
  limited : 0 < limiter.bitrate_limit
  sized : limiter.bitrate_limit_stats_per_interval.toInt = count
  some_period : 1 ≤ count
  fits : count ≤ limiter.bitrate_limit_intervals_traffic_bytes.length
  timed : 0 < limiter.stats_interval
  begun : limiter.bitrate_limit_stats_count = 0
  first : limiter.bitrate_limit_last_interval_index = 0

/-- The bytes of the last `count` intervals. -/
def window (count : Nat) (intervals : List UInt64) : List UInt64 :=
  intervals.drop (intervals.length - count)

def transferred (intervals : List UInt64) : Nat := (intervals.map UInt64.toNat).sum

/-- `floor (8 * sum / (N * stats_interval))` over the last intervals. -/
def average (count : Nat) (stats_interval : Rat) (intervals : List UInt64) : Int :=
  ((8 * transferred (window count intervals) : Rat) / (count * stats_interval)).floor

theorem periods_of_sized (sized : limiter.bitrate_limit_stats_per_interval.toInt = count) :
    periods limiter = count := by
  have converted := MachineWords.widened_toInt limiter.bitrate_limit_stats_per_interval
  have small := limiter.bitrate_limit_stats_per_interval.toInt_lt
  rw [sized] at converted small
  unfold periods
  omega

theorem sum_intervals_within {cells : List UInt64} (within : count ≤ cells.length) :
    ∃ total, sum_intervals cells count = .ok total ∧
      total.toNat = transferred (cells.take count) % 2 ^ 64 := by
  induction count with
  | zero => exact ⟨0, rfl, rfl⟩
  | succ count ih =>
      obtain ⟨total, summed, value⟩ := ih (Nat.le_of_succ_le within)
      have cell : cells[count]? = some cells[count] := List.getElem?_eq_getElem within
      refine ⟨total + cells[count], ?_, ?_⟩
      · simp only [sum_intervals, summed, cell]
        rfl
      · rw [List.take_succ_eq_append_getElem within, UInt64.toNat_add, value]
        simp only [transferred, List.map_append, List.map_cons, List.map_nil, List.sum_append,
          List.sum_cons, List.sum_nil]
        omega

/-- After some calls: the count, the buffer, and what no call changes. -/
structure Tracks (start : Limiter) (count : Nat) (intervals : List UInt64) (now : Limiter) :
    Prop where
  running : now.done = start.done
  limit : now.bitrate_limit = start.bitrate_limit
  sized : now.bitrate_limit_stats_per_interval = start.bitrate_limit_stats_per_interval
  timed : now.stats_interval = start.stats_interval
  counted : now.bitrate_limit_stats_count = intervals.length
  length : now.bitrate_limit_intervals_traffic_bytes.length =
    start.bitrate_limit_intervals_traffic_bytes.length
  stored : (now.bitrate_limit_intervals_traffic_bytes.take count,
      now.bitrate_limit_last_interval_index) =
    intervals.foldl store (start.bitrate_limit_intervals_traffic_bytes.take count, 0)

theorem tracks_start (ready : Ready start count) : Tracks start count [] start :=
  ⟨rfl, rfl, rfl, rfl, ready.begun, rfl, by rw [List.foldl_nil, ready.first]⟩

theorem stored_within (ready : Ready start count) (intervals : List UInt64) :
    let buffer := intervals.foldl store (start.bitrate_limit_intervals_traffic_bytes.take count, 0)
    buffer.2 < count ∧ buffer.1.length = count := by
  have length : (start.bitrate_limit_intervals_traffic_bytes.take count).length = count :=
    List.length_take_of_le ready.fits
  have begun : 0 < (start.bitrate_limit_intervals_traffic_bytes.take count).length := by
    rw [length]
    exact ready.some_period
  have within := @store_within _ (_, 0) begun intervals
  have kept := store_length (start.bitrate_limit_intervals_traffic_bytes.take count, 0) intervals
  rw [kept, length] at within
  exact ⟨within, kept.trans length⟩

/-- The limiter with an interval stored and counted. -/
def stored (limiter : Limiter) (last_interval_bytes_transferred : UInt64) : Limiter :=
  let index := next (periods limiter) limiter.bitrate_limit_last_interval_index
  { limiter with
    bitrate_limit_last_interval_index := index
    bitrate_limit_intervals_traffic_bytes :=
      limiter.bitrate_limit_intervals_traffic_bytes.set index last_interval_bytes_transferred
    bitrate_limit_stats_count := limiter.bitrate_limit_stats_count + 1 }

/-- A call that finds room in the buffer. -/
theorem check_stored (running : limiter.done = 0) (limited : limiter.bitrate_limit ≠ 0)
    (room : next (periods limiter) limiter.bitrate_limit_last_interval_index <
      limiter.bitrate_limit_intervals_traffic_bytes.length) (last : UInt64) :
    iperf_check_total_rate limiter last =
      if limiter.bitrate_limit_stats_count + 1 < periods limiter then .ok (stored limiter last)
      else check_average (stored limiter last) := by
  have checked : ¬ (limiter.done ≠ 0 ∨ limiter.bitrate_limit = 0) :=
    not_or.mpr ⟨not_not.mpr running, limited⟩
  rw [iperf_check_total_rate, if_neg checked, store_interval]
  simp only [if_pos room]
  rfl

/-- A call stores its interval. -/
theorem tracks_stored (ready : Ready start count) {intervals : List UInt64}
    (tracks : Tracks start count intervals limiter) (last : UInt64) :
    next (periods limiter) limiter.bitrate_limit_last_interval_index <
        limiter.bitrate_limit_intervals_traffic_bytes.length ∧
      Tracks start count (intervals ++ [last]) (stored limiter last) := by
  obtain ⟨running, limit, sized, timed, counted, length, cells⟩ := tracks
  obtain ⟨within, whole⟩ := stored_within ready intervals
  rw [← cells] at within whole
  have some_periods : periods limiter = count := periods_of_sized (sized ▸ ready.sized)
  have inside := next_lt ready.some_period limiter.bitrate_limit_last_interval_index
  constructor
  · rw [some_periods, length]
    exact Nat.lt_of_lt_of_le inside ready.fits
  · refine ⟨running, limit, sized, timed, ?_, ?_, ?_⟩
    · simp [stored, counted]
    · simpa [stored] using length
    · rw [List.foldl_append, ← cells]
      simp only [List.foldl_cons, List.foldl_nil, store, whole, stored, some_periods]
      rw [List.take_set]

theorem transferred_perm {one other : List UInt64} (same : one.Perm other) :
    transferred one = transferred other :=
  (same.map UInt64.toNat).sum_nat

/-- Once there were `count` calls, the buffer holds the bytes of the last ones. -/
theorem window_stored (ready : Ready start count) {intervals : List UInt64}
    (tracks : Tracks start count intervals limiter) (full : count ≤ intervals.length) :
    transferred (limiter.bitrate_limit_intervals_traffic_bytes.take count) =
      transferred (window count intervals) := by
  have length : (start.bitrate_limit_intervals_traffic_bytes.take count).length = count :=
    List.length_take_of_le ready.fits
  have begun : 0 < (start.bitrate_limit_intervals_traffic_bytes.take count).length := by
    rw [length]
    exact ready.some_period
  have round : (start.bitrate_limit_intervals_traffic_bytes.take count).length ≤
      intervals.length := by
    rw [length]
    exact full
  have seen := @view_last _ (_, 0) begun intervals round
  rw [← tracks.stored, length] at seen
  have cells := view_perm (limiter.bitrate_limit_intervals_traffic_bytes.take count)
    limiter.bitrate_limit_last_interval_index
  rw [seen] at cells
  exact (transferred_perm cells).symm

/-- The rate that a check computes from a sum. -/
def rate_of (limiter : Limiter) (total_bytes : UInt64) : Nat :=
  (((total_bytes * 8).toNat : Rat) /
    (limiter.stats_interval * limiter.bitrate_limit_stats_per_interval.toInt)).floor.toNat

/-- A window inside the buffer is summed up and compared. -/
theorem check_average_within
    (within : limiter.bitrate_limit_stats_per_interval.toInt.toNat ≤
      limiter.bitrate_limit_intervals_traffic_bytes.length)
    (divides : limiter.stats_interval * limiter.bitrate_limit_stats_per_interval.toInt ≠ 0) :
    ∃ total, total.toNat = transferred (limiter.bitrate_limit_intervals_traffic_bytes.take
        limiter.bitrate_limit_stats_per_interval.toInt.toNat) % 2 ^ 64 ∧
      check_average limiter = .ok { limiter with
        bitrate_limit_exceeded := limiter.bitrate_limit_exceeded ||
          decide (limiter.bitrate_limit.toNat < rate_of limiter total) } := by
  obtain ⟨total, summed, value⟩ := sum_intervals_within within
  have rate : bits_per_second limiter total = .ok (rate_of limiter total) := by
    simp only [bits_per_second, if_neg divides, rate_of]
  refine ⟨total, value, ?_⟩
  rw [check_average, summed]
  show (bits_per_second limiter total >>= _) = _
  rw [rate]
  rfl

/-- With the last interval stored and counted, the average decides. -/
theorem check_average_exact (ready : Ready start count) {intervals : List UInt64}
    (tracks : Tracks start count intervals limiter) (full : count ≤ intervals.length) :
    ∃ after, check_average limiter = .ok after ∧ Tracks start count intervals after ∧
      (transferred (window count intervals) < 2 ^ 61 →
        (after.bitrate_limit_exceeded = true ↔ limiter.bitrate_limit_exceeded = true ∨
          (start.bitrate_limit.toNat : Int) < average count start.stats_interval intervals)) := by
  have stored := window_stored ready tracks full
  obtain ⟨running, limit, sized, timed, counted, length, cells⟩ := tracks
  have loops : limiter.bitrate_limit_stats_per_interval.toInt = count := sized ▸ ready.sized
  have seconds : limiter.stats_interval * limiter.bitrate_limit_stats_per_interval.toInt =
      count * start.stats_interval := by
    rw [timed, loops, mul_comm]
    rfl
  have divides : limiter.stats_interval * limiter.bitrate_limit_stats_per_interval.toInt ≠ 0 := by
    have some_period : (0 : Rat) < count := by exact_mod_cast ready.some_period
    rw [seconds]
    exact ne_of_gt (mul_pos some_period ready.timed)
  obtain ⟨total, value, checked⟩ := check_average_within (by simpa [loops, length] using ready.fits)
    divides
  refine ⟨_, checked, ⟨running, limit, sized, timed, counted, length, cells⟩, fun small => ?_⟩
  have wide : total.toNat = transferred (window count intervals) := by
    rw [value, loops, Int.toNat_natCast, stored]
    exact Nat.mod_eq_of_lt (by omega)
  have bits : ((total * 8).toNat : Rat) = 8 * transferred (window count intervals) := by
    have product : (total * 8).toNat = 8 * transferred (window count intervals) := by
      rw [UInt64.toNat_mul, wide]
      simp only [UInt64.reduceToNat]
      omega
    rw [product]
    push_cast
    rfl
  rw [Bool.or_eq_true, decide_eq_true_eq, limit, rate_of, seconds, bits, Int.lt_toNat]
  rfl

/-- What one call does to the flag, after any calls before it. -/
theorem check_exact (ready : Ready start count) {intervals : List UInt64}
    (tracks : Tracks start count intervals limiter) (last : UInt64) :
    ∃ after, iperf_check_total_rate limiter last = .ok after ∧
      Tracks start count (intervals ++ [last]) after ∧
      (transferred (window count (intervals ++ [last])) < 2 ^ 61 →
        (after.bitrate_limit_exceeded = true ↔ limiter.bitrate_limit_exceeded = true ∨
          count ≤ intervals.length + 1 ∧ (start.bitrate_limit.toNat : Int) <
            average count start.stats_interval (intervals ++ [last]))) := by
  obtain ⟨room, tracked⟩ := tracks_stored ready tracks last
  have running : limiter.done = 0 := tracks.running.trans ready.running
  have limited : limiter.bitrate_limit ≠ 0 := by
    rw [tracks.limit]
    exact fun none => absurd ready.limited (by simp [none])
  have some_periods : periods limiter = count := periods_of_sized (tracks.sized ▸ ready.sized)
  have flag : (stored limiter last).bitrate_limit_exceeded = limiter.bitrate_limit_exceeded := rfl
  rw [check_stored running limited room, some_periods, tracks.counted]
  by_cases early : intervals.length + 1 < count
  · rw [if_pos early]
    refine ⟨_, rfl, tracked, fun _ => ?_⟩
    rw [flag]
    constructor
    · exact .inl
    · rintro (set | ⟨full, _⟩)
      · exact set
      · omega
  · rw [if_neg early]
    have full : count ≤ (intervals ++ [last]).length := by
      simp only [List.length_append, List.length_singleton]
      omega
    obtain ⟨after, checked, tracks, exact_flag⟩ := check_average_exact ready tracked full
    refine ⟨after, checked, tracks, fun small => ?_⟩
    rw [exact_flag small, flag]
    simp only [Nat.not_lt.mp early, true_and]

/-- No sequence of calls goes wrong. -/
theorem tracks_run (ready : Ready start count) (intervals : List UInt64) :
    ∃ now, check_intervals start intervals = .ok now ∧ Tracks start count intervals now := by
  induction intervals using List.reverseRecOn with
  | nil => exact ⟨start, rfl, tracks_start ready⟩
  | append_singleton past last ih =>
      obtain ⟨now, reached, tracks⟩ := ih
      obtain ⟨after, checked, tracks, _⟩ := check_exact ready tracks last
      refine ⟨after, ?_, tracks⟩
      rw [check_intervals] at reached ⊢
      rw [List.foldlM_append, reached]
      show (iperf_check_total_rate now last >>= pure) = _
      rw [checked]
      rfl

/-- The limiter is a sliding window: after any calls, the next one sets the flag exactly when
the window is full and the average over it is above the limit; nothing clears it. -/
theorem sliding_window_exact (ready : Ready start count) (intervals : List UInt64) (last : UInt64)
    (small : transferred (window count (intervals ++ [last])) < 2 ^ 61) :
    ∃ before after, check_intervals start intervals = .ok before ∧
      iperf_check_total_rate before last = .ok after ∧
      (after.bitrate_limit_exceeded = true ↔ before.bitrate_limit_exceeded = true ∨
        count ≤ intervals.length + 1 ∧ (start.bitrate_limit.toNat : Int) <
          average count start.stats_interval (intervals ++ [last])) := by
  obtain ⟨before, reached, tracks⟩ := tracks_run ready intervals
  obtain ⟨after, checked, _, exact_flag⟩ := check_exact ready tracks last
  exact ⟨before, after, reached, checked, exact_flag small⟩

/-- Two periods of a second, and four bytes a second allowed. -/
def limiter_sample : Limiter :=
  { done := 0
    stats_interval := 1
    bitrate_limit := 32
    bitrate_limit_interval := 2
    bitrate_limit_stats_per_interval := 2
    bitrate_limit_stats_count := 0
    bitrate_limit_last_interval_index := 0
    bitrate_limit_intervals_traffic_bytes := [7, 7, 7]
    bitrate_limit_exceeded := false }

theorem sliding_window_exact_sample :
    ∃ before after, check_intervals limiter_sample [4, 4] = .ok before ∧
      iperf_check_total_rate before 5 = .ok after ∧
      (after.bitrate_limit_exceeded = true ↔ before.bitrate_limit_exceeded = true ∨
        2 ≤ 2 + 1 ∧ (32 : Int) < average 2 1 [4, 4, 5]) :=
  sliding_window_exact
    ⟨rfl, by decide, rfl, by decide, by decide, by decide +kernel, rfl, rfl⟩ [4, 4] 5 (by decide)

end Window

section CommandLine

def MIN_INTERVAL : Rat := 1 / 10

def MAX_INTERVAL : Nat := 60

/-- The options that the limiter depends on, with the numbers that `atof` and
`unit_atof_rate` make of their arguments. -/
inductive Opt where
  | i (seconds : Rat)
  | server_bitrate_limit (interval : Option Rat) (rate : Option UInt64)
  | other (opt : Arguments.Opt)

inductive Refusal where
  | IEINTERVAL
  | IETOTALINTERVAL
  | arguments (errno : Errno)
  deriving DecidableEq, Repr

structure Parsing where
  parsing : Arguments.Parsing
  limiter : Limiter

/-- Zero switches an interval off. -/
def refuses (seconds : Rat) : Bool :=
  (seconds < MIN_INTERVAL ∨ (MAX_INTERVAL : Rat) < seconds) ∧ seconds ≠ 0

variable (features : Features) (environment : Arguments.Environment)

def parse_arguments_option (state : Parsing) (opt : Arguments.Opt) : Except Refusal Parsing :=
  match Arguments.parse_option features state.parsing opt with
  | .ok parsing => .ok { state with parsing := parsing }
  | .error errno => .error (.arguments errno)

def parse_option (state : Parsing) (opt : Opt) : Except Refusal Parsing :=
  let limiter := state.limiter
  match opt with
  | .i seconds =>
      if refuses seconds then .error .IEINTERVAL
      else .ok { state with limiter := { limiter with stats_interval := seconds } }
  | .server_bitrate_limit interval rate =>
      let averaging := interval.getD limiter.bitrate_limit_interval
      if interval.any refuses then .error .IETOTALINTERVAL
      else
        match rate with
        | none => .error (.arguments .IEUNITVAL)
        | some rate =>
            let limiter :=
              { limiter with bitrate_limit_interval := averaging, bitrate_limit := rate }
            parse_arguments_option features { state with limiter := limiter } (.other true false)
  | .other opt => parse_arguments_option features state opt

/-- Half away from zero, for what is not negative. -/
def round (value : Rat) : Int := (value + 1 / 2).floor

/-- The quotient is a `double` before it is rounded. `infinite` is what the machine makes
of an infinite one as an `int`. -/
def stats_per_interval (infinite : Int32) (bitrate_limit_interval stats_interval : Rat) : Int32 :=
  if bitrate_limit_interval ≤ stats_interval then 1
  else if stats_interval = 0 then infinite
  else .ofInt (round (nearest binary64 (bitrate_limit_interval / stats_interval)))

/-- The average is taken over a multiple of the statistics interval. -/
def set_stats_per_interval (infinite : Int32) (limiter : Limiter) : Limiter :=
  if limiter.bitrate_limit_interval ≠ 0 then
    { limiter with
      bitrate_limit_stats_per_interval :=
        stats_per_interval infinite limiter.bitrate_limit_interval limiter.stats_interval }
  else limiter

def iperf_parse_arguments (infinite : Int32) (state : Parsing) (options : List Opt) :
    Except Refusal (iperf_test × Limiter) := do
  let state ← options.foldlM (parse_option features) state
  match Arguments.finish environment state.parsing with
  | .ok test => .ok (test, set_stats_per_interval infinite state.limiter)
  | .error errno => .error (.arguments errno)

/-- The limiter of `iperf_new_test` and `iperf_defaults`. -/
def new_limiter : Limiter :=
  { done := 0
    stats_interval := 1
    bitrate_limit := 0
    bitrate_limit_interval := 5
    bitrate_limit_stats_per_interval := 0
    bitrate_limit_stats_count := 0
    bitrate_limit_last_interval_index := 0
    bitrate_limit_intervals_traffic_bytes := List.replicate MAX_INTERVAL 0
    bitrate_limit_exceeded := false }

/-- What happens to the limiter of a server. -/
inductive Event where
  | traffic (last_interval_bytes_transferred : UInt64)
  /-- `test->done` is set -/
  | done
  /-- `iperf_reset_test` -/
  | reset

def iperf_reset_test (limiter : Limiter) : Limiter :=
  { limiter with
    done := 0
    bitrate_limit_stats_count := 0
    bitrate_limit_last_interval_index := 0
    bitrate_limit_intervals_traffic_bytes :=
      List.replicate MAX_INTERVAL 0 ++
        limiter.bitrate_limit_intervals_traffic_bytes.drop MAX_INTERVAL
    bitrate_limit_exceeded := false }

def step (limiter : Limiter) : Event → Except Fault Limiter
  | .traffic bytes => iperf_check_total_rate limiter bytes
  | .done => .ok { limiter with done := 1 }
  | .reset => .ok (iperf_reset_test limiter)

def run (limiter : Limiter) (events : List Event) : Except Fault Limiter :=
  events.foldlM step limiter

end CommandLine

end Iperf.RateLimit
