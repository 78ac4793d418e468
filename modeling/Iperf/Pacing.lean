import Iperf.MachineWords
import Iperf.Transition
import Iperf.UdpJitter
import Mathlib.Algebra.Order.Floor.Ring
import Mathlib.Data.Rat.Floor
import Mathlib.Tactic.FieldSimp
import Mathlib.Tactic.Linarith
import Mathlib.Tactic.Ring

/-!
Pacing by the application. Each round of `iperf_send_mt` ends with a comparison of the
stream's average rate with the requested one, and a stream that is ahead sleeps until the
average has come down. The arithmetic is exact, except where the source turns a `double`
into an integer or divides integers.
-/

namespace Iperf.Pacing

open Transition Time UdpJitter

section Settings

/-- `multisend` is the number of messages of a round without pacing. -/
structure Settings where
  rate : Nat
  burst : Nat
  blksize : Nat
  multisend : Nat
  deriving DecidableEq, Repr

def SEC_TO_NS : Int := 1000000000

/-- `now` is what the monotonic clock shows, in nanoseconds. -/
structure Stream where
  bytes_sent : Nat
  green_light : Bool
  now : Nat
  deriving DecidableEq, Repr

/-- What the system calls of one check answer: how far the clock has gone on when
`iperf_time_now` and `clock_gettime` read it, what `clock_nanosleep` returns in the end,
and how late that is. -/
structure Check where
  read : Nat
  gettime : Option Nat
  ret : Int
  late : Nat
  deriving DecidableEq, Repr

inductive Fault where
  | no_time
  | overflow
  deriving DecidableEq, Repr

end Settings

section Throttle

/-- Between two readings of a clock that is kept in microseconds. -/
def seconds (start nowP : Nat) : ℚ := ((nowP / 1000 : Nat) - (start / 1000 : Nat) : ℚ) / 1000000

/-- The conversion of a `double` to an integer type. -/
def truncate (value : ℚ) : Int := if 0 ≤ value then ⌊value⌋ else ⌈value⌉

def bits_sent (sp : Stream) : Nat := sp.bytes_sent * 8

def bits_per_second (start nowP : Nat) (sp : Stream) : Int :=
  truncate (bits_sent sp / seconds start nowP)

def missing_rate (rate start nowP : Nat) (sp : Stream) : Int :=
  rate - bits_per_second start nowP sp

def delta_bits (rate start nowP : Nat) (sp : Stream) : Int :=
  truncate (bits_sent sp - seconds start nowP * rate)

def time_to_green_light (rate start nowP : Nat) (sp : Stream) : Int :=
  SEC_TO_NS * delta_bits rate start nowP sp / rate

/-- The end of the sleep, put together from seconds and nanoseconds. -/
def sleep_end (nanosleep_time : Nat) (wait : Int) : Int :=
  let tv_sec : Int := (nanosleep_time / 1000000000 : Nat)
  let tv_nsec : Int := (nanosleep_time % 1000000000 : Nat)
  let ns := tv_nsec + wait
  if ns < SEC_TO_NS then tv_sec * SEC_TO_NS + ns
  else (tv_sec + ns / SEC_TO_NS) * SEC_TO_NS + ns % SEC_TO_NS

def sleep (check : Check) (wait : Int) (sp : Stream) : Stream :=
  match check.gettime with
  | none => sp
  | some read =>
      let nanosleep_time := sp.now + read
      if check.ret = 0 then
        { sp with
          green_light := true
          now := max nanosleep_time (sleep_end nanosleep_time wait).toNat + check.late }
      else { sp with now := nanosleep_time + check.late }

/-- The product is taken in a signed word of 64 bits. -/
def iperf_check_throttle (rate start : Nat) (done : Bool) (check : Check) (nowP : Nat)
    (sp : Stream) : Except Fault Stream :=
  if done ∨ rate = 0 then .ok sp
  else if seconds start nowP = 0 then .error .no_time
  else
    let shown := { sp with green_light := decide (missing_rate rate start nowP sp > 0) }
    if missing_rate rate start nowP sp < 0 then
      let product := SEC_TO_NS * delta_bits rate start nowP sp
      if product < -2 ^ 63 ∨ 2 ^ 63 ≤ product then .error .overflow
      else
        let wait := time_to_green_light rate start nowP sp
        if wait ≥ 0 then .ok (sleep check wait shown) else .ok shown
    else .ok shown

/-- `iperf_time_now` and the check with what it gave. -/
def check_now (rate start : Nat) (done : Bool) (check : Check) (sp : Stream) :
    Except Fault Stream :=
  let sp := { sp with now := sp.now + check.read }
  iperf_check_throttle rate start done check sp.now sp

end Throttle

section Send

def NET_SOFTERROR : Int := -1

/-- One pass of the loop: whether the goal of the test is reached by now, what `snd` returns
and how long it takes, and the check after it. -/
structure Message where
  goal_reached : Bool
  r : Int
  took : Nat
  check : Check
  deriving DecidableEq, Repr

/-- How the loop is left. -/
inductive Sent where
  | finished (message_sent : Bool) (sp : Stream)
  | failed (r : Int) (sp : Stream)
  deriving DecidableEq, Repr

def rounds (settings : Settings) : Nat :=
  if settings.burst ≠ 0 then settings.burst
  else if settings.rate = 0 then settings.multisend
  else 1

def throttle_check (settings : Settings) : Bool := settings.rate ≠ 0

def throttle_check_per_message (settings : Settings) : Bool :=
  settings.rate ≠ 0 ∧ settings.burst = 0

/-- The messages are numbered by how many follow. `nowP` is read before the first check
only. -/
def send_loop (settings : Settings) (start : Nat) (done : Bool) (messages : Nat → Message) :
    Nat → Bool → Nat → Stream → Except Fault Sent
  | 0, message_sent, _, sp => .ok (.finished message_sent sp)
  | multisend + 1, message_sent, nowP, sp =>
      if ¬ sp.green_light then .ok (.finished message_sent sp)
      else
        let message := messages multisend
        if multisend + 1 > 1 ∧ message.goal_reached then .ok (.finished message_sent sp)
        else if message.r < 0 then
          let sp := { sp with now := sp.now + message.took }
          if message.r = NET_SOFTERROR then .ok (.finished message_sent sp)
          else .ok (.failed message.r sp)
        else
          let sp :=
            { sp with
              bytes_sent := sp.bytes_sent + message.r.toNat
              now := sp.now + message.took }
          if throttle_check_per_message settings then
            if message_sent then do
              let sp ← iperf_check_throttle settings.rate start done message.check nowP sp
              send_loop settings start done messages multisend true nowP sp
            else do
              let nowP := sp.now + message.check.read
              let sp ← check_now settings.rate start done message.check sp
              send_loop settings start done messages multisend true nowP sp
          else send_loop settings start done messages multisend true nowP sp

/-- A call from the worker: how long after the one before, and what happens in it. -/
structure Call where
  delay : Nat
  messages : Nat → Message
  check : Check

def iperf_send_mt (settings : Settings) (start : Nat) (done : Bool) (call : Call) (sp : Stream) :
    Except Fault (Int × Stream) := do
  let sp := { sp with now := sp.now + call.delay }
  match ← send_loop settings start done call.messages (rounds settings) false 0 sp with
  | .failed r sp => .ok (r, sp)
  | .finished message_sent sp =>
      if throttle_check settings ∧ (¬ throttle_check_per_message settings ∨ ¬ message_sent) then do
        let sp ← check_now settings.rate start done call.check sp
        .ok (0, sp)
      else .ok (0, sp)

/-- `snd` sends a block at most. -/
def Bounded (settings : Settings) (call : Call) : Prop :=
  ∀ multisend, (call.messages multisend).r ≤ settings.blksize

/-- The worker goes on as long as the calls succeed. -/
def Step (settings : Settings) (start : Nat) (before : Stream) (call : Call) (after : Stream) :
    Prop :=
  Bounded settings call ∧ iperf_send_mt settings start false call before = .ok (0, after)

end Send

section Pace

def elapsed (start now : Nat) : ℚ := ((now : ℚ) - start) / 1000000000

/-- So many bits ahead of the rate, and the rounding, at most. -/
def Ahead (rate start : Nat) (bits : ℚ) (sp : Stream) : Prop :=
  8 * (sp.bytes_sent : ℚ) ≤
    rate * elapsed start sp.now + rate / 10 ^ 6 + rate / 10 ^ 9 + 1 + bits

/-- A stream with a green light is not ahead by more than the rounding. -/
def Paced (rate start : Nat) (sp : Stream) : Prop := sp.green_light → Ahead rate start 0 sp

theorem seconds_close (start nowP : Nat) :
    seconds start nowP ≤ elapsed start nowP + 1 / 10 ^ 6 ∧
      elapsed start nowP - 1 / 10 ^ 6 ≤ seconds start nowP := by
  have low_now : ((nowP / 1000 : Nat) : ℚ) * 1000 ≤ nowP := by
    exact_mod_cast Nat.div_mul_le_self nowP 1000
  have low_start : ((start / 1000 : Nat) : ℚ) * 1000 ≤ start := by
    exact_mod_cast Nat.div_mul_le_self start 1000
  have high_now : (nowP : ℚ) ≤ ((nowP / 1000 : Nat) : ℚ) * 1000 + 1000 := by
    have : nowP ≤ nowP / 1000 * 1000 + 1000 := by omega
    exact_mod_cast this
  have high_start : (start : ℚ) ≤ ((start / 1000 : Nat) : ℚ) * 1000 + 1000 := by
    have : start ≤ start / 1000 * 1000 + 1000 := by omega
    exact_mod_cast this
  unfold seconds elapsed
  constructor
  · linarith
  · linarith

/-- The reading of the clock, with the microseconds rounded down. -/
def iperf_time_now (clock : Nat) : iperf_time :=
  ⟨UInt32.ofNat (clock / 1000000000), UInt32.ofNat (clock % 1000000000 / 1000)⟩

/-- Before the clock's seconds wrap, this is what the source computes. -/
theorem seconds_diff {start nowP : Nat} (ordered : start ≤ nowP)
    (range : nowP < 2 ^ 32 * 1000000000) :
    iperf_time_in_secs (iperf_time_diff (iperf_time_now start) (iperf_time_now nowP)).1 =
      seconds start nowP := by
  have reading : ∀ clock < 2 ^ 32 * 1000000000,
      Proper (iperf_time_now clock) ∧ micros (iperf_time_now clock) = (clock / 1000 : Nat) := by
    intro clock range
    unfold Proper micros iperf_time_in_usecs iperf_time_now
    simp only [UInt32.toNat_ofNat']
    omega
  obtain ⟨proper_start, micros_start⟩ := reading start (by omega)
  obtain ⟨proper_now, micros_now⟩ := reading nowP range
  have smaller : ((start / 1000 : Nat) : ℚ) ≤ (nowP / 1000 : Nat) := by
    exact_mod_cast Nat.div_le_div_right ordered
  rw [time_diff_transit proper_now proper_start, transit, micros_start, micros_now, seconds]
  generalize start / 1000 = first at *
  generalize nowP / 1000 = last at *
  push_cast
  rw [abs_sub_comm, abs_of_nonneg (by linarith)]

theorem sleep_end_eq (nanosleep_time : Nat) (wait : Int) :
    sleep_end nanosleep_time wait = nanosleep_time + wait := by
  unfold sleep_end SEC_TO_NS
  dsimp only
  split <;> omega

theorem elapsed_mono {start early late : Nat} (ordered : early ≤ late) :
    elapsed start early ≤ elapsed start late := by
  have : (early : ℚ) ≤ late := by exact_mod_cast ordered
  unfold elapsed
  linarith

theorem seconds_nonneg {start nowP : Nat} (after : start ≤ nowP) : 0 ≤ seconds start nowP := by
  have : ((start / 1000 : Nat) : ℚ) ≤ (nowP / 1000 : Nat) := by
    exact_mod_cast Nat.div_le_div_right after
  unfold seconds
  linarith

theorem truncate_nonneg {value : ℚ} (nonneg : 0 ≤ value) : truncate value = ⌊value⌋ :=
  if_pos nonneg

end Pace

section Check
variable {rate start : Nat} {sp : Stream}

/-- What is missing is the average below the rate. -/
theorem green_behind (positive : 0 < seconds start sp.now)
    (missing : 0 < missing_rate rate start sp.now sp) :
    (bits_sent sp : ℚ) ≤ rate * seconds start sp.now := by
  have average : (0 : ℚ) ≤ bits_sent sp / seconds start sp.now :=
    div_nonneg (Nat.cast_nonneg _) positive.le
  rw [missing_rate, bits_per_second, truncate_nonneg average, Int.sub_pos, Int.floor_lt,
    div_lt_iff₀ positive] at missing
  exact_mod_cast missing.le

theorem red_ahead (positive : 0 < seconds start sp.now)
    (missing : missing_rate rate start sp.now sp < 0) :
    rate * seconds start sp.now + seconds start sp.now ≤ bits_sent sp := by
  have average : (0 : ℚ) ≤ bits_sent sp / seconds start sp.now :=
    div_nonneg (Nat.cast_nonneg _) positive.le
  have next : (rate : Int) + 1 ≤ ⌊(bits_sent sp : ℚ) / seconds start sp.now⌋ := by
    rw [missing_rate, bits_per_second, truncate_nonneg average] at missing
    omega
  rw [Int.le_floor, le_div_iff₀ positive] at next
  push_cast at next
  linarith

/-- The bits that are too many, rounded down. -/
theorem delta_bits_bounds (positive : 0 < seconds start sp.now)
    (missing : missing_rate rate start sp.now sp < 0) :
    0 ≤ delta_bits rate start sp.now sp ∧
      (delta_bits rate start sp.now sp : ℚ) ≤ bits_sent sp - seconds start sp.now * rate ∧
      (bits_sent sp : ℚ) - seconds start sp.now * rate - 1 < delta_bits rate start sp.now sp := by
  have ahead := red_ahead positive missing
  have nonneg : (0 : ℚ) ≤ bits_sent sp - seconds start sp.now * rate := by linarith
  rw [delta_bits, truncate_nonneg nonneg]
  exact ⟨Int.floor_nonneg.mpr nonneg, Int.floor_le _, Int.sub_one_lt_floor _⟩

/-- The largest burst with the largest blocks. -/
def most_bits : ℚ := 8 * 1000 * 2 ^ 20

theorem product_fits (rate_max : rate ≤ 10 ^ 14) (positive : 0 < seconds start sp.now)
    (missing : missing_rate rate start sp.now sp < 0) (ahead : Ahead rate start most_bits sp) :
    0 ≤ SEC_TO_NS * delta_bits rate start sp.now sp ∧
      SEC_TO_NS * delta_bits rate start sp.now sp < 2 ^ 63 := by
  obtain ⟨nonneg, least, -⟩ := delta_bits_bounds positive missing
  have close := (seconds_close start sp.now).2
  have rate_max : (rate : ℚ) ≤ 10 ^ 14 := by exact_mod_cast rate_max
  have scaled := mul_le_mul_of_nonneg_left close (Nat.cast_nonneg (α := ℚ) rate)
  have bits : (bits_sent sp : ℚ) = 8 * sp.bytes_sent := by
    rw [bits_sent]
    push_cast
    ring
  have bound : (delta_bits rate start sp.now sp : ℚ) ≤ 8588708001 := by
    unfold Ahead most_bits at ahead
    linarith
  have bound : delta_bits rate start sp.now sp ≤ 8588708001 := by exact_mod_cast bound
  unfold SEC_TO_NS
  omega

theorem seconds_least (positive : 0 < seconds start sp.now) :
    1 / 1000000 ≤ seconds start sp.now := by
  have later : start / 1000 < sp.now / 1000 := by
    by_contra none
    have : ((sp.now / 1000 : Nat) : ℚ) ≤ (start / 1000 : Nat) := by
      exact_mod_cast Nat.le_of_not_lt none
    unfold seconds at positive
    linarith
  have later : ((start / 1000 : Nat) : ℚ) + 1 ≤ (sp.now / 1000 : Nat) := by exact_mod_cast later
  unfold seconds
  linarith

theorem average_fits (rate_max : rate ≤ 10 ^ 14) (positive : 0 < seconds start sp.now)
    (ahead : Ahead rate start most_bits sp) :
    0 ≤ bits_per_second start sp.now sp ∧ bits_per_second start sp.now sp < 2 ^ 62 := by
  have average : (0 : ℚ) ≤ bits_sent sp / seconds start sp.now :=
    div_nonneg (Nat.cast_nonneg _) positive.le
  have least := seconds_least positive
  have scaled := mul_le_mul_of_nonneg_left (seconds_close start sp.now).2
    (Nat.cast_nonneg (α := ℚ) rate)
  have rate_max : (rate : ℚ) ≤ 10 ^ 14 := by exact_mod_cast rate_max
  have fast := mul_le_mul_of_nonneg_right rate_max positive.le
  have bits : (bits_sent sp : ℚ) = 8 * sp.bytes_sent := by
    rw [bits_sent]
    push_cast
    ring
  rw [bits_per_second, truncate_nonneg average]
  refine ⟨Int.floor_nonneg.mpr average, ?_⟩
  rw [Int.floor_lt, div_lt_iff₀ positive]
  unfold Ahead most_bits at ahead
  push_cast
  linarith

/-- As long as the counter of bits has not wrapped, the words of the source hold the exact
values. -/
theorem words_exact (rate_max : rate ≤ 10 ^ 14) (positive : 0 < seconds start sp.now)
    (ahead : Ahead rate start most_bits sp) (fits : bits_sent sp < 2 ^ 64) :
    (UInt64.ofNat sp.bytes_sent * 8).toNat = bits_sent sp ∧
      (UInt64.ofNat rate - UInt64.ofNat (bits_per_second start sp.now sp).toNat).toInt64.toInt =
        missing_rate rate start sp.now sp := by
  obtain ⟨nonneg, small⟩ := average_fits rate_max positive ahead
  constructor
  · unfold bits_sent at fits ⊢
    have eight : (8 : UInt64).toNat = 8 := rfl
    rw [UInt64.toNat_mul, UInt64.toNat_ofNat', eight]
    omega
  · rw [MachineWords.signed_toInt, UInt64.toNat_sub, UInt64.toNat_ofNat', UInt64.toNat_ofNat',
      missing_rate, Int.bmod_def]
    omega

/-- At the end of the sleep the rate has caught up. -/
theorem sleep_paced {check : Check} (rate_pos : 0 < rate)
    (positive : 0 < seconds start sp.now) (missing : missing_rate rate start sp.now sp < 0) :
    (sleep check (time_to_green_light rate start sp.now sp)
        { sp with green_light := false }).bytes_sent = sp.bytes_sent ∧
      sp.now ≤ (sleep check (time_to_green_light rate start sp.now sp)
        { sp with green_light := false }).now ∧
      Paced rate start (sleep check (time_to_green_light rate start sp.now sp)
        { sp with green_light := false }) := by
  obtain ⟨-, -, most⟩ := delta_bits_bounds positive missing
  have close := (seconds_close start sp.now).1
  have rate_positive : (0 : ℚ) < rate := by exact_mod_cast rate_pos
  unfold sleep
  split
  · exact ⟨rfl, le_refl _, by rintro ⟨⟩⟩
  · rename_i read gettime
    dsimp only
    split
    · refine ⟨rfl, by dsimp only; omega, ?_⟩
      rintro -
      -- One nanosecond more than the wait would be enough bits at the rate, and the stream
      -- is woken no earlier than at the end of the wait.
      have wait := Int.lt_ediv_add_one_mul_self (SEC_TO_NS * delta_bits rate start sp.now sp)
        (show (0 : Int) < rate by exact_mod_cast rate_pos)
      have later : (sp.now : Int) + time_to_green_light rate start sp.now sp ≤
          ((max (sp.now + read) (sleep_end (sp.now + read)
            (time_to_green_light rate start sp.now sp)).toNat + check.late : Nat) : Int) := by
        rw [sleep_end_eq]
        push_cast
        omega
      change SEC_TO_NS * delta_bits rate start sp.now sp <
        (time_to_green_light rate start sp.now sp + 1) * rate at wait
      generalize time_to_green_light rate start sp.now sp = wait_time at *
      generalize max (sp.now + read) (sleep_end (sp.now + read) wait_time).toNat + check.late =
        woken at *
      have wait : (1000000000 : ℚ) * delta_bits rate start sp.now sp < (wait_time + 1) * rate := by
        unfold SEC_TO_NS at wait
        exact_mod_cast wait
      have later : (sp.now : ℚ) + wait_time ≤ woken := by exact_mod_cast later
      have scaled := mul_le_mul_of_nonneg_left close rate_positive.le
      have passed := mul_le_mul_of_nonneg_left later rate_positive.le
      have bits : (bits_sent sp : ℚ) = 8 * sp.bytes_sent := by
        rw [bits_sent]
        push_cast
        ring
      unfold Ahead
      dsimp only
      unfold elapsed at *
      linarith
    · exact ⟨rfl, by dsimp only; omega, by rintro ⟨⟩⟩

/-- A check keeps the counter, and gives the green light to a stream that is paced. -/
theorem throttle_paced {check : Check} (rate_pos : 0 < rate) (rate_max : rate ≤ 10 ^ 14)
    (begun : start ≤ sp.now) (ahead : Ahead rate start most_bits sp) :
    iperf_check_throttle rate start false check sp.now sp = .error .no_time ∨
      ∃ after, iperf_check_throttle rate start false check sp.now sp = .ok after ∧
        after.bytes_sent = sp.bytes_sent ∧ sp.now ≤ after.now ∧ Paced rate start after := by
  rw [iperf_check_throttle, if_neg (by simp; omega)]
  by_cases none : seconds start sp.now = 0
  · exact .inl (if_pos none)
  right
  have positive : 0 < seconds start sp.now :=
    lt_of_le_of_ne (seconds_nonneg begun) (Ne.symm none)
  rw [if_neg none]
  dsimp only
  by_cases missing : missing_rate rate start sp.now sp < 0
  · have red : decide (missing_rate rate start sp.now sp > 0) = false := by
      simpa using missing.le
    obtain ⟨nonneg, fits⟩ := product_fits rate_max positive missing ahead
    have wait : time_to_green_light rate start sp.now sp ≥ 0 :=
      Int.ediv_nonneg nonneg (Int.natCast_nonneg _)
    rw [if_pos missing, if_neg (by omega), if_pos wait, red]
    exact ⟨_, rfl, sleep_paced rate_pos positive missing⟩
  · -- The average is not above the rate now: the light turns green without a sleep.
    rw [if_neg missing]
    refine ⟨_, rfl, rfl, le_refl _, ?_⟩
    intro green
    have average := green_behind positive (of_decide_eq_true green)
    have close := mul_le_mul_of_nonneg_left (seconds_close start sp.now).1
      (Nat.cast_nonneg (α := ℚ) rate)
    have bits : (bits_sent sp : ℚ) = 8 * sp.bytes_sent := by
      rw [bits_sent]
      push_cast
      ring
    have rounding : (0 : ℚ) ≤ rate / 10 ^ 9 := by positivity
    unfold Ahead
    dsimp only
    linarith

end Check

section Round
variable {settings : Settings} {start : Nat} {sp : Stream}

theorem ahead_later {rate : Nat} {bits : ℚ} {before after : Stream}
    (ahead : Ahead rate start bits before) {more : Nat}
    (sent : after.bytes_sent ≤ before.bytes_sent + more) (later : before.now ≤ after.now) :
    Ahead rate start (bits + 8 * more) after := by
  have passed := mul_le_mul_of_nonneg_left (@elapsed_mono start _ _ later)
    (Nat.cast_nonneg (α := ℚ) rate)
  have sent : (after.bytes_sent : ℚ) ≤ before.bytes_sent + more := by exact_mod_cast sent
  unfold Ahead at *
  linarith

/-- Time that passes without a send is on the safe side. -/
theorem ahead_wait {rate : Nat} {bits : ℚ} {before after : Stream}
    (ahead : Ahead rate start bits before) (same : after.bytes_sent = before.bytes_sent)
    (later : before.now ≤ after.now) : Ahead rate start bits after := by
  have := @ahead_later start rate bits before after ahead 0 same.le later
  simpa using this

theorem ahead_more {rate : Nat} {bits more : ℚ} (ahead : Ahead rate start bits sp)
    (least : bits ≤ more) : Ahead rate start more sp := by
  unfold Ahead at *
  linarith

/-- The bits of one burst. -/
def burst_bits (settings : Settings) : ℚ := 8 * (rounds settings * settings.blksize : Nat)

/-- What the command line accepts. -/
structure Accepted (settings : Settings) : Prop where
  rate_pos : 0 < settings.rate
  rate_max : settings.rate ≤ 10 ^ 14
  burst_max : settings.burst ≤ 1000
  blksize_max : settings.blksize ≤ 2 ^ 20

/-- Between two calls. -/
structure Kept (settings : Settings) (start : Nat) (sp : Stream) : Prop where
  begun : start ≤ sp.now
  paced : Paced settings.rate start sp
  ahead : Ahead settings.rate start (burst_bits settings) sp

theorem burst_bits_le (accepted : Accepted settings) : burst_bits settings ≤ most_bits := by
  have number : rounds settings ≤ 1000 := by
    have := accepted.burst_max
    have := accepted.rate_pos
    unfold rounds
    split
    · assumption
    · rw [if_neg (by omega)]
      omega
  have size : rounds settings * settings.blksize ≤ 1000 * 2 ^ 20 :=
    Nat.mul_le_mul number accepted.blksize_max
  have size : ((rounds settings * settings.blksize : Nat) : ℚ) ≤ (1000 * 2 ^ 20 : Nat) := by
    exact_mod_cast size
  unfold burst_bits most_bits
  push_cast at size ⊢
  linarith

/-- The check after a burst. -/
theorem check_now_kept {check : Check} (accepted : Accepted settings) (begun : start ≤ sp.now)
    (ahead : Ahead settings.rate start (burst_bits settings) sp) :
    check_now settings.rate start false check sp = .error .no_time ∨
      ∃ after, check_now settings.rate start false check sp = .ok after ∧
        Kept settings start after := by
  have later : Ahead settings.rate start (burst_bits settings)
      { sp with now := sp.now + check.read } :=
    ahead_wait ahead rfl (Nat.le_add_right _ _)
  rcases @throttle_paced settings.rate start { sp with now := sp.now + check.read } check
      accepted.rate_pos accepted.rate_max (by dsimp only; omega)
      (ahead_more later (burst_bits_le accepted)) with none | ⟨after, checked, same, passed, paced⟩
  · exact .inl none
  · refine .inr ⟨after, checked, ?_, paced, ahead_wait later same passed⟩
    dsimp only at passed
    omega

def Sent.stream : Sent → Stream
  | .finished _ sp => sp
  | .failed _ sp => sp

/-- The loop without checks sends so many blocks at most, and none without a green light. -/
theorem loop_burst {messages : Nat → Message} (plain : throttle_check_per_message settings = false)
    (bounded : ∀ multisend, (messages multisend).r ≤ settings.blksize) (multisend : Nat)
    (message_sent : Bool) (nowP : Nat) (sp : Stream) :
    ∃ sent, send_loop settings start false messages multisend message_sent nowP sp = .ok sent ∧
      sent.stream.bytes_sent ≤
        sp.bytes_sent + (if sp.green_light then multisend * settings.blksize else 0) ∧
      sp.now ≤ sent.stream.now ∧ ∀ r after, sent = .failed r after → r ≠ 0 := by
  induction multisend generalizing message_sent nowP sp with
  | zero => exact ⟨_, rfl, Nat.le_add_right _ _, le_refl _, by rintro r after ⟨⟩⟩
  | succ multisend ih =>
      rw [send_loop]
      by_cases green : sp.green_light
      · simp only [green, not_true_eq_false, if_false, plain, Bool.false_eq_true, if_true]
        split
        · exact ⟨_, rfl, Nat.le_add_right _ _, le_refl _, by rintro r after ⟨⟩⟩
        · split
          · rename_i failed
            split
            · exact ⟨_, rfl, Nat.le_add_right _ _, Nat.le_add_right _ _, by rintro r after ⟨⟩⟩
            · refine ⟨_, rfl, Nat.le_add_right _ _, Nat.le_add_right _ _, ?_⟩
              rintro r after ⟨⟩
              exact failed.ne
          · obtain ⟨sent, result, bytes, passed, failed⟩ := ih true nowP
              { bytes_sent := sp.bytes_sent + (messages multisend).r.toNat
                green_light := true
                now := sp.now + (messages multisend).took }
            have size := bounded multisend
            simp only [if_true] at bytes
            refine ⟨sent, result, ?_, by dsimp only at passed; omega, failed⟩
            rw [Nat.succ_mul]
            omega
      · simp only [green]
        exact ⟨_, rfl, Nat.le_refl _, le_refl _, by rintro r after ⟨⟩⟩

/-- What a burst sends, it sends from a paced stream. -/
theorem burst_ahead {after : Stream} (kept : Kept settings start sp)
    (sent : after.bytes_sent ≤ sp.bytes_sent +
      (if sp.green_light then rounds settings * settings.blksize else 0))
    (passed : sp.now ≤ after.now) : Ahead settings.rate start (burst_bits settings) after := by
  by_cases green : sp.green_light
  · rw [if_pos green] at sent
    have := ahead_later (kept.paced green) sent passed
    rwa [zero_add] at this
  · -- Without the light the loop sends nothing.
    rw [if_neg green] at sent
    have := ahead_later kept.ahead sent passed
    simpa using this

/-- The round without bursts: one message, and its check. -/
theorem loop_message {messages : Nat → Message} (accepted : Accepted settings)
    (each : throttle_check_per_message settings = true)
    (bounded : ∀ multisend, (messages multisend).r ≤ settings.blksize)
    (kept : Kept settings start sp) :
    send_loop settings start false messages (rounds settings) false 0 sp = .error .no_time ∨
      ∃ sent, send_loop settings start false messages (rounds settings) false 0 sp = .ok sent ∧
        ((∃ r after, sent = .failed r after ∧ r ≠ 0) ∨
          (∃ after, sent = .finished true after ∧ Kept settings start after) ∨
            ∃ after, sent = .finished false after ∧ after.bytes_sent = sp.bytes_sent ∧
              sp.now ≤ after.now) := by
  have single : rounds settings = 1 := by
    have none : settings.rate ≠ 0 ∧ settings.burst = 0 := by
      simpa [throttle_check_per_message] using each
    rw [rounds, if_neg (by simp [none.2]), if_neg none.1]
  rw [single, send_loop]
  by_cases green : sp.green_light
  · rw [if_neg (by simp [green])]
    dsimp only
    rw [if_neg (by simp)]
    by_cases failed : (messages 0).r < 0
    · rw [if_pos failed]
      refine .inr ?_
      split
      · exact ⟨_, rfl, .inr (.inr ⟨_, rfl, rfl, Nat.le_add_right _ _⟩)⟩
      · exact ⟨_, rfl, .inl ⟨_, _, rfl, failed.ne⟩⟩
    · rw [if_neg failed, if_pos each]
      have size := bounded 0
      have ahead := @burst_ahead settings start sp
        { sp with
          bytes_sent := sp.bytes_sent + (messages 0).r.toNat
          now := sp.now + (messages 0).took } kept
        (by
          rw [if_pos green, single]
          dsimp only
          omega) (Nat.le_add_right _ _)
      have begun := kept.begun
      rcases @check_now_kept settings start _ (messages 0).check accepted (by dsimp only; omega)
          ahead with none | ⟨after, checked, kept⟩
      · refine .inl ?_
        simp only [Bool.false_eq_true, if_false, none]
        rfl
      · refine .inr ⟨.finished true after, ?_, .inr (.inl ⟨_, rfl, kept⟩)⟩
        simp only [Bool.false_eq_true, if_false, checked]
        rfl
  · rw [if_pos green]
    exact .inr ⟨_, rfl, .inr (.inr ⟨_, rfl, rfl, le_refl _⟩)⟩

/-- One call keeps the pace. -/
theorem send_mt_kept {call : Call} (accepted : Accepted settings) (bounded : Bounded settings call)
    (kept : Kept settings start sp) :
    iperf_send_mt settings start false call sp = .error .no_time ∨
      ∃ r after, iperf_send_mt settings start false call sp = .ok (r, after) ∧
        (r = 0 → Kept settings start after) := by
  have throttled : throttle_check settings = true := by
    have := accepted.rate_pos
    simp [throttle_check]
    omega
  have later : Kept settings start { sp with now := sp.now + call.delay } := by
    refine ⟨Nat.le_add_right_of_le kept.begun, ?_, ?_⟩
    · intro green
      exact ahead_wait (kept.paced green) rfl (Nat.le_add_right _ _)
    · exact ahead_wait kept.ahead rfl (Nat.le_add_right _ _)
  -- What is left is the check behind the loop, from any stream that the loop ends with.
  have behind : ∀ after message_sent,
      send_loop settings start false call.messages (rounds settings) false 0
          { sp with now := sp.now + call.delay } = .ok (.finished message_sent after) →
        (¬ throttle_check_per_message settings ∨ ¬ message_sent) → start ≤ after.now →
          Ahead settings.rate start (burst_bits settings) after →
            iperf_send_mt settings start false call sp = .error .no_time ∨
              ∃ r after, iperf_send_mt settings start false call sp = .ok (r, after) ∧
                (r = 0 → Kept settings start after) := by
    intro after message_sent loop unchecked begun ahead
    rcases @check_now_kept settings start after call.check accepted begun ahead with
      none | ⟨last, checked, kept⟩
    · refine .inl ?_
      simp only [iperf_send_mt, loop, bind, Except.bind, throttled]
      rw [if_pos ⟨trivial, unchecked⟩, none]
    · refine .inr ⟨0, last, ?_, fun _ => kept⟩
      simp only [iperf_send_mt, loop, bind, Except.bind, throttled]
      rw [if_pos ⟨trivial, unchecked⟩, checked]
  cases each : throttle_check_per_message settings with
  | false =>
      obtain ⟨sent, loop, bytes, passed, failed⟩ := @loop_burst settings start call.messages each
        bounded (rounds settings) false 0 { sp with now := sp.now + call.delay }
      cases sent with
      | finished message_sent after =>
          exact behind after message_sent loop (.inl (by simp [each]))
            (later.begun.trans passed) (burst_ahead later bytes passed)
      | failed r after =>
          refine .inr ⟨r, after, ?_, fun zero => absurd zero (failed r after rfl)⟩
          simp only [iperf_send_mt, loop]
          rfl
  | true =>
      rcases loop_message accepted each bounded later with none | ⟨sent, loop, shape⟩
      · refine .inl ?_
        simp only [iperf_send_mt, none]
        rfl
      · rcases shape with ⟨r, after, rfl, failed⟩ | ⟨after, rfl, kept⟩ |
          ⟨after, rfl, same, passed⟩
        · refine .inr ⟨r, after, ?_, fun zero => absurd zero failed⟩
          simp only [iperf_send_mt, loop]
          rfl
        · refine .inr ⟨0, after, ?_, fun _ => kept⟩
          simp only [iperf_send_mt, loop, bind, Except.bind, each]
          simp
        · exact behind after false loop (.inr (by simp)) (later.begun.trans passed)
            (burst_ahead later (by rw [same]; exact Nat.le_add_right _ _) passed)

/-- Over every run: a burst that starts with a green light starts no further ahead than the
rounding, the stream is never ahead by more than one burst beyond it, and the product fits
its word at every check. -/
theorem paced_run (settings : Settings) (accepted : Accepted settings) (start : Nat)
    (first sp : Stream) (past : List Call) (fresh : first.bytes_sent = 0)
    (begun : start ≤ first.now) (run : Run (Step settings start) first past sp) :
    (8 * (sp.bytes_sent : ℚ) ≤ settings.rate * elapsed start sp.now + settings.rate / 10 ^ 6 +
        settings.rate / 10 ^ 9 + 1 + 8 * (rounds settings * settings.blksize : Nat)) ∧
      ∀ call, Bounded settings call →
        iperf_send_mt settings start false call sp ≠ .error .overflow ∧
          (sp.green_light →
            8 * (sp.bytes_sent : ℚ) ≤ settings.rate * elapsed start (sp.now + call.delay) +
              settings.rate / 10 ^ 6 + settings.rate / 10 ^ 9 + 1) := by
  have kept : Kept settings start sp := by
    apply run.invariant fun _ sp => Kept settings start sp
    · have nothing : Ahead settings.rate start 0 first := by
        have ordered : (start : ℚ) ≤ first.now := by exact_mod_cast begun
        have time : 0 ≤ elapsed start first.now := by
          unfold elapsed
          linarith
        have reached : (0 : ℚ) ≤ settings.rate * elapsed start first.now + settings.rate / 10 ^ 6 +
            settings.rate / 10 ^ 9 + 1 + 0 := by positivity
        unfold Ahead
        rw [fresh]
        simpa using reached
      exact ⟨begun, fun _ => nothing, ahead_more nothing (by unfold burst_bits; positivity)⟩
    · rintro _ before call after kept ⟨bounded, moves⟩
      rcases send_mt_kept accepted bounded kept with none | ⟨r, next, same, kept⟩
      · rw [none] at moves
        cases moves
      · rw [same] at moves
        cases moves
        exact kept rfl
  refine ⟨kept.ahead, ?_⟩
  intro call bounded
  constructor
  · rcases send_mt_kept accepted bounded kept with none | ⟨r, next, same, -⟩
    · rw [none]
      rintro ⟨⟩
    · rw [same]
      rintro ⟨⟩
  · intro green
    have ahead := @ahead_wait start settings.rate 0 sp { sp with now := sp.now + call.delay }
      (kept.paced green) rfl (Nat.le_add_right _ _)
    simpa [Ahead] using ahead

/-- Eight megabits in a second, after its first block. -/
theorem paced_run_second :
    (8 * ((1000 : Nat) : ℚ) ≤ (8000000 : Nat) * elapsed 0 1000000000 + (8000000 : Nat) / 10 ^ 6 +
        (8000000 : Nat) / 10 ^ 9 + 1 + 8 * (rounds ⟨8000000, 0, 1000, 10⟩ * 1000 : Nat)) ∧
      ∀ call, Bounded ⟨8000000, 0, 1000, 10⟩ call →
        iperf_send_mt ⟨8000000, 0, 1000, 10⟩ 0 false call ⟨1000, true, 1000000000⟩ ≠
            .error .overflow ∧
          8 * ((1000 : Nat) : ℚ) ≤ (8000000 : Nat) * elapsed 0 (1000000000 + call.delay) +
            (8000000 : Nat) / 10 ^ 6 + (8000000 : Nat) / 10 ^ 9 + 1 := by
  have run : Run (Step ⟨8000000, 0, 1000, 10⟩ 0) ⟨0, true, 0⟩
      [⟨0, fun _ => ⟨false, 1000, 0, ⟨1000000000, none, 0, 0⟩⟩, ⟨0, none, 0, 0⟩⟩]
      ⟨1000, true, 1000000000⟩ := by
    refine .next _ .start ⟨fun _ => le_refl _, ?_⟩
    decide +kernel
  obtain ⟨within, rounds⟩ := paced_run ⟨8000000, 0, 1000, 10⟩
    ⟨by decide, by decide, by decide, by decide⟩ 0 ⟨0, true, 0⟩ _ _ rfl (le_refl 0) run
  refine ⟨within, ?_⟩
  intro call bounded
  exact ⟨(rounds call bounded).1, (rounds call bounded).2 rfl⟩

end Round

end Iperf.Pacing
