import Iperf.MachineWords
import Iperf.ServerLimits
import Iperf.TimerOrder

/-!
`create_server_timers` and `create_server_omit_timer`: how long a server lets a
test run. Both multiply an `int` of seconds into microseconds; `tmr_create` adds
these to the clock. The server's maximum is enforced exactly when the seconds
are not negative and neither their sum nor the clock wraps.
-/

namespace Iperf.ServerTimers

open DoublyLinked Time Timers TimerOrder Json Config Parameters Arguments ServerRound ServerReset
  ServerConfig ServerLimits

def SEC_TO_US : Int64 := 1000000

/-- Four seconds for each of ten state transitions. -/
def grace_period : Int32 := 4 * 10

/-- The callbacks, and the test as their client data. -/
structure Procs where
  server_timer_proc : Ptr
  server_stats_timer_proc : Ptr
  server_reporter_timer_proc : Ptr
  server_omit_timer_proc : Ptr
  client_data : Ptr

/-- The `double` intervals of `--interval`, as rationals. -/
structure Intervals where
  stats_interval : Rat
  reporter_interval : Rat

/-- The fields of the test that the timers set. -/
structure TimerSet where
  timer : Option Ptr
  stats_timer : Option Ptr
  reporter_timer : Option Ptr
  done : Int32
  deriving DecidableEq, Repr

section Functions
variable (fuel : Nat) (procs : Procs)

/-- `interval * SEC_TO_US` as a `double`, truncated into an `int64_t`. -/
def interval_usecs (interval : Rat) : Int64 :=
  let usecs := interval * 1000000
  .ofInt (usecs.num.tdiv usecs.den)

/-- A timer that is created if it is `wanted`; `none` inside where no memory was left. -/
def create_wanted (globals : Globals) (wanted : Bool) (malloc : Option Ptr) (now : iperf_time)
    (timer_proc : Ptr) (usecs : Int64) (periodic : Bool) :
    Option (Option (Option Ptr) × Globals) :=
  if wanted then
    (tmr_create fuel globals malloc now timer_proc procs.client_data usecs periodic).map
      fun created => (created.1.map some, created.2)
  else some (some none, globals)

/-- `now` is missing when the clock fails; `malloc` has one answer for each call.
The result inside is missing where -1 is returned. -/
def create_server_timers (globals : Globals) (test : iperf_test) (intervals : Intervals)
    (now : Option iperf_time) (malloc : Option Ptr × Option Ptr × Option Ptr) :
    Option (Option TimerSet × Globals) :=
  match now with
  | none => some (none, globals)
  | some now =>
      match create_wanted fuel procs globals (test.duration != 0) malloc.1 now
          procs.server_timer_proc
          ((test.duration + test.omit + grace_period).toInt64 * SEC_TO_US) false with
      | none => none
      | some (none, globals) => some (none, globals)
      | some (some timer, globals) =>
          match create_wanted fuel procs globals (intervals.stats_interval != 0) malloc.2.1 now
              procs.server_stats_timer_proc (interval_usecs intervals.stats_interval) true with
          | none => none
          | some (none, globals) => some (none, globals)
          | some (some stats_timer, globals) =>
              match create_wanted fuel procs globals (intervals.reporter_interval != 0)
                  malloc.2.2 now procs.server_reporter_timer_proc
                  (interval_usecs intervals.reporter_interval) true with
              | none => none
              | some (none, globals) => some (none, globals)
              | some (some reporter_timer, globals) =>
                  let done := if test.duration ≠ 0 then 0 else test.done
                  some (some ⟨timer, stats_timer, reporter_timer, done⟩, globals)

def create_server_omit_timer (globals : Globals) (test : iperf_test) (now : Option iperf_time)
    (malloc : Option Ptr) : Option (Option (Option Ptr) × Globals) :=
  if test.omit = 0 then some (some none, globals)
  else
    match now with
    | none => some (none, globals)
    | some now =>
        create_wanted fuel procs globals true malloc now procs.server_omit_timer_proc
          (test.omit.toInt64 * SEC_TO_US) false

end Functions

section Instants

theorem add_seconds_exact {now : iperf_time} {usecs : UInt64} {seconds : Nat}
    (clock : now.usecs.toNat < 1000000) (whole : usecs.toNat = seconds * 1000000)
    (room : now.secs.toNat + seconds < 2 ^ 32) :
    micros (iperf_time_add_usecs now usecs) = micros now + seconds * 1000000 := by
  have fits : micros now + usecs.toNat < 2 ^ 32 * 1000000 := by
    unfold micros iperf_time_in_usecs
    omega
  rw [add_usecs_exact fits, whole, Nat.cast_mul]
  rfl

/-- A wrapped clock stays below 2^32 seconds. -/
theorem add_usecs_bound (now : iperf_time) (usecs : UInt64) :
    micros (iperf_time_add_usecs now usecs) < 2 ^ 32 * 1000000 := by
  have high := (iperf_time_add_usecs now usecs).secs.toNat_lt
  have low := add_usecs_proper now usecs
  unfold Proper at low
  unfold micros iperf_time_in_usecs
  omega

theorem seconds_toNat {seconds : Int32} (positive : 0 ≤ seconds.toInt) :
    (seconds.toInt64 * SEC_TO_US).toUInt64.toNat = seconds.toInt.toNat * 1000000 := by
  have high := seconds.toInt_lt
  have million : SEC_TO_US.toInt = 1000000 := rfl
  have product : (seconds.toInt64 * SEC_TO_US).toInt = seconds.toInt * 1000000 := by
    rw [Int64.toInt_mul, Int32.toInt_toInt64, million, Int.bmod_eq_of_le]
    · omega
    · omega
  rw [MachineWords.unsigned_toNat (by omega), product]
  omega

end Instants

section Creation
variable {fuel : Nat} {procs : Procs} {globals after : Globals} {cells : Cells} {frees : List Ptr}
  {wanted periodic : Bool} {malloc : Option Ptr} {now : iperf_time} {timer_proc : Ptr}
  {usecs : Int64}

theorem values_none {list : DList Timer} {q : Ptr} : list.values q = none ↔ list.heap q = none := by
  simp [DList.values]

/-- A wanted timer that is created gets the time of the call. -/
theorem create_wanted_time {result : Option Ptr}
    (created : create_wanted fuel procs globals true malloc now timer_proc usecs periodic =
      some (some result, after)) :
    ∃ t timer, result = some t ∧ after.timers.values t = some timer ∧
      timer.time = iperf_time_add_usecs now usecs.toUInt64 := by
  simp only [create_wanted, if_true] at created
  obtain ⟨⟨made, globals'⟩, returned, same⟩ := Option.map_eq_some_iff.mp created
  obtain ⟨listed, rfl⟩ := Prod.mk.inj same
  obtain ⟨t, rfl, rfl⟩ := Option.map_eq_some_iff.mp listed
  have stored := congrFun (tmr_create_values returned).2 t
  rw [Function.update_self] at stored
  exact ⟨t, _, rfl, stored, rfl⟩

/-- What a creation leaves of the timers that were there. -/
structure Extends (globals after : Globals) (cells : Cells) (malloc result : Option Ptr) :
    Prop where
  wf : ∃ cells' frees', Wf after cells' frees' ∧
    ∀ t ∈ result.toList ++ cells.map Prod.fst, t ∈ cells'.map Prod.fst
  kept : ∀ t ∈ cells.map Prod.fst, after.timers.values t = globals.timers.values t
  unused : ∀ q, globals.timers.heap q = none → malloc ≠ some q → after.timers.heap q = none

theorem create_wanted_extends {result : Option Ptr} (wf : Wf globals cells frees)
    (fresh : ∀ t, malloc = some t → globals.timers.heap t = none)
    (created : create_wanted fuel procs globals wanted malloc now timer_proc usecs periodic =
      some (some result, after)) : Extends globals after cells malloc result := by
  cases wanted with
  | false =>
      simp only [create_wanted, Bool.false_eq_true, if_false] at created
      cases created
      exact ⟨⟨cells, frees, wf, fun t member => by simpa using member⟩, fun _ _ => rfl,
        fun _ unused _ => unused⟩
  | true =>
      simp only [create_wanted, if_true] at created
      obtain ⟨⟨made, globals'⟩, returned, same⟩ := Option.map_eq_some_iff.mp created
      obtain ⟨listed, rfl⟩ := Prod.mk.inj same
      obtain ⟨t, rfl, rfl⟩ := Option.map_eq_some_iff.mp listed
      obtain ⟨cells', frees', wf', shape⟩ := tmr_create_wf wf fresh returned
      obtain ⟨source, values⟩ := tmr_create_values returned
      -- The new node is on no list before, since the new list has no node twice.
      have absent : t ∉ cells.map Prod.fst :=
        (List.nodup_cons.mp (shape.nodup_iff.mp wf'.holds.distinct)).1
      refine ⟨⟨cells', frees', wf', fun q member => shape.mem_iff.mpr member⟩,
        fun q member => ?_, fun q unused other => ?_⟩
      · have away : q ≠ t := fun same => absent (same ▸ member)
        rw [values, Function.update_of_ne away]
      · have away : q ≠ t := by
          rintro rfl
          exact source.elim other fun stored => stored unused
        rw [← values_none, values, Function.update_of_ne away, values_none]
        exact unused

/-- What `malloc` can return for the three timers. -/
structure FreshMemory (globals : Globals) (malloc : Option Ptr × Option Ptr × Option Ptr) :
    Prop where
  first : ∀ t, malloc.1 = some t → globals.timers.heap t = none
  second : ∀ t, malloc.2.1 = some t → globals.timers.heap t = none ∧ malloc.1 ≠ some t
  third : ∀ t, malloc.2.2 = some t →
    globals.timers.heap t = none ∧ malloc.1 ≠ some t ∧ malloc.2.1 ≠ some t

theorem create_server_timers_time {test : iperf_test} {intervals : Intervals}
    {mallocs : Option Ptr × Option Ptr × Option Ptr} {timers : TimerSet}
    (wf : Wf globals cells frees) (fresh : FreshMemory globals mallocs)
    (lasting : test.duration ≠ 0)
    (created : create_server_timers fuel procs globals test intervals (some now) mallocs =
      some (some timers, after)) :
    ∃ t timer, timers.timer = some t ∧ after.timers.values t = some timer ∧
      timer.time = iperf_time_add_usecs now
        ((test.duration + test.omit + grace_period).toInt64 * SEC_TO_US).toUInt64 := by
  have nonzero : (test.duration != 0) = true := by simpa using lasting
  simp only [create_server_timers, nonzero] at created
  split at created
  · cases created
  · cases created
  · rename_i timer first made
    split at created
    · cases created
    · cases created
    · rename_i stats_timer second other
      split at created
      · cases created
      · cases created
      · rename_i reporter_timer third last
        cases created
        obtain ⟨t, value, rfl, stored, time⟩ := create_wanted_time made
        have one := create_wanted_extends wf fresh.first made
        obtain ⟨cells1, frees1, wf1, more1⟩ := one.wf
        have two := create_wanted_extends wf1
          (fun q asked => one.unused q (fresh.second q asked).1 (fresh.second q asked).2) other
        obtain ⟨cells2, frees2, wf2, more2⟩ := two.wf
        have three := create_wanted_extends wf2 (fun q asked => by
          obtain ⟨unused, apart, away⟩ := fresh.third q asked
          exact two.unused q (one.unused q unused apart) away) last
        have inFirst : t ∈ cells1.map Prod.fst := more1 t (by simp)
        have inSecond : t ∈ cells2.map Prod.fst := more2 t (List.mem_append_right _ inFirst)
        exact ⟨t, value, rfl, by rw [three.kept t inSecond, two.kept t inFirst, stored], time⟩

end Creation

section Enforcement

/-- A timer that fires exactly this many seconds after the start. -/
def Expires (after : Globals) (t : Option Ptr) (start : iperf_time) (seconds : Int) : Prop :=
  ∃ q timer, t = some q ∧ after.timers.values q = some timer ∧
    micros timer.time = micros start + seconds * 1000000

/-- A test that stays within the server's maximum and ends on time, with every
set of timers that can be created for it. -/
structure Enforced (test : iperf_test) (start : iperf_time) : Prop where
  duration : 0 < test.duration.toInt
  omitted : 0 ≤ test.omit.toInt
  within : test.duration.toInt + test.omit.toInt ≤ test.max_server_duration.toInt
  timer : ∀ fuel procs globals cells frees intervals mallocs timers after,
    Wf globals cells frees → FreshMemory globals mallocs →
    create_server_timers fuel procs globals test intervals (some start) mallocs =
      some (some timers, after) →
    Expires after timers.timer start (test.duration.toInt + test.omit.toInt + 40)
  omit_timer : test.omit ≠ 0 → ∀ fuel procs globals malloc omit_timer after,
    create_server_omit_timer fuel procs globals test (some start) malloc =
      some (some omit_timer, after) →
    Expires after omit_timer start test.omit.toInt

/-- The narrowed seconds are not negative, and neither their sum nor the clock
wraps before the last timer. -/
structure Sensible (seconds omit_seconds : Int32) (start : iperf_time) : Prop where
  duration : 0 < seconds.toInt
  omitted : 0 ≤ omit_seconds.toInt
  sum : seconds.toInt + omit_seconds.toInt < 2 ^ 31
  clock : start.secs.toNat + seconds.toInt + omit_seconds.toInt + 40 < 2 ^ 32

variable {test : iperf_test} {start : iperf_time}

theorem expires_exactly {after : Globals} {t : Option Ptr} {timer : Timer} {seconds : Int32}
    {q : Ptr} (same : t = some q) (stored : after.timers.values q = some timer)
    (time : timer.time =
      iperf_time_add_usecs start (seconds.toInt64 * SEC_TO_US).toUInt64)
    (normal : start.usecs.toNat < 1000000) (positive : 0 ≤ seconds.toInt)
    (room : start.secs.toNat + seconds.toInt < 2 ^ 32) :
    Expires after t start seconds.toInt := by
  refine ⟨q, timer, same, stored, ?_⟩
  rw [time, add_seconds_exact normal (seconds_toNat positive) (by omega)]
  omega

/-- What `get_parameters` checks, read as integers. -/
theorem exceeds_false (limited : 0 < test.max_server_duration)
    (short : exceeds_duration test = false) :
    (test.duration + test.omit).toInt ≤ test.max_server_duration.toInt ∧
      test.duration ≠ 0 := by
  simp only [exceeds_duration, limited, decide_true, Bool.true_and, Bool.or_eq_false_iff,
    decide_eq_false_iff_not, beq_eq_false_iff_ne] at short
  exact ⟨Int32.le_iff_toInt_le.mp (Int32.not_lt.mp short.1), short.2⟩

/-- With no timer in the way, the first one is created. -/
theorem create_first (procs : Procs) (lasting : test.duration ≠ 0) :
    ∃ timers after, create_server_timers 0 procs fresh.globals test ⟨0, 0⟩ (some start)
      (some 0, none, none) = some (some timers, after) := by
  simp [create_server_timers, create_wanted, lasting, tmr_create, takeNode, fresh, fill, list_add,
    DList.setLinks]

theorem enforced_iff (limited : 0 < test.max_server_duration) (bounded : Bounded test)
    (short : exceeds_duration test = false) (normal : start.usecs.toNat < 1000000) :
    Enforced test start ↔ Sensible test.duration test.omit start := by
  have maximum : test.max_server_duration.toInt ≤ 86400 := Int32.le_iff_toInt_le.mp bounded.2
  obtain ⟨within, lasting⟩ := exceeds_false limited short
  have forty : grace_period.toInt = 40 := rfl
  constructor
  · intro enforced
    have duration := enforced.duration
    have omitted := enforced.omitted
    have sum := enforced.within
    refine ⟨duration, omitted, by omega, ?_⟩
    -- A timer that fires at the right time does so before the clock wraps.
    obtain ⟨timers, after, created⟩ := create_first ⟨0, 0, 0, 0, 0⟩ lasting
    have memory : FreshMemory fresh.globals (some 0, none, none) :=
      ⟨fun _ _ => rfl, nofun, nofun⟩
    obtain ⟨q, timer, same, stored, exactly⟩ :=
      enforced.timer _ _ _ _ _ _ _ _ _ fresh_tracks.wf memory created
    obtain ⟨q', timer', same', stored', time⟩ :=
      create_server_timers_time fresh_tracks.wf memory lasting created
    obtain rfl := Option.some.inj (same.symm.trans same')
    obtain rfl := Option.some.inj (stored.symm.trans stored')
    have bound := add_usecs_bound start
      ((test.duration + test.omit + grace_period).toInt64 * SEC_TO_US).toUInt64
    rw [← time] at bound
    unfold micros iperf_time_in_usecs at exactly bound
    omega
  · intro sensible
    have duration := sensible.duration
    have omitted := sensible.omitted
    have clock := sensible.clock
    have sum := MachineWords.add_toInt (by omega) sensible.sum
    have total : (test.duration + test.omit + grace_period).toInt =
        test.duration.toInt + test.omit.toInt + 40 := by
      rw [MachineWords.add_toInt (by omega) (by rw [sum, forty]; omega), sum, forty]
    constructor
    case duration => exact duration
    case omitted => exact omitted
    case within => rw [← sum]; exact within
    case timer =>
      intro fuel procs globals cells frees intervals mallocs timers after wf fresh created
      obtain ⟨q, timer, same, stored, time⟩ :=
        create_server_timers_time wf fresh lasting created
      rw [← total]
      exact expires_exactly same stored time normal (by omega) (by omega)
    case omit_timer =>
      intro nonzero fuel procs globals malloc omit_timer after created
      simp only [create_server_omit_timer, nonzero, if_false] at created
      obtain ⟨q, timer, same, stored, time⟩ := create_wanted_time created
      exact expires_exactly same stored time normal omitted (by omega)

/-- A server with a maximum duration enforces it on an accepted client exactly
when the client's seconds, narrowed to an `int`, are sensible. -/
theorem duration_enforced {features : Features} {environment : Environment} {options : List Opt}
    {initial : iperf_test} {j : cJSON}
    (parses : iperf_parse_arguments features environment (iperf_defaults features) options =
      .ok initial) (role : initial.role = .s) (limited : 0 < initial.max_server_duration)
    (rounds : List Round)
    (accepted : (get_parameters features (serve features initial rounds) (some j)).1 = none)
    (normal : start.usecs.toNat < 1000000) :
    Enforced (get_parameters features (serve features initial rounds) (some j)).2 start ↔
      Sensible (read_int j "time" DURATION) (read_int j "omit" OMIT) start := by
  have base := serve_base parses role rounds
  have reads := get_parameters_reads base accepted
  obtain ⟨_, configures, _⟩ := serve_carries features (accepted_idle parses role) rounds
  have maximum : (serve features initial rounds).max_server_duration =
      initial.max_server_duration := congrArg Configured.max_server_duration configures
  obtain ⟨made, short, _⟩ := accepted_message accepted
  rw [← made] at short
  have same : (get_parameters features (serve features initial rounds)
      (some j)).2.max_server_duration = (serve features initial rounds).max_server_duration := by
    obtain ⟨_, _, _, _, _, after⟩ :=
      read_parameters_sets features j (serve features initial rounds)
    rw [made, after]
    rfl
  rw [← reads.duration, ← reads.omitted]
  apply enforced_iff
  · rw [same, maximum]
    exact limited
  · unfold Bounded
    rw [same]
    exact base.bounded
  · exact short
  · exact normal

/-- `iperf3 -s --server-max-duration 60` after the command line. -/
def limited_server : iperf_test := { sample_server with max_server_duration := 60 }

/-- What every client writes, one minute after the server's clock started. -/
theorem duration_enforced_sample :
    Enforced (get_parameters sample_features (serve sample_features limited_server [])
        (some (.object plain_members))).2 ⟨60, 0⟩ := by
  have parses : iperf_parse_arguments sample_features sample_environment
    (iperf_defaults sample_features) [.s, .server_max_duration 60] = .ok limited_server := rfl
  apply (duration_enforced parses rfl (by decide) [] (by decide +kernel) (by decide)).mpr
  exact ⟨by decide +kernel, by decide +kernel, by decide +kernel, by decide +kernel⟩

/-- A client that asks for minus one second gets past the check. -/
theorem duration_enforced_counterexample :
    let j := cJSON.object [("tcp", .bool true), ("time", int_number (-1))]
    iperf_parse_arguments sample_features sample_environment (iperf_defaults sample_features)
        [.s, .server_max_duration 60] = .ok limited_server ∧
      (get_parameters sample_features limited_server (some j)).1 = none ∧
      ¬ Enforced (get_parameters sample_features limited_server (some j)).2 ⟨60, 0⟩ := by
  refine ⟨rfl, by decide +kernel, fun enforced => ?_⟩
  have positive := enforced.duration
  revert positive
  decide +kernel

end Enforcement

end Iperf.ServerTimers
