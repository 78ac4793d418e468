import Iperf.SelectTimeout

/-!
How long a stall of the reception goes unnoticed. A round of the loop looks at the
block count when its `select` is over, so the time of the last progress is the time
of a round, and only a round whose `select` timed out can give the test up.
-/

namespace Iperf.StallDetection

open Timers TimerOrder Time TestState SelectTimeout

section Rounds

structure Watch where
  last_receive_time : iperf_time
  last_receive_blocks : UInt64
  deriving DecidableEq, Repr

inductive Selected where
  | expired
  | ready
  | interrupted
  deriving DecidableEq, Repr

/-- A round of the loop, with its readings of the clock and of the count. -/
structure Round where
  side : Side
  timers : Globals
  start : iperf_time
  selected : Selected
  finish : iperf_time
  blocks_received : UInt64
  /-- what a server sets once its workers are ready, in the round that starts the test -/
  baseline : Option Watch

/-- How the look at the clock ends the loop. -/
inductive Exit where
  | idle
  | no_msg
  deriving DecidableEq, Repr

variable (rcv_timeout : iperf_time) (watch : Watch) (round : Round)

/-- `now` is read again after a `select` that timed out; on a client only by one that watches. -/
def Round.now : iperf_time :=
  match round.side, round.selected with
  | .server _ _ _, .expired => round.finish
  | .client _ _, .expired =>
      if round.side.supervises rcv_timeout then round.finish else round.start
  | _, _ => round.start

/-- The test for a stall after a `select` that timed out. -/
def given_up : Option Exit :=
  let (diff_time, past) := iperf_time_diff round.finish watch.last_receive_time
  let t_usecs : Int := iperf_time_in_usecs diff_time
  let stalled := round.side.rcv_timeout_us rcv_timeout < t_usecs ∧
    round.blocks_received = watch.last_receive_blocks
  match round.side with
  | .server state mode idle_timeout =>
      if past then none
      else if state = IPERF_START then
        if 0 < idle_timeout ∧ idle_timeout.toInt * SEC_TO_US ≤ t_usecs then some .idle else none
      else if mode ≠ .SENDER ∧ stalled then some .no_msg
      else none
  | .client _ _ =>
      if round.side.supervises rcv_timeout ∧ ¬ past ∧ stalled then some .no_msg else none

/-- Whether the test is making progress. -/
def progress : Watch :=
  if round.blocks_received > watch.last_receive_blocks then
    ⟨round.now rcv_timeout, round.blocks_received⟩
  else watch

/-- The baseline of a test that starts takes the place of the progress. -/
def Round.restarts : Option Watch :=
  match round.side, round.selected with
  | .server _ _ _, .ready => round.baseline
  | _, _ => none

def look : Except Exit Watch :=
  if round.selected = .expired then
    match given_up rcv_timeout watch round with
    | some exit => .error exit
    | none => .ok (progress rcv_timeout watch round)
  else .ok (round.restarts.getD (progress rcv_timeout watch round))

/-- The last reading of the clock. -/
def Round.last : iperf_time :=
  match round.restarts with
  | some baseline => baseline.last_receive_time
  | none => round.finish

/-- The loop from its first round, with nothing received. -/
def look_all (start : iperf_time) (rounds : List Round) : Except Exit Watch :=
  rounds.foldlM (look rcv_timeout) ⟨start, 0⟩

end Rounds

section Looks
variable {rcv_timeout : iperf_time} {watch after : Watch} {round : Round}

theorem stalled_iff {finish last : iperf_time} (finished : Proper finish) (normal : Proper last)
    {limit : Int} (nonnegative : 0 ≤ limit) :
    ((iperf_time_diff finish last).2 = false ∧
        limit < (iperf_time_in_usecs (iperf_time_diff finish last).1 : Int)) ↔
      limit < micros finish - micros last := by
  have exactly := time_diff_remaining finished normal
  unfold remaining at exactly
  cases past : (iperf_time_diff finish last).2 with
  | true =>
      simp only [past, if_true] at exactly
      simp only [Bool.true_eq_false, false_and, false_iff]
      omega
  | false =>
      simp only [past, Bool.false_eq_true, if_false] at exactly
      simp only [true_and]
      omega

theorem micros_nonnegative (time : iperf_time) : 0 ≤ micros time := Int.natCast_nonneg _

/-- A side that watches gives up just after a stall that is longer than the receive timeout. -/
theorem given_up_watched (watched : round.side.supervises rcv_timeout = true)
    (finished : Proper round.finish) (normal : Proper watch.last_receive_time) :
    given_up rcv_timeout watch round =
      if micros rcv_timeout < micros round.finish - micros watch.last_receive_time ∧
        round.blocks_received = watch.last_receive_blocks then some .no_msg else none := by
  have limit := Side.rcv_timeout_micros watched
  have stalled := stalled_iff finished normal (micros_nonnegative rcv_timeout)
  unfold given_up
  simp only [← stalled, limit]
  generalize iperf_time_diff round.finish watch.last_receive_time = diff
  cases side : round.side with
  | server state mode idle_timeout =>
      rw [side] at watched
      simp only [Side.supervises, decide_eq_true_eq] at watched
      cases past : diff.2 with
      | true => simp
      | false => simp [watched]
  | client state mode =>
      rw [side] at watched
      cases past : diff.2 with
      | true => simp
      | false => simp [watched]

theorem given_up_no_msg (gives : given_up rcv_timeout watch round = some .no_msg) :
    round.side.supervises rcv_timeout = true := by
  unfold given_up at gives
  dsimp only at gives
  cases side : round.side with
  | server state mode idle_timeout =>
      rw [side] at gives
      simp only at gives
      split at gives
      · cases gives
      · split at gives
        · split at gives <;> cases gives
        · rename_i started
          split at gives
          · rename_i receiving
            simp [Side.supervises, started, receiving]
          · cases gives
  | client state mode =>
      rw [side] at gives
      simp only at gives
      split at gives
      · rename_i watched
        exact watched.1
      · cases gives

theorem restarts_expired (expired : round.selected = .expired) : round.restarts = none := by
  unfold Round.restarts
  rw [expired]
  cases round.side <;> rfl

theorem look_ok (looks : look rcv_timeout watch round = .ok after) :
    after = round.restarts.getD (progress rcv_timeout watch round) ∧
      (round.selected = .expired → given_up rcv_timeout watch round = none) := by
  unfold look at looks
  split at looks
  · rename_i expired
    split at looks
    · cases looks
    · rename_i goes
      cases looks
      rw [restarts_expired expired]
      exact ⟨rfl, fun _ => goes⟩
  · rename_i other
    cases looks
    exact ⟨rfl, fun expired => absurd expired other⟩

theorem look_error {exit : Exit} (looks : look rcv_timeout watch round = .error exit) :
    given_up rcv_timeout watch round = some exit := by
  unfold look at looks
  split at looks
  · split at looks
    · rename_i gives
      cases looks
      exact gives
    · cases looks
  · cases looks

end Looks

section Runs
variable {rcv_timeout : iperf_time} {received : Int → UInt64} {before : iperf_time}
  {watch after : Watch} {round : Round}

/-- The clock and the count of a round that begins after `before`. -/
structure Timed (received : Int → UInt64) (before : iperf_time) (round : Round) : Prop where
  started : Proper round.start
  finished : Proper round.finish
  follows : micros before ≤ micros round.start
  forward : micros round.start ≤ micros round.finish
  counted : round.blocks_received = received (micros round.finish)
  /-- the count of a baseline is read before its clock -/
  restarted : ∀ baseline, round.restarts = some baseline →
    Proper baseline.last_receive_time ∧
      ∃ reading, micros round.finish ≤ reading ∧
        reading ≤ micros baseline.last_receive_time ∧
        baseline.last_receive_blocks = received reading

/-- Most rounds start no test. -/
theorem timed_plain (started : Proper round.start) (finished : Proper round.finish)
    (follows : micros before ≤ micros round.start)
    (forward : micros round.start ≤ micros round.finish)
    (counted : round.blocks_received = received (micros round.finish))
    (plain : round.restarts = none) : Timed received before round :=
  ⟨started, finished, follows, forward, counted, fun baseline restarts => by
    rw [plain] at restarts
    cases restarts⟩

theorem Timed.last (timed : Timed received before round) :
    micros round.finish ≤ micros round.last := by
  unfold Round.last
  split
  · rename_i baseline restarts
    obtain ⟨_, reading, after, early, _⟩ := timed.restarted baseline restarts
    exact Int.le_trans after early
  · exact Int.le_refl _

def Paced (received : Int → UInt64) : iperf_time → List Round → Prop
  | _, [] => True
  | before, round :: rest => Timed received before round ∧ Paced received round.last rest

/-- A round of a side that watches, with no descriptor that is ready. It takes the
timeout, within the cap, and at most `step` for the rest. -/
structure Quiet (rcv_timeout : iperf_time) (step : Int) (before : iperf_time) (round : Round) :
    Prop where
  watched : round.side.supervises rcv_timeout = true
  expired : round.selected = .expired
  waited : ∃ next used, tmr_timeout round.timers round.start = some next ∧
    round.side.select_timeout rcv_timeout next = some used ∧ Capped rcv_timeout next ∧
    micros round.finish ≤ micros before + step + used.usecs

/-- All rounds that are not over before `quiet` are quiet. -/
def QuietFrom (rcv_timeout : iperf_time) (step quiet : Int) : iperf_time → List Round → Prop
  | _, [] => True
  | before, round :: rest =>
      (quiet ≤ micros round.last → Quiet rcv_timeout step before round) ∧
        QuietFrom rcv_timeout step quiet round.last rest

/-- The longest timeout of a side that watches and does not exceed the cap. -/
def longest (rcv_timeout : iperf_time) : Int := min (micros rcv_timeout) SEC_TO_US

theorem longest_nonnegative (rcv_timeout : iperf_time) : 0 ≤ longest rcv_timeout := by
  have := micros_nonnegative rcv_timeout
  unfold longest SEC_TO_US
  omega

theorem Quiet.last {step : Int} (quiet : Quiet rcv_timeout step before round) :
    round.last = round.finish := by
  unfold Round.last
  rw [restarts_expired quiet.expired]

theorem Quiet.soon {step : Int} (quiet : Quiet rcv_timeout step before round) :
    micros round.finish ≤ micros before + step + longest rcv_timeout := by
  obtain ⟨next, used, timeout, selects, capped, waits⟩ := quiet.waited
  rw [Side.select_supervised quiet.watched] at selects
  obtain ⟨same, gives, _, bound⟩ := supervised_bound_iff (tmr_timeout_due timeout)
  obtain rfl := Option.some.inj (gives.symm.trans selects)
  have within := bound.mpr capped
  unfold longest
  omega

/-- What the loop knows between two rounds. -/
structure Held (received : Int → UInt64) (before : iperf_time) (watch : Watch) : Prop where
  normal : Proper watch.last_receive_time
  past : micros watch.last_receive_time ≤ micros before
  seen : watch.last_receive_blocks ≤ received (micros before)

theorem now_cases (rcv_timeout : iperf_time) (round : Round) :
    round.now rcv_timeout = round.start ∨ round.now rcv_timeout = round.finish := by
  unfold Round.now
  split
  · exact .inr rfl
  · split
    · exact .inr rfl
    · exact .inl rfl
  · exact .inl rfl

theorem progress_held (held : Held received before watch) (timed : Timed received before round)
    (grows : ∀ first second, first ≤ second → received first ≤ received second) :
    Held received round.finish (progress rcv_timeout watch round) ∧
      (progress rcv_timeout watch round).last_receive_blocks =
        received (micros round.finish) := by
  obtain ⟨normal, past, seen⟩ := held
  obtain ⟨started, finished, follows, forward, counted, _⟩ := timed
  have known := UInt64.le_trans seen (grows (micros before) (micros round.finish) (by omega))
  have same : (progress rcv_timeout watch round).last_receive_blocks =
      received (micros round.finish) := by
    unfold progress
    split
    · exact counted
    · rename_i still
      rw [counted, gt_iff_lt, UInt64.not_lt] at still
      exact UInt64.le_antisymm known still
  constructor
  · constructor
    · unfold progress
      split
      · rcases now_cases rcv_timeout round with now | now <;> rw [now]
        · exact started
        · exact finished
      · exact normal
    · unfold progress
      split
      · rcases now_cases rcv_timeout round with now | now <;> rw [now]
        exact forward
      · omega
    · rw [same]
      exact UInt64.le_refl _
  · exact same

theorem held_step (grows : ∀ first second, first ≤ second → received first ≤ received second)
    (held : Held received before watch) (timed : Timed received before round)
    (looks : look rcv_timeout watch round = .ok after) :
    Held received round.last after ∧
      (round.restarts = none → after.last_receive_blocks = received (micros round.finish)) := by
  obtain ⟨rfl, _⟩ := look_ok looks
  obtain ⟨kept, counted⟩ := @progress_held rcv_timeout _ _ _ _ held timed grows
  unfold Round.last
  cases restarts : round.restarts with
  | none => exact ⟨kept, fun _ => counted⟩
  | some baseline =>
      obtain ⟨normal, reading, _, early, same⟩ := timed.restarted baseline restarts
      constructor
      · constructor
        · exact normal
        · exact Int.le_refl _
        · rw [Option.getD_some, same]
          exact grows _ _ early
      · exact nofun

end Runs

section Ends
variable {rcv_timeout : iperf_time} {watch after : Watch} {round : Round} {rest : List Round}

/-- The loop is over by `bound`, and for want of messages if it was not before `quiet`. -/
def EndsBy (rcv_timeout : iperf_time) (quiet bound : Int) (watch : Watch) (rounds : List Round) :
    Prop :=
  ∃ front round back reached exit, rounds = front ++ round :: back ∧
    front.foldlM (look rcv_timeout) watch = .ok reached ∧
    look rcv_timeout reached round = .error exit ∧ micros round.finish ≤ bound ∧
    (quiet ≤ micros round.finish → exit = .no_msg)

theorem ends_now {quiet bound : Int} {exit : Exit}
    (looks : look rcv_timeout watch round = .error exit) (soon : micros round.finish ≤ bound)
    (known : quiet ≤ micros round.finish → exit = .no_msg) :
    EndsBy rcv_timeout quiet bound watch (round :: rest) :=
  ⟨[], round, rest, watch, exit, rfl, rfl, looks, soon, known⟩

theorem ends_later {quiet bound : Int} (looks : look rcv_timeout watch round = .ok after)
    (ends : EndsBy rcv_timeout quiet bound after rest) :
    EndsBy rcv_timeout quiet bound watch (round :: rest) := by
  obtain ⟨front, last, back, reached, exit, rfl, reaches, error, soon, known⟩ := ends
  refine ⟨round :: front, last, back, reached, exit, rfl, ?_, error, soon, known⟩
  rw [List.foldlM_cons, looks]
  exact reaches

variable {received : Int → UInt64} {before : iperf_time} {step quiet : Int}

/-- A quiet round that goes on is not longer than the receive timeout after the progress. -/
theorem Quiet.goes_on (quiet : Quiet rcv_timeout step before round)
    (finished : Proper round.finish) (normal : Proper watch.last_receive_time)
    (same : round.blocks_received = watch.last_receive_blocks)
    (looks : look rcv_timeout watch round = .ok after) :
    micros round.finish ≤ micros watch.last_receive_time + micros rcv_timeout := by
  have goes := (look_ok looks).2 quiet.expired
  rw [given_up_watched quiet.watched finished normal] at goes
  split at goes
  · cases goes
  · rename_i short
    have bound : ¬ micros rcv_timeout <
        micros round.finish - micros watch.last_receive_time := fun long => short ⟨long, same⟩
    omega

theorem Quiet.no_msg (quiet : Quiet rcv_timeout step before round) {exit : Exit}
    (finished : Proper round.finish) (normal : Proper watch.last_receive_time)
    (looks : look rcv_timeout watch round = .error exit) : exit = .no_msg := by
  have gives := look_error looks
  rw [given_up_watched quiet.watched finished normal] at gives
  split at gives <;> cases gives
  rfl

/-- Once the last block has been seen, the stall is counted from `seen` at the latest. -/
theorem ends_settled {rounds : List Round} {seen : Int}
    (grows : ∀ first second, first ≤ second → received first ≤ received second)
    (still : ∀ time, quiet ≤ time → received time = received quiet)
    (paced : Paced received before rounds) (silent : QuietFrom rcv_timeout step quiet before rounds)
    (held : Held received before watch) (counted : watch.last_receive_blocks = received quiet)
    (since : micros watch.last_receive_time ≤ seen) (reached : quiet ≤ micros before)
    (within : micros before ≤ seen + micros rcv_timeout)
    (late : ∃ round ∈ rounds,
      seen + micros rcv_timeout + step + longest rcv_timeout < micros round.finish) :
    EndsBy rcv_timeout quiet (seen + micros rcv_timeout + step + longest rcv_timeout) watch
      rounds := by
  induction rounds generalizing before watch with
  | nil =>
      rcases late with ⟨_, member, _⟩
      cases member
  | cons round rest ih =>
      obtain ⟨timed, paced⟩ := paced
      obtain ⟨becomes, silent⟩ := silent
      have follows := timed.follows
      have forward := timed.forward
      have later := timed.last
      have here := becomes (by omega)
      have begun : quiet ≤ micros round.finish := by omega
      have soon := here.soon
      have same : round.blocks_received = watch.last_receive_blocks := by
        rw [counted, timed.counted]
        exact still _ begun
      cases looks : look rcv_timeout watch round with
      | error exit =>
          apply ends_now looks
          · omega
          · exact fun _ => here.no_msg timed.finished held.normal looks
      | ok after =>
          have short := here.goes_on timed.finished held.normal same looks
          have keeps : after = watch := by
            obtain ⟨rfl, _⟩ := look_ok looks
            rw [restarts_expired here.expired, Option.getD_none]
            unfold progress
            rw [same, if_neg (UInt64.lt_irrefl _)]
          have kept := (held_step grows held timed looks).1
          rw [keeps, here.last] at kept
          rw [here.last] at paced silent
          apply ends_later looks
          rw [keeps]
          apply ih paced silent kept counted since begun
          · omega
          · rcases late with ⟨last, member, beyond⟩
            rcases List.mem_cons.mp member with rfl | later
            · omega
            · exact ⟨last, later, beyond⟩

/-- From before the last block on: the first round after it counts it. -/
theorem ends_quiet {rounds : List Round}
    (grows : ∀ first second, first ≤ second → received first ≤ received second)
    (still : ∀ time, quiet ≤ time → received time = received quiet) (positive : 0 ≤ step)
    (paced : Paced received before rounds) (silent : QuietFrom rcv_timeout step quiet before rounds)
    (held : Held received before watch) (early : micros before ≤ quiet)
    (late : ∃ round ∈ rounds,
      quiet + step + longest rcv_timeout + micros rcv_timeout + step + longest rcv_timeout <
        micros round.finish) :
    EndsBy rcv_timeout quiet
      (quiet + step + longest rcv_timeout + micros rcv_timeout + step + longest rcv_timeout) watch
      rounds := by
  have timeout := micros_nonnegative rcv_timeout
  have waiting := longest_nonnegative rcv_timeout
  induction rounds generalizing before watch with
  | nil =>
      rcases late with ⟨_, member, _⟩
      cases member
  | cons round rest ih =>
      obtain ⟨timed, paced⟩ := paced
      obtain ⟨becomes, silent⟩ := silent
      have follows := timed.follows
      have forward := timed.forward
      have ends_after := timed.last
      have near : micros round.finish ≤ quiet + step + longest rcv_timeout := by
        by_cases begun : quiet ≤ micros round.last
        · have := (becomes begun).soon
          omega
        · omega
      cases looks : look rcv_timeout watch round with
      | error exit =>
          apply ends_now looks
          · omega
          · intro begun
            exact (becomes (by omega)).no_msg timed.finished held.normal looks
      | ok after =>
          obtain ⟨kept, counted⟩ := held_step grows held timed looks
          have later : ∃ round ∈ rest,
              quiet + step + longest rcv_timeout + micros rcv_timeout + step +
                longest rcv_timeout < micros round.finish := by
            rcases late with ⟨last, member, beyond⟩
            rcases List.mem_cons.mp member with rfl | later
            · omega
            · exact ⟨last, later, beyond⟩
          apply ends_later looks
          by_cases begun : quiet ≤ micros round.last
          · have here := becomes begun
            rw [here.last] at kept paced silent begun
            have past := kept.past
            apply ends_settled grows still paced silent kept
            · rw [counted (restarts_expired here.expired)]
              exact still _ begun
            · omega
            · exact begun
            · omega
            · exact later
          · exact ih paced silent kept (by omega) later

end Ends

section Premature
variable {rcv_timeout : iperf_time} {received : Int → UInt64} {watch : Watch}

/-- The blocks that the loop has seen had come `lag` after the time it keeps. -/
theorem seen_within {lag : Int} (positive : 0 ≤ lag)
    (grows : ∀ first second, first ≤ second → received first ≤ received second)
    (rounds : List Round) {before : iperf_time} {before_watch : Watch}
    (paced : Paced received before rounds) (held : Held received before before_watch)
    (seen : before_watch.last_receive_blocks ≤
      received (micros before_watch.last_receive_time + lag))
    (lags : ∀ round ∈ rounds,
      micros round.finish ≤ micros (round.now rcv_timeout) + lag)
    (reaches : rounds.foldlM (look rcv_timeout) before_watch = .ok watch) :
    Proper watch.last_receive_time ∧
      watch.last_receive_blocks ≤ received (micros watch.last_receive_time + lag) := by
  induction rounds generalizing before before_watch with
  | nil =>
      cases reaches
      exact ⟨held.normal, seen⟩
  | cons round rest ih =>
      obtain ⟨timed, paced⟩ := paced
      rw [List.foldlM_cons] at reaches
      cases looks : look rcv_timeout before_watch round with
      | error exit =>
          rw [looks] at reaches
          cases reaches
      | ok after =>
          rw [looks] at reaches
          have kept := (held_step grows held timed looks).1
          apply ih paced kept _ _ reaches
          · obtain ⟨rfl, _⟩ := look_ok looks
            cases restarts : round.restarts with
            | some baseline =>
                obtain ⟨_, reading, _, early, same⟩ := timed.restarted baseline restarts
                rw [Option.getD_some, same]
                exact grows _ _ (by omega)
            | none =>
                rw [Option.getD_none]
                unfold progress
                split
                · rw [timed.counted]
                  exact grows _ _ (lags round List.mem_cons_self)
                · exact seen
          · exact fun other member => lags other (List.mem_cons_of_mem _ member)

theorem paced_split {front : List Round} {round : Round} {back : List Round}
    {before : iperf_time} (paced : Paced received before (front ++ round :: back)) :
    Paced received before front ∧ ∃ between, Timed received between round := by
  induction front generalizing before with
  | nil => exact ⟨trivial, before, paced.1⟩
  | cons first rest ih =>
      obtain ⟨timed, paced⟩ := paced
      obtain ⟨paced, last⟩ := ih paced
      exact ⟨⟨timed, paced⟩, last⟩

/-- A stall that ends the loop had no block for the receive timeout but the lag. -/
theorem no_block_within {lag : Int}
    (grows : ∀ first second, first ≤ second → received first ≤ received second)
    {round : Round} {between : iperf_time} (timed : Timed received between round)
    (normal : Proper watch.last_receive_time)
    (seen : watch.last_receive_blocks ≤ received (micros watch.last_receive_time + lag))
    (looks : look rcv_timeout watch round = .error .no_msg) (time : Int)
    (late : micros round.finish - (micros rcv_timeout - lag) ≤ time)
    (early : time ≤ micros round.finish) : received time = received (micros round.finish) := by
  have gives := look_error looks
  have watched := given_up_no_msg gives
  rw [given_up_watched watched timed.finished normal] at gives
  split at gives
  · rename_i stalled
    obtain ⟨long, same⟩ := stalled
    rw [timed.counted] at same
    apply UInt64.le_antisymm
    · exact grows _ _ early
    · rw [same]
      apply UInt64.le_trans seen
      apply grows
      omega
  · cases gives

end Premature

/-- The timeout of a side that watches is not beyond the next timer, and within the
receive timeout and the cap where that would not change it. In runs of such rounds the
loop gives up in time, and it does not give up while blocks are counted. -/
theorem stall_detection (rcv_timeout : iperf_time) :
    (∀ side : Side, side.supervises rcv_timeout = true →
      ∀ globals cells frees now, Wf globals cells frees → Proper now →
        (∀ cell ∈ cells, Proper cell.2.time) →
        ∃ next used, tmr_timeout globals now = some next ∧
          side.select_timeout rcv_timeout next = some used ∧
          (∀ cell ∈ cells, used.usecs ≤ remaining now cell.2.time) ∧
          (Capped rcv_timeout next → used.usecs ≤ min (micros rcv_timeout) SEC_TO_US)) ∧
    ∀ received : Int → UInt64,
      (∀ first second, first ≤ second → received first ≤ received second) →
      ∀ start, Proper start → ∀ rounds, Paced received start rounds →
        (∀ step quiet, 0 ≤ step → micros start ≤ quiet →
          (∀ time, quiet ≤ time → received time = received quiet) →
          QuietFrom rcv_timeout step quiet start rounds →
          (∃ round ∈ rounds,
            quiet + step + longest rcv_timeout + micros rcv_timeout + step +
              longest rcv_timeout < micros round.finish) →
          EndsBy rcv_timeout quiet
            (quiet + step + longest rcv_timeout + micros rcv_timeout + step +
              longest rcv_timeout) ⟨start, 0⟩ rounds) ∧
        ∀ lag front round back watch, 0 ≤ lag → rounds = front ++ round :: back →
          (∀ round ∈ front, micros round.finish ≤ micros (round.now rcv_timeout) + lag) →
          look_all rcv_timeout start front = .ok watch →
          look rcv_timeout watch round = .error .no_msg →
          ∀ time, micros round.finish - (micros rcv_timeout - lag) ≤ time →
            time ≤ micros round.finish → received time = received (micros round.finish) := by
  constructor
  · intro side watched globals cells frees now wf clock normal
    have found := tmr_timeout_first wf clock normal
    obtain ⟨empty, due⟩ := tmr_timeout_next wf clock normal found
    obtain ⟨used, gives, sooner, bound⟩ :=
      @supervised_bound_iff rcv_timeout _ fun timeout same => (due timeout same).1
    refine ⟨_, used, found, ?_, ?_, bound.mpr⟩
    · rw [Side.select_supervised watched]
      exact gives
    · intro cell member
      cases cells with
      | nil => cases member
      | cons first rest => exact Int.le_trans (sooner _ rfl) ((due _ rfl).2 cell member)
  · intro received grows start normal rounds paced
    have held : Held received start ⟨start, 0⟩ := ⟨normal, Int.le_refl _, UInt64.zero_le⟩
    constructor
    · intro step quiet positive early still silent late
      exact ends_quiet grows still positive paced silent held early late
    · rintro lag front round back watch positive rfl lags reaches looks
      obtain ⟨paced, between, timed⟩ := paced_split paced
      obtain ⟨last, seen⟩ := seen_within positive grows front paced held UInt64.zero_le lags reaches
      exact no_block_within grows timed last seen looks

section Samples

def one_timer (time : iperf_time) : Globals :=
  ⟨⟨fun q => if q = 0 then some ⟨⟨0, 0, 1000000, true, time⟩, none, none⟩ else none, some 0⟩, none⟩

theorem one_timer_wf (time : iperf_time) :
    Wf (one_timer time) [(0, ⟨0, 0, 1000000, true, time⟩)] [] := by
  constructor
  · constructor
    · exact ⟨some 0, rfl, none, rfl, rfl, rfl⟩
    · exact List.nodup_singleton 0
  · exact List.pairwise_singleton _ _
  · rfl
  · exact List.nodup_nil
  · exact nofun

/-- A round that a timer ends. -/
def timed_round (start finish : iperf_time) : Round :=
  { side := .server TEST_RUNNING .RECEIVER 0, timers := one_timer finish, start := start
    selected := .expired, finish := finish, blocks_received := 1
    baseline := none }

/-- Interval timers of one second. -/
def every_second : List Round :=
  [timed_round ⟨0, 0⟩ ⟨1, 0⟩, timed_round ⟨1, 0⟩ ⟨2, 0⟩, timed_round ⟨2, 0⟩ ⟨3, 0⟩,
    timed_round ⟨3, 0⟩ ⟨4, 0⟩, timed_round ⟨4, 0⟩ ⟨5, 0⟩]

/-- One block, counted at that time. -/
def one_block (counted time : Int) : UInt64 := if counted ≤ time then 1 else 0

theorem one_block_grows (counted first second : Int) (ordered : first ≤ second) :
    one_block counted first ≤ one_block counted second := by
  unfold one_block
  split
  · rw [if_pos (by omega)]
    exact UInt64.le_refl _
  · exact UInt64.zero_le

theorem every_second_paced : Paced (one_block 500000) ⟨0, 0⟩ every_second := by
  refine ⟨?_, ?_, ?_, ?_, ?_, trivial⟩ <;> apply timed_plain <;> decide

theorem every_second_quiet : QuietFrom ⟨2, 0⟩ 0 500000 ⟨0, 0⟩ every_second := by
  refine ⟨?_, ?_, ?_, ?_, ?_, trivial⟩ <;> intro _ <;> constructor
  all_goals first
    | exact rfl
    | exact ⟨some ⟨1, 0⟩, ⟨1, 0⟩, by decide, by decide,
        .inr (.inr ⟨⟨1, 0⟩, rfl, by decide⟩), by decide⟩

/-- The control connection is ready after most of a second, and two timers follow. -/
def ready_first : List Round :=
  [{ timed_round ⟨0, 0⟩ ⟨0, 950000⟩ with timers := one_timer ⟨1, 950000⟩, selected := .ready },
    timed_round ⟨0, 950000⟩ ⟨1, 950000⟩]

end Samples

theorem stall_detection_sample :
    (∃ next used, tmr_timeout (one_timer ⟨1, 0⟩) ⟨0, 0⟩ = some next ∧
      (Side.server TEST_RUNNING .RECEIVER 0).select_timeout ⟨2, 0⟩ next = some used ∧
      (∀ cell ∈ [(0, (⟨0, 0, 1000000, true, ⟨1, 0⟩⟩ : Timer))],
        used.usecs ≤ remaining ⟨0, 0⟩ cell.2.time) ∧
      (Capped ⟨2, 0⟩ next → used.usecs ≤ min (micros ⟨2, 0⟩) SEC_TO_US)) ∧
    EndsBy ⟨2, 0⟩ 500000 4500000 ⟨⟨0, 0⟩, 0⟩ every_second ∧
    one_block 500000 2000000 = one_block 500000 4000000 := by
  obtain ⟨timeout, runs⟩ := stall_detection ⟨2, 0⟩
  obtain ⟨ends, counted⟩ := runs (one_block 500000) (one_block_grows 500000) ⟨0, 0⟩ (by decide)
    every_second every_second_paced
  constructor
  · exact timeout _ rfl _ _ _ _ (one_timer_wf ⟨1, 0⟩) (by decide) (by simp [Proper])
  · constructor
    · have bound : 500000 + 0 + longest ⟨2, 0⟩ + micros ⟨2, 0⟩ + 0 + longest ⟨2, 0⟩ = 4500000 := by
        decide
      rw [← bound]
      apply ends 0 500000 (by decide) (by decide) _ every_second_quiet
      · exact ⟨timed_round ⟨4, 0⟩ ⟨5, 0⟩, by simp [every_second], by decide⟩
      · intro time late
        simp [one_block, late]
    · apply counted 0 (every_second.take 3) (timed_round ⟨3, 0⟩ ⟨4, 0⟩)
        [timed_round ⟨4, 0⟩ ⟨5, 0⟩] ⟨⟨1, 0⟩, 1⟩ (by decide) rfl _ rfl rfl 2000000 (by decide)
        (by decide)
      simp [every_second, timed_round, Round.now]

/-- With a receive timeout of two seconds: a timeout of ten seconds; a stall that is
found after three seconds and a half; and one found 1.96 seconds after a block. -/
theorem stall_detection_counterexample :
    (tmr_timeout (one_timer ⟨10, 0⟩) ⟨0, 0⟩ = some (some ⟨10, 0⟩) ∧
      (Side.server TEST_RUNNING .RECEIVER 0).select_timeout ⟨2, 0⟩ (some ⟨10, 0⟩) =
        some ⟨10, 0⟩) ∧
    (Paced (one_block 500000) ⟨0, 0⟩ every_second ∧
      QuietFrom ⟨2, 0⟩ 0 500000 ⟨0, 0⟩ every_second ∧
      look_all ⟨2, 0⟩ ⟨0, 0⟩ (every_second.take 3) = .ok ⟨⟨1, 0⟩, 1⟩ ∧
      look_all ⟨2, 0⟩ ⟨0, 0⟩ (every_second.take 4) = .error .no_msg ∧
      500000 + micros ⟨2, 0⟩ + SEC_TO_US < micros ⟨4, 0⟩) ∧
    (Paced (one_block 890000) ⟨0, 0⟩ (ready_first ++ [timed_round ⟨1, 950000⟩ ⟨2, 850000⟩]) ∧
      look_all ⟨2, 0⟩ ⟨0, 0⟩ ready_first = .ok ⟨⟨0, 0⟩, 1⟩ ∧
      look_all ⟨2, 0⟩ ⟨0, 0⟩ (ready_first ++ [timed_round ⟨1, 950000⟩ ⟨2, 850000⟩]) =
        .error .no_msg ∧
      micros ⟨2, 850000⟩ - micros ⟨2, 0⟩ < 890000) := by
  refine ⟨⟨by decide, by decide⟩, ⟨every_second_paced, every_second_quiet, rfl, rfl, by decide⟩,
    ⟨?_, ?_, ?_, trivial⟩, rfl, rfl, by decide⟩ <;> apply timed_plain <;> decide

end Iperf.StallDetection
