import Mathlib.Algebra.BigOperators.Group.List.Basic
import Iperf.MachineWords
import Iperf.TimerTimeout

/-!
`tmr_run` ends. A timer that is far behind is put back in front of the cursor and may
be met again, so the place in the list is no measure; what gets less with every
callback that returns is the number of firings that are still outstanding.
-/

namespace Iperf.TimerTermination

open DoublyLinked Timers TimerOrder TimerEffects TimerTimeout Time Transition SelectTimeout

section Outstanding

/-- The end of the clock: the seconds are 32 bits. -/
def clock_end : Int := 2 ^ 32 * 1000000

/-- How often a timer is still to fire up to `now`; a one-shot timer once at most. -/
def outstanding (now : iperf_time) (timer : Timer) : Nat :=
  if timer.periodic then
    if micros timer.time ≤ micros now then
      ((micros now - micros timer.time) / timer.usecs.toInt).toNat + 1
    else 0
  else 1

def load (now : iperf_time) (cells : Cells) : Nat :=
  (cells.map fun cell => outstanding now cell.2).sum

theorem placed_load {cell : Ptr × Timer} {rest whole : Cells} (placed : Placed cell rest whole)
    (now : iperf_time) : load now whole = outstanding now cell.2 + load now rest := by
  have sum := (placed.perm.map fun cell => outstanding now cell.2).sum_eq
  simpa [load] using sum

/-- An addition that does not wrap the seconds. -/
theorem add_usecs_micros {time : iperf_time} {usecs : Int64} (ahead : 0 < usecs.toInt)
    (unwrapped : micros time + usecs.toInt < clock_end) :
    micros (iperf_time_add_usecs time usecs.toUInt64) = micros time + usecs.toInt := by
  have size := MachineWords.unsigned_toNat ahead.le
  unfold clock_end at unwrapped
  rw [add_usecs_exact (by omega), size]
  omega

/-- A period is a microsecond at least, and the clock does not end before the firings
that are outstanding have been put off. -/
def Period (now : iperf_time) (timer : Timer) : Prop :=
  timer.periodic = true → 0 < timer.usecs.toInt ∧
    micros timer.time + outstanding now timer * timer.usecs.toInt < clock_end

theorem outstanding_due {now : iperf_time} {timer : Timer} (due : micros timer.time ≤ micros now) :
    1 ≤ outstanding now timer := by
  unfold outstanding
  rw [if_pos due]
  split
  · exact Nat.le_add_left 1 _
  · exact Nat.le_refl 1

/-- The next time of a timer that is due does not wrap. -/
theorem fired_time {now : iperf_time} {timer : Timer} (repeated : timer.periodic = true)
    (period : Period now timer) (due : micros timer.time ≤ micros now) :
    micros (iperf_time_add_usecs timer.time timer.usecs.toUInt64) =
      micros timer.time + timer.usecs.toInt := by
  obtain ⟨ahead, unwrapped⟩ := period repeated
  apply add_usecs_micros ahead
  have some : (1 : Int) ≤ outstanding now timer := by exact_mod_cast outstanding_due due
  have one := Int.mul_le_mul_of_nonneg_right some ahead.le
  omega

/-- A timer that fires has one firing less outstanding. -/
theorem outstanding_fired {now : iperf_time} {timer : Timer} (repeated : timer.periodic = true)
    (period : Period now timer) (due : micros timer.time ≤ micros now) :
    outstanding now { timer with
        time := iperf_time_add_usecs timer.time timer.usecs.toUInt64 } + 1 =
      outstanding now timer := by
  have later := fired_time repeated period due
  have ahead := (period repeated).1
  simp only [outstanding, repeated, if_true, later, due]
  split
  · rename_i again
    -- The quotient of the remaining time is one less.
    have whole : micros now - micros timer.time =
        micros now - (micros timer.time + timer.usecs.toInt) + 1 * timer.usecs.toInt := by omega
    rw [whole, Int.add_mul_ediv_right _ _ ahead.ne']
    have rest := Int.ediv_nonneg
      (show 0 ≤ micros now - (micros timer.time + timer.usecs.toInt) by omega) ahead.le
    omega
  · rename_i done
    rw [Int.ediv_eq_zero_of_lt (by omega) (by omega)]
    rfl

theorem fired_period {now : iperf_time} {timer : Timer} (repeated : timer.periodic = true)
    (period : Period now timer) (due : micros timer.time ≤ micros now) :
    Period now { timer with
      time := iperf_time_add_usecs timer.time timer.usecs.toUInt64 } := by
  intro _
  obtain ⟨ahead, unwrapped⟩ := period repeated
  refine ⟨ahead, ?_⟩
  have less := outstanding_fired repeated period due
  rw [← less, Nat.cast_add, Nat.cast_one, Int.add_mul, Int.one_mul] at unwrapped
  dsimp only
  rw [fired_time repeated period due]
  omega

/-- A periodic timer that is reset has none. -/
theorem outstanding_reset {now later : iperf_time} {timer : Timer}
    (repeated : timer.periodic = true) (ahead : 0 < timer.usecs.toInt)
    (onward : micros now ≤ micros later)
    (unwrapped : micros later + timer.usecs.toInt < clock_end) :
    outstanding now { timer with
      time := iperf_time_add_usecs later timer.usecs.toUInt64 } = 0 := by
  have moved := add_usecs_micros ahead unwrapped
  simp only [outstanding, repeated, if_true, moved]
  rw [if_neg (by omega)]

theorem reset_less {now later : iperf_time} {timer : Timer} (period : Period now timer)
    (onward : micros now ≤ micros later)
    (unwrapped : timer.periodic = true → micros later + timer.usecs.toInt < clock_end) :
    outstanding now { timer with
        time := iperf_time_add_usecs later timer.usecs.toUInt64 } ≤ outstanding now timer ∧
      Period now { timer with time := iperf_time_add_usecs later timer.usecs.toUInt64 } := by
  cases repeated : timer.periodic with
  | false =>
      constructor
      · simp [outstanding, repeated]
      · intro other
        simp at other
  | true =>
      have ahead := (period repeated).1
      have none := outstanding_reset repeated ahead onward (unwrapped repeated)
      rw [repeated] at none
      constructor
      · rw [none]
        exact Nat.zero_le _
      · intro _
        refine ⟨ahead, ?_⟩
        rw [none]
        dsimp only
        rw [add_usecs_micros ahead (unwrapped repeated)]
        have := unwrapped repeated
        simpa using this

end Outstanding

section Loop

/-- One step inside a call of `tmr_run`: a callback resets another timer, by one of the
times that callbacks hand to `tmr_reset`, or the code of the loop goes on. -/
inductive RunStep (handed : iperf_time → Prop) (now : iperf_time) :
    System → Event → System → Prop where
  | reset {system : System} {globals : Globals} {running : Ptr} {next : Option Ptr}
      {node : Node Timer} (fuel : Nat) (later : iperf_time) (t : Ptr)
      (calling : system.phase = .calling now running next) (other : t ≠ running)
      (live : t ∈ system.active) (given : handed later)
      (stored : system.globals.timers.heap t = some node)
      (unwrapped : node.value.periodic = true →
        micros later + node.value.usecs.toInt < clock_end)
      (returned : tmr_reset fuel system.globals later t = some globals) :
      RunStep handed now system (.reset t) { system with globals := globals }
  | code {before after : System} {event : Event} (step : Step before event after)
      (own : Own event) : RunStep handed now before event after

theorem RunStep.step {handed : iperf_time → Prop} {now : iperf_time} {before after : System}
    {event : Event} (moves : RunStep handed now before event after) : Step before event after := by
  cases moves with
  | reset fuel later t calling other live given stored unwrapped returned =>
      have accepts : before.phase.accepts := by
        rw [calling]
        trivial
      exact Step.reset fuel later t accepts live returned
  | code step own => exact step

def isCall : Event → Bool
  | .call _ => true
  | _ => false

/-- The iterations that called a timer. -/
def iterations (past : List Event) : Nat := past.countP isCall

theorem iterations_append (past : List Event) (event : Event) :
    iterations (past ++ [event]) = iterations past + if isCall event then 1 else 0 := by
  simp [iterations, List.countP_append, List.countP_cons]

def Periods (now : iperf_time) (cells : Cells) : Prop := ∀ cell ∈ cells, Period now cell.2

/-- Where the call stands, and that the running timer is still due. -/
def Stands (now : iperf_time) (cells : Cells) : Phase → Prop
  | .idle => True
  | .walking clock _ => clock = now
  | .calling clock t _ => clock = now ∧ ∃ timer, (t, timer) ∈ cells ∧ micros timer.time ≤ micros now

def busy : Phase → Nat
  | .calling _ _ _ => 1
  | _ => 0

structure Going (now : iperf_time) (total : Nat) (past : List Event) (system : System)
    (cells : Cells) : Prop where
  tracks : ∃ history frees, Tracks history system cells frees
  normal : Normal cells
  periods : Periods now cells
  stands : Stands now cells system.phase
  count : iterations past + load now cells ≤ total + busy system.phase

theorem placed_periods {now : iperf_time} {cell : Ptr × Timer} {rest whole : Cells}
    (placed : Placed cell rest whole) :
    Periods now whole ↔ Period now cell.2 ∧ Periods now rest :=
  placed.forall_iff

/-- The callbacks reset by the time of the call, or by a later one. -/
def Onward (handed : iperf_time → Prop) (now : iperf_time) : Prop :=
  ∀ later, handed later → micros now ≤ micros later

variable {handed : iperf_time → Prop} {now : iperf_time} {total : Nat} {past : List Event} {before after : System}
  {event : Event} {cells : Cells}

theorem step_going (clock : Proper now) (onward : Onward handed now)
    (going : Going now total past before cells) (moves : RunStep handed now before event after) :
    ∃ cells', Going now total (past ++ [event]) after cells' := by
  obtain ⟨⟨history, frees, tracks⟩, normal, periods, stands, count⟩ := going
  obtain ⟨cells', frees', reached, effect⟩ := step_effect tracks moves.step
  have normal' := effect_normal effect normal
  have poised := tracks.poised
  have listed : ∀ t ∈ before.active, t ∈ cells.map Prod.fst :=
    fun t inside => tracks.exactly.mem_iff.mpr inside
  cases moves with
  | reset fuel later t calling other live given stored unwrapped returned =>
      obtain ⟨found, value, rest, wf', left, placed⟩ :=
        reset_effect tracks.wf (listed t live) returned
      obtain rfl := cells_unique wf' reached.wf
      obtain rfl := stored_value tracks.wf stored left.member
      have own := (placed_periods left).mp periods
      obtain ⟨less, period⟩ := reset_less own.1 (onward later given) unwrapped
      refine ⟨found, ⟨_, _, reached⟩, normal', (placed_periods placed).mpr ⟨period, own.2⟩, ?_, ?_⟩
      · simp only [calling, Stands] at stands ⊢
        obtain ⟨same, timer, inside, due⟩ := stands
        refine ⟨same, timer, placed.mem_iff.mpr (.inr ?_), due⟩
        rcases left.mem_iff.mp inside with equal | kept
        · exact absurd (congrArg Prod.fst equal).symm other
        · exact kept
      · rw [placed_load left] at count
        rw [iterations_append, placed_load placed]
        simp only [isCall, Bool.false_eq_true, if_false] at less count ⊢
        omega
  | code step own =>
      cases step with
      | create => exact own.elim
      | reset => exact own.elim
      | cancel => exact own.elim
      | runEnter => exact own.elim
      | runEnd ended =>
          obtain rfl : cells' = cells := effect
          refine ⟨cells', ⟨_, _, reached⟩, normal, periods, trivial, ?_⟩
          rw [ended] at count
          rw [iterations_append]
          exact count
      | runBreak walking stored later =>
          obtain rfl : cells' = cells := effect
          refine ⟨cells', ⟨_, _, reached⟩, normal, periods, trivial, ?_⟩
          rw [walking] at count
          rw [iterations_append]
          exact count
      | call walking stored due =>
          rename_i clock' t node
          obtain rfl : cells' = cells := effect
          rw [walking] at stands poised count
          obtain rfl : clock' = now := stands
          obtain ⟨⟨t, timer⟩, inside, rfl⟩ := List.mem_map.mp (listed t (poised t rfl))
          obtain rfl := stored_value tracks.wf stored inside
          have early := Nat.not_lt.mp (mt (compare_pos_iff _ _).mpr due)
          refine ⟨cells', ⟨_, _, reached⟩, normal, periods,
            ⟨rfl, node.value, inside, key_micros (normal _ inside) clock early⟩, ?_⟩
          rw [iterations_append]
          simp only [isCall, if_true, busy] at count ⊢
          omega
      | rescheduled fuel calling stored periodic returned =>
          obtain ⟨value, rest, repeated, left, placed⟩ := effect
          rw [calling] at stands count
          obtain ⟨rfl, timer, inside, due⟩ := stands
          obtain rfl := stored_value tracks.wf stored left.member
          obtain rfl := stored_value tracks.wf stored inside
          have own := (placed_periods left).mp periods
          have less := outstanding_fired repeated own.1 due
          have period := fired_period repeated own.1 due
          refine ⟨cells', ⟨_, _, reached⟩, normal', (placed_periods placed).mpr ⟨period, own.2⟩,
            rfl, ?_⟩
          rw [placed_load left] at count
          rw [iterations_append, placed_load placed]
          simp only [isCall, Bool.false_eq_true, if_false, busy] at count ⊢
          omega
      | expired calling stored once returned =>
          obtain ⟨value, single, left⟩ := effect
          rw [calling] at stands count
          have one : outstanding now value = 1 := by simp [outstanding, single]
          refine ⟨cells', ⟨_, _, reached⟩, normal', ((placed_periods left).mp periods).2,
            stands.1, ?_⟩
          rw [placed_load left, one] at count
          rw [iterations_append]
          simp only [isCall, Bool.false_eq_true, if_false, busy] at count ⊢
          omega

/-- The call of `tmr_run` on a timer list. -/
def entry (globals : Globals) (cells : Cells) (now : iperf_time) : System :=
  { globals := globals, active := cells.map Prod.fst,
    phase := .walking now globals.timers.head }

/-- Some history leads to any list. -/
theorem live_created (timers : List Ptr) :
    live (timers.reverse.map fun t => .create (some t)) = timers := by
  induction timers with
  | nil => rfl
  | cons t rest ih =>
      rw [List.reverse_cons, List.map_append, List.map_singleton, live_append, ih]
      rfl

theorem entry_going {globals : Globals} {frees : List Ptr} (wf : Wf globals cells frees)
    (normal : Normal cells) (periods : Periods now cells) :
    Going now (load now cells) [] (entry globals cells now) cells := by
  have tracks : Tracks ((cells.map Prod.fst).reverse.map fun t => .create (some t))
      (entry globals cells now) cells frees := by
    constructor
    · exact wf
    · exact List.Perm.refl _
    · exact (live_created _).symm
    · intro q same
      exact @head_live (entry globals cells now) cells frees wf q same
  exact ⟨⟨_, _, tracks⟩, normal, periods, rfl, by simp [entry, busy, iterations]⟩

theorem run_going {globals : Globals} {frees : List Ptr} (clock : Proper now)
    (onward : Onward handed now) (wf : Wf globals cells frees) (normal : Normal cells) (periods : Periods now cells)
    {past : List Event} {system : System}
    (run : Run (RunStep handed now) (entry globals cells now) past system) :
    ∃ cells', Going now (load now cells) past system cells' :=
  run.invariant (fun past system => ∃ cells', Going now (load now cells) past system cells')
    ⟨cells, entry_going wf normal periods⟩
    fun _ _ _ _ ⟨_, going⟩ moves => step_going clock onward going moves

/-- A timer that is called has a firing outstanding. -/
theorem busy_le_load (stands : Stands now cells before.phase) :
    busy before.phase ≤ load now cells := by
  cases phase : before.phase with
  | idle => exact Nat.zero_le _
  | walking clock t => exact Nat.zero_le _
  | calling clock t next =>
      rw [phase] at stands
      obtain ⟨_, timer, inside, due⟩ := stands
      obtain ⟨front, back, split⟩ := List.append_of_mem inside
      have placed : Placed (t, timer) (front ++ back) cells := ⟨front, back, rfl, split⟩
      rw [placed_load placed]
      exact Nat.le_trans (outstanding_due due) (Nat.le_add_right _ _)

/-- The steps that the loop has still to make. -/
def remaining (now : iperf_time) (cells : Cells) : Phase → Nat
  | .idle => 0
  | .walking _ _ => 2 * load now cells + 1
  | .calling _ _ _ => 2 * load now cells

/-- The steps of the loop alone. -/
def OwnStep (before : System) (event : Event) (after : System) : Prop :=
  Step before event after ∧ Own event

theorem own_step_less (clock : Proper now) (going : Going now total past before cells)
    (moves : OwnStep before event after) :
    ∃ cells', Going now total (past ++ [event]) after cells' ∧
      remaining now cells' after.phase < remaining now cells before.phase := by
  have some := busy_le_load going.stands
  have count := going.count
  -- With the least total that fits the state the step says how the load changes.
  have tight : Going now (iterations past + load now cells - busy before.phase) past before cells :=
    { going with count := by omega }
  have code : RunStep (fun _ => False) now before event after := .code moves.1 moves.2
  have onward : Onward (fun _ => False) now := fun _ none => none.elim
  obtain ⟨cells', next⟩ := step_going clock onward tight code
  have bound := next.count
  refine ⟨cells', { next with count := by omega }, ?_⟩
  rw [iterations_append] at bound
  cases moves.1 with
  | create => exact moves.2.elim
  | reset => exact moves.2.elim
  | cancel => exact moves.2.elim
  | runEnter => exact moves.2.elim
  | runEnd ended =>
      simp only [ended, remaining]
      omega
  | runBreak walking stored later =>
      simp only [walking, remaining]
      omega
  | call walking stored due =>
      simp only [walking, busy, isCall, if_true] at bound
      simp only [walking, remaining]
      omega
  | rescheduled fuel calling stored periodic returned =>
      simp only [calling, busy, isCall, Bool.false_eq_true, if_false] at bound some
      simp only [calling, remaining]
      omega
  | expired calling stored once returned =>
      simp only [calling, busy, isCall, Bool.false_eq_true, if_false] at bound some
      simp only [calling, remaining]
      omega

/-- Once the callbacks return at once, the call does. -/
theorem own_steps_end (clock : Proper now) (going : Going now total past before cells) :
    ∃ more final, Run OwnStep before more final ∧ final.phase = .idle := by
  have bounded : ∀ more final, Run OwnStep before more final →
      ∃ cells', Going now total (past ++ more) final cells' ∧
        more.length + remaining now cells' final.phase ≤ remaining now cells before.phase := by
    intro more final run
    induction run with
    | start =>
        rw [List.append_nil]
        exact ⟨cells, going, by simp⟩
    | next event _ moves ih =>
        obtain ⟨cells', reached, short⟩ := ih
        obtain ⟨cells'', next, less⟩ := own_step_less clock reached moves
        rw [← List.append_assoc]
        refine ⟨cells'', next, ?_⟩
        rw [List.length_append, List.length_singleton]
        omega
  obtain ⟨more, final, run, ended⟩ := bounded_run_ends fun more final run => by
    obtain ⟨cells', _, short⟩ := bounded more final run
    exact Nat.le_trans (Nat.le_add_right _ _) short
  refine ⟨more, final, run, ?_⟩
  obtain ⟨cells', reached, _⟩ := bounded more final run
  obtain ⟨history, frees, tracks⟩ := reached.tracks
  by_contra inside
  obtain ⟨event, after, step, own⟩ := tracks.goes_on inside
  exact ended event after ⟨step, own⟩

/-- `tmr_run` ends: whatever timers the callbacks reset by the time of the call or a later
one, the loop calls timers at most as often as firings were outstanding on entry, and it is
never stuck before it returns. -/
theorem tmr_run_terminates {globals : Globals} {frees : List Ptr} (clock : Proper now)
    (onward : Onward handed now) (wf : Wf globals cells frees) (normal : Normal cells) (periods : Periods now cells)
    {past : List Event} {system : System}
    (run : Run (RunStep handed now) (entry globals cells now) past system) :
    iterations past ≤ load now cells ∧
      ∃ more final, Run OwnStep system more final ∧ final.phase = .idle := by
  obtain ⟨cells', going⟩ := run_going clock onward wf normal periods run
  constructor
  · have some := busy_le_load going.stands
    have count := going.count
    omega
  · exact own_steps_end clock going

/-- A timer of a second that is two seconds behind. -/
def second : Timer :=
  { timer_proc := 1, client_data := 0, usecs := 1000000, periodic := true, time := ⟨5, 0⟩ }

def one_timer : Globals :=
  { timers := ⟨fun t => if t = 10 then some ⟨second, none, none⟩ else none, some 10⟩
    free_timers := none }

theorem one_timer_wf : Wf one_timer [(10, second)] [] where
  holds := ⟨⟨some 10, rfl, none, rfl, rfl, rfl⟩, List.nodup_singleton _⟩
  sorted := List.pairwise_singleton _ _
  free := rfl
  freeNodup := List.nodup_nil
  apart := nofun

theorem tmr_run_terminates_second :
    ∃ system, iterations [.call 10] ≤ load ⟨7, 0⟩ [(10, second)] ∧
      ∃ more final, Run OwnStep system more final ∧ final.phase = .idle := by
  have normal : Normal [(10, second)] := by
    intro cell member
    rw [List.mem_singleton.mp member]
    decide
  have periods : Periods ⟨7, 0⟩ [(10, second)] := by
    intro cell member
    rw [List.mem_singleton.mp member]
    intro _
    decide
  have called := Run.next (.call 10)
    (Run.start : Run (RunStep (⟨7, 0⟩ = ·) ⟨7, 0⟩) (entry one_timer [(10, second)] ⟨7, 0⟩) [] _)
    (RunStep.code (Step.call rfl rfl (by decide)) (by trivial))
  exact ⟨_, tmr_run_terminates (by decide) (by rintro _ rfl; exact le_refl _) one_timer_wf normal
    periods called⟩

/-- A timer of a microsecond. -/
def micro (time : iperf_time) : Timer :=
  { timer_proc := 1, client_data := 0, usecs := 1, periodic := true, time := time }

/-- Two of them in a list, with their times. -/
def two (first second : Ptr) (early late : iperf_time) : Globals :=
  { timers :=
      ⟨fun t =>
        if t = first then some ⟨micro early, none, some second⟩
        else if t = second then some ⟨micro late, some first, none⟩
        else none, some first⟩
    free_timers := none }

section Turns
variable {first second : Ptr}

theorem two_reset (other : second ≠ first) :
    tmr_reset 1 (two first second ⟨4, 1⟩ ⟨4, 2⟩) ⟨4, 0⟩ second =
      some (two first second ⟨4, 1⟩ ⟨4, 1⟩) := by
  have moved : iperf_time_add_usecs ⟨4, 0⟩ (Int64.toUInt64 1) = ⟨4, 1⟩ := by decide
  have same : ¬ iperf_time_compare ⟨4, 1⟩ ⟨4, 1⟩ < 0 := by decide
  simp [tmr_reset, retime, two, micro, DList.setValue, list_resort, list_remove, DList.remove,
    DList.setForward, DList.setBackward, DList.setNext, DList.setLinks, list_add, Loop.run, findStep,
    moved, same, other, other.symm]
  funext t
  by_cases t = first <;> by_cases t = second <;> simp_all [Function.update]

/-- A timer that is due at the same time as the other goes behind it. -/
theorem two_fired (other : second ≠ first) :
    reschedule 1 (two first second ⟨4, 1⟩ ⟨4, 1⟩) first =
      some (two second first ⟨4, 1⟩ ⟨4, 2⟩) := by
  have moved : iperf_time_add_usecs ⟨4, 1⟩ (Int64.toUInt64 1) = ⟨4, 2⟩ := by decide
  have same : ¬ iperf_time_compare ⟨4, 2⟩ ⟨4, 1⟩ < 0 := by decide
  simp [reschedule, retime, two, micro, DList.setValue, list_resort, list_remove, DList.remove,
    DList.setForward, DList.setBackward, DList.setNext, DList.setPrev, DList.setLinks, list_add,
    Loop.run, findStep, moved, same, other, other.symm]
  funext t
  by_cases t = first <;> by_cases t = second <;> simp_all [Function.update]

def at_first (first second : Ptr) (active : List Ptr) : System :=
  { globals := two first second ⟨4, 1⟩ ⟨4, 2⟩, active := active,
    phase := .walking ⟨7, 0⟩ (some first) }

def in_first (first second : Ptr) (late : iperf_time) (active : List Ptr) : System :=
  { globals := two first second ⟨4, 1⟩ late, active := active,
    phase := .calling ⟨7, 0⟩ first (some second) }

/-- The first timer is called, resets the second, and is put behind it. -/
theorem turn (other : second ≠ first) {active : List Ptr} (live : second ∈ active) :
    ∃ past, Run (RunStep (fun _ => True) ⟨7, 0⟩) (at_first first second active) past
      (at_first second first active) ∧ 0 < iterations past := by
  have stored : ∀ late, (two first second ⟨4, 1⟩ late).timers.heap first =
      some ⟨micro ⟨4, 1⟩, none, some second⟩ := fun late => if_pos rfl
  have stored_second : (two first second ⟨4, 1⟩ ⟨4, 2⟩).timers.heap second =
      some ⟨micro ⟨4, 2⟩, some first, none⟩ := by simp [two, other]
  have early : ¬ iperf_time_compare (micro ⟨4, 1⟩).time ⟨7, 0⟩ > 0 := by decide
  have room : micros ⟨4, 0⟩ + (micro ⟨4, 2⟩).usecs.toInt < clock_end := by decide
  have called : RunStep (fun _ => True) ⟨7, 0⟩ (at_first first second active) (.call first)
      (in_first first second ⟨4, 2⟩ active) :=
    .code (@Step.call (at_first first second active) _ _ _ rfl (stored _) early) trivial
  have reset : RunStep (fun _ => True) ⟨7, 0⟩ (in_first first second ⟨4, 2⟩ active)
      (.reset second) (in_first first second ⟨4, 1⟩ active) :=
    @RunStep.reset _ _ (in_first first second ⟨4, 2⟩ active) _ _ _ _ 1 ⟨4, 0⟩ second rfl other
      live trivial stored_second (fun _ => room) (two_reset other)
  have fired : RunStep (fun _ => True) ⟨7, 0⟩ (in_first first second ⟨4, 1⟩ active)
      (.rescheduled first) (at_first second first active) :=
    .code (@Step.rescheduled (in_first first second ⟨4, 1⟩ active) _ _ _ _ _ 1 rfl (stored _) rfl
      (two_fired other)) trivial
  exact ⟨_, ((Run.start.next _ called).next _ reset).next _ fired, by simp [iterations, isCall]⟩

end Turns

theorem two_wf : Wf (two 10 11 ⟨4, 1⟩ ⟨4, 2⟩) [(10, micro ⟨4, 1⟩), (11, micro ⟨4, 2⟩)] [] where
  holds := ⟨⟨some 11, rfl, some 11, rfl, rfl, none, rfl, rfl, rfl⟩, by decide⟩
  sorted := by
    refine List.pairwise_cons.mpr ⟨?_, List.pairwise_singleton _ _⟩
    intro cell member
    rw [List.mem_singleton.mp member]
    decide
  free := rfl
  freeNodup := List.nodup_nil
  apart := nofun

/-- Two timers whose callbacks reset each other by an earlier time keep the loop going. -/
theorem tmr_run_endless :
    ¬ ∀ (globals : Globals) (cells : Cells) (frees : List Ptr) (now : iperf_time), Proper now →
      Wf globals cells frees → Normal cells → Periods now cells →
      ¬ ∃ states : Nat → System, states 0 = entry globals cells now ∧
        ∀ n, ∃ past, Run (RunStep (fun _ => True) now) (states n) past (states (n + 1)) ∧
          0 < iterations past := by
  intro ends
  have normal : Normal [(10, micro ⟨4, 1⟩), (11, micro ⟨4, 2⟩)] := by
    intro cell member
    rcases List.mem_pair.mp member with rfl | rfl <;> decide
  have periods : Periods ⟨7, 0⟩ [(10, micro ⟨4, 1⟩), (11, micro ⟨4, 2⟩)] := by
    intro cell member _
    rcases List.mem_pair.mp member with rfl | rfl <;> decide
  apply ends (two 10 11 ⟨4, 1⟩ ⟨4, 2⟩) _ [] ⟨7, 0⟩ (by decide) two_wf normal periods
  refine ⟨fun n => if n % 2 = 0 then at_first 10 11 [10, 11] else at_first 11 10 [10, 11], rfl, ?_⟩
  intro n
  dsimp only
  rcases Nat.mod_two_eq_zero_or_one n with even | odd
  · rw [if_pos even, if_neg (by omega)]
    exact turn (by decide) (by decide)
  · rw [if_neg (by omega), if_pos (by omega)]
    exact turn (by decide) (by decide)

end Loop

end Iperf.TimerTermination
