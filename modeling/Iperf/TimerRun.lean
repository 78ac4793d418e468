import Mathlib.Data.List.Sort
import Mathlib.Algebra.BigOperators.Group.List.Basic
import Iperf.SelectTimeout
import Iperf.MachineWords
import Iperf.Transition

/-!
`tmr_run` on the active timers as a list in firing order, with callbacks that leave the
timers alone, and that this is what `timer.c` does to its linked list. A timer that is
due fires and is gone, or is due later than before, so what is still to fire before any
bound gets less.
-/

namespace Iperf.TimerRun

open DoublyLinked Time TimerOrder Timers SelectTimeout

/-- An active timer: when it is due, and after how long again if it is periodic. -/
structure Alarm where
  time : Int
  usecs : Int
  periodic : Bool
  deriving DecidableEq, Repr

section Code

/-- What `tmr_timeout` looks at. -/
def timeout_of (timers : List Alarm) (now : Int) : Option timeval :=
  timers.head?.map fun t => timeval_of (max 0 (t.time - now))

/-- `list_add` goes behind the timers that are due at the same time. -/
def list_add (t : Alarm) (timers : List Alarm) : List Alarm :=
  timers.orderedInsert (fun new old => new.time < old.time) t

/-- A new place for a timer, in front of the `next` that was read before or behind it. -/
def list_resort (passed : List Alarm) (t : Alarm) : List Alarm → List Alarm × List Alarm
  | [] => (list_add t passed, [])
  | next :: rest =>
      if t.time < next.time then (list_add t passed, next :: rest)
      else (passed, list_add t (next :: rest))

/-- One iteration, with the timers in front of `t` and those from `t` on. -/
def tmr_run_step (now : Int) : Loop.Body (List Alarm × List Alarm) (List Alarm)
  | (passed, []) => some (.done passed)
  | (passed, t :: rest) =>
      if now < t.time then some (.done (passed ++ t :: rest))
      else if t.periodic then
        some (.again (list_resort passed { t with time := t.time + t.usecs } rest))
      else some (.again (passed, rest))

def tmr_run (now : Int) (timers after : List Alarm) : Prop :=
  Loop.Returns (tmr_run_step now) ([], timers) after

end Code

/-- The timers that `timer.c` keeps in its list. -/
def alarm (cell : Ptr × Timer) : Alarm :=
  ⟨micros cell.2.time, cell.2.usecs.toInt, cell.2.periodic⟩

theorem tmr_timeout_alarms {globals : Globals} {cells : Cells} {frees : List Ptr}
    {now : iperf_time} (wf : Wf globals cells frees) (clock : Proper now)
    (normal : ∀ cell ∈ cells, Proper cell.2.time) :
    tmr_timeout globals now = some (timeout_of (cells.map alarm) (micros now)) := by
  rw [tmr_timeout_first wf clock normal]
  cases cells <;> rfl

section Backlog
variable {now bound : Int} {t : Alarm} {passed rest timers : List Alarm}

/-- Every period is a microsecond at least. -/
def Advancing (timers : List Alarm) : Prop := ∀ t ∈ timers, t.periodic = true → 0 < t.usecs

/-- How often a timer can still fire up to `bound`, at most, and that it is there. -/
def pending (bound : Int) (t : Alarm) : Nat := (bound + 1 - t.time).toNat + 1

def backlog (bound : Int) (timers : List Alarm) : Nat := (timers.map (pending bound)).sum

theorem backlog_cons (bound : Int) (t : Alarm) (timers : List Alarm) :
    backlog bound (t :: timers) = pending bound t + backlog bound timers := by
  simp [backlog]

theorem backlog_perm {one other : List Alarm} (same : one.Perm other) (bound : Int) :
    backlog bound one = backlog bound other :=
  (same.map (pending bound)).sum_eq

theorem list_add_perm (t : Alarm) (timers : List Alarm) : (list_add t timers).Perm (t :: timers) :=
  List.perm_orderedInsert _ t timers

theorem list_resort_perm (passed : List Alarm) (t : Alarm) (rest : List Alarm) :
    ((list_resort passed t rest).1 ++ (list_resort passed t rest).2).Perm
      (t :: (passed ++ rest)) := by
  cases rest with
  | nil =>
      simp only [list_resort, List.append_nil]
      exact list_add_perm t passed
  | cons next rest =>
      simp only [list_resort]
      split
      · exact (list_add_perm t passed).append_right (next :: rest)
      · apply ((list_add_perm t (next :: rest)).append_left passed).trans
        exact List.perm_middle

/-- The timers from `next` on are those that were there, or with the one that fired. -/
theorem list_resort_rest (passed : List Alarm) (t : Alarm) (rest : List Alarm) (bound : Int) :
    backlog bound (list_resort passed t rest).2 ≤ pending bound t + backlog bound rest := by
  cases rest with
  | nil => simp [list_resort, backlog]
  | cons next rest =>
      simp only [list_resort]
      split
      · exact Nat.le_add_left _ _
      · rw [backlog_perm (list_add_perm t (next :: rest)), backlog_cons]

/-- A timer that fires again has less before it. -/
theorem pending_later (advancing : t.periodic = true → 0 < t.usecs) (periodic : t.periodic = true)
    (bound : Int) :
    pending bound { t with time := t.time + t.usecs } ≤ pending bound t ∧
      (t.time ≤ bound → pending bound { t with time := t.time + t.usecs } < pending bound t) := by
  have period := advancing periodic
  unfold pending
  dsimp only
  constructor
  · omega
  · omega

/-- What an iteration that goes on leaves. -/
structure Fired (bound : Int) (timers after : List Alarm) : Prop where
  advancing : Advancing after
  backlog : backlog bound after ≤ backlog bound timers

theorem step_fires (advancing : Advancing (passed ++ t :: rest)) {next : List Alarm × List Alarm}
    (continues : tmr_run_step now (passed, t :: rest) = some (.again next)) (bound : Int) :
    Fired bound (passed ++ t :: rest) (next.1 ++ next.2) ∧ t.time ≤ now ∧
      backlog now next.2 < backlog now (t :: rest) ∧
      (t.time ≤ bound →
        backlog bound (next.1 ++ next.2) < backlog bound (passed ++ t :: rest)) := by
  have here := advancing t (by simp)
  have others : ∀ other ∈ passed ++ rest, other.periodic = true → 0 < other.usecs := by
    intro other member
    apply advancing
    simp at member ⊢
    tauto
  have counted (bound : Int) : backlog bound (passed ++ t :: rest) =
      pending bound t + backlog bound (passed ++ rest) := by
    rw [backlog_perm List.perm_middle, backlog_cons]
  simp only [tmr_run_step] at continues
  split at continues
  · cases continues
  · rename_i due
    split at continues
    · rename_i periodic
      cases continues
      have less := pending_later here periodic
      have perm := list_resort_perm passed { t with time := t.time + t.usecs } rest
      have moved := backlog_perm perm bound
      have behind := list_resort_rest passed { t with time := t.time + t.usecs } rest now
      rw [backlog_cons] at moved
      constructor
      · constructor
        · intro other member
          rcases List.mem_cons.mp (perm.mem_iff.mp member) with rfl | kept
          · exact here
          · exact others other kept
        · rw [moved, counted]
          exact Nat.add_le_add_right (less bound).1 _
      · refine ⟨Int.not_lt.mp due, ?_, fun early => ?_⟩
        · rw [backlog_cons]
          have := (less now).2 (Int.not_lt.mp due)
          omega
        · rw [moved, counted]
          exact Nat.add_lt_add_right ((less bound).2 early) _
    · cases continues
      have there : 0 < pending bound t := Nat.succ_pos _
      constructor
      · constructor
        · exact others
        · rw [counted]
          exact Nat.le_add_left _ _
      · refine ⟨Int.not_lt.mp due, ?_, fun _ => ?_⟩
        · rw [backlog_cons]
          exact Nat.lt_add_of_pos_left (Nat.succ_pos _)
        · rw [counted]
          exact Nat.lt_add_of_pos_left there

theorem run_fires {fuel : Nat} {after : List Alarm} (advancing : Advancing (passed ++ rest))
    (ran : Loop.run (tmr_run_step now) fuel (passed, rest) = some after) (bound : Int) :
    Fired bound (passed ++ rest) after := by
  induction fuel generalizing passed rest with
  | zero => cases ran
  | succ fuel ih =>
      cases rest with
      | nil =>
          simp only [Loop.run, tmr_run_step, Option.some.injEq] at ran
          subst ran
          rw [List.append_nil] at advancing ⊢
          exact ⟨advancing, Nat.le_refl _⟩
      | cons t rest =>
          rw [Loop.run] at ran
          cases body : tmr_run_step now (passed, t :: rest) with
          | none =>
              rw [body] at ran
              cases ran
          | some verdict =>
              rw [body] at ran
              cases verdict with
              | done result =>
                  obtain rfl := Option.some.inj ran
                  simp only [tmr_run_step] at body
                  split at body
                  · cases body
                    exact ⟨advancing, Nat.le_refl _⟩
                  · split at body <;> cases body
              | again next =>
                  obtain ⟨fired, _⟩ := step_fires advancing body bound
                  have more := @ih next.1 next.2 fired.advancing ran
                  exact ⟨more.advancing, Nat.le_trans more.backlog fired.backlog⟩

/-- With a first timer that is due, and before `bound`, the backlog gets less. -/
theorem tmr_run_progress {after : List Alarm} (advancing : Advancing (t :: rest))
    (ran : tmr_run now (t :: rest) after) (due : t.time ≤ now) (early : t.time ≤ bound) :
    backlog bound after < backlog bound (t :: rest) := by
  obtain ⟨fuel, ran⟩ := ran
  cases fuel with
  | zero => cases ran
  | succ fuel =>
      rw [Loop.run] at ran
      cases body : tmr_run_step now ([], t :: rest) with
      | none =>
          rw [body] at ran
          cases ran
      | some verdict =>
          rw [body] at ran
          cases verdict with
          | done result =>
              simp only [tmr_run_step, Int.not_lt.mpr due, if_false] at body
              split at body <;> cases body
          | again next =>
              obtain ⟨fired, _, _, less⟩ := @step_fires now t [] rest advancing next body bound
              have more := run_fires fired.advancing ran bound
              exact Nat.lt_of_le_of_lt more.backlog (less early)

theorem tmr_run_fires {after : List Alarm} (advancing : Advancing timers)
    (ran : tmr_run now timers after) (bound : Int) : Fired bound timers after := by
  obtain ⟨fuel, ran⟩ := ran
  exact @run_fires now [] timers fuel after advancing ran bound

theorem tmr_run_returns (now : Int) (advancing : Advancing timers) :
    ∃ after, tmr_run now timers after := by
  -- The timers from `t` on have less and less before the clock.
  have walks : ∀ (amount : Nat) (passed rest : List Alarm), backlog now rest = amount →
      Advancing (passed ++ rest) →
      ∃ after, Loop.Returns (tmr_run_step now) (passed, rest) after := by
    intro amount
    induction amount using Nat.strongRecOn with
    | ind amount ih =>
        rintro passed rest rfl advancing
        cases rest with
        | nil => exact ⟨passed, Loop.returns_done rfl⟩
        | cons t rest =>
            by_cases due : now < t.time
            · have stops : tmr_run_step now (passed, t :: rest) =
                  some (.done (passed ++ t :: rest)) := by
                simp only [tmr_run_step]
                rw [if_pos due]
              exact ⟨_, Loop.returns_done stops⟩
            · have continues : ∃ next, tmr_run_step now (passed, t :: rest) =
                  some (.again next) := by
                simp only [tmr_run_step]
                rw [if_neg due]
                split
                · exact ⟨_, rfl⟩
                · exact ⟨_, rfl⟩
              rcases continues with ⟨next, continues⟩
              obtain ⟨fired, _, less, _⟩ := step_fires advancing continues now
              rcases ih _ less next.1 next.2 rfl fired.advancing with ⟨after, returns⟩
              exact ⟨after, Loop.returns_again continues returns⟩
  exact walks _ [] timers rfl advancing

end Backlog

section Pointers
variable {system : System} {globals : Globals} {cells passed rest front back : Cells}
variable {frees : List Ptr} {now : iperf_time}

theorem key_lt_micros {earlier later : iperf_time} (normal : Proper earlier)
    (normal_later : Proper later) : key earlier < key later ↔ micros earlier < micros later := by
  constructor
  · intro less
    rw [← Int.not_le]
    exact fun other => absurd less (Nat.not_lt.mpr (micros_key normal_later normal other))
  · intro less
    rw [← Nat.not_le]
    exact fun other => absurd less (Int.not_lt.mpr (key_micros normal_later normal other))

theorem list_add_at {t : Alarm} {front back : List Alarm} (before : ∀ other ∈ front, other.time ≤ t.time)
    (behind : ∀ other ∈ back, t.time < other.time) :
    list_add t (front ++ back) = front ++ t :: back := by
  unfold list_add
  induction front with
  | nil =>
      cases back with
      | nil => rfl
      | cons first rest => simp [behind first List.mem_cons_self]
  | cons first rest ih =>
      have stays := Int.not_lt.mpr (before first List.mem_cons_self)
      rw [List.cons_append, List.orderedInsert, if_neg stays,
        ih fun other member => before other (List.mem_cons_of_mem _ member)]
      rfl

/-- The place among all timers is the one that `list_resort` finds on either side of `next`. -/
theorem list_resort_at {cell : Ptr × Timer} (split : passed ++ rest = front ++ back)
    (before : ∀ other ∈ front, (alarm other).time ≤ (alarm cell).time)
    (behind : ∀ other ∈ back, (alarm cell).time < (alarm other).time) :
    ∃ passed' rest', front ++ cell :: back = passed' ++ rest' ∧
      rest'.head?.map Prod.fst = rest.head?.map Prod.fst ∧
      list_resort (passed.map alarm) (alarm cell) (rest.map alarm) =
        (passed'.map alarm, rest'.map alarm) := by
  have added : ∀ {front back : Cells},
      (∀ other ∈ front, (alarm other).time ≤ (alarm cell).time) →
      (∀ other ∈ back, (alarm cell).time < (alarm other).time) →
      list_add (alarm cell) ((front ++ back).map alarm) = (front ++ cell :: back).map alarm := by
    intro front back before behind
    rw [List.map_append, list_add_at (List.forall_mem_map.mpr before)
      (List.forall_mem_map.mpr behind), List.map_append, List.map_cons]
  cases rest with
  | nil =>
      rw [List.append_nil] at split
      subst split
      exact ⟨_, [], (List.append_nil _).symm, rfl, by
        simp only [List.map_nil, list_resort, added before behind]⟩
  | cons next more =>
      simp only [List.map_cons, list_resort]
      -- `next` is on the side that its time says.
      rcases List.append_eq_append_iff.mp split with ⟨middle, rfl, tail⟩ | ⟨middle, rfl, tail⟩
      · cases middle with
        | nil =>
            obtain rfl : next :: more = back := tail
            rw [if_pos (behind next List.mem_cons_self)]
            refine ⟨passed ++ [cell], next :: more, by simp, rfl, ?_⟩
            rw [List.append_nil] at before
            have last := @added passed [] before (by simp)
            rw [List.append_nil] at last
            rw [last, List.map_cons]
        | cons first middle =>
            obtain ⟨rfl, rfl⟩ := List.cons.inj tail
            rw [if_neg (Int.not_lt.mpr (before next (by simp)))]
            refine ⟨passed, next :: middle ++ cell :: back, by simp, rfl, ?_⟩
            have moved := @added (next :: middle) back (fun other member =>
              before other (List.mem_append_right _ member)) behind
            exact congrArg (Prod.mk _) moved
      · have later : (alarm cell).time < (alarm next).time := behind next (by rw [tail]; simp)
        rw [if_pos later]
        refine ⟨front ++ cell :: middle, next :: more, by rw [tail]; simp, rfl, ?_⟩
        rw [added before fun other member => behind other (by rw [tail]; simp [member]),
          List.map_cons]

/-- The node of a timer in the list points to the one behind it. -/
theorem stored_cell {cell : Ptr × Timer} (wf : Wf globals (front ++ cell :: back) frees) :
    ∃ prev, globals.timers.heap cell.1 = some ⟨cell.2, prev, back.head?.map Prod.fst⟩ := by
  obtain ⟨last, seg⟩ := wf.holds.linked
  obtain ⟨prev, _, -, -, link, stored, follows⟩ := seg_append.mp seg
  refine ⟨prev, ?_⟩
  cases back with
  | nil => rw [stored, follows.1]; rfl
  | cons next more => rw [stored, follows.1]; rfl

/-- No clock wraps when this timer is put off. -/
def Roomy (now : iperf_time) (timer : Timer) : Prop :=
  timer.periodic = true → 0 ≤ timer.usecs.toInt ∧ micros now + timer.usecs.toInt < 2 ^ 32 * 1000000

/-- Inside of `tmr_run`, with these timers in front of `t` and those from `t` on. -/
structure Walking (system : System) (now : iperf_time) (passed rest : Cells) : Prop where
  phase : system.phase = .walking now (rest.head?.map Prod.fst)
  wf : ∃ frees, Wf system.globals (passed ++ rest) frees
  proper : ∀ cell ∈ passed ++ rest, Proper cell.2.time
  roomy : ∀ cell ∈ passed ++ rest, Roomy now cell.2

theorem due_iff {cell : Ptr × Timer} (clock : Proper now) (normal : Proper cell.2.time) :
    iperf_time_compare cell.2.time now > 0 ↔ micros now < (alarm cell).time :=
  (compare_pos_iff _ _).trans (key_lt_micros clock normal)

theorem walking_stops (walking : Walking system now passed rest) (clock : Proper now)
    {result : List Alarm}
    (stops : tmr_run_step (micros now) (passed.map alarm, rest.map alarm) = some (.done result)) :
    ∃ after, Step system .runLeave after ∧ after.phase = .idle ∧
      after.globals = system.globals ∧ result = (passed ++ rest).map alarm := by
  cases rest with
  | nil =>
      simp only [List.map_nil, tmr_run_step, Option.some.injEq, Loop.Verdict.done.injEq] at stops
      exact ⟨_, .runEnd walking.phase, rfl, rfl, by rw [← stops, List.append_nil]⟩
  | cons cell rest =>
      obtain ⟨frees, wf⟩ := walking.wf
      obtain ⟨prev, stored⟩ := stored_cell wf
      simp only [List.map_cons, tmr_run_step] at stops
      split at stops
      · rename_i later
        simp only [Option.some.injEq, Loop.Verdict.done.injEq] at stops
        refine ⟨_, .runBreak walking.phase stored ?_, rfl, rfl, by rw [← stops]; simp⟩
        exact (due_iff clock (walking.proper cell (by simp))).mpr later
      · split at stops <;> cases stops

/-- A periodic timer that was put off. -/
theorem alarm_later {t : Ptr} {timer : Timer} (normal : micros timer.time ≤ micros now)
    (roomy : Roomy now timer) (periodic : timer.periodic = true) :
    alarm (t, { timer with time := iperf_time_add_usecs timer.time timer.usecs.toUInt64 }) =
      { alarm (t, timer) with time := (alarm (t, timer)).time + (alarm (t, timer)).usecs } := by
  obtain ⟨positive, room⟩ := roomy periodic
  have usecs : timer.usecs.toUInt64.toNat = timer.usecs.toInt.toNat :=
    MachineWords.unsigned_toNat positive
  have moved := @add_usecs_exact timer.time timer.usecs.toUInt64 (by omega)
  simp only [alarm, Alarm.mk.injEq, and_true]
  omega

/-- A timer fires, in the list as in memory. -/
theorem walking_fires (walking : Walking system now passed rest) (clock : Proper now)
    {next : List Alarm × List Alarm}
    (continues : tmr_run_step (micros now) (passed.map alarm, rest.map alarm) =
      some (.again next)) :
    ∃ t event middle after passed' rest', Step system (.call t) middle ∧
      Step middle event after ∧ Walking after now passed' rest' ∧
      next = (passed'.map alarm, rest'.map alarm) := by
  cases rest with
  | nil => simp [tmr_run_step] at continues
  | cons cell rest =>
      obtain ⟨t, timer⟩ := cell
      obtain ⟨frees, wf⟩ := walking.wf
      obtain ⟨prev, stored⟩ := stored_cell wf
      have proper : ∀ other ∈ passed ++ rest, Proper other.2.time := fun other member =>
        walking.proper other (List.perm_middle.mem_iff.mpr (List.mem_cons_of_mem _ member))
      have roomy : ∀ other ∈ passed ++ rest, Roomy now other.2 := fun other member =>
        walking.roomy other (List.perm_middle.mem_iff.mpr (List.mem_cons_of_mem _ member))
      have normal := walking.proper (t, timer) (by simp)
      have own := walking.roomy (t, timer) (by simp)
      simp only [List.map_cons, tmr_run_step] at continues
      split at continues
      · cases continues
      rename_i due
      have calls := Step.call walking.phase stored (mt (due_iff clock normal).mp due)
      split at continues
      · rename_i periodic
        simp only [Option.some.injEq, Loop.Verdict.again.injEq] at continues
        have later := @alarm_later now t timer (Int.not_lt.mp due) own periodic
        obtain ⟨globals, front, back, yields, split, wf', before, behind⟩ :=
          retime_moves wf fun timer => iperf_time_add_usecs timer.time timer.usecs.toUInt64
        obtain ⟨fuel, returned⟩ := yields.1
        have new := add_usecs_proper timer.time timer.usecs.toUInt64
        rw [split] at proper roomy
        obtain ⟨passed', rest', whole, head, resorted⟩ := @list_resort_at _ _ _ _
          (t, { timer with time := iperf_time_add_usecs timer.time timer.usecs.toUInt64 }) split
          (fun other member => key_micros (proper other (by simp [member])) new (before other member))
          fun other member =>
            (key_lt_micros new (proper other (by simp [member]))).mp (behind other member)
        rw [later, continues] at resorted
        refine ⟨t, _, _, _, passed', rest', calls,
          .rescheduled fuel rfl stored periodic returned, ⟨?_, ⟨frees, whole ▸ wf'⟩, ?_, ?_⟩, resorted⟩
        · rw [head]
        · rw [← whole]
          intro other member
          rcases List.mem_cons.mp (List.perm_middle.mem_iff.mp member) with rfl | kept
          · exact new
          · exact proper other kept
        · rw [← whole]
          intro other member
          rcases List.mem_cons.mp (List.perm_middle.mem_iff.mp member) with rfl | kept
          · exact own
          · exact roomy other kept
      · rename_i once
        simp only [Option.some.injEq, Loop.Verdict.again.injEq] at continues
        obtain ⟨globals, returned, wf'⟩ := tmr_cancel_removes wf
        exact ⟨t, _, _, _, passed, rest, calls,
          .expired rfl stored (Bool.eq_false_iff.mpr once) returned,
          ⟨rfl, ⟨_, wf'⟩, proper, roomy⟩, continues.symm⟩

theorem walking_runs (clock : Proper now) {fuel : Nat} {result : List Alarm}
    (walking : Walking system now passed rest)
    (ran : Loop.run (tmr_run_step (micros now)) fuel (passed.map alarm, rest.map alarm) =
      some result) :
    ∃ events final cells frees, Transition.Run Step system events final ∧ final.phase = .idle ∧
      Wf final.globals cells frees ∧ result = cells.map alarm := by
  induction fuel generalizing system passed rest with
  | zero => cases ran
  | succ fuel ih =>
      rw [Loop.run] at ran
      cases body : tmr_run_step (micros now) (passed.map alarm, rest.map alarm) with
      | none =>
          rw [body] at ran
          cases ran
      | some verdict =>
          rw [body] at ran
          cases verdict with
          | done stopped =>
              obtain rfl := Option.some.inj ran
              obtain ⟨after, leaves, idle, same, rfl⟩ := walking_stops walking clock body
              obtain ⟨frees, wf⟩ := walking.wf
              exact ⟨_, after, _, frees, .next _ .start leaves, idle, same ▸ wf, rfl⟩
          | again next =>
              obtain ⟨t, event, middle, after, passed', rest', calls, moves, walks, rfl⟩ :=
                walking_fires walking clock body
              obtain ⟨events, final, cells, frees, runs, ended⟩ := ih walks ran
              have fired : Transition.Run Step system ([] ++ [.call t] ++ [event]) after :=
                (Transition.Run.start.next _ calls).next event moves
              exact ⟨_, final, cells, frees, fired.trans runs, ended⟩

/-- `tmr_run` leaves the timers of `timer.c` as it leaves the list of them, when no callback
creates or resets one and no clock wraps. -/
theorem tmr_run_refines (idle : system.phase = .idle) (wf : Wf system.globals cells frees)
    (clock : Proper now) (proper : ∀ cell ∈ cells, Proper cell.2.time)
    (roomy : ∀ cell ∈ cells, Roomy now cell.2) {after : List Alarm}
    (ran : tmr_run (micros now) (cells.map alarm) after) :
    ∃ events final cells' frees', Transition.Run Step system events final ∧ final.phase = .idle ∧
      Wf final.globals cells' frees' ∧ after = cells'.map alarm := by
  obtain ⟨fuel, ran⟩ := ran
  obtain ⟨last, seg⟩ := wf.holds.linked
  have head : system.globals.timers.head = cells.head?.map Prod.fst := by
    cases cells with
    | nil => exact seg.1
    | cons cell rest => exact seg.1
  have enters := Step.runEnter now idle
  have walking : Walking { system with phase := .walking now system.globals.timers.head } now []
      cells := ⟨by rw [head], ⟨frees, wf⟩, proper, roomy⟩
  obtain ⟨events, final, cells', frees', runs, ended⟩ := @walking_runs _ _ _ _ clock fuel _ walking ran
  have entered : Transition.Run Step system ([] ++ [.runEnter]) _ := .next _ .start enters
  exact ⟨_, final, cells', frees', entered.trans runs, ended⟩

end Pointers

end Iperf.TimerRun
