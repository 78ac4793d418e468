import Iperf.TestState
import Iperf.TimerOrder

/-!
The timeout that the loops of both sides give to `select`. A side that watches
its reception takes the receive timeout in place of a later timer. The cap of one
second is on `timeout_us`, which is compared; `used_timeout` is what `select` gets.
-/

namespace Iperf.SelectTimeout

open DoublyLinked Timers TimerOrder Time TestState

def SEC_TO_US : Int := 1000000

structure timeval where
  tv_sec : Int
  tv_usec : Int
  deriving DecidableEq, Repr

def timeval.usecs (timeout : timeval) : Int := timeout.tv_sec * SEC_TO_US + timeout.tv_usec

section Timeouts

/-- NULL inside without a timer; `none` where the head dangles. -/
def tmr_timeout (globals : Globals) (now : iperf_time) : Option (Option timeval) :=
  match globals.timers.head with
  | none => some none
  | some t =>
      match globals.timers.heap t with
      | none => none
      | some node =>
          let (diff, past) := iperf_time_diff node.value.time now
          let usecs : Int := if past then 0 else iperf_time_in_usecs diff
          some (some ⟨usecs / 1000000, usecs % 1000000⟩)

variable (rcv_timeout : iperf_time)

/-- The branch that both loops have; `used_timeout` is unset without a timer. -/
def supervised (timeout : Option timeval) : Option timeval :=
  let rcv_timeout_us : Int := rcv_timeout.secs.toNat * SEC_TO_US + rcv_timeout.usecs.toNat
  let used_timeout := timeout
  let timeout_us := (timeout.map timeval.usecs).getD (-1)
  let timeout_us := if timeout_us > SEC_TO_US then SEC_TO_US else timeout_us
  if timeout_us < 0 ∨ timeout_us > rcv_timeout_us then
    some ⟨rcv_timeout.secs.toNat, rcv_timeout.usecs.toNat⟩
  else used_timeout

/-- Whose loop it is, and the fields that decide about its timeout. -/
inductive Side where
  | server (state : StateByte) (mode : Mode) (idle_timeout : Int32)
  | client (state : StateByte) (mode : Mode)
  deriving DecidableEq, Repr

def Side.rcv_timeout_us : Side → Int
  | .server _ _ _ => rcv_timeout.secs.toNat * SEC_TO_US + rcv_timeout.usecs.toNat
  | .client _ mode =>
      if mode ≠ .SENDER then rcv_timeout.secs.toNat * SEC_TO_US + rcv_timeout.usecs.toNat else 0

/-- The side watches what it receives. -/
def Side.supervises (side : Side) : Bool :=
  match side with
  | .server state mode _ => state ≠ IPERF_START ∧ mode ≠ .SENDER
  | .client state _ => state = TEST_RUNNING ∧ 0 < side.rcv_timeout_us rcv_timeout

/-- What `select` is given, from what `tmr_timeout` returned. -/
def Side.select_timeout (timeout : Option timeval) (side : Side) : Option timeval :=
  match side with
  | .server state mode idle_timeout =>
      if state = IPERF_START then
        if timeout = none ∧ 0 < idle_timeout then some ⟨idle_timeout.toInt, 0⟩ else timeout
      else if mode ≠ .SENDER then supervised rcv_timeout timeout
      else timeout
  | .client state _ =>
      if state = TEST_RUNNING ∧ 0 < side.rcv_timeout_us rcv_timeout then
        supervised rcv_timeout timeout
      else timeout

variable {rcv_timeout} {side : Side}

theorem Side.select_supervised (watched : side.supervises rcv_timeout = true)
    (timeout : Option timeval) :
    side.select_timeout rcv_timeout timeout = supervised rcv_timeout timeout := by
  cases side with
  | server state mode idle_timeout =>
      simp only [Side.supervises, decide_eq_true_eq] at watched
      simp only [Side.select_timeout, watched, if_false, ne_eq, not_false_eq_true, if_true]
  | client state mode =>
      simp only [Side.supervises, decide_eq_true_eq] at watched
      simp only [Side.select_timeout]
      rw [if_pos watched]

/-- The client's 0 stands for a side that does not watch. -/
theorem Side.rcv_timeout_micros (watched : side.supervises rcv_timeout = true) :
    side.rcv_timeout_us rcv_timeout = micros rcv_timeout := by
  have total : (rcv_timeout.secs.toNat : Int) * SEC_TO_US + rcv_timeout.usecs.toNat =
      micros rcv_timeout := by
    unfold SEC_TO_US micros iperf_time_in_usecs
    push_cast
    rfl
  cases side with
  | server state mode idle_timeout => exact total
  | client state mode =>
      simp only [Side.supervises, decide_eq_true_eq] at watched
      have above := watched.2
      unfold Side.rcv_timeout_us at above ⊢
      dsimp only at above ⊢
      split
      · exact total
      · rename_i sending
        rw [if_neg sending] at above
        omega

end Timeouts

section Timers
variable {globals : Globals} {cells : Cells} {frees : List Ptr} {now : iperf_time}

/-- The time to a timer; none for one that is due. -/
def remaining (now time : iperf_time) : Int := max 0 (micros time - micros now)

/-- The two words of a number of microseconds. -/
def timeval_of (usecs : Int) : timeval := ⟨usecs / 1000000, usecs % 1000000⟩

theorem usecs_timeval (usecs : Int) : (timeval_of usecs).usecs = usecs := by
  unfold timeval.usecs timeval_of SEC_TO_US
  dsimp only
  omega

theorem time_diff_remaining {time : iperf_time} (normal : Proper time) (clock : Proper now) :
    (if (iperf_time_diff time now).2 then 0
      else (iperf_time_in_usecs (iperf_time_diff time now).1 : Int)) = remaining now time := by
  obtain ⟨equal, later, earlier, cases⟩ := compare_micros normal clock
  unfold iperf_time_diff remaining
  split
  · rename_i same
    have := equal same
    simp only [if_true]
    omega
  · split
    · rename_i after
      have ordered := later after
      have exactly := subtract_micros normal clock ordered
      unfold micros at exactly ordered
      simp only [Bool.false_eq_true, if_false]
      unfold micros
      omega
    · have ordered := earlier (by simp_all)
      simp only [if_true]
      omega

/-- `tmr_timeout` is the time to the first timer of the list. -/
theorem tmr_timeout_first (wf : Wf globals cells frees) (clock : Proper now)
    (normal : ∀ cell ∈ cells, Proper cell.2.time) :
    tmr_timeout globals now =
      some (cells.head?.map fun cell => timeval_of (remaining now cell.2.time)) := by
  obtain ⟨last, seg⟩ := wf.holds.linked
  cases cells with
  | nil =>
      have empty : globals.timers.head = none := seg.1
      simp [tmr_timeout, empty]
  | cons cell rest =>
      obtain ⟨starts, link, stored, _⟩ := seg
      have exactly := time_diff_remaining (normal cell List.mem_cons_self) clock
      simp only [tmr_timeout, starts, stored]
      rw [exactly]
      rfl

theorem tmr_timeout_due {timeout : Option timeval}
    (returned : tmr_timeout globals now = some timeout) :
    ∀ next, timeout = some next → 0 ≤ next.usecs := by
  have nonnegative : ∀ diff : iperf_time × Bool,
      (0 : Int) ≤ if diff.2 then 0 else (iperf_time_in_usecs diff.1 : Int) := by
    intro diff
    split
    · exact Int.le_refl _
    · exact Int.natCast_nonneg _
  unfold tmr_timeout at returned
  split at returned
  · cases returned
    exact nofun
  · split at returned
    · cases returned
    · rename_i node _
      intro next same
      subst same
      obtain rfl := Option.some.inj (Option.some.inj returned)
      exact (usecs_timeval _).symm ▸ nonnegative (iperf_time_diff node.value.time now)

theorem key_micros {earlier later : iperf_time} (normal : Proper earlier)
    (normal_later : Proper later) (ordered : key earlier ≤ key later) :
    micros earlier ≤ micros later := by
  unfold key at ordered
  unfold Proper at normal normal_later
  unfold micros iperf_time_in_usecs
  omega

theorem micros_key {earlier later : iperf_time} (normal : Proper earlier)
    (normal_later : Proper later) (ordered : micros earlier ≤ micros later) :
    key earlier ≤ key later := by
  unfold micros iperf_time_in_usecs at ordered
  unfold Proper at normal normal_later
  unfold key
  have low := earlier.usecs.toNat_lt
  omega

/-- No timer is due before that. -/
theorem tmr_timeout_next (wf : Wf globals cells frees) (clock : Proper now)
    (normal : ∀ cell ∈ cells, Proper cell.2.time) {timeout : Option timeval}
    (returned : tmr_timeout globals now = some timeout) :
    (timeout = none ↔ cells = []) ∧ ∀ next, timeout = some next →
      0 ≤ next.usecs ∧ ∀ cell ∈ cells, next.usecs ≤ remaining now cell.2.time := by
  rw [tmr_timeout_first wf clock normal, Option.some.injEq] at returned
  subst returned
  cases cells with
  | nil => simp
  | cons cell rest =>
      constructor
      · simp
      · rintro next ⟨⟩
        rw [usecs_timeval]
        constructor
        · exact Int.le_max_left _ _
        · intro other member
          have ordered : micros cell.2.time ≤ micros other.2.time := by
            rcases List.mem_cons.mp member with rfl | later
            · exact Int.le_refl _
            · apply key_micros (normal _ List.mem_cons_self) (normal _ member)
              exact (List.pairwise_cons.mp wf.sorted).1 other later
          unfold remaining
          omega

end Timers

section Bounds
variable {rcv_timeout : iperf_time}

/-- A select with a timeout that the cap would not change. -/
def Capped (rcv_timeout : iperf_time) (timeout : Option timeval) : Prop :=
  micros rcv_timeout < SEC_TO_US ∨ (timeout = none ∧ micros rcv_timeout ≤ SEC_TO_US) ∨
    ∃ next, timeout = some next ∧ next.usecs ≤ SEC_TO_US

theorem rcv_timeout_usecs (rcv_timeout : iperf_time) :
    timeval.usecs ⟨rcv_timeout.secs.toNat, rcv_timeout.usecs.toNat⟩ = micros rcv_timeout := by
  unfold timeval.usecs SEC_TO_US micros iperf_time_in_usecs
  push_cast
  rfl

theorem supervised_none (rcv_timeout : iperf_time) :
    ∃ used, supervised rcv_timeout none = some used ∧ used.usecs = micros rcv_timeout :=
  ⟨_, rfl, rcv_timeout_usecs rcv_timeout⟩

theorem supervised_some {next : timeval} (due : 0 ≤ next.usecs) :
    ∃ used, supervised rcv_timeout (some next) = some used ∧
      used.usecs = if micros rcv_timeout < min next.usecs SEC_TO_US then micros rcv_timeout
        else next.usecs := by
  have total := rcv_timeout_usecs rcv_timeout
  have second : SEC_TO_US = 1000000 := rfl
  unfold timeval.usecs at total
  dsimp only at total
  simp only [supervised, Option.map_some, Option.getD_some, total]
  by_cases waits : micros rcv_timeout < min next.usecs SEC_TO_US
  · rw [if_pos (by split <;> omega), if_pos waits]
    exact ⟨_, rfl, rcv_timeout_usecs rcv_timeout⟩
  · rw [if_neg (by split <;> omega), if_neg waits]
    exact ⟨_, rfl, rfl⟩

/-- The timeout is within the three bounds just where the cap would not change it. -/
theorem supervised_bound_iff {timeout : Option timeval}
    (due : ∀ next, timeout = some next → 0 ≤ next.usecs) :
    ∃ used, supervised rcv_timeout timeout = some used ∧
      (∀ next, timeout = some next → used.usecs ≤ next.usecs) ∧
      (used.usecs ≤ min (micros rcv_timeout) SEC_TO_US ↔ Capped rcv_timeout timeout) := by
  unfold Capped
  cases timeout with
  | none =>
      obtain ⟨used, gives, usecs⟩ := supervised_none rcv_timeout
      constructor
      constructor
      · exact gives
      · simp only [usecs, reduceCtorEq, false_and, exists_false, or_false, true_and]
        constructor
        · exact nofun
        · omega
  | some next =>
      have nonnegative := due next rfl
      obtain ⟨used, gives, usecs⟩ := @supervised_some rcv_timeout next nonnegative
      constructor
      constructor
      · exact gives
      · simp only [usecs, Option.some.injEq, reduceCtorEq, false_and, false_or, exists_eq_left']
        constructor
        · rintro _ rfl
          split <;> omega
        · split <;> omega

end Bounds

end Iperf.SelectTimeout
