import Iperf.Transition

/-!
The wait for the handshake in `iperf_quic_connect`. The callback sets two flags under
`ctx->lock` and wakes the waiter; the waiter looks at one of them only. A step is one block
under the lock, or one operation of the waiter on the lock or the condition variable.
-/

namespace Iperf.QuicHandshake

open Transition

section Code

structure timespec where
  tv_sec : Nat
  tv_nsec : Nat
  deriving DecidableEq, Repr

/-- `now` is what CLOCK_REALTIME shows, in nanoseconds. -/
def deadline (now : Nat) (connect_timeout : Int32) : timespec :=
  let timeout := connect_timeout.toInt.toNat
  let tv_sec := now / 1000000000 + timeout / 1000
  let tv_nsec := now % 1000000000 + timeout % 1000 * 1000000
  if tv_nsec ≥ 1000000000 then ⟨tv_sec + 1, tv_nsec - 1000000000⟩ else ⟨tv_sec, tv_nsec⟩

inductive Errno where
  | IECONNECT
  deriving DecidableEq, Repr

/-- Where the caller stands. `until_` is the deadline of the loop, where it has one. -/
inductive Phase where
  | entering
  | locked
  | looking (until_ : Option timespec)
  | waiting (until_ : Option timespec)
  | woken (until_ : Option timespec) (timed_out : Bool)
  | left
  | unlocked
  | opening
  | returned (r : Int32) (i_errno : Errno)
  deriving DecidableEq, Repr

structure State where
  ready : Bool
  done : Bool
  now : Nat
  phase : Phase
  deriving DecidableEq, Repr

/-- The phases in which the caller has `ctx->lock`. -/
def holds : Phase → Bool
  | .locked => true
  | .looking _ => true
  | .left => true
  | _ => false

/-- `pthread_cond_broadcast`. -/
def broadcast : Phase → Phase
  | .waiting until_ => .woken until_ false
  | phase => phase

/-- QUIC_CONNECTION_EVENT_CONNECTED. -/
def connected (state : State) : State :=
  { state with ready := true, phase := broadcast state.phase }

/-- QUIC_CONNECTION_EVENT_SHUTDOWN_COMPLETE. -/
def shutdown_complete (state : State) : State :=
  { state with ready := false, done := true, phase := broadcast state.phase }

/-- The condition of either loop. -/
def look (state : State) (until_ : Option timespec) : Phase :=
  if state.ready then .left else .waiting until_

/-- `if (!ctx->ready)`, and which of the two loops it leads to. -/
def first_look (connect_timeout : Int32) (state : State) : Phase :=
  if state.ready then .left
  else .looking (if connect_timeout > 0 then some (deadline state.now connect_timeout) else none)

/-- The test behind the loops, without the lock. -/
def decide_ready (state : State) : Phase :=
  if state.ready then .opening else .returned (-1) .IECONNECT

end Code

section Steps

inductive Event where
  | connected
  | shutdown_complete
  | tick
  | lock
  | first_look
  | look
  | wake
  | time_out
  | relock
  | unlock
  | decide_ready
  deriving DecidableEq, Repr

/-- Nothing is delivered behind SHUTDOWN_COMPLETE. A wait ends with ETIMEDOUT when the clock
has reached a valid deadline, and may end without a reason. -/
inductive Step (connect_timeout : Int32) : State → Event → State → Prop where
  | connected {state : State} (free : holds state.phase = false) (open_ : state.done = false) :
      Step connect_timeout state .connected (connected state)
  | shutdown_complete {state : State} (free : holds state.phase = false)
      (open_ : state.done = false) :
      Step connect_timeout state .shutdown_complete (shutdown_complete state)
  | tick {state : State} : Step connect_timeout state .tick { state with now := state.now + 1 }
  | lock {state : State} (at_ : state.phase = .entering) :
      Step connect_timeout state .lock { state with phase := .locked }
  | first_look {state : State} (at_ : state.phase = .locked) :
      Step connect_timeout state .first_look
        { state with phase := first_look connect_timeout state }
  | look {state : State} {until_ : Option timespec} (at_ : state.phase = .looking until_) :
      Step connect_timeout state .look { state with phase := look state until_ }
  | wake {state : State} {until_ : Option timespec} (at_ : state.phase = .waiting until_) :
      Step connect_timeout state .wake { state with phase := .woken until_ false }
  | time_out {state : State} {until_ : timespec} (at_ : state.phase = .waiting (some until_))
      (valid : until_.tv_nsec < 1000000000)
      (passed : until_.tv_sec * 1000000000 + until_.tv_nsec ≤ state.now) :
      Step connect_timeout state .time_out { state with phase := .woken (some until_) true }
  | relock {state : State} {until_ : Option timespec} {timed_out : Bool}
      (at_ : state.phase = .woken until_ timed_out) :
      Step connect_timeout state .relock
        { state with phase := if timed_out then .left else .looking until_ }
  | unlock {state : State} (at_ : state.phase = .left) :
      Step connect_timeout state .unlock { state with phase := .unlocked }
  | decide_ready {state : State} (at_ : state.phase = .unlocked) :
      Step connect_timeout state .decide_ready { state with phase := decide_ready state }

/-- A call starts with the connection as earlier events have left it. -/
structure Starts (state : State) : Prop where
  entering : state.phase = .entering
  down : state.done = true → state.ready = false

/-- The caller is in one of the two loops. -/
def InWait : Phase → Prop
  | .looking _ => True
  | .waiting _ => True
  | .woken _ _ => True
  | _ => False

/-- The steps of the caller and of the clock. -/
def Own (connect_timeout : Int32) (before : State) (event : Event) (after : State) : Prop :=
  Step connect_timeout before event after ∧ event ≠ .connected ∧ event ≠ .shutdown_complete

/-- The call is over, or goes on with a connection. -/
def Over : Phase → Prop
  | .opening => True
  | .returned _ _ => True
  | _ => False

/-- The caller can leave the loop and return the failure, and can end in no other way. -/
def Noticed (connect_timeout : Int32) (state : State) : Prop :=
  (∃ past after, Run (Own connect_timeout) state past after ∧
      after.phase = .returned (-1) .IECONNECT) ∧
    ∀ past after, Run (Own connect_timeout) state past after → Over after.phase →
      after.phase = .returned (-1) .IECONNECT

end Steps

section Reached
variable {connect_timeout : Int32}

/-- A deadline is there exactly when there is a time limit, and is a valid time. -/
def Suits (connect_timeout : Int32) : Option timespec → Prop
  | some until_ => connect_timeout > 0 ∧ until_.tv_nsec < 1000000000
  | none => ¬ connect_timeout > 0

/-- The loop that the caller is in is the one for its time limit. -/
def Placed (connect_timeout : Int32) : Phase → Prop
  | .looking until_ => Suits connect_timeout until_
  | .waiting until_ => Suits connect_timeout until_
  | .woken until_ timed_out =>
      Suits connect_timeout until_ ∧ (timed_out = true → connect_timeout > 0)
  | _ => True

structure Inv (connect_timeout : Int32) (state : State) : Prop where
  down : state.done = true → state.ready = false
  placed : Placed connect_timeout state.phase

/-- The carry keeps the nanoseconds below a second. -/
theorem deadline_valid (now : Nat) (connect_timeout : Int32) :
    (deadline now connect_timeout).tv_nsec < 1000000000 := by
  have least := Nat.mod_lt now (by decide : 0 < 1000000000)
  have rest := Nat.mod_lt connect_timeout.toInt.toNat (by decide : 0 < 1000)
  simp only [deadline]
  split
  · dsimp only
    omega
  · dsimp only
    omega

theorem placed_broadcast {phase : Phase} (placed : Placed connect_timeout phase) :
    Placed connect_timeout (broadcast phase) := by
  cases phase with
  | waiting until_ => exact ⟨placed, by rintro ⟨⟩⟩
  | _ => exact placed

theorem first_look_placed (state : State) :
    Placed connect_timeout (first_look connect_timeout state) := by
  simp only [first_look]
  split
  · trivial
  · split
    · rename_i limited
      exact ⟨limited, deadline_valid state.now connect_timeout⟩
    · rename_i unlimited
      exact unlimited

theorem step_inv {before after : State} {event : Event} (inv : Inv connect_timeout before)
    (step : Step connect_timeout before event after) : Inv connect_timeout after := by
  have placed := inv.placed
  cases step with
  | connected free open_ =>
      constructor
      · intro done
        rw [show (connected before).done = before.done from rfl, open_] at done
        cases done
      · exact placed_broadcast placed
  | shutdown_complete free open_ => exact ⟨fun _ => rfl, placed_broadcast placed⟩
  | tick => exact ⟨inv.down, placed⟩
  | lock at_ => exact ⟨inv.down, trivial⟩
  | first_look at_ => exact ⟨inv.down, first_look_placed before⟩
  | look at_ =>
      rw [at_] at placed
      constructor
      · exact inv.down
      · simp only [look]
        split
        · trivial
        · exact placed
  | wake at_ =>
      rw [at_] at placed
      exact ⟨inv.down, placed, by rintro ⟨⟩⟩
  | time_out at_ valid passed =>
      rw [at_] at placed
      exact ⟨inv.down, placed, fun _ => placed.1⟩
  | @relock until_ timed_out at_ =>
      rw [at_] at placed
      constructor
      · exact inv.down
      · cases timed_out with
        | true => trivial
        | false => exact placed.1
  | unlock at_ => exact ⟨inv.down, trivial⟩
  | decide_ready at_ =>
      constructor
      · exact inv.down
      · simp only [decide_ready]
        split
        · trivial
        · trivial

theorem run_inv {start state : State} {past : List Event} (starts : Starts start)
    (run : Run (Step connect_timeout) start past state) : Inv connect_timeout state := by
  apply run.invariant fun _ state => Inv connect_timeout state
  · constructor
    · exact starts.down
    · rw [starts.entering]
      trivial
  · intro _ _ _ _ inv step
    exact step_inv inv step

end Reached

section Leaving
variable {connect_timeout : Int32} {state : State}

/-- The caller can get to returning the failure. -/
def Fails (connect_timeout : Int32) (state : State) : Prop :=
  ∃ past after, Run (Own connect_timeout) state past after ∧
    after.phase = .returned (-1) .IECONNECT

theorem fails_step (event : Event) {after : State} (own : Own connect_timeout state event after)
    (fails : Fails connect_timeout after) : Fails connect_timeout state := by
  rcases fails with ⟨past, final, run, returned⟩
  exact ⟨_, final, (Run.next event .start own).trans run, returned⟩

theorem fails_later (time : Nat)
    (fails : Fails connect_timeout { state with now := state.now + time }) :
    Fails connect_timeout state := by
  induction time generalizing state with
  | zero => exact fails
  | succ time ih =>
      apply fails_step .tick ⟨.tick, by decide, by decide⟩
      apply ih
      rw [show state.now + (time + 1) = state.now + 1 + time by omega] at fails
      exact fails

/-- Behind the loops nothing is in the way of the failure. -/
theorem fails_left (down : state.ready = false) (at_ : state.phase = .left) :
    Fails connect_timeout state := by
  apply fails_step .unlock ⟨.unlock at_, by decide, by decide⟩
  apply fails_step .decide_ready ⟨.decide_ready rfl, by decide, by decide⟩
  have failure : decide_ready { state with phase := .unlocked } = .returned (-1) .IECONNECT := by
    simp [decide_ready, down]
  exact ⟨[], _, .start, failure⟩

theorem fails_over (down : state.ready = false) {until_ : timespec}
    (at_ : state.phase = .waiting (some until_)) (valid : until_.tv_nsec < 1000000000)
    (passed : until_.tv_sec * 1000000000 + until_.tv_nsec ≤ state.now) :
    Fails connect_timeout state := by
  apply fails_step .time_out ⟨.time_out at_ valid passed, by decide, by decide⟩
  apply fails_step .relock ⟨.relock rfl, by decide, by decide⟩
  exact fails_left down rfl

/-- A deadline is reached in time. -/
theorem fails_waiting (down : state.ready = false) {until_ : timespec}
    (at_ : state.phase = .waiting (some until_)) (valid : until_.tv_nsec < 1000000000) :
    Fails connect_timeout state := by
  apply fails_later (until_.tv_sec * 1000000000 + until_.tv_nsec)
  exact fails_over down at_ valid (Nat.le_add_left _ _)

theorem fails_looking (down : state.ready = false) {until_ : timespec}
    (at_ : state.phase = .looking (some until_)) (valid : until_.tv_nsec < 1000000000) :
    Fails connect_timeout state := by
  apply fails_step .look ⟨.look at_, by decide, by decide⟩
  have waits : look state (some until_) = .waiting (some until_) := by simp [look, down]
  exact fails_waiting down waits valid

/-- With a time limit the failure is reached from anywhere in the loop. -/
theorem fails_limited (limited : connect_timeout > 0) (down : state.ready = false)
    (placed : Placed connect_timeout state.phase) (waits : InWait state.phase) :
    Fails connect_timeout state := by
  cases at_ : state.phase with
  | looking until_ =>
      rw [at_] at placed
      cases until_ with
      | none => exact absurd limited placed
      | some until_ => exact fails_looking down at_ placed.2
  | waiting until_ =>
      rw [at_] at placed
      cases until_ with
      | none => exact absurd limited placed
      | some until_ => exact fails_waiting down at_ placed.2
  | woken until_ timed_out =>
      rw [at_] at placed
      apply fails_step .relock ⟨.relock at_, by decide, by decide⟩
      cases timed_out with
      | true => exact fails_left down rfl
      | false =>
          cases until_ with
          | none => exact absurd limited placed.1
          | some until_ => exact fails_looking down rfl placed.1.2
  | entering => rw [at_] at waits; cases waits
  | locked => rw [at_] at waits; cases waits
  | left => rw [at_] at waits; cases waits
  | unlocked => rw [at_] at waits; cases waits
  | opening => rw [at_] at waits; cases waits
  | returned r i_errno => rw [at_] at waits; cases waits

end Leaving

section Staying
variable {connect_timeout : Int32} {before after : State} {event : Event}

/-- The way from the loop to the failure. -/
def Doomed : Phase → Prop
  | .left => True
  | .unlocked => True
  | .returned r i_errno => r = -1 ∧ i_errno = .IECONNECT
  | .looking _ => True
  | .waiting _ => True
  | .woken _ _ => True
  | _ => False

/-- The loop without a deadline. -/
def Unlimited : Phase → Prop
  | .looking until_ => until_ = none
  | .waiting until_ => until_ = none
  | .woken until_ timed_out => until_ = none ∧ timed_out = false
  | _ => False

theorem own_doomed (own : Own connect_timeout before event after)
    (inv : before.ready = false ∧ Doomed before.phase) :
    after.ready = false ∧ Doomed after.phase := by
  rcases inv with ⟨down, doomed⟩
  rcases own with ⟨step, not_connected, not_shut⟩
  cases step with
  | connected => exact absurd rfl not_connected
  | shutdown_complete => exact absurd rfl not_shut
  | tick => exact ⟨down, doomed⟩
  | lock at_ => rw [at_] at doomed; cases doomed
  | first_look at_ => rw [at_] at doomed; cases doomed
  | @look until_ at_ =>
      have waits : look before until_ = .waiting until_ := by simp [look, down]
      rw [waits]
      exact ⟨down, trivial⟩
  | wake at_ => exact ⟨down, trivial⟩
  | time_out at_ valid passed => exact ⟨down, trivial⟩
  | @relock until_ timed_out at_ =>
      cases timed_out with
      | true => exact ⟨down, trivial⟩
      | false => exact ⟨down, trivial⟩
  | unlock at_ => exact ⟨down, trivial⟩
  | decide_ready at_ =>
      have failure : decide_ready before = .returned (-1) .IECONNECT := by
        simp [decide_ready, down]
      rw [failure]
      exact ⟨down, rfl, rfl⟩

/-- Without a deadline only `ready` ends the loop: the waiter goes round in it. -/
theorem own_unlimited (own : Own connect_timeout before event after)
    (inv : before.ready = false ∧ Unlimited before.phase) :
    after.ready = false ∧ Unlimited after.phase := by
  rcases inv with ⟨down, unlimited⟩
  rcases own with ⟨step, not_connected, not_shut⟩
  cases step with
  | connected => exact absurd rfl not_connected
  | shutdown_complete => exact absurd rfl not_shut
  | tick => exact ⟨down, unlimited⟩
  | lock at_ => rw [at_] at unlimited; cases unlimited
  | first_look at_ => rw [at_] at unlimited; cases unlimited
  | @look until_ at_ =>
      rw [at_] at unlimited
      have waits : look before until_ = .waiting until_ := by simp [look, down]
      rw [waits]
      exact ⟨down, unlimited⟩
  | wake at_ =>
      rw [at_] at unlimited
      exact ⟨down, unlimited, rfl⟩
  | time_out at_ valid passed =>
      rw [at_] at unlimited
      cases unlimited
  | @relock until_ timed_out at_ =>
      rw [at_] at unlimited
      rcases unlimited with ⟨none_, not_timed⟩
      rw [not_timed]
      exact ⟨down, none_⟩
  | unlock at_ => rw [at_] at unlimited; cases unlimited
  | decide_ready at_ => rw [at_] at unlimited; cases unlimited

theorem doomed_over {phase : Phase} (doomed : Doomed phase) (ended : Over phase) :
    phase = .returned (-1) .IECONNECT := by
  cases phase with
  | returned r i_errno =>
      rcases doomed with ⟨rfl, rfl⟩
      rfl
  | opening => cases doomed
  | _ => cases ended

theorem doomed_of_waits {phase : Phase} (waits : InWait phase) : Doomed phase := by
  cases phase with
  | looking until_ => trivial
  | waiting until_ => trivial
  | woken until_ timed_out => trivial
  | _ => cases waits

theorem unlimited_of_placed (endless : ¬ connect_timeout > 0) {phase : Phase}
    (placed : Placed connect_timeout phase) (waits : InWait phase) : Unlimited phase := by
  have no_deadline : ∀ until_, Suits connect_timeout until_ → until_ = none := by
    intro until_ suits
    cases until_ with
    | none => rfl
    | some until_ => exact absurd suits.1 endless
  cases phase with
  | looking until_ => exact no_deadline until_ placed
  | waiting until_ => exact no_deadline until_ placed
  | woken until_ timed_out =>
      constructor
      · exact no_deadline until_ placed.1
      · cases timed_out with
        | false => rfl
        | true => exact absurd (placed.2 rfl) endless
  | _ => cases waits

end Staying

section Results
variable {connect_timeout : Int32} {start state : State} {past : List Event}

theorem noticed_of_limited (limited : connect_timeout > 0) (inv : Inv connect_timeout state)
    (done : state.done = true) (waits : InWait state.phase) : Noticed connect_timeout state := by
  have down := inv.down done
  constructor
  · exact fails_limited limited down inv.placed waits
  · intro _ after own_run ended
    have stays := own_run.invariant (fun _ state => state.ready = false ∧ Doomed state.phase)
      ⟨down, doomed_of_waits waits⟩ fun _ _ _ _ kept own => own_doomed own kept
    exact doomed_over stays.2 ended

theorem unnoticed_of_endless (endless : ¬ connect_timeout > 0) (inv : Inv connect_timeout state)
    (done : state.done = true) (waits : InWait state.phase) : ¬ Noticed connect_timeout state := by
  intro noticed
  rcases noticed.1 with ⟨_, after, own_run, returned⟩
  have stays := own_run.invariant (fun _ state => state.ready = false ∧ Unlimited state.phase)
    ⟨inv.down done, unlimited_of_placed endless inv.placed waits⟩
    fun _ _ _ _ kept own => own_unlimited own kept
  have unlimited := stays.2
  rw [returned] at unlimited
  cases unlimited

/-- In every run, a caller in the wait behind SHUTDOWN_COMPLETE comes to the failure exactly
when there is a time limit. -/
theorem failed_handshake_noticed_iff (starts : Starts start)
    (run : Run (Step connect_timeout) start past state) (done : state.done = true)
    (waits : InWait state.phase) : Noticed connect_timeout state ↔ connect_timeout > 0 := by
  have inv := run_inv starts run
  constructor
  · intro noticed
    apply Decidable.byContradiction
    intro endless
    exact unnoticed_of_endless endless inv done waits noticed
  · intro limited
    exact noticed_of_limited limited inv done waits

/-- The handshake has not begun to come up. -/
def fresh : State := ⟨false, false, 0, .entering⟩

/-- The connection goes down while the caller waits. -/
def shut (connect_timeout : Int32) : State :=
  ⟨false, true, 0, .woken (if connect_timeout > 0 then some (deadline 0 connect_timeout) else none)
    false⟩

theorem fresh_starts : Starts fresh := ⟨rfl, by rintro ⟨⟩⟩

theorem shut_run (connect_timeout : Int32) : Run (Step connect_timeout) fresh
    [.lock, .first_look, .look, .shutdown_complete] (shut connect_timeout) := by
  have begun : Run (Step connect_timeout) fresh [] fresh := .start
  have locked := Run.next Event.lock begun (.lock rfl)
  have looked := Run.next Event.first_look locked (.first_look rfl)
  have waits := Run.next Event.look looked (.look rfl)
  have shut := Run.next Event.shutdown_complete waits (.shutdown_complete rfl rfl)
  exact shut

theorem failed_handshake_noticed_second : Noticed 1000 (shut 1000) :=
  (failed_handshake_noticed_iff fresh_starts (shut_run 1000) rfl trivial).mpr (by decide)

/-- The default, `connect_timeout` -1: the caller waits for ever. -/
theorem failed_handshake_unnoticed : ∃ past state, Run (Step (-1)) fresh past state ∧
    state.done = true ∧ InWait state.phase ∧ ¬ Noticed (-1) state :=
  ⟨_, shut (-1), shut_run (-1), rfl, trivial, unnoticed_of_endless (by decide)
    (run_inv fresh_starts (shut_run (-1))) rfl trivial⟩

end Results

end Iperf.QuicHandshake
