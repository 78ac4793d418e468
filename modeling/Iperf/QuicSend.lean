import Mathlib.Algebra.GroupWithZero.Nat
import Iperf.Transition
import Iperf.QuicStream

/-!
What the send throttle of a QUIC stream counts. Slots are compared with the
sends MsQuic still holds, bytes with the accepted lengths, and the cancel state
at each return with the one at entry. The two failures between taking the slot
and handing it to MsQuic are the only steps that break the account.
-/

namespace Iperf.QuicSend

open QuicStream Transition

/-- A call that fails after it took a slot. -/
def failed : Event → Bool
  | .sendNoMemory | .sendRejected => true
  | _ => false

def failures (past : List Event) : Nat := past.countP failed

def acceptedLen : Event → Nat
  | .sendAccepted len => len
  | _ => 0

def acceptedBytes (past : List Event) : Nat := (past.map acceptedLen).sum

/-- The slot a call holds before MsQuic has the send. -/
def heldSlot : SendPhase → Nat
  | .slotted _ _ => 1
  | _ => 0

/-- Bytes accepted by MsQuic that the call has not counted yet. -/
def uncounted : SendPhase → Nat
  | .accepted _ len => len
  | _ => 0

/-- The account over every step: each failed call leaks its slot for good. -/
structure Ledger (past : List Event) (system : System) : Prop where
  slots : system.sc.pending_sends =
    system.inFlight + heldSlot system.phase + failures past
  bound : system.sc.pending_sends ≤ QUIC_MAX_PENDING_SENDS
  bytes : system.sp.bytes_sent + uncounted system.phase = acceptedBytes past
  restored : failures past = 0 → ∀ call ∈ system.returns, call.2 = call.1

theorem failures_append (past : List Event) (event : Event) :
    failures (past ++ [event]) = failures past + (failed event).toNat := by
  cases outcome : failed event <;> simp [failures, List.countP_append, outcome]

theorem acceptedBytes_append (past : List Event) (event : Event) :
    acceptedBytes (past ++ [event]) = acceptedBytes past + acceptedLen event := by
  simp [acceptedBytes]

theorem fresh_ledger (blksize : Nat) (test_state : TestState.StateByte) :
    Ledger [] (fresh blksize test_state) :=
  ⟨rfl, Nat.zero_le _, rfl, by simp [fresh]⟩

/-- The calls that returned in a step all restored what they saved. -/
def Returned (before after : System) : Prop :=
  after.returns = before.returns ∨
    ∃ old_cancel, after.returns = before.returns ++ [(old_cancel, old_cancel)]

/-- The balance one step has to keep: slots against held sends and failures,
bytes against accepted lengths, and a restored cancel state unless it fails. -/
theorem Ledger.move {past : List Event} {before after : System} (ledger : Ledger past before)
    (event : Event)
    (slots : after.sc.pending_sends + before.inFlight + heldSlot before.phase =
      before.sc.pending_sends + after.inFlight + heldSlot after.phase + (failed event).toNat)
    (bound : after.sc.pending_sends ≤ QUIC_MAX_PENDING_SENDS)
    (bytes : after.sp.bytes_sent + uncounted after.phase =
      before.sp.bytes_sent + uncounted before.phase + acceptedLen event)
    (returns : failed event = false → Returned before after) :
    Ledger (past ++ [event]) after := by
  have grown := failures_append past event
  have account := ledger.slots
  constructor
  · omega
  · exact bound
  · rw [bytes, acceptedBytes_append, ledger.bytes]
  · intro none
    -- No failure in the longer history: none before, and this event is not one.
    have succeeds : failed event = false := by
      cases outcome : failed event
      · rfl
      · rw [outcome] at grown
        simp only [Bool.toNat_true] at grown
        omega
    have restored := ledger.restored (by omega)
    rcases returns succeeds with same | ⟨old_cancel, added⟩
    · rw [same]
      exact restored
    · intro call member
      rw [added] at member
      rcases List.mem_append.mp member with earlier | last
      · exact restored call earlier
      · rw [List.mem_singleton.mp last]

/-- Steps outside the send path leave the account alone. -/
theorem Ledger.frame {past : List Event} {before after : System} (ledger : Ledger past before)
    (event : Event) (succeeds : failed event = false) (accepts : acceptedLen event = 0)
    (slots : after.sc.pending_sends = before.sc.pending_sends)
    (flight : after.inFlight = before.inFlight) (phase : after.phase = before.phase)
    (bytes : after.sp.bytes_sent = before.sp.bytes_sent)
    (returns : after.returns = before.returns) : Ledger (past ++ [event]) after := by
  refine ledger.move event ?_ ?_ ?_ fun _ => Or.inl returns
  · rw [slots, flight, phase, succeeds]
    rfl
  · rw [slots]
    exact ledger.bound
  · rw [bytes, phase, accepts, Nat.add_zero]

theorem recv_ledger {past : List Event} {before after : System} (ledger : Ledger past before)
    {fuel blksize : Nat} {bytes : List UInt8}
    (returned : iperf_quic_recv fuel blksize before = some (bytes, after)) :
    Ledger (past ++ [.recv blksize bytes]) after := by
  simp only [iperf_quic_recv] at returned
  split at returned
  · simp only [Option.some.injEq, Prod.mk.injEq] at returned
    obtain ⟨_, rfl⟩ := returned
    exact ledger.frame _ rfl rfl rfl rfl rfl rfl rfl
  · simp only [Option.map_eq_some_iff, Prod.mk.injEq] at returned
    obtain ⟨_, _, _, rfl⟩ := returned
    exact ledger.frame _ rfl rfl rfl rfl rfl rfl rfl

theorem receive_ledger {past : List Event} {before : System} (ledger : Ledger past before)
    {sc : iperf_quic_stream_ctx} {chunk : LinkedQueue.Ptr} {buffer : List UInt8}
    (linked : receiveBuffer before.sc chunk buffer = some sc) :
    Ledger (past ++ [.receive chunk buffer]) { before with sc := sc } := by
  simp only [receiveBuffer, Option.map_eq_some_iff] at linked
  obtain ⟨_, _, rfl⟩ := linked
  exact ledger.frame _ rfl rfl rfl rfl rfl rfl rfl

/-- A completion gives back the slot of a send that MsQuic held, so the guard
on `pending_sends` never drops one. -/
theorem complete_ledger {past : List Event} {before : System} (ledger : Ledger past before)
    (accepted : 0 < before.inFlight) :
    Ledger (past ++ [.sendComplete])
      { before with sc := sendComplete before.sc, inFlight := before.inFlight - 1 } := by
  have slots := ledger.slots
  have bound := ledger.bound
  refine ledger.move _ ?_ ?_ rfl fun _ => Or.inl rfl
  · simp only [sendComplete, failed, Bool.toNat_false]
    omega
  · simp only [sendComplete]
    omega

theorem enter_ledger {past : List Event} {before : System} (ledger : Ledger past before)
    (idle : before.phase = .idle) : Ledger (past ++ [.sendEnter]) (sendEnter before) := by
  refine ledger.move _ ?_ ledger.bound ?_ fun _ => Or.inl rfl
  · simp [sendEnter, idle, heldSlot, failed]
  · simp [sendEnter, idle, uncounted, acceptedLen]

theorem stopped_ledger {past : List Event} {before : System} (ledger : Ledger past before)
    {old_cancel : Bool} (waits : before.phase = .throttle old_cancel) :
    Ledger (past ++ [.sendStopped]) (leave before old_cancel true) := by
  refine ledger.move _ ?_ ledger.bound ?_ fun _ => Or.inr ⟨old_cancel, rfl⟩
  · simp [leave, waits, heldSlot, failed]
  · simp [leave, waits, uncounted, acceptedLen]

theorem slot_ledger {past : List Event} {before : System} (ledger : Ledger past before)
    {old_cancel : Bool} (waits : before.phase = .throttle old_cancel)
    (room : before.sc.pending_sends < QUIC_MAX_PENDING_SENDS) :
    Ledger (past ++ [.sendSlot]) (sendSlot before old_cancel) := by
  refine ledger.move _ ?_ room ?_ fun _ => Or.inl rfl
  · simp only [sendSlot, waits, heldSlot, failed, Bool.toNat_false]
    omega
  · simp [sendSlot, waits, uncounted, acceptedLen]

/-- A call that has its slot but no send: the slot moves to the failures. -/
theorem failed_ledger {past : List Event} {before : System} (ledger : Ledger past before)
    (event : Event) (fails : failed event = true) (accepts : acceptedLen event = 0)
    {old_cancel : Bool} {len : Nat} (slotted : before.phase = .slotted old_cancel len) :
    Ledger (past ++ [event]) (sendFailed before old_cancel) := by
  refine ledger.move _ ?_ ledger.bound ?_ fun succeeds => ?_
  · simp [sendFailed, leave, slotted, heldSlot, fails]
  · simp [sendFailed, leave, slotted, uncounted, accepts]
  · rw [fails] at succeeds
    cases succeeds

theorem accepted_ledger {past : List Event} {before : System} (ledger : Ledger past before)
    {old_cancel : Bool} {len : Nat} (slotted : before.phase = .slotted old_cancel len) :
    Ledger (past ++ [.sendAccepted len]) (sendAccepted before old_cancel len) := by
  refine ledger.move _ ?_ ledger.bound ?_ fun _ => Or.inl rfl
  · simp only [sendAccepted, slotted, heldSlot, failed, Bool.toNat_false]
    omega
  · simp [sendAccepted, slotted, uncounted, acceptedLen]

theorem return_ledger {past : List Event} {before : System} (ledger : Ledger past before)
    {old_cancel : Bool} {len : Nat} (accepted : before.phase = .accepted old_cancel len) :
    Ledger (past ++ [.sendReturn]) (sendReturn before old_cancel len) := by
  refine ledger.move _ ?_ ledger.bound ?_ fun _ => Or.inr ⟨old_cancel, rfl⟩
  · simp [sendReturn, leave, accepted, heldSlot, failed]
  · simp [sendReturn, leave, accepted, uncounted, acceptedLen]

theorem step_ledger (past : List Event) (before : System) (event : Event) (after : System)
    (ledger : Ledger past before) (step : Step before event after) :
    Ledger (past ++ [event]) after := by
  cases step with
  | receive chunk buffer unused linked => exact receive_ledger ledger linked
  | sendComplete accepted => exact complete_ledger ledger accepted
  | recv fuel blksize idle ready returned => exact recv_ledger ledger returned
  | sendEnter idle => exact enter_ledger ledger idle
  | sendStopped waits stops => exact stopped_ledger ledger waits
  | sendSlot waits room runs => exact slot_ledger ledger waits room
  | sendNoMemory slotted => exact failed_ledger ledger _ rfl rfl slotted
  | sendRejected slotted => exact failed_ledger ledger _ rfl rfl slotted
  | sendAccepted slotted => exact accepted_ledger ledger slotted
  | sendReturn accepted => exact return_ledger ledger accepted
  | _ => exact ledger.frame _ rfl rfl rfl rfl rfl rfl rfl

/-- What the throttle promises whenever no call is in progress. -/
def SendAccounted (past : List Event) (system : System) : Prop :=
  system.sc.pending_sends = system.inFlight ∧
    system.sc.pending_sends ≤ QUIC_MAX_PENDING_SENDS ∧
    system.sp.bytes_sent = acceptedBytes past ∧
    ∀ call ∈ system.returns, call.2 = call.1

/-- Between calls the account is right exactly as long as no call failed after
taking its slot: such a call keeps the slot and leaves cancellation disabled. -/
theorem send_accounting_iff (blksize : Nat) (test_state : TestState.StateByte)
    (past : List Event) (system : System)
    (run : Run Step (fresh blksize test_state) past system) (idle : system.phase = .idle) :
    SendAccounted past system ↔
      ∀ event ∈ past, event ≠ .sendNoMemory ∧ event ≠ .sendRejected := by
  obtain ⟨slots, bound, bytes, restored⟩ :=
    run.invariant Ledger (fresh_ledger blksize test_state) step_ledger
  rw [idle] at slots bytes
  simp only [heldSlot, uncounted, Nat.add_zero] at slots bytes
  have noFailure : failures past = 0 ↔
      ∀ event ∈ past, event ≠ .sendNoMemory ∧ event ≠ .sendRejected := by
    rw [failures, List.countP_eq_zero]
    refine forall₂_congr fun event _ => ?_
    cases event <;> simp [failed]
  rw [← noFailure]
  constructor
  · -- The leaked slots stand in the equation, so equality leaves room for none.
    intro accounted
    have exact := accounted.1
    omega
  · intro none
    exact ⟨by omega, bound, bytes, restored none⟩

/-- An accepted send of one block, completed before the next call. -/
theorem send_accounting_sample :
    ∃ system, Run Step (fresh 16 TestState.TEST_RUNNING)
        [.sendEnter, .sendSlot, .sendAccepted 16, .sendReturn, .sendComplete] system ∧
      SendAccounted [.sendEnter, .sendSlot, .sendAccepted 16, .sendReturn, .sendComplete]
        system := by
  have entered := Run.next _ (Run.start : Run Step
    (fresh 16 TestState.TEST_RUNNING) [] _) (Step.sendEnter rfl)
  have slotted := Run.next _ entered (Step.sendSlot rfl (by decide) rfl)
  have accepted := Run.next _ slotted (Step.sendAccepted rfl)
  have returned := Run.next _ accepted (Step.sendReturn rfl)
  have completed := Run.next _ returned (Step.sendComplete (by decide))
  exact ⟨_, completed, (send_accounting_iff 16 TestState.TEST_RUNNING _ _ completed rfl).mpr
    (by decide)⟩

/-- A single failed allocation: the slot stays taken with nothing in flight, and
the thread is left with cancellation disabled. -/
theorem send_accounting_counterexample :
    ¬ ∀ (blksize : Nat) (test_state : TestState.StateByte) (past : List Event)
      (system : System), Run Step (fresh blksize test_state) past system →
      system.phase = .idle → SendAccounted past system := by
  intro claim
  have entered := Run.next _ (Run.start : Run Step
    (fresh 16 TestState.TEST_RUNNING) [] _) (Step.sendEnter rfl)
  have slotted := Run.next _ entered (Step.sendSlot rfl (by decide) rfl)
  have refused := Run.next _ slotted (Step.sendNoMemory rfl)
  have leaked := (claim 16 TestState.TEST_RUNNING _ _ refused rfl).1
  exact absurd leaked (by decide)

end Iperf.QuicSend
