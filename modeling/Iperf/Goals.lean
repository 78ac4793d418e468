import Iperf.MachineWords
import Iperf.Transition
import Iperf.UdpOmit

/-!
Tests that end after so many bytes or blocks. The client compares four counters of the
test with the goal. The reset at the end of the omit period clears the two that count
what was sent.
-/

namespace Iperf.Goals

open Time UdpOmit Transition

section Client

structure Settings where
  bytes : UInt64
  blocks : UInt64
  deriving DecidableEq, Repr

/-- `omit_timer` says whether the pointer is set. -/
structure Client extends Stats where
  bytes_received : UInt64
  blocks_received : UInt64
  omitting : Bool
  omit_timer : Bool
  done : Bool
  deriving DecidableEq, Repr

/-- One message of `iperf_send_mt`, with what `snd` returned. -/
def send (test : Client) (r pending_size : Int32) : Client :=
  if r < 0 then test
  else
    { test with
      bytes_sent := test.bytes_sent + r.toInt64.toUInt64
      blocks_sent := if pending_size = 0 then test.blocks_sent + 1 else test.blocks_sent }

def iperf_recv_mt (test : Client) (r : Int32) : Client :=
  if r < 0 then test
  else if r > 0 then
    { test with
      bytes_received := test.bytes_received + r.toInt64.toUInt64
      blocks_received := test.blocks_received + 1 }
  else test

def client_omit_timer_proc (now : iperf_time) (total_retransmits : OmitStream → Int64)
    (test : Client) : Client :=
  { test with
    omit_timer := false
    omitting := false
    toStats := iperf_reset_stats now total_retransmits test.toStats }

def bytes_goal (settings : Settings) (test : Client) : Bool :=
  settings.bytes ≠ 0 ∧ (test.bytes_sent ≥ settings.bytes ∨ test.bytes_received ≥ settings.bytes)

def blocks_goal (settings : Settings) (test : Client) : Bool :=
  settings.blocks ≠ 0 ∧
    (test.blocks_sent ≥ settings.blocks ∨ test.blocks_received ≥ settings.blocks)

/-- The condition under which `iperf_run_client` sends `TEST_END`. -/
def test_ends (settings : Settings) (test : Client) : Bool :=
  ¬ test.omitting ∧ (test.done ∨ bytes_goal settings test ∨ blocks_goal settings test)

end Client

section Run

inductive Event where
  | send (r pending_size : Int32)
  | receive (r : Int32)
  | omit_end
  | time_up
  deriving DecidableEq, Repr

/-- A worker's message changes the streams' own counters as it likes. -/
inductive Step : Client → Event → Client → Prop where
  | send (test : Client) (r pending_size : Int32) (streams : List OmitStream) :
      Step test (.send r pending_size) { send test r pending_size with streams := streams }
  | receive (test : Client) (r : Int32) (streams : List OmitStream) :
      Step test (.receive r) { iperf_recv_mt test r with streams := streams }
  | omit_end (test : Client) (now : iperf_time) (total_retransmits : OmitStream → Int64)
      (pending : test.omit_timer = true) :
      Step test .omit_end (client_omit_timer_proc now total_retransmits test)
  | time_up (test : Client) : Step test .time_up { test with done := true }

/-- The state in which the workers are started. -/
structure Starts (omit_seconds : Nat) (test : Client) : Prop where
  bytes_sent : test.bytes_sent = 0
  blocks_sent : test.blocks_sent = 0
  bytes_received : test.bytes_received = 0
  blocks_received : test.blocks_received = 0
  omitting : test.omitting = decide (omit_seconds ≠ 0)
  omit_timer : test.omit_timer = decide (omit_seconds ≠ 0)
  done : test.done = false

end Run

section Measured

/-- What was transferred in the two directions. -/
structure Totals where
  bytes_sent : Nat
  blocks_sent : Nat
  bytes_received : Nat
  blocks_received : Nat
  deriving DecidableEq, Repr

def none_yet : Totals := ⟨0, 0, 0, 0⟩

def count (totals : Totals) : Event → Totals
  | .send r pending_size =>
      if r < 0 then totals
      else
        { totals with
          bytes_sent := totals.bytes_sent + r.toInt.toNat
          blocks_sent := totals.blocks_sent + if pending_size = 0 then 1 else 0 }
  | .receive r =>
      if r > 0 then
        { totals with
          bytes_received := totals.bytes_received + r.toInt.toNat
          blocks_received := totals.blocks_received + 1 }
      else totals
  | .omit_end => none_yet
  | .time_up => totals

/-- Since the end of the omit period, or since the start where there is none. -/
def measured (past : List Event) : Totals := past.foldl count none_yet

theorem measured_append (past : List Event) (event : Event) :
    measured (past ++ [event]) = count (measured past) event := by
  simp [measured]

/-- Nothing that counts towards a goal was received before the omit period ends. -/
def Clean (settings : Settings) (test : Client) (event : Event) : Prop :=
  event = .omit_end →
    (settings.bytes = 0 ∨ test.bytes_received = 0) ∧
      (settings.blocks = 0 ∨ test.blocks_received = 0)

/-- No counter is ahead of what was measured. -/
structure Behind (settings : Settings) (test : Client) (totals : Totals) : Prop where
  bytes_sent : test.bytes_sent.toNat ≤ totals.bytes_sent
  blocks_sent : test.blocks_sent.toNat ≤ totals.blocks_sent
  bytes_received : settings.bytes = 0 ∨ test.bytes_received.toNat ≤ totals.bytes_received
  blocks_received : settings.blocks = 0 ∨ test.blocks_received.toNat ≤ totals.blocks_received

end Measured

section Goal
variable {settings : Settings}

/-- A counter that wraps falls behind. -/
theorem add_le {counter amount : UInt64} {total more : Nat} (behind : counter.toNat ≤ total)
    (same : amount.toNat = more) : (counter + amount).toNat ≤ total + more := by
  rw [UInt64.toNat_add]
  have := Nat.mod_le (counter.toNat + amount.toNat) (2 ^ 64)
  omega

theorem step_behind {before after : Client} {event : Event} {totals : Totals}
    (moves : Step before event after) (clean : Clean settings before event)
    (behind : Behind settings before totals) : Behind settings after (count totals event) := by
  obtain ⟨bytes_sent, blocks_sent, bytes_received, blocks_received⟩ := behind
  cases moves with
  | send r pending_size streams =>
      by_cases failed : r < 0
      · simp only [send, count, if_pos failed]
        exact ⟨bytes_sent, blocks_sent, bytes_received, blocks_received⟩
      · have size := @MachineWords.widened_toNat r (by simpa [Int32.lt_iff_toInt_lt] using failed)
        simp only [send, count, if_neg failed]
        refine ⟨add_le bytes_sent size, ?_, bytes_received, blocks_received⟩
        dsimp only
        split
        · exact add_le blocks_sent rfl
        · exact blocks_sent
  | receive r streams =>
      by_cases some : r > 0
      · have positive : 0 < r.toInt := Int32.lt_iff_toInt_lt.mp some
        have kept : ¬ r < 0 := by
          rw [Int32.lt_iff_toInt_lt]
          exact positive.le.not_gt
        have size := @MachineWords.widened_toNat r positive.le
        simp only [iperf_recv_mt, count, if_neg kept, if_pos some]
        exact ⟨bytes_sent, blocks_sent, bytes_received.imp_right fun le => add_le le size,
          blocks_received.imp_right fun le => add_le le rfl⟩
      · simp only [iperf_recv_mt, count, if_neg some, ite_self]
        exact ⟨bytes_sent, blocks_sent, bytes_received, blocks_received⟩
  | omit_end now total_retransmits pending =>
      -- The reset clears what was sent; what was received has to be 0 already.
      obtain ⟨bytes, blocks⟩ := clean rfl
      refine ⟨Nat.le_refl 0, Nat.le_refl 0, bytes.imp_right ?_, blocks.imp_right ?_⟩
      · intro none_received
        simp [client_omit_timer_proc, none_received]
      · intro none_received
        simp [client_omit_timer_proc, none_received]
  | time_up => exact ⟨bytes_sent, blocks_sent, bytes_received, blocks_received⟩

theorem run_behind {omit_seconds : Nat} {start test : Client} {past : List Event}
    (starts : Starts omit_seconds start)
    (run : Run (fun before event after => Step before event after ∧ Clean settings before event)
      start past test) : Behind settings test (measured past) := by
  apply run.invariant fun past test => Behind settings test (measured past)
  · constructor
    · simp [starts.bytes_sent]
    · simp [starts.blocks_sent]
    · simp [starts.bytes_received]
    · simp [starts.blocks_received]
  · rintro past before event after behind ⟨moves, clean⟩
    rw [measured_append]
    exact step_behind moves clean behind

/-- When nothing was received before the omit period ends, a test that ends for its goal
has measured it in one direction. -/
theorem goal_measured (settings : Settings) (omit_seconds : Nat) (start test : Client)
    (past : List Event) (starts : Starts omit_seconds start)
    (run : Run (fun before event after => Step before event after ∧ Clean settings before event)
      start past test) (ends : test_ends settings test) (in_time : test.done = false) :
    (bytes_goal settings test ∨ blocks_goal settings test) ∧
      (bytes_goal settings test →
        settings.bytes.toNat ≤ (measured past).bytes_sent ∨
          settings.bytes.toNat ≤ (measured past).bytes_received) ∧
      (blocks_goal settings test →
        settings.blocks.toNat ≤ (measured past).blocks_sent ∨
          settings.blocks.toNat ≤ (measured past).blocks_received) := by
  obtain ⟨bytes_sent, blocks_sent, bytes_received, blocks_received⟩ := run_behind starts run
  refine ⟨?_, ?_, ?_⟩
  · have reached : test.omitting = false ∧
        (bytes_goal settings test ∨ blocks_goal settings test) := by
      simpa [test_ends, in_time] using ends
    exact reached.2
  · intro reached
    obtain ⟨some, sent | received⟩ := by simpa only [bytes_goal, decide_eq_true_eq] using reached
    · exact .inl ((UInt64.le_iff_toNat_le.mp sent).trans bytes_sent)
    · exact .inr ((UInt64.le_iff_toNat_le.mp received).trans (bytes_received.resolve_left some))
  · intro reached
    obtain ⟨some, sent | received⟩ := by simpa only [blocks_goal, decide_eq_true_eq] using reached
    · exact .inl ((UInt64.le_iff_toNat_le.mp sent).trans blocks_sent)
    · exact .inr ((UInt64.le_iff_toNat_le.mp received).trans (blocks_received.resolve_left some))

theorem goal_measured_sent :
    (bytes_goal ⟨10, 0⟩ ⟨⟨10, 1, 0, []⟩, 0, 0, false, false, false⟩ ∨
        blocks_goal ⟨10, 0⟩ ⟨⟨10, 1, 0, []⟩, 0, 0, false, false, false⟩) ∧
      (bytes_goal ⟨10, 0⟩ ⟨⟨10, 1, 0, []⟩, 0, 0, false, false, false⟩ →
        10 ≤ (measured [.send 7 0, .omit_end, .send 10 0]).bytes_sent ∨
          10 ≤ (measured [.send 7 0, .omit_end, .send 10 0]).bytes_received) ∧
      (blocks_goal ⟨10, 0⟩ ⟨⟨10, 1, 0, []⟩, 0, 0, false, false, false⟩ →
        0 ≤ (measured [.send 7 0, .omit_end, .send 10 0]).blocks_sent ∨
          0 ≤ (measured [.send 7 0, .omit_end, .send 10 0]).blocks_received) := by
  have sent : Run (fun before event after => Step before event after ∧ Clean ⟨10, 0⟩ before event)
      ⟨⟨0, 0, 0, []⟩, 0, 0, true, true, false⟩ [.send 7 0]
      ⟨⟨7, 1, 0, []⟩, 0, 0, true, true, false⟩ :=
    .next _ .start ⟨.send ⟨⟨0, 0, 0, []⟩, 0, 0, true, true, false⟩ 7 0 [], by rintro ⟨⟩⟩
  have omitted : Run (fun before event after => Step before event after ∧
        Clean ⟨10, 0⟩ before event) ⟨⟨0, 0, 0, []⟩, 0, 0, true, true, false⟩ [.send 7 0, .omit_end]
      ⟨⟨0, 0, 0, []⟩, 0, 0, false, false, false⟩ :=
    .next _ sent ⟨.omit_end ⟨⟨7, 1, 0, []⟩, 0, 0, true, true, false⟩ ⟨5, 0⟩ (fun _ => 0) rfl,
      fun _ => ⟨.inr rfl, .inl rfl⟩⟩
  apply goal_measured ⟨10, 0⟩ 1 ⟨⟨0, 0, 0, []⟩, 0, 0, true, true, false⟩
  · constructor <;> rfl
  · exact .next _ omitted
      ⟨.send ⟨⟨0, 0, 0, []⟩, 0, 0, false, false, false⟩ 10 0 [], by rintro ⟨⟩⟩
  · rfl
  · rfl

/-- A receiving client whose goal is reached before the omit period is. -/
theorem goal_not_measured :
    ¬ ∀ past test, Run Step ⟨⟨0, 0, 0, []⟩, 0, 0, true, true, false⟩ past test →
      test_ends ⟨1000, 0⟩ test → test.done = false →
        1000 ≤ (measured past).bytes_sent ∨ 1000 ≤ (measured past).bytes_received := by
  intro claimed
  have received : Run Step ⟨⟨0, 0, 0, []⟩, 0, 0, true, true, false⟩ [.receive 1000]
      ⟨⟨0, 0, 0, []⟩, 1000, 1, true, true, false⟩ :=
    .next _ .start (.receive ⟨⟨0, 0, 0, []⟩, 0, 0, true, true, false⟩ 1000 [])
  have omitted : Run Step ⟨⟨0, 0, 0, []⟩, 0, 0, true, true, false⟩ [.receive 1000, .omit_end]
      ⟨⟨0, 0, 0, []⟩, 1000, 1, false, false, false⟩ :=
    .next _ received (.omit_end ⟨⟨0, 0, 0, []⟩, 1000, 1, true, true, false⟩ ⟨5, 0⟩ (fun _ => 0) rfl)
  exact absurd (claimed _ _ omitted rfl rfl) (by decide)

end Goal

end Iperf.Goals
