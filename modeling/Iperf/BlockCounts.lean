import Iperf.TcpSend
import Iperf.Transition

/-!
`iperf_send_mt` counts what its sends return in two atomic counters of the test, one of
bytes and one of blocks. The workers of all streams interleave between a send and its two
counts. A send that returns nothing may still count as a block.
-/

namespace Iperf.BlockCounts

open MachineWords SocketWrites TcpSend Transfer Transition

section Code

/-- How `iperf_quic_send` ends. `abandoned` is `sc->fin`, `sp->done` or `test->done`. -/
inductive QuicOutcome where
  | no_context
  | abandoned
  | no_memory
  | rejected
  | accepted
  deriving DecidableEq, Repr

def iperf_quic_send (sp : TcpSend.Stream) : QuicOutcome → Int32 × TcpSend.Stream
  | .no_context => (NET_HARDERROR, sp)
  | .abandoned => (0, sp)
  | .no_memory => (NET_HARDERROR, start_block sp)
  | .rejected => (NET_HARDERROR, start_block sp)
  | .accepted =>
      let sp := start_block sp
      let len := size_of_int sp.pending_size
      (int_of_size len,
        { sp with
          pending_size := 0
          bytes_sent := sp.bytes_sent + UInt64.ofNat len
          bytes_sent_this_interval := sp.bytes_sent_this_interval + UInt64.ofNat len })

inductive Protocol where
  | tcp (zerocopy : Bool)
  | quic
  deriving DecidableEq, Repr

inductive Outcome where
  | tcp (script : Script)
  | quic (outcome : QuicOutcome)
  deriving DecidableEq, Repr

/-- `sp->snd`, where the outcome is one of the protocol's. -/
def snd (protocol : Protocol) (sp : TcpSend.Stream) (outcome : Outcome) :
    Option (Int32 × TcpSend.Stream) :=
  match protocol, outcome with
  | .tcp zerocopy, .tcp script =>
      (iperf_tcp_send zerocopy sp script).map fun sent => (sent.r, sent.sp)
  | .quic, .quic outcome => some (iperf_quic_send sp outcome)
  | _, _ => none

/-- Where a worker stands in the loop of `iperf_send_mt`. -/
inductive Phase where
  | ready
  | sent (r : Int32)
  | counted
  | failed
  deriving DecidableEq, Repr

/-- A soft error ends the loop and the worker enters it again, another one ends the worker. -/
def after_send (r : Int32) : Phase :=
  if r < 0 then (if r = NET_SOFTERROR then .ready else .failed) else .sent r

structure Worker where
  sp : TcpSend.Stream
  phase : Phase
  deriving DecidableEq, Repr

structure Test where
  bytes_sent : UInt64
  blocks_sent : UInt64
  workers : List Worker
  deriving DecidableEq, Repr

inductive Event where
  | send (outcome : Outcome)
  | count_bytes (r : Int32)
  | count_block (full : Bool)
  deriving DecidableEq, Repr

/-- What one worker does. The tests of the goals and of the green light only decide whether
there is a next send. -/
inductive Move (protocol : Protocol) : Worker → Event → Worker → Prop where
  | send {sp next : TcpSend.Stream} {outcome : Outcome} {r : Int32}
      (sent : snd protocol sp outcome = some (r, next)) :
      Move protocol ⟨sp, .ready⟩ (.send outcome) ⟨next, after_send r⟩
  | count_bytes {sp : TcpSend.Stream} {r : Int32} :
      Move protocol ⟨sp, .sent r⟩ (.count_bytes r) ⟨sp, .counted⟩
  | count_block {sp : TcpSend.Stream} :
      Move protocol ⟨sp, .counted⟩ (.count_block (sp.pending_size = 0)) ⟨sp, .ready⟩

/-- What this does to the counters of the test. -/
def count (event : Event) (test : Test) : Test :=
  match event with
  | .send _ => test
  | .count_bytes r => { test with bytes_sent := test.bytes_sent + r.toInt64.toUInt64 }
  | .count_block full => if full then { test with blocks_sent := test.blocks_sent + 1 } else test

inductive Step (protocol : Protocol) : Test → Event → Test → Prop where
  | move {test : Test} {front back : List Worker} {before after : Worker} {event : Event}
      (at_ : test.workers = front ++ before :: back) (moves : Move protocol before event after) :
      Step protocol test event { count event test with workers := front ++ after :: back }

/-- The workers are about to start. -/
structure Starts (blksize : Int32) (test : Test) : Prop where
  bytes_sent : test.bytes_sent = 0
  blocks_sent : test.blocks_sent = 0
  fresh : ∀ worker ∈ test.workers, Ready worker.sp ∧ worker.sp.blksize = blksize ∧
    worker.sp.pending_size = 0 ∧ worker.phase = .ready

/-- No send is in progress. -/
def Quiet (test : Test) : Prop :=
  ∀ worker ∈ test.workers, worker.phase = .ready ∨ worker.phase = .failed

/-- How much of its block a stream has sent, if it is not done with it. -/
def part (blksize : Int32) (sp : TcpSend.Stream) : Nat :=
  if sp.pending_size = 0 then 0 else blksize.toInt.toNat - sp.pending_size.toInt.toNat

def Balanced (blksize : Int32) (test : Test) : Prop :=
  test.bytes_sent = UInt64.ofNat blksize.toInt.toNat * test.blocks_sent +
    UInt64.ofNat (test.workers.map fun worker => part blksize worker.sp).sum

instance (blksize : Int32) (test : Test) : Decidable (Balanced blksize test) :=
  inferInstanceAs (Decidable (_ = _))

end Code

section History

def bytes_of : Event → Nat
  | .count_bytes r => r.toInt.toNat
  | _ => 0

def blocks_of : Event → Nat
  | .count_block full => full.toNat
  | _ => 0

def abandoned_of : Event → Nat
  | .send (.quic .abandoned) => 1
  | _ => 0

/-- A QUIC send that is abandoned returns 0 and leaves no block open. -/
def abandoned (past : List Event) : Nat := (past.map abandoned_of).sum

/-- What a worker has sent and not counted. -/
def uncounted : Phase → Nat
  | .sent r => r.toInt.toNat
  | _ => 0

/-- The block that a worker is about to count. -/
def complete (blksize : Int32) (worker : Worker) : Nat :=
  match worker.phase with
  | .sent _ => if worker.sp.pending_size = 0 then blksize.toInt.toNat else 0
  | .counted => if worker.sp.pending_size = 0 then blksize.toInt.toNat else 0
  | _ => 0

end History

section Moves
variable {blksize : Int32} {protocol : Protocol} {before after : Worker} {event : Event}

/-- Between two steps. With QUIC a worker that goes on has no part of a block open. -/
structure Sound (protocol : Protocol) (blksize : Int32) (worker : Worker) : Prop where
  ready : Ready worker.sp
  block : worker.sp.blksize = blksize
  whole : protocol = .quic → worker.phase ≠ .failed → worker.sp.pending_size = 0
  sent : ∀ r, worker.phase = .sent r → 0 ≤ r.toInt

/-- The account of one worker over one step. -/
def Accounts (blksize : Int32) (before : Worker) (event : Event) (after : Worker) : Prop :=
  uncounted after.phase + bytes_of event + blksize.toInt.toNat * abandoned_of event +
      (complete blksize before + part blksize before.sp) =
    uncounted before.phase + blksize.toInt.toNat * blocks_of event +
      (complete blksize after + part blksize after.sp)

theorem part_eq (blksize : Int32) (sp : TcpSend.Stream) : part blksize sp =
    if sp.pending_size.toInt = 0 then 0 else blksize.toInt.toNat - sp.pending_size.toInt.toNat := by
  have zero : sp.pending_size = 0 ↔ sp.pending_size.toInt = 0 := Int32.toInt_inj.symm
  simp only [part, zero]

theorem full_eq (sp : TcpSend.Stream) (blksize : Int32) :
    (if sp.pending_size = 0 then blksize.toInt.toNat else 0) =
      if sp.pending_size.toInt = 0 then blksize.toInt.toNat else 0 := by
  have zero : sp.pending_size = 0 ↔ sp.pending_size.toInt = 0 := Int32.toInt_inj.symm
  simp only [zero]

/-- Opening a block sends nothing of it. -/
theorem part_start {sp : TcpSend.Stream} (block : sp.blksize = blksize) :
    part blksize (start_block sp) = part blksize sp ∧ (start_block sp).blksize = blksize ∧
      ((start_block sp).pending_size.toInt = 0 → blksize.toInt = 0) := by
  by_cases none : sp.pending_size = 0
  · simp only [start_block, if_pos none, part, block, Nat.sub_self, ite_self, true_and]
    exact id
  · simp only [start_block, if_neg none, block, true_and]
    intro zero
    exact absurd (Int32.toInt_inj.mp zero) none

/-- What a send returns is what it takes off its block. -/
structure Sends (blksize : Int32) (sp : TcpSend.Stream) (outcome : Outcome) (r : Int32)
    (next : TcpSend.Stream) : Prop where
  ready : Ready next
  block : next.blksize = blksize
  failed : r.toInt < 0 →
    part blksize next = part blksize sp ∧ abandoned_of (.send outcome) = 0
  sent : 0 ≤ r.toInt → r.toInt.toNat + blksize.toInt.toNat * abandoned_of (.send outcome) +
    part blksize sp = part blksize next +
      if next.pending_size = 0 then blksize.toInt.toNat else 0

/-- A part of the pending bytes is sent, or all of them. -/
theorem sends_part {sp next : TcpSend.Stream} {outcome : Outcome} {r : Int32}
    (ready : Ready sp) (block : sp.blksize = blksize) (kept : Ready next)
    (same : next.blksize = blksize) (nonneg : 0 ≤ r.toInt)
    (left : next.pending_size.toInt = (start_block sp).pending_size.toInt - r.toInt)
    (goes : abandoned_of (.send outcome) = 0) : Sends blksize sp outcome r next := by
  rcases part_start block with ⟨begun, begun_block, empty⟩
  have most := (start_block_ready ready).most
  have least := (start_block_ready ready).least
  have rest := kept.least
  rw [begun_block] at most
  constructor
  · exact kept
  · exact same
  · intro negative
    omega
  · intro _
    rw [← begun, full_eq, part_eq, part_eq, goes, left, Nat.mul_zero]
    split
    · split
      · omega
      · omega
    · split
      · omega
      · omega

theorem tcp_sends {zerocopy : Bool} {sp next : TcpSend.Stream} {script : Script} {r : Int32}
    (ready : Ready sp) (block : sp.blksize = blksize)
    (sent : snd (.tcp zerocopy) sp (.tcp script) = some (r, next)) :
    Sends blksize sp (.tcp script) r next := by
  rcases part_start block with ⟨begun, begun_block, _⟩
  simp only [snd, tcp_send_eq zerocopy ready, Option.map_map, Option.map_eq_some_iff,
    Function.comp_apply, Prod.mk.injEq, account_r] at sent
  rcases sent with ⟨done, ended, same, rfl⟩
  rcases account_ready zerocopy (start_block_ready ready) ended rfl with ⟨kept, failed | counted⟩
  · rcases failed with ⟨negative, unchanged⟩
    rw [same] at negative
    rw [unchanged]
    exact ⟨start_block_ready ready, begun_block, fun _ => ⟨begun, rfl⟩, fun nonneg => by omega⟩
  · rcases counted with ⟨exactly, left, kept_block, _⟩
    rw [same] at exactly
    rw [← exactly] at left
    exact sends_part ready block kept (kept_block.trans begun_block) (by omega) left rfl

theorem quic_sends {sp next : TcpSend.Stream} {outcome : QuicOutcome} {r : Int32}
    (ready : Ready sp) (block : sp.blksize = blksize) (closed : sp.pending_size = 0)
    (sent : iperf_quic_send sp outcome = (r, next)) :
    Sends blksize sp (.quic outcome) r next ∧
      (after_send r ≠ .failed → next.pending_size = 0) := by
  rcases part_start block with ⟨begun, begun_block, _⟩
  have opened := start_block_ready ready
  have hard : (NET_HARDERROR).toInt = -2 := rfl
  cases outcome with
  | no_context =>
      cases sent
      exact ⟨⟨ready, block, fun _ => ⟨rfl, rfl⟩, fun nonneg => by omega⟩, fun _ => closed⟩
  | abandoned =>
      cases sent
      constructor
      · constructor
        · exact ready
        · exact block
        · exact fun negative => absurd negative (by decide)
        · intro _
          simp [abandoned_of, part, closed]
      · exact fun _ => closed
  | no_memory =>
      cases sent
      exact ⟨⟨opened, begun_block, fun _ => ⟨begun, rfl⟩, fun nonneg => by omega⟩,
        fun goes => absurd rfl goes⟩
  | rejected =>
      cases sent
      exact ⟨⟨opened, begun_block, fun _ => ⟨begun, rfl⟩, fun nonneg => by omega⟩,
        fun goes => absurd rfl goes⟩
  | accepted =>
      cases sent
      rcases opened.room with ⟨_, small, size⟩
      have least := opened.least
      have whole : (int_of_size (size_of_int (start_block sp).pending_size)).toInt =
          (start_block sp).pending_size.toInt := by
        rw [int_of_size_toInt, Int.bmod_def]
        omega
      constructor
      · apply sends_part ready block
        · exact ⟨opened.shared, opened.block, Int.le_refl _, Int.le_trans least opened.most⟩
        · exact begun_block
        · rw [whole]
          exact least
        · rw [whole, Int.sub_self]
          rfl
        · rfl
      · exact fun _ => rfl

theorem snd_sends {sp next : TcpSend.Stream} {outcome : Outcome} {r : Int32}
    (ready : Ready sp) (block : sp.blksize = blksize)
    (closed : protocol = .quic → sp.pending_size = 0)
    (sent : snd protocol sp outcome = some (r, next)) :
    Sends blksize sp outcome r next ∧
      (protocol = .quic → after_send r ≠ .failed → next.pending_size = 0) := by
  cases protocol with
  | tcp zerocopy =>
      cases outcome with
      | tcp script => exact ⟨tcp_sends ready block sent, by rintro ⟨⟩⟩
      | quic outcome => cases sent
  | quic =>
      cases outcome with
      | tcp script => cases sent
      | quic outcome =>
          have step := quic_sends ready block (closed rfl) (Option.some.inj sent)
          exact ⟨step.1, fun _ => step.2⟩

theorem send_sound {sp next : TcpSend.Stream} {outcome : Outcome} {r : Int32}
    (sends : Sends blksize sp outcome r next)
    (closed : protocol = .quic → after_send r ≠ .failed → next.pending_size = 0) :
    Sound protocol blksize ⟨next, after_send r⟩ ∧
      Accounts blksize ⟨sp, .ready⟩ (.send outcome) ⟨next, after_send r⟩ := by
  have zero : (0 : Int32).toInt = 0 := rfl
  by_cases failed : r < 0
  · have negative : r.toInt < 0 := by rwa [Int32.lt_iff_toInt_lt, zero] at failed
    rcases sends.failed negative with ⟨same, goes⟩
    have still : uncounted (after_send r) = 0 ∧
        complete blksize ⟨next, after_send r⟩ = 0 ∧ ∀ r', after_send r ≠ .sent r' := by
      simp only [after_send, if_pos failed]
      split
      · exact ⟨rfl, rfl, by rintro r' ⟨⟩⟩
      · exact ⟨rfl, rfl, by rintro r' ⟨⟩⟩
    constructor
    · exact ⟨sends.ready, sends.block, closed, fun r' sent => absurd sent (still.2.2 r')⟩
    · simp only [Accounts, still.1, still.2.1, goes, same]
      rfl
  · have nonneg : 0 ≤ r.toInt := by rwa [Int32.lt_iff_toInt_lt, zero, Int.not_lt] at failed
    have phase : after_send r = .sent r := if_neg failed
    have account := sends.sent nonneg
    rw [phase] at closed ⊢
    constructor
    · exact ⟨sends.ready, sends.block, closed, by rintro _ ⟨⟩; exact nonneg⟩
    · simp only [Accounts, uncounted, bytes_of, blocks_of, complete]
      omega

theorem move_sound (sound : Sound protocol blksize before)
    (moves : Move protocol before event after) :
    Sound protocol blksize after ∧ Accounts blksize before event after := by
  cases moves with
  | @send sp next outcome r sent =>
      have whole := fun quic => sound.whole quic (by rintro ⟨⟩)
      rcases snd_sends sound.ready sound.block whole sent with ⟨sends, closed⟩
      exact send_sound sends closed
  | count_bytes =>
      constructor
      · exact ⟨sound.ready, sound.block, fun quic _ => sound.whole quic (by rintro ⟨⟩),
          by rintro r ⟨⟩⟩
      · simp only [Accounts, uncounted, bytes_of, blocks_of, abandoned_of, complete]
        omega
  | @count_block sp =>
      constructor
      · exact ⟨sound.ready, sound.block, fun quic _ => sound.whole quic (by rintro ⟨⟩),
          by rintro r ⟨⟩⟩
      · simp only [Accounts, uncounted, bytes_of, blocks_of, abandoned_of, complete]
        by_cases full : sp.pending_size = 0
        · simp [full]
        · simp [full]

end Moves

section Ledger
variable {blksize : Int32} {protocol : Protocol} {before after : Test} {event : Event}
  {past : List Event}

def sum_of (measure : Worker → Nat) (test : Test) : Nat := (test.workers.map measure).sum

def total (measure : Event → Nat) (past : List Event) : Nat := (past.map measure).sum

/-- The counters hold what the past has counted, and with what is not counted yet the bytes
are whole blocks and the parts, but for the blocks of abandoned sends. -/
structure Ledger (protocol : Protocol) (blksize : Int32) (past : List Event) (test : Test) :
    Prop where
  sound : ∀ worker ∈ test.workers, Sound protocol blksize worker
  bytes : test.bytes_sent = UInt64.ofNat (total bytes_of past)
  blocks : test.blocks_sent = UInt64.ofNat (total blocks_of past)
  account : total bytes_of past + sum_of (fun worker => uncounted worker.phase) test +
      blksize.toInt.toNat * abandoned past =
    blksize.toInt.toNat * total blocks_of past + sum_of (complete blksize) test +
      sum_of (fun worker => part blksize worker.sp) test

theorem total_append (measure : Event → Nat) (past : List Event) (event : Event) :
    total measure (past ++ [event]) = total measure past + measure event := by
  simp [total]

theorem sum_of_at (measure : Worker → Nat) {test : Test} {front back : List Worker}
    {worker : Worker} (at_ : test.workers = front ++ worker :: back) :
    sum_of measure test =
      measure worker + ((front.map measure).sum + (back.map measure).sum) := by
  simp only [sum_of, at_, List.map_append, List.sum_append, List.map_cons, List.sum_cons]
  omega

theorem sum_of_none {measure : Worker → Nat} {test : Test}
    (nothing : ∀ worker ∈ test.workers, measure worker = 0) : sum_of measure test = 0 := by
  apply List.sum_eq_zero_iff_forall_eq_nat.mpr
  intro value member
  rcases List.mem_map.mp member with ⟨worker, inside, rfl⟩
  exact nothing worker inside

theorem starts_ledger {test : Test} (starts : Starts blksize test) :
    Ledger protocol blksize [] test := by
  constructor
  · intro worker member
    rcases starts.fresh worker member with ⟨ready, block, closed, phase⟩
    exact ⟨ready, block, fun _ _ => closed, fun r sent => by rw [phase] at sent; cases sent⟩
  · exact starts.bytes_sent
  · exact starts.blocks_sent
  · rw [sum_of_none, sum_of_none, sum_of_none]
    · rfl
    · intro worker member
      simp only [part, (starts.fresh worker member).2.2.1, if_true]
    · intro worker member
      simp only [complete, (starts.fresh worker member).2.2.2]
    · intro worker member
      simp only [(starts.fresh worker member).2.2.2, uncounted]

theorem count_ledger (bytes : before.bytes_sent = UInt64.ofNat (total bytes_of past))
    (blocks : before.blocks_sent = UInt64.ofNat (total blocks_of past))
    (counted : ∀ r, event = .count_bytes r → 0 ≤ r.toInt) :
    (count event before).bytes_sent = UInt64.ofNat (total bytes_of (past ++ [event])) ∧
      (count event before).blocks_sent = UInt64.ofNat (total blocks_of (past ++ [event])) := by
  rw [total_append, total_append, UInt64.ofNat_add, UInt64.ofNat_add, ← bytes, ← blocks]
  cases event with
  | send outcome => exact ⟨(UInt64.add_zero _).symm, (UInt64.add_zero _).symm⟩
  | count_bytes r =>
      have value : r.toInt64.toUInt64 = UInt64.ofNat r.toInt.toNat := by
        rw [← UInt64.toNat_inj, widened_toNat (counted r rfl), UInt64.toNat_ofNat']
        have small := r.toInt_lt
        omega
      constructor
      · simp only [count, bytes_of, value]
      · exact (UInt64.add_zero _).symm
  | count_block full =>
      cases full with
      | true => exact ⟨(UInt64.add_zero _).symm, rfl⟩
      | false => exact ⟨(UInt64.add_zero _).symm, (UInt64.add_zero _).symm⟩

theorem step_ledger (ledger : Ledger protocol blksize past before)
    (step : Step protocol before event after) :
    Ledger protocol blksize (past ++ [event]) after := by
  cases step with
  | @move front back worker next event at_ moves =>
      have inside : worker ∈ before.workers := by simp [at_]
      rcases move_sound (ledger.sound worker inside) moves with ⟨next_sound, accounts⟩
      have counted : ∀ r, event = .count_bytes r → 0 ≤ r.toInt := by
        rintro r rfl
        cases moves
        exact (ledger.sound _ inside).sent r rfl
      rcases count_ledger ledger.bytes ledger.blocks counted with ⟨bytes, blocks⟩
      constructor
      · intro other member
        simp only [List.mem_append, List.mem_cons] at member
        rcases member with front_ | same | back_
        · exact ledger.sound other (by simp [at_, front_])
        · rw [same]
          exact next_sound
        · exact ledger.sound other (by simp [at_, back_])
      · exact bytes
      · exact blocks
      · have account := ledger.account
        have one := accounts
        simp only [Accounts] at one
        rw [sum_of_at _ at_, sum_of_at _ at_, sum_of_at _ at_] at account
        have at_next : { count event before with workers := front ++ next :: back }.workers =
            front ++ next :: back := rfl
        rw [sum_of_at _ at_next, sum_of_at _ at_next, sum_of_at _ at_next, abandoned,
          total_append, total_append, List.map_append, List.sum_append, Nat.mul_add, Nat.mul_add]
        simp only [abandoned] at account
        simp only [List.map_cons, List.map_nil, List.sum_cons, List.sum_nil, Nat.add_zero]
        omega

theorem run_ledger {start test : Test} (starts : Starts blksize start)
    (run : Run (Step protocol) start past test) : Ledger protocol blksize past test := by
  apply run.invariant fun past test => Ledger protocol blksize past test
  · exact starts_ledger starts
  · intro past before event after ledger step
    exact step_ledger ledger step

end Ledger

section Results
variable {blksize : Int32} {protocol : Protocol} {past : List Event} {start test : Test}

/-- In every run, whenever no send is in progress, the bytes are the counted blocks and the
parts exactly when the abandoned sends have added nothing to the blocks. -/
theorem blocks_match_bytes_iff (starts : Starts blksize start)
    (run : Run (Step protocol) start past test) (quiet : Quiet test) :
    Balanced blksize test ↔ UInt64.ofNat (blksize.toInt.toNat * abandoned past) = 0 := by
  have ledger := run_ledger starts run
  have counted : sum_of (fun worker => uncounted worker.phase) test = 0 := by
    apply sum_of_none
    intro worker inside
    rcases quiet worker inside with ready | failed
    · simp only [ready, uncounted]
    · simp only [failed, uncounted]
  have closed : sum_of (complete blksize) test = 0 := by
    apply sum_of_none
    intro worker inside
    rcases quiet worker inside with ready | failed
    · simp only [ready, complete]
    · simp only [failed, complete]
  have account := congrArg UInt64.ofNat ledger.account
  rw [counted, closed, Nat.add_zero, Nat.add_zero, UInt64.ofNat_add, UInt64.ofNat_add,
    UInt64.ofNat_mul blksize.toInt.toNat (total blocks_of past), ← ledger.bytes, ← ledger.blocks]
    at account
  rw [Balanced, ← sum_of.eq_def, ← account]
  grind

/-- A block of four bytes of which `left` are pending. -/
def four (left : Int32) (sent : UInt64) : TcpSend.Stream :=
  ⟨[1, 2, 3, 4], [1, 2, 3, 4], 4, left, sent, sent⟩

def one_worker (bytes_sent blocks_sent : UInt64) (worker : Worker) : Test :=
  ⟨bytes_sent, blocks_sent, [worker]⟩

theorem one_worker_starts : Starts 4 (one_worker 0 0 ⟨four 0 0, .ready⟩) := by
  constructor
  · rfl
  · rfl
  · intro worker member
    cases List.mem_singleton.mp member
    exact ⟨⟨rfl, by decide, by decide, by decide⟩, rfl, rfl, rfl⟩

theorem one_worker_step {before after : Worker} {event : Event} (bytes_sent blocks_sent : UInt64)
    (moves : Move protocol before event after) :
    Step protocol (one_worker bytes_sent blocks_sent before) event
      { count event (one_worker bytes_sent blocks_sent before) with workers := [after] } :=
  @Step.move protocol _ [] [] before after event rfl moves

theorem one_worker_quiet (bytes_sent blocks_sent : UInt64) (sp : TcpSend.Stream) :
    Quiet (one_worker bytes_sent blocks_sent ⟨sp, .ready⟩) := by
  intro worker member
  cases List.mem_singleton.mp member
  exact .inl rfl

/-- A send that returns `r`, with the counts behind it. -/
theorem one_send_run {outcome : Outcome} {r : Int32} {sp : TcpSend.Stream}
    (sent : snd protocol (four 0 0) outcome = some (r, sp)) (nonneg : ¬ r < 0) :
    Run (Step protocol) (one_worker 0 0 ⟨four 0 0, .ready⟩)
      [.send outcome, .count_bytes r, .count_block (sp.pending_size = 0)]
      { count (.count_block (sp.pending_size = 0)) (one_worker r.toInt64.toUInt64 0 ⟨sp, .counted⟩)
        with workers := [⟨sp, .ready⟩] } := by
  have begun : Run (Step protocol) (one_worker 0 0 ⟨four 0 0, .ready⟩) []
      (one_worker 0 0 ⟨four 0 0, .ready⟩) := .start
  have phase : after_send r = .sent r := if_neg nonneg
  have send := Move.send sent
  rw [phase] at send
  have called := begun.next _ (one_worker_step 0 0 send)
  have bytes := called.next _ (one_worker_step 0 0 .count_bytes)
  have first : (0 : UInt64) + r.toInt64.toUInt64 = r.toInt64.toUInt64 := UInt64.zero_add _
  simp only [count, one_worker, first] at bytes
  exact bytes.next _ (one_worker_step r.toInt64.toUInt64 0 .count_block)

/-- Three of four bytes are accepted. -/
theorem blocks_match_bytes_part : Balanced 4 (one_worker 3 0 ⟨four 1 3, .ready⟩) := by
  have part : snd (.tcp false) (four 0 0) (.tcp [.takes 3, .stops .EAGAIN]) =
      some (3, four 1 3) := by decide
  exact (blocks_match_bytes_iff one_worker_starts (one_send_run part (by decide))
    (one_worker_quiet 3 0 _)).mpr (by decide)

/-- A QUIC send is abandoned because the test is over: no byte, one block. -/
theorem abandoned_counts_block : ∃ past, Run (Step .quic) (one_worker 0 0 ⟨four 0 0, .ready⟩) past
      (one_worker 0 1 ⟨four 0 0, .ready⟩) ∧
    Starts 4 (one_worker 0 0 ⟨four 0 0, .ready⟩) ∧ Quiet (one_worker 0 1 ⟨four 0 0, .ready⟩) ∧
    ¬ Balanced 4 (one_worker 0 1 ⟨four 0 0, .ready⟩) := by
  have nothing : snd .quic (four 0 0) (.quic .abandoned) = some (0, four 0 0) := rfl
  exact ⟨_, one_send_run nothing (by decide), one_worker_starts, one_worker_quiet 0 1 _, by decide⟩

end Results

end Iperf.BlockCounts
