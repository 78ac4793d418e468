import Iperf.SocketWrites

/-!
`iperf_tcp_send`, with and without `--zerocopy`. The buffer of a stream is a shared mapping
of `buffer_fd`, so the file that `Nsendfile` reads holds what `Nwrite` would send.
-/

namespace Iperf.TcpSend

open MachineWords SocketWrites Transfer

section Code

/-- `file` is what `buffer_fd` holds. -/
structure Stream where
  buffer : List UInt8
  file : List UInt8
  blksize : Int32
  pending_size : Int32
  bytes_sent : UInt64
  bytes_sent_this_interval : UInt64
  deriving DecidableEq, Repr

structure Sent where
  r : Int32
  sp : Stream
  /-- the bytes that were accepted -/
  bytes : List UInt8
  script : Script
  deriving DecidableEq, Repr

/-- An empty `pending_size` starts a new block. -/
def start_block (sp : Stream) : Stream :=
  if sp.pending_size = 0 then { sp with pending_size := sp.blksize } else sp

/-- What is done with the return value. -/
def account (sp : Stream) (written : Written) : Sent :=
  if written.r < 0 then ⟨written.r, sp, written.sent, written.script⟩
  else
    { r := written.r
      sp :=
        { sp with
          pending_size := sp.pending_size - written.r
          bytes_sent := sp.bytes_sent + written.r.toInt64.toUInt64
          bytes_sent_this_interval := sp.bytes_sent_this_interval + written.r.toInt64.toUInt64 }
      bytes := written.sent
      script := written.script }

def iperf_tcp_send (zerocopy : Bool) (sp : Stream) (script : Script) : Option Sent :=
  let sp := start_block sp
  let count := size_of_int sp.pending_size
  (if zerocopy then Nsendfile sp.file count script else Nwrite sp.buffer count script).map
    (account sp)

/-- Successive calls with one script, up to a call that is still blocked. -/
def sends (zerocopy : Bool) : Nat → Stream → Script → List Sent
  | 0, _, _ => []
  | calls + 1, sp, script =>
      match iperf_tcp_send zerocopy sp script with
      | none => []
      | some sent => sent :: sends zerocopy calls sent.sp sent.script

end Code

section Steps
variable {sp : Stream} {script : Script} {sent : Sent}

/-- A stream from `iperf_new_stream`, between two calls. -/
structure Ready (sp : Stream) : Prop where
  shared : sp.file = sp.buffer
  block : (sp.buffer.length : Int) = sp.blksize.toInt
  least : 0 ≤ sp.pending_size.toInt
  most : sp.pending_size.toInt ≤ sp.blksize.toInt

theorem start_block_blksize (sp : Stream) : (start_block sp).blksize = sp.blksize := by
  simp only [start_block]
  split
  · rfl
  · rfl

theorem account_r (sp : Stream) (result : Written) : (account sp result).r = result.r := by
  simp only [account]
  split
  · rfl
  · rfl

theorem start_block_ready (ready : Ready sp) : Ready (start_block sp) := by
  have positive : 0 ≤ sp.blksize.toInt := Int.le_trans ready.least ready.most
  by_cases none : sp.pending_size = 0
  · rw [start_block, if_pos none]
    exact ⟨ready.shared, ready.block, positive, Int.le_refl _⟩
  · rw [start_block, if_neg none]
    exact ready

/-- What is handed to the network is inside the buffer. -/
theorem Ready.room (ready : Ready sp) :
    size_of_int sp.pending_size ≤ sp.buffer.length ∧ size_of_int sp.pending_size < 2 ^ 31 ∧
      (size_of_int sp.pending_size : Int) = sp.pending_size.toInt := by
  have block := ready.block
  have least := ready.least
  have most := ready.most
  have small := sp.blksize.toInt_lt
  rw [size_of_nonneg least]
  omega

/-- A call is a transfer of what is pending. -/
theorem send_eq (memory : Bool) (ready : Ready sp) :
    (if memory then Nsendfile sp.file (size_of_int sp.pending_size) script
      else Nwrite sp.buffer (size_of_int sp.pending_size) script) =
      (transfer 0 (size_of_int sp.pending_size) script).map
        (written (switch memory) sp.buffer (size_of_int sp.pending_size)) := by
  cases memory with
  | true =>
      rw [if_pos rfl, ready.shared]
      exact Nsendfile_eq ready.room.1
  | false =>
      rw [if_neg Bool.false_ne_true]
      exact Nwrite_eq _ _ _

theorem tcp_send_eq (zerocopy : Bool) (ready : Ready sp) :
    iperf_tcp_send zerocopy sp script =
      (transfer 0 (size_of_int (start_block sp).pending_size) script).map fun done =>
        account (start_block sp) (written (switch zerocopy) (start_block sp).buffer
          (size_of_int (start_block sp).pending_size) done) := by
  simp only [iperf_tcp_send]
  rw [send_eq zerocopy (start_block_ready ready), Option.map_map]
  rfl

/-- What is counted is what was accepted, and the rest of the block stays pending. -/
theorem account_ready (zerocopy : Bool) {done : Transferred Errno} {result : Written}
    (ready : Ready sp)
    (ended : transfer 0 (size_of_int sp.pending_size) script = some done)
    (made : result = written (switch zerocopy) sp.buffer (size_of_int sp.pending_size) done) :
    Ready (account sp result).sp ∧
      (result.r.toInt < 0 ∧ (account sp result).sp = sp ∨
        result.r.toInt = done.taken ∧
        (account sp result).sp.pending_size.toInt = sp.pending_size.toInt - done.taken ∧
        (account sp result).sp.blksize = sp.blksize ∧
        (account sp result).sp.bytes_sent = sp.bytes_sent + UInt64.ofNat done.taken) := by
  have zero : (0 : Int32).toInt = 0 := rfl
  by_cases failed : result.r < 0
  · rw [account, if_pos failed]
    rw [Int32.lt_iff_toInt_lt, zero] at failed
    exact ⟨ready, .inl ⟨failed, rfl⟩⟩
  · rw [account, if_neg failed]
    rw [Int32.lt_iff_toInt_lt, zero, Int.not_lt] at failed
    rcases ready.room with ⟨_, small, size⟩
    have within := (transfer_bounds ended).2.1
    have least := ready.least
    have most := ready.most
    have exactly : result.r.toInt = done.taken := by
      rw [made] at failed ⊢
      exact written_count zerocopy small ended failed
    have left : (sp.pending_size - result.r).toInt = sp.pending_size.toInt - done.taken := by
      rw [sub_toInt (by omega) (by omega), exactly]
    have bytes : result.r.toInt64.toUInt64 = UInt64.ofNat done.taken := by
      rw [← UInt64.toNat_inj, widened_toNat failed, exactly, UInt64.toNat_ofNat']
      omega
    constructor
    · constructor
      · exact ready.shared
      · exact ready.block
      · dsimp only
        omega
      · dsimp only
        omega
    · exact .inr ⟨exactly, left, rfl, congrArg (sp.bytes_sent + ·) bytes⟩

end Steps

section Equivalence
variable {sp : Stream} {script : Script}

theorem account_script (sp : Stream) (result : Written) :
    (account sp result).script = result.script := by
  simp only [account]
  split
  · rfl
  · rfl

/-- A send is a send of the other kind as long as the kernel does not run out of memory. -/
theorem tcp_send_same (ready : Ready sp) (memory : .stops .ENOMEM ∉ script) :
    iperf_tcp_send true sp script = iperf_tcp_send false sp script := by
  rw [tcp_send_eq true ready, tcp_send_eq false ready]
  apply Option.map_congr
  intro done ended
  have other : done.ending ≠ .stopped .ENOMEM := fun stopped =>
    memory (stopped_mem ended stopped)
  exact congrArg (account (start_block sp)) (written_same other)

/-- After a send the stream is ready for the next one, with what is left of the script. -/
theorem tcp_send_ready (zerocopy : Bool) {sent : Sent} (ready : Ready sp)
    (returned : iperf_tcp_send zerocopy sp script = some sent) :
    Ready sent.sp ∧ sent.script <:+ script := by
  rw [tcp_send_eq zerocopy ready, Option.map_eq_some_iff] at returned
  rcases returned with ⟨done, ended, rfl⟩
  constructor
  · exact (account_ready zerocopy (start_block_ready ready) ended rfl).1
  · rw [account_script]
    exact rest_suffix ended

/-- The runs with and without `--zerocopy` give the same return values, pending sizes and
counters, and hand the same bytes to the socket, call by call. -/
theorem zerocopy_equivalent (sp : Stream) (calls : Nat) (script : Script) (ready : Ready sp)
    (memory : .stops .ENOMEM ∉ script) :
    sends true calls sp script = sends false calls sp script := by
  induction calls generalizing sp script with
  | zero => rfl
  | succ calls ih =>
      simp only [sends, tcp_send_same ready memory]
      cases returned : iperf_tcp_send false sp script with
      | none => rfl
      | some sent =>
          rcases tcp_send_ready false ready returned with ⟨next, behind⟩
          have rest := ih sent.sp sent.script next fun member => memory (behind.mem member)
          exact congrArg (sent :: ·) rest

/-- A block of four bytes, sent in two parts around a soft error. -/
theorem zerocopy_equivalent_block :
    sends true 3 ⟨[1, 2, 3, 4], [1, 2, 3, 4], 4, 3, 0, 0⟩
        [.takes 2, .stops .EAGAIN, .takes 5, .takes 1, .takes 0] =
      sends false 3 ⟨[1, 2, 3, 4], [1, 2, 3, 4], 4, 3, 0, 0⟩
        [.takes 2, .stops .EAGAIN, .takes 5, .takes 1, .takes 0] := by
  apply zerocopy_equivalent
  · exact ⟨rfl, by decide, by decide, by decide⟩
  · decide

end Equivalence

end Iperf.TcpSend
