import Iperf.DiskBuffer

/-!
Sending a file. `diskfile_send` keeps up to one block of the file in the
stream's buffer and hands it to `iperf_tcp_send`; `diskfile_left` and
`pending_size` are two accounts of what is left there.
-/

namespace Iperf.DiskFile

open Transition

def NET_SOFTERROR : Int := -1

/-- What `Nwrite` (or `Nsendfile`) does with the bytes it is given. -/
inductive Outcome where
  | accepted (bytes : Nat)
  | soft_error

structure Stream where
  /-- what `read` has not returned yet -/
  file : List UInt8
  buffer : List UInt8
  diskfile_left : Nat
  pending_size : Nat
  /-- the test's `done`, which its timers set as well -/
  done : Bool
  /-- the bytes handed to the network, oldest first -/
  sent : List UInt8
  bytes_sent : UInt64

section Code
variable (blksize : Nat) (sp : Stream)

/-- `read` of up to `count` bytes into the front of the buffer returns `r` bytes:
none only at the end of the file. -/
def read (count r : Nat) : Option Stream :=
  if r ≤ count ∧ r ≤ sp.file.length ∧ (r = 0 → sp.file = []) then
    some { sp with
      buffer := sp.file.take r ++ sp.buffer.drop r
      file := sp.file.drop r }
  else none

def Nwrite (count : Nat) : Outcome → Option (Int × List UInt8)
  | .accepted bytes =>
      if 0 < bytes ∧ bytes ≤ count then some (bytes, sp.buffer.take bytes) else none
  | .soft_error => some (NET_SOFTERROR, [])

def iperf_tcp_send (outcome : Outcome) : Option (Int × Stream) :=
  let sp := if sp.pending_size = 0 then { sp with pending_size := blksize } else sp
  match Nwrite sp sp.pending_size outcome with
  | none => none
  | some (r, bytes) =>
      if r < 0 then some (r, sp)
      else
        some (r,
          { sp with
            pending_size := sp.pending_size - r.toNat
            sent := sp.sent ++ bytes
            bytes_sent := sp.bytes_sent + UInt64.ofNat r.toNat })

/-- `memcpy` of `count` bytes from `source` to the front of the buffer. C says nothing of a
copy whose ends overlap; it leaves anything there. -/
def memcpy (overlapped : Nat → UInt8) (buffer : List UInt8) (source count : Nat) : List UInt8 :=
  if count ≤ source then DiskBuffer.memcpy buffer source count
  else (List.range count).map overlapped ++ buffer.drop count

/-- The first half of `diskfile_send`: `buffer_left` and the stream. -/
def refill (r : Nat) : Option (Nat × Stream) :=
  if sp.diskfile_left < blksize ∧ sp.done = false then
    match read sp (blksize - sp.diskfile_left) r with
    | none => none
    | some loaded =>
        let buffer_left := sp.diskfile_left + r
        let pending_size := if buffer_left ≠ blksize then buffer_left else loaded.pending_size
        some (buffer_left,
          { loaded with
            pending_size := pending_size
            done := if buffer_left = 0 then true else loaded.done })
  else some (sp.diskfile_left, sp)

/-- The second half, after `snd2` returned `r`. -/
def shift (overlapped : Nat → UInt8) (buffer_left r : Nat) : Stream :=
  let sp := { sp with diskfile_left := buffer_left - r }
  if sp.diskfile_left ≠ 0 ∧ sp.diskfile_left < blksize then
    { sp with
      buffer := memcpy overlapped sp.buffer (blksize - sp.diskfile_left) sp.diskfile_left }
  else sp

/-- `r` and `outcome` are what the kernel returns to the call. -/
def diskfile_send (overlapped : Nat → UInt8) (r : Nat) (outcome : Outcome) :
    Option (Int × Stream) :=
  match refill blksize sp r with
  | none => none
  | some (buffer_left, sp) =>
      if sp.done ∨ buffer_left = 0 then some (0, { sp with done := true })
      else
        match iperf_tcp_send blksize sp outcome with
        | none => none
        | some (r, sp) =>
            if r < 0 then some (r, sp) else some (r, shift blksize sp overlapped buffer_left r.toNat)

end Code

/-- A stream whose file has just been opened; its buffer holds a block of anything. -/
def opened (file block : List UInt8) : Stream :=
  { file := file, buffer := block, diskfile_left := 0, pending_size := 0, done := false
    sent := [], bytes_sent := 0 }

inductive Event where
  | send (r : Nat) (outcome : Outcome)
  /-- another part of the test sets `done` -/
  | stop

inductive Step (blksize : Nat) : Stream → Event → Stream → Prop where
  | send {before after : Stream} {result : Int} (r : Nat) (outcome : Outcome)
      (overlapped : Nat → UInt8)
      (returned : diskfile_send blksize before overlapped r outcome = some (result, after)) :
      Step blksize before (.send r outcome) after
  | stop {before : Stream} : Step blksize before .stop { before with done := true }

/-- What the kernel may do in a call without the file being garbled: a read that
returns something finds no left-over bytes, a part of the bytes is accepted only
from a full buffer and is half of it at least, so that the rest is shifted by no less
than its length, and a soft error meets no freshly read bytes. -/
def Clean (blksize : Nat) (before : Stream) : Event → Prop
  | .send r outcome =>
      before.done = false →
      (0 < r → before.diskfile_left = 0) ∧
      match outcome with
      | .accepted bytes =>
          bytes < before.diskfile_left + r →
            before.diskfile_left + r = blksize ∧ blksize ≤ 2 * bytes
      | .soft_error => r = 0
  | .stop => True

def CleanStep (blksize : Nat) (before : Stream) (event : Event) (after : Stream) : Prop :=
  Step blksize before event after ∧ Clean blksize before event

section Invariant
variable {blksize buffer_left : Nat} {file : List UInt8} {sp : Stream}

/-- Between two calls the front of the buffer and the rest of the file are what
has not been sent. -/
structure Inv (blksize : Nat) (file : List UInt8) (sp : Stream) : Prop where
  block : sp.buffer.length = blksize
  short : sp.diskfile_left < blksize
  pending : sp.pending_size = sp.diskfile_left
  content : sp.sent ++ sp.buffer.take sp.diskfile_left ++ sp.file = file

/-- After the read, with `buffer_left` bytes to send. -/
structure Refilled (blksize : Nat) (file : List UInt8) (sp : Stream) (buffer_left : Nat) :
    Prop where
  block : sp.buffer.length = blksize
  fits : buffer_left ≤ blksize
  pending : buffer_left = blksize ∧ sp.pending_size = 0 ∨ sp.pending_size = buffer_left
  content : sp.sent ++ sp.buffer.take buffer_left ++ sp.file = file
  ended : buffer_left = 0 → sp.file = []

theorem opened_inv (positive : 0 < blksize) {block : List UInt8} (length : block.length = blksize) :
    Inv blksize file (opened file block) :=
  ⟨length, positive, rfl, rfl⟩

theorem sent_initial (inv : Inv blksize file sp) : sp.sent <+: file := by
  rw [← inv.content, List.append_assoc]
  exact List.prefix_append _ _

theorem Inv.stopped (inv : Inv blksize file sp) : Inv blksize file { sp with done := true } :=
  ⟨inv.block, inv.short, inv.pending, inv.content⟩

theorem read_inv {after : Stream} {r : Nat} (inv : Inv blksize file sp)
    (uncovered : 0 < r → sp.diskfile_left = 0)
    (returned : read sp (blksize - sp.diskfile_left) r = some after) :
    after.buffer.length = blksize ∧ sp.diskfile_left + r ≤ blksize ∧
      after.sent ++ after.buffer.take (sp.diskfile_left + r) ++ after.file = file ∧
      (r = 0 → after.file = []) ∧ after.pending_size = sp.pending_size ∧
      after.done = sp.done ∧ after.diskfile_left = sp.diskfile_left := by
  unfold read at returned
  split at returned
  · rename_i offered
    obtain ⟨asked, stored, ended⟩ := offered
    cases returned
    have block := inv.block
    have short := inv.short
    have content := inv.content
    refine ⟨?_, by omega, ?_, fun none => by simp [none, ended], rfl, rfl, rfl⟩
    · simp only [List.length_append, List.length_take, List.length_drop]
      omega
    · rcases Nat.eq_zero_or_pos r with none | some
      · simpa [none] using content
      · simp only [uncovered some, Nat.zero_add] at content ⊢
        rw [List.take_append_of_le_length (by simp [stored]), List.take_take, Nat.min_self]
        simpa using content
  · cases returned

theorem refill_inv {after : Stream} {r : Nat} (inv : Inv blksize file sp)
    (running : sp.done = false) (uncovered : 0 < r → sp.diskfile_left = 0)
    (returned : refill blksize sp r = some (buffer_left, after)) :
    buffer_left = sp.diskfile_left + r ∧ after.diskfile_left = sp.diskfile_left ∧
      after.done = decide (buffer_left = 0) ∧ Refilled blksize file after buffer_left := by
  rw [refill, if_pos ⟨inv.short, running⟩] at returned
  split at returned
  · cases returned
  · rename_i loaded taken
    obtain ⟨block, fits, content, ended, pending, still, left⟩ := read_inv inv uncovered taken
    obtain ⟨rfl, rfl⟩ := Prod.mk.inj (Option.some.inj returned)
    refine ⟨rfl, left, ?_, block, fits, ?_, content, fun none => ended (Nat.add_eq_zero_iff.mp none).2⟩
    · by_cases empty : sp.diskfile_left + r = 0
      · simp [empty]
      · simp [still, running]
    · by_cases full : sp.diskfile_left + r = blksize
      · -- the block is full only if it was empty, and then nothing is pending
        have short := inv.short
        have empty := uncovered (by omega)
        refine Or.inl ⟨full, ?_⟩
        exact (if_neg (Decidable.not_not.mpr full)).trans (by rw [pending, inv.pending, empty])
      · exact Or.inr (by simp [full])

theorem take_split (buffer : List UInt8) (n k : Nat) (fits : k ≤ n) :
    buffer.take k ++ (buffer.drop k).take (n - k) = buffer.take n := by
  rw [← List.take_add, Nat.add_sub_cancel' fits]

theorem memcpy_front {buffer : List UInt8} {source count : Nat} (overlapped : Nat → UInt8)
    (apart : count ≤ source) (inside : source + count ≤ buffer.length) :
    (memcpy overlapped buffer source count).take count = (buffer.drop source).take count ∧
      (memcpy overlapped buffer source count).length = buffer.length := by
  have copied : ((buffer.drop source).take count).length = count := by
    simp only [List.length_take, List.length_drop]
    omega
  rw [memcpy, if_pos apart]
  constructor
  · rw [DiskBuffer.memcpy, List.take_append_of_le_length (by omega), List.take_take, Nat.min_self]
  · exact DiskBuffer.memcpy_length inside

theorem Refilled.size (refilled : Refilled blksize file sp buffer_left) (some : buffer_left ≠ 0) :
    (if sp.pending_size = 0 then { sp with pending_size := blksize } else sp) =
      { sp with pending_size := buffer_left } := by
  rcases refilled.pending with ⟨full, none⟩ | exactly
  · rw [if_pos none, full]
  · rw [if_neg (by omega), ← exactly]

/-- The bytes that are accepted are the first of the `buffer_left`. -/
theorem iperf_tcp_send_accepted {after : Stream} {bytes : Nat} {result : Int}
    (refilled : Refilled blksize file sp buffer_left) (some : buffer_left ≠ 0)
    (returned : iperf_tcp_send blksize sp (.accepted bytes) = Option.some (result, after)) :
    0 < bytes ∧ bytes ≤ buffer_left ∧ result = bytes ∧
      after = { sp with
        pending_size := buffer_left - bytes
        sent := sp.sent ++ sp.buffer.take bytes
        bytes_sent := sp.bytes_sent + UInt64.ofNat bytes } := by
  rw [iperf_tcp_send, refilled.size some] at returned
  simp only [Nwrite] at returned
  by_cases offered : 0 < bytes ∧ bytes ≤ buffer_left
  · simp only [if_pos offered, if_neg (Int.not_lt.mpr (Int.natCast_nonneg bytes)),
      Option.some.injEq, Prod.mk.injEq] at returned
    obtain ⟨rfl, rfl⟩ := returned
    exact ⟨offered.1, offered.2, rfl, rfl⟩
  · simp [if_neg offered] at returned

theorem iperf_tcp_send_soft {after : Stream} {result : Int}
    (refilled : Refilled blksize file sp buffer_left) (some : buffer_left ≠ 0)
    (returned : iperf_tcp_send blksize sp .soft_error = Option.some (result, after)) :
    result < 0 ∧ after = { sp with pending_size := buffer_left } := by
  rw [iperf_tcp_send, refilled.size some] at returned
  obtain ⟨rfl, rfl⟩ := Prod.mk.inj (Option.some.inj returned)
  exact ⟨by decide, rfl⟩

theorem shift_done (overlapped : Nat → UInt8) (n r : Nat) :
    (shift blksize sp overlapped n r).done = sp.done := by
  unfold shift
  dsimp only
  split <;> rfl

/-- The left-over bytes of a full block end up at the front of the buffer. -/
theorem shift_inv {after : Stream} {bytes : Nat} (overlapped : Nat → UInt8)
    (refilled : Refilled blksize file sp buffer_left) (positive : 0 < bytes)
    (fits : bytes ≤ buffer_left) (whole : bytes < buffer_left → buffer_left = blksize ∧ blksize ≤ 2 * bytes)
    (same : after = { sp with
      pending_size := buffer_left - bytes
      sent := sp.sent ++ sp.buffer.take bytes
      bytes_sent := sp.bytes_sent + UInt64.ofNat bytes }) :
    Inv blksize file (shift blksize after overlapped buffer_left bytes) := by
  subst same
  have block := refilled.block
  have room := refilled.fits
  have content := refilled.content
  rw [← take_split sp.buffer buffer_left bytes fits] at content
  unfold shift
  by_cases left : buffer_left - bytes ≠ 0 ∧ buffer_left - bytes < blksize
  · simp only [if_pos left]
    obtain ⟨full, half⟩ := whole (by omega)
    have source : blksize - (buffer_left - bytes) = bytes := by omega
    have front := @memcpy_front sp.buffer bytes (buffer_left - bytes) overlapped (by omega) (by omega)
    refine ⟨?_, left.2, rfl, ?_⟩
    · rw [source, front.2, block]
    · simp only [source, front.1]
      simpa [List.append_assoc] using content
  · simp only [if_neg left]
    have none : buffer_left - bytes = 0 := by omega
    refine ⟨block, by simp only [none]; omega, rfl, ?_⟩
    simp only [none, List.take_zero, List.append_nil] at content ⊢
    exact content

theorem diskfile_send_inv {after : Stream} {r : Nat} {outcome : Outcome} {result : Int}
    {overlapped : Nat → UInt8} (inv : Inv blksize file sp) (clean : Clean blksize sp (.send r outcome))
    (returned : diskfile_send blksize sp overlapped r outcome = some (result, after)) :
    Inv blksize file after ∧ (sp.done = false → after.done = true → after.sent = file) := by
  unfold diskfile_send at returned
  cases stopped : sp.done with
  | true =>
      have kept : refill blksize sp r = some (sp.diskfile_left, sp) := by simp [refill, stopped]
      simp only [kept, stopped, true_or, if_true, Option.some.injEq, Prod.mk.injEq] at returned
      obtain ⟨_, rfl⟩ := returned
      exact ⟨inv.stopped, by simp⟩
  | false =>
      obtain ⟨uncovered, kernel⟩ := clean stopped
      split at returned
      · cases returned
      · rename_i buffer_left loaded taken
        obtain ⟨counted, left, done, refilled⟩ := refill_inv inv stopped uncovered taken
        by_cases empty : buffer_left = 0
        · simp only [empty, or_true, if_true, Option.some.injEq, Prod.mk.injEq] at returned
          obtain ⟨_, rfl⟩ := returned
          have content := refilled.content
          simp only [refilled.ended empty, empty, List.take_zero, List.append_nil] at content
          have left_none : loaded.diskfile_left = 0 := by omega
          have pending : loaded.pending_size = 0 := by
            rcases refilled.pending with ⟨_, none⟩ | exactly
            · exact none
            · exact exactly.trans empty
          refine ⟨⟨refilled.block, left ▸ inv.short, pending.trans left_none.symm, ?_⟩,
            fun _ _ => content⟩
          simp only [left_none, List.take_zero, List.append_nil, refilled.ended empty]
          exact content
        · rw [if_neg (by simp [done, empty])] at returned
          split at returned
          · cases returned
          · rename_i result sent handed
            cases outcome with
            | accepted bytes =>
                obtain ⟨positive, fits, same, after_send⟩ :=
                  iperf_tcp_send_accepted refilled empty handed
                have whole : bytes < buffer_left → buffer_left = blksize ∧ blksize ≤ 2 * bytes := by
                  rw [counted]
                  exact kernel
                rw [if_neg (by omega)] at returned
                obtain ⟨_, rfl⟩ := Prod.mk.inj (Option.some.inj returned)
                have shifted := shift_inv overlapped refilled positive fits whole after_send
                simp only [same, Int.toNat_natCast]
                refine ⟨shifted, fun _ ended => ?_⟩
                simp [shift_done, after_send, done, empty] at ended
            | soft_error =>
                obtain ⟨negative, after_send⟩ := iperf_tcp_send_soft refilled empty handed
                rw [if_pos negative] at returned
                obtain ⟨_, rfl⟩ := Prod.mk.inj (Option.some.inj returned)
                have none : r = 0 := kernel
                have same : buffer_left = sp.diskfile_left := by rw [counted, none, Nat.add_zero]
                subst after_send
                refine ⟨⟨refilled.block, left ▸ inv.short, ?_, ?_⟩, ?_⟩
                · exact same.trans left.symm
                · simp only [left]
                  rw [← same]
                  exact refilled.content
                · simp [done, empty]

theorem step_inv {event : Event} {after : Stream} (inv : Inv blksize file sp)
    (step : CleanStep blksize sp event after) :
    Inv blksize file after ∧
      (event ≠ .stop → sp.done = false → after.done = true → after.sent = file) := by
  obtain ⟨step, clean⟩ := step
  cases step with
  | send r outcome overlapped returned =>
      obtain ⟨kept, ended⟩ := diskfile_send_inv inv clean returned
      exact ⟨kept, fun _ => ended⟩
  | stop => exact ⟨inv.stopped, fun other => absurd rfl other⟩

end Invariant

/-- What is sent is at all times a prefix of the file, and the whole file when a
call finds the end of the data. -/
theorem file_sent (blksize : Nat) (file block : List UInt8) (past : List Event)
    (positive : 0 < blksize) (length : block.length = blksize) (sp : Stream)
    (run : Run (CleanStep blksize) (opened file block) past sp) :
    sp.sent <+: file ∧
      ∀ r outcome after, CleanStep blksize sp (.send r outcome) after →
        sp.done = false → after.done = true → after.sent = file := by
  have inv : Inv blksize file sp := run.invariant (fun _ sp => Inv blksize file sp)
    (opened_inv positive length) fun _ _ _ _ inv step => (step_inv inv step).1
  exact ⟨sent_initial inv, fun r outcome after step => (step_inv inv step).2 (by simp)⟩

/-- A file of two blocks, whose second block goes out in two parts. -/
theorem file_sent_sample :
    ∃ sp after, sp.sent <+: [1, 2, 3, 4] ∧
      Step 2 sp (.send 0 .soft_error) after ∧ after.sent = [1, 2, 3, 4] := by
  have first := Run.next (.send 2 (.accepted 2))
    (Run.start : Run (CleanStep 2) (opened [1, 2, 3, 4] [9, 9]) [] _)
    ⟨.send 2 (.accepted 2) (fun _ => 0) rfl, by simp [Clean, opened]⟩
  have part := Run.next (.send 2 (.accepted 1)) first
    ⟨.send 2 (.accepted 1) (fun _ => 0) rfl, by intro _; decide⟩
  have refused := Run.next (.send 0 .soft_error) part
    ⟨.send 0 .soft_error (fun _ => 0) rfl, by intro _; decide⟩
  have rest := Run.next (.send 0 (.accepted 1)) refused
    ⟨.send 0 (.accepted 1) (fun _ => 0) rfl, by intro _; decide⟩
  obtain ⟨sent, ended⟩ := file_sent 2 [1, 2, 3, 4] [9, 9] _ (by decide) rfl _ rest
  exact ⟨_, _, sent, .send 0 .soft_error (fun _ => 0) rfl,
    ended 0 .soft_error _ ⟨.send 0 .soft_error (fun _ => 0) rfl, by intro _; decide⟩ rfl rfl⟩

/-- The first block of four bytes goes out in two parts; the second call reads
the rest of the file over the bytes that are left of it. -/
theorem file_sent_counterexample :
    ¬ ∀ (blksize : Nat) (file block : List UInt8) (past : List Event) (sp : Stream),
      0 < blksize → block.length = blksize → Run (Step blksize) (opened file block) past sp →
      sp.sent <+: file ∧
        ∀ r outcome after, Step blksize sp (.send r outcome) after →
          sp.done = false → after.done = true → after.sent = file := by
  intro claimed
  have first := Run.next (.send 4 (.accepted 2))
    (Run.start : Run (Step 4) (opened [1, 2, 3, 4, 5, 6] [9, 9, 9, 9]) [] _)
    (.send 4 (.accepted 2) (fun _ => 0) rfl)
  have second := Run.next (.send 2 (.accepted 2)) first (.send 2 (.accepted 2) (fun _ => 0) rfl)
  have sent := (claimed 4 [1, 2, 3, 4, 5, 6] [9, 9, 9, 9] _ _ (by decide) rfl second).1
  exact absurd sent (by decide)

section Words
variable {zerocopy : Bool} {sp : DiskBuffer.FileStream} {file sent data : List UInt8}

/-- A stream with its counters as words, what of the file has not been read, and what has
been sent of it. -/
structure Sender where
  sp : DiskBuffer.FileStream
  file : List UInt8
  sent : List UInt8

def blksize_of (sp : DiskBuffer.FileStream) : Nat := sp.snd.blksize.toInt.toNat

/-- The same stream with its counters as numbers. -/
def counts (sender : Sender) : Stream :=
  { file := sender.file
    buffer := sender.sp.snd.buffer
    diskfile_left := sender.sp.diskfile_left.toInt.toNat
    pending_size := sender.sp.snd.pending_size.toInt.toNat
    done := sender.sp.done
    sent := sender.sent
    bytes_sent := sender.sp.snd.bytes_sent }

/-- A read returns the next bytes of the file, and none only at its end. -/
structure Reads (sp : DiskBuffer.FileStream) (file data : List UInt8) : Prop where
  asked : data.length ≤ DiskBuffer.asked sp
  next : data <+: file
  ended : data = [] → file = []

/-- What a call leaves of the file. -/
def unread (sp : DiskBuffer.FileStream) (file data : List UInt8) : List UInt8 :=
  if DiskBuffer.reads sp then file.drop data.length else file

/-- The network counts what it accepts, or fails softly and has accepted nothing. -/
def Counted (sent : TcpSend.Sent) : Prop :=
  sent.r < 0 → sent.r = SocketWrites.NET_SOFTERROR ∧ sent.bytes = []

/-- What the network accepts in a call. -/
def accepted (zerocopy : Bool) (sp : DiskBuffer.FileStream) (data : List UInt8)
    (script : SocketWrites.Script) : List UInt8 :=
  let (buffer_left, sp) := DiskBuffer.refill sp (.bytes data)
  if sp.done ∨ buffer_left = 0 then []
  else ((TcpSend.iperf_tcp_send zerocopy sp.snd script).map fun sent => sent.bytes).getD []

theorem no_bytes_iff {count : Int32} (least : 0 ≤ count.toInt) :
    count.toInt.toNat = 0 ↔ count = 0 := by
  have zero : (0 : Int32).toInt = 0 := rfl
  rw [← Int32.toInt_inj, zero]
  omega

/-- After a read the sum of the words is that of the numbers. -/
theorem filled_toInt (inv : DiskBuffer.Inv sp) (runs : DiskBuffer.reads sp = true)
    (given : Reads sp file data) :
    (sp.diskfile_left + Int32.ofNat data.length).toInt = sp.diskfile_left.toInt + data.length := by
  have least := inv.least
  have room := DiskBuffer.asked_eq inv
  have asked := given.asked
  have small := sp.snd.blksize.toInt_lt
  have short : sp.diskfile_left.toInt < sp.snd.blksize.toInt := by
    simp only [DiskBuffer.reads, decide_eq_true_eq] at runs
    exact Int32.lt_iff_toInt_lt.mp runs.1
  have length : (Int32.ofNat data.length).toInt = data.length :=
    Int32.toInt_ofNat_of_lt (by omega)
  rw [MachineWords.add_toInt (by omega) (by omega), length]

theorem read_refines (inv : DiskBuffer.Inv sp) (given : Reads sp file data) :
    read (counts ⟨sp, file, sent⟩)
        (blksize_of sp - (counts ⟨sp, file, sent⟩).diskfile_left) data.length =
      some { counts ⟨sp, file, sent⟩ with
        buffer := data ++ sp.snd.buffer.drop data.length
        file := file.drop data.length } := by
  have least := inv.least
  have room := DiskBuffer.asked_eq inv
  have asked := given.asked
  have taken : file.take data.length = data := (List.prefix_iff_eq_take.mp given.next).symm
  have offered : data.length ≤ blksize_of sp - sp.diskfile_left.toInt.toNat ∧
      data.length ≤ file.length ∧ (data.length = 0 → file = []) := by
    refine ⟨?_, given.next.length_le, fun none => given.ended (List.length_eq_zero_iff.mp none)⟩
    rw [blksize_of]
    omega
  simp only [read, counts, if_pos offered, taken]

theorem refill_refines (inv : DiskBuffer.Inv sp) (running : sp.done = false)
    (reading : DiskBuffer.reads sp = true → Reads sp file data) :
    refill (blksize_of sp) (counts ⟨sp, file, sent⟩) data.length =
      some ((DiskBuffer.refill sp (.bytes data)).1.toInt.toNat,
        counts ⟨(DiskBuffer.refill sp (.bytes data)).2, unread sp file data, sent⟩) := by
  have least := inv.least
  have most := inv.most
  by_cases runs : DiskBuffer.reads sp = true
  · have given := reading runs
    have sum := filled_toInt inv runs given
    have begins : (counts ⟨sp, file, sent⟩).diskfile_left < blksize_of sp ∧
        (counts ⟨sp, file, sent⟩).done = false := by
      simp only [DiskBuffer.reads, decide_eq_true_eq, Int32.lt_iff_toInt_lt] at runs
      simp only [counts, blksize_of]
      exact ⟨by omega, running⟩
    rw [refill, if_pos begins, read_refines inv given]
    simp only [DiskBuffer.refill, if_pos runs, DiskBuffer.read_result, DiskBuffer.stored, unread]
    have number : (counts ⟨sp, file, sent⟩).diskfile_left + data.length =
        (sp.diskfile_left + Int32.ofNat data.length).toInt.toNat := by
      simp only [counts]
      omega
    have full : (sp.diskfile_left + Int32.ofNat data.length).toInt.toNat ≠ blksize_of sp ↔
        sp.diskfile_left + Int32.ofNat data.length ≠ sp.snd.blksize := by
      rw [ne_eq, ne_eq, ← Int32.toInt_inj, blksize_of]
      omega
    have empty := @no_bytes_iff (sp.diskfile_left + Int32.ofNat data.length) (by omega)
    simp only [number, full, empty]
    by_cases whole : sp.diskfile_left + Int32.ofNat data.length = sp.snd.blksize
    · by_cases none : sp.diskfile_left + Int32.ofNat data.length = 0
      · simp only [ne_eq, eq_true whole, eq_true none, not_true_eq_false, if_false, if_true]
        rfl
      · simp only [ne_eq, eq_true whole, eq_false none, not_true_eq_false, if_false]
        rfl
    · by_cases none : sp.diskfile_left + Int32.ofNat data.length = 0
      · simp only [ne_eq, eq_false whole, eq_true none, not_false_eq_true, if_true]
        rfl
      · simp only [ne_eq, eq_false whole, eq_false none, not_false_eq_true, if_true, if_false]
        rfl
  · -- The block is full, and the file is not read.
    have full : ¬ ((counts ⟨sp, file, sent⟩).diskfile_left < blksize_of sp ∧
        (counts ⟨sp, file, sent⟩).done = false) := by
      rintro ⟨short, -⟩
      apply runs
      have less : sp.diskfile_left < sp.snd.blksize := by
        rw [Int32.lt_iff_toInt_lt]
        simp only [counts, blksize_of] at short
        omega
      simp [DiskBuffer.reads, less, running]
    rw [refill, if_neg full, DiskBuffer.refill, if_neg runs, unread, if_neg runs]
    rfl

/-- The block that the network gets. -/
theorem start_block_refines (ready : TcpSend.Ready sp.snd) :
    (if (counts ⟨sp, file, sent⟩).pending_size = 0 then
        { counts ⟨sp, file, sent⟩ with pending_size := blksize_of sp }
      else counts ⟨sp, file, sent⟩) =
      counts ⟨{ sp with snd := TcpSend.start_block sp.snd }, file, sent⟩ := by
  have empty : (counts ⟨sp, file, sent⟩).pending_size = 0 ↔ sp.snd.pending_size = 0 :=
    no_bytes_iff ready.least
  by_cases none : sp.snd.pending_size = 0
  · rw [if_pos (empty.mpr none), TcpSend.start_block, if_pos none]
    rfl
  · rw [if_neg (empty.not.mpr none), TcpSend.start_block, if_neg none]

/-- A copy without a gap between its ends, in the byte order of `DiskBuffer`. -/
theorem memcpy_some (buffer : List UInt8) {source count : Nat}
    (inside : source + count ≤ buffer.length) :
    memcpy (fun index => buffer.getD (source + index) 0) buffer source count =
      DiskBuffer.memcpy buffer source count := by
  rw [memcpy]
  split
  · rfl
  · rw [DiskBuffer.memcpy]
    congr 1
    apply List.ext_getElem
    · simp only [List.length_map, List.length_range, List.length_take, List.length_drop]
      omega
    · intro index early late
      simp only [List.length_map, List.length_range] at early
      simp [List.getElem?_eq_getElem (show source + index < buffer.length by omega)]

/-- The overlapping copy leaves what it leaves when it starts at the front. -/
theorem shift_refines {buffer_left r : Int32}
    (block : (sp.snd.buffer.length : Int) = sp.snd.blksize.toInt) (least : 0 ≤ r.toInt)
    (within : r.toInt ≤ buffer_left.toInt) (most : buffer_left.toInt ≤ sp.snd.blksize.toInt) :
    ∃ overlapped,
      shift (blksize_of sp) (counts ⟨sp, file, sent⟩) overlapped buffer_left.toInt.toNat
          r.toInt.toNat =
        counts ⟨DiskBuffer.shift sp buffer_left r, file, sent⟩ := by
  have small := sp.snd.blksize.toInt_lt
  have left : (buffer_left - r).toInt = buffer_left.toInt - r.toInt :=
    MachineWords.sub_toInt (by omega) (by omega)
  have behind : (sp.snd.blksize - (buffer_left - r)).toInt =
      sp.snd.blksize.toInt - (buffer_left - r).toInt := MachineWords.sub_toInt (by omega) (by omega)
  have number : buffer_left.toInt.toNat - r.toInt.toNat = (buffer_left - r).toInt.toNat := by omega
  have count : MachineWords.size_of_int (buffer_left - r) = (buffer_left - r).toInt.toNat :=
    MachineWords.size_of_nonneg (by omega)
  have source : MachineWords.size_of_int (sp.snd.blksize - (buffer_left - r)) =
      blksize_of sp - (buffer_left - r).toInt.toNat := by
    rw [MachineWords.size_of_nonneg (by omega), behind, blksize_of]
    omega
  obtain ⟨rest, same⟩ : ∃ rest, rest = buffer_left - r := ⟨_, rfl⟩
  rw [← same] at left behind number count source
  have moves : (rest.toInt.toNat ≠ 0 ∧ rest.toInt.toNat < blksize_of sp) ↔
      (rest ≠ 0 ∧ rest < sp.snd.blksize) := by
    apply and_congr (not_congr (no_bytes_iff (by omega)))
    rw [Int32.lt_iff_toInt_lt, blksize_of]
    omega
  refine ⟨fun index => sp.snd.buffer.getD (blksize_of sp - rest.toInt.toNat + index) 0, ?_⟩
  have copied := @memcpy_some sp.snd.buffer (blksize_of sp - rest.toInt.toNat) rest.toInt.toNat
    (by rw [blksize_of]; omega)
  have left_behind : (counts ⟨sp, file, sent⟩).buffer = sp.snd.buffer := rfl
  simp only [shift, DiskBuffer.shift, ← same, number, moves, left_behind, copied, count, source]
  by_cases some : rest ≠ 0 ∧ rest < sp.snd.blksize
  · simp only [eq_true some, if_true]
    rfl
  · simp only [eq_false some, if_false]
    rfl

/-- A block that has been started is not empty. -/
theorem start_block_positive (ready : TcpSend.Ready sp.snd) (positive : 0 < sp.snd.blksize.toInt) :
    0 < (TcpSend.start_block sp.snd).pending_size.toInt := by
  by_cases none : sp.snd.pending_size = 0
  · rwa [TcpSend.start_block, if_pos none]
  · rw [TcpSend.start_block, if_neg none]
    rw [← no_bytes_iff ready.least] at none
    omega

/-- The network takes a part of the block, or fails softly. -/
theorem tcp_send_refines {script : SocketWrites.Script} {result : TcpSend.Sent}
    (ready : TcpSend.Ready sp.snd) (positive : 0 < sp.snd.blksize.toInt)
    (counted : Counted result)
    (returned : TcpSend.iperf_tcp_send zerocopy sp.snd script = some result) :
    ∃ outcome,
      iperf_tcp_send (blksize_of sp) (counts ⟨sp, file, sent⟩) outcome =
        some (result.r.toInt,
          counts ⟨{ sp with snd := result.sp }, file, sent ++ result.bytes⟩) := by
  have zero : (0 : Int32).toInt = 0 := rfl
  have begun := @start_block_refines sp file sent ready
  have kept := TcpSend.start_block_ready ready
  have pending := start_block_positive ready positive
  have size := kept.room.2.2
  rw [TcpSend.tcp_send_eq zerocopy ready, Option.map_eq_some_iff] at returned
  rcases returned with ⟨done, ended, rfl⟩
  rcases TcpSend.account_ready zerocopy kept ended rfl with ⟨_, failed | took⟩
  · rcases failed with ⟨negative, unchanged⟩
    rw [← zero, ← Int32.lt_iff_toInt_lt] at negative
    rw [Counted, TcpSend.account_r] at counted
    rcases counted negative with ⟨soft, none⟩
    refine ⟨.soft_error, ?_⟩
    rw [iperf_tcp_send, begun, TcpSend.account_r, soft, unchanged, none, List.append_nil]
    rfl
  · rcases took with ⟨taken, left, _, bytes⟩
    -- A write that takes nothing of a block fails.
    have some : 0 < done.taken := by
      by_contra nothing
      have part := DiskBuffer.part_is_cut ended (by rw [taken]; omega) (by omega)
      exact nothing part.1
    have within := (Transfer.transfer_bounds ended).2.1
    have offered : 0 < done.taken ∧
        done.taken ≤ (TcpSend.start_block sp.snd).pending_size.toInt.toNat := by omega
    have network : Nwrite (counts ⟨{ sp with snd := TcpSend.start_block sp.snd }, file, sent⟩)
        (TcpSend.start_block sp.snd).pending_size.toInt.toNat (.accepted done.taken) =
          Option.some ((done.taken : Int), (TcpSend.start_block sp.snd).buffer.take done.taken) :=
      if_pos offered
    generalize made : SocketWrites.written (SocketWrites.switch zerocopy)
      (TcpSend.start_block sp.snd).buffer
      (MachineWords.size_of_int (TcpSend.start_block sp.snd).pending_size) done = written at *
    have goes : ¬ written.r < 0 := by
      rw [Int32.lt_iff_toInt_lt, zero, taken]
      omega
    have accepts : written.sent = (TcpSend.start_block sp.snd).buffer.take done.taken := by
      rw [← made]
      rfl
    simp only [TcpSend.account, if_neg goes] at left bytes ⊢
    have number : (TcpSend.start_block sp.snd).pending_size.toInt.toNat - (done.taken : Int).toNat =
        ((TcpSend.start_block sp.snd).pending_size - written.r).toInt.toNat := by omega
    refine ⟨.accepted done.taken, ?_⟩
    rw [iperf_tcp_send, begun]
    simp only [counts] at network ⊢
    rw [network]
    dsimp only
    rw [if_neg (by omega), number, bytes, taken, accepts]
    rfl

/-- A call keeps the size of the blocks and counts no more than it was given. -/
theorem tcp_send_bounds {script : SocketWrites.Script} {result : TcpSend.Sent}
    (ready : TcpSend.Ready sp.snd)
    (returned : TcpSend.iperf_tcp_send zerocopy sp.snd script = some result) :
    result.sp.blksize = sp.snd.blksize ∧
      (0 ≤ result.r.toInt →
        result.r.toInt ≤ MachineWords.size_of_int (TcpSend.start_block sp.snd).pending_size) := by
  rw [TcpSend.tcp_send_eq zerocopy ready, Option.map_eq_some_iff] at returned
  rcases returned with ⟨done, ended, rfl⟩
  have within := (Transfer.transfer_bounds ended).2.1
  rw [TcpSend.account_r, ← TcpSend.start_block_blksize sp.snd]
  rcases TcpSend.account_ready zerocopy (TcpSend.start_block_ready ready) ended rfl with
    ⟨_, failed | took⟩
  · rcases failed with ⟨negative, unchanged⟩
    exact ⟨congrArg TcpSend.Stream.blksize unchanged, fun counted => by omega⟩
  · rcases took with ⟨taken, _, block, _⟩
    exact ⟨block, fun _ => by omega⟩

/-- A read out of the file does not fail. -/
theorem refill_reads (inv : DiskBuffer.Inv sp) (running : sp.done = false)
    (reading : DiskBuffer.reads sp = true → Reads sp file data) :
    DiskBuffer.Loaded sp (DiskBuffer.refill sp (.bytes data)).1
      (DiskBuffer.refill sp (.bytes data)).2 := by
  have succeeds : ¬ DiskBuffer.FailsEmpty sp (.bytes data) := by rintro ⟨_, ⟨⟩, _⟩
  have answers : DiskBuffer.reads sp = true → DiskBuffer.Answers sp (.bytes data) :=
    fun runs => (reading runs).asked
  exact (DiskBuffer.refill_loaded inv answers succeeds running).1

/-- A call that keeps words is one that keeps numbers, with the same result; where its copy
overlaps, the bytes that it leaves are some that C allows. -/
theorem diskfile_send_refines {script : SocketWrites.Script} {r : Int32}
    {after : DiskBuffer.FileStream} (inv : DiskBuffer.Inv sp)
    (reading : DiskBuffer.reads sp = true → Reads sp file data)
    (counted : ∀ result, TcpSend.iperf_tcp_send zerocopy
      (DiskBuffer.refill sp (.bytes data)).2.snd script = some result → Counted result)
    (returned : DiskBuffer.diskfile_send zerocopy sp (.bytes data) script = some (r, after)) :
    ∃ overlapped outcome,
      diskfile_send (blksize_of sp) (counts ⟨sp, file, sent⟩) overlapped data.length outcome =
        some (r.toInt,
          counts ⟨after, unread sp file data, sent ++ accepted zerocopy sp data script⟩) := by
  cases stopped : sp.done with
  | true =>
      have rests : ¬ DiskBuffer.reads sp = true := by simp [DiskBuffer.reads, stopped]
      have kept : refill (blksize_of sp) (counts ⟨sp, file, sent⟩) data.length =
          some (sp.diskfile_left.toInt.toNat, counts ⟨sp, file, sent⟩) :=
        if_neg fun runs => Bool.false_ne_true (runs.2.symm.trans stopped)
      have same := DiskBuffer.stopped_refill stopped (.bytes data)
      simp only [DiskBuffer.diskfile_send, same, stopped, true_or, if_true] at returned
      cases returned
      refine ⟨fun _ => 0, .soft_error, ?_⟩
      have done : (counts ⟨sp, file, sent⟩).done = true := stopped
      simp only [diskfile_send, kept, done, true_or, if_true, accepted, same, stopped, unread,
        if_neg rests, List.append_nil]
      rfl
  | false =>
      have refilled := @refill_refines sp file sent data inv stopped reading
      have at_ := refill_reads inv stopped reading
      simp only [DiskBuffer.diskfile_send, diskfile_send, accepted, refilled] at returned ⊢
      generalize DiskBuffer.refill sp (.bytes data) = refill at *
      rcases refill with ⟨buffer_left, loaded⟩
      have empty : (counts ⟨loaded, unread sp file data, sent⟩).done = true ∨
          buffer_left.toInt.toNat = 0 ↔ loaded.done = true ∨ buffer_left = 0 :=
        or_congr Iff.rfl (no_bytes_iff at_.least)
      by_cases ends : loaded.done = true ∨ buffer_left = 0
      · -- The file is at its end.
        rw [if_pos ends] at returned ⊢
        cases returned
        refine ⟨fun _ => 0, .soft_error, ?_⟩
        rw [if_pos (empty.mpr ends), List.append_nil]
        rfl
      · rw [if_neg ends] at returned ⊢
        rw [not_or] at ends
        rcases Option.map_eq_some_iff.mp returned with ⟨result, handed, same⟩
        rcases tcp_send_bounds at_.ready handed with ⟨block, within⟩
        have positive : 0 < loaded.snd.blksize.toInt := at_.block ▸ inv.positive
        rcases @tcp_send_refines zerocopy loaded (unread sp file data) sent script result at_.ready
          positive (counted result handed) handed with ⟨outcome, network⟩
        have size : blksize_of loaded = blksize_of sp := congrArg (·.toInt.toNat) at_.block
        rw [size] at network
        have read_back : (((TcpSend.iperf_tcp_send zerocopy loaded.snd script).map
            fun sent => sent.bytes).getD []) = result.bytes := by rw [handed]; rfl
        have sign : result.r.toInt < 0 ↔ result.r < 0 :=
          (@Int32.lt_iff_toInt_lt result.r 0).symm
        simp only [read_back]
        by_cases failed : result.r < 0
        · -- Nothing is shifted after a soft error.
          rw [if_pos failed] at same
          cases same
          refine ⟨fun _ => 0, outcome, ?_⟩
          rw [if_neg (empty.not.mpr (not_or.mpr ends)), network]
          exact if_pos (sign.mpr failed)
        · rw [if_neg failed] at same
          cases same
          have nonneg : 0 ≤ result.r.toInt := not_lt.mp (sign.not.mpr failed)
          have count := (at_.count ends.2).1
          have ready := (TcpSend.tcp_send_ready zerocopy at_.ready handed).1
          rcases @shift_refines { loaded with snd := result.sp } (unread sp file data)
            (sent ++ result.bytes) buffer_left result.r ready.block nonneg
            (Int.le_trans (within nonneg) count) (by rw [block]; exact at_.most) with
            ⟨overlapped, moved⟩
          refine ⟨overlapped, outcome, ?_⟩
          have kept : blksize_of { loaded with snd := result.sp } = blksize_of sp :=
            congrArg (·.toInt.toNat) (block.trans at_.block)
          rw [kept] at moved
          rw [if_neg (empty.not.mpr (not_or.mpr ends)), network, ← moved]
          exact if_neg (sign.not.mpr failed)

theorem shift_blksize (sp : DiskBuffer.FileStream) (buffer_left r : Int32) :
    (DiskBuffer.shift sp buffer_left r).snd.blksize = sp.snd.blksize := by
  simp only [DiskBuffer.shift]
  split
  · rfl
  · rfl

theorem blksize_kept {script : SocketWrites.Script} {r : Int32} {after : DiskBuffer.FileStream}
    (inv : DiskBuffer.Inv sp) (reading : DiskBuffer.reads sp = true → Reads sp file data)
    (returned : DiskBuffer.diskfile_send zerocopy sp (.bytes data) script = some (r, after)) :
    after.snd.blksize = sp.snd.blksize := by
  cases stopped : sp.done with
  | true =>
      simp only [DiskBuffer.diskfile_send, DiskBuffer.stopped_refill stopped, stopped, true_or,
        if_true] at returned
      cases returned
      rfl
  | false =>
      have at_ := refill_reads inv stopped reading
      simp only [DiskBuffer.diskfile_send] at returned
      split at returned
      · cases returned
        exact at_.block
      · rcases Option.map_eq_some_iff.mp returned with ⟨result, handed, same⟩
        have block := (tcp_send_bounds at_.ready handed).1.trans at_.block
        split at same
        · cases same
          exact block
        · cases same
          rw [shift_blksize]
          exact block

/-- A call whose read gives the next bytes of the file, or another part of the test sets
`done`. -/
inductive Call (zerocopy : Bool) : Sender → DiskBuffer.Event → Sender → Prop where
  | send {before : Sender} {data : List UInt8} {script : SocketWrites.Script} {r : Int32}
      {after : DiskBuffer.FileStream}
      (reading : DiskBuffer.reads before.sp = true → Reads before.sp before.file data)
      (counted : ∀ result, TcpSend.iperf_tcp_send zerocopy
        (DiskBuffer.refill before.sp (.bytes data)).2.snd script = some result → Counted result)
      (clean : DiskBuffer.Clean before.sp (.send (.bytes data) script))
      (returned :
        DiskBuffer.diskfile_send zerocopy before.sp (.bytes data) script = some (r, after)) :
      Call zerocopy before (.send (.bytes data) script)
        ⟨after, unread before.sp before.file data,
          before.sent ++ accepted zerocopy before.sp data script⟩
  | stop {before : Sender} :
      Call zerocopy before .stop { before with sp := { before.sp with done := true } }

theorem call_refines {before after : Sender} {event : DiskBuffer.Event}
    (inv : DiskBuffer.Inv before.sp) (call : Call zerocopy before event after) :
    DiskBuffer.Inv after.sp ∧ blksize_of after.sp = blksize_of before.sp ∧
      ∃ event, Step (blksize_of before.sp) (counts before) event (counts after) := by
  cases call with
  | stop =>
      have step : DiskBuffer.CleanStep zerocopy before.sp .stop { before.sp with done := true } :=
        ⟨.stop, trivial⟩
      exact ⟨DiskBuffer.step_inv inv step, rfl, .stop, .stop⟩
  | @send data _ _ _ reading counted clean returned =>
      have answers : DiskBuffer.reads before.sp = true →
          DiskBuffer.Answers before.sp (.bytes data) := fun runs => (reading runs).asked
      rcases @diskfile_send_refines _ _ _ before.sent _ _ _ _ inv reading counted returned with
        ⟨overlapped, outcome, same⟩
      constructor
      · exact DiskBuffer.step_inv inv ⟨.send answers returned, clean⟩
      · constructor
        · exact congrArg (·.toInt.toNat) (blksize_kept inv reading returned)
        · exact ⟨_, .send _ outcome overlapped same⟩

/-- A run that keeps words is one that keeps numbers. -/
theorem run_refines {start sender : Sender} {past : List DiskBuffer.Event}
    (starts : DiskBuffer.Starts start.sp) (run : Run (Call zerocopy) start past sender) :
    ∃ past, Run (Step (blksize_of start.sp)) (counts start) past (counts sender) := by
  have refined : DiskBuffer.Inv sender.sp ∧ blksize_of sender.sp = blksize_of start.sp ∧
      ∃ past, Run (Step (blksize_of start.sp)) (counts start) past (counts sender) := by
    apply run.invariant fun _ sender => DiskBuffer.Inv sender.sp ∧
      blksize_of sender.sp = blksize_of start.sp ∧
      ∃ past, Run (Step (blksize_of start.sp)) (counts start) past (counts sender)
    · exact ⟨DiskBuffer.starts_inv starts, rfl, [], .start⟩
    · rintro _ before event after ⟨inv, size, past, before_run⟩ call
      rcases call_refines inv call with ⟨kept, same, event, step⟩
      rw [size] at step same
      exact ⟨kept, same, _, before_run.next event step⟩
  exact refined.2.2

end Words

end Iperf.DiskFile
