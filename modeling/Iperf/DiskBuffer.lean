import Iperf.ControlWrites
import Iperf.TcpSend
import Iperf.Transition

/-!
The block buffer of a stream that sends a file. `diskfile_send` and `iperf_tcp_send` keep
two counts of what is left in it. Every position of the buffer is marked that holds a byte
of the file; a read stores at the front, and a shift copies the marks with the bytes.
-/

namespace Iperf.DiskBuffer

open ControlWrites MachineWords SocketWrites TcpSend Transfer Transition

section Code

/-- `marks` says of each position of `buffer` whether it holds a byte of the file. -/
structure FileStream where
  snd : TcpSend.Stream
  marks : List Bool
  diskfile_left : Int32
  done : Bool
  deriving DecidableEq, Repr

/-- What `read` returns. At the end of the file there are no bytes. -/
inductive ReadOutcome where
  | bytes (data : List UInt8)
  | error
  deriving DecidableEq, Repr

def read_result : ReadOutcome → Int32
  | .bytes data => Int32.ofNat data.length
  | .error => -1

/-- The length that is passed to `read`. -/
def asked (sp : FileStream) : Nat := size_of_int (sp.snd.blksize - sp.diskfile_left)

def stored (outcome : ReadOutcome) (sp : FileStream) : FileStream :=
  match outcome with
  | .bytes data =>
      let buffer := data ++ sp.snd.buffer.drop data.length
      { sp with
        snd := { sp.snd with buffer := buffer, file := buffer }
        marks := List.replicate data.length true ++ sp.marks.drop data.length }
  | .error => sp

/-- Whether the buffer is filled up from the file. -/
def reads (sp : FileStream) : Bool := sp.diskfile_left < sp.snd.blksize ∧ ¬ sp.done

/-- The part of `diskfile_send` with the read, and `buffer_left` behind it. -/
def refill (sp : FileStream) (outcome : ReadOutcome) : Int32 × FileStream :=
  if reads sp then
    let buffer_left := sp.diskfile_left + read_result outcome
    let sp := stored outcome sp
    let sp :=
      if buffer_left ≠ sp.snd.blksize then
        { sp with snd := { sp.snd with pending_size := buffer_left } }
      else sp
    (buffer_left, if buffer_left = 0 then { sp with done := true } else sp)
  else (sp.diskfile_left, sp)

/-- `memcpy(buffer, buffer + source, count)`. -/
def memcpy {Item : Type} (buffer : List Item) (source count : Nat) : List Item :=
  (buffer.drop source).take count ++ buffer.drop count

/-- The part behind `snd2`. -/
def shift (sp : FileStream) (buffer_left r : Int32) : FileStream :=
  let left := buffer_left - r
  let sp := { sp with diskfile_left := left }
  if left ≠ 0 ∧ left < sp.snd.blksize then
    let source := size_of_int (sp.snd.blksize - left)
    let buffer := memcpy sp.snd.buffer source (size_of_int left)
    { sp with
      snd := { sp.snd with buffer := buffer, file := buffer }
      marks := memcpy sp.marks source (size_of_int left) }
  else sp

/-- `none` is a call that is still blocked in the network. -/
def diskfile_send (zerocopy : Bool) (sp : FileStream) (outcome : ReadOutcome) (script : Script) :
    Option (Int32 × FileStream) :=
  let (buffer_left, sp) := refill sp outcome
  if sp.done ∨ buffer_left = 0 then some (0, { sp with done := true })
  else
    (iperf_tcp_send zerocopy sp.snd script).map fun sent =>
      let sp := { sp with snd := sent.sp }
      if sent.r < 0 then (sent.r, sp) else (sent.r, shift sp buffer_left sent.r)

/-- The count that a call hands to `Nwrite` or `Nsendfile`, and what the buffer then holds. -/
def handed (sp : FileStream) (outcome : ReadOutcome) : Option (Nat × FileStream) :=
  let (buffer_left, sp) := refill sp outcome
  if sp.done ∨ buffer_left = 0 then none
  else some (size_of_int (start_block sp.snd).pending_size, sp)

/-- How many bytes of the file the buffer holds. -/
def held (sp : FileStream) : Nat := sp.marks.count true

/-- The stream of `iperf_new_stream`. -/
structure Starts (sp : FileStream) : Prop where
  ready : Ready sp.snd
  positive : 0 < sp.snd.blksize.toInt
  marks : (sp.marks.length : Int) = sp.snd.blksize.toInt
  diskfile_left : sp.diskfile_left = 0

inductive Event where
  | send (outcome : ReadOutcome) (script : Script)
  /-- another part of the test sets `done` -/
  | stop
  deriving DecidableEq, Repr

/-- A read returns what it was asked for at the most. -/
def Answers (sp : FileStream) : ReadOutcome → Prop
  | .bytes data => data.length ≤ asked sp
  | .error => True

inductive Step (zerocopy : Bool) : FileStream → Event → FileStream → Prop where
  | send {before after : FileStream} {outcome : ReadOutcome} {script : Script} {r : Int32}
      (answers : reads before = true → Answers before outcome)
      (returned : diskfile_send zerocopy before outcome script = some (r, after)) :
      Step zerocopy before (.send outcome script) after
  | stop {before : FileStream} : Step zerocopy before .stop { before with done := true }

end Code

section Property

/-- Between two calls. -/
structure Bounded (sp : FileStream) : Prop where
  pending_size : 0 ≤ sp.snd.pending_size.toInt ∧ sp.snd.pending_size.toInt ≤ sp.snd.blksize.toInt
  diskfile_left : 0 ≤ sp.diskfile_left.toInt ∧ sp.diskfile_left.toInt ≤ sp.snd.blksize.toInt

/-- In a call: what is asked of the file has room, and what is handed to the network is in
the buffer and no more than what the file has put there. -/
structure Inside (sp : FileStream) (outcome : ReadOutcome) : Prop where
  asked : reads sp = true → (asked sp : Int) ≤ sp.snd.blksize.toInt
  handed : ∀ count loaded, handed sp outcome = some (count, loaded) →
    (count : Int) ≤ sp.snd.blksize.toInt ∧ count ≤ held loaded

/-- The read fails while the buffer is empty. -/
def FailsEmpty (sp : FileStream) (outcome : ReadOutcome) : Prop :=
  reads sp = true ∧ outcome = .error ∧ sp.diskfile_left = 0

/-- The network takes a part of the bytes and is then interrupted. -/
def Parts (sp : FileStream) (outcome : ReadOutcome) (script : Script) : Prop :=
  ∃ count loaded done, handed sp outcome = some (count, loaded) ∧
    transfer 0 count script = some done ∧ 0 < done.taken ∧ Cut done

/-- Every position of the buffer holds a byte of the file behind the read. -/
def Filled (sp : FileStream) (outcome : ReadOutcome) : Prop :=
  ∀ mark ∈ (refill sp outcome).2.marks, mark = true

/-- No read fails on an empty buffer, and no send is cut before the buffer was filled. -/
def Clean (sp : FileStream) : Event → Prop
  | .send outcome script =>
      ¬ FailsEmpty sp outcome ∧ (Parts sp outcome script → Filled sp outcome)
  | .stop => True

def CleanStep (zerocopy : Bool) (before : FileStream) (event : Event) (after : FileStream) : Prop :=
  Step zerocopy before event after ∧ Clean before event

end Property

section Refill
variable {sp : FileStream} {outcome : ReadOutcome}

/-- Left-over bytes are there only when every position holds a byte of the file. -/
structure Inv (sp : FileStream) : Prop where
  ready : Ready sp.snd
  positive : 0 < sp.snd.blksize.toInt
  marks : (sp.marks.length : Int) = sp.snd.blksize.toInt
  least : 0 ≤ sp.diskfile_left.toInt
  most : sp.diskfile_left.toInt ≤ sp.snd.blksize.toInt
  filled : sp.diskfile_left.toInt = 0 ∨ ∀ mark ∈ sp.marks, mark = true

theorem starts_inv (starts : Starts sp) : Inv sp := by
  have zero : sp.diskfile_left.toInt = 0 := by
    rw [starts.diskfile_left]
    rfl
  have positive := starts.positive
  exact ⟨starts.ready, positive, starts.marks, by omega, by omega, .inl zero⟩

theorem Inv.bounded (inv : Inv sp) : Bounded sp :=
  ⟨⟨inv.ready.least, inv.ready.most⟩, ⟨inv.least, inv.most⟩⟩

theorem asked_eq (inv : Inv sp) :
    (asked sp : Int) = sp.snd.blksize.toInt - sp.diskfile_left.toInt := by
  have least := inv.least
  have most := inv.most
  have small := sp.snd.blksize.toInt_lt
  have left : (sp.snd.blksize - sp.diskfile_left).toInt =
      sp.snd.blksize.toInt - sp.diskfile_left.toInt := sub_toInt (by omega) (by omega)
  rw [asked, size_of_nonneg (by omega)]
  omega

theorem held_of_filled (filled : ∀ mark ∈ sp.marks, mark = true) : held sp = sp.marks.length := by
  rw [held, List.count_eq_length]
  intro mark inside
  exact (filled mark inside).symm

/-- The file bytes are stored at the front. -/
theorem stored_marks (data : List UInt8) (marks : List Bool) (room : data.length ≤ marks.length) :
    (List.replicate data.length true ++ marks.drop data.length).length = marks.length ∧
      data.length ≤ (List.replicate data.length true ++ marks.drop data.length).count true ∧
      ((∀ mark ∈ marks, mark = true) →
        ∀ mark ∈ List.replicate data.length true ++ marks.drop data.length, mark = true) := by
  constructor
  · simp only [List.length_append, List.length_replicate, List.length_drop]
    omega
  · constructor
    · rw [List.count_append, List.count_replicate_self]
      exact Nat.le_add_right _ _
    · intro filled mark inside
      rcases List.mem_append.mp inside with front | back
      · exact List.eq_of_mem_replicate front
      · exact filled mark (List.mem_of_mem_drop back)

theorem stored_ready (inv : Inv sp) {data : List UInt8} (answers : data.length ≤ asked sp) :
    Ready (stored (.bytes data) sp).snd ∧
      ((stored (.bytes data) sp).marks.length : Int) = sp.snd.blksize.toInt ∧
      data.length ≤ held (stored (.bytes data) sp) ∧
      ((∀ mark ∈ sp.marks, mark = true) →
        ∀ mark ∈ (stored (.bytes data) sp).marks, mark = true) := by
  have most := asked_eq inv
  have least := inv.least
  have block := inv.ready.block
  have length := inv.marks
  rcases stored_marks data sp.marks (by omega) with ⟨same, count, filled⟩
  constructor
  · constructor
    · rfl
    · simp only [stored, List.length_append, List.length_drop]
      omega
    · exact inv.ready.least
    · exact inv.ready.most
  · constructor
    · simp only [stored]
      omega
    · exact ⟨count, filled⟩

/-- A read with its count. -/
theorem read_count (inv : Inv sp) (runs : reads sp = true) (answers : Answers sp outcome)
    (succeeds : ¬ FailsEmpty sp outcome) :
    0 ≤ (sp.diskfile_left + read_result outcome).toInt ∧
      (sp.diskfile_left + read_result outcome).toInt ≤ sp.snd.blksize.toInt := by
  have least := inv.least
  have most := inv.most
  have small := sp.snd.blksize.toInt_lt
  cases outcome with
  | bytes data =>
      have answered : data.length ≤ asked sp := answers
      have room := asked_eq inv
      have count : (Int32.ofNat data.length).toInt = data.length :=
        Int32.toInt_ofNat_of_lt (by omega)
      rw [read_result, add_toInt (by omega) (by omega), count]
      omega
  | error =>
      have some : sp.diskfile_left.toInt ≠ 0 := by
        intro zero
        exact succeeds ⟨runs, rfl, Int32.toInt_inj.mp zero⟩
      have minus : (-1 : Int32).toInt = -1 := rfl
      rw [read_result, add_toInt (by omega) (by omega), minus]
      omega

/-- What is in the buffer covers what is to be sent of it. -/
structure Covers (before : FileStream) (buffer_left : Int32) (sp : FileStream) : Prop where
  ready : Ready sp.snd
  block : sp.snd.blksize = before.snd.blksize
  marks : (sp.marks.length : Int) = sp.snd.blksize.toInt
  left : sp.diskfile_left = before.diskfile_left
  held : buffer_left.toInt ≤ held sp
  kept : sp.diskfile_left.toInt = 0 ∨ ∀ mark ∈ sp.marks, mark = true
  whole : buffer_left = sp.snd.blksize → ∀ mark ∈ sp.marks, mark = true

theorem all_covers {buffer_left : Int32} {after : FileStream} (ready : Ready after.snd)
    (block : after.snd.blksize = sp.snd.blksize)
    (marks : (after.marks.length : Int) = after.snd.blksize.toInt)
    (left : after.diskfile_left = sp.diskfile_left)
    (most : buffer_left.toInt ≤ sp.snd.blksize.toInt)
    (filled : ∀ mark ∈ after.marks, mark = true) : Covers sp buffer_left after := by
  constructor
  · exact ready
  · exact block
  · exact marks
  · exact left
  · rw [held_of_filled filled, marks, block]
    exact most
  · exact .inr filled
  · exact fun _ => filled

theorem stored_covers (inv : Inv sp) (runs : reads sp = true) (answers : Answers sp outcome)
    (succeeds : ¬ FailsEmpty sp outcome) :
    Covers sp (sp.diskfile_left + read_result outcome) (stored outcome sp) := by
  rcases read_count inv runs answers succeeds with ⟨_, most⟩
  cases outcome with
  | error =>
      rcases inv.filled with zero | filled
      · exact absurd ⟨runs, rfl, Int32.toInt_inj.mp zero⟩ succeeds
      · exact all_covers inv.ready rfl inv.marks rfl most filled
  | bytes data =>
      rcases stored_ready inv answers with ⟨ready, marks, count, filled⟩
      rcases inv.filled with zero | all
      · -- nothing is left over: the buffer holds at least what has just been read
        have answered : data.length ≤ asked sp := answers
        have room := asked_eq inv
        have small := sp.snd.blksize.toInt_lt
        have length : (Int32.ofNat data.length).toInt = data.length :=
          Int32.toInt_ofNat_of_lt (by omega)
        have sum : (sp.diskfile_left + read_result (.bytes data)).toInt = data.length := by
          rw [read_result, add_toInt (by omega) (by omega), length, zero, Int.zero_add]
        constructor
        · exact ready
        · rfl
        · exact marks
        · rfl
        · rw [sum]
          exact Int.ofNat_le.mpr count
        · exact .inl zero
        · intro full mark inside
          have block := congrArg Int32.toInt full
          rw [sum] at block
          have length_marks := inv.marks
          have none : sp.marks.drop data.length = [] := by
            apply List.drop_eq_nil_of_le
            simp only [stored] at block
            omega
          simp only [stored, none, List.append_nil] at inside
          exact List.eq_of_mem_replicate inside
      · exact all_covers ready rfl marks rfl most (filled all)

/-- The buffer when the network gets it. -/
structure Loaded (before : FileStream) (buffer_left : Int32) (sp : FileStream) : Prop
    extends Covers before buffer_left sp where
  least : 0 ≤ buffer_left.toInt
  most : buffer_left.toInt ≤ sp.snd.blksize.toInt
  pending : buffer_left = sp.snd.blksize ∨ sp.snd.pending_size = buffer_left

theorem Loaded.stopped {buffer_left : Int32} {after : FileStream}
    (loaded : Loaded sp buffer_left after) : Loaded sp buffer_left { after with done := true } :=
  ⟨⟨loaded.ready, loaded.block, loaded.marks, loaded.left, loaded.held, loaded.kept, loaded.whole⟩,
    loaded.least, loaded.most, loaded.pending⟩

/-- A block that is not full is sent as it is. -/
theorem Covers.loaded {buffer_left : Int32} {after : FileStream}
    (covers : Covers sp buffer_left after) (least : 0 ≤ buffer_left.toInt)
    (most : buffer_left.toInt ≤ sp.snd.blksize.toInt) :
    Loaded sp buffer_left (if buffer_left ≠ after.snd.blksize then
      { after with snd := { after.snd with pending_size := buffer_left } } else after) := by
  rw [← covers.block] at most
  split
  · have ready : Ready { after.snd with pending_size := buffer_left } :=
      ⟨covers.ready.shared, covers.ready.block, least, most⟩
    exact ⟨⟨ready, covers.block, covers.marks, covers.left, covers.held, covers.kept, covers.whole⟩,
      least, most, .inr rfl⟩
  · rename_i full
    exact ⟨covers, least, most, .inl (Decidable.not_not.mp full)⟩

theorem refill_loaded (inv : Inv sp) (answers : reads sp = true → Answers sp outcome)
    (succeeds : ¬ FailsEmpty sp outcome) (running : sp.done = false) :
    Loaded sp (refill sp outcome).1 (refill sp outcome).2 ∧
      ((refill sp outcome).2.done = true ↔ (refill sp outcome).1 = 0) := by
  by_cases runs : reads sp = true
  · have covers := stored_covers inv runs (answers runs) succeeds
    rcases read_count inv runs (answers runs) succeeds with ⟨least, most⟩
    have still : (stored outcome sp).done = false := by
      cases outcome with
      | bytes data => exact running
      | error => exact running
    have loaded := covers.loaded least most
    have same_done : (if sp.diskfile_left + read_result outcome ≠ (stored outcome sp).snd.blksize
        then { stored outcome sp with
          snd := { (stored outcome sp).snd with
            pending_size := sp.diskfile_left + read_result outcome } }
        else stored outcome sp).done = false := by
      split
      · exact still
      · exact still
    simp only [refill, runs, if_true]
    by_cases none : sp.diskfile_left + read_result outcome = 0
    · rw [if_pos none]
      exact ⟨loaded.stopped, iff_of_true rfl none⟩
    · rw [if_neg none]
      exact ⟨loaded, iff_of_false (by rw [same_done]; exact Bool.false_ne_true) none⟩
  · have most := inv.most
    have positive := inv.positive
    have full : sp.diskfile_left = sp.snd.blksize := by
      apply Int32.toInt_inj.mp
      have whole : ¬ sp.diskfile_left < sp.snd.blksize := by
        intro less
        exact runs (by simp [reads, less, running])
      rw [Int32.lt_iff_toInt_lt] at whole
      omega
    have filled : ∀ mark ∈ sp.marks, mark = true := by
      rcases inv.filled with zero | filled
      · rw [full] at zero
        omega
      · exact filled
    have covers : Covers sp sp.diskfile_left sp :=
      all_covers inv.ready rfl inv.marks rfl most filled
    simp only [refill, if_neg runs]
    constructor
    · exact ⟨covers, inv.least, most, .inl full⟩
    · apply iff_of_false
      · rw [running]
        exact Bool.false_ne_true
      · intro zero
        rw [zero] at full
        rw [← full] at positive
        exact absurd positive (by decide)

end Refill

section Calls
variable {sp : FileStream} {outcome : ReadOutcome} {script : Script}

theorem stopped_refill (stopped : sp.done = true) (outcome : ReadOutcome) :
    refill sp outcome = (sp.diskfile_left, sp) := by
  have rests : ¬ reads sp = true := by simp [reads, stopped]
  rw [refill, if_neg rests]

/-- The pending bytes are `buffer_left`, or less of a whole block. -/
theorem Loaded.count {buffer_left : Int32} {loaded : FileStream}
    (at_ : Loaded sp buffer_left loaded) (some : buffer_left ≠ 0) :
    (size_of_int (start_block loaded.snd).pending_size : Int) ≤ buffer_left.toInt ∧
      (buffer_left ≠ loaded.snd.blksize →
        (size_of_int (start_block loaded.snd).pending_size : Int) = buffer_left.toInt) := by
  have ready := start_block_ready at_.ready
  have size := ready.room.2.2
  have most := ready.most
  rw [size]
  rcases at_.pending with full | same
  · rw [start_block_blksize, ← full] at most
    exact ⟨most, fun short => absurd full short⟩
  · have open_ : loaded.snd.pending_size ≠ 0 := by rwa [same]
    have begun : start_block loaded.snd = loaded.snd := if_neg open_
    rw [begun, same]
    exact ⟨Int.le_refl _, fun _ => rfl⟩

/-- What is handed to the network is in the buffer and from the file. -/
theorem handed_inside (inv : Inv sp) (answers : reads sp = true → Answers sp outcome)
    (succeeds : ¬ FailsEmpty sp outcome) : Inside sp outcome := by
  constructor
  · intro _
    rw [asked_eq inv]
    have least := inv.least
    omega
  · intro count loaded at_
    cases stopped : sp.done with
    | true => simp [handed, stopped_refill stopped, stopped] at at_
    | false =>
        rcases refill_loaded inv answers succeeds stopped with ⟨loads, _⟩
        simp only [handed] at at_
        split at at_
        · cases at_
        · rename_i goes
          rw [not_or] at goes
          cases at_
          have count := (loads.count goes.2).1
          have most := loads.most
          have held := loads.held
          rw [loads.block] at most
          omega

/-- A read error on an empty buffer gives the network a count of 2^64 − 1. -/
theorem fails_empty_handed (inv : Inv sp) (fails : FailsEmpty sp outcome) :
    ∃ loaded, handed sp outcome = some (2 ^ 64 - 1, loaded) := by
  rcases fails with ⟨runs, rfl, zero⟩
  have positive := inv.positive
  have running : sp.done = false := by
    simp only [reads, decide_eq_true_eq] at runs
    simpa using runs.2
  have other : (-1 : Int32) ≠ sp.snd.blksize := by
    intro same
    rw [← same] at positive
    exact absurd positive (by decide)
  have sum : sp.diskfile_left + read_result .error = -1 := by
    rw [zero]
    rfl
  have pending : start_block { sp.snd with pending_size := -1 } =
      { sp.snd with pending_size := -1 } := if_neg (by decide : (-1 : Int32) ≠ 0)
  have minus : ¬ (-1 : Int32) = 0 := by decide
  have size : size_of_int (-1) = 2 ^ 64 - 1 := by decide
  simp only [handed, refill, if_pos runs, sum, stored, ne_eq, other, not_false_eq_true, if_true,
    minus, if_false, running, Bool.false_eq_true, or_self, pending, size]
  exact ⟨_, rfl⟩

/-- A call stays inside the buffer unless the read fails on an empty one. -/
theorem inside_iff (inv : Inv sp) (answers : reads sp = true → Answers sp outcome) :
    Inside sp outcome ↔ ¬ FailsEmpty sp outcome := by
  constructor
  · intro inside fails
    rcases fails_empty_handed inv fails with ⟨loaded, at_⟩
    have bound := (inside.handed _ _ at_).1
    have small := sp.snd.blksize.toInt_lt
    omega
  · exact handed_inside inv answers

end Calls

section Steps
variable {sp : FileStream} {outcome : ReadOutcome} {script : Script}

theorem memcpy_marks {marks : List Bool} {source count : Nat}
    (filled : ∀ mark ∈ marks, mark = true) :
    ∀ mark ∈ memcpy marks source count, mark = true := by
  intro mark inside
  rcases List.mem_append.mp inside with front | back
  · exact filled mark (List.mem_of_mem_drop (List.mem_of_mem_take front))
  · exact filled mark (List.mem_of_mem_drop back)

theorem memcpy_length {Item : Type} {buffer : List Item} {source count : Nat}
    (room : source + count ≤ buffer.length) :
    (memcpy buffer source count).length = buffer.length := by
  simp only [memcpy, List.length_append, List.length_take, List.length_drop]
  omega

/-- Only an interruption behind some bytes returns a number. -/
theorem switch_counts {zerocopy : Bool} {count nleft : Nat} {errno : Errno}
    (counted : 0 ≤ (switch zerocopy count nleft errno).toInt) :
    (errno = .EINTR ∨ errno = .EAGAIN) ∧ count ≠ nleft := by
  have interrupted : ∀ r : Int32, (if count = nleft then NET_SOFTERROR else r).toInt ≥ 0 →
      count ≠ nleft := by
    intro r nonneg same
    rw [if_pos same] at nonneg
    exact absurd nonneg (by decide)
  have soft : ¬ 0 ≤ NET_SOFTERROR.toInt := by decide
  have hard : ¬ 0 ≤ NET_HARDERROR.toInt := by decide
  cases zerocopy with
  | true =>
      cases errno with
      | EINTR => exact ⟨.inl rfl, interrupted _ counted⟩
      | EAGAIN => exact ⟨.inr rfl, interrupted _ counted⟩
      | ENOBUFS => exact absurd counted soft
      | ENOMEM => exact absurd counted soft
      | other => exact absurd counted hard
  | false =>
      cases errno with
      | EINTR => exact ⟨.inl rfl, interrupted _ counted⟩
      | EAGAIN => exact ⟨.inr rfl, interrupted _ counted⟩
      | ENOBUFS => exact absurd counted soft
      | ENOMEM => exact absurd counted hard
      | other => exact absurd counted hard

theorem part_is_cut {zerocopy : Bool} {buf : List UInt8} {count : Nat} {done : Transferred Errno}
    (ended : transfer 0 count script = some done)
    (counted : 0 ≤ (written (switch zerocopy) buf count done).r.toInt)
    (part : done.taken < count) : 0 < done.taken ∧ Cut done := by
  cases ending : done.ending with
  | whole =>
      have all := (transfer_bounds ended).2.2.mp ending
      omega
  | nothing =>
      simp only [written, ending] at counted
      exact absurd counted (by decide)
  | stopped errno =>
      simp only [written, ending] at counted
      rcases switch_counts counted with ⟨interrupted | again, some⟩
      · exact ⟨by omega, .inl (interrupted ▸ ending)⟩
      · exact ⟨by omega, .inr (again ▸ ending)⟩

/-- What `shift` leaves. The marks are copied with the bytes. -/
theorem shift_inv {buffer_left r : Int32} {taken : Nat} (ready : Ready sp.snd)
    (positive : 0 < sp.snd.blksize.toInt) (marks : (sp.marks.length : Int) = sp.snd.blksize.toInt)
    (left : (buffer_left - r).toInt = buffer_left.toInt - taken)
    (least : taken ≤ buffer_left.toInt) (most : buffer_left.toInt ≤ sp.snd.blksize.toInt)
    (filled : (buffer_left - r).toInt = 0 ∨ ∀ mark ∈ sp.marks, mark = true) :
    Inv (shift sp buffer_left r) := by
  have block := ready.block
  have small := sp.snd.blksize.toInt_lt
  have source : size_of_int (sp.snd.blksize - (buffer_left - r)) + size_of_int (buffer_left - r) =
      sp.snd.blksize.toInt.toNat := by
    have rest : (sp.snd.blksize - (buffer_left - r)).toInt =
        sp.snd.blksize.toInt - (buffer_left - r).toInt := sub_toInt (by omega) (by omega)
    rw [size_of_nonneg (by omega), size_of_nonneg (by omega), rest]
    omega
  simp only [shift]
  split
  · rename_i moves
    have buffer_length := @memcpy_length _ sp.snd.buffer
      (size_of_int (sp.snd.blksize - (buffer_left - r))) (size_of_int (buffer_left - r)) (by omega)
    have marks_length := @memcpy_length _ sp.marks
      (size_of_int (sp.snd.blksize - (buffer_left - r))) (size_of_int (buffer_left - r)) (by omega)
    have some : (buffer_left - r).toInt ≠ 0 := fun zero => moves.1 (Int32.toInt_inj.mp zero)
    have all := filled.resolve_left some
    constructor
    · exact ⟨rfl, by rw [← block, buffer_length], ready.least, ready.most⟩
    · exact positive
    · rw [← marks, ← marks_length]
    · dsimp only
      omega
    · dsimp only
      omega
    · exact .inr (memcpy_marks all)
  · exact ⟨ready, positive, marks, by dsimp only; omega, by dsimp only; omega, filled⟩

theorem Loaded.inv {buffer_left : Int32} {loaded : FileStream} (inv : Inv sp)
    (at_ : Loaded sp buffer_left loaded) : Inv loaded := by
  have least := inv.least
  have most := inv.most
  have positive := inv.positive
  rw [← at_.left] at least most
  rw [← at_.block] at most positive
  exact ⟨at_.ready, positive, at_.marks, least, most, at_.kept⟩

/-- The network gets the bytes of the buffer. -/
theorem sent_inv {zerocopy : Bool} {buffer_left r : Int32} {loaded after : FileStream}
    (inv : Inv sp) (at_ : Loaded sp buffer_left loaded) (some : buffer_left ≠ 0)
    (clean : ∀ done,
      transfer 0 (size_of_int (start_block loaded.snd).pending_size) script = .some done →
        0 < done.taken → Cut done → ∀ mark ∈ loaded.marks, mark = true)
    (returned : (iperf_tcp_send zerocopy loaded.snd script).map (fun sent =>
      if sent.r < 0 then (sent.r, { loaded with snd := sent.sp })
      else (sent.r, shift { loaded with snd := sent.sp } buffer_left sent.r)) = .some (r, after)) :
    Inv after := by
  have loaded_inv := at_.inv inv
  have zero : (0 : Int32).toInt = 0 := rfl
  have ready := start_block_ready at_.ready
  rcases at_.count some with ⟨within, exactly⟩
  simp only [tcp_send_eq zerocopy at_.ready, Option.map_map, Option.map_eq_some_iff,
    Function.comp_apply] at returned
  rcases returned with ⟨done, ended, same⟩
  have bounds := (transfer_bounds ended).2.1
  generalize made : written (switch zerocopy) (start_block loaded.snd).buffer
    (size_of_int (start_block loaded.snd).pending_size) done = result at same
  rw [account_r] at same
  rcases account_ready zerocopy ready ended made.symm with ⟨kept, failed | counted⟩
  · rcases failed with ⟨negative, unchanged⟩
    have returns : result.r < 0 := by rwa [Int32.lt_iff_toInt_lt, zero]
    rw [if_pos returns, unchanged] at same
    cases same
    constructor
    · exact ready
    · rw [start_block_blksize]
      exact loaded_inv.positive
    · rw [start_block_blksize]
      exact loaded_inv.marks
    · exact loaded_inv.least
    · rw [start_block_blksize]
      exact loaded_inv.most
    · exact loaded_inv.filled
  · rcases counted with ⟨taken, left, block, _⟩
    have goes : ¬ result.r < 0 := by
      rw [Int32.lt_iff_toInt_lt, zero]
      omega
    rw [if_neg goes] at same
    cases same
    rw [start_block_blksize] at block
    have least := at_.least
    have most := at_.most
    have small := loaded.snd.blksize.toInt_lt
    have rest : (buffer_left - result.r).toInt = buffer_left.toInt - done.taken := by
      rw [sub_toInt (by omega) (by omega), taken]
    apply shift_inv kept
    · rw [block]
      exact loaded_inv.positive
    · rw [block]
      exact loaded_inv.marks
    · exact rest
    · omega
    · rw [block]
      exact most
    · by_cases filled : ∀ mark ∈ loaded.marks, mark = true
      · exact .inr filled
      · -- a buffer that is not full is sent at once, or a cut is excluded
        have short : buffer_left ≠ loaded.snd.blksize := fun full => filled (at_.whole full)
        have count := exactly short
        have whole : ¬ done.taken < size_of_int (start_block loaded.snd).pending_size := by
          intro part
          have nonneg : 0 ≤ result.r.toInt := by omega
          rw [← made] at nonneg
          rcases part_is_cut ended nonneg part with ⟨some_taken, cut⟩
          exact filled (clean done ended some_taken cut)
        exact .inl (by omega)

theorem step_inv {zerocopy : Bool} {event : Event} {after : FileStream} (inv : Inv sp)
    (step : CleanStep zerocopy sp event after) : Inv after := by
  rcases step with ⟨step, clean⟩
  cases step with
  | stop => exact ⟨inv.ready, inv.positive, inv.marks, inv.least, inv.most, inv.filled⟩
  | @send _ outcome script r answers returned =>
      rcases clean with ⟨succeeds, uncut⟩
      simp only [diskfile_send] at returned
      cases stopped : sp.done with
      | true =>
          simp only [stopped_refill stopped, stopped, true_or, if_true] at returned
          cases returned
          exact ⟨inv.ready, inv.positive, inv.marks, inv.least, inv.most, inv.filled⟩
      | false =>
          rcases refill_loaded inv answers succeeds stopped with ⟨loaded, _⟩
          split at returned
          · cases returned
            have kept := loaded.inv inv
            exact ⟨kept.ready, kept.positive, kept.marks, kept.least, kept.most, kept.filled⟩
          · rename_i goes
            apply sent_inv inv loaded (fun zero => goes (.inr zero)) ?_ returned
            intro done ended some_taken cut
            apply uncut
            have at_ : handed sp outcome = some (_, (refill sp outcome).2) := if_neg goes
            exact ⟨_, _, done, at_, ended, some_taken, cut⟩

end Steps

section Results
variable {zerocopy : Bool} {past : List Event} {start sp : FileStream}

/-- In every run without a cut before the buffer is filled and without a read that fails on
an empty buffer, the counters are in bounds, and the next call stays inside the buffer
exactly when its read does not fail so either. -/
theorem diskfile_send_inside (starts : Starts start)
    (run : Run (CleanStep zerocopy) start past sp) :
    Bounded sp ∧ ∀ outcome, (reads sp = true → Answers sp outcome) →
      (Inside sp outcome ↔ ¬ FailsEmpty sp outcome) := by
  have inv : Inv sp := by
    apply run.invariant fun _ sp => Inv sp
    · exact starts_inv starts
    · intro _ _ _ _ inv step
      exact step_inv inv step
  exact ⟨inv.bounded, fun _ answers => inside_iff inv answers⟩

/-- A stream with a buffer of four bytes. -/
def four (buffer : List UInt8) (marks : List Bool) (pending_size diskfile_left : Int32)
    (sent : UInt64) : FileStream :=
  ⟨⟨buffer, buffer, 4, pending_size, sent, sent⟩, marks, diskfile_left, false⟩

def opened : FileStream := four [0, 0, 0, 0] [false, false, false, false] 0 0 0

theorem opened_starts : Starts opened := by
  constructor
  · exact ⟨rfl, by decide, by decide, by decide⟩
  · decide
  · rfl
  · rfl

/-- A full buffer of which three bytes are sent. -/
theorem diskfile_send_inside_full :
    Bounded (four [4, 2, 3, 4] [true, true, true, true] 1 1 3) := by
  have sent : diskfile_send false opened (.bytes [1, 2, 3, 4]) [.takes 3, .stops .EAGAIN] =
      some (3, four [4, 2, 3, 4] [true, true, true, true] 1 1 3) := by decide
  have answers : reads opened = true → Answers opened (.bytes [1, 2, 3, 4]) := fun _ => by
    simp only [Answers]
    decide
  have clean : Clean opened (.send (.bytes [1, 2, 3, 4]) [.takes 3, .stops .EAGAIN]) := by
    constructor
    · rintro ⟨_, ⟨⟩, _⟩
    · intro _
      simp only [Filled]
      decide
  exact (diskfile_send_inside opened_starts
    (.next _ .start ⟨.send answers sent, clean⟩)).1

/-- A read that fails at once, and a short read whose bytes are sent in two parts. -/
theorem diskfile_send_outside :
    (Starts opened ∧ ¬ Inside opened .error) ∧
      ∃ past sp, Run (Step false) opened past sp ∧ Answers sp (.bytes [3, 4]) ∧
        ¬ Inside sp (.bytes [3, 4]) := by
  constructor
  · constructor
    · exact opened_starts
    · intro inside
      have answers : reads opened = true → Answers opened .error := fun _ => trivial
      have fails : FailsEmpty opened .error := ⟨by decide, rfl, rfl⟩
      exact (inside_iff (starts_inv opened_starts) answers).mp inside fails
  · have sent : diskfile_send false opened (.bytes [1, 2]) [.takes 1, .stops .EAGAIN] =
        some (1, four [0, 2, 0, 0] [false, true, false, false] 1 1 1) := by decide
    have answers : reads opened = true → Answers opened (.bytes [1, 2]) := fun _ => by
      simp only [Answers]
      decide
    refine ⟨_, _, .next _ .start (.send answers sent), ?_, ?_⟩
    · simp only [Answers]
      decide
    · intro inside
      have more : handed (four [0, 2, 0, 0] [false, true, false, false] 1 1 1) (.bytes [3, 4]) =
          some (3, four [3, 4, 0, 0] [true, true, false, false] 3 1 1) := by decide
      exact absurd (inside.handed _ _ more).2 (by decide)

end Results

end Iperf.DiskBuffer
