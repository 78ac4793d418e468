import Iperf.MachineWords
import Iperf.Transfer
import Mathlib.Data.List.TakeDrop

/-!
`Nwrite` and `Nsendfile`. Both go on until everything is accepted; the errors that end
them before that are told apart by two switches of their own.
-/

namespace Iperf.SocketWrites

open Transfer

section Code

inductive Errno where
  | EINTR
  | EAGAIN
  | ENOBUFS
  | ENOMEM
  | other
  deriving DecidableEq, Repr

/-- What the kernel does with one `write` or `sendfile` after the other: it accepts up to so
many bytes, where none is a return value of 0, or fails. Behind the last one the call is
still blocked. -/
abbrev Script := List (Attempt Errno)

structure Written where
  r : Int32
  /-- the bytes that were accepted, oldest first -/
  sent : List UInt8
  script : Script
  deriving DecidableEq, Repr

def NET_SOFTERROR : Int32 := -1

def NET_HARDERROR : Int32 := -2

/-- A `size_t` returned as an `int`. -/
def int_of_size (size : Nat) : Int32 := (UInt64.ofNat size).toUInt32.toInt32

/-- The switch of `Nwrite`. -/
def write_error (count nleft : Nat) : Errno → Int32
  | .EINTR => if count = nleft then NET_SOFTERROR else int_of_size (count - nleft)
  | .EAGAIN => if count = nleft then NET_SOFTERROR else int_of_size (count - nleft)
  | .ENOBUFS => NET_SOFTERROR
  | .ENOMEM => NET_HARDERROR
  | .other => NET_HARDERROR

/-- The switch of `Nsendfile`. -/
def sendfile_error (count nleft : Nat) : Errno → Int32
  | .EINTR => if count = nleft then NET_SOFTERROR else int_of_size (count - nleft)
  | .EAGAIN => if count = nleft then NET_SOFTERROR else int_of_size (count - nleft)
  | .ENOBUFS => NET_SOFTERROR
  | .ENOMEM => NET_SOFTERROR
  | .other => NET_HARDERROR

/-- The pointer moves along with what is accepted. -/
def Nwrite_loop (count : Nat) : Nat → List UInt8 → List UInt8 → Script → Option Written
  | nleft, _, sent, [] => if nleft = 0 then some ⟨int_of_size count, sent, []⟩ else none
  | nleft, buf, sent, outcome :: script =>
      if nleft = 0 then some ⟨int_of_size count, sent, outcome :: script⟩
      else
        match outcome with
        | .takes bytes =>
            let r := min bytes nleft
            if r = 0 then some ⟨NET_SOFTERROR, sent, script⟩
            else Nwrite_loop count (nleft - r) (buf.drop r) (sent ++ buf.take r) script
        | .stops errno => some ⟨write_error count nleft errno, sent, script⟩

def Nwrite (buf : List UInt8) (count : Nat) (script : Script) : Option Written :=
  Nwrite_loop count count buf [] script

/-- The offset is computed anew for each call; behind the end of the file there is nothing
to send. -/
def Nsendfile_loop (file : List UInt8) (count : Nat) : Nat → List UInt8 → Script → Option Written
  | nleft, sent, [] => if nleft = 0 then some ⟨int_of_size count, sent, []⟩ else none
  | nleft, sent, outcome :: script =>
      if nleft = 0 then some ⟨int_of_size count, sent, outcome :: script⟩
      else
        let offset := count - nleft
        match outcome with
        | .takes bytes =>
            let r := min bytes (min nleft (file.length - offset))
            if r = 0 then some ⟨NET_SOFTERROR, sent, script⟩
            else Nsendfile_loop file count (nleft - r) (sent ++ (file.drop offset).take r) script
        | .stops errno => some ⟨sendfile_error count nleft errno, sent, script⟩

def Nsendfile (file : List UInt8) (count : Nat) (script : Script) : Option Written :=
  Nsendfile_loop file count count [] script

end Code

section Transfers
variable {count taken nleft : Nat} {buf : List UInt8} {script : Script}

/-- What a transfer of `count` bytes returns, by the switch. -/
def written (error : Nat → Nat → Errno → Int32) (buf : List UInt8) (count : Nat)
    (done : Transferred Errno) : Written :=
  { r :=
      match done.ending with
      | .whole => int_of_size count
      | .nothing => NET_SOFTERROR
      | .stopped errno => error count (count - done.taken) errno
    sent := buf.take done.taken
    script := done.rest }

theorem Nwrite_loop_eq (split : taken + nleft = count) :
    Nwrite_loop count nleft (buf.drop taken) (buf.take taken) script =
      (transfer taken nleft script).map (written write_error buf count) := by
  induction script generalizing taken nleft with
  | nil =>
      by_cases none : nleft = 0
      · simp [Nwrite_loop, none, written]
      · simp [Nwrite_loop, transfer, none]
  | cons outcome script ih =>
      by_cases none : nleft = 0
      · simp [Nwrite_loop, none, written]
      · cases outcome with
        | takes bytes =>
            by_cases nothing : min bytes nleft = 0
            · simp [Nwrite_loop, transfer, none, nothing, written]
            · simp only [Nwrite_loop, transfer, none, nothing, if_false]
              rw [List.drop_drop, ← List.take_add, ih (by omega)]
        | stops errno =>
            have left : count - taken = nleft := by omega
            simp [Nwrite_loop, transfer, none, written, left]

/-- The offset stands where the pointer of the other loop would. -/
theorem Nsendfile_loop_eq (split : taken + nleft = count) (room : count ≤ buf.length) :
    Nsendfile_loop buf count nleft (buf.take taken) script =
      (transfer taken nleft script).map (written sendfile_error buf count) := by
  induction script generalizing taken nleft with
  | nil =>
      by_cases none : nleft = 0
      · simp [Nsendfile_loop, none, written]
      · simp [Nsendfile_loop, transfer, none]
  | cons outcome script ih =>
      have offset : count - nleft = taken := by omega
      by_cases none : nleft = 0
      · simp [Nsendfile_loop, none, written]
      · cases outcome with
        | takes bytes =>
            have inside : min bytes (min nleft (buf.length - taken)) = min bytes nleft := by omega
            by_cases nothing : min bytes nleft = 0
            · simp [Nsendfile_loop, transfer, none, offset, inside, nothing, written]
            · simp only [Nsendfile_loop, transfer, none, offset, inside, nothing, if_false]
              rw [← List.take_add, ih (by omega)]
        | stops errno =>
            have left : count - taken = nleft := by omega
            simp [Nsendfile_loop, transfer, none, written, left]

theorem Nwrite_eq (buf : List UInt8) (count : Nat) (script : Script) :
    Nwrite buf count script = (transfer 0 count script).map (written write_error buf count) :=
  Nwrite_loop_eq (Nat.zero_add count)

theorem Nsendfile_eq (room : count ≤ buf.length) :
    Nsendfile buf count script =
      (transfer 0 count script).map (written sendfile_error buf count) :=
  Nsendfile_loop_eq (Nat.zero_add count) room

end Transfers

section Contract

/-- A count that is returned is that of the first bytes of the buffer, which were accepted,
and a soft error means that none was. -/
structure Accounts (buf : List UInt8) (written : Written) : Prop where
  counted : 0 ≤ written.r.toInt → written.sent = buf.take written.r.toInt.toNat
  soft : written.r = NET_SOFTERROR → written.sent = []

/-- A number of bytes that is itself as an `int`, or an error code that is not the soft one. -/
def Fits (size : Nat) : Prop :=
  size < 2 ^ 31 ∨ 2 ^ 31 ≤ size % 2 ^ 32 ∧ size % 2 ^ 32 ≠ 2 ^ 32 - 1

/-- Nothing has been accepted when the kernel accepts none or runs out of buffers, and what
was accepted fits when it is reported. `memory` says whether ENOMEM is a soft error. -/
def Kept (memory : Bool) (done : Transferred Errno) : Prop :=
  match done.ending with
  | .whole => Fits done.taken
  | .nothing => done.taken = 0
  | .stopped .EINTR => Fits done.taken
  | .stopped .EAGAIN => Fits done.taken
  | .stopped .ENOBUFS => done.taken = 0
  | .stopped .ENOMEM => memory = true → done.taken = 0
  | .stopped .other => True

theorem int_of_size_toInt (size : Nat) : (int_of_size size).toInt = (size : Int).bmod (2 ^ 32) := by
  have read : (int_of_size size).toInt = ((UInt64.ofNat size).toUInt32.toNat : Int).bmod (2 ^ 32) :=
    BitVec.toInt_eq_toNat_bmod _
  rw [read, UInt64.toNat_toUInt32, UInt64.toNat_ofNat', Int.bmod_def, Int.bmod_def]
  omega

variable {buf : List UInt8} {script : Script} {taken : Nat}

/-- A reported number of bytes is right exactly when it fits. -/
theorem reported_iff (room : taken ≤ buf.length) :
    Accounts buf ⟨int_of_size taken, buf.take taken, script⟩ ↔ Fits taken := by
  have read := int_of_size_toInt taken
  rw [Int.bmod_def] at read
  have soft : NET_SOFTERROR.toInt = -1 := by decide
  constructor
  · intro accounts
    by_contra wrapped
    simp only [Fits, not_or, not_and, not_not] at wrapped
    by_cases counted : taken % 2 ^ 32 < 2 ^ 31
    · have nonneg : 0 ≤ (int_of_size taken).toInt := by omega
      have lengths := congrArg List.length (accounts.counted nonneg)
      simp only [List.length_take] at lengths
      omega
    · have code : int_of_size taken = NET_SOFTERROR := by
        rw [← Int32.toInt_inj, soft]
        omega
      have lengths := congrArg List.length (accounts.soft code)
      simp only [List.length_take, List.length_nil] at lengths
      omega
  · intro fits
    simp only [Fits] at fits
    constructor
    · intro nonneg
      have exactly : (int_of_size taken).toInt.toNat = taken := by
        dsimp only at nonneg
        omega
      rw [exactly]
    · intro code
      have value : (int_of_size taken).toInt = -1 := soft ▸ congrArg Int32.toInt code
      omega

theorem dropped_iff (room : taken ≤ buf.length) :
    Accounts buf ⟨NET_SOFTERROR, buf.take taken, script⟩ ↔ taken = 0 := by
  constructor
  · intro accounts
    have lengths := congrArg List.length (accounts.soft rfl)
    simp only [List.length_take, List.length_nil] at lengths
    omega
  · rintro rfl
    have negative : ¬ 0 ≤ NET_SOFTERROR.toInt := by decide
    constructor
    · intro nonneg
      exact absurd nonneg negative
    · intro _
      rfl

theorem failed_accounts (sent : List UInt8) : Accounts buf ⟨NET_HARDERROR, sent, script⟩ := by
  have negative : ¬ 0 ≤ NET_HARDERROR.toInt := by decide
  have apart : NET_HARDERROR ≠ NET_SOFTERROR := by decide
  constructor
  · intro nonneg
    exact absurd nonneg negative
  · intro soft
    exact absurd soft apart

/-- What an interrupted call returns. -/
theorem interrupted_iff {count : Nat} (within : taken ≤ count) (room : taken ≤ buf.length) :
    Accounts buf ⟨if count = count - taken then NET_SOFTERROR
        else int_of_size (count - (count - taken)), buf.take taken, script⟩ ↔ Fits taken := by
  by_cases none : count = count - taken
  · have zero : taken = 0 := by omega
    rw [if_pos none, dropped_iff room, zero]
    simp [Fits]
  · rw [if_neg none, Nat.sub_sub_self within]
    exact reported_iff room

/-- The switch of one of the two functions. -/
def switch (memory : Bool) : Nat → Nat → Errno → Int32 :=
  if memory then sendfile_error else write_error

theorem written_accounts_iff (memory : Bool) {count : Nat} {done : Transferred Errno}
    (room : count ≤ buf.length) (ended : transfer 0 count script = some done) :
    Accounts buf (written (switch memory) buf count done) ↔ Kept memory done := by
  rcases transfer_bounds ended with ⟨_, within, whole⟩
  rw [Nat.zero_add] at within whole
  have inside : done.taken ≤ buf.length := Nat.le_trans within room
  simp only [written, Kept]
  cases ending : done.ending with
  | whole =>
      have all := whole.mp ending
      rw [← all]
      exact reported_iff inside
  | nothing => exact dropped_iff inside
  | stopped errno =>
      cases memory with
      | true =>
          cases errno with
          | EINTR => exact interrupted_iff within inside
          | EAGAIN => exact interrupted_iff within inside
          | ENOBUFS => exact dropped_iff inside
          | ENOMEM => exact (dropped_iff inside).trans ⟨fun none _ => none, fun none => none rfl⟩
          | other => exact iff_of_true (failed_accounts _) trivial
      | false =>
          cases errno with
          | EINTR => exact interrupted_iff within inside
          | EAGAIN => exact interrupted_iff within inside
          | ENOBUFS => exact dropped_iff inside
          | ENOMEM => exact iff_of_true (failed_accounts _) (by rintro ⟨⟩)
          | other => exact iff_of_true (failed_accounts _) trivial

/-- An error code or the number of the bytes accepted. -/
theorem written_cases (memory : Bool) {count : Nat} {done : Transferred Errno}
    (ended : transfer 0 count script = some done) :
    (written (switch memory) buf count done).r = NET_SOFTERROR ∨
      (written (switch memory) buf count done).r = NET_HARDERROR ∨
      (written (switch memory) buf count done).r = int_of_size done.taken := by
  rcases transfer_bounds ended with ⟨_, within, whole⟩
  rw [Nat.zero_add] at within whole
  have interrupted : ∀ r, r = (if count = count - done.taken then NET_SOFTERROR
      else int_of_size (count - (count - done.taken))) →
      r = NET_SOFTERROR ∨ r = NET_HARDERROR ∨ r = int_of_size done.taken := by
    rintro r rfl
    split
    · exact .inl rfl
    · rw [Nat.sub_sub_self within]
      exact .inr (.inr rfl)
  simp only [written]
  cases ending : done.ending with
  | whole => exact .inr (.inr (congrArg int_of_size (whole.mp ending).symm))
  | nothing => exact .inl rfl
  | stopped errno =>
      cases memory with
      | true =>
          cases errno with
          | EINTR => exact interrupted _ rfl
          | EAGAIN => exact interrupted _ rfl
          | ENOBUFS => exact .inl rfl
          | ENOMEM => exact .inl rfl
          | other => exact .inr (.inl rfl)
      | false =>
          cases errno with
          | EINTR => exact interrupted _ rfl
          | EAGAIN => exact interrupted _ rfl
          | ENOBUFS => exact .inl rfl
          | ENOMEM => exact .inr (.inl rfl)
          | other => exact .inr (.inl rfl)

/-- A count below 2^31 that is returned is that of the bytes accepted. -/
theorem written_count (memory : Bool) {count : Nat} {done : Transferred Errno}
    (small : count < 2 ^ 31) (ended : transfer 0 count script = some done)
    (counted : 0 ≤ (written (switch memory) buf count done).r.toInt) :
    (written (switch memory) buf count done).r.toInt = done.taken := by
  have within := (transfer_bounds ended).2.1
  rcases @written_cases buf script memory count done ended with soft | hard | reported
  · rw [soft] at counted
    exact absurd counted (by decide)
  · rw [hard] at counted
    exact absurd counted (by decide)
  · rw [reported, int_of_size_toInt, Int.bmod_def]
    omega

/-- The two switches differ on ENOMEM only. -/
theorem written_same {count : Nat} {done : Transferred Errno}
    (other : done.ending ≠ .stopped .ENOMEM) :
    written sendfile_error buf count done = written write_error buf count done := by
  simp only [written]
  cases ending : done.ending with
  | whole => rfl
  | nothing => rfl
  | stopped errno =>
      cases errno with
      | EINTR => rfl
      | EAGAIN => rfl
      | ENOBUFS => rfl
      | ENOMEM => exact absurd ending other
      | other => rfl

end Contract

section Retries
variable {buf : List UInt8} {count : Nat}

/-- A caller that makes the call again with the same buffer after a soft error: all the bytes
that it has put on the stream, and what the last call came to. -/
inductive Retries (call : Script → Option Written) (ok : Script → Prop) :
    Script → List UInt8 → Written → Prop where
  | last {script : Script} {written : Written} (meets : ok script)
      (returned : call script = some written) (final : written.r ≠ NET_SOFTERROR) :
      Retries call ok script written.sent written
  | again {script : Script} {written final : Written} {stream : List UInt8} (meets : ok script)
      (returned : call script = some written) (soft : written.r = NET_SOFTERROR)
      (later : Retries call ok written.script stream final) :
      Retries call ok script (written.sent ++ stream) final

/-- Under the contract the stream holds the buffer once, up to the count of the last call. -/
theorem retries_exact {call : Script → Option Written} {ok : Script → Prop} {script : Script}
    {stream : List UInt8} {final : Written}
    (contract : ∀ script written, ok script → call script = some written → Accounts buf written)
    (retries : Retries call ok script stream final) (counted : 0 ≤ final.r.toInt) :
    stream = buf.take final.r.toInt.toNat := by
  induction retries with
  | last meets returned _ => exact (contract _ _ meets returned).counted counted
  | again meets returned soft _ ih =>
      rw [(contract _ _ meets returned).soft soft, List.nil_append]
      exact ih counted

/-- The script does not make the call forget bytes or report a wrong number of them. -/
def KeepsCount (memory : Bool) (count : Nat) (script : Script) : Prop :=
  ∀ done, transfer 0 count script = some done → Kept memory done

/-- The contract of one call. -/
def Contract (buf : List UInt8) (call : Script → Option Written) (script : Script) : Prop :=
  ∀ written, call script = some written → Accounts buf written

theorem contract_iff (memory : Bool) {call : Script → Option Written} {script : Script}
    (room : count ≤ buf.length)
    (made : call script = (transfer 0 count script).map (written (switch memory) buf count)) :
    Contract buf call script ↔ KeepsCount memory count script := by
  simp only [Contract, KeepsCount, made, Option.map_eq_some_iff, forall_exists_index, and_imp,
    forall_apply_eq_imp_iff₂]
  constructor
  · intro contract done ended
    exact (written_accounts_iff memory room ended).mp (contract done ended)
  · intro keeps done ended
    exact (written_accounts_iff memory room ended).mpr (keeps done ended)

/-- `Nwrite` and `Nsendfile` keep their contract exactly when nothing was accepted before a
return value of 0, ENOBUFS and, for `Nsendfile`, ENOMEM, and what was accepted fits an `int`.
A caller that retries then has the buffer on the stream once. -/
theorem writes_account_iff (buf : List UInt8) (count : Nat) (script : Script)
    (room : count ≤ buf.length) :
    (Contract buf (Nwrite buf count) script ↔ KeepsCount false count script) ∧
      (Contract buf (Nsendfile buf count) script ↔ KeepsCount true count script) ∧
      (∀ stream final, Retries (Nwrite buf count) (KeepsCount false count) script stream final →
        0 ≤ final.r.toInt → stream = buf.take final.r.toInt.toNat) ∧
      ∀ stream final, Retries (Nsendfile buf count) (KeepsCount true count) script stream final →
        0 ≤ final.r.toInt → stream = buf.take final.r.toInt.toNat := by
  have write := fun script => contract_iff false room (Nwrite_eq buf count script)
  have sendfile := fun script =>
    @contract_iff buf count true (Nsendfile buf count) script room (Nsendfile_eq room)
  constructor
  · exact write script
  · constructor
    · exact sendfile script
    · constructor
      · intro stream final retries counted
        exact retries_exact (fun script written keeps => (write script).mpr keeps written)
          retries counted
      · intro stream final retries counted
        exact retries_exact (fun script written keeps => (sendfile script).mpr keeps written)
          retries counted

/-- Two of three bytes are accepted and then a signal arrives: both report two. -/
theorem writes_account_interrupted :
    Contract [7, 8, 9] (Nwrite [7, 8, 9] 3) [.takes 2, .stops .EINTR] ∧
      Contract [7, 8, 9] (Nsendfile [7, 8, 9] 3) [.takes 2, .stops .EINTR] := by
  have two : transfer 0 3 [.takes 2, .stops .EINTR] = some ⟨2, .stopped Errno.EINTR, []⟩ := rfl
  have keeps : ∀ memory, KeepsCount memory 3 [.takes 2, .stops .EINTR] := by
    intro memory done ended
    rw [two, Option.some.injEq] at ended
    subst ended
    exact .inl (by decide)
  rcases writes_account_iff [7, 8, 9] 3 [.takes 2, .stops .EINTR] (Nat.le_refl 3) with
    ⟨write, sendfile, _⟩
  exact ⟨write.mpr (keeps false), sendfile.mpr (keeps true)⟩

/-- One of two bytes is accepted and then the buffers run out: a soft error is reported, and
a caller that retries sends the first byte again. -/
theorem writes_forget :
    ¬ (∀ (buf : List UInt8) (count : Nat) (script : Script), count ≤ buf.length →
        Contract buf (Nwrite buf count) script) ∧
      ¬ (∀ (buf : List UInt8) (count : Nat) (script : Script), count ≤ buf.length →
        Contract buf (Nsendfile buf count) script) := by
  constructor
  · intro claimed
    have accounts := claimed [7, 8] 2 [.takes 1, .stops .ENOBUFS] (Nat.le_refl 2) _ rfl
    exact absurd (accounts.soft rfl) (by decide)
  · intro claimed
    have accounts := claimed [7, 8] 2 [.takes 1, .stops .ENOBUFS] (Nat.le_refl 2) _ rfl
    exact absurd (accounts.soft rfl) (by decide)

end Retries

end Iperf.SocketWrites
