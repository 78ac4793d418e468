import Iperf.AuthToken
import Iperf.Parameters
import Iperf.SocketWrites
import Iperf.TestState

/-!
Frames and state bytes written to the control socket. Both take every count that `Nwrite`
returns for success, also one that is short.
-/

namespace Iperf.ControlWrites

open Parameters SocketWrites TestState Transfer
open AuthToken (CString)
open Json (cJSON)

section Code

/-- `cJSON_PrintUnformatted` may find no memory. The length is kept in 32 bits. -/
def JSON_write (cJSON_PrintUnformatted : cJSON → Option CString) (json : cJSON)
    (script : Script) : Option Written :=
  match cJSON_PrintUnformatted json with
  | none => some ⟨-1, [], script⟩
  | some str =>
      let hsize := str.val.length % 2 ^ 32
      match Nwrite (htonl hsize) 4 script with
      | none => none
      | some header =>
          if header.r < 0 then some ⟨-1, header.sent, header.script⟩
          else
            match Nwrite str.val hsize header.script with
            | none => none
            | some body =>
                some ⟨if body.r < 0 then -1 else 0, header.sent ++ body.sent, body.script⟩

inductive Error where
  | IESENDMESSAGE
  deriving DecidableEq, Repr

/-- The control connection of a test, with `i_errno`. -/
structure Control where
  ctrl_sck : Int32
  state : StateByte
  i_errno : Option Error
  deriving DecidableEq, Repr

def iperf_set_send_state (test : Control) (state : StateByte) (script : Script) :
    Option (Control × Written) :=
  if 0 ≤ test.ctrl_sck then
    let test := { test with state := state }
    match Nwrite [state.toUInt8] 1 script with
    | none => none
    | some byte =>
        if byte.r < 0 then
          some ({ test with i_errno := some .IESENDMESSAGE }, ⟨-1, byte.sent, byte.script⟩)
        else some (test, ⟨0, byte.sent, byte.script⟩)
  else some (test, ⟨0, [], script⟩)

end Code

section Failures
variable {count : Nat} {buf : List UInt8} {script : Script} {done : Transferred Errno}

/-- The write returns an error code, or a number of bytes that is one as an `int`. -/
def Fails (done : Transferred Errno) : Prop :=
  match done.ending with
  | .whole => 2 ^ 31 ≤ done.taken % 2 ^ 32
  | .stopped .EINTR => done.taken = 0 ∨ 2 ^ 31 ≤ done.taken % 2 ^ 32
  | .stopped .EAGAIN => done.taken = 0 ∨ 2 ^ 31 ≤ done.taken % 2 ^ 32
  | _ => True

/-- The write is given up before everything was accepted. -/
def Cut (done : Transferred Errno) : Prop :=
  done.ending = .stopped .EINTR ∨ done.ending = .stopped .EAGAIN

theorem failure_nonzero : (-1 : Int32) ≠ 0 := by decide

theorem soft_negative : NET_SOFTERROR < 0 := by decide

theorem hard_negative : NET_HARDERROR < 0 := by decide

theorem counted_negative (size : Nat) : int_of_size size < 0 ↔ 2 ^ 31 ≤ size % 2 ^ 32 := by
  have read := int_of_size_toInt size
  have zero : (0 : Int32).toInt = 0 := rfl
  rw [Int.bmod_def] at read
  rw [Int32.lt_iff_toInt_lt, zero]
  omega

theorem interrupted_negative {taken : Nat} (within : taken ≤ count) :
    (if count = count - taken then NET_SOFTERROR else int_of_size (count - (count - taken))) < 0 ↔
      taken = 0 ∨ 2 ^ 31 ≤ taken % 2 ^ 32 := by
  by_cases none : count = count - taken
  · rw [if_pos none]
    have zero : taken = 0 := by omega
    exact iff_of_true soft_negative (.inl zero)
  · rw [if_neg none, Nat.sub_sub_self within, counted_negative]
    omega

theorem written_negative (ended : transfer 0 count script = some done) :
    (written write_error buf count done).r < 0 ↔ Fails done := by
  rcases transfer_bounds ended with ⟨_, within, whole⟩
  rw [Nat.zero_add] at within whole
  simp only [written, Fails]
  cases ending : done.ending with
  | whole =>
      dsimp only
      rw [whole.mp ending]
      exact counted_negative count
  | nothing => exact iff_of_true soft_negative trivial
  | stopped errno =>
      cases errno with
      | EINTR => exact interrupted_negative within
      | EAGAIN => exact interrupted_negative within
      | ENOBUFS => exact iff_of_true soft_negative trivial
      | ENOMEM => exact iff_of_true hard_negative trivial
      | other => exact iff_of_true hard_negative trivial

/-- A write that does not fail is whole or cut. -/
theorem whole_or_cut (works : ¬ Fails done) : done.ending = .whole ∨ Cut done := by
  revert works
  simp only [Fails, Cut]
  cases done.ending with
  | whole => simp
  | nothing => simp
  | stopped errno => cases errno <;> simp

/-- A cut write has accepted less than it was asked for. -/
theorem cut_short (ended : transfer 0 count script = some done) (cut : Cut done) :
    done.taken < count := by
  rcases transfer_bounds ended with ⟨_, within, whole⟩
  have unfinished : done.ending ≠ .whole := by
    rcases cut with interrupted | again
    · simp [interrupted]
    · simp [again]
  have other := mt whole.mpr unfinished
  omega

end Failures

section Whole
variable (cJSON_PrintUnformatted : cJSON → Option CString) (json : cJSON) (script : Script)

/-- Success means that the length and the whole document were accepted, in this order. -/
def SentWhole : Prop :=
  ∀ frame, JSON_write cJSON_PrintUnformatted json script = some frame → frame.r = 0 →
    ∃ str, cJSON_PrintUnformatted json = some str ∧
      frame.sent = htonl str.val.length ++ str.val

/-- Both writes go without a failure, and yet one of them is cut, or the length of the
document does not fit 32 bits. -/
def Torn : Prop :=
  ∃ str header body, cJSON_PrintUnformatted json = some str ∧
    transfer 0 4 script = some header ∧ ¬ Fails header ∧
    transfer 0 (str.val.length % 2 ^ 32) header.rest = some body ∧ ¬ Fails body ∧
    (Cut header ∨ Cut body ∨ 2 ^ 32 ≤ str.val.length)

/-- Success of the two functions on the control socket means that nothing is missing. -/
def StateSent (test : Control) (state : StateByte) : Prop :=
  ∀ after byte, iperf_set_send_state test state script = some (after, byte) →
    byte.r = 0 → 0 ≤ test.ctrl_sck → byte.sent = [state.toUInt8]

variable {cJSON_PrintUnformatted json script}

/-- What success takes. -/
theorem JSON_write_zero {frame : Written}
    (returned : JSON_write cJSON_PrintUnformatted json script = some frame)
    (success : frame.r = 0) :
    ∃ str header body, cJSON_PrintUnformatted json = some str ∧
      transfer 0 4 script = some header ∧ ¬ Fails header ∧
      transfer 0 (str.val.length % 2 ^ 32) header.rest = some body ∧ ¬ Fails body ∧
      frame.sent =
        (htonl (str.val.length % 2 ^ 32)).take header.taken ++ str.val.take body.taken := by
  simp only [JSON_write] at returned
  cases printed : cJSON_PrintUnformatted json with
  | none =>
      simp only [printed, Option.some.injEq] at returned
      rw [← returned] at success
      exact absurd success failure_nonzero
  | some str =>
      simp only [printed, Nwrite_eq] at returned
      cases first : transfer 0 4 script with
      | none => simp [first] at returned
      | some header =>
          simp only [first, Option.map_some] at returned
          by_cases failed : (written write_error (htonl (str.val.length % 2 ^ 32)) 4 header).r < 0
          · rw [if_pos failed, Option.some.injEq] at returned
            rw [← returned] at success
            exact absurd success failure_nonzero
          · have behind : (written write_error (htonl (str.val.length % 2 ^ 32)) 4 header).script =
                header.rest := rfl
            rw [if_neg failed, behind] at returned
            cases second : transfer 0 (str.val.length % 2 ^ 32) header.rest with
            | none =>
                simp only [second, Option.map_none] at returned
                cases returned
            | some body =>
                simp only [second, Option.map_some, Option.some.injEq] at returned
                have works :
                    ¬ (written write_error str.val (str.val.length % 2 ^ 32) body).r < 0 := by
                  intro failed
                  rw [← returned, if_pos failed] at success
                  exact absurd success failure_nonzero
                exact ⟨str, header, body, rfl, rfl, mt (written_negative first).mpr failed, second,
                  mt (written_negative second).mpr works, returned ▸ rfl⟩

theorem JSON_write_returns {str : CString} {header body : Transferred Errno}
    (printed : cJSON_PrintUnformatted json = some str)
    (first : transfer 0 4 script = some header) (works : ¬ Fails header)
    (second : transfer 0 (str.val.length % 2 ^ 32) header.rest = some body)
    (also : ¬ Fails body) :
    JSON_write cJSON_PrintUnformatted json script =
      some ⟨0, (htonl (str.val.length % 2 ^ 32)).take header.taken ++ str.val.take body.taken,
        body.rest⟩ := by
  have positive : ¬ (written write_error (htonl (str.val.length % 2 ^ 32)) 4 header).r < 0 :=
    mt (written_negative first).mp works
  have negative : ¬ (written write_error str.val (str.val.length % 2 ^ 32) body).r < 0 :=
    mt (written_negative second).mp also
  have behind : (written write_error (htonl (str.val.length % 2 ^ 32)) 4 header).script =
      header.rest := rfl
  simp only [JSON_write, printed, Nwrite_eq, first, Option.map_some, positive, if_false, behind,
    second, negative]
  rfl

theorem htonl_length (value : Nat) : (htonl value).length = 4 := rfl

/-- Two whole writes are the frame. -/
theorem frame_whole {str : CString} {header body : Transferred Errno}
    (first : transfer 0 4 script = some header)
    (second : transfer 0 (str.val.length % 2 ^ 32) header.rest = some body)
    (short : str.val.length < 2 ^ 32) (header_whole : header.ending = .whole)
    (body_whole : body.ending = .whole) :
    (htonl (str.val.length % 2 ^ 32)).take header.taken ++ str.val.take body.taken =
      htonl str.val.length ++ str.val := by
  have four := (transfer_bounds first).2.2.mp header_whole
  have all := (transfer_bounds second).2.2.mp body_whole
  rw [Nat.mod_eq_of_lt short] at all ⊢
  rw [four, all, Nat.zero_add, Nat.zero_add, ← htonl_length str.val.length, List.take_length,
    List.take_length]

/-- A frame of a cut write, or of a document that is too long, is shorter than it should be. -/
theorem frame_short {str : CString} {header body : Transferred Errno}
    (first : transfer 0 4 script = some header)
    (second : transfer 0 (str.val.length % 2 ^ 32) header.rest = some body)
    (torn : Cut header ∨ Cut body ∨ 2 ^ 32 ≤ str.val.length) :
    (htonl (str.val.length % 2 ^ 32)).take header.taken ++ str.val.take body.taken ≠
      htonl str.val.length ++ str.val := by
  intro same
  have lengths := congrArg List.length same
  simp only [List.length_append, List.length_take, htonl_length] at lengths
  have header_most := (transfer_bounds first).2.1
  have body_most := (transfer_bounds second).2.1
  rcases torn with cut | cut | long
  · have short := cut_short first cut
    omega
  · have short := cut_short second cut
    omega
  · omega

theorem sent_whole_iff :
    SentWhole cJSON_PrintUnformatted json script ↔ ¬ Torn cJSON_PrintUnformatted json script := by
  constructor
  · rintro whole ⟨str, header, body, printed, first, works, second, also, torn⟩
    rcases whole _ (JSON_write_returns printed first works second also) rfl with
      ⟨other, found, sent⟩
    rw [printed, Option.some.injEq] at found
    subst found
    exact frame_short first second torn sent
  · intro untorn frame returned success
    rcases JSON_write_zero returned success with
      ⟨str, header, body, printed, first, works, second, also, sent⟩
    have intact : ¬ (Cut header ∨ Cut body ∨ 2 ^ 32 ≤ str.val.length) := fun torn =>
      untorn ⟨str, header, body, printed, first, works, second, also, torn⟩
    rw [not_or, not_or, Nat.not_le] at intact
    refine ⟨str, printed, ?_⟩
    rw [sent]
    apply frame_whole first second intact.2.2
    · exact (whole_or_cut works).resolve_right intact.1
    · exact (whole_or_cut also).resolve_right intact.2.1

/-- There is no short count of a single byte. -/
theorem state_sent (test : Control) (state : StateByte) (script : Script) :
    StateSent script test state := by
  intro after byte returned success valid
  simp only [iperf_set_send_state, valid, if_true, Nwrite_eq] at returned
  cases ended : transfer 0 1 script with
  | none => simp [ended] at returned
  | some done =>
      simp only [ended, Option.map_some] at returned
      by_cases failed : (written write_error [state.toUInt8] 1 done).r < 0
      · rw [if_pos failed, Option.some.injEq, Prod.mk.injEq] at returned
        rw [← returned.2] at success
        exact absurd success failure_nonzero
      · rw [if_neg failed, Option.some.injEq, Prod.mk.injEq] at returned
        have works := mt (written_negative ended).mpr failed
        have one : done.taken = 1 := by
          rcases whole_or_cut works with whole | cut
          · exact (transfer_bounds ended).2.2.mp whole
          · -- Cut short, it has accepted nothing, which is a soft error.
            have none := cut_short ended cut
            have zero : done.taken = 0 := by omega
            apply absurd _ works
            rcases cut with interrupted | again
            · simp [Fails, interrupted, zero]
            · simp [Fails, again, zero]
        rw [← returned.2]
        simp [written, one]

/-- A frame that is reported as sent is whole unless EINTR or EAGAIN cuts off one of its two
writes and the other does not fail, or the document has 2^32 bytes or more. A state byte
that is reported as sent was accepted. -/
theorem control_messages_whole_iff (cJSON_PrintUnformatted : cJSON → Option CString)
    (json : cJSON) (test : Control) (state : StateByte) (script other : Script) :
    (SentWhole cJSON_PrintUnformatted json script ∧ StateSent other test state) ↔
      ¬ Torn cJSON_PrintUnformatted json script := by
  rw [and_iff_left (state_sent test state other), sent_whole_iff]

/-- A signal interrupts the header after two bytes; the document follows it at once. -/
theorem control_message_torn :
    ¬ ∀ (cJSON_PrintUnformatted : cJSON → Option CString) (json : cJSON) (script : Script),
      SentWhole cJSON_PrintUnformatted json script := by
  intro claimed
  have whole := claimed (fun _ => some ⟨[123, 125], by simp⟩) (.object [])
    [.takes 2, .stops .EINTR, .takes 2]
  rcases whole ⟨0, [0, 0, 123, 125], []⟩ rfl rfl with ⟨str, printed, sent⟩
  have lengths := congrArg List.length sent
  rw [Option.some.injEq] at printed
  subst printed
  exact absurd lengths (by decide)

end Whole

end Iperf.ControlWrites
