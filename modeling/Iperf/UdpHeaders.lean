import Iperf.UdpReceive

/-!
What arbitrary headers do to the counters of a UDP stream. A number from the wire is
compared as an unsigned word and kept in a signed one, so one beyond the signed range
turns the largest number seen into a negative one.
-/

namespace Iperf.UdpHeaders

open Time TestState SequenceLedger UdpReceive

section Calls

/-- One call of `iperf_udp_recv`: the test as it is then, what was read and the clock. -/
structure Call where
  test : iperf_test
  received : Received
  arrival_time : iperf_time

def receive (sp : iperf_stream) (call : Call) : iperf_stream :=
  (iperf_udp_recv call.test sp call.received call.arrival_time).2

def receives (sp : iperf_stream) (calls : List Call) : iperf_stream := calls.foldl receive sp

/-- The counters of a stream from `iperf_new_stream`. -/
def new_stream (buffer : List UInt8) : iperf_stream := ⟨buffer, 0, 0, 0, 0, 0, 0, 0⟩

/-- The numbers of the packets that are counted, in arrival order. -/
def counted : List Call → List Nat
  | [] => []
  | call :: rest =>
      if call.test.state = TEST_RUNNING ∧ 0 < call.received.r then
        (pcountOf call.test call.received.buffer).toNat :: counted rest
      else counted rest

/-- No counter is negative, and no more packets are lost than were sent. -/
structure Sound (sp : iperf_stream) : Prop where
  packet_count : 0 ≤ sp.packet_count.toInt
  outoforder_packets : 0 ≤ sp.outoforder_packets.toInt
  cnt_error : 0 ≤ sp.cnt_error.toInt
  within : sp.cnt_error.toInt ≤ sp.packet_count.toInt

/-- After every packet the counters are sound and the largest number has not gone down. -/
def Survives (sp : iperf_stream) (calls : List Call) : Prop :=
  ∀ front call back, calls = front ++ call :: back →
    (receives sp front).packet_count ≤ (receive (receives sp front) call).packet_count ∧
      Sound (receive (receives sp front) call)

/-- Every number is in the signed range, and so is the number of those that are not beyond
all the numbers before them. -/
def InRange (calls : List Call) : Prop :=
  (∀ number ∈ counted calls, number < 2 ^ 63) ∧ lateArrivals [0] (counted calls) < 2 ^ 63

theorem receives_append (sp : iperf_stream) (calls : List Call) (call : Call) :
    receives sp (calls ++ [call]) = receive (receives sp calls) call := by
  simp [receives]

theorem counted_append (calls : List Call) (call : Call) :
    counted (calls ++ [call]) = counted calls ++ counted [call] := by
  induction calls with
  | nil => rfl
  | cons first rest ih =>
      simp only [List.cons_append, counted, ih]
      split
      · rfl
      · rfl

theorem survives_append (sp : iperf_stream) (calls : List Call) (call : Call) :
    Survives sp (calls ++ [call]) ↔
      Survives sp calls ∧
        (receives sp calls).packet_count ≤ (receive (receives sp calls) call).packet_count ∧
          Sound (receive (receives sp calls) call) := by
  constructor
  · intro survives
    constructor
    · intro front early back split
      exact survives front early (back ++ [call]) (by simp [split])
    · exact survives calls call [] rfl
  · rintro ⟨survives, last⟩ front early back split
    rcases List.eq_nil_or_concat back with none | ⟨middle, final, shape⟩
    · subst none
      rcases List.append_inj' split rfl with ⟨same, single⟩
      rw [← same, ← List.head_eq_of_cons_eq single]
      exact last
    · rw [List.concat_eq_append] at shape
      subst shape
      have longer : calls ++ [call] = (front ++ early :: middle) ++ [final] := by simp [split]
      exact survives front early middle (List.append_inj' longer rfl).1

end Calls

section Ledger
variable {sp : iperf_stream} {ledger : Ledger}

/-- A ledger whose largest number and whose late arrivals are in the signed range. -/
structure Fits (ledger : Ledger) : Prop where
  highest : ledger.highest < 2 ^ 63
  late : ledger.late < 2 ^ 63

theorem arrivals_append (ledger : Ledger) (early late : List Nat) :
    arrivals ledger (early ++ late) = arrivals (arrivals ledger early) late := by
  induction early generalizing ledger with
  | nil => rfl
  | cons first rest ih => exact ih (arrive ledger first)

/-- The losses are gaps below the largest number. -/
theorem arrivals_lost (numbers : List Nat) (within : ledger.lost ≤ ledger.highest) :
    (arrivals ledger numbers).lost ≤ (arrivals ledger numbers).highest := by
  induction numbers generalizing ledger with
  | nil => exact within
  | cons number rest ih =>
      apply ih
      by_cases forward : ledger.highest < number
      · simp only [arrive, forward, if_true]
        omega
      · simp only [arrive, forward, if_false]
        omega

theorem arrive_highest (ledger : Ledger) (number : Nat) :
    (arrive ledger number).highest = max ledger.highest number := by
  by_cases forward : ledger.highest < number
  · simp only [arrive, forward, if_true]
    omega
  · simp only [arrive, forward, if_false]
    omega

/-- The largest number is below a bound when it was, and every number is. -/
theorem arrivals_highest (numbers : List Nat) (bound : Nat) :
    (arrivals ledger numbers).highest < bound ↔
      ledger.highest < bound ∧ ∀ number ∈ numbers, number < bound := by
  induction numbers generalizing ledger with
  | nil => simp [arrivals]
  | cons number rest ih =>
      rw [arrivals, ih, arrive_highest, List.forall_mem_cons, Nat.max_lt, and_assoc]

/-- The ledger counts a packet as late by its largest number alone. -/
theorem arrivals_late_from (earlier numbers : List Nat) (zero : 0 ∈ earlier)
    (highest : ledger.highest = largest earlier) :
    (arrivals ledger numbers).late = ledger.late + lateArrivals earlier numbers := by
  induction numbers generalizing earlier ledger with
  | nil => simp [arrivals, lateArrivals]
  | cons number rest ih =>
      have behind : (∃ prior ∈ earlier, number ≤ prior) ↔ ¬ ledger.highest < number := by
        rw [highest, Nat.not_lt]
        rcases Nat.eq_zero_or_pos number with none | some
        · simp only [none, Nat.zero_le, and_true, iff_true]
          exact ⟨0, zero⟩
        · exact late_iff earlier number some
      have top : (arrive ledger number).highest = largest (earlier ++ [number]) := by
        rw [arrive_highest, highest, largest_append]
      rw [arrivals, ih (earlier ++ [number]) (List.mem_append_left _ zero) top, lateArrivals]
      by_cases forward : ledger.highest < number
      · simp [arrive, forward, mt behind.mp (not_not.mpr forward)]
      · simp only [arrive, forward, if_false, if_pos (behind.mpr forward)]
        omega

theorem arrivals_late_grows (numbers : List Nat) :
    ledger.late ≤ (arrivals ledger numbers).late := by
  induction numbers generalizing ledger with
  | nil => exact Nat.le_refl _
  | cons number rest ih =>
      have first : ledger.late ≤ (arrive ledger number).late := by
        simp only [arrive]
        split
        · exact Nat.le_refl _
        · exact Nat.le_succ _
      exact Nat.le_trans first ih

theorem Fits.earlier {numbers : List Nat} (fits : Fits (arrivals ledger numbers)) :
    Fits ledger := by
  constructor
  · exact ((arrivals_highest numbers _).mp fits.highest).1
  · exact Nat.lt_of_le_of_lt (arrivals_late_grows numbers) fits.late

theorem inRange_iff (calls : List Call) :
    InRange calls ↔ Fits (arrivals empty (counted calls)) := by
  have highest := @arrivals_highest empty (counted calls) (2 ^ 63)
  have late := @arrivals_late_from empty [0] (counted calls) List.mem_cons_self rfl
  have none : empty.late = 0 := rfl
  constructor
  · rintro ⟨range, few⟩
    constructor
    · exact highest.mpr ⟨by decide, range⟩
    · omega
  · intro fits
    constructor
    · exact (highest.mp fits.highest).2
    · have bound := fits.late
      omega

/-- Counters that hold a ledger are sound as long as its numbers are in the signed range. -/
theorem sound_iff (holds : Holds sp ledger) (within : ledger.lost ≤ ledger.highest)
    (highest : ledger.highest < 2 ^ 64) (late : ledger.late ≤ 2 ^ 63) :
    Sound sp ↔ Fits ledger := by
  have count := congrArg Int64.toInt holds.highest
  have order := congrArg Int64.toInt holds.late
  have error := congrArg Int64.toInt holds.lost
  rw [Int64.toInt_ofNat', Int64.size, Int.bmod_def] at count order error
  constructor
  · intro sound
    have one := sound.packet_count
    have two := sound.outoforder_packets
    constructor
    · omega
    · omega
  · rintro ⟨low, few⟩
    constructor
    · omega
    · omega
    · omega
    · omega

end Ledger

section Survival
variable {sp : iperf_stream} {ledger : Ledger}

/-- The counters hold a ledger that is within the signed range. -/
structure Kept (sp : iperf_stream) (ledger : Ledger) : Prop where
  holds : Holds sp ledger
  within : ledger.lost ≤ ledger.highest
  fits : Fits ledger

theorem new_stream_kept (buffer : List UInt8) : Kept (new_stream buffer) empty :=
  ⟨⟨rfl, rfl, rfl⟩, Nat.le_refl 0, by decide, by decide⟩

/-- A call that counts nothing leaves the counters as they are. -/
theorem receive_uncounted {call : Call}
    (uncounted : ¬ (call.test.state = TEST_RUNNING ∧ 0 < call.received.r)) :
    (receive sp call).packet_count = sp.packet_count ∧
      (receive sp call).cnt_error = sp.cnt_error ∧
      (receive sp call).outoforder_packets = sp.outoforder_packets := by
  simp only [receive, iperf_udp_recv]
  by_cases none : call.received.r ≤ 0
  · simp only [none, if_true, and_self]
  · have stopped : call.test.state ≠ TEST_RUNNING := fun running =>
      uncounted ⟨running, Int.not_le.mp none⟩
    simp only [none, stopped, if_false, and_self]

theorem receive_holds (call : Call) (kept : Kept sp ledger) :
    Holds (receive sp call) (arrivals ledger (counted [call])) := by
  by_cases counts : call.test.state = TEST_RUNNING ∧ 0 < call.received.r
  · have lost : ledger.lost < 2 ^ 63 := Nat.lt_of_le_of_lt kept.within kept.fits.highest
    have single : counted [call] = [(pcountOf call.test call.received.buffer).toNat] := by
      simp [counted, counts]
    rw [single]
    exact recv_running call.test sp call.received call.arrival_time counts.1 counts.2 ledger
      kept.holds kept.fits.highest lost
  · have none : counted [call] = [] := by simp [counted, counts]
    rcases @receive_uncounted sp _ counts with ⟨count, error, order⟩
    rw [none]
    exact ⟨count.trans kept.holds.highest, error.trans kept.holds.lost,
      order.trans kept.holds.late⟩

/-- What one call adds to the ledger is one unsigned word and one late arrival at most. -/
theorem counted_bounds (call : Call) (fits : Fits ledger) :
    (arrivals ledger (counted [call])).highest < 2 ^ 64 ∧
      (arrivals ledger (counted [call])).late ≤ 2 ^ 63 := by
  have high := fits.highest
  have few := fits.late
  constructor
  · rw [arrivals_highest]
    constructor
    · omega
    · intro number member
      simp only [counted] at member
      split at member
      · rw [List.mem_singleton] at member
        exact member ▸ UInt64.toNat_lt _
      · cases member
  · simp only [counted]
    split
    · simp only [arrivals, arrive]
      split
      · exact Nat.le_of_lt few
      · exact few
    · exact Nat.le_of_lt few

/-- One call from counters in range: they are sound after it exactly when they are still in
range, and then the largest number has not gone down. -/
theorem receive_sound_iff (call : Call) (kept : Kept sp ledger) :
    (sp.packet_count ≤ (receive sp call).packet_count ∧ Sound (receive sp call)) ↔
      Fits (arrivals ledger (counted [call])) := by
  have after := receive_holds call kept
  have within := arrivals_lost (counted [call]) kept.within
  have bounds := counted_bounds call kept.fits
  have sound := sound_iff after within bounds.1 bounds.2
  constructor
  · rintro ⟨_, safe⟩
    exact sound.mp safe
  · intro fits
    constructor
    · -- The largest number itself is among those that bound it.
      have grown : ¬ (arrivals ledger (counted [call])).highest < ledger.highest := fun less =>
        absurd ((arrivals_highest _ _).mp less).1 (Nat.lt_irrefl _)
      rw [Int64.le_iff_toInt_le, kept.holds.highest, after.highest,
        Int64.toInt_ofNat_of_lt kept.fits.highest, Int64.toInt_ofNat_of_lt fits.highest]
      omega
    · exact sound.mpr fits

/-- Counters whose ledger is in range at the end hold it. -/
theorem receives_kept (buffer : List UInt8) (calls : List Call)
    (fits : Fits (arrivals empty (counted calls))) :
    Kept (receives (new_stream buffer) calls) (arrivals empty (counted calls)) := by
  induction calls using List.reverseRecOn with
  | nil => exact new_stream_kept buffer
  | append_singleton calls call ih =>
      rw [counted_append, arrivals_append] at fits ⊢
      have before := ih fits.earlier
      rw [receives_append]
      exact ⟨receive_holds call before, arrivals_lost _ before.within, fits⟩

/-- The counters survive a sequence of packets exactly when every number is below 2^63 and
fewer than 2^63 packets are out of order. -/
theorem counters_survive_iff (buffer : List UInt8) (calls : List Call) :
    Survives (new_stream buffer) calls ↔ InRange calls := by
  rw [inRange_iff]
  induction calls using List.reverseRecOn with
  | nil =>
      constructor
      · intro _
        exact (new_stream_kept buffer).fits
      · intro _ front call back split
        simp at split
  | append_singleton calls call ih =>
      rw [survives_append, ih, counted_append, arrivals_append]
      constructor
      · rintro ⟨fits, last⟩
        exact (receive_sound_iff call (receives_kept buffer calls fits)).mp last
      · intro fits
        have before := receives_kept buffer calls fits.earlier
        exact ⟨before.fits, (receive_sound_iff call before).mpr fits⟩

/-- A 16-byte datagram whose 64-bit number has the last byte `number` and every other byte
`fill`. -/
def header (fill number : UInt8) : Call :=
  { test := ⟨TEST_RUNNING, true⟩
    received := ⟨16, List.replicate 8 0 ++ List.replicate 7 fill ++ [number]⟩
    arrival_time := ⟨0, 0⟩ }

/-- A datagram with the number 2^64 - 1 takes the largest number from 9 to -1. -/
theorem hostile_number_breaks :
    ¬ ∀ (buffer : List UInt8) (calls : List Call),
      (∀ call ∈ calls, call.received.r = 16 ∧ call.received.buffer.length = 16) →
      Survives (new_stream buffer) calls := by
  intro claimed
  have survives := claimed [] [header 0 9, header 255 255] (by decide)
  have last := (survives [header 0 9] (header 255 255) [] rfl).2.packet_count
  exact absurd last (by decide)

end Survival

end Iperf.UdpHeaders
