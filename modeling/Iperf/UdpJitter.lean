import Iperf.UdpSend
import Mathlib.Algebra.Order.Field.Rat
import Mathlib.Algebra.Order.Field.Basic
import Mathlib.Data.Rat.Cast.Order

/-!
The jitter of two runs that differ by the clock of the sender. `iperf_time_diff`
gives the distance of two times and not the direction, so an offset cancels out
of two consecutive transit times only while neither changes sides.
-/

namespace Iperf.UdpJitter

open Time TestState UdpReceive UdpSend

section Transit

/-- The time with the sign that the code drops. -/
def transit (sent_time arrival_time : iperf_time) : Int := micros arrival_time - micros sent_time

theorem subtract_in_secs {later earlier : iperf_time} (normal : Proper later)
    (normal_earlier : Proper earlier) (ordered : micros earlier ≤ micros later) :
    iperf_time_in_secs (subtract later earlier) =
      ((micros later - micros earlier : Int) : ℚ) / 1000000 := by
  rw [← subtract_micros normal normal_earlier ordered, iperf_time_in_secs, micros,
    iperf_time_in_usecs]
  push_cast
  ring

/-- What the code takes for the transit time is its absolute value. -/
theorem time_diff_transit {sent_time arrival_time : iperf_time} (sent : Proper sent_time)
    (arrived : Proper arrival_time) :
    iperf_time_in_secs (iperf_time_diff arrival_time sent_time).1 =
      |((transit sent_time arrival_time : Int) : ℚ)| / 1000000 := by
  obtain ⟨equal, later, earlier, cases⟩ := compare_micros arrived sent
  unfold iperf_time_diff transit
  split
  · rename_i same
    rw [equal same]
    simp [iperf_time_in_secs]
  · split
    · rename_i after
      have ordered := later after
      have nonnegative : (0 : ℚ) ≤ ((micros arrival_time - micros sent_time : Int) : ℚ) := by
        exact_mod_cast Int.sub_nonneg_of_le ordered
      rw [abs_of_nonneg nonnegative]
      exact subtract_in_secs arrived sent ordered
    · rename_i unequal behind
      have ordered := earlier (by simp_all)
      have nonpositive : ((micros arrival_time - micros sent_time : Int) : ℚ) ≤ 0 := by
        exact_mod_cast Int.sub_nonpos_of_le ordered
      rw [abs_of_nonpos nonpositive, subtract_in_secs sent arrived ordered]
      push_cast
      ring

end Transit

section Sides

/-- Neither of the two is positive while the other is negative. -/
def SameSide (first second : Int) : Prop :=
  (0 ≤ first ∧ 0 ≤ second) ∨ (first ≤ 0 ∧ second ≤ 0)

/-- Two transit times whose distance an offset of the sender's clock leaves. -/
def Undisturbed (offset first second : Int) : Prop :=
  offset = 0 ∨ (SameSide first second ∧ SameSide (first - offset) (second - offset)) ∨
    first + second = offset

theorem abs_sub_natAbs (first second : Int) :
    |(|(second : ℚ)| - |(first : ℚ)|)| =
      ((second.natAbs : Int) - (first.natAbs : Int)).natAbs := by
  push_cast [Nat.cast_natAbs]
  rfl

theorem undisturbed_iff (offset first second : Int) :
    |(|(second : ℚ)| - |(first : ℚ)|)| =
        |(|((second - offset : Int) : ℚ)| - |((first - offset : Int) : ℚ)|)| ↔
      Undisturbed offset first second := by
  rw [abs_sub_natAbs, abs_sub_natAbs, Nat.cast_inj]
  unfold Undisturbed SameSide
  omega

end Sides

section Offset
variable (offset : Int)

/-- The time as a clock that is `offset` microseconds ahead has it. -/
def moved (time : iperf_time) : iperf_time :=
  let total := (micros time + offset).toNat
  ⟨UInt32.ofNat (total / 1000000), UInt32.ofNat (total % 1000000)⟩

/-- The same datagram from a sender with the other clock. -/
def restamp (packet : Received × iperf_time) : Received × iperf_time :=
  let sent_time := moved offset (sentTimeOf packet.1.buffer)
  ({ packet.1 with
      buffer := bytes_of 4 sent_time.secs.toNat ++ bytes_of 4 sent_time.usecs.toNat ++
        packet.1.buffer.drop 8 }, packet.2)

/-- A received packet with the times of two clocks. -/
structure Measured (packet : Received × iperf_time) : Prop where
  data : 0 < packet.1.r
  sent : Proper (sentTimeOf packet.1.buffer)
  arrived : Proper packet.2

/-- The time stamp can take the offset. -/
structure Stamped (packet : Received × iperf_time) : Prop extends Measured packet where
  not_before : 0 ≤ micros (sentTimeOf packet.1.buffer) + offset
  not_beyond : micros (sentTimeOf packet.1.buffer) + offset < 2 ^ 32 * 1000000

def transitOf (packet : Received × iperf_time) : Int :=
  transit (sentTimeOf packet.1.buffer) packet.2

variable {offset} {packet : Received × iperf_time}

theorem moved_micros {time : iperf_time} (not_before : 0 ≤ micros time + offset)
    (not_beyond : micros time + offset < 2 ^ 32 * 1000000) :
    Proper (moved offset time) ∧ micros (moved offset time) = micros time + offset := by
  have seconds : (micros time + offset).toNat / 1000000 < 2 ^ 32 := by omega
  have usecs : (micros time + offset).toNat % 1000000 < 1000000 := Nat.mod_lt _ (by decide)
  have secs_read := UInt32.toNat_ofNat_of_lt' seconds
  have usecs_read := UInt32.toNat_ofNat_of_lt' (Nat.lt_trans usecs (by decide : 1000000 < 2 ^ 32))
  constructor
  · unfold Proper moved
    dsimp only
    rw [usecs_read]
    exact usecs
  · rw [moved, micros, iperf_time_in_usecs, secs_read, usecs_read]
    omega

theorem sentTimeOf_stamp (time : iperf_time) (rest : List UInt8) :
    sentTimeOf (bytes_of 4 time.secs.toNat ++ bytes_of 4 time.usecs.toNat ++ rest) = time := by
  have secs := @word_at [] (bytes_of 4 time.secs.toNat) (bytes_of 4 time.usecs.toNat ++ rest)
  have usecs := @word_at (bytes_of 4 time.secs.toNat) (bytes_of 4 time.usecs.toNat) rest
  simp only [List.nil_append, List.length_nil, bytes_of_length, bigEndian_bytes_of,
    ← List.append_assoc] at secs usecs
  have secs_bound : time.secs.toNat < 256 ^ 4 := time.secs.toNat_lt
  have usecs_bound : time.usecs.toNat < 256 ^ 4 := time.usecs.toNat_lt
  rw [sentTimeOf, secs, usecs, Nat.mod_eq_of_lt secs_bound, Nat.mod_eq_of_lt usecs_bound,
    UInt32.ofNat_toNat, UInt32.ofNat_toNat]

theorem restamp_sent :
    sentTimeOf (restamp offset packet).1.buffer = moved offset (sentTimeOf packet.1.buffer) :=
  sentTimeOf_stamp _ _

theorem restamp_transit (stamped : Stamped offset packet) :
    transitOf (restamp offset packet) = transitOf packet - offset := by
  have same := (moved_micros stamped.not_before stamped.not_beyond).2
  unfold transitOf transit
  rw [restamp_sent, same]
  simp only [restamp]
  omega

theorem Stamped.restamped (stamped : Stamped offset packet) :
    Measured (restamp offset packet) := by
  constructor
  · exact stamped.data
  · rw [restamp_sent]
    exact (moved_micros stamped.not_before stamped.not_beyond).1
  · exact stamped.arrived

end Offset

section Run
variable {test : iperf_test} {sp : iperf_stream}

def received_bytes (packets : List (Received × iperf_time)) : UInt64 :=
  packets.foldl (fun total packet => total + UInt64.ofInt packet.1.r) 0

/-- The change of the transit time that one packet adds to the estimate. -/
def change (sp : iperf_stream) (packet : Received × iperf_time) : ℚ :=
  let transit := |(transitOf packet : ℚ)| / 1000000
  |transit - if sp.bytes_received = 0 then transit else sp.prev_transit|

theorem recv_jitter (running : test.state = TEST_RUNNING) {packet : Received × iperf_time}
    (measured : Measured packet) :
    let after := (iperf_udp_recv test sp packet.1 packet.2).2
    after.jitter = sp.jitter + (change sp packet - sp.jitter) / 16 ∧
      after.prev_transit = |(transitOf packet : ℚ)| / 1000000 ∧
      after.bytes_received = sp.bytes_received + UInt64.ofInt packet.1.r := by
  intro after
  have some : ¬ packet.1.r ≤ 0 := by
    have := measured.data
    omega
  have taken := time_diff_transit measured.sent measured.arrived
  have counted (sp : iperf_stream) (pcount : UInt64) :
      (countPacket sp pcount).buffer = sp.buffer ∧
        (countPacket sp pcount).jitter = sp.jitter ∧
        (countPacket sp pcount).prev_transit = sp.prev_transit ∧
        (countPacket sp pcount).bytes_received = sp.bytes_received := by
    unfold countPacket
    split <;> exact ⟨rfl, rfl, rfl, rfl⟩
  simp only [after, iperf_udp_recv, some, running, if_true, if_false, measureJitter, taken,
    counted, change, transitOf, beq_iff_eq, and_self]

theorem receiveAll_snoc (front : List (Received × iperf_time))
    (packet : Received × iperf_time) :
    receiveAll test sp (front ++ [packet]) =
      (iperf_udp_recv test (receiveAll test sp front) packet.1 packet.2).2 := by
  rw [receiveAll_append]
  rfl

theorem receiveAll_bytes (running : test.state = TEST_RUNNING) (start : sp.bytes_received = 0)
    (packets : List (Received × iperf_time)) (measured : ∀ packet ∈ packets, Measured packet) :
    (receiveAll test sp packets).bytes_received = received_bytes packets := by
  induction packets using List.reverseRecOn with
  | nil => exact start
  | append_singleton front packet ih =>
      have last := measured packet (by simp)
      rw [receiveAll_snoc, (recv_jitter running last).2.2,
        ih fun earlier member => measured earlier (List.mem_append_left _ member)]
      simp [received_bytes]

theorem restamped_bytes {offset : Int} (packets : List (Received × iperf_time)) :
    received_bytes (packets.map (restamp offset)) = received_bytes packets := by
  simp [received_bytes, List.foldl_map, restamp]

/-- What the second of two packets adds, unless the byte count is back at 0. -/
theorem change_pair (running : test.state = TEST_RUNNING) (start : sp.bytes_received = 0)
    {front : List (Received × iperf_time)} {first second : Received × iperf_time}
    (measured : ∀ packet ∈ front ++ [first], Measured packet) :
    change (receiveAll test sp (front ++ [first])) second =
      if received_bytes (front ++ [first]) = 0 then 0
      else |(|(transitOf second : ℚ)| - |(transitOf first : ℚ)|)| / 1000000 := by
  have bytes := receiveAll_bytes running start (front ++ [first]) measured
  have previous : (receiveAll test sp (front ++ [first])).prev_transit =
      |(transitOf first : ℚ)| / 1000000 := by
    rw [receiveAll_snoc]
    exact (recv_jitter running (measured first (by simp))).2.1
  unfold change
  rw [bytes, previous]
  split
  · simp
  · dsimp only
    rw [← sub_div, abs_div]
    norm_num

theorem change_first {packet : Received × iperf_time} (start : sp.bytes_received = 0) :
    change sp packet = 0 := by
  simp [change, start]

/-- Equal estimates stay equal just when the packet changes both alike. -/
theorem jitter_snoc_iff {offset : Int} (running : test.state = TEST_RUNNING)
    {front : List (Received × iperf_time)} {packet : Received × iperf_time}
    (stamped : Stamped offset packet)
    (same : (receiveAll test sp (front.map (restamp offset))).jitter =
      (receiveAll test sp front).jitter) :
    (receiveAll test sp ((front ++ [packet]).map (restamp offset))).jitter =
        (receiveAll test sp (front ++ [packet])).jitter ↔
      change (receiveAll test sp (front.map (restamp offset))) (restamp offset packet) =
        change (receiveAll test sp front) packet := by
  rw [List.map_append, List.map_singleton, receiveAll_snoc, receiveAll_snoc,
    (recv_jitter running stamped.restamped).1, (recv_jitter running stamped.toMeasured).1, same]
  constructor
  · intro equal
    linarith
  · intro equal
    rw [equal]

end Run

/-- Consecutive packets, of which the second is not taken for a first one, have
transit times that the offset leaves at their distance. -/
def Steady (offset : Int) (packets : List (Received × iperf_time)) : Prop :=
  ∀ front first second back, packets = front ++ first :: second :: back →
    received_bytes (front ++ [first]) = 0 ∨
      Undisturbed offset (transitOf first) (transitOf second)

theorem change_restamped_iff {test : iperf_test} {sp : iperf_stream} {offset : Int}
    (running : test.state = TEST_RUNNING) (start : sp.bytes_received = 0)
    {front : List (Received × iperf_time)} {first second : Received × iperf_time}
    (stamped : ∀ packet ∈ front ++ [first, second], Stamped offset packet) :
    change (receiveAll test sp ((front ++ [first]).map (restamp offset)))
          (restamp offset second) =
        change (receiveAll test sp (front ++ [first])) second ↔
      received_bytes (front ++ [first]) = 0 ∨
        Undisturbed offset (transitOf first) (transitOf second) := by
  have measured : ∀ packet ∈ front ++ [first], Measured packet := fun packet member =>
    (stamped packet (by simp at member ⊢; tauto)).toMeasured
  have restamped : ∀ packet ∈ front.map (restamp offset) ++ [restamp offset first],
      Measured packet := by
    intro packet member
    have mapped : packet ∈ (front ++ [first]).map (restamp offset) := by simpa using member
    rcases List.mem_map.mp mapped with ⟨original, listed, rfl⟩
    exact (stamped original (by simp at listed ⊢; tauto)).restamped
  have bytes := @restamped_bytes offset (front ++ [first])
  rw [List.map_append, List.map_singleton] at bytes ⊢
  rw [change_pair running start measured, change_pair running start restamped, bytes,
    restamp_transit (stamped first (by simp)), restamp_transit (stamped second (by simp))]
  by_cases none : received_bytes (front ++ [first]) = 0
  · simp [none]
  · rw [if_neg none, if_neg none, div_left_inj' (by norm_num), eq_comm, undisturbed_iff]
    simp [none]

/-- The offset of the sender's clock shows in no estimate of a sequence of packets just
when it disturbs no two consecutive transit times. -/
theorem jitter_offset_iff (test : iperf_test) (running : test.state = TEST_RUNNING)
    (sp : iperf_stream) (start : sp.bytes_received = 0) (offset : Int)
    (packets : List (Received × iperf_time))
    (stamped : ∀ packet ∈ packets, Stamped offset packet) :
    (∀ front back, packets = front ++ back →
      (receiveAll test sp (front.map (restamp offset))).jitter =
        (receiveAll test sp front).jitter) ↔ Steady offset packets := by
  constructor
  · intro equal front first second back split
    have shorter := equal (front ++ [first]) (second :: back) (by simp [split])
    have longer := equal (front ++ [first] ++ [second]) back (by simp [split])
    rw [jitter_snoc_iff running (stamped second (by simp [split])) shorter] at longer
    apply (change_restamped_iff running start _).mp longer
    intro packet member
    apply stamped packet
    rw [split]
    simp at member ⊢
    tauto
  · intro steady front
    -- The estimates are compared packet by packet, in the order of arrival.
    induction front using List.reverseRecOn with
    | nil => exact fun _ _ => rfl
    | append_singleton front packet ih =>
        intro back split
        have same := ih (packet :: back) (by simp [split])
        rw [jitter_snoc_iff running (stamped packet (by simp [split])) same]
        rcases List.eq_nil_or_concat front with rfl | ⟨before, previous, rfl⟩
        · rw [List.map_nil]
          exact (change_first start).trans (change_first start).symm
        · rw [List.concat_eq_append] at split ⊢
          apply (change_restamped_iff running start _).mpr
          · exact steady before previous packet back (by simp [split])
          · intro other member
            apply stamped other
            rw [split]
            simp at member ⊢
            tauto

/-- A datagram sent and received at these times. -/
def timed (sent_time arrival_time : iperf_time) (number : Nat) : Received × iperf_time :=
  (⟨16, bytes_of 4 sent_time.secs.toNat ++ bytes_of 4 sent_time.usecs.toNat ++
    bytes_of 8 number⟩, arrival_time)

theorem timed_stamped {offset : Int} {sent_time arrival_time : iperf_time} {number : Nat}
    (sent : Proper sent_time) (arrived : Proper arrival_time)
    (not_before : 0 ≤ micros sent_time + offset)
    (not_beyond : micros sent_time + offset < 2 ^ 32 * 1000000) :
    Stamped offset (timed sent_time arrival_time number) := by
  have read := sentTimeOf_stamp sent_time (bytes_of 8 number)
  constructor
  · exact ⟨by simp [timed], by rw [timed, read]; exact sent, arrived⟩
  · rw [timed, read]
    exact not_before
  · rw [timed, read]
    exact not_beyond

/-- Two packets that travel one and two seconds. -/
def travelling : List (Received × iperf_time) :=
  [timed ⟨10, 0⟩ ⟨11, 0⟩ 1, timed ⟨20, 0⟩ ⟨22, 0⟩ 2]

def unused : iperf_stream := ⟨[], 0, 0, 0, 0, 0, 0, 0⟩

theorem travelling_stamped {offset : Int} (small : offset.natAbs ≤ 1500000) :
    ∀ packet ∈ travelling, Stamped offset packet := by
  intro packet member
  simp only [travelling, List.mem_cons, List.not_mem_nil, or_false] at member
  rcases member with rfl | rfl
  · apply timed_stamped (by decide) (by decide) <;> simp [micros, iperf_time_in_usecs] <;> omega
  · apply timed_stamped (by decide) (by decide) <;> simp [micros, iperf_time_in_usecs] <;> omega

theorem jitter_offset_iff_sample :
    (∀ front back, travelling = front ++ back →
      (receiveAll ⟨TEST_RUNNING, true⟩ unused (front.map (restamp 500000))).jitter =
        (receiveAll ⟨TEST_RUNNING, true⟩ unused front).jitter) ↔ Steady 500000 travelling :=
  jitter_offset_iff ⟨TEST_RUNNING, true⟩ rfl unused rfl 500000 travelling
    (travelling_stamped (by decide))

/-- A clock that is a second and a half ahead makes both packets half a second late or
early, and the estimate does not see the difference. -/
theorem jitter_offset_counterexample :
    (∀ packet ∈ travelling, Stamped 1500000 packet) ∧
      (receiveAll ⟨TEST_RUNNING, true⟩ unused travelling).jitter = 1 / 16 ∧
      (receiveAll ⟨TEST_RUNNING, true⟩ unused (travelling.map (restamp 1500000))).jitter = 0 :=
  ⟨travelling_stamped (by decide), by decide +kernel, by decide +kernel⟩

end Iperf.UdpJitter
