import Iperf.UdpSend

/-!
The end of the omit period. `iperf_reset_stats` keeps a copy of the loss
counters, and the final report of a receiver prints how far they have moved since
then. A late packet takes a loss back, also one that the copy already has.
-/

namespace Iperf.UdpOmit

open Time TestState SequenceLedger UdpReceive

/-- A stream with what `iperf_reset_stats` writes besides the counters of the
receive function. -/
structure OmitStream extends iperf_stream where
  omitted_packet_count : Int64
  omitted_cnt_error : Int64
  omitted_outoforder_packets : Int64
  bytes_sent : UInt64
  bytes_sent_omit : UInt64
  bytes_sent_this_interval : UInt64
  stream_prev_total_retrans : Int64
  stream_retrans : Int64
  start_time : iperf_time
  deriving DecidableEq, Repr

structure Stats where
  bytes_sent : UInt64
  blocks_sent : UInt64
  sender_has_retransmits : Int32
  streams : List OmitStream
  deriving DecidableEq, Repr

section Reset

/-- `total_retransmits` is what `save_tcpinfo` finds for the stream. -/
def reset_stream (sender_has_retransmits : Int32) (now : iperf_time)
    (total_retransmits : OmitStream → Int64) (sp : OmitStream) : OmitStream :=
  { sp with
    omitted_packet_count := sp.packet_count
    omitted_cnt_error := sp.cnt_error
    omitted_outoforder_packets := sp.outoforder_packets
    jitter := 0
    bytes_sent_omit := sp.bytes_sent
    bytes_received := 0
    bytes_sent_this_interval := 0
    bytes_received_this_interval := 0
    stream_prev_total_retrans :=
      if sender_has_retransmits = 1 then total_retransmits sp else sp.stream_prev_total_retrans
    stream_retrans := 0
    start_time := now }

def iperf_reset_stats (now : iperf_time) (total_retransmits : OmitStream → Int64)
    (test : Stats) : Stats :=
  { test with
    bytes_sent := 0
    blocks_sent := 0
    streams := test.streams.map
      (reset_stream test.sender_has_retransmits now total_retransmits) }

end Reset

section Report

/-- The receive function leaves the rest of the stream alone. -/
def receive (test : iperf_test) (sp : OmitStream) (packets : List (Received × iperf_time)) :
    OmitStream :=
  { sp with toiperf_stream := receiveAll test sp.toiperf_stream packets }

def lost_packets (sp : OmitStream) : Int64 := sp.cnt_error - sp.omitted_cnt_error

/-- A receiver's own counts are the ones that `iperf_print_results` takes. -/
def measured_packets (sp : OmitStream) : Int64 := sp.packet_count - sp.omitted_packet_count

def lost_percent (sp : OmitStream) : ℚ :=
  if measured_packets sp > 0 ∧ sp.omitted_cnt_error > -1 then
    100 * (lost_packets sp).toInt / (measured_packets sp).toInt
  else 0

/-- A count of lost packets among those of the measured period. -/
structure Sensible (sp : OmitStream) : Prop where
  nonnegative : 0 ≤ (lost_packets sp).toInt
  within : (lost_packets sp).toInt ≤ (measured_packets sp).toInt
  percent_nonnegative : 0 ≤ lost_percent sp
  percent_within : lost_percent sp ≤ 100

end Report

section Period
variable {sp : OmitStream}

/-- A share of the measured packets is a percentage. -/
theorem sensible_iff : Sensible sp ↔
    0 ≤ (lost_packets sp).toInt ∧ (lost_packets sp).toInt ≤ (measured_packets sp).toInt := by
  constructor
  · intro sensible
    exact ⟨sensible.nonnegative, sensible.within⟩
  · rintro ⟨nonnegative, within⟩
    have share : 0 ≤ lost_percent sp ∧ lost_percent sp ≤ 100 := by
      unfold lost_percent
      split
      · rename_i measured
        have positive : 0 < (measured_packets sp).toInt := Int64.lt_iff_toInt_lt.mp measured.1
        have below : (0 : ℚ) < (measured_packets sp).toInt := by exact_mod_cast positive
        have lost : (0 : ℚ) ≤ (lost_packets sp).toInt := by exact_mod_cast nonnegative
        have ordered : ((lost_packets sp).toInt : ℚ) ≤ (measured_packets sp).toInt := by
          exact_mod_cast within
        constructor
        · exact div_nonneg (mul_nonneg (by norm_num) lost) below.le
        · rw [div_le_iff₀ below]
          linarith
      · norm_num
    exact ⟨nonnegative, within, share.1, share.2⟩

/-- What two points of one sequence of packets differ by. -/
theorem toInt_sub_of_range {early late : Int64} {low high : Nat} (first : early.toInt = low)
    (second : late.toInt = high) (low_range : low < 2 ^ 63) (high_range : high < 2 ^ 63) :
    (late - early).toInt = (high : Int) - low := by
  rw [Int64.toInt_sub, first, second]
  apply Int.bmod_eq_of_le <;> omega

theorem numbers_append (test : iperf_test) (early late : List (Received × iperf_time)) :
    numbers test (early ++ late) = numbers test early ++ numbers test late := by
  simp [numbers]

theorem largest_range {received : List Nat}
    (range : ∀ number ∈ received, 1 ≤ number ∧ number ≤ 2 ^ 63 - 1) :
    largest received < 2 ^ 63 := by
  by_cases some : 0 < largest received
  · have := range _ (largest_mem received some)
    omega
  · omega

/-- `jitter` and the byte counters of the stream have no part in the loss counts. -/
theorem receiveAll_counts {test : iperf_test} {left right : iperf_stream}
    (packets : List (Received × iperf_time))
    (count : left.packet_count = right.packet_count) (error : left.cnt_error = right.cnt_error) :
    (receiveAll test left packets).packet_count = (receiveAll test right packets).packet_count ∧
      (receiveAll test left packets).cnt_error = (receiveAll test right packets).cnt_error := by
  induction packets generalizing left right with
  | nil => exact ⟨count, error⟩
  | cons packet rest ih =>
      apply ih
      · simp only [iperf_udp_recv, measureJitter, countPacket, count]
        repeat' split
        all_goals simp_all
      · simp only [iperf_udp_recv, measureJitter, countPacket, count, error]
        repeat' split
        all_goals simp_all

/-- After the reset the counters go on from where they were. -/
theorem receive_reset {test : iperf_test} {sender_has_retransmits : Int32} {now : iperf_time}
    {total_retransmits : OmitStream → Int64} (sp : OmitStream)
    (early late : List (Received × iperf_time)) :
    let reset := reset_stream sender_has_retransmits now total_retransmits (receive test sp early)
    (receive test reset late).packet_count =
        (receiveAll test sp.toiperf_stream (early ++ late)).packet_count ∧
      (receive test reset late).cnt_error =
        (receiveAll test sp.toiperf_stream (early ++ late)).cnt_error := by
  intro reset
  rw [UdpSend.receiveAll_append]
  exact receiveAll_counts late rfl rfl

end Period

/-- The measured period loses a sensible number of packets just when no more packets
arrive in it than there are numbers by which the highest one grows. Packets beyond
that are late ones of the omit period. -/
theorem loss_after_omit_iff (test : iperf_test) (running : test.state = TEST_RUNNING)
    (sp : OmitStream) (count : sp.packet_count = 0) (error : sp.cnt_error = 0)
    (order : sp.outoforder_packets = 0) (early late : List (Received × iperf_time))
    (data : ∀ packet ∈ early ++ late, 0 < packet.1.r)
    (range : ∀ number ∈ numbers test (early ++ late), 1 ≤ number ∧ number ≤ 2 ^ 63 - 1)
    (distinct : (numbers test (early ++ late)).Nodup) (stats : Stats) (now : iperf_time)
    (total_retransmits : OmitStream → Int64) (position : Nat)
    (listed : stats.streams[position]? = some (receive test sp early)) :
    ∃ reset,
      (iperf_reset_stats now total_retransmits stats).streams[position]? = some reset ∧
      (Sensible (receive test reset late) ↔
        late.length ≤ largest (numbers test (early ++ late)) - largest (numbers test early)) := by
  let reset := reset_stream stats.sender_has_retransmits now total_retransmits
    (receive test sp early)
  have found : (iperf_reset_stats now total_retransmits stats).streams[position]? = some reset := by
    simp [iperf_reset_stats, listed, reset]
  apply Exists.intro reset
  apply And.intro found
  have early_range : ∀ number ∈ numbers test early, 1 ≤ number ∧ number ≤ 2 ^ 63 - 1 := by
    intro number member
    apply range
    rw [numbers_append]
    exact List.mem_append_left _ member
  have early_distinct : (numbers test early).Nodup := by
    rw [numbers_append] at distinct
    exact distinct.of_append_left
  -- Both points of the sequence have exact counts, since no number comes twice.
  have first := udp_loss_accounting test running sp.toiperf_stream count error order early
    (fun packet member => data packet (List.mem_append_left _ member)) early_range
  have second := udp_loss_accounting test running sp.toiperf_stream count error order
    (early ++ late) data range
  have first_lost := first.2.2.2.2 early_distinct
  have second_lost := second.2.2.2.2 distinct
  have continued := @receive_reset test stats.sender_has_retransmits now total_retransmits sp
    early late
  have first_range := largest_range early_range
  have second_range := largest_range range
  have lost : (lost_packets (receive test reset late)).toInt =
      (missing (numbers test (early ++ late)) : Int) - missing (numbers test early) := by
    unfold lost_packets
    rw [continued.2]
    exact toInt_sub_of_range first_lost second_lost (by unfold missing; omega)
      (by unfold missing; omega)
  have measured : (measured_packets (receive test reset late)).toInt =
      (largest (numbers test (early ++ late)) : Int) - largest (numbers test early) := by
    unfold measured_packets
    rw [continued.1]
    exact toInt_sub_of_range first.1 second.1 first_range second_range
  have early_room := distinct_le_largest (numbers test early)
    (fun number member => (early_range number member).1)
  have room := distinct_le_largest (numbers test (early ++ late))
    (fun number member => (range number member).1)
  have grown : largest (numbers test early) ≤ largest (numbers test (early ++ late)) := by
    by_cases some : 0 < largest (numbers test early)
    · apply le_largest
      rw [numbers_append]
      exact List.mem_append_left _ (largest_mem _ some)
    · omega
  have counted (packets : List (Received × iperf_time))
      (nodup : (numbers test packets).Nodup) :
      (numbers test packets).toFinset.card = packets.length := by
    rw [List.toFinset_card_of_nodup nodup]
    simp [numbers]
  rw [counted _ early_distinct] at early_room
  rw [counted _ distinct, List.length_append] at room
  rw [sensible_iff, lost, measured, missing, missing, counted _ early_distinct,
    counted _ distinct, List.length_append]
  omega

/-- A stream before its first packet. -/
def fresh : OmitStream :=
  { buffer := [], packet_count := 0, jitter := 0, prev_transit := 0, outoforder_packets := 0
    cnt_error := 0, bytes_received := 0, bytes_received_this_interval := 0
    omitted_packet_count := 0, omitted_cnt_error := 0, omitted_outoforder_packets := 0
    bytes_sent := 0, bytes_sent_omit := 0, bytes_sent_this_interval := 0
    stream_prev_total_retrans := 0, stream_retrans := 0, start_time := ⟨0, 0⟩ }

/-- Packets 1 and 2 in the omit period, then 3 and 5: one of three is lost. -/
theorem loss_after_omit_iff_sample :
    ∃ reset, (iperf_reset_stats ⟨7, 0⟩ (fun _ => 0) ⟨0, 0, 0,
        [receive ⟨TEST_RUNNING, true⟩ fresh ([1, 2].map numbered)]⟩).streams[0]? = some reset ∧
      (Sensible (receive ⟨TEST_RUNNING, true⟩ reset ([3, 5].map numbered)) ↔ 2 ≤ 5 - 2) :=
  loss_after_omit_iff ⟨TEST_RUNNING, true⟩ rfl fresh rfl rfl rfl ([1, 2].map numbered)
    ([3, 5].map numbered) (by decide) (by decide) (by decide) _ ⟨7, 0⟩ (fun _ => 0) 0 rfl

/-- Packet 2 is lost to the omit period and arrives after it: one packet less than
none is lost, of no packets. -/
theorem loss_after_omit_counterexample :
    let reset := reset_stream 0 ⟨7, 0⟩ (fun _ => 0)
      (receive ⟨TEST_RUNNING, true⟩ fresh ([1, 3].map numbered))
    let last := receive ⟨TEST_RUNNING, true⟩ reset ([2].map numbered)
    lost_packets last = -1 ∧ measured_packets last = 0 ∧ ¬ Sensible last := by
  intro reset last
  have lost : lost_packets last = -1 := by decide +kernel
  apply And.intro lost
  constructor
  · decide +kernel
  · intro sensible
    have negative := sensible.nonnegative
    rw [lost] at negative
    exact absurd negative (by decide)

end Iperf.UdpOmit
