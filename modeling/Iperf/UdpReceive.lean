import Iperf.Time
import Iperf.TestState
import Iperf.SequenceLedger
import Mathlib.Algebra.Order.Ring.Rat

/-!
`iperf_udp_recv`: what one received datagram does to the counters of a stream.
The read itself is an argument, given by its return value and the block buffer
it leaves behind. Counters are machine words of the source's widths; the
jitter estimate is computed in exact rationals.
-/

namespace Iperf.UdpReceive

open Time TestState SequenceLedger

structure iperf_test where
  state : StateByte
  udp_counters_64bit : Bool
  deriving DecidableEq, Repr

structure iperf_stream where
  buffer : List UInt8
  packet_count : Int64
  jitter : ℚ
  prev_transit : ℚ
  outoforder_packets : Int64
  cnt_error : Int64
  bytes_received : UInt64
  bytes_received_this_interval : UInt64
  deriving DecidableEq, Repr

/-- Return value of the socket read and the buffer contents after it. -/
structure Received where
  r : Int
  buffer : List UInt8

def bigEndian (bytes : List UInt8) : Nat :=
  bytes.foldl (fun value byte => value * 256 + byte.toNat) 0

def word (buffer : List UInt8) (offset size : Nat) : Nat :=
  bigEndian ((buffer.drop offset).take size)

/-- The sequence number of the header, four or eight bytes at offset 8. -/
def pcountOf (test : iperf_test) (buffer : List UInt8) : UInt64 :=
  if test.udp_counters_64bit then UInt64.ofNat (word buffer 8 8)
  else (UInt32.ofNat (word buffer 8 4)).toUInt64

def sentTimeOf (buffer : List UInt8) : iperf_time :=
  { secs := UInt32.ofNat (word buffer 0 4)
    usecs := UInt32.ofNat (word buffer 4 4) }

/-- Sequence accounting. The signed sum `packet_count + 1` is converted to the
unsigned type of `pcount` for the comparison, and the gap is taken in that type.
At the largest count C leaves the sum undefined; here it wraps. -/
def countPacket (sp : iperf_stream) (pcount : UInt64) : iperf_stream :=
  if pcount ≥ (sp.packet_count + 1).toUInt64 then
    let cnt_error :=
      if pcount > (sp.packet_count + 1).toUInt64 then
        (sp.cnt_error.toUInt64 + ((pcount - 1) - sp.packet_count.toUInt64)).toInt64
      else sp.cnt_error
    { sp with cnt_error := cnt_error, packet_count := pcount.toInt64 }
  else
    { sp with
      outoforder_packets := sp.outoforder_packets + 1
      cnt_error := if sp.cnt_error > 0 then sp.cnt_error - 1 else sp.cnt_error }

def measureJitter (sp : iperf_stream) (first_packet : Bool)
    (sent_time arrival_time : iperf_time) : iperf_stream :=
  let transit := iperf_time_in_secs (iperf_time_diff arrival_time sent_time).1
  let prev_transit := if first_packet then transit else sp.prev_transit
  let d := |transit - prev_transit|
  { sp with
    prev_transit := transit
    jitter := sp.jitter + (d - sp.jitter) / 16 }

def iperf_udp_recv (test : iperf_test) (sp : iperf_stream) (received : Received)
    (arrival_time : iperf_time) : Int × iperf_stream :=
  let sp := { sp with buffer := received.buffer }
  if received.r ≤ 0 then (received.r, sp)
  else if test.state = TEST_RUNNING then
    let first_packet := sp.bytes_received == 0
    let sp :=
      { sp with
        bytes_received := sp.bytes_received + UInt64.ofInt received.r
        bytes_received_this_interval :=
          sp.bytes_received_this_interval + UInt64.ofInt received.r }
    let sp := countPacket sp (pcountOf test sp.buffer)
    (received.r, measureJitter sp first_packet (sentTimeOf sp.buffer) arrival_time)
  else (received.r, sp)

/-- Successive calls, each with its own read and arrival time. -/
def receiveAll (test : iperf_test) :
    iperf_stream → List (Received × iperf_time) → iperf_stream
  | sp, [] => sp
  | sp, packet :: rest =>
      receiveAll test (iperf_udp_recv test sp packet.1 packet.2).2 rest

/-- The numbers carried by the packets of a sequence, in arrival order. -/
def numbers (test : iperf_test) (packets : List (Received × iperf_time)) : List Nat :=
  packets.map fun packet => (pcountOf test packet.1.buffer).toNat

/-- The counters of a stream hold a ledger, word for word. -/
structure Holds (sp : iperf_stream) (ledger : Ledger) : Prop where
  highest : sp.packet_count = Int64.ofNat ledger.highest
  lost : sp.cnt_error = Int64.ofNat ledger.lost
  late : sp.outoforder_packets = Int64.ofNat ledger.late

theorem next_expected (highest : Nat) (bound : highest < 2 ^ 63) :
    ((Int64.ofNat highest + 1).toUInt64).toNat = highest + 1 := by
  rw [Int64.toUInt64_add, Int64.toUInt64_ofNat', UInt64.toNat_add]
  simp only [UInt64.toNat_ofNat']
  have one : (Int64.toUInt64 1).toNat = 1 := rfl
  omega

theorem ofNat_positive_iff (lost : Nat) (bound : lost < 2 ^ 63) :
    Int64.ofNat lost > 0 ↔ 0 < lost := by
  rw [gt_iff_lt, Int64.lt_iff_toInt_lt, Int64.toInt_ofNat_of_lt bound]
  simp

theorem toInt64_ofNat (pcount : UInt64) : pcount.toInt64 = Int64.ofNat pcount.toNat := by
  rw [← UInt64.toInt64_ofNat', UInt64.ofNat_toNat]

/-- The unsigned detour of the gap sum ends at the word of the exact sum. -/
theorem gap_sum (lost highest : Nat) (pcount : UInt64) (beyond : highest < pcount.toNat) :
    ((Int64.ofNat lost).toUInt64 +
        ((pcount - 1) - (Int64.ofNat highest).toUInt64)).toInt64 =
      Int64.ofNat (lost + (pcount.toNat - 1 - highest)) := by
  have below := pcount.toNat_lt
  have one : (1 : UInt64).toNat = 1 := rfl
  rw [Int64.toUInt64_ofNat', Int64.toUInt64_ofNat', ← UInt64.toInt64_ofNat']
  congr 1
  rw [← UInt64.toNat_inj]
  simp only [UInt64.toNat_add, UInt64.toNat_sub, UInt64.toNat_ofNat', one]
  omega

/-- One packet moves the counters as the ledger moves, as long as neither the
number nor the loss count leaves the positive 64-bit range. -/
theorem countPacket_holds (sp : iperf_stream) (ledger : Ledger) (pcount : UInt64)
    (holds : Holds sp ledger)
    (highest : ledger.highest < 2 ^ 63) (lost : ledger.lost < 2 ^ 63) :
    Holds (countPacket sp pcount) (arrive ledger pcount.toNat) := by
  obtain ⟨count, error, order⟩ := holds
  have expected := next_expected ledger.highest highest
  rw [← count] at expected
  by_cases forward : ledger.highest < pcount.toNat
  · have reached : pcount ≥ (sp.packet_count + 1).toUInt64 := by
      rw [ge_iff_le, UInt64.le_iff_toNat_le, expected]
      omega
    rw [countPacket, if_pos reached, arrive, if_pos forward]
    refine ⟨toInt64_ofNat pcount, ?_, order⟩
    dsimp only
    split
    · rw [error, count]
      exact gap_sum ledger.lost ledger.highest pcount forward
    · rename_i adjacent
      rw [gt_iff_lt, UInt64.lt_iff_toNat_lt, expected] at adjacent
      have noGap : pcount.toNat - 1 - ledger.highest = 0 := by omega
      rw [error, noGap, Nat.add_zero]
  · have behind : ¬ pcount ≥ (sp.packet_count + 1).toUInt64 := by
      rw [ge_iff_le, UInt64.le_iff_toNat_le, expected]
      omega
    rw [countPacket, if_neg behind, arrive, if_neg forward]
    refine ⟨count, ?_, ?_⟩
    · dsimp only
      have positive := ofNat_positive_iff ledger.lost lost
      rw [← error] at positive
      by_cases booked : sp.cnt_error > 0
      · rw [if_pos booked, error]
        exact (Int64.ofNat_sub _ _ (positive.mp booked)).symm
      · have none : ledger.lost - 1 = ledger.lost := by
          have := mt positive.mpr booked
          omega
        rw [if_neg booked, error, none]
    · dsimp only
      rw [order]
      exact (Int64.ofNat_add _ _).symm

/-- A handled packet: the read delivered data and the test is running. -/
theorem recv_running (test : iperf_test) (sp : iperf_stream) (received : Received)
    (arrival_time : iperf_time) (running : test.state = TEST_RUNNING)
    (data : 0 < received.r) (ledger : Ledger) (holds : Holds sp ledger)
    (highest : ledger.highest < 2 ^ 63) (lost : ledger.lost < 2 ^ 63) :
    Holds (iperf_udp_recv test sp received arrival_time).2
      (arrive ledger (pcountOf test received.buffer).toNat) := by
  have some : ¬ received.r ≤ 0 := by omega
  simp only [iperf_udp_recv, some, running, if_true, if_false]
  have counted := countPacket_holds
    { sp with
      buffer := received.buffer
      bytes_received := sp.bytes_received + UInt64.ofInt received.r
      bytes_received_this_interval :=
        sp.bytes_received_this_interval + UInt64.ofInt received.r }
    ledger (pcountOf test received.buffer)
    ⟨holds.highest, holds.lost, holds.late⟩ highest lost
  exact ⟨counted.highest, counted.lost, counted.late⟩

/-- Numbers of the positive 64-bit range keep the ledger of the stream inside
that range, so the counters hold it over any sequence of packets. -/
theorem receiveAll_holds (test : iperf_test) (running : test.state = TEST_RUNNING)
    (packets : List (Received × iperf_time)) (past : List Nat)
    (sp : iperf_stream) (ledger : Ledger)
    (data : ∀ packet ∈ packets, 0 < packet.1.r)
    (range : ∀ number ∈ past ++ numbers test packets, 0 < number ∧ number < 2 ^ 63)
    (accounts : Accounts past ledger) (holds : Holds sp ledger) :
    Holds (receiveAll test sp packets) (arrivals ledger (numbers test packets)) := by
  induction packets generalizing past sp ledger with
  | nil => exact holds
  | cons packet rest ih =>
      have split : past ++ numbers test (packet :: rest) =
          (past ++ [(pcountOf test packet.1.buffer).toNat]) ++ numbers test rest := by
        simp [numbers]
      rw [split] at range
      have highest : ledger.highest < 2 ^ 63 := by
        rw [accounts.highest]
        by_cases positive : 0 < largest past
        · exact (range _ (by simp [largest_mem past positive])).2
        · omega
      have lost : ledger.lost < 2 ^ 63 := by
        have upper := accounts.upper
        have top := accounts.highest
        simp only [missing] at upper
        omega
      have here : ∀ prior ∈ past ++ [(pcountOf test packet.1.buffer).toNat], 0 < prior :=
        fun prior member => (range prior (List.mem_append_left _ member)).1
      exact ih (past ++ [(pcountOf test packet.1.buffer).toNat]) _ _
        (fun later member => data later (List.mem_cons_of_mem packet member)) range
        (arrive_accounts past ledger _ here accounts)
        (recv_running test sp packet.1 packet.2 running (data packet List.mem_cons_self)
          ledger holds highest lost)

/-- The loss counters after any sequence of packets, in any order and with any
repetition, against the set of numbers that arrived. -/
theorem udp_loss_accounting (test : iperf_test) (running : test.state = TEST_RUNNING)
    (sp : iperf_stream) (count : sp.packet_count = 0) (error : sp.cnt_error = 0)
    (order : sp.outoforder_packets = 0) (packets : List (Received × iperf_time))
    (data : ∀ packet ∈ packets, 0 < packet.1.r)
    (range : ∀ number ∈ numbers test packets, 1 ≤ number ∧ number ≤ 2 ^ 63 - 1) :
    let after := receiveAll test sp packets
    let received := numbers test packets
    after.packet_count.toInt = largest received ∧
      after.outoforder_packets = Int64.ofNat (lateArrivals [] received) ∧
      max 0 ((missing received : Int) - duplicates received) ≤ after.cnt_error.toInt ∧
      after.cnt_error.toInt ≤ missing received ∧
      (received.Nodup → after.cnt_error.toInt = missing received) := by
  intro after received
  have positive : ∀ number ∈ [] ++ received, 0 < number := fun number member =>
    (range number member).1
  have accounts := arrivals_accounts [] received empty positive empty_accounts
  have late := arrivals_late [] received empty positive empty_accounts
  have holds : Holds after (arrivals empty received) :=
    receiveAll_holds test running packets [] sp empty data
      (fun number member => by have := range number member; omega)
      empty_accounts ⟨count, error, order⟩
  have topBound : largest received < 2 ^ 63 := by
    by_cases some : 0 < largest received
    · have := range _ (largest_mem received some)
      omega
    · omega
  have upper := accounts.upper
  have lower := accounts.lower
  rw [List.nil_append] at upper lower
  have lostBound : (arrivals empty received).lost < 2 ^ 63 := by
    simp only [missing] at upper
    omega
  have top : after.packet_count.toInt = largest received := by
    rw [holds.highest, accounts.highest, List.nil_append]
    exact Int64.toInt_ofNat_of_lt topBound
  have lost : after.cnt_error.toInt = (arrivals empty received).lost := by
    rw [holds.lost]
    exact Int64.toInt_ofNat_of_lt lostBound
  refine ⟨top, ?_, ?_, ?_, ?_⟩
  · rw [holds.late, late, empty, Nat.zero_add]
  · omega
  · omega
  · intro distinct
    rw [lost, lost_exact _ _ accounts distinct, List.nil_append]

/-- A 16-byte datagram with a zero timestamp and a small sequence number. -/
def numbered (number : UInt8) : Received × iperf_time :=
  (⟨16, List.replicate 15 0 ++ [number]⟩, ⟨0, 0⟩)

/-- Packets 1, 3, 2, 3 of a stream: nothing is lost and 3 arrived twice. -/
theorem udp_loss_accounting_sample :
    (receiveAll ⟨TEST_RUNNING, true⟩ ⟨[], 0, 0, 0, 0, 0, 0, 0⟩
      ([1, 3, 2, 3].map numbered)).packet_count.toInt = 3 :=
  (udp_loss_accounting ⟨TEST_RUNNING, true⟩ rfl ⟨[], 0, 0, 0, 0, 0, 0, 0⟩ rfl rfl rfl
    ([1, 3, 2, 3].map numbered) (by decide) (by decide)).1.trans (by decide)

end Iperf.UdpReceive
