import Iperf.MachineWords
import Iperf.UdpReceive

/-!
`iperf_udp_send`, and the numbers from one end of a stream to the other. The
number goes into the block before the write, and is taken back when nothing was
sent; `iperf_udp_recv` on the peer counts the datagrams that were.
-/

namespace Iperf.UdpSend

open Time TestState SequenceLedger UdpReceive

/-- What `iperf_udp_send` reads and writes of a stream. -/
structure Sender where
  buffer : List UInt8
  packet_count : Int64
  bytes_sent : UInt64
  bytes_sent_this_interval : UInt64
  deriving DecidableEq, Repr

/-- A datagram is written as a whole or not at all. -/
inductive Written where
  | whole
  | soft
  | hard
  deriving DecidableEq, Repr

def NET_SOFTERROR : Int := -1

def NET_HARDERROR : Int := -2

def Nwrite (count : Nat) : Written → Int
  | .whole => count
  | .soft => NET_SOFTERROR
  | .hard => NET_HARDERROR

/-- The lowest `size` bytes of a number, the most significant first. -/
def bytes_of : Nat → Nat → List UInt8
  | 0, _ => []
  | size + 1, value => bytes_of size (value / 256) ++ [UInt8.ofNat value]

@[simp] theorem bytes_of_length (size value : Nat) : (bytes_of size value).length = size := by
  induction size generalizing value with
  | zero => rfl
  | succ size ih => simp [bytes_of, ih]

theorem bigEndian_bytes_of (size value : Nat) :
    bigEndian (bytes_of size value) = value % 256 ^ size := by
  induction size generalizing value with
  | zero => simp [bytes_of, bigEndian, Nat.mod_one]
  | succ size ih =>
      have shifted := ih (value / 256)
      simp only [bigEndian] at shifted
      have last : (UInt8.ofNat value).toNat = value % 256 := UInt8.toNat_ofNat'
      simp only [bytes_of, bigEndian, List.foldl_append, List.foldl_cons, List.foldl_nil, shifted,
        last]
      rw [Nat.pow_succ', Nat.mod_mul]
      omega

section Send
variable (test : iperf_test)

/-- Seconds, microseconds and the number, as wide as the test has them. -/
def header (before : iperf_time) (packet_count : Int64) : List UInt8 :=
  let pcount := packet_count.toUInt64.toNat
  bytes_of 4 before.secs.toNat ++ bytes_of 4 before.usecs.toNat ++
    if test.udp_counters_64bit then bytes_of 8 pcount else bytes_of 4 pcount

/-- The datagram that went out comes along. -/
def iperf_udp_send (size : Nat) (before : iperf_time) (outcome : Written) (sp : Sender) :
    Int × Sender × Option (List UInt8) :=
  let packet_count := sp.packet_count + 1
  let header := header test before packet_count
  let buffer := header ++ sp.buffer.drop header.length
  let sp := { sp with packet_count := packet_count, buffer := buffer }
  let r := Nwrite size outcome
  let sp := if r ≤ 0 then { sp with packet_count := sp.packet_count - 1 } else sp
  let datagram := if outcome = .whole then some (buffer.take size) else none
  if r < 0 then (r, sp, datagram)
  else
    (r, { sp with
      bytes_sent := sp.bytes_sent + UInt64.ofInt r
      bytes_sent_this_interval := sp.bytes_sent_this_interval + UInt64.ofInt r }, datagram)

/-- One call, and for a datagram that is sent, when it arrives and what the
buffer of the peer holds behind the bytes that are read. -/
structure Send where
  before : iperf_time
  outcome : Written
  arrival : iperf_time
  behind : List UInt8

/-- With `skip_rx_copy` a read asks for no more than a header. -/
def read_size (skip_rx_copy : Bool) (size : Nat) : Nat := if skip_rx_copy then 16 else size

/-- A datagram is at least as long as what the read asks for, so that
`Nrecv_no_select` ends after it and returns what was asked for. -/
def delivered (skip_rx_copy : Bool) (size : Nat) (send : Send) (datagram : Option (List UInt8)) :
    List (Received × iperf_time) :=
  let count := read_size skip_rx_copy size
  datagram.toList.map fun bytes => (⟨count, bytes.take count ++ send.behind⟩, send.arrival)

/-- Successive calls, with the datagrams in the order of their sending. -/
def sendAll (skip_rx_copy : Bool) (size : Nat) : Sender → List Send → Sender × List (Received × iperf_time)
  | sp, [] => (sp, [])
  | sp, send :: rest =>
      let sent := iperf_udp_send test size send.before send.outcome sp
      let later := sendAll skip_rx_copy size sent.2.1 rest
      (later.1, delivered skip_rx_copy size send sent.2.2 ++ later.2)

/-- The numbers that the counters of the test can carry. -/
def limit : Nat := if test.udp_counters_64bit then 2 ^ 63 else 2 ^ 32

end Send

section Numbers
variable (test : iperf_test) {sp : Sender} {size : Nat}

theorem header_length (before : iperf_time) (packet_count : Int64) :
    (header test before packet_count).length ≤ 16 := by
  unfold header
  split <;> simp

theorem word_at {front bytes back : List UInt8} :
    word (front ++ bytes ++ back) front.length bytes.length = bigEndian bytes := by
  simp [word]

theorem take_header {before : iperf_time} {packet_count : Int64} (rest : List UInt8)
    (long : 16 ≤ size) :
    (header test before packet_count ++ rest).take size = header test before packet_count ++
      rest.take (size - (header test before packet_count).length) := by
  have short := header_length test before packet_count
  rw [List.take_append, List.take_of_length_le (by omega)]

/-- The number is read off the datagram as it was written. -/
theorem pcountOf_header (before : iperf_time) {number : Nat} (small : number < limit test)
    (rest : List UInt8) :
    (pcountOf test (header test before (Int64.ofNat number) ++ rest)).toNat = number := by
  have value : (Int64.ofNat number).toUInt64.toNat = number % 2 ^ 64 := by
    rw [Int64.toUInt64_ofNat', UInt64.toNat_ofNat']
  have front : (bytes_of 4 before.secs.toNat ++ bytes_of 4 before.usecs.toNat).length = 8 := by
    simp
  unfold limit at small
  unfold pcountOf header
  dsimp only
  split
  · rename_i wide
    rw [if_pos wide] at small
    have read := @word_at (bytes_of 4 before.secs.toNat ++ bytes_of 4 before.usecs.toNat)
      (bytes_of 8 (Int64.ofNat number).toUInt64.toNat) rest
    rw [front, bytes_of_length, bigEndian_bytes_of] at read
    rw [read, value, UInt64.toNat_ofNat']
    omega
  · rename_i narrow
    rw [if_neg narrow] at small
    have read := @word_at (bytes_of 4 before.secs.toNat ++ bytes_of 4 before.usecs.toNat)
      (bytes_of 4 (Int64.ofNat number).toUInt64.toNat) rest
    rw [front, bytes_of_length, bigEndian_bytes_of] at read
    rw [read, value, UInt32.toNat_toUInt64, UInt32.toNat_ofNat']
    omega

/-- A write that sends nothing leaves the counters as they were. -/
theorem send_failed {outcome : Written} (failed : outcome ≠ .whole) (before : iperf_time) :
    let sent := iperf_udp_send test size before outcome sp
    sent.2.1.packet_count = sp.packet_count ∧ sent.2.1.bytes_sent = sp.bytes_sent ∧
      sent.2.2 = none := by
  cases outcome with
  | whole => exact absurd rfl failed
  | soft => exact ⟨Int64.add_sub_cancel _ _, rfl, rfl⟩
  | hard => exact ⟨Int64.add_sub_cancel _ _, rfl, rfl⟩

/-- A write that succeeds counts the datagram, which carries the new count. -/
theorem send_whole (some_bytes : 0 < size) (before : iperf_time) :
    let sent := iperf_udp_send test size before .whole sp
    sent.2.1.packet_count = sp.packet_count + 1 ∧
      sent.2.1.bytes_sent = sp.bytes_sent + UInt64.ofInt size ∧
      sent.2.2 = some ((header test before (sp.packet_count + 1) ++
        sp.buffer.drop (header test before (sp.packet_count + 1)).length).take size) := by
  have nonzero : ¬ size = 0 := by omega
  have nonnegative : ¬ ((size : Int) < 0) := by omega
  simp [iperf_udp_send, Nwrite, nonzero, nonnegative]

/-- Whatever is read of a datagram starts with its header. -/
theorem delivered_whole {datagram : List UInt8} (long : 16 ≤ size) (skip_rx_copy : Bool)
    (send : Send) {packet_count : Int64} {rest : List UInt8}
    (sent : datagram = (header test send.before packet_count ++ rest).take size) :
    ∃ tail, delivered skip_rx_copy size send (some datagram) =
      [(⟨read_size skip_rx_copy size, header test send.before packet_count ++ tail⟩,
        send.arrival)] := by
  have reading : 16 ≤ min (read_size skip_rx_copy size) size := by
    cases skip_rx_copy <;> simp [read_size, long]
  have read := @take_header test _ send.before packet_count rest reading
  apply Exists.intro
  simp only [delivered, sent, Option.toList_some, List.map_cons, List.map_nil]
  rw [List.take_take, read, List.append_assoc]

/-- Both ends agree on `count` datagrams; `short` bytes of each are not counted by the
receiver. -/
structure Agrees (short count : Nat) (sp : Sender) (receiver : iperf_stream) : Prop where
  sent : sp.packet_count = Int64.ofNat count
  received : Holds receiver ⟨count, 0, 0⟩
  bytes : receiver.bytes_received + UInt64.ofNat (count * short) = sp.bytes_sent

theorem limit_le : limit test ≤ 2 ^ 63 := by
  unfold limit
  split <;> decide

theorem recv_bytes (receiver : iperf_stream) {received : Received} (arrival_time : iperf_time)
    (running : test.state = TEST_RUNNING) (data : 0 < received.r) :
    (iperf_udp_recv test receiver received arrival_time).2.bytes_received =
      receiver.bytes_received + UInt64.ofInt received.r := by
  have some : ¬ received.r ≤ 0 := by omega
  simp only [iperf_udp_recv, some, running, if_true, if_false, measureJitter, countPacket]
  split <;> rfl

/-- What the reads leave out of a datagram. -/
def missed (skip_rx_copy : Bool) (size : Nat) : Nat := size - read_size skip_rx_copy size

theorem missed_bytes (long : 16 ≤ size) (skip_rx_copy : Bool) (bytes : UInt64) (count : Nat) :
    bytes + UInt64.ofInt (read_size skip_rx_copy size) +
        UInt64.ofNat ((count + 1) * missed skip_rx_copy size) =
      bytes + UInt64.ofNat (count * missed skip_rx_copy size) + UInt64.ofInt size := by
  have whole : size = missed skip_rx_copy size + read_size skip_rx_copy size := by
    unfold missed read_size
    split <;> omega
  have sum : UInt64.ofNat size = UInt64.ofNat (missed skip_rx_copy size) +
      UInt64.ofNat (read_size skip_rx_copy size) := by
    rw [← UInt64.ofNat_add, ← whole]
  rw [MachineWords.ofInt_natCast, MachineWords.ofInt_natCast, sum, Nat.succ_mul, UInt64.ofNat_add]
  ac_rfl

/-- One call, and the delivery of what it sent. -/
theorem agrees_send {count : Nat} {receiver : iperf_stream} (running : test.state = TEST_RUNNING)
    (skip_rx_copy : Bool) (agrees : Agrees (missed skip_rx_copy size) count sp receiver)
    (long : 16 ≤ size) (send : Send) (room : send.outcome = .whole → count + 1 < limit test) :
    let sent := iperf_udp_send test size send.before send.outcome sp
    Agrees (missed skip_rx_copy size) (if send.outcome = .whole then count + 1 else count) sent.2.1
      (receiveAll test receiver (delivered skip_rx_copy size send sent.2.2)) := by
  intro sent
  obtain ⟨count_sent, received, bytes⟩ := agrees
  by_cases whole : send.outcome = .whole
  · obtain ⟨counted, added, datagram⟩ := @send_whole test sp size (by omega) send.before
    rw [← whole] at counted added datagram
    have next : sp.packet_count + 1 = Int64.ofNat (count + 1) := by
      rw [count_sent]
      exact (Int64.ofNat_add count 1).symm
    rw [next] at counted datagram
    have small := room whole
    have top := limit_le test
    obtain ⟨tail, read⟩ := delivered_whole test long skip_rx_copy send rfl
    have number := pcountOf_header test send.before small tail
    have data : 0 < (read_size skip_rx_copy size : Int) := by
      unfold read_size
      split <;> omega
    have ledger : SequenceLedger.arrive ⟨count, 0, 0⟩ (count + 1) = ⟨count + 1, 0, 0⟩ := by
      simp [SequenceLedger.arrive]
    rw [if_pos whole, datagram, read]
    constructor
    · exact counted
    · have held := recv_running test receiver
        ⟨read_size skip_rx_copy size, header test send.before (Int64.ofNat (count + 1)) ++ tail⟩
        send.arrival running
        data ⟨count, 0, 0⟩ received (by dsimp only; omega) (by dsimp only; omega)
      rw [number, ledger] at held
      exact held
    · rw [added, ← bytes, ← missed_bytes long skip_rx_copy]
      exact congrArg (· + _) (recv_bytes test receiver send.arrival running data)
  · obtain ⟨counted, added, nothing⟩ := @send_failed test sp size _ whole send.before
    rw [if_neg whole]
    constructor
    · exact counted.trans count_sent
    · simpa [sent, nothing, delivered, receiveAll] using received
    · simpa [sent, nothing, delivered, receiveAll, added] using bytes

theorem receiveAll_append (receiver : iperf_stream) (early late : List (Received × iperf_time)) :
    receiveAll test receiver (early ++ late) =
      receiveAll test (receiveAll test receiver early) late := by
  induction early generalizing receiver with
  | nil => rfl
  | cons packet rest ih => exact ih _

/-- Any sequence of calls, with what they sent delivered in order. -/
theorem agrees_sendAll (running : test.state = TEST_RUNNING) (long : 16 ≤ size)
    (skip_rx_copy : Bool) (sends : List Send) {count : Nat} {receiver : iperf_stream}
    (agrees : Agrees (missed skip_rx_copy size) count sp receiver)
    (room : count + (sends.filter (·.outcome = .whole)).length < limit test) :
    let sent := sendAll test skip_rx_copy size sp sends
    Agrees (missed skip_rx_copy size) (count + (sends.filter (·.outcome = .whole)).length) sent.1
      (receiveAll test receiver sent.2) := by
  induction sends generalizing count sp receiver with
  | nil => exact agrees
  | cons send rest ih =>
      have next := agrees_send test running skip_rx_copy agrees long send
        (fun whole => by simp [whole] at room; omega)
      by_cases whole : send.outcome = .whole
      · have total : count + ((send :: rest).filter (·.outcome = .whole)).length =
            count + 1 + (rest.filter (·.outcome = .whole)).length := by
          simp [whole]
          omega
        rw [if_pos whole] at next
        rw [total] at room ⊢
        simp only [sendAll, receiveAll_append]
        exact ih next room
      · have total : count + ((send :: rest).filter (·.outcome = .whole)).length =
            count + (rest.filter (·.outcome = .whole)).length := by
          simp [whole]
        rw [if_neg whole] at next
        rw [total] at room ⊢
        simp only [sendAll, receiveAll_append]
        exact ih next room

end Numbers

/-- Every call that sends delivers its datagram, and the two ends count the same packets and
losses. They count the same bytes if the reads leave none out, or so many that the 64-bit
counters come round. -/
theorem numbering_end_to_end_iff (test : iperf_test) (running : test.state = TEST_RUNNING)
    (skip_rx_copy : Bool) (size : Nat) (long : 16 ≤ size) (sends : List Send) (sp : Sender)
    (numbered : sp.packet_count = 0) (sent_bytes : sp.bytes_sent = 0) (receiver : iperf_stream)
    (count : receiver.packet_count = 0) (error : receiver.cnt_error = 0)
    (order : receiver.outoforder_packets = 0) (received_bytes : receiver.bytes_received = 0)
    (room : (sends.filter (·.outcome = .whole)).length < limit test) :
    let sent := sendAll test skip_rx_copy size sp sends
    let after := receiveAll test receiver sent.2
    (after.packet_count = sent.1.packet_count ∧ after.bytes_received = sent.1.bytes_sent ∧
        after.cnt_error = 0 ∧ after.outoforder_packets = 0) ↔
      (skip_rx_copy = true →
        (sends.filter (·.outcome = .whole)).length * (size - 16) % 2 ^ 64 = 0) := by
  intro sent after
  have fresh : Agrees (missed skip_rx_copy size) 0 sp receiver :=
    ⟨numbered, ⟨count, error, order⟩, by simp [received_bytes, sent_bytes]⟩
  have agrees := agrees_sendAll test running long skip_rx_copy sends fresh (by omega)
  rw [Nat.zero_add] at agrees
  have counted : after.packet_count = sent.1.packet_count :=
    agrees.received.highest.trans agrees.sent.symm
  have bytes : after.bytes_received = sent.1.bytes_sent ↔
      UInt64.ofNat ((sends.filter (·.outcome = .whole)).length * missed skip_rx_copy size) = 0 := by
    rw [← agrees.bytes]
    exact UInt64.left_eq_add
  have lost : after.cnt_error = 0 := agrees.received.lost
  have late : after.outoforder_packets = 0 := agrees.received.late
  rw [and_iff_right counted, and_iff_left ⟨lost, late⟩, bytes, ← UInt64.toNat_inj,
    UInt64.toNat_ofNat']
  cases skip_rx_copy with
  | false => simp [missed, read_size]
  | true => simp [missed, read_size]

/-- Two datagrams with a failed write between them, read whole. -/
theorem numbering_end_to_end_whole :
    let sends : List Send :=
      [⟨⟨5, 0⟩, .whole, ⟨6, 0⟩, []⟩, ⟨⟨5, 1⟩, .soft, ⟨6, 1⟩, []⟩, ⟨⟨5, 2⟩, .whole, ⟨6, 2⟩, []⟩]
    let sent := sendAll ⟨TEST_RUNNING, true⟩ false 20 ⟨List.replicate 20 0, 0, 0, 0⟩ sends
    (receiveAll ⟨TEST_RUNNING, true⟩ ⟨[], 0, 0, 0, 0, 0, 0, 0⟩ sent.2).bytes_received = 40 :=
  ((numbering_end_to_end_iff ⟨TEST_RUNNING, true⟩ rfl false 20 (by decide) _
    ⟨List.replicate 20 0, 0, 0, 0⟩ rfl rfl ⟨[], 0, 0, 0, 0, 0, 0, 0⟩ rfl rfl rfl rfl
    (by decide)).mpr nofun).2.1.trans (by decide +kernel)

/-- Of a datagram of 20 bytes the receiver counts 16. -/
theorem numbering_end_to_end_header :
    ¬ ∀ (test : iperf_test) (skip_rx_copy : Bool) (size : Nat) (sends : List Send) (sp : Sender)
      (receiver : iperf_stream), test.state = TEST_RUNNING → 16 ≤ size →
      sp.packet_count = 0 → sp.bytes_sent = 0 → receiver.packet_count = 0 →
      receiver.cnt_error = 0 → receiver.outoforder_packets = 0 → receiver.bytes_received = 0 →
      (sends.filter (·.outcome = .whole)).length < limit test →
      (receiveAll test receiver (sendAll test skip_rx_copy size sp sends).2).bytes_received =
        (sendAll test skip_rx_copy size sp sends).1.bytes_sent := by
  intro claimed
  have same := claimed ⟨TEST_RUNNING, true⟩ true 20 [⟨⟨5, 0⟩, .whole, ⟨6, 0⟩, []⟩]
    ⟨List.replicate 20 0, 0, 0, 0⟩ ⟨[], 0, 0, 0, 0, 0, 0, 0⟩ rfl (by decide) rfl rfl rfl rfl rfl rfl
    (by decide)
  exact absurd same (by decide +kernel)

end Iperf.UdpSend
