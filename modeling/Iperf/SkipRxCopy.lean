import Iperf.MachineWords
import Iperf.UdpDatagrams

/-!
Receiving with and without `--skip-rx-copy`. With it the reads pass MSG_TRUNC: TCP drops
what it would have copied, and UDP asks for no more than the header. Both count what
`Nrecv_no_select` returns.
-/

namespace Iperf.SkipRxCopy

open Time TestState UdpDatagrams
open UdpReceive hiding iperf_udp_recv
open UdpSend (NET_HARDERROR)
open MachineWords (size_of_int)

section Tcp

/-- What the reads of a TCP socket find, in their order: bytes, of which a read may take a
part and leave the rest to the next one, EINTR, EAGAIN or EWOULDBLOCK, another error.
Bytes that are none are the end of the stream. -/
inductive Incoming where
  | segment (bytes : List UInt8)
  | soft
  | hard
  deriving DecidableEq, Repr

structure TcpRead where
  r : Int
  buffer : List UInt8
  socket : List Incoming
  deriving DecidableEq, Repr

/-- The loop on a byte stream. With MSG_TRUNC the bytes are read and thrown away. -/
def Nrecv_no_select (msg_trunc : Bool) (count : Nat) :
    Nat → List UInt8 → List Incoming → TcpRead
  | nleft, buffer, [] => ⟨count - nleft, buffer, []⟩
  | nleft, buffer, incoming :: socket =>
      if nleft = 0 then ⟨count, buffer, incoming :: socket⟩
      else
        match incoming with
        | .soft => ⟨count - nleft, buffer, socket⟩
        | .hard => ⟨NET_HARDERROR, buffer, socket⟩
        | .segment bytes =>
            let r := min bytes.length nleft
            let buffer := if msg_trunc then buffer else copy buffer (count - nleft) (bytes.take r)
            if r = 0 then ⟨count - nleft, buffer, socket⟩
            else
              let bytes_copied := if msg_trunc then if r > nleft then nleft else r else r
              if r < bytes.length then
                -- Nothing is left to read, so the loop ends here.
                ⟨count - (nleft - bytes_copied : Nat), buffer, .segment (bytes.drop r) :: socket⟩
              else Nrecv_no_select msg_trunc count (nleft - bytes_copied) buffer socket

def iperf_tcp_recv (test : iperf_test) (skip_rx_copy : Bool) (blksize : Int32)
    (sp : iperf_stream) (socket : List Incoming) : Int × iperf_stream × List Incoming :=
  let count := size_of_int blksize
  let read := Nrecv_no_select skip_rx_copy count count sp.buffer socket
  let sp := { sp with buffer := read.buffer }
  if read.r < 0 then (read.r, sp, read.socket)
  else if test.state = TEST_RUNNING then
    (read.r,
      { sp with
        bytes_received := sp.bytes_received + UInt64.ofInt read.r
        bytes_received_this_interval := sp.bytes_received_this_interval + UInt64.ofInt read.r },
      read.socket)
  else (read.r, sp, read.socket)

/-- Successive calls, each with the test as it is then. -/
def tcp_receives (skip_rx_copy : Bool) (blksize : Int32) :
    iperf_stream → List Incoming → List iperf_test → iperf_stream
  | sp, _, [] => sp
  | sp, socket, test :: tests =>
      let (_, sp, socket) := iperf_tcp_recv test skip_rx_copy blksize sp socket
      tcp_receives skip_rx_copy blksize sp socket tests

end Tcp

section Udp

/-- Successive calls, each at its own time. -/
def udp_receives (test : iperf_test) (skip_rx_copy : Bool) (blksize : Int32) :
    iperf_stream → List Waiting → List iperf_time → iperf_stream
  | sp, _, [] => sp
  | sp, socket, now :: times =>
      let (_, sp, socket) := iperf_udp_recv test skip_rx_copy blksize sp socket now
      udp_receives test skip_rx_copy blksize sp socket times

/-- The datagrams that as many calls read. -/
def delivered (socket : List Waiting) (calls : Nat) : Nat :=
  (socket.take calls).countP fun waiting =>
    match waiting with
    | .datagram _ => true
    | _ => false

end Udp

section Counters
variable {on off : iperf_stream}

/-- The counters that the two ways of receiving are to agree on; without the copy `extra`
fewer bytes are counted. -/
structure Apart (extra : UInt64) (on off : iperf_stream) : Prop where
  bytes_received : on.bytes_received + extra = off.bytes_received
  this_interval : on.bytes_received_this_interval + extra = off.bytes_received_this_interval
  packet_count : on.packet_count = off.packet_count
  cnt_error : on.cnt_error = off.cnt_error
  outoforder_packets : on.outoforder_packets = off.outoforder_packets

abbrev Same (on off : iperf_stream) : Prop := Apart 0 on off

theorem same_refl (sp : iperf_stream) : Same sp sp :=
  ⟨UInt64.add_zero _, UInt64.add_zero _, rfl, rfl, rfl⟩

theorem Apart.same_iff {extra : UInt64} (apart : Apart extra on off) :
    Same on off ↔ extra = 0 := by
  constructor
  · intro same
    have sum := same.bytes_received.trans apart.bytes_received.symm
    rw [UInt64.add_right_inj] at sum
    exact sum.symm
  · intro none
    rw [none] at apart
    exact apart

theorem countPacket_congr (pcount : UInt64) (packet_count : on.packet_count = off.packet_count)
    (cnt_error : on.cnt_error = off.cnt_error)
    (outoforder_packets : on.outoforder_packets = off.outoforder_packets) :
    (countPacket on pcount).packet_count = (countPacket off pcount).packet_count ∧
      (countPacket on pcount).cnt_error = (countPacket off pcount).cnt_error ∧
      (countPacket on pcount).outoforder_packets =
        (countPacket off pcount).outoforder_packets := by
  simp only [countPacket, packet_count, cnt_error, outoforder_packets]
  split
  · exact ⟨rfl, rfl, rfl⟩
  · exact ⟨rfl, rfl, rfl⟩

end Counters

section TcpSame

/-- What is returned and what is left on the socket do not depend on the copying. -/
theorem tcp_read_same (count nleft : Nat) (buffer others : List UInt8) (socket : List Incoming) :
    (Nrecv_no_select true count nleft buffer socket).r =
        (Nrecv_no_select false count nleft others socket).r ∧
      (Nrecv_no_select true count nleft buffer socket).socket =
        (Nrecv_no_select false count nleft others socket).socket := by
  induction socket generalizing nleft buffer others with
  | nil => exact ⟨rfl, rfl⟩
  | cons incoming socket ih =>
      by_cases full : nleft = 0
      · simp only [Nrecv_no_select, full, if_true, and_self]
      · cases incoming with
        | soft => simp only [Nrecv_no_select, full, if_false, and_self]
        | hard => simp only [Nrecv_no_select, full, if_false, and_self]
        | segment bytes =>
            -- A read never returns more than it was asked for.
            have asked : ¬ min bytes.length nleft > nleft := Nat.not_lt.mpr (Nat.min_le_right _ _)
            simp only [Nrecv_no_select, full, asked, if_false, if_true, Bool.false_eq_true]
            by_cases none : min bytes.length nleft = 0
            · simp only [none, if_true, and_self]
            · simp only [none, if_false]
              split
              · exact ⟨rfl, rfl⟩
              · exact ih _ _ _

theorem tcp_recv_same (test : iperf_test) (blksize : Int32) {on off : iperf_stream}
    (socket : List Incoming) (same : Same on off) :
    Same (iperf_tcp_recv test true blksize on socket).2.1
        (iperf_tcp_recv test false blksize off socket).2.1 ∧
      (iperf_tcp_recv test true blksize on socket).2.2 =
        (iperf_tcp_recv test false blksize off socket).2.2 := by
  have read := tcp_read_same (size_of_int blksize) (size_of_int blksize) on.buffer off.buffer socket
  have bytes := same.bytes_received
  have interval := same.this_interval
  rw [UInt64.add_zero] at bytes interval
  simp only [iperf_tcp_recv, read.1, read.2]
  split
  · exact ⟨⟨same.bytes_received, same.this_interval, same.packet_count, same.cnt_error,
      same.outoforder_packets⟩, rfl⟩
  · split
    · refine ⟨⟨?_, ?_, same.packet_count, same.cnt_error, same.outoforder_packets⟩, rfl⟩
      · simp only [bytes, UInt64.add_zero]
      · simp only [interval, UInt64.add_zero]
    · exact ⟨⟨same.bytes_received, same.this_interval, same.packet_count, same.cnt_error,
        same.outoforder_packets⟩, rfl⟩

theorem tcp_receives_same (blksize : Int32) {on off : iperf_stream} (socket : List Incoming)
    (tests : List iperf_test) (same : Same on off) :
    Same (tcp_receives true blksize on socket tests)
      (tcp_receives false blksize off socket tests) := by
  induction tests generalizing on off socket with
  | nil => exact same
  | cons test tests ih =>
      have step := tcp_recv_same test blksize socket same
      simp only [tcp_receives]
      rw [step.2]
      exact ih _ step.1

end TcpSame

section UdpSame
variable {test : iperf_test} {blksize : Int32} {on off sp : iperf_stream}
  {bytes : List UInt8} {rest : List Waiting} {now : iperf_time} {r : Int} {extra : UInt64}

/-- The items that a socket of full datagrams has. -/
def Full (blksize : Int32) (socket : List Waiting) : Prop :=
  ∀ bytes, .datagram bytes ∈ socket → bytes.length = blksize.toInt.toNat

theorem recv_nothing {buffer : List UInt8} (none : r ≤ 0) :
    UdpReceive.iperf_udp_recv test sp ⟨r, buffer⟩ now = (r, { sp with buffer := buffer }) := by
  simp only [UdpReceive.iperf_udp_recv, none, if_true]

theorem recv_counts {buffer : List UInt8} (running : test.state = TEST_RUNNING)
    (positive : 0 < r) :
    let after := (UdpReceive.iperf_udp_recv test sp ⟨r, buffer⟩ now).2
    after.bytes_received = sp.bytes_received + UInt64.ofInt r ∧
      after.bytes_received_this_interval =
        sp.bytes_received_this_interval + UInt64.ofInt r ∧
      after.packet_count = (countPacket sp (pcountOf test buffer)).packet_count ∧
      after.cnt_error = (countPacket sp (pcountOf test buffer)).cnt_error ∧
      after.outoforder_packets = (countPacket sp (pcountOf test buffer)).outoforder_packets := by
  have ⟨received, count, error, order, _⟩ :=
    @recv_measures test sp r buffer now running positive
  have some : ¬ r ≤ 0 := Int.not_le.mpr positive
  constructor
  · exact received
  · constructor
    · simp only [UdpReceive.iperf_udp_recv, some, running, if_true, if_false, measureJitter,
        countPacket]
      split
      · rfl
      · rfl
    · exact ⟨count, error, order⟩

theorem size_bounds (skip_rx_copy : Bool) (large : 16 ≤ blksize.toInt) :
    16 ≤ read_size skip_rx_copy blksize ∧
      read_size skip_rx_copy blksize ≤ blksize.toInt.toNat := by
  cases skip_rx_copy with
  | true => simp only [read_size, if_true]; omega
  | false => simp only [read_size, Bool.false_eq_true, if_false]; omega

/-- A full datagram fills the read, whichever size is asked for. -/
theorem read_full_datagram (skip_rx_copy : Bool) (buffer : List UInt8)
    (large : 16 ≤ blksize.toInt) (length : bytes.length = blksize.toInt.toNat) :
    let size := read_size skip_rx_copy blksize
    UdpDatagrams.Nrecv_no_select skip_rx_copy size size buffer (.datagram bytes :: rest) =
      ⟨size, bytes.take size ++ buffer.drop (min size bytes.length), rest⟩ := by
  intro size
  have bounds : 16 ≤ size ∧ size ≤ blksize.toInt.toNat := size_bounds skip_rx_copy large
  have some : bytes ≠ [] := by
    rintro rfl
    rw [List.length_nil] at length
    omega
  have none : size - bytes.length = 0 := by omega
  rw [read_datagram some (by omega), Nat.sub_self, none, read_full, copy_front]

/-- The number of a packet is read from what both read. -/
theorem pcount_front {tail : List UInt8} {size : Nat} (header : 16 ≤ size)
    (whole : 16 ≤ bytes.length) :
    pcountOf test (bytes.take size ++ tail) = pcountOf test bytes := by
  have least := header_size_le test
  have there : header_size test ≤ (bytes.take size).length := by
    rw [List.length_take]
    omega
  have taken := @header_front test (bytes.take size) tail there
  have all := @header_front test (bytes.take size) (bytes.drop size) there
  rw [List.take_append_drop] at all
  rw [taken.1, ← all.1]

/-- What the shorter count of a datagram leaves out. -/
def missed (blksize : Int32) (datagrams : Nat) : UInt64 :=
  UInt64.ofNat (datagrams * (blksize.toInt.toNat - 16))

/-- A call that finds no datagram changes nothing. -/
theorem udp_recv_idle (skip_rx_copy : Bool) (large : 16 ≤ blksize.toInt) {socket : List Waiting}
    (none : delivered socket 1 = 0) :
    (iperf_udp_recv test skip_rx_copy blksize sp socket now).2 = (sp, socket.tail) := by
  have bounds := size_bounds skip_rx_copy large
  have asked : read_size skip_rx_copy blksize ≠ 0 := by omega
  cases socket with
  | nil => simp [iperf_udp_recv, UdpDatagrams.Nrecv_no_select, recv_nothing]
  | cons waiting rest =>
      cases waiting with
      | soft => simp [iperf_udp_recv, UdpDatagrams.Nrecv_no_select, asked, recv_nothing]
      | hard =>
          simp [iperf_udp_recv, UdpDatagrams.Nrecv_no_select, asked, recv_nothing, NET_HARDERROR]
      | datagram bytes => simp [delivered] at none

/-- A full datagram is counted with its own number and with the size of the read. -/
theorem udp_recv_full (skip_rx_copy : Bool) (running : test.state = TEST_RUNNING)
    (large : 16 ≤ blksize.toInt) (length : bytes.length = blksize.toInt.toNat) :
    let after := (iperf_udp_recv test skip_rx_copy blksize sp (.datagram bytes :: rest) now).2.1
    let size := UInt64.ofNat (read_size skip_rx_copy blksize)
    let counted := countPacket sp (pcountOf test bytes)
    (iperf_udp_recv test skip_rx_copy blksize sp (.datagram bytes :: rest) now).2.2 = rest ∧
      after.bytes_received = sp.bytes_received + size ∧
      after.bytes_received_this_interval = sp.bytes_received_this_interval + size ∧
      after.packet_count = counted.packet_count ∧ after.cnt_error = counted.cnt_error ∧
      after.outoforder_packets = counted.outoforder_packets := by
  have bounds := size_bounds skip_rx_copy large
  have read := @read_full_datagram blksize bytes rest skip_rx_copy sp.buffer large length
  simp only [iperf_udp_recv, read, true_and]
  have counts := @recv_counts test sp now (read_size skip_rx_copy blksize)
    (bytes.take (read_size skip_rx_copy blksize) ++
      sp.buffer.drop (min (read_size skip_rx_copy blksize) bytes.length)) running (by omega)
  rw [pcount_front bounds.1 (by omega), MachineWords.ofInt_natCast] at counts
  exact counts

/-- One call on each side reads the same item. A datagram is counted with its number on
both, and with 16 of its bytes on one. -/
theorem udp_recv_apart (now : iperf_time) (running : test.state = TEST_RUNNING)
    (large : 16 ≤ blksize.toInt) {socket : List Waiting} (full : Full blksize socket) (apart : Apart extra on off) :
    Apart (extra + missed blksize (delivered socket 1))
        (iperf_udp_recv test true blksize on socket now).2.1
        (iperf_udp_recv test false blksize off socket now).2.1 ∧
      (iperf_udp_recv test true blksize on socket now).2.2 = socket.tail ∧
      (iperf_udp_recv test false blksize off socket now).2.2 = socket.tail := by
  by_cases none : delivered socket 1 = 0
  · have nothing : missed blksize 0 = 0 := by simp [missed]
    rw [udp_recv_idle true large none, udp_recv_idle false large none, none, nothing,
      UInt64.add_zero]
    exact ⟨apart, rfl, rfl⟩
  · rcases socket with _ | ⟨waiting, rest⟩
    · simp [delivered] at none
    · cases waiting with
      | soft => simp [delivered] at none
      | hard => simp [delivered] at none
      | datagram bytes =>
          have length := full bytes List.mem_cons_self
          have one : delivered (.datagram bytes :: rest) 1 = 1 := by simp [delivered]
          have counted := countPacket_congr (pcountOf test bytes) apart.packet_count
            apart.cnt_error apart.outoforder_packets
          have whole : UInt64.ofNat (read_size true blksize) + missed blksize 1 =
              UInt64.ofNat (read_size false blksize) := by
            have sum : read_size true blksize + 1 * (blksize.toInt.toNat - 16) =
                read_size false blksize := by
              simp only [read_size, if_true, Bool.false_eq_true, if_false]
              omega
            rw [missed, ← UInt64.ofNat_add, sum]
          rcases @udp_recv_full test blksize on bytes rest now true running large length with
            ⟨left_on, bytes_on, interval_on, count_on, error_on, order_on⟩
          rcases @udp_recv_full test blksize off bytes rest now false running large length
            with ⟨left_off, bytes_off, interval_off, count_off, error_off, order_off⟩
          rw [one]
          constructor
          · constructor
            · rw [bytes_on, bytes_off, ← apart.bytes_received, ← whole]
              grind
            · rw [interval_on, interval_off, ← apart.this_interval, ← whole]
              grind
            · rw [count_on, count_off, counted.1]
            · rw [error_on, error_off, counted.2.1]
            · rw [order_on, order_off, counted.2.2]
          · exact ⟨left_on, left_off⟩

theorem delivered_succ (socket : List Waiting) (calls : Nat) :
    delivered socket (calls + 1) = delivered socket 1 + delivered socket.tail calls := by
  cases socket with
  | nil => simp [delivered]
  | cons waiting rest => simp [delivered, List.countP_cons, Nat.add_comm]

theorem udp_receives_apart (running : test.state = TEST_RUNNING) (large : 16 ≤ blksize.toInt)
    {socket : List Waiting} (full : Full blksize socket) (times : List iperf_time)
    (apart : Apart extra on off) :
    Apart (extra + missed blksize (delivered socket times.length))
      (udp_receives test true blksize on socket times)
      (udp_receives test false blksize off socket times) := by
  induction times generalizing extra on off socket with
  | nil =>
      have nothing : missed blksize 0 = 0 := by simp [missed]
      have none : delivered socket 0 = 0 := by simp [delivered]
      rw [List.length_nil, none, nothing, UInt64.add_zero]
      exact apart
  | cons now times ih =>
      have step := udp_recv_apart now running large full apart
      have later : Full blksize socket.tail := fun bytes member =>
        full bytes (List.mem_of_mem_tail member)
      have all := ih later step.1
      have sum : missed blksize (delivered socket (times.length + 1)) =
          missed blksize (delivered socket 1) +
            missed blksize (delivered socket.tail times.length) := by
        rw [delivered_succ, missed, Nat.add_mul, UInt64.ofNat_add]
        rfl
      simp only [udp_receives, step.2.1, step.2.2, List.length_cons]
      rw [sum, ← UInt64.add_assoc]
      exact all

end UdpSame

/-- Without the copy a TCP receiver counts the same. A UDP receiver counts the packets the
same, but 16 bytes for each: the counters agree when these are all the bytes there are, or
those that are left out come to a multiple of 2^64. -/
theorem skip_rx_copy_same_iff (test : iperf_test) (blksize tcp_blksize : Int32)
    (sp tcp_sp : iperf_stream) (socket : List Waiting) (times : List iperf_time)
    (stream : List Incoming) (tests : List iperf_test) (running : test.state = TEST_RUNNING)
    (large : 16 ≤ blksize.toInt) (full : Full blksize socket) :
    (Same (udp_receives test true blksize sp socket times)
          (udp_receives test false blksize sp socket times) ∧
        Same (tcp_receives true tcp_blksize tcp_sp stream tests)
          (tcp_receives false tcp_blksize tcp_sp stream tests)) ↔
      delivered socket times.length * (blksize.toInt.toNat - 16) % 2 ^ 64 = 0 := by
  have tcp := tcp_receives_same tcp_blksize stream tests (same_refl tcp_sp)
  have udp := udp_receives_apart running large full times (same_refl sp)
  rw [UInt64.zero_add] at udp
  rw [and_iff_left tcp, udp.same_iff, missed, ← UInt64.toNat_inj, UInt64.toNat_ofNat']
  rfl

/-- Datagrams of the smallest block size are read whole on both sides. -/
theorem skip_rx_copy_same_header :
    Same (udp_receives running_test true 16 new_stream [.datagram first_packet] [⟨2, 0⟩])
        (udp_receives running_test false 16 new_stream [.datagram first_packet] [⟨2, 0⟩]) ∧
      Same (tcp_receives true 4 new_stream [.segment [1, 2, 3]] [running_test])
        (tcp_receives false 4 new_stream [.segment [1, 2, 3]] [running_test]) := by
  apply (skip_rx_copy_same_iff running_test 16 4 new_stream new_stream [.datagram first_packet]
    [⟨2, 0⟩] [.segment [1, 2, 3]] [running_test] rfl (by decide) ?_).mpr (by decide)
  intro bytes member
  rw [List.mem_singleton, Waiting.datagram.injEq] at member
  rw [member]
  rfl

/-- Of a datagram of 20 bytes 16 are counted. -/
theorem skip_rx_copy_counts_header :
    ¬ ∀ (test : iperf_test) (blksize : Int32) (sp : iperf_stream) (socket : List Waiting)
      (times : List iperf_time), test.state = TEST_RUNNING → 16 ≤ blksize.toInt →
      Full blksize socket →
      Same (udp_receives test true blksize sp socket times)
        (udp_receives test false blksize sp socket times) := by
  intro claimed
  have full : Full 20 [.datagram (first_packet ++ [0, 0, 0, 0])] := by
    intro bytes member
    rw [List.mem_singleton, Waiting.datagram.injEq] at member
    rw [member]
    rfl
  have same := claimed running_test 20 new_stream _ [⟨2, 0⟩] rfl (by decide) full
  exact absurd same.bytes_received (by decide)

end Iperf.SkipRxCopy
