import Iperf.UdpSend

/-!
The read of `iperf_udp_recv`. `Nrecv_no_select` goes on until it has the bytes it was
asked for, so it puts datagrams that are shorter one behind the other, and the header
is taken from the front of the buffer whatever was read.
-/

namespace Iperf.UdpDatagrams

open Time TestState UdpReceive
open UdpSend (NET_HARDERROR)

section Read

/-- What the reads of the socket find, in their order: a datagram, EINTR, EAGAIN or
EWOULDBLOCK, another error. Behind the last one there is nothing to read. -/
inductive Waiting where
  | datagram (bytes : List UInt8)
  | soft
  | hard
  deriving DecidableEq, Repr

structure Read where
  r : Int
  buffer : List UInt8
  socket : List Waiting
  deriving DecidableEq, Repr

/-- The bytes of a read, copied into the buffer. -/
def copy (buffer : List UInt8) (offset : Nat) (bytes : List UInt8) : List UInt8 :=
  buffer.take offset ++ bytes ++ buffer.drop (offset + bytes.length)

/-- The loop, with what is left to read. A datagram is read once: what does not fit is
gone. With MSG_TRUNC `recv` returns the length of the whole datagram. -/
def Nrecv_no_select (msg_trunc : Bool) (count : Nat) :
    Nat → List UInt8 → List Waiting → Read
  | nleft, buffer, [] => ⟨count - nleft, buffer, []⟩
  | nleft, buffer, waiting :: socket =>
      if nleft = 0 then ⟨count, buffer, waiting :: socket⟩
      else
        match waiting with
        | .soft => ⟨count - nleft, buffer, socket⟩
        | .hard => ⟨NET_HARDERROR, buffer, socket⟩
        | .datagram bytes =>
            let r := if msg_trunc then bytes.length else min bytes.length nleft
            let buffer := copy buffer (count - nleft) (bytes.take nleft)
            if r = 0 then ⟨count - nleft, buffer, socket⟩
            else
              let bytes_copied := if msg_trunc then if r > nleft then nleft else r else r
              Nrecv_no_select msg_trunc count (nleft - bytes_copied) buffer socket

variable {msg_trunc : Bool} {count nleft : Nat} {buffer bytes : List UInt8}
  {socket : List Waiting}

theorem read_full : Nrecv_no_select msg_trunc count 0 buffer socket = ⟨count, buffer, socket⟩ := by
  cases socket <;> simp [Nrecv_no_select]

/-- Both ways of counting take what was copied. -/
theorem read_datagram (some : bytes ≠ []) (more : nleft ≠ 0) :
    Nrecv_no_select msg_trunc count nleft buffer (.datagram bytes :: socket) =
      Nrecv_no_select msg_trunc count (nleft - bytes.length)
        (copy buffer (count - nleft) (bytes.take nleft)) socket := by
  have length : bytes.length ≠ 0 := fun none => some (List.eq_nil_of_length_eq_zero none)
  rw [Nrecv_no_select, if_neg more]
  cases msg_trunc with
  | true =>
      simp only [if_true, length, if_false]
      split
      · rename_i longer
        rw [Nat.sub_self, Nat.sub_eq_zero_of_le (Nat.le_of_lt longer)]
      · rfl
  | false =>
      have read : min bytes.length nleft ≠ 0 := by omega
      simp only [Bool.false_eq_true, if_false, read]
      congr 1
      omega

/-- Each read adds to what was read before. -/
theorem read_at_least (fits : nleft ≤ count)
    (positive : 0 < (Nrecv_no_select msg_trunc count nleft buffer socket).r) :
    (count : Int) - nleft ≤ (Nrecv_no_select msg_trunc count nleft buffer socket).r ∧
      (Nrecv_no_select msg_trunc count nleft buffer socket).r ≤ count := by
  induction socket generalizing nleft buffer with
  | nil =>
      simp only [Nrecv_no_select]
      omega
  | cons waiting socket ih =>
      by_cases full : nleft = 0
      · simp only [full, read_full]
        omega
      · cases waiting with
        | soft =>
            simp only [Nrecv_no_select, full, if_false]
            omega
        | hard =>
            simp only [Nrecv_no_select, full, if_false, NET_HARDERROR] at positive
            omega
        | datagram bytes =>
            by_cases some : bytes = []
            · simp only [Nrecv_no_select, full, some, if_false, List.length_nil, Nat.zero_min,
                ite_self, if_true]
              omega
            · rw [read_datagram some full] at positive ⊢
              have more := ih (by omega) positive
              omega

theorem copy_nil (buffer : List UInt8) (offset : Nat) : copy buffer offset [] = buffer := by
  simp [copy]

/-- The first datagram is at the front of the buffer. -/
theorem copy_front (buffer bytes : List UInt8) (size : Nat) :
    copy buffer 0 (bytes.take size) = bytes.take size ++ buffer.drop (min size bytes.length) := by
  simp [copy]

end Read

section Recv

/-- How much is read: with MSG_TRUNC only the header. -/
def read_size (skip_rx_copy : Bool) (blksize : Int32) : Nat :=
  if skip_rx_copy then 4 + 4 + 8 else blksize.toInt.toNat

/-- `iperf_udp_recv` on a socket; `skip_rx_copy` stands for the setting in a build that
has MSG_TRUNC. -/
def iperf_udp_recv (test : iperf_test) (skip_rx_copy : Bool) (blksize : Int32)
    (sp : iperf_stream) (socket : List Waiting) (arrival_time : iperf_time) :
    Int × iperf_stream × List Waiting :=
  let size := read_size skip_rx_copy blksize
  let read := Nrecv_no_select skip_rx_copy size size sp.buffer socket
  let (r, sp) := UdpReceive.iperf_udp_recv test sp ⟨read.r, read.buffer⟩ arrival_time
  (r, sp, read.socket)

/-- The bytes of the two timestamp words and of the sequence number. -/
def header_size (test : iperf_test) : Nat := if test.udp_counters_64bit then 16 else 12

/-- The counters after a datagram whose header is there as a whole. -/
def measured (test : iperf_test) (sp : iperf_stream) (bytes : List UInt8)
    (arrival_time : iperf_time) : iperf_stream :=
  measureJitter (countPacket sp (pcountOf test bytes)) (sp.bytes_received == 0) (sentTimeOf bytes)
    arrival_time

/-- The stream after the call accounts for this one datagram. -/
structure Accounts (test : iperf_test) (blksize : Nat) (sp after : iperf_stream)
    (bytes : List UInt8) (arrival_time : iperf_time) : Prop where
  received : after.bytes_received = sp.bytes_received + UInt64.ofNat (min bytes.length blksize)
  header : header_size test ≤ bytes.length →
    after.packet_count = (measured test sp bytes arrival_time).packet_count ∧
    after.cnt_error = (measured test sp bytes arrival_time).cnt_error ∧
    after.outoforder_packets = (measured test sp bytes arrival_time).outoforder_packets ∧
    after.jitter = (measured test sp bytes arrival_time).jitter ∧
    after.prev_transit = (measured test sp bytes arrival_time).prev_transit
  short : bytes.length < header_size test →
    after.packet_count = sp.packet_count ∧ after.cnt_error = sp.cnt_error ∧
    after.outoforder_packets = sp.outoforder_packets ∧ after.jitter = sp.jitter

/-- The call accounts for the datagram that was the first to be read. -/
def AccountsFirst (test : iperf_test) (blksize : Nat) (sp after : iperf_stream)
    (arrival_time : iperf_time) : List Waiting → Prop
  | .datagram bytes :: _ => Accounts test blksize sp after bytes arrival_time
  | _ => False

/-- The first datagram fills the read and is not cut down by it, or it has the header and
no other datagram with data can be read behind it. -/
def Alone (test : iperf_test) (size blksize : Nat) : List Waiting → Prop
  | .datagram bytes :: socket =>
      size ≤ bytes.length ∧ min bytes.length blksize = size ∨
      header_size test ≤ bytes.length ∧ bytes.length < size ∧
        ∀ next more, socket = .datagram next :: more → next = []
  | _ => False

theorem header_size_le (test : iperf_test) : header_size test ≤ 16 := by
  unfold header_size
  split <;> omega

theorem word_front {bytes tail : List UInt8} {offset size : Nat}
    (there : offset + size ≤ bytes.length) :
    word (bytes ++ tail) offset size = word bytes offset size := by
  unfold word
  rw [List.drop_append_of_le_length (by omega), List.take_append_of_le_length]
  rw [List.length_drop]
  omega

/-- A buffer that starts with the header of a datagram reads as that datagram. -/
theorem header_front (test : iperf_test) {bytes tail : List UInt8}
    (there : header_size test ≤ bytes.length) :
    pcountOf test (bytes ++ tail) = pcountOf test bytes ∧
      sentTimeOf (bytes ++ tail) = sentTimeOf bytes := by
  unfold header_size at there
  unfold pcountOf sentTimeOf
  split at there
  · rename_i wide
    rw [if_pos wide, if_pos wide, word_front (by omega), word_front (by omega),
      word_front (by omega)]
    exact ⟨rfl, rfl⟩
  · rename_i narrow
    rw [if_neg narrow, if_neg narrow, word_front (by omega), word_front (by omega),
      word_front (by omega)]
    exact ⟨rfl, rfl⟩

theorem int64_succ_ne (count : Int64) : count + 1 ≠ count := by
  intro same
  have none : (1 : Int64) = 0 := by grind
  exact absurd none (by decide)

theorem uint64_succ_ne (count : UInt64) : count + 1 ≠ count := by
  intro same
  have none : (1 : UInt64) = 0 := by grind
  exact absurd none (by decide)

/-- Every packet that is counted shows in the counters. -/
theorem countPacket_changes (sp : iperf_stream) (pcount : UInt64) :
    ¬ ((countPacket sp pcount).packet_count = sp.packet_count ∧
      (countPacket sp pcount).cnt_error = sp.cnt_error ∧
      (countPacket sp pcount).outoforder_packets = sp.outoforder_packets) := by
  rintro ⟨count, error, order⟩
  by_cases reached : pcount ≥ (sp.packet_count + 1).toUInt64
  · -- The number can only be the one before when the sum has wrapped to 0.
    rw [countPacket, if_pos reached] at count error
    dsimp only at count error
    have number : pcount = sp.packet_count.toUInt64 := by
      rw [← count]
      rfl
    rw [Int64.toUInt64_add, ← number, show Int64.toUInt64 1 = 1 from rfl] at reached error
    have gap : pcount > pcount + 1 := by
      rw [gt_iff_lt, UInt64.lt_iff_toNat_lt]
      rw [ge_iff_le, UInt64.le_iff_toNat_le] at reached
      have apart : (pcount + 1).toNat ≠ pcount.toNat :=
        fun same => uint64_succ_ne pcount (UInt64.toNat_inj.mp same)
      omega
    rw [if_pos gap] at error
    have words : sp.cnt_error.toUInt64 + (pcount - 1 - pcount) = sp.cnt_error.toUInt64 := by
      have same := congrArg Int64.toUInt64 error
      exact same
    exact uint64_succ_ne (sp.cnt_error.toUInt64 + (pcount - 1 - pcount)) (by grind)
  · rw [countPacket, if_neg reached] at order
    exact int64_succ_ne _ order

variable {test : iperf_test} {sp : iperf_stream} {r : Int} {buffer : List UInt8}
  {arrival_time : iperf_time}

/-- A call that read something counts what is in the buffer. -/
theorem recv_measures (running : test.state = TEST_RUNNING) (positive : 0 < r) :
    let after := (UdpReceive.iperf_udp_recv test sp ⟨r, buffer⟩ arrival_time).2
    let counted := measured test sp buffer arrival_time
    after.bytes_received = sp.bytes_received + UInt64.ofInt r ∧
      after.packet_count = counted.packet_count ∧ after.cnt_error = counted.cnt_error ∧
      after.outoforder_packets = counted.outoforder_packets ∧ after.jitter = counted.jitter ∧
      after.prev_transit = counted.prev_transit := by
  have some : ¬ r ≤ 0 := by omega
  simp only [UdpReceive.iperf_udp_recv, some, running, if_true, if_false, measured, measureJitter]
  by_cases reached : pcountOf test buffer ≥ (sp.packet_count + 1).toUInt64
  · simp only [countPacket, reached, if_true, and_self]
  · simp only [countPacket, reached, if_false, and_self]

theorem recv_result :
    (UdpReceive.iperf_udp_recv test sp ⟨r, buffer⟩ arrival_time).1 = r := by
  unfold UdpReceive.iperf_udp_recv
  dsimp only
  split_ifs <;> rfl

/-- Counts of bytes that fit an `int` are one 64-bit word only when they are the same. -/
theorem word_of_count {r : Int} {length : Nat} (positive : 0 < r) (small : r < 2 ^ 31)
    (fits : length < 2 ^ 31) : UInt64.ofInt r = UInt64.ofNat length ↔ r = length := by
  rw [← UInt64.toNat_inj]
  simp only [UInt64.ofInt, UInt64.toNat_ofNat']
  omega

/-- Accounts of one datagram are those of a call that counted its length, with a whole
header. -/
theorem accounts_need (running : test.state = TEST_RUNNING) {bytes : List UInt8} {blksize : Nat}
    (positive : 0 < r) (small : r < 2 ^ 31) (room : blksize < 2 ^ 31)
    (accounts : Accounts test blksize sp
      (UdpReceive.iperf_udp_recv test sp ⟨r, buffer⟩ arrival_time).2 bytes arrival_time) :
    r = (min bytes.length blksize : Nat) ∧ header_size test ≤ bytes.length := by
  have ⟨received, count, error, order, jitter, transit⟩ :=
    @recv_measures test sp r buffer arrival_time running positive
  constructor
  · have sum := received.symm.trans accounts.received
    rw [UInt64.add_right_inj] at sum
    exact (word_of_count positive small (by omega)).mp sum
  · by_contra short
    obtain ⟨same, also, too, _⟩ := accounts.short (by omega)
    apply countPacket_changes sp (pcountOf test buffer)
    exact ⟨count.symm.trans same, error.symm.trans also, order.symm.trans too⟩

theorem accounts_of (running : test.state = TEST_RUNNING) {bytes tail : List UInt8}
    {size blksize : Nat} (positive : 0 < r) (small : r < 2 ^ 31)
    (large : 16 ≤ size) (front : buffer = bytes.take size ++ tail)
    (length : r = (min bytes.length blksize : Nat))
    (whole : header_size test ≤ bytes.length) :
    Accounts test blksize sp (UdpReceive.iperf_udp_recv test sp ⟨r, buffer⟩ arrival_time).2 bytes
      arrival_time := by
  have ⟨received, count, error, order, jitter, transit⟩ :=
    @recv_measures test sp r buffer arrival_time running positive
  have header := header_size_le test
  have there : header_size test ≤ (bytes.take size).length := by
    rw [List.length_take]
    omega
  -- The header is in front of what the read cuts off and of what an earlier one left.
  have own : measured test sp buffer arrival_time = measured test sp bytes arrival_time := by
    have taken := @header_front test (bytes.take size) tail there
    have all := @header_front test (bytes.take size) (bytes.drop size) there
    rw [List.take_append_drop] at all
    rw [measured, front, taken.1, taken.2, ← all.1, ← all.2]
    rfl
  constructor
  · rw [received, (word_of_count positive small (by omega)).mpr length]
  · intro _
    rw [← own]
    exact ⟨count, error, order, jitter, transit⟩
  · intro short
    omega

/-- The first read of a call finds a datagram that has data, when the call returns that
something was read. -/
theorem first_datagram {msg_trunc : Bool} {size : Nat} {buffer : List UInt8}
    {socket : List Waiting} (positive : 0 < (Nrecv_no_select msg_trunc size size buffer socket).r)
    (large : size ≠ 0) : ∃ bytes rest, socket = .datagram bytes :: rest ∧ bytes ≠ [] := by
  cases socket with
  | nil => simp [Nrecv_no_select] at positive
  | cons waiting rest =>
      cases waiting with
      | soft => simp [Nrecv_no_select, large] at positive
      | hard => simp [Nrecv_no_select, large, NET_HARDERROR] at positive
      | datagram bytes =>
          -- An empty one ends the loop with nothing read.
          refine ⟨bytes, rest, rfl, ?_⟩
          rintro rfl
          simp [Nrecv_no_select, large] at positive

/-- A datagram that fills the read is alone in the buffer. -/
theorem read_long {msg_trunc : Bool} {size : Nat} {buffer bytes : List UInt8}
    {socket : List Waiting} (some : size ≠ 0) (fills : size ≤ bytes.length) :
    (Nrecv_no_select msg_trunc size size buffer (.datagram bytes :: socket)).r = size ∧
      (Nrecv_no_select msg_trunc size size buffer (.datagram bytes :: socket)).buffer =
        bytes.take size ++ buffer.drop (min size bytes.length) := by
  have data : bytes ≠ [] := by
    rintro rfl
    exact some (Nat.le_zero.mp fills)
  rw [read_datagram data some, Nat.sub_eq_zero_of_le fills, read_full, Nat.sub_self, copy_front]
  exact ⟨rfl, rfl⟩

/-- A call that can read no other datagram behind a short one returns its length. -/
theorem read_short {msg_trunc : Bool} {size : Nat} {buffer bytes : List UInt8}
    {socket : List Waiting} (some : bytes ≠ []) (short : bytes.length < size)
    (positive : 0 < (Nrecv_no_select msg_trunc size size buffer (.datagram bytes :: socket)).r)
    (alone : ∀ next more, socket = .datagram next :: more → next = []) :
    ∃ tail, (Nrecv_no_select msg_trunc size size buffer (.datagram bytes :: socket)).r =
        bytes.length ∧
      (Nrecv_no_select msg_trunc size size buffer (.datagram bytes :: socket)).buffer =
        bytes.take size ++ tail := by
  have left : size - bytes.length ≠ 0 := by omega
  rw [read_datagram some (by omega)] at positive ⊢
  rw [Nat.sub_self, copy_front] at positive ⊢
  refine ⟨buffer.drop (min size bytes.length), ?_⟩
  cases socket with
  | nil =>
      simp only [Nrecv_no_select, and_true]
      omega
  | cons waiting rest =>
      cases waiting with
      | soft =>
          simp only [Nrecv_no_select, left, if_false, and_true]
          omega
      | hard => simp [Nrecv_no_select, left, NET_HARDERROR] at positive
      | datagram next =>
          obtain rfl := alone next rest rfl
          simp only [Nrecv_no_select, left, if_false, List.length_nil, Nat.zero_min, ite_self,
            if_true, List.take_nil, copy_nil, and_true]
          omega

/-- A call that finds data behind a short datagram returns more than its length. -/
theorem read_merged {msg_trunc : Bool} {size : Nat} {buffer bytes next : List UInt8}
    {more : List Waiting} (some : bytes ≠ []) (short : bytes.length < size) (data : next ≠ [])
    (positive : 0 < (Nrecv_no_select msg_trunc size size buffer
      (.datagram bytes :: .datagram next :: more)).r) :
    (bytes.length : Int) < (Nrecv_no_select msg_trunc size size buffer
      (.datagram bytes :: .datagram next :: more)).r := by
  have length := List.length_pos_of_ne_nil data
  rw [read_datagram some (by omega), read_datagram data (by omega)] at positive ⊢
  have least := read_at_least (by omega) positive
  omega

/-- In the running test a call accounts for the first datagram exactly when it read no
more and no less than that. -/
theorem udp_recv_accounts_iff (test : iperf_test) (skip_rx_copy : Bool) (blksize : Int32)
    (sp : iperf_stream) (socket : List Waiting) (arrival_time : iperf_time)
    (running : test.state = TEST_RUNNING) (large : 16 ≤ blksize.toInt)
    (positive : 0 < (iperf_udp_recv test skip_rx_copy blksize sp socket arrival_time).1) :
    AccountsFirst test blksize.toInt.toNat sp
        (iperf_udp_recv test skip_rx_copy blksize sp socket arrival_time).2.1 arrival_time socket ↔
      Alone test (read_size skip_rx_copy blksize) blksize.toInt.toNat socket := by
  have limit := blksize.toInt_lt
  have size_bounds : 16 ≤ read_size skip_rx_copy blksize ∧
      read_size skip_rx_copy blksize ≤ blksize.toInt.toNat := by
    unfold read_size
    split <;> omega
  obtain ⟨least, most⟩ := size_bounds
  unfold iperf_udp_recv at positive ⊢
  rw [recv_result] at positive
  generalize read_size skip_rx_copy blksize = size at *
  have bounds := read_at_least (Nat.le_refl size) positive
  obtain ⟨bytes, rest, rfl, some⟩ := first_datagram positive (by omega)
  have header := header_size_le test
  dsimp only [AccountsFirst, Alone]
  by_cases fills : size ≤ bytes.length
  · -- The first datagram fills the read.
    have ⟨length, front⟩ := @read_long skip_rx_copy size sp.buffer bytes rest (by omega) fills
    constructor
    · intro accounts
      have need := accounts_need running positive (by omega) (by omega) accounts
      left
      omega
    · rintro (⟨_, own⟩ | ⟨_, short, _⟩)
      · apply accounts_of running positive (by omega) least front
        · omega
        · omega
      · omega
  · -- The loop goes on behind it.
    have short : bytes.length < size := by omega
    constructor
    · intro accounts
      have need := accounts_need running positive (by omega) (by omega) accounts
      right
      constructor
      · exact need.2
      · constructor
        · exact short
        · rintro next more rfl
          by_contra data
          have merged := read_merged some short data positive
          omega
    · rintro (⟨long, _⟩ | ⟨whole, _, alone⟩)
      · omega
      · obtain ⟨tail, length, front⟩ := read_short some short positive alone
        apply accounts_of running positive (by omega) least front
        · omega
        · exact whole

/-- Packets 1 and 2 of a stream, of the smallest block size. -/
def first_packet : List UInt8 := [0, 0, 0, 1, 0, 0, 0, 0, 0, 0, 0, 1, 0, 0, 0, 0]

def second_packet : List UInt8 := [0, 0, 0, 1, 0, 0, 0, 9, 0, 0, 0, 2, 0, 0, 0, 0]

/-- A running test and a stream that has received nothing. -/
def running_test : iperf_test := ⟨TEST_RUNNING, false⟩

def new_stream : iperf_stream := ⟨List.replicate 32 0, 0, 0, 0, 0, 0, 0, 0⟩

/-- A call that asks for 16 bytes leaves the second packet to the next call. -/
theorem udp_recv_accounts_iff_packet :
    AccountsFirst running_test 16 new_stream
      (iperf_udp_recv running_test false 16 new_stream
        [.datagram first_packet, .datagram second_packet] ⟨2, 0⟩).2.1 ⟨2, 0⟩
      [.datagram first_packet, .datagram second_packet] := by
  apply (udp_recv_accounts_iff running_test false 16 new_stream
    [.datagram first_packet, .datagram second_packet] ⟨2, 0⟩ rfl (by decide) ?_).mpr
  · left
    decide
  · decide

/-- A call that asks for 32 bytes counts both as one packet: it adds 32 bytes, and packet 2
is seen by no later call. -/
theorem udp_recv_merges :
    0 < (iperf_udp_recv running_test false 32 new_stream
        [.datagram first_packet, .datagram second_packet] ⟨2, 0⟩).1 ∧
      (iperf_udp_recv running_test false 32 new_stream
        [.datagram first_packet, .datagram second_packet] ⟨2, 0⟩).2.1.packet_count = 1 ∧
      ∀ bytes, .datagram bytes ∈ [Waiting.datagram first_packet, .datagram second_packet] →
        ¬ Accounts running_test 32 new_stream
          (iperf_udp_recv running_test false 32 new_stream
            [.datagram first_packet, .datagram second_packet] ⟨2, 0⟩).2.1 bytes ⟨2, 0⟩ := by
  constructor
  · decide
  · constructor
    · decide
    · intro bytes waiting accounts
      have received := accounts.received
      have sixteen : bytes.length = 16 := by
        simp only [List.mem_cons, Waiting.datagram.injEq, List.not_mem_nil, or_false] at waiting
        rcases waiting with rfl | rfl <;> rfl
      rw [sixteen] at received
      exact absurd received (by decide)

end Recv

end Iperf.UdpDatagrams
