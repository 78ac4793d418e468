import Iperf.BinaryFloat
import Mathlib.Algebra.Order.BigOperators.Group.List
import Mathlib.Data.UInt
import Iperf.StreamResults

/-!
The final summary of a test. `iperf_print_results` walks the streams of one
direction, prints a line for each and keeps running totals for the sum lines.
The values of a line and the totals are separate expressions with guards of
their own; the report below holds both, and the theorem says exactly when they
agree. The walk counts in words; what is printed of them in JSON are doubles.
-/

namespace Iperf.FinalReport

open TestState Config StreamResults BinaryFloat

/-- What a line has in one of its columns. -/
inductive Printed (α : Type) where
  | absent
  | unknown
  | value (number : α)
  deriving DecidableEq

/-- The share of a line in the sum of its column. -/
def Printed.number {α : Type} [Zero α] : Printed α → α
  | .value number => number
  | _ => 0

def Printed.map {α β : Type} (f : α → β) : Printed α → Printed β
  | .absent => .absent
  | .unknown => .unknown
  | .value number => .value (f number)

/-- The values that a line or an object of the report has. A sender's own lost
packets, always printed as 0, are not those of the receiver, and neither is the
one count of packets in the object of a stream a sender's or a receiver's. -/
structure Line (Bytes Count : Type) where
  bytes_sent : Printed Bytes := .absent
  bytes_received : Printed Bytes := .absent
  retransmits : Printed Count := .absent
  packets : Printed Count := .absent
  sender_packets : Printed Count := .absent
  receiver_packets : Printed Count := .absent
  sender_lost_packets : Printed Count := .absent
  lost_packets : Printed Count := .absent
  lost_percent : Printed Rat := .absent
  deriving DecidableEq

structure Table (Bytes Count : Type) where
  streams : List (Line Bytes Count)
  sums : List (Line Bytes Count)
  deriving DecidableEq

/-- The words that the code counts in. -/
abbrev Values := Line UInt64 Int64

abbrev Report := Table UInt64 Int64

section Stream

def bytes_sent (sp : iperf_stream) : UInt64 := sp.result.bytes_sent - sp.result.bytes_sent_omit

def sender_packet_count (sp : iperf_stream) : Int64 :=
  if sp.sender then sp.packet_count else sp.peer_packet_count

def sender_omitted_packet_count (sp : iperf_stream) : Int64 :=
  if sp.sender then sp.omitted_packet_count else sp.peer_omitted_packet_count

def receiver_packet_count (sp : iperf_stream) : Int64 :=
  if sp.sender then sp.peer_packet_count else sp.packet_count

def receiver_omitted_packet_count (sp : iperf_stream) : Int64 :=
  if sp.sender then sp.peer_omitted_packet_count else sp.omitted_packet_count

def sender_packets (sp : iperf_stream) : Int64 :=
  sender_packet_count sp - sender_omitted_packet_count sp

def receiver_packets (sp : iperf_stream) : Int64 :=
  receiver_packet_count sp - receiver_omitted_packet_count sp

/-- The sender's count when there is one, less the omitted packets of this side. -/
def packets (sp : iperf_stream) : Int64 :=
  (if sender_packet_count sp ≠ 0 then sender_packet_count sp else receiver_packet_count sp) -
    sp.omitted_packet_count

/-- The cast of an integer to `double`. -/
def double (count : Int) : Rat := nearest binary64 count

/-- Each operation rounds. -/
def percent (lost packets : Int64) : Rat :=
  nearest binary64 (nearest binary64 (100 * double lost.toInt) / double packets.toInt)

/-- The protocols whose summary has no packets. -/
def reliable (test : iperf_test) : Prop :=
  test.protocol = .Ptcp ∨ test.protocol = .Psctp ∨ test.protocol = .Pquic

instance (test : iperf_test) : Decidable (reliable test) := by
  unfold reliable
  infer_instance

/-- A server that receives over QUIC and has no figure of the sender. -/
def sender_missing (test : iperf_test) (sender : Bool) (sender_time : Rat) (sent : UInt64) : Prop :=
  test.role = .s ∧ test.protocol = .Pquic ∧ sender = false ∧ (sender_time ≤ 0 ∨ sent = 0)

instance (test : iperf_test) (sender : Bool) (sender_time : Rat) (sent : UInt64) :
    Decidable (sender_missing test sender sender_time sent) := by
  unfold sender_missing
  infer_instance

/-- What is printed of one stream; `sent` is its count after the substitution. -/
def stream_values (test : iperf_test) (json_output : Bool) (sp : iperf_stream) (sent : UInt64) :
    Values :=
  let lost := sp.cnt_error - sp.omitted_cnt_error
  let with_sender := ¬ (test.role = .s ∧ sp.sender = false)
  let with_receiver := ¬ (test.role = .s ∧ sp.sender = true)
  if reliable test then
    let retransmits :=
      if test.sender_has_retransmits ≠ 0 ∨ test.protocol = .Psctp then
        .value sp.result.stream_retrans
      else .absent
    if json_output then
      { bytes_sent := .value sent
        retransmits := retransmits
        bytes_received := .value sp.result.bytes_received }
    else
      { bytes_sent := if with_sender then .value sent else .absent
        retransmits := if with_sender then retransmits else .absent
        bytes_received :=
          if with_receiver then .value sp.result.bytes_received else .absent }
  else if json_output then
    { bytes_sent := .value sent
      lost_packets := .value lost
      packets := .value (packets sp)
      lost_percent :=
        .value (if 0 < sender_packets sp then percent lost (sender_packets sp) else 0) }
  else
    -- The receiver's line has no lost packets when the omitted ones are not known.
    let known := -1 < sp.omitted_cnt_error
    { bytes_sent := if with_sender then .value sent else .absent
      sender_packets := if with_sender then .value (sender_packets sp) else .absent
      sender_lost_packets := if with_sender then .value 0 else .absent
      bytes_received := if with_receiver then .value sp.result.bytes_received else .absent
      receiver_packets := if with_receiver then .value (receiver_packets sp) else .absent
      lost_packets :=
        if with_receiver then if known then .value lost else .unknown else .absent
      lost_percent :=
        if with_receiver then
          if known then
            .value (if 0 < receiver_packets sp then percent lost (receiver_packets sp) else 0)
          else .unknown
        else .absent }

end Stream

section Totals

structure Totals where
  total_sent : UInt64 := 0
  total_received : UInt64 := 0
  total_retransmits : Int64 := 0
  total_packets : Int64 := 0
  sender_total_packets : Int64 := 0
  receiver_total_packets : Int64 := 0
  lost_packets : Int64 := 0
  deriving DecidableEq

/-- The lost packets that the running total takes of a stream. -/
def total_lost (sp : iperf_stream) : Int64 :=
  sp.cnt_error - if -1 < sp.omitted_cnt_error then sp.omitted_cnt_error else 0

def add_stream (test : iperf_test) (totals : Totals) (sp : iperf_stream) : Totals :=
  let totals := { totals with
    total_sent := totals.total_sent + bytes_sent sp
    total_received := totals.total_received + sp.result.bytes_received }
  if reliable test then
    if test.sender_has_retransmits ≠ 0 then
      { totals with total_retransmits := totals.total_retransmits + sp.result.stream_retrans }
    else totals
  else
    { totals with
      total_packets := totals.total_packets + packets sp
      sender_total_packets := totals.sender_total_packets + sender_packets sp
      receiver_total_packets := totals.receiver_total_packets + receiver_packets sp
      lost_packets :=
        let lost := totals.lost_packets + sp.cnt_error
        if -1 < sp.omitted_cnt_error then lost - sp.omitted_cnt_error else lost }

def printed_sent (test : iperf_test) (sender_time : Rat) (sp : iperf_stream) : UInt64 :=
  if sender_missing test sp.sender sender_time (bytes_sent sp) then sp.result.bytes_received
  else bytes_sent sp

def printed_time (test : iperf_test) (receiver_time sender_time : Rat) (sp : iperf_stream) : Rat :=
  if sender_missing test sp.sender sender_time (bytes_sent sp) then receiver_time else sender_time

/-- What the walk over the streams leaves: the lines, the totals and the sender's
time, which the substitution overwrites. -/
structure Walk where
  lines : List Values
  totals : Totals
  sender_time : Rat

def print_streams (test : iperf_test) (json_output : Bool) (stream_must_be_sender : Bool)
    (receiver_time : Rat) : Totals → Rat → List iperf_stream → Walk
  | totals, sender_time, [] => ⟨[], totals, sender_time⟩
  | totals, sender_time, sp :: rest =>
      if sp.sender = stream_must_be_sender then
        let walk := print_streams test json_output stream_must_be_sender receiver_time
          (add_stream test totals sp) (printed_time test receiver_time sender_time sp) rest
        { walk with
          lines := stream_values test json_output sp (printed_sent test sender_time sp) ::
            walk.lines }
      else
        print_streams test json_output stream_must_be_sender receiver_time totals sender_time rest

/-- The sum lines, from the totals and the sender's time after the walk. -/
def print_sums (test : iperf_test) (json_output : Bool) (stream_must_be_sender : Bool)
    (totals : Totals) (sender_time : Rat) : List Values :=
  let sent :=
    if sender_missing test stream_must_be_sender sender_time totals.total_sent then
      totals.total_received
    else totals.total_sent
  let with_sender := ¬ (test.role = .s ∧ stream_must_be_sender = false)
  let with_receiver := ¬ (test.role = .s ∧ stream_must_be_sender = true)
  if ¬ (1 < test.num_streams ∨ json_output) then []
  else if reliable test then
    let sum_sent : Values :=
      { bytes_sent := .value sent
        retransmits :=
          if test.sender_has_retransmits ≠ 0 then .value totals.total_retransmits else .absent }
    let sum_received : Values := { bytes_received := .value totals.total_received }
    (if json_output ∨ with_sender then [sum_sent] else []) ++
      if json_output ∨ with_receiver then [sum_received] else []
  else
    let lost_percent : Printed Rat :=
      .value (if 0 < totals.total_packets then percent totals.lost_packets totals.total_packets
        else 0)
    let sum_sent : Values :=
      { bytes_sent := .value sent
        sender_lost_packets := .value 0
        sender_packets := .value totals.sender_total_packets }
    let sum_received : Values :=
      { bytes_received := .value totals.total_received
        lost_packets := .value totals.lost_packets
        receiver_packets := .value totals.receiver_total_packets
        lost_percent := lost_percent }
    if json_output then
      [{ bytes_sent := .value sent
         lost_packets := .value totals.lost_packets
         packets := .value totals.total_packets
         lost_percent := lost_percent }, sum_sent, sum_received]
    else
      (if with_sender then [sum_sent] else []) ++ if with_receiver then [sum_received] else []

end Totals

section Results

/-- The first stream's times: its own side's is set, and the other side's where
the peer did not send one. -/
def set_times (end_time : Rat) : List iperf_stream → List iperf_stream
  | [] => []
  | sp :: rest =>
      let result := sp.result
      let result :=
        if sp.sender then
          { result with
            sender_time := end_time
            receiver_time := if result.receiver_time = 0 then end_time else result.receiver_time }
        else
          { result with
            receiver_time := end_time
            sender_time := if result.sender_time = 0 then end_time else result.sender_time }
      { sp with result := result } :: rest

def first_sender_time (streams : List iperf_stream) : Rat :=
  (streams.head?.map fun sp => sp.result.sender_time).getD 0

def first_receiver_time (streams : List iperf_stream) : Rat :=
  (streams.head?.map fun sp => sp.result.receiver_time).getD 0

/-- The report on one direction, once the times are set. -/
def print_direction (test : iperf_test) (json_output : Bool) (stream_must_be_sender : Bool)
    (streams : List iperf_stream) : Report :=
  let walk := print_streams test json_output stream_must_be_sender (first_receiver_time streams) {}
    (first_sender_time streams) streams
  { streams := walk.lines
    sums := print_sums test json_output stream_must_be_sender walk.totals walk.sender_time }

/-- `current_mode * current_mode` for the modes from `lower_mode` to `upper_mode`. -/
def directions (test : iperf_test) : List Bool :=
  match test.mode with
  | .SENDER => [true]
  | .RECEIVER => [false]
  | .BIDIRECTIONAL => if test.role = .c then [true, false] else [false, true]

/-- In a bidirectional test each direction has its own sender. -/
def sender_of (test : iperf_test) (stream_must_be_sender : Bool) : iperf_test :=
  if test.mode = .BIDIRECTIONAL ∧ stream_must_be_sender = false then
    { test with sender_has_retransmits := test.other_side_has_retransmits }
  else test

/-- The bytes that are printed. An object has the double of an `int64_t`; a line has
the double that `unit_snprintf` is called with. -/
def emit_bytes (json_output : Bool) (bytes : UInt64) : Rat :=
  if json_output then double bytes.toInt64.toInt else double bytes.toNat

/-- The lines have the counts of packets as they are. -/
def emit_count (json_output : Bool) (count : Int64) : Rat :=
  if json_output then double count.toInt else count.toInt

def emit_line (json_output : Bool) (line : Values) : Line Rat Rat where
  bytes_sent := line.bytes_sent.map (emit_bytes json_output)
  bytes_received := line.bytes_received.map (emit_bytes json_output)
  retransmits := line.retransmits.map (emit_count json_output)
  packets := line.packets.map (emit_count json_output)
  sender_packets := line.sender_packets.map (emit_count json_output)
  receiver_packets := line.receiver_packets.map (emit_count json_output)
  sender_lost_packets := line.sender_lost_packets.map (emit_count json_output)
  lost_packets := line.lost_packets.map (emit_count json_output)
  lost_percent := line.lost_percent

def emit (json_output : Bool) (report : Report) : Table Rat Rat where
  streams := report.streams.map (emit_line json_output)
  sums := report.sums.map (emit_line json_output)

def iperf_print_results (test : iperf_test) (json_output : Bool) (end_time : Rat)
    (streams : List iperf_stream) : List (Bool × Table Rat Rat) :=
  (directions test).map fun stream_must_be_sender =>
    (stream_must_be_sender,
      emit json_output
        (print_direction (sender_of test stream_must_be_sender) json_output stream_must_be_sender
          (set_times end_time streams)))

end Results

section Walks

variable (test : iperf_test) (json_output : Bool) (stream_must_be_sender : Bool)

/-- The streams that the report on a direction is about. -/
def ours (streams : List iperf_stream) : List iperf_stream :=
  streams.filter (·.sender = stream_must_be_sender)

/-- A field to which each item adds its share holds the sum of the shares. -/
theorem foldl_field {State Item β : Type} [Add β] [Zero β]
    [Std.Associative (fun a b : β => a + b)] [Std.LawfulIdentity (fun a b : β => a + b) 0]
    {step : State → Item → State} {field : State → β} {share : Item → β}
    (steps : ∀ state item, field (step state item) = field state + share item)
    (items : List Item) (state : State) :
    field (items.foldl step state) = field state + (items.map share).sum := by
  induction items generalizing state with
  | nil => simp only [List.foldl_nil, List.map_nil, List.sum_nil, Std.LawfulRightIdentity.right_id]
  | cons item rest ih =>
      rw [List.foldl_cons, ih, steps, List.map_cons, List.sum_cons]
      exact Std.Associative.assoc _ _ _

theorem mem_ours {stream_must_be_sender : Bool} {streams : List iperf_stream} {sp : iperf_stream}
    (member : sp ∈ ours stream_must_be_sender streams) : sp.sender = stream_must_be_sender := by
  simpa [ours] using (List.mem_filter.mp member).2

/-- The sender's time after the walk. -/
def time_after (test : iperf_test) (receiver_time : Rat) : Rat → List iperf_stream → Rat
  | sender_time, [] => sender_time
  | sender_time, sp :: rest =>
      time_after test receiver_time (printed_time test receiver_time sender_time sp) rest

/-- The lines of the streams of one direction. -/
def lines_of (test : iperf_test) (json_output : Bool) (receiver_time : Rat) :
    Rat → List iperf_stream → List Values
  | _, [] => []
  | sender_time, sp :: rest =>
      stream_values test json_output sp (printed_sent test sender_time sp) ::
        lines_of test json_output receiver_time
          (printed_time test receiver_time sender_time sp) rest

/-- The walk passes over the streams of the other direction. -/
theorem print_streams_eq (receiver_time sender_time : Rat) (totals : Totals)
    (streams : List iperf_stream) :
    print_streams test json_output stream_must_be_sender receiver_time totals sender_time streams =
      { lines := lines_of test json_output receiver_time sender_time
          (ours stream_must_be_sender streams)
        totals := (ours stream_must_be_sender streams).foldl (add_stream test) totals
        sender_time := time_after test receiver_time sender_time
          (ours stream_must_be_sender streams) } := by
  induction streams generalizing totals sender_time with
  | nil => rfl
  | cons sp rest ih =>
      by_cases mine : sp.sender = stream_must_be_sender
      · simp only [print_streams, ours, mine, List.filter_cons, decide_true, if_true, ih, lines_of,
          time_after, List.foldl_cons]
      · simp only [print_streams, ours, mine, List.filter_cons, decide_false, if_false, ih,
          Bool.false_eq_true]

/-- A column that does not depend on the substitution is the stream's own. -/
theorem lines_of_column {α : Type} {field : Values → α} {column : iperf_stream → α}
    {streams : List iperf_stream}
    (own : ∀ sp ∈ streams, ∀ time,
      field (stream_values test json_output sp (printed_sent test time sp)) = column sp)
    (receiver_time sender_time : Rat) :
    (lines_of test json_output receiver_time sender_time streams).map field =
      streams.map column := by
  induction streams generalizing sender_time with
  | nil => rfl
  | cons sp rest ih =>
      rw [lines_of, List.map_cons, List.map_cons, own sp List.mem_cons_self,
        ih fun other member => own other (List.mem_cons_of_mem _ member)]

theorem print_streams_column {α : Type} {field : Values → α} {column : iperf_stream → α}
    (own : ∀ sp time, sp.sender = stream_must_be_sender →
      field (stream_values test json_output sp (printed_sent test time sp)) = column sp)
    (receiver_time sender_time : Rat) (totals : Totals) (streams : List iperf_stream) :
    (print_streams test json_output stream_must_be_sender receiver_time totals sender_time
      streams).lines.map field = (ours stream_must_be_sender streams).map column := by
  rw [print_streams_eq]
  apply lines_of_column
  intro sp member time
  exact own sp time (mem_ours member)

theorem add_stream_sent (totals : Totals) (sp : iperf_stream) :
    (add_stream test totals sp).total_sent = totals.total_sent + bytes_sent sp := by
  unfold add_stream
  split_ifs <;> rfl

theorem add_stream_received (totals : Totals) (sp : iperf_stream) :
    (add_stream test totals sp).total_received =
      totals.total_received + sp.result.bytes_received := by
  unfold add_stream
  split_ifs <;> rfl

variable {test}

theorem lost_packets_eq (datagrams : ¬ reliable test) (streams : List iperf_stream)
    (totals : Totals) :
    (streams.foldl (add_stream test) totals).lost_packets =
      totals.lost_packets + (streams.map total_lost).sum := by
  apply foldl_field
  intro totals sp
  simp only [add_stream, if_neg datagrams, total_lost]
  split_ifs
  · grind
  · grind

end Walks

section Agreement

/-- In a column that the report has for its streams, each sum line shows the sum. -/
def Sums {α Bytes Count : Type} [Add α] [Zero α] (field : Line Bytes Count → Printed α)
    (report : Table Bytes Count) : Prop :=
  ∀ line ∈ report.sums, ∀ total, field line = .value total →
    (∃ stream ∈ report.streams, field stream ≠ .absent) →
      total = (report.streams.map fun stream => (field stream).number).sum

structure Consistent {Bytes Count : Type} [Add Bytes] [Zero Bytes] [Add Count] [Zero Count]
    (report : Table Bytes Count) : Prop where
  bytes_sent : Sums (·.bytes_sent) report
  bytes_received : Sums (·.bytes_received) report
  retransmits : Sums (·.retransmits) report
  packets : Sums (·.packets) report
  sender_packets : Sums (·.sender_packets) report
  receiver_packets : Sums (·.receiver_packets) report
  sender_lost_packets : Sums (·.sender_lost_packets) report
  lost_packets : Sums (·.lost_packets) report

theorem sums_columns {α : Type} [Add α] [Zero α] {field : Values → Printed α} {report : Report}
    {columns : List (Printed α)} (shown : report.streams.map field = columns) :
    Sums field report ↔
      ∀ line ∈ report.sums, ∀ total, field line = .value total →
        (∃ column ∈ columns, column ≠ .absent) → total = (columns.map Printed.number).sum := by
  rw [← shown]
  simp only [Sums, List.mem_map, exists_exists_and_eq_and, List.map_map, Function.comp_def]

theorem sums_iff {α : Type} [Add α] [Zero α] {field : Values → Printed α} {report : Report}
    {column : iperf_stream → Printed α} {streams : List iperf_stream}
    (shown : report.streams.map field = streams.map column) :
    Sums field report ↔
      ∀ line ∈ report.sums, ∀ total, field line = .value total →
        (∃ sp ∈ streams, column sp ≠ .absent) →
          total = (streams.map fun sp => (column sp).number).sum := by
  rw [sums_columns shown]
  simp only [List.mem_map, exists_exists_and_eq_and, List.map_map, Function.comp_def]

variable {test : iperf_test} {json_output stream_must_be_sender : Bool}
  {streams : List iperf_stream}

/-- The totals when the walk is over. -/
def totals_of (test : iperf_test) (stream_must_be_sender : Bool) (streams : List iperf_stream) :
    Totals :=
  (ours stream_must_be_sender streams).foldl (add_stream test) {}

theorem print_direction_sums :
    ∃ time, (print_direction test json_output stream_must_be_sender streams).sums =
      print_sums test json_output stream_must_be_sender
        (totals_of test stream_must_be_sender streams) time := by
  unfold print_direction
  simp only [print_streams_eq]
  exact ⟨_, rfl⟩

/-- A column agrees when each total that is printed grows by the share of each stream,
and the streams' lines, where they have the column, show the shares. -/
theorem sums_of_shares {α : Type} [Add α] [Zero α]
    [Std.Associative (fun a b : α => a + b)] [Std.LawfulIdentity (fun a b : α => a + b) 0]
    {field : Values → Printed α} (total : Totals → α) (share : iperf_stream → α)
    (none_yet : total {} = 0)
    (own : ∀ sp time, sp.sender = stream_must_be_sender →
      field (stream_values test json_output sp (printed_sent test time sp)) =
        field (stream_values test json_output sp (bytes_sent sp)))
    (printed : ∀ time, ∀ line ∈ print_sums test json_output stream_must_be_sender
        (totals_of test stream_must_be_sender streams) time,
      ∀ sum, field line = .value sum → ∀ sp, sp.sender = stream_must_be_sender →
        field (stream_values test json_output sp (bytes_sent sp)) ≠ .absent →
          sum = total (totals_of test stream_must_be_sender streams) ∧
          (∀ totals sp, total (add_stream test totals sp) = total totals + share sp) ∧
          ∀ sp, sp.sender = stream_must_be_sender →
            field (stream_values test json_output sp (bytes_sent sp)) = .value (share sp)) :
    Sums field (print_direction test json_output stream_must_be_sender streams) := by
  rw [sums_iff (print_streams_column test json_output stream_must_be_sender own _ _ _ _)]
  rintro line member sum value ⟨sp, mine, present⟩
  have ⟨time, sums⟩ := @print_direction_sums test json_output stream_must_be_sender streams
  rw [sums] at member
  have ⟨eq, grows, shares⟩ := printed time line member sum value sp (mem_ours mine) present
  rw [eq, totals_of, foldl_field grows, none_yet,
    @Std.LawfulLeftIdentity.left_id α α (fun a b => a + b)]
  apply congrArg
  apply List.map_congr_left
  intro sp mine
  rw [shares sp (mem_ours mine), Printed.number]

theorem retransmits_sums :
    Sums (·.retransmits) (print_direction test json_output stream_must_be_sender streams) := by
  apply sums_of_shares (·.total_retransmits) (·.result.stream_retrans) rfl
  · grind [stream_values]
  · intro time line member sum printed sp mine present
    have ⟨stream, counted, eq⟩ : reliable test ∧ test.sender_has_retransmits ≠ 0 ∧
        sum = (totals_of test stream_must_be_sender streams).total_retransmits := by
      grind [print_sums]
    refine ⟨eq, ?_, ?_⟩
    · intro totals sp
      simp only [add_stream, if_pos stream, if_pos counted]
    · grind [stream_values]

/-- The counts of packets are columns of a report on datagrams. -/
theorem datagram_sums {field : Values → Printed Int64} (total : Totals → Int64)
    (share : iperf_stream → Int64) (none_yet : total {} = 0)
    (own : ∀ sp time, sp.sender = stream_must_be_sender →
      field (stream_values test json_output sp (printed_sent test time sp)) =
        field (stream_values test json_output sp (bytes_sent sp)))
    (printed : ∀ time, ∀ line ∈ print_sums test json_output stream_must_be_sender
        (totals_of test stream_must_be_sender streams) time,
      ∀ sum, field line = .value sum → ¬ reliable test ∧
        sum = total (totals_of test stream_must_be_sender streams) ∧
        ∀ sp, sp.sender = stream_must_be_sender →
          field (stream_values test json_output sp (bytes_sent sp)) ≠ .absent →
            ∀ sp, sp.sender = stream_must_be_sender →
              field (stream_values test json_output sp (bytes_sent sp)) = .value (share sp))
    (grows : ¬ reliable test → ∀ totals sp,
      total (add_stream test totals sp) = total totals + share sp) :
    Sums field (print_direction test json_output stream_must_be_sender streams) := by
  apply sums_of_shares total share none_yet own
  intro time line member sum value sp mine present
  have ⟨datagrams, eq, shares⟩ := printed time line member sum value
  exact ⟨eq, grows datagrams, shares sp mine present⟩

theorem packets_sums :
    Sums (·.packets) (print_direction test json_output stream_must_be_sender streams) := by
  apply datagram_sums (·.total_packets) packets rfl
  · grind [stream_values]
  · grind [stream_values, print_sums]
  · intro datagrams totals sp
    simp only [add_stream, if_neg datagrams]

theorem sender_packets_sums :
    Sums (·.sender_packets) (print_direction test json_output stream_must_be_sender streams) := by
  apply datagram_sums (·.sender_total_packets) sender_packets rfl
  · grind [stream_values]
  · grind [stream_values, print_sums]
  · intro datagrams totals sp
    simp only [add_stream, if_neg datagrams]

theorem receiver_packets_sums :
    Sums (·.receiver_packets) (print_direction test json_output stream_must_be_sender streams) := by
  apply datagram_sums (·.receiver_total_packets) receiver_packets rfl
  · grind [stream_values]
  · grind [stream_values, print_sums]
  · intro datagrams totals sp
    simp only [add_stream, if_neg datagrams]

theorem sender_lost_packets_sums :
    Sums (·.sender_lost_packets)
      (print_direction test json_output stream_must_be_sender streams) := by
  apply datagram_sums (fun _ => 0) (fun _ => 0) rfl
  · grind [stream_values]
  · grind [stream_values, print_sums]
  · exact fun _ _ _ => rfl

theorem bytes_received_sums :
    Sums (·.bytes_received) (print_direction test json_output stream_must_be_sender streams) := by
  apply sums_of_shares (·.total_received) (·.result.bytes_received) rfl
  · grind [stream_values]
  · intro time line member sum printed sp mine present
    refine ⟨by grind [print_sums], add_stream_received test, ?_⟩
    grind [stream_values]

/-- The bytes sent agree whenever the walk prints the streams' own counts. -/
theorem bytes_sent_sums
    (own : ¬ (test.role = .s ∧ test.protocol = .Pquic ∧ stream_must_be_sender = false ∧
      json_output = true)) :
    Sums (·.bytes_sent) (print_direction test json_output stream_must_be_sender streams) := by
  apply sums_of_shares (·.total_sent) bytes_sent rfl
  · grind [stream_values, printed_sent, sender_missing, reliable]
  · intro time line member sum printed sp mine present
    refine ⟨?_, add_stream_sent test, ?_⟩
    · grind [print_sums, sender_missing, stream_values, reliable]
    · grind [stream_values]

/-- The streams of a direction whose omitted count is unknown or negative. -/
def uncounted (stream_must_be_sender : Bool) (streams : List iperf_stream) : List iperf_stream :=
  (ours stream_must_be_sender streams).filter (·.omitted_cnt_error ≤ -1)

theorem lost_packets_printed (datagrams : ¬ reliable test)
    (emitted : 1 < test.num_streams ∨ json_output = true)
    (side : json_output = true ∨ ¬ (test.role = .s ∧ stream_must_be_sender = true))
    (totals : Totals) (time : Rat) :
    ∃ line ∈ print_sums test json_output stream_must_be_sender totals time,
      line.lost_packets = .value totals.lost_packets := by
  cases json : json_output with
  | true => simp [print_sums, datagrams]
  | false =>
      have many : 1 < test.num_streams := by simpa [json] using emitted
      have receives : ¬ (test.role = .s ∧ stream_must_be_sender = true) := by
        simpa [json] using side
      simp [print_sums, datagrams, many, receives]

/-- The sum line of a report on datagrams, where there is one, has the running total. -/
theorem lost_packets_sums_iff (datagrams : ¬ reliable test) :
    Sums (·.lost_packets) (print_direction test json_output stream_must_be_sender streams) ↔
      (1 < test.num_streams ∨ json_output = true →
        json_output = true ∨ ¬ (test.role = .s ∧ stream_must_be_sender = true) →
          ((ours stream_must_be_sender streams).map total_lost).sum =
            ((ours stream_must_be_sender streams).map fun sp =>
              (stream_values test json_output sp (bytes_sent sp)).lost_packets.number).sum) := by
  have own : ∀ sp time, sp.sender = stream_must_be_sender →
      (stream_values test json_output sp (printed_sent test time sp)).lost_packets =
        (stream_values test json_output sp (bytes_sent sp)).lost_packets := by
    grind [stream_values]
  have total_eq : (totals_of test stream_must_be_sender streams).lost_packets =
      ((ours stream_must_be_sender streams).map total_lost).sum := by
    rw [totals_of, lost_packets_eq datagrams, Int64.zero_add]
  rw [sums_iff (print_streams_column test json_output stream_must_be_sender own _ _ _ _)]
  have ⟨time, printed_sums⟩ := @print_direction_sums test json_output stream_must_be_sender streams
  rw [printed_sums]
  constructor
  · intro sums emitted side
    -- A direction without streams has no column, and nothing to add up.
    cases listed : ours stream_must_be_sender streams with
    | nil => rfl
    | cons sp rest =>
        have mine : sp ∈ ours stream_must_be_sender streams := by simp [listed]
        have present :
            (stream_values test json_output sp (bytes_sent sp)).lost_packets ≠ .absent := by
          grind [stream_values, mem_ours mine]
        have ⟨line, member, shown⟩ := lost_packets_printed datagrams emitted side
          (totals_of test stream_must_be_sender streams) time
        rw [← listed, ← total_eq]
        exact sums line member _ shown ⟨sp, mine, present⟩
  · intro agree line member total printed present
    have ⟨eq, emitted, side⟩ :
        total = (totals_of test stream_must_be_sender streams).lost_packets ∧
        (1 < test.num_streams ∨ json_output = true) ∧
        (json_output = true ∨ ¬ (test.role = .s ∧ stream_must_be_sender = true)) := by
      grind [print_sums]
    rw [eq, total_eq, agree emitted side]

theorem total_lost_uncounted {sp : iperf_stream} (uncounted : sp.omitted_cnt_error ≤ -1) :
    total_lost sp = sp.cnt_error := by
  rw [total_lost, if_neg (Int64.not_lt.mpr uncounted), Int64.sub_zero]

theorem total_lost_counted {sp : iperf_stream} (counted : ¬ sp.omitted_cnt_error ≤ -1) :
    total_lost sp = sp.cnt_error - sp.omitted_cnt_error := by
  rw [total_lost, if_pos (Int64.not_le.mp counted)]

/-- Shares that are what is shown, except for what some items have beside it. -/
theorem sum_beside {Item : Type} {share shown beside : Item → Int64} {p : Item → Prop}
    [DecidablePred p] {items : List Item}
    (plain : ∀ item ∈ items, ¬ p item → share item = shown item)
    (more : ∀ item ∈ items, p item → share item = shown item + beside item) :
    (items.map share).sum = (items.map shown).sum + ((items.filter p).map beside).sum := by
  induction items with
  | nil => rfl
  | cons item rest ih =>
      have sum := ih (fun other member => plain other (List.mem_cons_of_mem _ member))
        fun other member => more other (List.mem_cons_of_mem _ member)
      by_cases special : p item
      · have own := more item List.mem_cons_self special
        simp only [List.filter_cons, special, decide_true, if_true, List.map_cons, List.sum_cons,
          own, sum]
        grind
      · have own := plain item List.mem_cons_self special
        simp only [List.filter_cons, special, decide_false, if_false, List.map_cons,
          List.sum_cons, own, sum, Bool.false_eq_true]
        exact (Int64.add_assoc _ _ _).symm

/-- In an object the running total leaves out the omitted counts below 0, and the
streams' objects do not. -/
theorem lost_objects_sum (datagrams : ¬ reliable test) (streams : List iperf_stream) :
    (streams.map total_lost).sum =
      (streams.map fun sp => (stream_values test true sp (bytes_sent sp)).lost_packets.number).sum +
        ((streams.filter (·.omitted_cnt_error ≤ -1)).map (·.omitted_cnt_error)).sum := by
  have shown : ∀ sp, (stream_values test true sp (bytes_sent sp)).lost_packets.number =
      sp.cnt_error - sp.omitted_cnt_error := by
    intro sp
    simp [stream_values, datagrams, Printed.number]
  apply sum_beside
  · intro sp _ counted
    rw [shown, total_lost_counted counted]
  · intro sp _ uncounted
    rw [shown, total_lost_uncounted uncounted, Int64.sub_add_cancel]

/-- In the text the running total has the errors of the streams whose lost packets
are printed as unknown. -/
theorem lost_lines_sum (datagrams : ¬ reliable test) {streams : List iperf_stream}
    (receives : ∀ sp ∈ streams, ¬ (test.role = .s ∧ sp.sender = true)) :
    (streams.map total_lost).sum =
      (streams.map fun sp =>
        (stream_values test false sp (bytes_sent sp)).lost_packets.number).sum +
        ((streams.filter (·.omitted_cnt_error ≤ -1)).map (·.cnt_error)).sum := by
  apply sum_beside
  · intro sp member counted
    rw [total_lost_counted counted]
    simp [stream_values, datagrams, receives sp member, Int64.not_le.mp counted, Printed.number]
  · intro sp member uncounted
    rw [total_lost_uncounted uncounted]
    simp [stream_values, datagrams, receives sp member, Int64.not_lt.mpr uncounted,
      Printed.number]

theorem sum_kept_iff (whole omitted : Int64) : whole + omitted = whole ↔ omitted = 0 := by
  constructor
  · intro kept
    grind
  · rintro rfl
    exact Int64.add_zero whole

/-- In the objects of datagrams the lost packets add up when no count is negative. -/
theorem lost_objects_iff (datagrams : ¬ reliable test) :
    Sums (·.lost_packets) (print_direction test true stream_must_be_sender streams) ↔
      ((uncounted stream_must_be_sender streams).map (·.omitted_cnt_error)).sum = 0 := by
  rw [lost_packets_sums_iff datagrams, lost_objects_sum datagrams, sum_kept_iff, uncounted]
  simp

/-- In the text they do when the streams printed as unknown have no errors. -/
theorem lost_lines_iff (datagrams : ¬ reliable test) :
    Sums (·.lost_packets) (print_direction test false stream_must_be_sender streams) ↔
      (1 < test.num_streams → ¬ (test.role = .s ∧ stream_must_be_sender = true) →
        ((uncounted stream_must_be_sender streams).map (·.cnt_error)).sum = 0) := by
  rw [lost_packets_sums_iff datagrams, uncounted]
  simp only [Bool.false_eq_true, false_or, or_false]
  apply forall_congr'
  intro emitted
  apply forall_congr'
  intro receives
  have each : ∀ sp ∈ ours stream_must_be_sender streams, ¬ (test.role = .s ∧ sp.sender = true) := by
    intro sp mine
    rw [mem_ours mine]
    exact receives
  rw [lost_lines_sum datagrams each, sum_kept_iff]

end Agreement

section Substitution

/-- The streams whose count of bytes sent a QUIC server prints as it has it: while
the sender's time is positive, those whose count is not 0. The first stream
without a figure of the sender puts the receiver's time in its place. -/
def kept (sender_time receiver_time : Rat) (streams : List iperf_stream) : List iperf_stream :=
  if receiver_time ≤ 0 then
    if sender_time ≤ 0 then [] else streams.takeWhile (bytes_sent · ≠ 0)
  else (if sender_time ≤ 0 then streams.tail else streams).filter (bytes_sent · ≠ 0)

/-- The streams for which it prints what it received. -/
def replaced (sender_time receiver_time : Rat) (streams : List iperf_stream) :
    List iperf_stream :=
  if receiver_time ≤ 0 then
    if sender_time ≤ 0 then streams else streams.dropWhile (bytes_sent · ≠ 0)
  else if sender_time ≤ 0 then
    streams.take 1 ++ streams.tail.filter (bytes_sent · = 0)
  else streams.filter (bytes_sent · = 0)

/-- When its sum line shows what was received as well. -/
def total_replaced (sender_time receiver_time : Rat) (streams : List iperf_stream) : Prop :=
  (streams.map bytes_sent).sum = 0 ∨
    receiver_time ≤ 0 ∧ (sender_time ≤ 0 ∨ ∃ sp ∈ streams, bytes_sent sp = 0)

instance (sender_time receiver_time : Rat) (streams : List iperf_stream) :
    Decidable (total_replaced sender_time receiver_time streams) := by
  unfold total_replaced
  infer_instance

/-- The counts that the walk prints. -/
def sents (test : iperf_test) (receiver_time : Rat) : Rat → List iperf_stream → List UInt64
  | _, [] => []
  | sender_time, sp :: rest =>
      printed_sent test sender_time sp ::
        sents test receiver_time (printed_time test receiver_time sender_time sp) rest

theorem lines_of_sents {test : iperf_test} (stream : reliable test)
    (receiver_time sender_time : Rat) (streams : List iperf_stream) :
    (lines_of test true receiver_time sender_time streams).map (·.bytes_sent) =
      (sents test receiver_time sender_time streams).map .value := by
  induction streams generalizing sender_time with
  | nil => rfl
  | cons sp rest ih =>
      simp only [lines_of, List.map_cons, ih, sents, stream_values, if_pos stream, if_true]

variable {test : iperf_test} {receiver_time sender_time : Rat} {streams : List iperf_stream}

theorem sender_missing_iff (server : test.role = .s) (quic : test.protocol = .Pquic)
    {sp : iperf_stream} (receives : sp.sender = false) (time : Rat) :
    sender_missing test sp.sender time (bytes_sent sp) ↔ time ≤ 0 ∨ bytes_sent sp = 0 := by
  simp [sender_missing, server, quic, receives]

theorem sum_filter (share : iperf_stream → UInt64) (streams : List iperf_stream) :
    (streams.map share).sum =
      ((streams.filter (bytes_sent · ≠ 0)).map share).sum +
        ((streams.filter (bytes_sent · = 0)).map share).sum := by
  induction streams with
  | nil => rfl
  | cons sp rest ih =>
      by_cases empty : bytes_sent sp = 0 <;>
        simp only [List.filter_cons, empty, List.map_cons, List.sum_cons, ih, ne_eq, decide_true,
          decide_false, not_true, not_false_iff, if_true, if_false, Bool.false_eq_true] <;>
        grind

theorem sum_split (share : iperf_stream → UInt64) (sender_time receiver_time : Rat)
    (streams : List iperf_stream) :
    (streams.map share).sum =
      ((kept sender_time receiver_time streams).map share).sum +
        ((replaced sender_time receiver_time streams).map share).sum := by
  unfold kept replaced
  split_ifs with late early early
  · simp
  · rw [← List.sum_append, ← List.map_append, List.takeWhile_append_dropWhile]
  · cases streams with
    | nil => rfl
    | cons sp rest =>
        rw [List.map_cons, List.sum_cons, sum_filter share rest]
        simp only [List.tail_cons, List.take_succ_cons, List.take_zero, List.singleton_append,
          List.map_cons, List.sum_cons]
        grind
  · exact sum_filter share streams

/-- The two substitutions agree: what the streams' own counts add to a sum line with
the received bytes, or what the replaced counts change of one with the sent bytes. -/
def SentAgrees (sender_time receiver_time : Rat) (streams : List iperf_stream) : Prop :=
  if total_replaced sender_time receiver_time streams then
    ((kept sender_time receiver_time streams).map bytes_sent).sum =
      ((kept sender_time receiver_time streams).map (·.result.bytes_received)).sum
  else
    ((replaced sender_time receiver_time streams).map (·.result.bytes_received)).sum =
      ((replaced sender_time receiver_time streams).map bytes_sent).sum

theorem sent_agrees_nil : SentAgrees sender_time receiver_time [] := by
  unfold SentAgrees kept replaced
  split_ifs <;> rfl

section Server

variable (server : test.role = .s) (quic : test.protocol = .Pquic)

include server quic

theorem printed_own {sp : iperf_stream} (receives : sp.sender = false) (some : bytes_sent sp ≠ 0)
    (running : ¬ sender_time ≤ 0) :
    printed_sent test sender_time sp = bytes_sent sp ∧
      printed_time test receiver_time sender_time sp = sender_time := by
  have present : ¬ sender_missing test sp.sender sender_time (bytes_sent sp) := by
    simp [sender_missing_iff server quic receives, some, running]
  rw [printed_sent, printed_time, if_neg present, if_neg present]
  exact ⟨rfl, rfl⟩

theorem printed_received {sp : iperf_stream} (receives : sp.sender = false)
    (missing : sender_time ≤ 0 ∨ bytes_sent sp = 0) :
    printed_sent test sender_time sp = sp.result.bytes_received ∧
      printed_time test receiver_time sender_time sp = receiver_time := by
  have missing := (sender_missing_iff server quic receives sender_time).mpr missing
  rw [printed_sent, printed_time, if_pos missing, if_pos missing]
  exact ⟨rfl, rfl⟩

/-- Without a time of either side every count is what was received. -/
theorem sents_stopped (stopped : receiver_time ≤ 0) (early : sender_time ≤ 0)
    (receive : ∀ sp ∈ streams, sp.sender = false) :
    sents test receiver_time sender_time streams = streams.map (·.result.bytes_received) ∧
      time_after test receiver_time sender_time streams ≤ 0 := by
  induction streams generalizing sender_time with
  | nil => exact ⟨rfl, early⟩
  | cons sp rest ih =>
      have ⟨sent, time⟩ := @printed_received test receiver_time sender_time server quic sp
        (receive sp List.mem_cons_self) (.inl early)
      have later := @ih receiver_time stopped fun other member =>
        receive other (List.mem_cons_of_mem _ member)
      simp only [sents, time_after, sent, time, List.map_cons, later.1, true_and]
      exact later.2

/-- With the times of both sides the counts that are 0 are replaced. -/
theorem sents_running (receiving : ¬ receiver_time ≤ 0) (running : ¬ sender_time ≤ 0)
    (receive : ∀ sp ∈ streams, sp.sender = false) :
    (sents test receiver_time sender_time streams).sum =
        ((streams.filter (bytes_sent · ≠ 0)).map bytes_sent).sum +
          ((streams.filter (bytes_sent · = 0)).map (·.result.bytes_received)).sum ∧
      ¬ time_after test receiver_time sender_time streams ≤ 0 := by
  induction streams generalizing sender_time with
  | nil => exact ⟨rfl, running⟩
  | cons sp rest ih =>
      have head := receive sp List.mem_cons_self
      have tail := fun other member => receive other (List.mem_cons_of_mem sp member)
      by_cases empty : bytes_sent sp = 0
      · have ⟨sent, time⟩ := @printed_received test receiver_time sender_time server quic sp head
          (.inr empty)
        have later := @ih receiver_time receiving tail
        simp only [sents, time_after, sent, time, List.sum_cons, later.1, List.filter_cons, empty,
          ne_eq, not_true, decide_false, decide_true, if_true, if_false, Bool.false_eq_true,
          List.map_cons]
        constructor
        · grind
        · exact later.2
      · have ⟨sent, time⟩ := @printed_own test receiver_time sender_time server quic sp head empty
          running
        have later := @ih sender_time running tail
        simp only [sents, time_after, sent, time, List.sum_cons, later.1, List.filter_cons, empty,
          ne_eq, not_false_iff, decide_false, decide_true, if_true, if_false, Bool.false_eq_true,
          List.map_cons]
        constructor
        · grind
        · exact later.2

/-- Without the receiver's time every count is replaced from the first that is 0 on. -/
theorem sents_interrupted (stopped : receiver_time ≤ 0) (running : ¬ sender_time ≤ 0)
    (receive : ∀ sp ∈ streams, sp.sender = false) :
    (sents test receiver_time sender_time streams).sum =
        ((streams.takeWhile (bytes_sent · ≠ 0)).map bytes_sent).sum +
          ((streams.dropWhile (bytes_sent · ≠ 0)).map (·.result.bytes_received)).sum ∧
      (time_after test receiver_time sender_time streams ≤ 0 ↔
        ∃ sp ∈ streams, bytes_sent sp = 0) := by
  induction streams with
  | nil =>
      constructor
      · rfl
      · simp [time_after, running]
  | cons sp rest ih =>
      have head := receive sp List.mem_cons_self
      have tail := fun other member => receive other (List.mem_cons_of_mem sp member)
      by_cases empty : bytes_sent sp = 0
      · have ⟨sent, time⟩ := @printed_received test receiver_time sender_time server quic sp head
          (.inr empty)
        have later := @sents_stopped test receiver_time receiver_time rest server quic stopped
          stopped tail
        constructor
        · simp [sents, sent, time, later.1, empty]
        · simp [time_after, time, later.2, empty]
      · have ⟨sent, time⟩ := @printed_own test receiver_time sender_time server quic sp head empty
          running
        have later := ih tail
        constructor
        · simp [sents, sent, time, later.1, empty, UInt64.add_assoc]
        · simp [time_after, time, later.2, empty]

theorem sents_sum (receive : ∀ sp ∈ streams, sp.sender = false) :
    (sents test receiver_time sender_time streams).sum =
      ((kept sender_time receiver_time streams).map bytes_sent).sum +
        ((replaced sender_time receiver_time streams).map (·.result.bytes_received)).sum := by
  unfold kept replaced
  split_ifs with stopped early early
  · simp [(sents_stopped server quic stopped early receive).1]
  · exact (sents_interrupted server quic stopped early receive).1
  · cases streams with
    | nil => rfl
    | cons sp rest =>
        have ⟨sent, time⟩ := @printed_received test receiver_time sender_time server quic sp
          (receive sp List.mem_cons_self) (.inl early)
        have later := @sents_running test receiver_time receiver_time rest server quic stopped
          stopped fun other member => receive other (List.mem_cons_of_mem _ member)
        simp only [sents, sent, time, List.sum_cons, later.1, List.tail_cons, List.take_succ_cons,
          List.take_zero, List.singleton_append, List.map_cons]
        grind
  · exact (sents_running server quic stopped early receive).1

theorem total_replaced_iff (some : streams ≠ [])
    (receive : ∀ sp ∈ streams, sp.sender = false) :
    time_after test receiver_time sender_time streams ≤ 0 ∨ (streams.map bytes_sent).sum = 0 ↔
      total_replaced sender_time receiver_time streams := by
  have time : time_after test receiver_time sender_time streams ≤ 0 ↔
      receiver_time ≤ 0 ∧ (sender_time ≤ 0 ∨ ∃ sp ∈ streams, bytes_sent sp = 0) := by
    by_cases stopped : receiver_time ≤ 0
    · by_cases early : sender_time ≤ 0
      · simp only [stopped, early, true_or, and_self, iff_true]
        exact (sents_stopped server quic stopped early receive).2
      · simpa [stopped, early] using (sents_interrupted server quic stopped early receive).2
    · simp only [stopped, false_and, iff_false]
      by_cases early : sender_time ≤ 0
      · cases streams with
        | nil => exact absurd rfl some
        | cons sp rest =>
            have ⟨_, time⟩ := @printed_received test receiver_time sender_time server quic sp
              (receive sp List.mem_cons_self) (.inl early)
            rw [time_after, time]
            exact (@sents_running test receiver_time receiver_time rest server quic stopped stopped
              fun other member => receive other (List.mem_cons_of_mem _ member)).2
      · exact (sents_running server quic stopped early receive).2
  rw [time, total_replaced, or_comm]

theorem sent_agrees_iff (some : streams ≠ []) (receive : ∀ sp ∈ streams, sp.sender = false)
    (totals : Totals) (sent : totals.total_sent = (streams.map bytes_sent).sum)
    (received : totals.total_received = (streams.map (·.result.bytes_received)).sum) :
    (if sender_missing test false (time_after test receiver_time sender_time streams)
          totals.total_sent then totals.total_received
      else totals.total_sent) = (sents test receiver_time sender_time streams).sum ↔
      SentAgrees sender_time receiver_time streams := by
  have missing : sender_missing test false (time_after test receiver_time sender_time streams)
      totals.total_sent ↔ total_replaced sender_time receiver_time streams := by
    rw [← total_replaced_iff server quic some receive, ← sent]
    simp [sender_missing, server, quic]
  rw [sents_sum server quic receive, SentAgrees]
  by_cases replace_total : total_replaced sender_time receiver_time streams
  · rw [if_pos (missing.mpr replace_total), if_pos replace_total, received,
      sum_split _ sender_time receiver_time, UInt64.add_left_inj, eq_comm]
  · rw [if_neg (mt missing.mp replace_total), if_neg replace_total, sent,
      sum_split _ sender_time receiver_time, UInt64.add_right_inj, eq_comm]

end Server

theorem quic_objects_iff (server : test.role = .s) (quic : test.protocol = .Pquic) :
    Sums (·.bytes_sent) (print_direction test true false streams) ↔
      SentAgrees (first_sender_time streams) (first_receiver_time streams)
        (ours false streams) := by
  have stream : reliable test := .inr (.inr quic)
  have receive : ∀ sp ∈ ours false streams, sp.sender = false := fun sp => mem_ours
  have sent : (totals_of test false streams).total_sent =
      ((ours false streams).map bytes_sent).sum := by
    rw [totals_of, foldl_field (add_stream_sent test), UInt64.zero_add]
  have received : (totals_of test false streams).total_received =
      ((ours false streams).map (·.result.bytes_received)).sum := by
    rw [totals_of, foldl_field (add_stream_received test), UInt64.zero_add]
  have shown : (print_direction test true false streams).streams.map (·.bytes_sent) =
      (sents test (first_receiver_time streams) (first_sender_time streams)
        (ours false streams)).map .value := by
    rw [print_direction, print_streams_eq]
    exact lines_of_sents stream _ _ _
  rw [sums_columns shown]
  simp only [print_direction, print_streams_eq, ← totals_of.eq_def]
  by_cases some : ours false streams = []
  · simp [some, sents, sent_agrees_nil]
  · rw [← sent_agrees_iff server quic some receive _ sent received]
    have numbers : Printed.number ∘ Printed.value = (id : UInt64 → UInt64) := rfl
    have some_count : ∃ count, count ∈ sents test (first_receiver_time streams)
        (first_sender_time streams) (ours false streams) := by
      cases listed : ours false streams with
      | nil => exact absurd listed some
      | cons sp rest => exact ⟨_, List.mem_cons_self⟩
    simp only [print_sums, stream, numbers, or_true, not_true, if_true, if_false, true_or,
      List.singleton_append, List.forall_mem_cons, List.mem_map, List.map_map, List.map_id,
      exists_exists_and_eq_and, ne_eq, reduceCtorEq, not_false_iff, and_true, Printed.value.injEq,
      forall_eq', some_count, true_imp_iff, List.not_mem_nil, IsEmpty.forall_iff, implies_true]

end Substitution

section Unknown

/-- The stream with nothing omitted in the place of an unknown count. -/
def known (sp : iperf_stream) : iperf_stream :=
  if sp.omitted_cnt_error = -1 then { sp with omitted_cnt_error := 0 } else sp

/-- A value that a line shows is the value that the other line shows. -/
def Keeps {α : Type} (actual other : Printed α) : Prop :=
  ∀ number, actual = .value number → other = .value number

structure SameLoss {Bytes Count : Type} (actual other : Line Bytes Count) : Prop where
  lost_packets : Keeps actual.lost_packets other.lost_packets
  lost_percent : Keeps actual.lost_percent other.lost_percent

/-- Each lost count and percentage of one report is that of the other. -/
structure Unaffected {Bytes Count : Type} (actual other : Table Bytes Count) : Prop where
  streams : List.Forall₂ SameLoss actual.streams other.streams
  sums : List.Forall₂ SameLoss actual.sums other.sums

variable {test : iperf_test} {json_output stream_must_be_sender : Bool}

theorem same_loss_refl (line : Values) : SameLoss line line :=
  ⟨fun _ shown => shown, fun _ shown => shown⟩

@[simp] theorem known_sender (sp : iperf_stream) : (known sp).sender = sp.sender := by
  unfold known
  split <;> rfl

@[simp] theorem known_result (sp : iperf_stream) : (known sp).result = sp.result := by
  unfold known
  split <;> rfl

/-- The totals take an unknown count for nothing omitted. -/
theorem add_stream_known (totals : Totals) (sp : iperf_stream) :
    add_stream test totals (known sp) = add_stream test totals sp := by
  unfold known
  split_ifs with missing
  · have nothing : (-1 : Int64) < 0 := by decide
    simp only [add_stream, missing, nothing, Int64.lt_irrefl, if_true, if_false, Int64.sub_zero]
    rfl
  · rfl

/-- Only the object of a stream of datagrams shows a lost count in which an unknown
omitted count is taken for a number. -/
theorem stream_values_known (sp : iperf_stream) (sent : UInt64) :
    SameLoss (stream_values test json_output sp sent)
        (stream_values test json_output (known sp) sent) ↔
      (¬ reliable test → json_output = true → sp.omitted_cnt_error ≠ -1) := by
  constructor
  · intro same datagrams json missing
    have lost := same.lost_packets (sp.cnt_error - sp.omitted_cnt_error)
      (by simp [stream_values, datagrams, json])
    have other : (stream_values test json_output (known sp) sent).lost_packets =
        .value (sp.cnt_error - 0) := by
      simp [stream_values, datagrams, json, known, missing]
    rw [other, missing, Printed.value.injEq] at lost
    have differ : (0 : Int64) ≠ -1 := by decide
    grind
  · intro counted
    by_cases missing : sp.omitted_cnt_error = -1
    · constructor
      · grind [stream_values, Keeps]
      · grind [stream_values, Keeps]
    · rw [known, if_neg missing]
      exact same_loss_refl _

theorem printed_sent_known (time : Rat) (sp : iperf_stream) :
    printed_sent test time (known sp) = printed_sent test time sp := by
  unfold known
  split <;> rfl

theorem printed_time_known (received time : Rat) (sp : iperf_stream) :
    printed_time test received time (known sp) = printed_time test received time sp := by
  unfold known
  split <;> rfl

/-- The two walks go side by side. -/
theorem print_streams_known (received time : Rat) (totals : Totals)
    (streams : List iperf_stream) :
    let actual := print_streams test json_output stream_must_be_sender received totals time streams
    let other := print_streams test json_output stream_must_be_sender received totals time
      (streams.map known)
    other.totals = actual.totals ∧ other.sender_time = actual.sender_time ∧
      (List.Forall₂ SameLoss actual.lines other.lines ↔
        ∀ sp ∈ ours stream_must_be_sender streams,
          ¬ reliable test → json_output = true → sp.omitted_cnt_error ≠ -1) := by
  induction streams generalizing totals time with
  | nil =>
      simp [print_streams, ours]
  | cons sp rest ih =>
      by_cases mine : sp.sender = stream_must_be_sender
      · have later := ih (printed_time test received time sp) (add_stream test totals sp)
        simp only [print_streams, List.map_cons, known_sender, mine, if_true, printed_sent_known,
          printed_time_known, add_stream_known, List.forall₂_cons, later, stream_values_known,
          true_and, ours, List.filter_cons, decide_true, List.forall_mem_cons]
      · have later := ih time totals
        simp only [print_streams, List.map_cons, known_sender, mine, if_false, later, true_and,
          ours, List.filter_cons, decide_false, Bool.false_eq_true]

theorem first_times_known (streams : List iperf_stream) :
    first_sender_time (streams.map known) = first_sender_time streams ∧
      first_receiver_time (streams.map known) = first_receiver_time streams := by
  cases streams <;> simp [first_sender_time, first_receiver_time]

/-- An unknown count shows in the objects of the streams of datagrams alone. -/
theorem unaffected_iff (streams : List iperf_stream) :
    Unaffected (print_direction test json_output stream_must_be_sender streams)
        (print_direction test json_output stream_must_be_sender (streams.map known)) ↔
      ∀ sp ∈ ours stream_must_be_sender streams,
        ¬ reliable test → json_output = true → sp.omitted_cnt_error ≠ -1 := by
  have ⟨totals, time, lines⟩ := @print_streams_known test json_output stream_must_be_sender
    (first_receiver_time streams) (first_sender_time streams) {} streams
  have ⟨sender, receiver⟩ := first_times_known streams
  rw [← lines]
  constructor
  · intro same
    simpa only [print_direction, sender, receiver] using same.streams
  · intro same
    constructor
    · simpa only [print_direction, sender, receiver] using same
    · simp only [print_direction, sender, receiver, totals, time]
      apply List.forall₂_same.mpr
      intro line _
      exact same_loss_refl line

end Unknown

section Exactness

/-- The words of a column, with the numbers that they stand for. -/
structure Counter (α : Type) [Add α] [Zero α] where
  value : α → Int
  zero : value 0 = 0
  add : ∀ a b, (value a).natAbs + (value b).natAbs ≤ 2 ^ 53 → value (a + b) = value a + value b
  injective : ∀ a b, value a = value b → a = b

def byte_counter : Counter UInt64 where
  value bytes := bytes.toNat
  zero := rfl
  add a b small := by
    have sum : (a + b).toNat = a.toNat + b.toNat := by
      rw [UInt64.toNat_add]
      omega
    simp [sum]
  injective a b same := UInt64.toNat.inj (by exact_mod_cast same)

def packet_counter : Counter Int64 where
  value := Int64.toInt
  zero := rfl
  add a b small := by
    rw [Int64.toInt_add]
    exact Int.bmod_eq_of_le (by omega) (by omega)
  injective _ _ same := Int64.toInt_inj.mp same

theorem double_exact {count : Int} (small : count.natAbs ≤ 2 ^ 53) : double count = count := by
  apply nearest_self
  apply representable_int (by decide)
  rw [Int.abs_eq_natAbs]
  exact_mod_cast small

theorem emit_bytes_exact (json_output : Bool) (bytes : UInt64)
    (small : (byte_counter.value bytes).natAbs ≤ 2 ^ 53) :
    emit_bytes json_output bytes = byte_counter.value bytes := by
  have fits : bytes.toNat ≤ 2 ^ 53 := by simpa [byte_counter] using small
  have signed : bytes.toInt64.toInt = bytes.toNat := by
    have word : bytes.toInt64.toInt = (bytes.toNat : Int).bmod (2 ^ 64) :=
      BitVec.toInt_eq_toNat_bmod bytes.toBitVec
    rw [word]
    exact Int.bmod_eq_of_le (by omega) (by omega)
  unfold emit_bytes
  split
  · rw [signed]
    exact double_exact (by simpa using fits)
  · exact double_exact (by simpa using fits)

theorem emit_count_exact (json_output : Bool) (count : Int64)
    (small : (packet_counter.value count).natAbs ≤ 2 ^ 53) :
    emit_count json_output count = packet_counter.value count := by
  unfold emit_count
  split
  · exact double_exact small
  · rfl

section Columns
variable {α : Type} {f : α → Rat}

theorem map_absent {printed : Printed α} : printed.map f = .absent ↔ printed = .absent := by
  cases printed <;> simp [Printed.map]

theorem map_value {printed : Printed α} {shown : Rat} :
    printed.map f = .value shown ↔ ∃ number, printed = .value number ∧ f number = shown := by
  cases printed <;> simp [Printed.map]

theorem map_number [Zero α] (zero : f 0 = 0) (printed : Printed α) :
    (printed.map f).number = f printed.number := by
  cases printed <;> simp [Printed.map, Printed.number, zero]

variable [Add α] [Zero α] {counter : Counter α}

/-- Words that are small in sum add up without a carry. -/
theorem counter_sum {words : List α}
    (small : (words.map fun word => (counter.value word).natAbs).sum ≤ 2 ^ 53) :
    counter.value words.sum = (words.map counter.value).sum ∧
      (counter.value words.sum).natAbs ≤
        (words.map fun word => (counter.value word).natAbs).sum := by
  induction words with
  | nil => simp [counter.zero]
  | cons word rest ih =>
      simp only [List.map_cons, List.sum_cons] at small ⊢
      obtain ⟨sum, least⟩ := ih (by omega)
      rw [counter.add word rest.sum (by omega), ← sum]
      exact ⟨rfl, by omega⟩

/-- What is printed of the words then adds up as well. -/
theorem emitted_sum
    (exact_ : ∀ word, (counter.value word).natAbs ≤ 2 ^ 53 → f word = counter.value word)
    {words : List α} (small : (words.map fun word => (counter.value word).natAbs).sum ≤ 2 ^ 53) :
    (words.map f).sum = counter.value words.sum := by
  rw [(counter_sum small).1]
  induction words with
  | nil => simp
  | cons word rest ih =>
      simp only [List.map_cons, List.sum_cons] at small ⊢
      rw [exact_ word (by omega), ih (by omega)]
      push_cast
      rfl

/-- In a column of small numbers, what is printed adds up exactly when the words do. -/
theorem sums_emitted {json_output : Bool} {report : Report} {field : Values → Printed α}
    {shown : Line Rat Rat → Printed Rat}
    (exact_ : ∀ word, (counter.value word).natAbs ≤ 2 ^ 53 → f word = counter.value word)
    (printed : ∀ line, shown (emit_line json_output line) = (field line).map f)
    (lines : (report.streams.map fun line =>
      (counter.value (field line).number).natAbs).sum ≤ 2 ^ 53)
    (sums : ∀ line ∈ report.sums, (counter.value (field line).number).natAbs ≤ 2 ^ 53) :
    Sums shown (emit json_output report) ↔ Sums field report := by
  have zero : f 0 = 0 := by
    rw [exact_ 0 (by simp [counter.zero]), counter.zero]
    rfl
  have small : ((report.streams.map fun line => (field line).number).map fun word =>
      (counter.value word).natAbs).sum ≤ 2 ^ 53 := by
    rw [List.map_map]
    exact lines
  have whole := (counter_sum small).2.trans small
  have shares : ((emit json_output report).streams.map fun line => (shown line).number).sum =
      counter.value (report.streams.map fun line => (field line).number).sum := by
    rw [← emitted_sum exact_ small]
    simp only [emit, List.map_map, Function.comp_def, printed, map_number zero]
  have columns : (∃ line ∈ (emit json_output report).streams, shown line ≠ .absent) ↔
      ∃ line ∈ report.streams, field line ≠ .absent := by
    simp only [emit, List.mem_map, exists_exists_and_eq_and, printed, ne_eq, map_absent]
  have same : ∀ line ∈ report.sums, ∀ total, field line = .value total →
      (f total = counter.value (report.streams.map fun line => (field line).number).sum ↔
        total = (report.streams.map fun line => (field line).number).sum) := by
    intro line member total value
    have fits := sums line member
    rw [value, Printed.number] at fits
    rw [exact_ total fits]
    constructor
    · intro equal
      exact counter.injective _ _ (by exact_mod_cast equal)
    · rintro rfl
      rfl
  constructor
  · intro agree line member total value present
    have emitted := agree (emit_line json_output line) (List.mem_map_of_mem member) (f total)
      (by rw [printed, value]; rfl) (columns.mpr present)
    rw [shares] at emitted
    exact (same line member total value).mp emitted
  · intro agree line member total value present
    obtain ⟨line, own, rfl⟩ := List.mem_map.mp member
    rw [printed, map_value] at value
    obtain ⟨number, value, rfl⟩ := value
    rw [shares, same line own number value]
    exact agree line own number value (columns.mp present)

end Columns

def errors (sp : iperf_stream) : Nat :=
  sp.cnt_error.toInt.natAbs + sp.omitted_cnt_error.toInt.natAbs

/-- The numbers of the streams, added up, are whole numbers that a double holds. -/
structure Small (streams : List iperf_stream) : Prop where
  bytes : (streams.map fun sp =>
    (bytes_sent sp).toNat + sp.result.bytes_received.toNat).sum ≤ 2 ^ 53
  retransmits : (streams.map fun sp => sp.result.stream_retrans.toInt.natAbs).sum ≤ 2 ^ 53
  packets : (streams.map fun sp => (packets sp).toInt.natAbs).sum ≤ 2 ^ 53
  sender_packets : (streams.map fun sp => (sender_packets sp).toInt.natAbs).sum ≤ 2 ^ 53
  receiver_packets : (streams.map fun sp => (receiver_packets sp).toInt.natAbs).sum ≤ 2 ^ 53
  errors : (streams.map errors).sum ≤ 2 ^ 53

variable {test : iperf_test} {json_output stream_must_be_sender : Bool}
  {streams : List iperf_stream} {α : Type} [Add α] [Zero α] {counter : Counter α}

theorem ours_small (stream_must_be_sender : Bool) {bound : iperf_stream → Nat}
    (small : (streams.map bound).sum ≤ 2 ^ 53) :
    ((ours stream_must_be_sender streams).map bound).sum ≤ 2 ^ 53 := by
  have part : List.Sublist ((ours stream_must_be_sender streams).map bound) (streams.map bound) :=
    List.filter_sublist.map bound
  exact (part.sum_le_sum fun _ _ => Nat.zero_le _).trans small

theorem lines_small {field : Values → Printed α} {bound : iperf_stream → Nat}
    (each : ∀ sp time, (counter.value (field (stream_values test json_output sp
      (printed_sent test time sp))).number).natAbs ≤ bound sp)
    (receiver_time sender_time : Rat) :
    ((lines_of test json_output receiver_time sender_time streams).map fun line =>
      (counter.value (field line).number).natAbs).sum ≤ (streams.map bound).sum := by
  induction streams generalizing sender_time with
  | nil => simp [lines_of]
  | cons sp rest ih =>
      simp only [lines_of, List.map_cons, List.sum_cons]
      exact Nat.add_le_add (each sp sender_time) (ih _)

theorem total_small {total : Totals → α} {share : iperf_stream → α} {bound : iperf_stream → Nat}
    [Std.Associative (fun a b : α => a + b)] [Std.LawfulIdentity (fun a b : α => a + b) 0]
    (none_yet : total {} = 0)
    (grows : ∀ totals sp, total (add_stream test totals sp) = total totals + share sp)
    (each : ∀ sp, (counter.value (share sp)).natAbs ≤ bound sp)
    (small : (streams.map bound).sum ≤ 2 ^ 53) :
    (counter.value (total (totals_of test stream_must_be_sender streams))).natAbs ≤ 2 ^ 53 := by
  have least : (((ours stream_must_be_sender streams).map share).map fun word =>
      (counter.value word).natAbs).sum ≤ 2 ^ 53 := by
    rw [List.map_map]
    exact (List.sum_le_sum fun sp _ => each sp).trans (ours_small stream_must_be_sender small)
  rw [totals_of, foldl_field grows, none_yet, @Std.LawfulLeftIdentity.left_id α α (fun a b => a + b)]
  exact (counter_sum least).2.trans least

/-- A column is printed as the walk has it. -/
theorem column_emitted {field : Values → Printed α} {shown : Line Rat Rat → Printed Rat}
    {f : α → Rat} (bound : iperf_stream → Nat)
    (exact_ : ∀ word, (counter.value word).natAbs ≤ 2 ^ 53 → f word = counter.value word)
    (printed : ∀ line, shown (emit_line json_output line) = (field line).map f)
    (each : ∀ sp time, (counter.value (field (stream_values test json_output sp
      (printed_sent test time sp))).number).natAbs ≤ bound sp)
    (small : (streams.map bound).sum ≤ 2 ^ 53)
    (sums : ∀ time, ∀ line ∈ print_sums test json_output stream_must_be_sender
      (totals_of test stream_must_be_sender streams) time,
      (counter.value (field line).number).natAbs ≤ 2 ^ 53) :
    Sums shown
        (emit json_output (print_direction test json_output stream_must_be_sender streams)) ↔
      Sums field (print_direction test json_output stream_must_be_sender streams) := by
  apply sums_emitted exact_ printed
  · unfold print_direction
    rw [print_streams_eq]
    exact (lines_small each _ _).trans (ours_small stream_must_be_sender small)
  · obtain ⟨time, all⟩ := @print_direction_sums test json_output stream_must_be_sender streams
    rw [all]
    exact sums time

theorem totals_bytes_small (small : Small streams) :
    (byte_counter.value (totals_of test stream_must_be_sender streams).total_sent).natAbs ≤ 2 ^ 53 ∧
      (byte_counter.value
        (totals_of test stream_must_be_sender streams).total_received).natAbs ≤ 2 ^ 53 := by
  constructor
  · apply total_small rfl (add_stream_sent test) _ small.bytes
    intro sp
    simp [byte_counter]
  · apply total_small rfl (add_stream_received test) _ small.bytes
    intro sp
    simp [byte_counter]

theorem bytes_sent_emitted (small : Small streams) :
    Sums (·.bytes_sent)
        (emit json_output (print_direction test json_output stream_must_be_sender streams)) ↔
      Sums (·.bytes_sent) (print_direction test json_output stream_must_be_sender streams) := by
  obtain ⟨sent, received⟩ := @totals_bytes_small test stream_must_be_sender streams small
  apply column_emitted _ (emit_bytes_exact json_output) (fun _ => rfl) _ small.bytes
  · intro time line member
    have cases : line.bytes_sent = .absent ∨
        line.bytes_sent = .value (totals_of test stream_must_be_sender streams).total_sent ∨
        line.bytes_sent = .value (totals_of test stream_must_be_sender streams).total_received := by
      grind [print_sums]
    rcases cases with none | own | other
    · rw [none]
      decide
    · rw [own]
      exact sent
    · rw [other]
      exact received
  · intro sp time
    have each : (stream_values test json_output sp (printed_sent test time sp)).bytes_sent.number =
        0 ∨ (stream_values test json_output sp (printed_sent test time sp)).bytes_sent.number =
        bytes_sent sp ∨ (stream_values test json_output sp
          (printed_sent test time sp)).bytes_sent.number = sp.result.bytes_received := by
      grind [stream_values, Printed.number, printed_sent]
    simp only [byte_counter]
    rcases each with none | own | other
    · simp [none]
    · simp [own]
    · simp [other]

theorem bytes_received_emitted (small : Small streams) :
    Sums (·.bytes_received)
        (emit json_output (print_direction test json_output stream_must_be_sender streams)) ↔
      Sums (·.bytes_received) (print_direction test json_output stream_must_be_sender streams) := by
  have received := (@totals_bytes_small test stream_must_be_sender streams small).2
  apply column_emitted _ (emit_bytes_exact json_output) (fun _ => rfl) _ small.bytes
  · intro time line member
    have cases : line.bytes_received = .absent ∨ line.bytes_received =
        .value (totals_of test stream_must_be_sender streams).total_received := by
      grind [print_sums]
    rcases cases with none | own
    · rw [none]
      decide
    · rw [own]
      exact received
  · intro sp time
    have each : (stream_values test json_output sp
        (printed_sent test time sp)).bytes_received.number = 0 ∨
        (stream_values test json_output sp (printed_sent test time sp)).bytes_received.number =
          sp.result.bytes_received := by
      grind [stream_values, Printed.number]
    simp only [byte_counter]
    rcases each with none | own
    · simp [none]
    · simp [own]

/-- The counts of packets, errors and retransmissions: each is a share of the stream
that its total takes, or is not printed. -/
theorem count_emitted {field : Values → Printed Int64} {shown : Line Rat Rat → Printed Rat}
    (bound : iperf_stream → Nat) (small : (streams.map bound).sum ≤ 2 ^ 53)
    (printed : ∀ line, shown (emit_line json_output line) =
      (field line).map (emit_count json_output))
    (each : ∀ sp time, ((field (stream_values test json_output sp
      (printed_sent test time sp))).number).toInt.natAbs ≤ bound sp)
    {total : Totals → Int64} {share : iperf_stream → Int64} (none_yet : total {} = 0)
    (grows : ∀ totals sp, total (add_stream test totals sp) = total totals + share sp)
    (shares : ∀ sp, (share sp).toInt.natAbs ≤ bound sp)
    (sums : ∀ totals time, ∀ line ∈ print_sums test json_output stream_must_be_sender totals time,
      (field line).number = 0 ∨ (field line).number = total totals) :
    Sums shown
        (emit json_output (print_direction test json_output stream_must_be_sender streams)) ↔
      Sums field (print_direction test json_output stream_must_be_sender streams) := by
  have least := @total_small test stream_must_be_sender streams Int64 _ _ packet_counter total share
    bound _ _ none_yet grows shares small
  apply column_emitted bound (emit_count_exact json_output) printed each small
  intro time line member
  rcases sums _ time line member with none | all
  · rw [none]
    decide
  · rw [all]
    exact least

theorem retransmits_emitted (small : Small streams) :
    Sums (·.retransmits)
        (emit json_output (print_direction test json_output stream_must_be_sender streams)) ↔
      Sums (·.retransmits) (print_direction test json_output stream_must_be_sender streams) := by
  apply @count_emitted test json_output stream_must_be_sender streams _ _ _ small.retransmits
    (fun _ => rfl) _ (·.total_retransmits)
    (fun sp => if reliable test ∧ test.sender_has_retransmits ≠ 0 then sp.result.stream_retrans
      else 0) rfl
  · intro totals sp
    grind [add_stream]
  · intro sp
    split
    · exact le_rfl
    · exact Nat.zero_le _
  · grind [print_sums, Printed.number]
  · intro sp time
    have each : (stream_values test json_output sp (printed_sent test time sp)).retransmits =
        .absent ∨ (stream_values test json_output sp (printed_sent test time sp)).retransmits =
          .value sp.result.stream_retrans := by
      grind [stream_values]
    rcases each with none | own
    · rw [none]
      exact Nat.zero_le _
    · rw [own]
      exact le_rfl

/-- The counts that only datagrams have. -/
theorem datagrams_emitted {field : Values → Printed Int64} {shown : Line Rat Rat → Printed Rat}
    {total : Totals → Int64} {share column : iperf_stream → Int64} {bound : iperf_stream → Nat}
    (small : (streams.map bound).sum ≤ 2 ^ 53)
    (printed : ∀ line, shown (emit_line json_output line) =
      (field line).map (emit_count json_output))
    (none_yet : total {} = 0)
    (shares : ∀ sp, (share sp).toInt.natAbs ≤ bound sp)
    (columns : ∀ sp, (column sp).toInt.natAbs ≤ bound sp)
    (grows : ∀ totals sp, total (add_stream test totals sp) =
      total totals + if reliable test then 0 else share sp)
    (sums : ∀ totals time, ∀ line ∈ print_sums test json_output stream_must_be_sender totals time,
      field line = .absent ∨ field line = .value (total totals))
    (each : ∀ sp time,
      field (stream_values test json_output sp (printed_sent test time sp)) = .absent ∨
      field (stream_values test json_output sp (printed_sent test time sp)) = .unknown ∨
      field (stream_values test json_output sp (printed_sent test time sp)) = .value (column sp)) :
    Sums shown
        (emit json_output (print_direction test json_output stream_must_be_sender streams)) ↔
      Sums field (print_direction test json_output stream_must_be_sender streams) := by
  apply count_emitted bound small printed _ none_yet grows
  · intro sp
    split
    · exact Nat.zero_le _
    · exact shares sp
  · intro totals time line member
    rcases sums totals time line member with none | all
    · rw [none]
      exact .inl rfl
    · rw [all]
      exact .inr rfl
  · intro sp time
    rcases each sp time with none | none | own
    · rw [none]
      exact Nat.zero_le _
    · rw [none]
      exact Nat.zero_le _
    · rw [own]
      exact columns sp

theorem packets_emitted (small : Small streams) :
    Sums (·.packets)
        (emit json_output (print_direction test json_output stream_must_be_sender streams)) ↔
      Sums (·.packets) (print_direction test json_output stream_must_be_sender streams) := by
  apply @datagrams_emitted test json_output stream_must_be_sender streams _ _ (·.total_packets)
    packets packets _ small.packets (fun _ => rfl) rfl
  · exact fun sp => le_rfl
  · exact fun sp => le_rfl
  · grind [add_stream]
  · grind [print_sums]
  · grind [stream_values]

theorem sender_packets_emitted (small : Small streams) :
    Sums (·.sender_packets)
        (emit json_output (print_direction test json_output stream_must_be_sender streams)) ↔
      Sums (·.sender_packets) (print_direction test json_output stream_must_be_sender streams) := by
  apply @datagrams_emitted test json_output stream_must_be_sender streams _ _ (·.sender_total_packets)
    sender_packets sender_packets _ small.sender_packets (fun _ => rfl) rfl
  · exact fun sp => le_rfl
  · exact fun sp => le_rfl
  · grind [add_stream]
  · grind [print_sums]
  · grind [stream_values]

theorem receiver_packets_emitted (small : Small streams) :
    Sums (·.receiver_packets)
        (emit json_output (print_direction test json_output stream_must_be_sender streams)) ↔
      Sums (·.receiver_packets) (print_direction test json_output stream_must_be_sender streams) := by
  apply @datagrams_emitted test json_output stream_must_be_sender streams _ _ (·.receiver_total_packets)
    receiver_packets receiver_packets _ small.receiver_packets (fun _ => rfl) rfl
  · exact fun sp => le_rfl
  · exact fun sp => le_rfl
  · grind [add_stream]
  · grind [print_sums]
  · grind [stream_values]

/-- A word is no larger than the number that it is the remainder of. -/
theorem natAbs_sub_le (a b : Int64) : (a - b).toInt.natAbs ≤ a.toInt.natAbs + b.toInt.natAbs := by
  have least := (a - b).le_toInt
  have most := (a - b).toInt_lt
  rw [Int64.toInt_sub] at *
  by_cases fits : -2 ^ 63 ≤ a.toInt - b.toInt ∧ a.toInt - b.toInt < 2 ^ 63
  · rw [Int.bmod_eq_of_le (by omega) (by omega)]
    omega
  · omega

theorem total_lost_le (sp : iperf_stream) : (total_lost sp).toInt.natAbs ≤ errors sp := by
  have least := natAbs_sub_le sp.cnt_error (if -1 < sp.omitted_cnt_error then
    sp.omitted_cnt_error else 0)
  have zero : (0 : Int64).toInt.natAbs = 0 := rfl
  grind [total_lost, errors]

theorem lost_packets_emitted (small : Small streams) :
    Sums (·.lost_packets)
        (emit json_output (print_direction test json_output stream_must_be_sender streams)) ↔
      Sums (·.lost_packets) (print_direction test json_output stream_must_be_sender streams) := by
  apply @datagrams_emitted test json_output stream_must_be_sender streams _ _ (·.lost_packets)
    total_lost (fun sp => sp.cnt_error - sp.omitted_cnt_error) _ small.errors (fun _ => rfl) rfl
  · exact total_lost_le
  · exact fun sp => natAbs_sub_le sp.cnt_error sp.omitted_cnt_error
  · grind [add_stream, total_lost]
  · grind [print_sums]
  · grind [stream_values]

theorem sender_lost_packets_emitted (small : Small streams) :
    Sums (·.sender_lost_packets)
        (emit json_output (print_direction test json_output stream_must_be_sender streams)) ↔
      Sums (·.sender_lost_packets) (print_direction test json_output stream_must_be_sender streams) := by
  apply @datagrams_emitted test json_output stream_must_be_sender streams _ _ (fun _ => 0)
    (fun _ => 0) (fun _ => 0) _ small.errors (fun _ => rfl) rfl
  · exact fun sp => Nat.zero_le _
  · exact fun sp => Nat.zero_le _
  · grind
  · grind [print_sums]
  · grind [stream_values]

/-- The sums that are printed agree exactly when the words do. -/
theorem consistent_emitted (small : Small streams) :
    Consistent
        (emit json_output (print_direction test json_output stream_must_be_sender streams)) ↔
      Consistent (print_direction test json_output stream_must_be_sender streams) := by
  constructor
  · intro agree
    exact {
      bytes_sent := (bytes_sent_emitted small).mp agree.bytes_sent
      bytes_received := (bytes_received_emitted small).mp agree.bytes_received
      retransmits := (retransmits_emitted small).mp agree.retransmits
      packets := (packets_emitted small).mp agree.packets
      sender_packets := (sender_packets_emitted small).mp agree.sender_packets
      receiver_packets := (receiver_packets_emitted small).mp agree.receiver_packets
      sender_lost_packets := (sender_lost_packets_emitted small).mp agree.sender_lost_packets
      lost_packets := (lost_packets_emitted small).mp agree.lost_packets }
  · intro agree
    exact {
      bytes_sent := (bytes_sent_emitted small).mpr agree.bytes_sent
      bytes_received := (bytes_received_emitted small).mpr agree.bytes_received
      retransmits := (retransmits_emitted small).mpr agree.retransmits
      packets := (packets_emitted small).mpr agree.packets
      sender_packets := (sender_packets_emitted small).mpr agree.sender_packets
      receiver_packets := (receiver_packets_emitted small).mpr agree.receiver_packets
      sender_lost_packets := (sender_lost_packets_emitted small).mpr agree.sender_lost_packets
      lost_packets := (lost_packets_emitted small).mpr agree.lost_packets }

theorem lost_small (small : (streams.map errors).sum ≤ 2 ^ 53) :
    (∀ line ∈ (print_direction test json_output stream_must_be_sender streams).streams,
      (packet_counter.value line.lost_packets.number).natAbs ≤ 2 ^ 53) ∧
    ∀ line ∈ (print_direction test json_output stream_must_be_sender streams).sums,
      (packet_counter.value line.lost_packets.number).natAbs ≤ 2 ^ 53 := by
  constructor
  · intro line member
    unfold print_direction at member
    rw [print_streams_eq] at member
    have each : ∀ sp time, (packet_counter.value (stream_values test json_output sp
        (printed_sent test time sp)).lost_packets.number).natAbs ≤ errors sp := by
      intro sp time
      have cases : (stream_values test json_output sp (printed_sent test time sp)).lost_packets =
          .absent ∨ (stream_values test json_output sp (printed_sent test time sp)).lost_packets =
          .unknown ∨ (stream_values test json_output sp (printed_sent test time sp)).lost_packets =
          .value (sp.cnt_error - sp.omitted_cnt_error) := by
        grind [stream_values]
      rcases cases with none | none | own
      · rw [none]
        exact Nat.zero_le _
      · rw [none]
        exact Nat.zero_le _
      · rw [own]
        exact natAbs_sub_le sp.cnt_error sp.omitted_cnt_error
    have all := (lines_small each (first_receiver_time streams) (first_sender_time streams)).trans
      (ours_small stream_must_be_sender small)
    exact (List.single_le_sum (fun _ _ => Nat.zero_le _) _ (List.mem_map_of_mem member)).trans all
  · intro line member
    obtain ⟨time, all⟩ := @print_direction_sums test json_output stream_must_be_sender streams
    rw [all] at member
    have cases : line.lost_packets = .absent ∨ line.lost_packets =
        .value (totals_of test stream_must_be_sender streams).lost_packets := by
      grind [print_sums]
    rcases cases with none | own
    · rw [none]
      exact Nat.zero_le _
    · rw [own]
      apply @total_small test stream_must_be_sender streams Int64 _ _ packet_counter _
        (fun sp => if reliable test then 0 else total_lost sp) errors _ _ rfl _ _ small
      · grind [add_stream, total_lost]
      · intro sp
        split
        · exact Nat.zero_le _
        · exact total_lost_le sp

theorem same_loss_emitted {actual other : Values}
    (small : (packet_counter.value actual.lost_packets.number).natAbs ≤ 2 ^ 53)
    (too : (packet_counter.value other.lost_packets.number).natAbs ≤ 2 ^ 53) :
    SameLoss (emit_line json_output actual) (emit_line json_output other) ↔
      SameLoss actual other := by
  constructor
  · intro same
    refine ⟨fun number own => ?_, same.lost_percent⟩
    have kept := same.lost_packets (emit_count json_output number)
      (map_value.mpr ⟨number, own, rfl⟩)
    obtain ⟨shown, here, equal⟩ := map_value.mp kept
    rw [own, Printed.number] at small
    rw [here, Printed.number] at too
    rw [emit_count_exact json_output _ small, emit_count_exact json_output _ too] at equal
    rw [here, packet_counter.injective shown number (by exact_mod_cast equal)]
  · intro same
    refine ⟨fun number own => ?_, same.lost_percent⟩
    obtain ⟨word, shown, rfl⟩ := map_value.mp own
    exact map_value.mpr ⟨word, same.lost_packets word shown, rfl⟩

theorem same_losses_emitted {actual other : List Values}
    (small : ∀ line ∈ actual, (packet_counter.value line.lost_packets.number).natAbs ≤ 2 ^ 53)
    (too : ∀ line ∈ other, (packet_counter.value line.lost_packets.number).natAbs ≤ 2 ^ 53) :
    List.Forall₂ SameLoss (actual.map (emit_line json_output)) (other.map (emit_line json_output)) ↔
      List.Forall₂ SameLoss actual other := by
  rw [List.forall₂_map_left_iff, List.forall₂_map_right_iff, List.forall₂_iff_zip,
    List.forall₂_iff_zip]
  apply and_congr_right
  intro _
  constructor
  · intro same a b pair
    obtain ⟨first, second⟩ := List.of_mem_zip pair
    exact (same_loss_emitted (small a first) (too b second)).mp (same pair)
  · intro same a b pair
    obtain ⟨first, second⟩ := List.of_mem_zip pair
    exact (same_loss_emitted (small a first) (too b second)).mpr (same pair)

theorem errors_known (sp : iperf_stream) : errors (known sp) ≤ errors sp := by
  unfold known
  split
  · exact Nat.add_le_add_left (Nat.zero_le _) _
  · exact le_rfl

theorem unaffected_emitted (small : Small streams) :
    Unaffected
        (emit json_output (print_direction test json_output stream_must_be_sender streams))
        (emit json_output
          (print_direction test json_output stream_must_be_sender (streams.map known))) ↔
      Unaffected (print_direction test json_output stream_must_be_sender streams)
        (print_direction test json_output stream_must_be_sender (streams.map known)) := by
  have known_small : ((streams.map known).map errors).sum ≤ 2 ^ 53 := by
    rw [List.map_map]
    exact (List.sum_le_sum fun sp _ => errors_known sp).trans small.errors
  obtain ⟨streams_small, sums_small⟩ :=
    @lost_small test json_output stream_must_be_sender streams small.errors
  obtain ⟨streams_too, sums_too⟩ :=
    @lost_small test json_output stream_must_be_sender (streams.map known) known_small
  constructor
  · intro same
    exact ⟨(same_losses_emitted streams_small streams_too).mp same.streams,
      (same_losses_emitted sums_small sums_too).mp same.sums⟩
  · intro same
    exact ⟨(same_losses_emitted streams_small streams_too).mpr same.streams,
      (same_losses_emitted sums_small sums_too).mpr same.sums⟩

end Exactness

section Soundness

/-- The sum lines show the sums of the streams' lines, and an unknown omitted count
changes no lost count and no percentage. -/
def Sound {Bytes Count : Type} [Add Bytes] [Zero Bytes] [Add Count] [Zero Count]
    (actual other : Table Bytes Count) : Prop :=
  Consistent actual ∧ Unaffected actual other

/-- When the report on a direction is sound. -/
def Agreeing (test : iperf_test) (json_output stream_must_be_sender : Bool)
    (streams : List iperf_stream) : Prop :=
  match test.protocol with
  | .Ptcp | .Psctp => True
  | .Pquic =>
      test.role = .s → json_output = true → stream_must_be_sender = false →
        SentAgrees (first_sender_time streams) (first_receiver_time streams) (ours false streams)
  | .Pudp =>
      if json_output then
        (∀ sp ∈ ours stream_must_be_sender streams, sp.omitted_cnt_error ≠ -1) ∧
          ((uncounted stream_must_be_sender streams).map (·.omitted_cnt_error)).sum = 0
      else
        1 < test.num_streams → ¬ (test.role = .s ∧ stream_must_be_sender = true) →
          ((uncounted stream_must_be_sender streams).map (·.cnt_error)).sum = 0

variable {test : iperf_test} {json_output stream_must_be_sender : Bool}
  {streams : List iperf_stream}

/-- The bytes sent and the lost packets decide; every other column adds up. -/
theorem consistent_iff :
    Consistent (print_direction test json_output stream_must_be_sender streams) ↔
      Sums (·.bytes_sent) (print_direction test json_output stream_must_be_sender streams) ∧
      Sums (·.lost_packets) (print_direction test json_output stream_must_be_sender streams) := by
  constructor
  · intro consistent
    exact ⟨consistent.bytes_sent, consistent.lost_packets⟩
  · rintro ⟨sent, lost⟩
    exact {
      bytes_sent := sent
      bytes_received := bytes_received_sums
      retransmits := retransmits_sums
      packets := packets_sums
      sender_packets := sender_packets_sums
      receiver_packets := receiver_packets_sums
      sender_lost_packets := sender_lost_packets_sums
      lost_packets := lost }

theorem reliable_lost_sums (stream : reliable test) :
    Sums (·.lost_packets) (print_direction test json_output stream_must_be_sender streams) := by
  apply sums_of_shares (fun _ => 0) (fun _ => 0) rfl
  · grind [stream_values]
  · intro time line member total printed sp mine present
    grind [stream_values]

theorem sent_sums_iff :
    Sums (·.bytes_sent) (print_direction test json_output stream_must_be_sender streams) ↔
      (test.protocol = .Pquic → test.role = .s → json_output = true →
        stream_must_be_sender = false →
          SentAgrees (first_sender_time streams) (first_receiver_time streams)
            (ours false streams)) := by
  by_cases replaces : test.role = .s ∧ test.protocol = .Pquic ∧ stream_must_be_sender = false ∧
      json_output = true
  · have ⟨server, quic, receives, json⟩ := replaces
    subst receives json
    rw [quic_objects_iff server quic]
    simp [server, quic]
  · have own := @bytes_sent_sums test json_output stream_must_be_sender streams replaces
    simp only [own, true_iff]
    intro quic server json receives
    exact absurd ⟨server, quic, receives, json⟩ replaces

theorem direction_sound_iff :
    Sound (print_direction test json_output stream_must_be_sender streams)
        (print_direction test json_output stream_must_be_sender (streams.map known)) ↔
      Agreeing test json_output stream_must_be_sender streams := by
  rw [Sound, consistent_iff, unaffected_iff, sent_sums_iff, Agreeing]
  cases protocol : test.protocol with
  | Ptcp =>
      have stream : reliable test := .inl protocol
      simp [stream, reliable_lost_sums stream]
  | Psctp =>
      have stream : reliable test := .inr (.inl protocol)
      simp [stream, reliable_lost_sums stream]
  | Pquic =>
      have stream : reliable test := .inr (.inr protocol)
      simp [stream, reliable_lost_sums stream]
  | Pudp =>
      have datagrams : ¬ reliable test := by simp [reliable, protocol]
      cases json_output with
      | true => simp [datagrams, lost_objects_iff datagrams, and_comm]
      | false => simp [datagrams, lost_lines_iff datagrams]

theorem set_times_known (end_time : Rat) (streams : List iperf_stream) :
    set_times end_time (streams.map known) = (set_times end_time streams).map known := by
  cases streams with
  | nil => rfl
  | cons sp rest =>
      simp only [set_times, List.map_cons, List.cons.injEq, and_true]
      unfold known
      split_ifs <;> rfl

theorem set_times_map {α : Type} {number : iperf_stream → α}
    (own : ∀ sp receiver_time sender_time, number { sp with result :=
      { sp.result with receiver_time := receiver_time, sender_time := sender_time } } = number sp)
    (end_time : Rat) (streams : List iperf_stream) :
    (set_times end_time streams).map number = streams.map number := by
  cases streams with
  | nil => rfl
  | cons sp rest =>
      simp only [set_times, List.map_cons, List.cons.injEq, and_true]
      split
      · exact own sp _ _
      · exact own sp _ _

theorem set_times_small (small : Small streams) (end_time : Rat) :
    Small (set_times end_time streams) := by
  obtain ⟨bytes, retransmits, packets, sender_packets, receiver_packets, errors⟩ := small
  constructor
  · rwa [set_times_map fun _ _ _ => rfl]
  · rwa [set_times_map fun _ _ _ => rfl]
  · rwa [set_times_map fun _ _ _ => rfl]
  · rwa [set_times_map fun _ _ _ => rfl]
  · rwa [set_times_map fun _ _ _ => rfl]
  · rwa [set_times_map fun _ _ _ => rfl]

theorem emitted_sound_iff (small : Small streams) :
    Sound (emit json_output (print_direction test json_output stream_must_be_sender streams))
        (emit json_output
          (print_direction test json_output stream_must_be_sender (streams.map known))) ↔
      Agreeing test json_output stream_must_be_sender streams := by
  rw [← direction_sound_iff, Sound, Sound, consistent_emitted small, unaffected_emitted small]

/-- Every report of `iperf_print_results`, on one direction or on both, is sound
exactly when the streams of its direction agree, if no number is beyond the whole
numbers that a double holds. -/
theorem print_results_sound_iff (test : iperf_test) (json_output : Bool) (end_time : Rat)
    (streams : List iperf_stream) (small : Small streams) :
    List.Forall₂ (fun actual other => Sound actual.2 other.2)
        (iperf_print_results test json_output end_time streams)
        (iperf_print_results test json_output end_time (streams.map known)) ↔
      ∀ direction ∈ directions test,
        Agreeing test json_output direction (set_times end_time streams) := by
  have sender_agrees : ∀ direction, Agreeing (sender_of test direction) json_output direction
      (set_times end_time streams) ↔
        Agreeing test json_output direction (set_times end_time streams) := by
    intro direction
    unfold sender_of
    split_ifs <;> rfl
  unfold iperf_print_results
  rw [set_times_known]
  induction directions test with
  | nil => simp
  | cons direction rest ih =>
      rw [List.map_cons, List.map_cons, List.forall₂_cons, List.forall_mem_cons]
      exact and_congr
        ((emitted_sound_iff (set_times_small small end_time)).trans (sender_agrees direction)) ih

def udp_client : iperf_test :=
  { role := .c, mode := .SENDER, protocol := .Pudp, num_streams := 1 }

/-- The stream sent 5 of its packets while omitting; the server counts 3 errors and
does not say how many of them were omitted. -/
def unknown_stream : iperf_stream :=
  apply_report udp_client
    { sid := 1, bytes_transferred := 97000, retransmits := 0, jitter := 0, cerror := 3
      pcount := 105, omitted := none, elapsed := some 10 }
    { id := 1, sender := true, packet_count := 105, omitted_packet_count := 5
      result := { bytes_sent := 100000 } }

theorem unknown_small : Small [unknown_stream] :=
  ⟨by decide, by decide, by decide, by decide, by decide, by decide⟩

/-- With one omitted error reported, the report is sound. -/
theorem print_results_sound_known :
    List.Forall₂ (fun actual other => Sound actual.2 other.2)
      (iperf_print_results udp_client true 10 [{ unknown_stream with omitted_cnt_error := 1 }])
      (iperf_print_results udp_client true 10
        ([{ unknown_stream with omitted_cnt_error := 1 }].map known)) := by
  have small : Small [{ unknown_stream with omitted_cnt_error := 1 }] :=
    ⟨by decide, by decide, by decide, by decide, by decide, by decide⟩
  apply (print_results_sound_iff udp_client true 10 _ small).mpr
  intro direction listed
  obtain rfl : direction = true := List.mem_singleton.mp listed
  constructor
  · intro sp mine
    obtain rfl := List.mem_singleton.mp (mine : sp ∈ [_])
    decide
  · decide +kernel

/-- The stream's object shows 4 lost packets and the sum 3. -/
theorem print_results_unknown :
    ((iperf_print_results udp_client true 10 [unknown_stream]).map fun entry =>
        (entry.2.streams.map (·.lost_packets), entry.2.sums.map (·.lost_packets))) =
      [([.value 4], [.value 3, .absent, .value 3])] ∧
    ¬ List.Forall₂ (fun actual other => Sound actual.2 other.2)
        (iperf_print_results udp_client true 10 [unknown_stream])
        (iperf_print_results udp_client true 10 ([unknown_stream].map known)) := by
  constructor
  · have exact_ : ∀ count : Int64, count.toInt.natAbs ≤ 2 ^ 53 →
        emit_count true count = (count.toInt : Rat) := emit_count_exact true
    have four : emit_count true 4 = 4 := exact_ 4 (by decide)
    have three : emit_count true 3 = 3 := exact_ 3 (by decide)
    rw [← four, ← three]
    rfl
  · intro sound
    unfold iperf_print_results at sound
    rw [set_times_known] at sound
    have agreeing := (emitted_sound_iff (set_times_small unknown_small 10)).mp
      (List.forall₂_cons.mp sound).1
    exact agreeing.1 _ List.mem_cons_self rfl

end Soundness

end Iperf.FinalReport
