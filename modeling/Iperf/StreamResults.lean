import Iperf.Parameters
import Mathlib.Data.List.Induction
import Mathlib.Data.List.Nodup

/-!
The results of the streams: what the workers, the timers and `iperf_reset_stats`
do to the counters, the object that `send_results` writes of them, and what
`get_results` makes of the peer's object.
-/

namespace Iperf.StreamResults

open TestState Json Config Parameters

structure iperf_stream_result where
  bytes_received : UInt64 := 0
  bytes_sent : UInt64 := 0
  bytes_sent_omit : UInt64 := 0
  stream_retrans : Int64 := 0
  sender_time : Rat := 0
  receiver_time : Rat := 0

structure iperf_stream where
  id : Int32 := 0
  sender : Bool := false
  result : iperf_stream_result := {}
  packet_count : Int64 := 0
  peer_packet_count : Int64 := 0
  peer_omitted_packet_count : Int64 := 0
  omitted_packet_count : Int64 := 0
  jitter : Rat := 0
  cnt_error : Int64 := 0
  omitted_cnt_error : Int64 := 0

section Creation

/-- The second stream has the id 3. -/
def iperf_add_stream (streams : List iperf_stream) (sp : iperf_stream) : List iperf_stream :=
  if streams = [] then [{ sp with id := 1 }]
  else streams ++ [{ sp with id := Int32.ofNat (2 + streams.length) }]

/-- New streams, in the order in which they are connected or accepted. -/
def new_streams (senders : List Bool) : List iperf_stream :=
  senders.foldl (fun streams sender => iperf_add_stream streams { sender := sender }) []

def iperf_create_streams (num_streams : Int32) (sender : Bool) : List Bool :=
  List.replicate num_streams.toInt.toNat sender

/-- The client connects its sending streams before its receiving ones. -/
def client_directions (mode : Mode) (num_streams : Int32) : List Bool :=
  match mode with
  | .SENDER => iperf_create_streams num_streams true
  | .RECEIVER => iperf_create_streams num_streams false
  | .BIDIRECTIONAL =>
      iperf_create_streams num_streams true ++ iperf_create_streams num_streams false

/-- The server's streams receive until `rec_streams_accepted` is `streams_to_rec`. -/
def server_directions (mode : Mode) (num_streams : Int32) : List Bool :=
  let streams_to_rec := if mode = .SENDER then 0 else num_streams
  let streams_to_send := if mode = .RECEIVER then 0 else num_streams
  List.replicate streams_to_rec.toInt.toNat false ++
    List.replicate streams_to_send.toInt.toNat true

theorem num_streams_bounded (num_streams : Int32) : num_streams.toInt.toNat ≤ 2 ^ 31 - 1 := by
  have bounded := num_streams.toInt_lt
  omega

theorem client_directions_length (mode : Mode) (num_streams : Int32) :
    (client_directions mode num_streams).length ≤ 2 ^ 32 - 2 := by
  have bounded := num_streams_bounded num_streams
  unfold client_directions iperf_create_streams
  cases mode <;> simp only [List.length_append, List.length_replicate] <;> omega

theorem server_directions_length (mode : Mode) (num_streams : Int32) :
    (server_directions mode num_streams).length ≤ 2 ^ 32 - 2 := by
  have bounded : ∀ streams : Int32, streams.toInt.toNat ≤ 2 ^ 31 - 1 := num_streams_bounded
  simp only [server_directions, List.length_append, List.length_replicate]
  have receiving := bounded (if mode = .SENDER then 0 else num_streams)
  have sending := bounded (if mode = .RECEIVER then 0 else num_streams)
  omega

theorem new_streams_append (senders : List Bool) (sender : Bool) :
    new_streams (senders ++ [sender]) =
      iperf_add_stream (new_streams senders) { sender := sender } := by
  simp [new_streams]

@[simp] theorem iperf_add_stream_length (streams : List iperf_stream) (sp : iperf_stream) :
    (iperf_add_stream streams sp).length = streams.length + 1 := by
  unfold iperf_add_stream
  split
  · rename_i empty
    simp [empty]
  · simp

@[simp] theorem new_streams_length (senders : List Bool) :
    (new_streams senders).length = senders.length := by
  induction senders using List.reverseRecOn with
  | nil => rfl
  | append_singleton senders sender ih => simp [new_streams_append, ih]

/-- The id of the stream at an index. -/
def stream_id (index : Nat) : Int32 := if index = 0 then 1 else Int32.ofNat (2 + index)

/-- A new stream has its id, its direction and zeroed counters. -/
theorem new_streams_eq (senders : List Bool) :
    new_streams senders =
      senders.zipIdx.map fun entry => { id := stream_id entry.2, sender := entry.1 } := by
  induction senders using List.reverseRecOn with
  | nil => rfl
  | append_singleton senders sender ih =>
      have length := new_streams_length senders
      rw [new_streams_append, List.zipIdx_append, List.map_append, ← ih]
      unfold iperf_add_stream
      split
      · rename_i empty
        rw [empty] at length
        simp [empty, ← length, stream_id]
      · rename_i some
        have later : senders ≠ [] := by
          rintro rfl
          exact some rfl
        simp [stream_id, length, later]

theorem stream_id_inj {first second : Nat} (one : first < 2 ^ 32 - 2) (other : second < 2 ^ 32 - 2)
    (same : stream_id first = stream_id second) : first = second := by
  have word : ∀ index, (stream_id index).toBitVec.toNat =
      if index = 0 then 1 else (2 + index) % 2 ^ 32 := by
    intro index
    unfold stream_id
    split <;> rfl
  have equal := (word first).symm.trans ((congrArg (·.toBitVec.toNat) same).trans (word second))
  split at equal <;> split at equal <;> omega

theorem new_streams_ids (senders : List Bool) :
    (new_streams senders).map iperf_stream.id = (List.range senders.length).map stream_id := by
  rw [new_streams_eq, List.map_map, List.range_eq_range', ← List.zipIdx_map_snd, List.map_map]
  rfl

theorem new_streams_nodup {senders : List Bool} (short : senders.length ≤ 2 ^ 32 - 2) :
    ((new_streams senders).map iperf_stream.id).Nodup := by
  rw [new_streams_ids]
  apply List.Nodup.map_on
  · intro first one second other same
    apply stream_id_inj _ _ same
    · have := List.mem_range.mp one
      omega
    · have := List.mem_range.mp other
      omega
  · exact List.nodup_range

end Creation

section Counting

/-- What changes the counters of the streams while the test runs. -/
inductive Event where
  /-- the send function of the stream's protocol, with its new packet count -/
  | sent (id : Int32) (bytes : UInt64) (packet_count : Int64)
  /-- the receive function, with the packet counts and the jitter it leaves -/
  | received (id : Int32) (bytes : UInt64) (packet_count cnt_error : Int64) (jitter : Rat)
  /-- `iperf_stats_callback` adds an interval's retransmits -/
  | retransmitted (id : Int32) (interval_retrans : Int64)
  /-- `iperf_reset_stats` -/
  | reset

def reset_stream (sp : iperf_stream) : iperf_stream :=
  { sp with
    omitted_packet_count := sp.packet_count
    omitted_cnt_error := sp.cnt_error
    jitter := 0
    result := { sp.result with
      bytes_sent_omit := sp.result.bytes_sent
      bytes_received := 0
      stream_retrans := 0 } }

def count (event : Event) (sp : iperf_stream) : iperf_stream :=
  match event with
  | .sent id bytes packet_count =>
      if sp.id = id ∧ sp.sender then
        { sp with
          packet_count := packet_count
          result := { sp.result with bytes_sent := sp.result.bytes_sent + bytes } }
      else sp
  | .received id bytes packet_count cnt_error jitter =>
      if sp.id = id ∧ ¬ sp.sender then
        { sp with
          packet_count := packet_count
          cnt_error := cnt_error
          jitter := jitter
          result := { sp.result with bytes_received := sp.result.bytes_received + bytes } }
      else sp
  | .retransmitted id interval_retrans =>
      if sp.id = id then
        { sp with
          result := { sp.result with
            stream_retrans := sp.result.stream_retrans + interval_retrans } }
      else sp
  | .reset => reset_stream sp

def counted (streams : List iperf_stream) (events : List Event) : List iperf_stream :=
  events.foldl (fun streams event => streams.map (count event)) streams

/-- The same for one stream: no event looks at another one. -/
def after (events : List Event) (sp : iperf_stream) : iperf_stream :=
  events.foldl (fun sp event => count event sp) sp

theorem counted_eq (streams : List iperf_stream) (events : List Event) :
    counted streams events = streams.map (after events) := by
  induction events generalizing streams with
  | nil => exact (List.map_id streams).symm
  | cons event rest ih =>
      have next := ih (streams.map (count event))
      simp only [counted, List.foldl_cons] at next ⊢
      rw [next, List.map_map]
      rfl

@[simp] theorem count_id (event : Event) (sp : iperf_stream) : (count event sp).id = sp.id := by
  unfold count
  cases event with
  | sent | received | retransmitted =>
      dsimp only
      split <;> rfl
  | reset => rfl

@[simp] theorem count_sender (event : Event) (sp : iperf_stream) :
    (count event sp).sender = sp.sender := by
  unfold count
  cases event with
  | sent | received | retransmitted =>
      dsimp only
      split <;> rfl
  | reset => rfl

/-- What every event keeps, the events of a whole test keep. -/
theorem after_keeps {Kept : iperf_stream → Prop} (events : List Event)
    (keeps : ∀ event sp, Kept sp → Kept (count event sp)) {sp : iperf_stream} (kept : Kept sp) :
    Kept (after events sp) := by
  induction events generalizing sp with
  | nil => exact kept
  | cons event rest ih => exact ih (keeps event sp kept)

@[simp] theorem after_id (events : List Event) (sp : iperf_stream) :
    (after events sp).id = sp.id :=
  @after_keeps (fun kept => kept.id = sp.id) events
    (fun event kept same => (count_id event kept).trans same) sp rfl

@[simp] theorem after_sender (events : List Event) (sp : iperf_stream) :
    (after events sp).sender = sp.sender :=
  @after_keeps (fun kept => kept.sender = sp.sender) events
    (fun event kept same => (count_sender event kept).trans same) sp rfl

/-- Before the results arrive, a stream that receives has no account of sent bytes. -/
def Unsent (sp : iperf_stream) : Prop :=
  sp.sender = false → sp.result.bytes_sent = 0 ∧ sp.result.bytes_sent_omit = 0

theorem count_unsent (event : Event) (sp : iperf_stream) (unsent : Unsent sp) :
    Unsent (count event sp) := by
  intro receiver
  rw [count_sender] at receiver
  obtain ⟨sent, omitted⟩ := unsent receiver
  cases event with
  | sent id bytes packets => simp [count, receiver, sent, omitted]
  | received id bytes packets errors jitter =>
      simp only [count]
      split
      · exact ⟨sent, omitted⟩
      · exact ⟨sent, omitted⟩
  | retransmitted id retrans =>
      simp only [count]
      split
      · exact ⟨sent, omitted⟩
      · exact ⟨sent, omitted⟩
  | reset => exact ⟨sent, sent⟩

end Counting

structure CpuUtil where
  total : Rat := 0
  user : Rat := 0
  system : Rat := 0

/-- One end of the control connection; `server_output_list` holds the lines. -/
structure Endpoint where
  test : iperf_test
  streams : List iperf_stream
  cpu_util : CpuUtil := {}
  remote_cpu_util : CpuUtil := {}
  json_output : Bool := false
  json_top : cJSON := .null
  server_output_list : List String := []
  json_server_output : Option cJSON := none
  server_output_text : Option String := none

def directions (test : iperf_test) : List Bool :=
  if test.role = .s then server_directions test.mode test.num_streams
  else client_directions test.mode test.num_streams

/-- An end whose streams have been created, and the counters changed by `events`. -/
def tested (own : Endpoint) (events : List Event) : Endpoint :=
  { own with streams := counted (new_streams (directions own.test)) events }

theorem directions_length (test : iperf_test) : (directions test).length ≤ 2 ^ 32 - 2 := by
  unfold directions
  split
  · exact server_directions_length _ _
  · exact client_directions_length _ _

theorem tested_streams (own : Endpoint) (events : List Event) :
    (tested own events).streams =
      (directions own.test).zipIdx.map fun entry =>
        after events { id := stream_id entry.2, sender := entry.1 } := by
  rw [tested, counted_eq, new_streams_eq, List.map_map]
  rfl

theorem tested_ids (own : Endpoint) (events : List Event) :
    (tested own events).streams.map iperf_stream.id =
      (List.range (directions own.test).length).map stream_id := by
  rw [← new_streams_ids, tested, counted_eq, List.map_map]
  exact List.map_congr_left fun sp _ => after_id events sp

theorem tested_distinct (own : Endpoint) (events : List Event) :
    ((tested own events).streams.map iperf_stream.id).Nodup := by
  rw [tested_ids, ← new_streams_ids]
  exact new_streams_nodup (directions_length own.test)

section Send

/-- An `int64_t` as the number of an item. -/
def int64_number (value : Int64) : cJSON :=
  let magnitude : Int := to_double value.toInt.natAbs
  .number ((if value.toInt < 0 then -magnitude else magnitude : Int) : Rat)

/-- `end_time` is the double of the seconds from the stream's start to its end. -/
def stream_entries (test : iperf_test) (end_time : Int32 → Rat) (sp : iperf_stream) :
    List (String × Option cJSON) :=
  let bytes_transferred :=
    if sp.sender then sp.result.bytes_sent - sp.result.bytes_sent_omit
    else sp.result.bytes_received
  let retransmits :=
    if sp.sender ∧ test.sender_has_retransmits ≠ 0 then sp.result.stream_retrans.toInt32 else -1
  [("id", some (int_number sp.id)),
    ("bytes", some (size_number bytes_transferred)),
    ("retransmits", some (int_number retransmits)),
    ("jitter", some (.number sp.jitter)),
    ("errors", some (int64_number sp.cnt_error)),
    ("omitted_errors", some (int64_number sp.omitted_cnt_error)),
    ("packets", some (int64_number sp.packet_count)),
    ("omitted_packets", some (int64_number sp.omitted_packet_count)),
    ("start_time", some (.number 0)),
    ("end_time", some (.number (end_time sp.id)))]

def stream_object (test : iperf_test) (end_time : Int32 → Rat) (sp : iperf_stream) : cJSON :=
  .object (written (stream_entries test end_time sp))

def results_entries (end_time : Int32 → Rat) (own : Endpoint) : List (String × Option cJSON) :=
  let sender_has_retransmits :=
    if own.test.mode = .RECEIVER then -1 else own.test.sender_has_retransmits
  let output := own.test.role = .s ∧ own.test.get_server_output ≠ 0
  [("cpu_util_total", some (.number own.cpu_util.total)),
    ("cpu_util_user", some (.number own.cpu_util.user)),
    ("cpu_util_system", some (.number own.cpu_util.system)),
    ("sender_has_retransmits", some (int_number sender_has_retransmits)),
    ("congestion_used", own.test.congestion_used.map .string),
    ("server_output_json", if output ∧ own.json_output then some own.json_top else none),
    ("server_output_text",
      if output ∧ ¬ own.json_output then some (.string (String.join own.server_output_list))
      else none),
    ("streams", some (.array (own.streams.map (stream_object own.test end_time))))]

/-- The object that `send_results` hands to `JSON_write`. -/
def send_results (end_time : Int32 → Rat) (own : Endpoint) : cJSON :=
  .object (written (results_entries end_time own))

end Send

section Get

/-- The values of `i_errno` in `get_results`. -/
inductive ResultsErrno where
  | IERECVRESULTS
  | IESTREAMID
  deriving DecidableEq, Repr

def valuedouble : cJSON → Rat
  | .number valuedouble => valuedouble
  | _ => 0

def double_item (json : cJSON) (name : String) : Option Rat :=
  (iperf_cJSON_GetObjectItemType json name .cJSON_Number).map valuedouble

def array_item (json : cJSON) (name : String) : Option (List cJSON) :=
  match cJSON_GetObjectItem json name with
  | some (.array items) => some items
  | _ => none

/-- The items of one stream. -/
structure Report where
  sid : Int32
  bytes_transferred : UInt64
  retransmits : Int32
  jitter : Rat
  cerror : Int64
  pcount : Int64
  /-- `omitted_cerror` and `omitted_pcount`, which old peers do not send -/
  omitted : Option (Int64 × Int64)
  elapsed : Option Rat

def read_omitted (j_stream : cJSON) : Option (Option (Int64 × Int64)) :=
  match number_item j_stream "omitted_errors", number_item j_stream "omitted_packets" with
  | some errors, some packets => some (some (Int64.ofInt errors, Int64.ofInt packets))
  | none, none => some none
  | _, _ => none

def read_elapsed (j_stream : cJSON) : Option Rat :=
  match double_item j_stream "start_time", double_item j_stream "end_time" with
  | some start_time, some end_time => some (end_time - start_time)
  | _, _ => none

def read_report (j_stream : cJSON) : Option Report :=
  match number_item j_stream "id", number_item j_stream "bytes",
      number_item j_stream "retransmits", double_item j_stream "jitter",
      number_item j_stream "errors", number_item j_stream "packets" with
  | some id, some bytes, some retransmits, some jitter, some errors, some packets =>
      (read_omitted j_stream).map fun omitted =>
        { sid := Int32.ofInt id
          bytes_transferred := UInt64.ofInt bytes
          retransmits := Int32.ofInt retransmits
          jitter := jitter
          cerror := Int64.ofInt errors
          pcount := Int64.ofInt packets
          omitted := omitted
          elapsed := read_elapsed j_stream }
  | _, _, _, _, _, _ => none

/-- The receiver's results, for a stream that sends. -/
def apply_to_sender (test : iperf_test) (report : Report) (sp : iperf_stream) : iperf_stream :=
  let receiver_time := report.elapsed.getD 0
  -- For QUIC the client prefers the server's total for the summary of its sender.
  let quic := test.protocol = .Pquic ∧ test.role = .c
  { sp with
    jitter := report.jitter
    cnt_error := report.cerror
    peer_packet_count := report.pcount
    omitted_cnt_error :=
      (report.omitted.map Prod.fst).getD
        (if 0 < sp.omitted_packet_count then if 0 < report.cerror then -1 else 0
        else report.cerror)
    peer_omitted_packet_count := (report.omitted.map Prod.snd).getD sp.omitted_packet_count
    result := { sp.result with
      bytes_received := report.bytes_transferred
      receiver_time := receiver_time
      bytes_sent := if quic then report.bytes_transferred else sp.result.bytes_sent
      sender_time := if quic then receiver_time else sp.result.sender_time } }

/-- The sender's results, for a stream that receives. -/
def apply_to_receiver (report : Report) (sp : iperf_stream) : iperf_stream :=
  { sp with
    peer_packet_count := report.pcount
    peer_omitted_packet_count := (report.omitted.map Prod.snd).getD report.pcount
    result := { sp.result with
      bytes_sent := report.bytes_transferred
      stream_retrans := report.retransmits.toInt64
      sender_time := report.elapsed.getD 0 } }

def apply_report (test : iperf_test) (report : Report) (sp : iperf_stream) : iperf_stream :=
  if sp.sender then apply_to_sender test report sp else apply_to_receiver report sp

/-- The first stream of an id is changed, when there is one. -/
def update_stream (id : Int32) (change : iperf_stream → iperf_stream) :
    List iperf_stream → Option (List iperf_stream)
  | [] => none
  | sp :: rest =>
      if sp.id = id then some (change sp :: rest)
      else (update_stream id change rest).map (sp :: ·)

/-- One round of the loop over the items; a bad item does not end it. -/
def get_stream (test : iperf_test) (state : Option ResultsErrno × List iperf_stream)
    (j_stream : cJSON) : Option ResultsErrno × List iperf_stream :=
  match read_report j_stream with
  | none => (some .IERECVRESULTS, state.2)
  | some report =>
      match update_stream report.sid (apply_report test report) state.2 with
      | none => (some .IESTREAMID, state.2)
      | some streams => (state.1, streams)

def read_retransmits (result_has_retransmits : Int32) (test : iperf_test) : iperf_test :=
  if test.mode = .RECEIVER then
    { test with
      sender_has_retransmits := result_has_retransmits
      other_side_has_retransmits := 0 }
  else if test.mode = .BIDIRECTIONAL then
    { test with other_side_has_retransmits := result_has_retransmits }
  else test

def read_output (j : cJSON) (own : Endpoint) : Endpoint :=
  if own.test.role = .c ∧ own.test.get_server_output ≠ 0 then
    match cJSON_GetObjectItem j "server_output_json" with
    | some output => { own with json_server_output := some output }
    | none =>
        { own with
          server_output_text := read_string j "server_output_text" own.server_output_text }
  else own

section Received
variable (test : iperf_test)

@[simp] theorem apply_report_id (report : Report) (sp : iperf_stream) :
    (apply_report test report sp).id = sp.id := by
  unfold apply_report
  split <;> rfl

@[simp] theorem apply_report_sender (report : Report) (sp : iperf_stream) :
    (apply_report test report sp).sender = sp.sender := by
  unfold apply_report
  split <;> rfl

/-- What one item makes of a stream, and what all of them make of it. -/
def receive (j_stream : cJSON) (sp : iperf_stream) : iperf_stream :=
  match read_report j_stream with
  | none => sp
  | some report => if sp.id = report.sid then apply_report test report sp else sp

def received (items : List cJSON) (sp : iperf_stream) : iperf_stream :=
  items.foldl (fun sp j_stream => receive test j_stream sp) sp

@[simp] theorem receive_id (j_stream : cJSON) (sp : iperf_stream) :
    (receive test j_stream sp).id = sp.id := by
  unfold receive
  split
  · rfl
  · split
    · exact apply_report_id test _ sp
    · rfl

@[simp] theorem received_id (items : List cJSON) (sp : iperf_stream) :
    (received test items sp).id = sp.id := by
  induction items generalizing sp with
  | nil => rfl
  | cons j_stream rest ih => exact (ih (receive test j_stream sp)).trans (receive_id test j_stream sp)

theorem map_absent {streams : List iperf_stream} {id : Int32}
    (change : iperf_stream → iperf_stream) (absent : id ∉ streams.map iperf_stream.id) :
    (streams.map fun sp => if sp.id = id then change sp else sp) = streams := by
  conv_rhs => rw [← List.map_id streams]
  apply List.map_congr_left
  intro sp member
  exact if_neg fun same => absent (List.mem_map.mpr ⟨sp, member, same⟩)

theorem update_stream_eq {streams : List iperf_stream} (id : Int32)
    (change : iperf_stream → iperf_stream) (distinct : (streams.map iperf_stream.id).Nodup) :
    update_stream id change streams =
      if id ∈ streams.map iperf_stream.id then
        some (streams.map fun sp => if sp.id = id then change sp else sp)
      else none := by
  induction streams with
  | nil => rfl
  | cons sp rest ih =>
      obtain ⟨fresh, others⟩ := List.nodup_cons.mp distinct
      by_cases found : sp.id = id
      · subst found
        simp [update_stream, map_absent change fresh]
      · rw [update_stream, if_neg found, ih others]
        by_cases later : id ∈ rest.map iperf_stream.id
        · simp [found, later]
        · simp [later, Ne.symm found]

/-- The loop over the items leaves each stream what its own items make of it. -/
theorem get_stream_streams (errno : Option ResultsErrno) {streams : List iperf_stream}
    (j_stream : cJSON) (distinct : (streams.map iperf_stream.id).Nodup) :
    (get_stream test (errno, streams) j_stream).2 = streams.map (receive test j_stream) := by
  unfold get_stream receive
  cases shape : read_report j_stream with
  | none => exact (List.map_id streams).symm
  | some report =>
      simp only [update_stream_eq report.sid _ distinct]
      by_cases known : report.sid ∈ streams.map iperf_stream.id
      · simp only [if_pos known]
      · simp only [if_neg known, map_absent _ known]

theorem get_stream_known {errno : Option ResultsErrno} {streams : List iperf_stream}
    {j_stream : cJSON} {report : Report} (shape : read_report j_stream = some report)
    (known : report.sid ∈ streams.map iperf_stream.id)
    (distinct : (streams.map iperf_stream.id).Nodup) :
    (get_stream test (errno, streams) j_stream).1 = errno := by
  simp only [get_stream, shape, update_stream_eq report.sid _ distinct, if_pos known]

theorem map_receive_ids (streams : List iperf_stream) (j_stream : cJSON) :
    (streams.map (receive test j_stream)).map iperf_stream.id = streams.map iperf_stream.id := by
  rw [List.map_map]
  exact List.map_congr_left fun sp _ => receive_id test j_stream sp

theorem get_streams_streams (errno : Option ResultsErrno) {streams : List iperf_stream}
    (items : List cJSON) (distinct : (streams.map iperf_stream.id).Nodup) :
    (items.foldl (get_stream test) (errno, streams)).2 = streams.map (received test items) := by
  induction items generalizing errno streams with
  | nil => exact (List.map_id streams).symm
  | cons j_stream rest ih =>
      have one := get_stream_streams test errno j_stream distinct
      have kept := map_receive_ids test streams j_stream
      rw [List.foldl_cons, ← Prod.eta (get_stream test (errno, streams) j_stream), one,
        ih _ (kept ▸ distinct), List.map_map]
      rfl

/-- Every item is known, so no error is noted. -/
theorem get_streams_known {errno : Option ResultsErrno} {streams : List iperf_stream}
    {items : List cJSON} (distinct : (streams.map iperf_stream.id).Nodup)
    (known : ∀ j_stream ∈ items, ∃ report, read_report j_stream = some report ∧
      report.sid ∈ streams.map iperf_stream.id) :
    (items.foldl (get_stream test) (errno, streams)).1 = errno := by
  induction items generalizing streams with
  | nil => rfl
  | cons j_stream rest ih =>
      obtain ⟨⟨report, shape, found⟩, others⟩ := List.forall_mem_cons.mp known
      have one := get_stream_streams test errno j_stream distinct
      have kept := map_receive_ids test streams j_stream
      rw [List.foldl_cons, ← Prod.eta (get_stream test (errno, streams) j_stream), one,
        get_stream_known test shape found distinct]
      exact ih (kept.symm ▸ distinct) (by rw [kept]; exact others)

theorem apply_report_congr {test other : iperf_test} (protocol : test.protocol = other.protocol)
    (role : test.role = other.role) (report : Report) (sp : iperf_stream) :
    apply_report test report sp = apply_report other report sp := by
  simp only [apply_report, apply_to_sender, protocol, role]

theorem received_congr {test other : iperf_test} (protocol : test.protocol = other.protocol)
    (role : test.role = other.role) : received test = received other := by
  have one : receive test = receive other := by
    funext j_stream sp
    simp only [receive, apply_report_congr protocol role]
  funext items sp
  rw [received, received, one]

end Received

/-- `get_results` of what `JSON_read` returned: `i_errno` when it returns -1. -/
def get_results (own : Endpoint) : Option cJSON → Option ResultsErrno × Endpoint
  | none => (some .IERECVRESULTS, own)
  | some j =>
      let (errno, own) : Option ResultsErrno × Endpoint :=
        match double_item j "cpu_util_total", double_item j "cpu_util_user",
            double_item j "cpu_util_system", number_item j "sender_has_retransmits" with
        | some total, some user, some system, some result_has_retransmits =>
            let own :=
              { own with
                remote_cpu_util := { total := total, user := user, system := system }
                test := read_retransmits (Int32.ofInt result_has_retransmits) own.test }
            match array_item j "streams" with
            | none => (some .IERECVRESULTS, own)
            | some j_streams =>
                let (errno, streams) :=
                  j_streams.foldl (get_stream own.test) (none, own.streams)
                (errno, read_output j { own with streams := streams })
        | _, _, _, _ => (some .IERECVRESULTS, own)
      (errno,
        { own with
          test := { own.test with
            remote_congestion_used :=
              read_string j "congestion_used" own.test.remote_congestion_used } })

theorem read_retransmits_frame (result_has_retransmits : Int32) (test : iperf_test) :
    (read_retransmits result_has_retransmits test).protocol = test.protocol ∧
      (read_retransmits result_has_retransmits test).role = test.role := by
  unfold read_retransmits
  split
  · exact ⟨rfl, rfl⟩
  · split <;> exact ⟨rfl, rfl⟩

theorem read_output_streams (j : cJSON) (own : Endpoint) :
    (read_output j own).streams = own.streams := by
  unfold read_output
  split
  · split <;> rfl
  · rfl

/-- The items of the streams that `get_results` comes to. -/
def j_streams : Option cJSON → List cJSON
  | none => []
  | some j =>
      match double_item j "cpu_util_total", double_item j "cpu_util_user",
          double_item j "cpu_util_system", number_item j "sender_has_retransmits" with
      | some _, some _, some _, some _ => (array_item j "streams").getD []
      | _, _, _, _ => []

theorem get_results_streams (own : Endpoint) (j : Option cJSON)
    (distinct : (own.streams.map iperf_stream.id).Nodup) :
    (get_results own j).2.streams = own.streams.map (received own.test (j_streams j)) := by
  cases j with
  | none => exact (List.map_id own.streams).symm
  | some j =>
      simp only [get_results, j_streams]
      split
      · rename_i total user system retransmits _ _ _ _
        obtain ⟨protocol, role⟩ := read_retransmits_frame (Int32.ofInt retransmits) own.test
        split
        · rename_i none
          simp only [none, Option.getD_none]
          exact (List.map_id own.streams).symm
        · rename_i items some
          simp only [some, Option.getD_some, read_output_streams]
          rw [get_streams_streams _ _ _ distinct, received_congr protocol role]
      · exact (List.map_id own.streams).symm

end Get

end Iperf.StreamResults
