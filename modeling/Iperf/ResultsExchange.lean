import Iperf.CjsonMessages
import Iperf.StreamResults

/-!
`iperf_exchange_results` between the two ends. Each stream's counters are written
as one item, printed and parsed by cJSON, and read back as one report, so that the
sending and the receiving side of a stream end up with the same numbers; the
jitter passes through the text of a double.
-/

namespace Iperf.ResultsExchange

open TestState Json Config Parameters ParameterExchange StreamResults CjsonMessages
open CjsonItem (nesting nesting_elements nesting_members)
open ControlStream (JSON_read Network Timely Socket put len)

section Items
variable {entries : List (String × Option cJSON)} {name : String} {found : cJSON}

/-- An object of entries as it is read. -/
structure Written (entries : List (String × Option cJSON)) (found : cJSON) : Prop where
  distinct : Distinct entries
  named : ∀ entry ∈ entries, Terminated entry.1
  read : heard (.object (written entries)) = some found

theorem item_heard (whole : Written entries found) {value : cJSON}
    (entry : (name, some value) ∈ entries) :
    cJSON_GetObjectItem found name = heard value := by
  have named : ∀ member ∈ written entries, Terminated member.1 := by
    intro member listed
    obtain ⟨source, origin, shape⟩ := List.mem_filterMap.mp listed
    obtain ⟨item, _, rfl⟩ := Option.map_eq_some_iff.mp shape
    exact whole.named source origin
  rw [get_heard whole.read named, get_written whole.distinct entry, Option.bind_some]

theorem number_item_heard (whole : Written entries found) {value : cJSON} (leaf : Leaf value)
    (number : hasType .cJSON_Number value = true) (entry : (name, some value) ∈ entries) :
    number_item found name = some (valueint value) := by
  rw [number_item, iperf_cJSON_GetObjectItemType, item_heard whole entry, heard_plain leaf.1]
  simp [number]

theorem double_item_heard (whole : Written entries found) {value : Rat} (double : IsDouble value)
    (entry : (name, some (.number value)) ∈ entries) :
    double_item found name = some (through value) := by
  rw [double_item, iperf_cJSON_GetObjectItemType, item_heard whole entry, heard_number double]
  rfl

theorem array_item_heard (whole : Written entries found) {items : List cJSON}
    (strings : ∀ item ∈ items, CStrings item) (entry : (name, some (.array items)) ∈ entries) :
    array_item found name = some (items.map fun item => (heard item).getD .null) := by
  rw [array_item, item_heard whole entry, heard_array strings]

theorem written_strings {entries : List (String × Option cJSON)}
    (named : ∀ entry ∈ entries, Terminated entry.1)
    (strings : ∀ entry ∈ entries, ∀ item ∈ entry.2, CStrings item) :
    CStringsMembers (written entries) := by
  induction entries with
  | nil => trivial
  | cons entry next ih =>
      obtain ⟨name, item⟩ := entry
      have others := ih (fun entry member => named entry (by simp [member]))
        fun entry member => strings entry (by simp [member])
      cases item with
      | none => exact others
      | some item =>
          exact ⟨named _ List.mem_cons_self, strings _ List.mem_cons_self item rfl, others⟩

theorem written_nesting {entries : List (String × Option cJSON)} {depth : Nat}
    (shallow : ∀ entry ∈ entries, ∀ item ∈ entry.2, nesting (tree item) ≤ depth) :
    nesting_members (tree_members (written entries)) ≤ depth := by
  induction entries with
  | nil => exact Nat.zero_le _
  | cons entry next ih =>
      obtain ⟨name, item⟩ := entry
      have others := ih fun entry member => shallow entry (by simp [member])
      cases item with
      | none => exact others
      | some item => exact max_le (shallow _ List.mem_cons_self item rfl) others

theorem double_zero : IsDouble 0 := ⟨⟨0, BinaryFloat.representable_zero, by norm_num⟩, rfl⟩

theorem ofInt_toNat (value : UInt64) : UInt64.ofInt value.toNat = value := by
  have bounded := value.toNat_lt
  exact UInt64.toNat.inj (by simp [UInt64.ofInt]; omega)

theorem int64_number_small {value : Int64} (small : value.toInt.natAbs < 2 ^ 53) :
    int64_number value = .number value.toInt := by
  have same : to_double value.toInt.natAbs = value.toInt.natAbs := if_pos small
  have signed : (if value.toInt < 0 then -(value.toInt.natAbs : Int) else value.toInt.natAbs) =
      value.toInt := by
    split <;> omega
  simp only [int64_number, same, signed]

theorem valueint_int64_number {value : Int64} (small : value.toInt.natAbs < 2 ^ 53) :
    valueint (int64_number value) = value.toInt := by
  rw [int64_number_small small]
  exact saturate_int (by simp only [LLONG_MIN]; omega) (by simp only [LLONG_MAX]; omega)

theorem leaf_int64 {value : Int64} (small : value.toInt.natAbs < 2 ^ 53) :
    Leaf (int64_number value) := by
  have bits : |value.toInt| ≤ 2 ^ 53 := abs_le.mpr ⟨by omega, by omega⟩
  rw [int64_number_small small]
  exact ⟨⟨value.toInt, rfl, by omega, by omega,
    BinaryFloat.representable_int (by decide) bits⟩, rfl⟩

end Items

section Stream
variable (test : iperf_test) (end_time : Int32 → Rat)

theorem stream_distinct (sp : iperf_stream) : Distinct (stream_entries test end_time sp) := by
  simp only [Distinct, stream_entries, List.map_cons, List.map_nil]
  decide +kernel

theorem stream_named (sp : iperf_stream) :
    ∀ entry ∈ stream_entries test end_time sp, Terminated entry.1 := by
  have names : ∀ name ∈ (stream_entries test end_time sp).map Prod.fst, Terminated name := by
    simp only [stream_entries, List.map_cons, List.map_nil]
    decide +kernel
  exact fun entry member => names entry.1 (List.mem_map_of_mem member)

/-- The items of a stream are numbers. -/
theorem stream_numbers (sp : iperf_stream) :
    ∀ entry ∈ stream_entries test end_time sp, ∀ item ∈ entry.2, ∃ value, item = .number value := by
  simp [stream_entries, int_number, int64_number, size_number]

theorem stream_strings (sp : iperf_stream) : CStrings (stream_object test end_time sp) := by
  apply written_strings (stream_named test end_time sp)
  intro entry member item listed
  obtain ⟨value, rfl⟩ := stream_numbers test end_time sp entry member item listed
  trivial

theorem stream_nesting (sp : iperf_stream) : nesting (tree (stream_object test end_time sp)) ≤ 1 := by
  have flat := @written_nesting (stream_entries test end_time sp) 0 (by
    intro entry member item listed
    obtain ⟨value, rfl⟩ := stream_numbers test end_time sp entry member item listed
    exact le_rfl)
  rw [stream_object, tree, nesting]
  omega

/-- The item as the other end reads it. -/
def heard_object (sp : iperf_stream) : cJSON := (heard (stream_object test end_time sp)).getD .null

theorem stream_written (sp : iperf_stream) :
    Written (stream_entries test end_time sp) (heard_object test end_time sp) := by
  obtain ⟨found, read⟩ := heard_some (stream_strings test end_time sp)
  refine ⟨stream_distinct test end_time sp, stream_named test end_time sp, ?_⟩
  rw [stream_object] at read
  rw [heard_object, stream_object, read]
  rfl

/-- The bytes that a stream reports. -/
def transferred (sp : iperf_stream) : UInt64 :=
  if sp.sender then sp.result.bytes_sent - sp.result.bytes_sent_omit else sp.result.bytes_received

/-- The report that `get_results` reads of a stream's item. -/
def report_of (sp : iperf_stream) : Report :=
  { sid := sp.id
    bytes_transferred := transferred sp
    retransmits :=
      if sp.sender ∧ test.sender_has_retransmits ≠ 0 then sp.result.stream_retrans.toInt32 else -1
    jitter := through sp.jitter
    cerror := sp.cnt_error
    pcount := sp.packet_count
    omitted := some (sp.omitted_cnt_error, sp.omitted_packet_count)
    elapsed := some (through (end_time sp.id) - through 0) }

/-- The counters that a stream sends are exact as doubles, and its jitter is one. -/
structure Exact (sp : iperf_stream) : Prop where
  bytes : (transferred sp).toNat < 2 ^ 53
  errors : sp.cnt_error.toInt.natAbs < 2 ^ 53
  omitted_errors : sp.omitted_cnt_error.toInt.natAbs < 2 ^ 53
  packets : sp.packet_count.toInt.natAbs < 2 ^ 53
  omitted_packets : sp.omitted_packet_count.toInt.natAbs < 2 ^ 53
  jitter : IsDouble sp.jitter

theorem read_stream_object {sp : iperf_stream} (exact_ : Exact sp)
    (ended : ∀ id, IsDouble (end_time id)) :
    read_report (heard_object test end_time sp) = some (report_of test end_time sp) := by
  have whole := stream_written test end_time sp
  have int : ∀ {name : String} {value : Int32},
      (name, some (int_number value)) ∈ stream_entries test end_time sp →
      number_item (heard_object test end_time sp) name = some value.toInt := by
    intro name value entry
    rw [number_item_heard whole (leaf_int value) rfl entry, valueint_int_number]
  have int64 : ∀ {name : String} {value : Int64}, value.toInt.natAbs < 2 ^ 53 →
      (name, some (int64_number value)) ∈ stream_entries test end_time sp →
      number_item (heard_object test end_time sp) name = some value.toInt := by
    intro name value small entry
    rw [number_item_heard whole (leaf_int64 small) rfl entry, valueint_int64_number small]
  have double : ∀ {name : String} {value : Rat}, IsDouble value →
      (name, some (.number value)) ∈ stream_entries test end_time sp →
      double_item (heard_object test end_time sp) name = some (through value) :=
    fun double entry => double_item_heard whole double entry
  have bytes : number_item (heard_object test end_time sp) "bytes" =
      some ((transferred sp).toNat : Int) := by
    have entry : ("bytes", some (size_number (transferred sp))) ∈
        stream_entries test end_time sp := by simp [stream_entries, transferred]
    have small := exact_.bytes
    rw [number_item_heard whole (leaf_size (by omega)) rfl entry,
      valueint_size_number exact_.bytes]
  have id : number_item (heard_object test end_time sp) "id" = some sp.id.toInt :=
    int (by simp [stream_entries])
  have retransmits : number_item (heard_object test end_time sp) "retransmits" =
      some (report_of test end_time sp).retransmits.toInt :=
    int (by simp [stream_entries, report_of])
  have jitter : double_item (heard_object test end_time sp) "jitter" = some (through sp.jitter) :=
    double exact_.jitter (by simp [stream_entries])
  have errors : number_item (heard_object test end_time sp) "errors" = some sp.cnt_error.toInt :=
    int64 exact_.errors (by simp [stream_entries])
  have omitted_errors : number_item (heard_object test end_time sp) "omitted_errors" =
      some sp.omitted_cnt_error.toInt :=
    int64 exact_.omitted_errors (by simp [stream_entries])
  have packets : number_item (heard_object test end_time sp) "packets" =
      some sp.packet_count.toInt :=
    int64 exact_.packets (by simp [stream_entries])
  have omitted_packets : number_item (heard_object test end_time sp) "omitted_packets" =
      some sp.omitted_packet_count.toInt :=
    int64 exact_.omitted_packets (by simp [stream_entries])
  have started : double_item (heard_object test end_time sp) "start_time" = some (through 0) :=
    double double_zero (by simp [stream_entries])
  have ended : double_item (heard_object test end_time sp) "end_time" =
      some (through (end_time sp.id)) :=
    double (ended sp.id) (by simp [stream_entries])
  simp only [read_report, id, bytes, retransmits, jitter, errors, packets, read_omitted,
    omitted_errors, omitted_packets, read_elapsed, started, ended, Option.map_some]
  simp [report_of, ofInt_toNat]

variable (own : iperf_test) (ended : ∀ id, IsDouble (end_time id))
include ended

theorem receive_object {peer : iperf_stream} (exact_ : Exact peer) (sp : iperf_stream) :
    receive own (heard_object test end_time peer) sp =
      if sp.id = peer.id then apply_report own (report_of test end_time peer) sp else sp := by
  rw [receive, read_stream_object test end_time exact_ ended]
  rfl

theorem received_foreign {peers : List iperf_stream} {sp : iperf_stream}
    (all : ∀ peer ∈ peers, Exact peer) (absent : sp.id ∉ peers.map iperf_stream.id) :
    received own (peers.map (heard_object test end_time)) sp = sp := by
  induction peers with
  | nil => rfl
  | cons peer rest ih =>
      obtain ⟨first, others⟩ := List.forall_mem_cons.mp all
      obtain ⟨differs, absent⟩ := not_or.mp (fun found => absent (List.mem_cons.mpr found))
      have step := receive_object test end_time own ended first sp
      rw [if_neg differs] at step
      simp only [received, List.map_cons, List.foldl_cons, step]
      exact ih others absent

/-- Among the items of streams with different ids, a stream's own one counts. -/
theorem received_own {peers : List iperf_stream} {peer sp : iperf_stream}
    (distinct : (peers.map iperf_stream.id).Nodup) (all : ∀ peer ∈ peers, Exact peer)
    (member : peer ∈ peers) (same : sp.id = peer.id) :
    received own (peers.map (heard_object test end_time)) sp =
      apply_report own (report_of test end_time peer) sp := by
  induction peers with
  | nil => cases member
  | cons head rest ih =>
      obtain ⟨first, others⟩ := List.forall_mem_cons.mp all
      obtain ⟨fresh, distinct⟩ := List.nodup_cons.mp distinct
      have step := receive_object test end_time own ended first sp
      rcases List.mem_cons.mp member with rfl | later
      · rw [if_pos same] at step
        simp only [received, List.map_cons, List.foldl_cons, step]
        apply received_foreign test end_time own ended others
        rw [apply_report_id, same]
        exact fresh
      · have differs : sp.id ≠ head.id := fun equal =>
          fresh (List.mem_map.mpr ⟨peer, later, same.symm.trans equal⟩)
        rw [if_neg differs] at step
        simp only [received, List.map_cons, List.foldl_cons, step]
        exact ih distinct others later

end Stream

section Message
variable {end_time : Int32 → Rat}

/-- What an end sends besides the counters: doubles, strings of C, and an output that is not
nested too deeply. -/
structure Printable (end_time : Int32 → Rat) (own : Endpoint) : Prop where
  total : IsDouble own.cpu_util.total
  user : IsDouble own.cpu_util.user
  system : IsDouble own.cpu_util.system
  ended : ∀ id, IsDouble (end_time id)
  congestion_used : ∀ value ∈ own.test.congestion_used, Terminated value
  server_output_text : Terminated (String.join own.server_output_list)
  server_output_json : CStrings own.json_top
  shallow : nesting (tree own.json_top) < CjsonParse.CJSON_NESTING_LIMIT

theorem results_distinct (peer : Endpoint) : Distinct (results_entries end_time peer) := by
  simp only [Distinct, results_entries, List.map_cons, List.map_nil]
  decide +kernel

theorem results_named (peer : Endpoint) :
    ∀ entry ∈ results_entries end_time peer, Terminated entry.1 := by
  have names : ∀ name ∈ (results_entries end_time peer).map Prod.fst, Terminated name := by
    simp only [results_entries, List.map_cons, List.map_nil]
    decide +kernel
  exact fun entry member => names entry.1 (List.mem_map_of_mem member)

theorem streams_nesting (test : iperf_test) (streams : List iperf_stream) :
    nesting_elements (tree_elements (streams.map (stream_object test end_time))) ≤ 1 := by
  induction streams with
  | nil => exact Nat.zero_le _
  | cons sp rest ih => exact max_le (stream_nesting test end_time sp) ih

theorem streams_strings (test : iperf_test) (streams : List iperf_stream) :
    CStringsElements (streams.map (stream_object test end_time)) := by
  induction streams with
  | nil => trivial
  | cons sp rest ih => exact ⟨stream_strings test end_time sp, ih⟩

theorem results_items {peer : Endpoint} (printable : Printable end_time peer) :
    ∀ entry ∈ results_entries end_time peer, ∀ item ∈ entry.2,
      CStrings item ∧ nesting (tree item) < CjsonParse.CJSON_NESTING_LIMIT := by
  have number : ∀ value, CStrings (.number value) ∧
      nesting (tree (.number value)) < CjsonParse.CJSON_NESTING_LIMIT :=
    fun value => ⟨trivial, Nat.succ_pos _⟩
  have string : ∀ {value}, Terminated value → CStrings (.string value) ∧
      nesting (tree (.string value)) < CjsonParse.CJSON_NESTING_LIMIT :=
    fun terminated => ⟨terminated, Nat.succ_pos _⟩
  intro entry member item listed
  simp only [results_entries, List.mem_cons, List.not_mem_nil, or_false] at member
  rcases member with rfl | rfl | rfl | rfl | rfl | rfl | rfl | rfl
  · obtain rfl := Option.some.inj listed
    exact number _
  · obtain rfl := Option.some.inj listed
    exact number _
  · obtain rfl := Option.some.inj listed
    exact number _
  · obtain rfl := Option.some.inj listed
    exact number _
  · obtain ⟨value, used, rfl⟩ := Option.map_eq_some_iff.mp listed
    exact string (printable.congestion_used value used)
  · obtain rfl : peer.json_top = item := by simpa using (Option.ite_none_right_eq_some.mp listed).2
    exact ⟨printable.server_output_json, printable.shallow⟩
  · obtain rfl : .string (String.join peer.server_output_list) = item := by
      simpa using (Option.ite_none_right_eq_some.mp listed).2
    exact string printable.server_output_text
  · obtain rfl := Option.some.inj listed
    refine ⟨streams_strings peer.test peer.streams, ?_⟩
    have flat := @streams_nesting end_time peer.test peer.streams
    rw [tree, nesting, CjsonParse.CJSON_NESTING_LIMIT]
    omega

/-- The text of the results, and what is parsed of it. -/
theorem results_printed {peer : Endpoint} (printable : Printable end_time peer) :
    0 < len cJSON_PrintUnformatted (send_results end_time peer) ∧
      ∃ j, cJSON_Parse (cJSON_PrintUnformatted (send_results end_time peer)).val = some j ∧
        Written (results_entries end_time peer) j := by
  have items := results_items printable
  have strings : CStrings (send_results end_time peer) :=
    written_strings (results_named peer) fun entry member item listed =>
      (items entry member item listed).1
  have flat := @written_nesting (results_entries end_time peer)
    (CjsonParse.CJSON_NESTING_LIMIT - 1) fun entry member item listed => by
      have shallow := (items entry member item listed).2
      omega
  have shallow : nesting (tree (send_results end_time peer)) ≤ CjsonParse.CJSON_NESTING_LIMIT := by
    rw [send_results, tree, nesting]
    simp only [CjsonParse.CJSON_NESTING_LIMIT] at flat ⊢
    omega
  obtain ⟨j, read⟩ := heard_some strings
  refine ⟨?_, j, (parse_printed shallow).trans read, results_distinct peer, results_named peer,
    read⟩
  simp [len, cJSON_PrintUnformatted, send_results, tree, CjsonItem.text]

theorem results_summary {peer : Endpoint} {j : cJSON} (printable : Printable end_time peer)
    (whole : Written (results_entries end_time peer) j) :
    double_item j "cpu_util_total" = some (through peer.cpu_util.total) ∧
      double_item j "cpu_util_user" = some (through peer.cpu_util.user) ∧
      double_item j "cpu_util_system" = some (through peer.cpu_util.system) ∧
      (number_item j "sender_has_retransmits").isSome ∧
      array_item j "streams" = some (peer.streams.map (heard_object peer.test end_time)) := by
  refine ⟨?_, ?_, ?_, ?_, ?_⟩
  · exact double_item_heard whole printable.total (by simp [results_entries])
  · exact double_item_heard whole printable.user (by simp [results_entries])
  · exact double_item_heard whole printable.system (by simp [results_entries])
  · have entry : ("sender_has_retransmits", some (int_number
        (if peer.test.mode = .RECEIVER then -1 else peer.test.sender_has_retransmits))) ∈
        results_entries end_time peer := by simp [results_entries]
    rw [number_item_heard whole (leaf_int _) rfl entry]
    rfl
  · have strings : ∀ item ∈ peer.streams.map (stream_object peer.test end_time),
        CStrings item := by
      intro item listed
      obtain ⟨sp, _, rfl⟩ := List.mem_map.mp listed
      exact stream_strings peer.test end_time sp
    rw [array_item_heard whole strings (by simp [results_entries]), List.map_map]
    rfl

/-- The results of a peer with the same streams are read without an error. -/
theorem get_results_sent {own peer : Endpoint} {j : cJSON} (printable : Printable end_time peer)
    (whole : Written (results_entries end_time peer) j) (all : ∀ sp ∈ peer.streams, Exact sp)
    (distinct : (own.streams.map iperf_stream.id).Nodup)
    (ids : own.streams.map iperf_stream.id = peer.streams.map iperf_stream.id) :
    (get_results own (some j)).1 = none ∧
      (get_results own (some j)).2.streams =
        own.streams.map
          (received own.test (peer.streams.map (heard_object peer.test end_time))) := by
  obtain ⟨total, user, system, retransmits, items⟩ := results_summary printable whole
  obtain ⟨result_has_retransmits, retransmits⟩ := Option.isSome_iff_exists.mp retransmits
  constructor
  · simp only [get_results, total, user, system, retransmits, items]
    apply get_streams_known _ distinct
    intro j_stream listed
    obtain ⟨sp, member, rfl⟩ := List.mem_map.mp listed
    refine ⟨_, read_stream_object peer.test end_time (all sp member) printable.ended, ?_⟩
    rw [ids]
    exact List.mem_map.mpr ⟨sp, member, rfl⟩
  · rw [get_results_streams own _ distinct]
    simp only [j_streams, total, user, system, retransmits, items, Option.getD_some]

/-- What an end sends besides the counters is not touched by the peer's results. -/
theorem get_results_printable {own : Endpoint} (j : Option cJSON)
    (printable : Printable end_time own) : Printable end_time (get_results own j).2 := by
  obtain ⟨total, user, system, ended, congestion, text, output, shallow⟩ := printable
  have kept : ∀ result_has_retransmits : Int32,
      (read_retransmits result_has_retransmits own.test).congestion_used =
        own.test.congestion_used := by
    intro result_has_retransmits
    unfold read_retransmits
    split_ifs <;> rfl
  cases j with
  | none => exact ⟨total, user, system, ended, congestion, text, output, shallow⟩
  | some j =>
      unfold get_results
      dsimp only
      split
      · split
        · refine ⟨total, user, system, ended, ?_, text, output, shallow⟩
          simpa only [kept] using congestion
        · unfold read_output
          split
          · split
            · refine ⟨total, user, system, ended, ?_, text, output, shallow⟩
              simpa only [kept] using congestion
            · refine ⟨total, user, system, ended, ?_, text, output, shallow⟩
              simpa only [kept] using congestion
          · refine ⟨total, user, system, ended, ?_, text, output, shallow⟩
            simpa only [kept] using congestion
      · exact ⟨total, user, system, ended, congestion, text, output, shallow⟩

end Message

section Exchange
variable (network : Network) (end_time : Int32 → Rat) (own : Endpoint) (socket : Socket)

/-- One end's exchange over the connection: `i_errno` when it fails, what it writes, and the
end afterwards. -/
def iperf_exchange_results : Option ResultsErrno × List UInt8 × Endpoint :=
  if own.test.role = .c then
    let written := put cJSON_PrintUnformatted (.frame (send_results end_time own) 0)
    let (errno, own) := get_results own (JSON_read cJSON_Parse network 0 socket).1
    (errno, written, own)
  else
    let (errno, own) := get_results own (JSON_read cJSON_Parse network 0 socket).1
    if errno = none then
      (none, put cJSON_PrintUnformatted (.frame (send_results end_time own) 0), own)
    else (errno, [], own)

variable {network end_time own socket}

/-- The client writes before it reads. -/
theorem exchange_client (role : own.test.role = .c) :
    iperf_exchange_results network end_time own socket =
      ((get_results own (JSON_read cJSON_Parse network 0 socket).1).1,
        put cJSON_PrintUnformatted (.frame (send_results end_time own) 0),
        (get_results own (JSON_read cJSON_Parse network 0 socket).1).2) := by
  simp [iperf_exchange_results, role]

/-- The server writes its results with those of the client applied. -/
theorem exchange_server (role : own.test.role ≠ .c)
    (done : (get_results own (JSON_read cJSON_Parse network 0 socket).1).1 = none) :
    iperf_exchange_results network end_time own socket =
      (none,
        put cJSON_PrintUnformatted
          (.frame (send_results end_time
            (get_results own (JSON_read cJSON_Parse network 0 socket).1).2) 0),
        (get_results own (JSON_read cJSON_Parse network 0 socket).1).2) := by
  simp [iperf_exchange_results, role, done]

/-- The results of a peer, read off the connection. -/
theorem results_arrive {peer : Endpoint} {tail : List UInt8} {reads : Nat}
    (timely : Timely network) (printable : Printable end_time peer)
    (short : len cJSON_PrintUnformatted (send_results end_time peer) < 2 ^ 31) :
    ∃ j, (JSON_read cJSON_Parse network 0
        ⟨put cJSON_PrintUnformatted (.frame (send_results end_time peer) 0) ++ tail, reads⟩).1 =
        some j ∧ Written (results_entries end_time peer) j := by
  obtain ⟨some_text, j, parsed, whole⟩ := results_printed printable
  have read := @ControlStream.JSON_read_text cJSON_PrintUnformatted cJSON_Parse network timely
    (send_results end_time peer) 0 tail
    ⟨put cJSON_PrintUnformatted (.frame (send_results end_time peer) 0) ++ tail, reads⟩
    ⟨le_rfl, short⟩ (fun refused => refused.1 rfl) rfl
  refine ⟨j, ?_, whole⟩
  rw [read.1, if_pos some_text, parsed]

end Exchange

/-- Two doubles that one of the texts of cJSON makes of another. -/
def Near (a b : Rat) : Prop := |a - b| ≤ 2 ^ (-52 : Int) * max |a| |b| + 2 ^ (-1075 : Int)

/-- The numbers of one stream at its sending and at its receiving end. -/
structure Agree (sending receiving : iperf_stream) : Prop where
  bytes_sent : sending.result.bytes_sent - sending.result.bytes_sent_omit =
    receiving.result.bytes_sent - receiving.result.bytes_sent_omit
  bytes_received : sending.result.bytes_received = receiving.result.bytes_received
  cnt_error : sending.cnt_error = receiving.cnt_error
  omitted_cnt_error : sending.omitted_cnt_error = receiving.omitted_cnt_error
  jitter : Near sending.jitter receiving.jitter
  sender_packets : sending.packet_count = receiving.peer_packet_count
  sender_omitted : sending.omitted_packet_count = receiving.peer_omitted_packet_count
  receiver_packets : sending.peer_packet_count = receiving.packet_count
  receiver_omitted : sending.peer_omitted_packet_count = receiving.omitted_packet_count

/-- A client and a server of one test, not over QUIC. -/
structure Peers (client server : iperf_test) : Prop where
  client_role : client.role = .c
  server_role : server.role = .s
  protocol : client.protocol ≠ .Pquic
  mode : server.mode = client.mode.complement
  num_streams : server.num_streams = client.num_streams

section Streams
variable {client server : Endpoint}

theorem Peers.directions (peers : Peers client.test server.test) :
    directions server.test = (directions client.test).map (! ·) := by
  have other : client.test.role ≠ .s := by simp [peers.client_role]
  rw [StreamResults.directions, StreamResults.directions, if_pos peers.server_role, if_neg other,
    peers.num_streams, peers.mode]
  cases client.test.mode <;>
    simp [server_directions, client_directions, iperf_create_streams, Mode.complement]

theorem Peers.ids (peers : Peers client.test server.test)
    (client_events server_events : List Event) :
    (tested client client_events).streams.map iperf_stream.id =
      (tested server server_events).streams.map iperf_stream.id := by
  rw [tested_ids, tested_ids, peers.directions, List.length_map]

/-- Streams of one id have opposite directions at the two ends. -/
theorem Peers.opposite (peers : Peers client.test server.test)
    {client_events server_events : List Event} {sp other : iperf_stream}
    (one : sp ∈ (tested client client_events).streams)
    (two : other ∈ (tested server server_events).streams) (same : sp.id = other.id) :
    other.sender = ! sp.sender := by
  rw [tested_streams] at one two
  obtain ⟨⟨sends, index⟩, listed, rfl⟩ := List.mem_map.mp one
  obtain ⟨⟨receives, position⟩, found, rfl⟩ := List.mem_map.mp two
  rw [List.mem_zipIdx_iff_getElem?] at listed found
  have short := directions_length client.test
  have inside := (List.getElem?_eq_some_iff.mp listed).1
  have within_ := (List.getElem?_eq_some_iff.mp found).1
  rw [peers.directions, List.length_map] at within_
  simp only [after_id] at same
  obtain rfl := stream_id_inj (by omega) (by omega) same
  rw [peers.directions, List.getElem?_map, listed] at found
  simpa using found.symm

end Streams

section Applied
variable {test : iperf_test} {end_time : Int32 → Rat} {own : iperf_test} {peer sp : iperf_stream}

/-- A stream stays exact when it takes over exact numbers. -/
theorem applied_exact (quic : ¬ (own.protocol = .Pquic ∧ own.role = .c)) (exact_ : Exact sp)
    (peer_exact : Exact peer) (jitter : IsDouble (through peer.jitter)) :
    Exact (apply_report own (report_of test end_time peer) sp) := by
  cases sender : sp.sender with
  | true =>
      have bytes := exact_.bytes
      simp only [transferred, sender, if_true] at bytes
      simp only [apply_report, sender, if_true, apply_to_sender, if_neg quic]
      exact ⟨by simpa [transferred, sender] using bytes, peer_exact.errors,
        peer_exact.omitted_errors, exact_.packets, exact_.omitted_packets, jitter⟩
  | false =>
      have bytes := exact_.bytes
      simp only [transferred, sender] at bytes
      simp only [apply_report, sender, apply_to_receiver]
      exact ⟨by simpa [transferred, sender] using bytes, exact_.errors,
        exact_.omitted_errors, exact_.packets, exact_.omitted_packets, exact_.jitter⟩

/-- The server's side of a stream takes over the client's numbers, and then the
client's side those of the server. -/
theorem applied_agree {other : iperf_test} {other_time : Int32 → Rat} {client server : iperf_stream}
    (client_quic : ¬ (test.protocol = .Pquic ∧ test.role = .c))
    (server_quic : ¬ (own.protocol = .Pquic ∧ own.role = .c))
    (opposite : server.sender = ! client.sender) (client_unsent : Unsent client)
    (server_unsent : Unsent server) (client_near : Near (through client.jitter) client.jitter)
    (server_near : Near (through server.jitter) server.jitter) :
    let served := apply_report own (report_of test end_time client) server
    let asked := apply_report test (report_of other other_time served) client
    Agree (if client.sender then asked else served) (if client.sender then served else asked) := by
  cases sender : client.sender with
  | true =>
      have receives : server.sender = false := by rw [opposite, sender]; rfl
      obtain ⟨_, unsent⟩ := server_unsent receives
      simp only [if_true]
      constructor <;>
        simp [apply_report, sender, receives, apply_to_sender, apply_to_receiver, report_of,
          transferred, client_quic, unsent, server_near]
  | false =>
      have sends : server.sender = true := by rw [opposite, sender]; rfl
      obtain ⟨_, unsent⟩ := client_unsent sender
      simp only
      constructor <;>
        simp [apply_report, sender, sends, apply_to_sender, apply_to_receiver, report_of,
          transferred, server_quic, unsent, client_near]

end Applied

theorem received_ids (test : iperf_test) (items : List cJSON) (streams : List iperf_stream) :
    (streams.map (received test items)).map iperf_stream.id = streams.map iperf_stream.id := by
  rw [List.map_map]
  exact List.map_congr_left fun sp _ => received_id test items sp

/-- Every stream takes over the results of the peer's stream of its id. -/
theorem received_all {own test : iperf_test} {end_time : Int32 → Rat}
    {streams peers : List iperf_stream} (ended : ∀ id, IsDouble (end_time id))
    (ids : peers.map iperf_stream.id = streams.map iperf_stream.id)
    (distinct : (peers.map iperf_stream.id).Nodup) (all : ∀ peer ∈ peers, Exact peer) :
    ∀ sp' ∈ streams.map (received own (peers.map (heard_object test end_time))),
      ∃ peer ∈ peers, ∃ sp ∈ streams, peer.id = sp.id ∧
        sp' = apply_report own (report_of test end_time peer) sp := by
  intro sp' listed
  obtain ⟨sp, member, rfl⟩ := List.mem_map.mp listed
  have known : sp.id ∈ peers.map iperf_stream.id := by
    rw [ids]
    exact List.mem_map.mpr ⟨sp, member, rfl⟩
  obtain ⟨peer, found, same⟩ := List.mem_map.mp known
  exact ⟨peer, found, sp, member, same,
    received_own test end_time own ended distinct all found same.symm⟩

theorem tested_unsent {own : Endpoint} {events : List Event} {sp : iperf_stream}
    (listed : sp ∈ (tested own events).streams) : Unsent sp := by
  rw [tested_streams] at listed
  obtain ⟨entry, _, rfl⟩ := List.mem_map.mp listed
  exact after_keeps events count_unsent fun _ => ⟨rfl, rfl⟩

section Agreement
variable {client server client' server' : Endpoint} {client_events server_events : List Event}
  {client_time server_time : Int32 → Rat} {client_network server_network : Network}
  {to_server to_client client_tail server_tail : List UInt8} {client_reads server_reads : Nat}
  {client_errno server_errno : Option ResultsErrno}

/-- Both ends report the same numbers, and the same jitter up to its text: when no counter
moves during the exchange, it succeeds at both ends, and every stream has the same results
at its two ends. -/
theorem results_agree (peers : Peers client.test server.test)
    (client_exact : ∀ sp ∈ (tested client client_events).streams, Exact sp)
    (server_exact : ∀ sp ∈ (tested server server_events).streams, Exact sp)
    (client_jitter : ∀ sp ∈ (tested client client_events).streams, |sp.jitter| < 2 ^ 1000)
    (server_jitter : ∀ sp ∈ (tested server server_events).streams, |sp.jitter| < 2 ^ 1000)
    (client_printable : Printable client_time (tested client client_events))
    (server_printable : Printable server_time (tested server server_events))
    (client_timely : Timely client_network) (server_timely : Timely server_network)
    (client_ran : iperf_exchange_results client_network client_time (tested client client_events)
      ⟨to_client ++ client_tail, client_reads⟩ = (client_errno, to_server, client'))
    (server_ran : iperf_exchange_results server_network server_time (tested server server_events)
      ⟨to_server ++ server_tail, server_reads⟩ = (server_errno, to_client, server'))
    (client_short : len cJSON_PrintUnformatted
      (send_results client_time (tested client client_events)) < 2 ^ 31)
    (server_short : len cJSON_PrintUnformatted (send_results server_time server') < 2 ^ 31) :
    client_errno = none ∧ server_errno = none ∧
      client'.streams.map iperf_stream.id = server'.streams.map iperf_stream.id ∧
      ∀ sp ∈ client'.streams, ∀ other ∈ server'.streams, sp.id = other.id →
        other.sender = (! sp.sender) ∧
          Agree (if sp.sender then sp else other) (if sp.sender then other else sp) := by
  have ids := peers.ids client_events server_events
  have client_distinct := tested_distinct client client_events
  have server_distinct := tested_distinct server server_events
  have server_quic : ¬ (server.test.protocol = .Pquic ∧ server.test.role = .c) := by
    simp [peers.server_role]
  have client_quic : ¬ (client.test.protocol = .Pquic ∧ client.test.role = .c) :=
    fun quic => peers.protocol quic.1
  have client_role : (tested client client_events).test.role = .c := peers.client_role
  rw [exchange_client client_role] at client_ran
  simp only [Prod.mk.injEq] at client_ran
  obtain ⟨client_failed, rfl, client_after⟩ := client_ran
  obtain ⟨asked_json, to_server, asked_whole⟩ :=
    results_arrive server_timely client_printable client_short
  obtain ⟨server_read, served⟩ :=
    get_results_sent client_printable asked_whole client_exact server_distinct ids.symm
  rw [← to_server] at server_read served
  have server_other : (tested server server_events).test.role ≠ .c := by
    simp [tested, peers.server_role]
  rw [exchange_server server_other server_read] at server_ran
  simp only [Prod.mk.injEq] at server_ran
  obtain ⟨rfl, rfl, server_after⟩ := server_ran
  have served_printable := get_results_printable (JSON_read cJSON_Parse server_network 0
    ⟨put cJSON_PrintUnformatted (.frame (send_results client_time (tested client client_events)) 0)
      ++ server_tail, server_reads⟩).1 server_printable
  rw [server_after] at client_failed client_after served served_printable
  obtain ⟨served_json, to_client, served_whole⟩ :=
    results_arrive client_timely served_printable server_short
  rw [to_client] at client_failed client_after
  have server_streams : ∀ served ∈ server'.streams,
      ∃ sp ∈ (tested client client_events).streams,
        ∃ other ∈ (tested server server_events).streams, sp.id = other.id ∧
          served = apply_report server.test (report_of client.test client_time sp) other := by
    rw [served]
    exact received_all client_printable.ended ids client_distinct client_exact
  have server'_exact : ∀ served ∈ server'.streams, Exact served := by
    intro served listed
    obtain ⟨sp, member, other, found, _, rfl⟩ := server_streams served listed
    exact applied_exact server_quic (server_exact other found) (client_exact sp member)
      (through_near (client_exact sp member).jitter (client_jitter sp member)).1
  have server'_ids : server'.streams.map iperf_stream.id =
      (tested client client_events).streams.map iperf_stream.id := by
    rw [served, received_ids, ids]
  obtain ⟨client_read, asked⟩ := get_results_sent served_printable served_whole server'_exact
    client_distinct server'_ids.symm
  rw [client_after] at asked
  refine ⟨client_failed.symm.trans client_read, rfl, ?_, ?_⟩
  · rw [asked, received_ids, server'_ids]
  · intro sp' listed other' found same
    rw [asked] at listed
    obtain ⟨sp, member, rfl⟩ := List.mem_map.mp listed
    obtain ⟨peer, peer_member, other, other_member, peer_same, rfl⟩ := server_streams other' found
    rw [received_id, apply_report_id] at same
    obtain rfl := List.inj_on_of_nodup_map client_distinct member peer_member
      (same.trans peer_same.symm)
    have own := received_own server'.test server_time client.test served_printable.ended
      (server'_ids ▸ client_distinct) server'_exact found
      (same.trans (apply_report_id _ _ _).symm)
    have opposite := peers.opposite member other_member same
    have client_near := (through_near (client_exact sp member).jitter (client_jitter sp member)).2
    have server_near :=
      (through_near (server_exact other other_member).jitter (server_jitter other other_member)).2
    have agree := @applied_agree client.test client_time server.test server'.test server_time
      sp other client_quic server_quic opposite (tested_unsent member) (tested_unsent other_member)
      client_near server_near
    have asked_shape : (tested client client_events).test = client.test := rfl
    rw [asked_shape, own, apply_report_sender, apply_report_sender]
    exact ⟨opposite, agree⟩

end Agreement

section Samples

/-- A UDP test with one stream from the client. -/
def sample_client : Endpoint :=
  { test := { role := .c, protocol := .Pudp, mode := .SENDER, num_streams := 1 }
    streams := []
    cpu_util := { total := 1 } }

def sample_server : Endpoint :=
  { test := { role := .s, protocol := .Pudp, mode := .RECEIVER, num_streams := 1 }
    streams := []
    cpu_util := { total := 2 } }

/-- 1.2500000000000002e-07, which two transits of 1 and 3 microseconds leave. -/
def sample_jitter : Rat := 4722366482869646 * 2 ^ (-75 : Int)

def sample_sent : List Event := [.sent 1 1460 1, .reset, .sent 1 1460 2]

def sample_received : List Event :=
  [.received 1 1460 1 0 0, .reset, .received 1 1460 2 0 sample_jitter]

def ten_seconds : Int32 → Rat := fun _ => 10

/-- The server with the results of the client. -/
def served : Endpoint :=
  (get_results (tested sample_server sample_received)
    (heard (send_results ten_seconds (tested sample_client sample_sent)))).2

/-- What the two ends write. -/
def to_server : List UInt8 :=
  put cJSON_PrintUnformatted
    (.frame (send_results ten_seconds (tested sample_client sample_sent)) 0)

def to_client : List UInt8 := put cJSON_PrintUnformatted (.frame (send_results ten_seconds served) 0)

/-- The client with the results of the server. -/
def asked : Endpoint :=
  (get_results (tested sample_client sample_sent) (heard (send_results ten_seconds served))).2

theorem double_int {count : Int} (small : |count| ≤ 2 ^ 53) : IsDouble count := by
  have bound : |(count : ℚ)| ≤ 2 ^ 53 := by exact_mod_cast small
  exact ⟨⟨count, BinaryFloat.representable_int (by decide) small,
    bound.trans_lt (pow_lt_pow_right₀ (by norm_num) (by decide))⟩, rfl⟩

theorem sample_jitter_small : |sample_jitter| < 2 ^ 1000 := by
  have one : |sample_jitter| < 1 := by decide +kernel
  exact one.trans (one_lt_pow₀ (by norm_num) (by decide))

theorem sample_jitter_double : IsDouble sample_jitter :=
  ⟨⟨sample_jitter, ⟨4722366482869646, -75, by decide, by decide, by norm_num [sample_jitter]⟩,
    sample_jitter_small.trans (pow_lt_pow_right₀ (by norm_num) (by decide))⟩, rfl⟩

theorem sample_printable (own : Endpoint) (congestion : own.test.congestion_used = none)
    (text : own.server_output_list = []) (output : own.json_top = .null)
    (total : own.cpu_util = { total := 1 } ∨ own.cpu_util = { total := 2 }) :
    Printable ten_seconds own := by
  have util : IsDouble own.cpu_util.total ∧ IsDouble own.cpu_util.user ∧
      IsDouble own.cpu_util.system := by
    have one : IsDouble 1 := @double_int 1 (by decide)
    have two : IsDouble 2 := @double_int 2 (by decide)
    rcases total with shape | shape
    · rw [shape]
      exact ⟨one, double_zero, double_zero⟩
    · rw [shape]
      exact ⟨two, double_zero, double_zero⟩
  refine ⟨util.1, util.2.1, util.2.2, fun _ => @double_int 10 (by decide), ?_, ?_, ?_, ?_⟩
  · simp [congestion]
  · rw [text]
    decide +kernel
  · rw [output]
    trivial
  · rw [output]
    decide

theorem client_printable : Printable ten_seconds (tested sample_client sample_sent) :=
  sample_printable _ rfl rfl rfl (.inl rfl)

theorem server_printable : Printable ten_seconds (tested sample_server sample_received) :=
  sample_printable _ rfl rfl rfl (.inr rfl)

/-- What the two ends make of the two messages, evaluated at once. -/
theorem sample_computed :
    len cJSON_PrintUnformatted (send_results ten_seconds (tested sample_client sample_sent)) <
        2 ^ 31 ∧
      (get_results (tested sample_server sample_received)
        (heard (send_results ten_seconds (tested sample_client sample_sent)))).1 = none ∧
      len cJSON_PrintUnformatted (send_results ten_seconds served) < 2 ^ 31 ∧
      (get_results (tested sample_client sample_sent)
        (heard (send_results ten_seconds served))).1 = none ∧
      served.streams.map (·.jitter) = [sample_jitter] ∧
      asked.streams.map (·.jitter) ≠ served.streams.map (·.jitter) := by
  decide +kernel

/-- The run of the two ends. -/
theorem sample_server_ran :
    iperf_exchange_results ControlStream.bytewise ten_seconds
      (tested sample_server sample_received) ⟨to_server ++ [], 0⟩ = (none, to_client, served) := by
  obtain ⟨j, arrived, whole⟩ := @results_arrive ControlStream.bytewise ten_seconds
    (tested sample_client sample_sent) [] 0 ControlStream.bytewise_timely client_printable
    sample_computed.1
  have heard_json : heard (send_results ten_seconds (tested sample_client sample_sent)) = some j :=
    whole.read
  have known := sample_computed.2.1
  rw [heard_json] at known
  rw [to_server, exchange_server (by decide) (by rw [arrived]; exact known), arrived, ← heard_json]
  rfl

theorem sample_client_ran :
    iperf_exchange_results ControlStream.bytewise ten_seconds (tested sample_client sample_sent)
      ⟨to_client ++ [], 0⟩ = (none, to_server, asked) := by
  have printable : Printable ten_seconds served := get_results_printable _ server_printable
  obtain ⟨j, arrived, whole⟩ := @results_arrive ControlStream.bytewise ten_seconds served [] 0
    ControlStream.bytewise_timely printable sample_computed.2.2.1
  have heard_json : heard (send_results ten_seconds served) = some j := whole.read
  have known := sample_computed.2.2.2.1
  rw [to_client, exchange_client rfl, arrived, ← heard_json, known]
  rfl

theorem results_agree_sample :
    asked.streams.map iperf_stream.id = served.streams.map iperf_stream.id ∧
      ∀ sp ∈ asked.streams, ∀ other ∈ served.streams, sp.id = other.id →
        other.sender = (! sp.sender) ∧
          Agree (if sp.sender then sp else other) (if sp.sender then other else sp) := by
  have peers : Peers sample_client.test sample_server.test := ⟨rfl, rfl, by decide, rfl, rfl⟩
  have client_stream : ∀ sp ∈ (tested sample_client sample_sent).streams,
      Exact sp ∧ |sp.jitter| < 2 ^ 1000 := by
    intro sp listed
    obtain rfl := List.mem_singleton.mp (listed : sp ∈ [_])
    have zero : |(0 : ℚ)| < 2 ^ 1000 := by norm_num
    exact ⟨⟨by decide, by decide, by decide, by decide, by decide, double_zero⟩, zero⟩
  have server_stream : ∀ sp ∈ (tested sample_server sample_received).streams,
      Exact sp ∧ |sp.jitter| < 2 ^ 1000 := by
    intro sp listed
    obtain rfl := List.mem_singleton.mp (listed : sp ∈ [_])
    exact ⟨⟨by decide, by decide, by decide, by decide, by decide, sample_jitter_double⟩,
      sample_jitter_small⟩
  exact (results_agree peers (fun sp listed => (client_stream sp listed).1)
    (fun sp listed => (server_stream sp listed).1) (fun sp listed => (client_stream sp listed).2)
    (fun sp listed => (server_stream sp listed).2) client_printable server_printable
    ControlStream.bytewise_timely ControlStream.bytewise_timely sample_client_ran
    sample_server_ran sample_computed.1 sample_computed.2.2.1).2.2

/-- The server measured the jitter; the client reads it with 15 digits. -/
theorem results_agree_counterexample :
    iperf_exchange_results ControlStream.bytewise ten_seconds (tested sample_client sample_sent)
        ⟨to_client ++ [], 0⟩ = (none, to_server, asked) ∧
      iperf_exchange_results ControlStream.bytewise ten_seconds
        (tested sample_server sample_received) ⟨to_server ++ [], 0⟩ = (none, to_client, served) ∧
      served.streams.map (·.jitter) = [sample_jitter] ∧
      asked.streams.map (·.jitter) ≠ served.streams.map (·.jitter) :=
  ⟨sample_client_ran, sample_server_ran, sample_computed.2.2.2.2⟩

end Samples

end Iperf.ResultsExchange
