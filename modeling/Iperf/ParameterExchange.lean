import Iperf.AcceptedConfig
import Iperf.ControlStream

/-!
A client's parameters as the server reads them. Every key is looked up among
pairwise different keys, so each item of the server is the one that the client
wrote, or the server's default where the client wrote none.
-/

namespace Iperf.ParameterExchange

open TestState Json Config Parameters Arguments AcceptedConfig
open AuthToken (CString)
open ControlStream (JSON_read Network Timely put len)

section Items
variable {entries : List (String × Option cJSON)} {name : String}

/-- No two keys are the same to `cJSON_GetObjectItem`. -/
def Distinct (entries : List (String × Option cJSON)) : Prop :=
  (entries.map fun entry => folded entry.1).Nodup

theorem item_written (distinct : Distinct entries) {value : Option cJSON}
    (entry : (name, value) ∈ entries) (type : ItemType) :
    iperf_cJSON_GetObjectItemType (.object (written entries)) name type =
      value.filter (hasType type) := by
  rw [iperf_cJSON_GetObjectItemType, get_written distinct entry]

theorem read_int_written (distinct : Distinct entries) {value : Int32}
    (entry : (name, some (int_number value)) ∈ entries) (field : Int32) :
    read_int (.object (written entries)) name field = value := by
  have present : (some (int_number value)).filter (hasType .cJSON_Number) =
    some (int_number value) := rfl
  rw [read_int, number_item, item_written distinct entry, present]
  simp

theorem read_int_absent (distinct : Distinct entries) (entry : (name, none) ∈ entries)
    (field : Int32) : read_int (.object (written entries)) name field = field := by
  rw [read_int, number_item, item_written distinct entry]
  rfl

theorem read_int_unless_zero (distinct : Distinct entries) {value : Int32}
    (entry : (name, unless_zero value) ∈ entries) (field : Int32) :
    read_int (.object (written entries)) name field = if value ≠ 0 then value else field := by
  by_cases zero : value = 0
  · rw [unless_zero, if_neg (not_not.mpr zero)] at entry
    rw [read_int_absent distinct entry, if_neg (not_not.mpr zero)]
  · rw [unless_zero, if_pos zero] at entry
    rw [read_int_written distinct entry, if_pos zero]

/-- Left out when it is zero, and zero when it is left out. -/
theorem read_int_or_zero (distinct : Distinct entries) {value : Int32}
    (entry : (name, unless_zero value) ∈ entries) :
    read_int (.object (written entries)) name 0 = value := by
  rw [read_int_unless_zero distinct entry]
  by_cases zero : value = 0
  · simp [zero]
  · simp [zero]

theorem read_size_written (distinct : Distinct entries) {value : UInt64}
    (small : value.toNat < 2 ^ 53) (entry : (name, some (size_number value)) ∈ entries)
    (field : UInt64) : read_size (.object (written entries)) name field = value := by
  have present : (some (size_number value)).filter (hasType .cJSON_Number) =
    some (size_number value) := rfl
  rw [read_size, number_item, item_written distinct entry, present]
  simp only [Option.map_some, valueint_size_number small, Option.elim_some]
  exact UInt64.toNat.inj (by simp [UInt64.ofInt]; omega)

theorem read_size_unless_empty (distinct : Distinct entries) {value : UInt64}
    (small : value.toNat < 2 ^ 53) (entry : (name, unless_empty value) ∈ entries) :
    read_size (.object (written entries)) name 0 = value := by
  by_cases zero : value = 0
  · rw [unless_empty, if_neg (not_not.mpr zero)] at entry
    rw [read_size, number_item, item_written distinct entry, zero]
    rfl
  · rw [unless_empty, if_pos zero] at entry
    exact read_size_written distinct small entry 0

theorem read_string_written (distinct : Distinct entries) {value : Option String}
    (entry : (name, value.map .string) ∈ entries) (field : Option String) :
    read_string (.object (written entries)) name field = value.or field := by
  rw [read_string, string_item, item_written distinct entry]
  cases value <;> rfl

theorem has_bool_mark (distinct : Distinct entries) {condition : Prop} [Decidable condition]
    (entry : (name, mark condition) ∈ entries) :
    has_bool (.object (written entries)) name = decide condition := by
  rw [has_bool, item_written distinct entry]
  by_cases holds : condition
  · simp [mark, holds, hasType]
  · simp [mark, holds]

theorem has_number_unless_zero (distinct : Distinct entries) {value : Int32}
    (entry : (name, unless_zero value) ∈ entries) :
    has_number (.object (written entries)) name = decide (value ≠ 0) := by
  rw [has_number, item_written distinct entry]
  by_cases zero : value = 0
  · simp [unless_zero, zero]
  · simp [unless_zero, zero, int_number, hasType]

/-- A flag that the client writes when it is set and the server sets to one. -/
theorem flag_written {value : Int32} (flag : Flag value) :
    (if decide (value ≠ 0) = true then (1 : Int32) else 0) = value := by
  rcases flag with rfl | rfl <;> rfl

theorem bool_flag_read (distinct : Distinct entries) {value : Int32} (flag : Flag value)
    (entry : (name, mark (value ≠ 0)) ∈ entries) :
    (if has_bool (.object (written entries)) name then (1 : Int32) else 0) = value := by
  rw [has_bool_mark distinct entry]
  exact flag_written flag

theorem number_flag_read (distinct : Distinct entries) {value : Int32} (flag : Flag value)
    (entry : (name, unless_zero value) ∈ entries) :
    (if has_number (.object (written entries)) name then (1 : Int32) else 0) = value := by
  rw [has_number_unless_zero distinct entry]
  exact flag_written flag

end Items

section Exchange
variable {features : Features} {client : iperf_test} {authtoken : Option String}

theorem parameters_distinct (features : Features) (client : iperf_test)
    (authtoken : Option String) : Distinct (parameters features client authtoken) := by
  simp only [Distinct, parameters, List.map_cons, List.map_nil]
  decide +kernel

/-- A server before its first test. -/
def fresh_server (features : Features) : iperf_test :=
  iperf_set_test_role features (iperf_defaults features) .s

/-- The object that a client writes. -/
abbrev message (features : Features) (client : iperf_test) (authtoken : Option String) : cJSON :=
  .object (written (parameters features client authtoken))

/-- Everything that the two sides of a test have to agree on. -/
structure Agree (client server : iperf_test) : Prop where
  protocol : server.protocol = client.protocol
  quic_port : server.quic_port = client.quic_port
  omitted : server.omit = client.omit
  duration : server.duration = client.duration
  bytes : server.settings.bytes = client.settings.bytes
  blocks : server.settings.blocks = client.settings.blocks
  mss : server.settings.mss = client.settings.mss
  no_delay : server.no_delay = client.no_delay
  num_streams : server.num_streams = client.num_streams
  reverse : server.reverse = client.reverse
  bidirectional : server.bidirectional = client.bidirectional
  socket_bufsize : server.settings.socket_bufsize = client.settings.socket_bufsize
  blksize : server.settings.blksize = client.settings.blksize
  rate : server.settings.rate = client.settings.rate
  fqrate : server.settings.fqrate = client.settings.fqrate
  pacing_timer : server.settings.pacing_timer = client.settings.pacing_timer
  burst : server.settings.burst = client.settings.burst
  tos : server.settings.tos = client.settings.tos
  flowlabel : server.settings.flowlabel = client.settings.flowlabel
  title : server.title = client.title
  extra_data : server.extra_data = client.extra_data
  congestion : server.congestion = client.congestion
  get_server_output : server.get_server_output = client.get_server_output
  udp_counters_64bit : server.udp_counters_64bit = client.udp_counters_64bit
  repeating_payload : server.repeating_payload = client.repeating_payload
  zerocopy : server.zerocopy = client.zerocopy
  dont_fragment : server.settings.dont_fragment = client.settings.dont_fragment
  skip_rx_copy : server.settings.skip_rx_copy = client.settings.skip_rx_copy
  server_affinity : server.server_affinity = client.server_affinity
  mode : server.mode = client.mode.complement

theorem fresh_server_eq (features : Features) : fresh_server features =
    { role := .s
      «omit» := OMIT
      duration := DURATION
      affinity := -1
      server_affinity := -1
      server_port := PORT
      ctrl_sck := -1
      listener := -1
      prot_listener := -1
      num_streams := 1
      multisend := 10
      settings := { blksize := DEFAULT_TCP_BLKSIZE, pacing_timer := DEFAULT_PACING_TIMER } } := by
  simp [fresh_server, iperf_set_test_role, check_sender_has_retransmits, iperf_defaults,
    set_protocol, protocols]

variable (authtoken) in
theorem protocol_read (supported : client.protocol ∈ protocols features) :
    (read_protocol features (message features client authtoken)
      (fresh_server features)).protocol = client.protocol := by
  have distinct := parameters_distinct features client authtoken
  have tcp : has_bool (message features client authtoken) "tcp" =
      decide (client.protocol = .Ptcp) := has_bool_mark distinct (by simp [parameters])
  have udp : has_bool (message features client authtoken) "udp" =
      decide (client.protocol = .Pudp) := has_bool_mark distinct (by simp [parameters])
  have sctp : has_bool (message features client authtoken) "sctp" =
      decide (client.protocol = .Psctp) := has_bool_mark distinct (by simp [parameters])
  have quic : has_bool (message features client authtoken) "quic" =
      decide (client.protocol = .Pquic) := has_bool_mark distinct (by simp [parameters])
  -- The client marks one protocol; the other three keys are absent.
  simp only [read_protocol, tcp, udp, sctp, quic, fresh_server_eq]
  cases protocol : client.protocol <;> rw [protocol] at supported <;>
    simp [set_protocol, supported, check_sender_has_retransmits]

variable (authtoken) in
theorem direction_read (consistent : Consistent features client) (role : client.role = .c) :
    let after := read_parameters features (message features client authtoken)
      (fresh_server features)
    after.mode = client.mode.complement ∧ after.reverse = client.reverse ∧
      after.bidirectional = client.bidirectional := by
  have distinct := parameters_distinct features client authtoken
  have reverse : has_bool (message features client authtoken) "reverse" =
      decide (client.reverse ≠ 0) := has_bool_mark distinct (by simp [parameters])
  have bidirectional : has_bool (message features client authtoken) "bidirectional" =
      decide (client.bidirectional ≠ 0) := has_bool_mark distinct (by simp [parameters])
  have server : (fresh_server features).role = .s := by rw [fresh_server_eq]
  obtain ⟨mode, reversed, both⟩ :=
    read_parameters_direction features (message features client authtoken) server
  rw [reverse, bidirectional] at mode
  rw [reverse] at reversed
  rw [bidirectional] at both
  have oldReverse : (fresh_server features).reverse = 0 := by rw [fresh_server_eq]
  have oldBoth : (fresh_server features).bidirectional = 0 := by rw [fresh_server_eq]
  have oldMode : (fresh_server features).mode = .RECEIVER := by rw [fresh_server_eq]
  refine ⟨?_, ?_, ?_⟩
  · rw [mode, oldMode, consistent.mode role, client_mode]
    rcases consistent.one_way with oneWay | oneWay
    · by_cases two : client.bidirectional = 0 <;> simp [oneWay, two, Mode.complement]
    · by_cases back : client.reverse = 0 <;> simp [oneWay, back, Mode.complement]
  · rw [reversed, oldReverse]
    exact flag_written consistent.reverse
  · rw [both, oldBoth]
    exact flag_written consistent.bidirectional

/-- The 64-bit quantities that a double carries exactly. -/
structure Small (client : iperf_test) : Prop where
  bytes : client.settings.bytes.toNat < 2 ^ 53
  blocks : client.settings.blocks.toNat < 2 ^ 53
  rate : client.settings.rate.toNat < 2 ^ 53
  fqrate : client.settings.fqrate.toNat < 2 ^ 53

theorem pacing_timer_read (features : Features) (client : iperf_test)
    (authtoken : Option String) :
    (read_parameters features (message features client authtoken)
      (fresh_server features)).settings.pacing_timer =
      if client.settings.pacing_timer ≠ 0 then client.settings.pacing_timer
      else DEFAULT_PACING_TIMER := by
  have distinct := parameters_distinct features client authtoken
  obtain ⟨_, _, _, _, _, after⟩ := read_parameters_sets features (message features client authtoken)
    (fresh_server features)
  rw [after, fresh_server_eq]
  exact read_int_unless_zero distinct (by simp [parameters]) _

theorem string_read {entries : List (String × Option cJSON)} {name : String}
    (distinct : Distinct entries) {value : Option String}
    (entry : (name, value.map .string) ∈ entries) :
    read_string (.object (written entries)) name none = value := by
  rw [read_string_written distinct entry, Option.or_none]

theorem quic_port_read (consistent : Consistent features client)
    (distinct : Distinct (parameters features client authtoken)) :
    read_int (message features client authtoken) "quic_port" 0 = client.quic_port := by
  by_cases set : 0 < client.quic_port
  · exact read_int_written distinct (by simp [parameters, set]) _
  · have zero : client.quic_port = 0 :=
      Int32.le_antisymm (Int32.not_lt.mp set) consistent.quic_port
    rw [zero]
    exact read_int_absent distinct (by simp [parameters, zero]) _

theorem server_affinity_read (distinct : Distinct (parameters features client authtoken)) :
    read_int (message features client authtoken) "server_affinity" (-1) =
      client.server_affinity := by
  by_cases unset : client.server_affinity = -1
  · rw [unset]
    exact read_int_absent distinct (by simp [parameters, unset]) _
  · exact read_int_written distinct (by simp [parameters, unset]) _

theorem dont_fragment_read (consistent : Consistent features client)
    (distinct : Distinct (parameters features client authtoken)) :
    (if features.HAVE_DONT_FRAGMENT then
      read_int (message features client authtoken) "dont_fragment" 0 else 0) =
      client.settings.dont_fragment := by
  by_cases have_it : features.HAVE_DONT_FRAGMENT
  · rw [if_pos have_it]
    exact read_int_or_zero distinct (by simp [parameters, have_it])
  · rw [if_neg have_it]
    exact (consistent.dont_fragment (by simpa using have_it)).symm

/-- The one key that is read without a look at its type. -/
theorem skip_rx_copy_read (distinct : Distinct (parameters features client authtoken)) :
    ((cJSON_GetObjectItem (message features client authtoken) "skip_rx_copy").elim 0
      fun item => Int32.ofInt (valueint item)) = client.settings.skip_rx_copy := by
  have entry : ("skip_rx_copy", unless_zero client.settings.skip_rx_copy) ∈
      parameters features client authtoken := by simp [parameters]
  rw [get_written distinct entry]
  by_cases zero : client.settings.skip_rx_copy = 0
  · simp [unless_zero, zero]
  · simp [unless_zero, zero]

theorem agree_read (consistent : Consistent features client) (role : client.role = .c)
    (blksize : client.settings.blksize ≠ 0) (small : Small client)
    (pacing : client.settings.pacing_timer ≠ 0) :
    Agree client (read_parameters features (message features client authtoken)
      (fresh_server features)) := by
  have distinct := parameters_distinct features client authtoken
  obtain ⟨mode, reverse, bidirectional⟩ := direction_read authtoken consistent role
  have protocol := protocol_read authtoken consistent.supported
  rw [← read_parameters_protocol] at protocol
  have paced := pacing_timer_read features client authtoken
  rw [if_pos pacing] at paced
  obtain ⟨_, _, _, _, _, after⟩ := read_parameters_sets features (message features client authtoken)
    (fresh_server features)
  rw [after] at mode reverse bidirectional protocol paced ⊢
  rw [fresh_server_eq] at *
  exact
    { protocol := protocol
      quic_port := quic_port_read consistent distinct
      omitted := read_int_written distinct (by simp [parameters]) _
      duration := read_int_written distinct (by simp [parameters]) _
      bytes := read_size_written distinct small.bytes (by simp [parameters]) _
      blocks := read_size_written distinct small.blocks (by simp [parameters]) _
      mss := read_int_or_zero distinct (by simp [parameters])
      no_delay := bool_flag_read distinct consistent.no_delay (by simp [parameters])
      num_streams := read_int_written distinct (by simp [parameters]) _
      reverse := reverse
      bidirectional := bidirectional
      socket_bufsize := read_int_or_zero distinct (by simp [parameters])
      blksize := by
        refine (read_int_unless_zero distinct (by simp [parameters]) _).trans (if_pos blksize)
      rate := read_size_unless_empty distinct small.rate (by simp [parameters])
      fqrate := read_size_unless_empty distinct small.fqrate (by simp [parameters])
      pacing_timer := paced
      burst := read_int_or_zero distinct (by simp [parameters])
      tos := read_int_or_zero distinct (by simp [parameters])
      flowlabel := read_int_or_zero distinct (by simp [parameters])
      title := string_read distinct (by simp [parameters])
      extra_data := string_read distinct (by simp [parameters])
      congestion := string_read distinct (by simp [parameters])
      get_server_output := number_flag_read distinct consistent.get_server_output
        (by simp [parameters])
      udp_counters_64bit := number_flag_read distinct consistent.udp_counters_64bit
        (by simp [parameters])
      repeating_payload := number_flag_read distinct consistent.repeating_payload
        (by simp [parameters])
      zerocopy := read_int_or_zero distinct (by simp [parameters])
      dont_fragment := dont_fragment_read consistent distinct
      skip_rx_copy := skip_rx_copy_read distinct
      server_affinity := server_affinity_read distinct
      mode := mode }

/-- What `iperf_connect` leaves of an accepted configuration, and the block size
that it settles. -/
theorem connect_consistent {test : iperf_test} (accepted : Accepted features test)
    (cookie : List UInt8) (socket : Int32) (opt : Option Int32) :
    Consistent features (iperf_connect test cookie socket opt) ∧
      (iperf_connect test cookie socket opt).settings.blksize ≠ 0 := by
  refine ⟨{ accepted.toConsistent with }, ?_⟩
  -- A UDP client that chose no block size takes the segment size of the control connection.
  by_cases udp : test.protocol = .Pudp ∧ test.settings.blksize = 0
  · by_cases unknown : control_mss opt = 0
    · simp only [iperf_connect, udp, and_self, if_true, unknown]
      decide
    · simp only [iperf_connect, udp, and_self, if_true]
      rwa [if_pos unknown]
  · simp only [iperf_connect, udp, if_false]
    intro zero
    refine accepted.blksize (fun same => udp ⟨same, zero⟩) zero

theorem fresh_get_parameters (features : Features) (client : iperf_test)
    (authtoken : Option String) :
    get_parameters features (fresh_server features) (some (message features client authtoken)) =
      (none, read_parameters features (message features client authtoken)
        (fresh_server features)) := by
  obtain ⟨_, _, _, _, _, after⟩ := read_parameters_sets features
    (message features client authtoken) (fresh_server features)
  have unlimited : exceeds_duration (read_parameters features (message features client authtoken)
      (fresh_server features)) = false := by
    rw [after, fresh_server_eq]
    rfl
  have noFile : (fresh_server features).diskfile_name = none := by rw [fresh_server_eq]
  simp [get_parameters, unlimited, noFile]

theorem send_parameters_message
    {encode_auth_setting : String → String → String → Int32 → Option String} {json : cJSON} {sent : iperf_test}
    (writes : send_parameters features encode_auth_setting client = .ok (json, sent)) :
    ∃ authtoken, json = message features client authtoken := by
  cases token : authenticate features encode_auth_setting client with
  | error reason => simp [send_parameters, token, bind, Except.bind] at writes
  | ok authtoken =>
      simp only [send_parameters, token, bind, Except.bind, pure, Except.pure, Except.ok.injEq,
        Prod.mk.injEq] at writes
      exact ⟨authtoken, writes.1.symm⟩

/-- An object within the reader's limit is read back, in whatever pieces it comes. -/
theorem read_within {cJSON_PrintUnformatted : cJSON → CString}
    {cJSON_Parse : List UInt8 → Option cJSON} {network : Network} (timely : Timely network)
    {json : cJSON} (inverse : cJSON_Parse (cJSON_PrintUnformatted json).val = some json)
    (empty : cJSON_Parse [] = none) {max_size : Int32}
    (fits : len cJSON_PrintUnformatted json ≤ max_size.toInt) (limit : 0 ≤ max_size.toInt)
    {tail : List UInt8} {reads : Nat} :
    (JSON_read cJSON_Parse network max_size
      ⟨put cJSON_PrintUnformatted (.frame json max_size) ++ tail, reads⟩).1 = some json := by
  have bounded := max_size.toInt_lt
  have some_text : 0 < len cJSON_PrintUnformatted json := by
    apply List.length_pos_iff.mpr
    intro none
    simp [none, empty] at inverse
  have read := @ControlStream.JSON_read_frame _ _ network timely json inverse max_size tail
    ⟨put cJSON_PrintUnformatted (.frame json max_size) ++ tail, reads⟩
    ⟨limit, by omega⟩ (fun refused => absurd refused.2 (by omega)) rfl
  rw [read.1, if_pos some_text]

/-- The parameters arrive as they were sent if and only if the client's pacing
timer is not zero: a zero is left out of the message, and the server's default
is not zero. -/
theorem parameter_exchange {environment : Environment} {options : List Opt} {parsed : iperf_test}
    {cookie : List UInt8} {socket : Int32} {opt : Option Int32}
    {encode_auth_setting : String → String → String → Int32 → Option String} {json : cJSON}
    {sent : iperf_test} {cJSON_PrintUnformatted : cJSON → CString}
    {cJSON_Parse : List UInt8 → Option cJSON} {network : Network} {tail : List UInt8} {reads : Nat}
    (parses : iperf_parse_arguments features environment (iperf_defaults features) options =
      .ok parsed)
    (role : parsed.role = .c) (small : Small parsed)
    (writes : send_parameters features encode_auth_setting
      (iperf_connect parsed cookie socket opt) = .ok (json, sent))
    (inverse : cJSON_Parse (cJSON_PrintUnformatted json).val = some json)
    (empty : cJSON_Parse [] = none)
    (fits : len cJSON_PrintUnformatted json ≤ MAX_PARAMS_JSON_STRING.toInt)
    (timely : Timely network) :
    let answer := get_parameters features (fresh_server features)
      (JSON_read cJSON_Parse network MAX_PARAMS_JSON_STRING
        ⟨put cJSON_PrintUnformatted (.frame json MAX_PARAMS_JSON_STRING) ++ tail, reads⟩).1
    (answer.1 = none ∧ Agree (iperf_connect parsed cookie socket opt) answer.2) ↔
      parsed.settings.pacing_timer ≠ 0 := by
  obtain ⟨consistent, blksize⟩ := connect_consistent (parse_accepted parses) cookie socket opt
  obtain ⟨authtoken, rfl⟩ := send_parameters_message writes
  rw [read_within timely inverse empty fits (by decide), fresh_get_parameters]
  constructor
  · -- A zero is not written, so the server keeps its default, which is not zero.
    rintro ⟨_, agree⟩ zero
    have paced := pacing_timer_read features (iperf_connect parsed cookie socket opt) authtoken
    have left_out : (iperf_connect parsed cookie socket opt).settings.pacing_timer = 0 := zero
    rw [agree.pacing_timer, left_out] at paced
    exact absurd paced (by decide)
  · intro pacing
    exact ⟨rfl, agree_read consistent role blksize { small with } pacing⟩

end Exchange

section Samples

/-- `iperf3 -c host -R -T trial` after the command line. -/
def sample_client : iperf_test :=
  { iperf_defaults sample_features with
    role := .c
    reverse := 1
    title := some "trial" }

/-- `iperf3 -c host --pacing-timer 0` after the command line. -/
def unpaced_client : iperf_test :=
  { iperf_defaults sample_features with
    role := .c
    mode := .SENDER
    sender_has_retransmits := 1
    settings := { (iperf_defaults sample_features).settings with pacing_timer := 0 } }

def no_auth : String → String → String → Int32 → Option String := fun _ _ _ _ => none

def bytes_of (text : String) : List UInt8 := text.toList.map fun letter => .ofNat letter.toNat

theorem bytes_of_append (first second : String) :
    bytes_of (first ++ second) = bytes_of first ++ bytes_of second := by
  rw [bytes_of, String.toList_append, List.map_append]
  rfl

theorem bytes_of_letters (letters : List Char) :
    bytes_of (String.ofList letters) = letters.map fun letter => .ofNat letter.toNat := by
  rw [bytes_of, String.toList_ofList]

theorem terminated_append {first second : String} (first_some : ∀ c ∈ bytes_of first, c ≠ 0)
    (second_some : ∀ c ∈ bytes_of second, c ≠ 0) : ∀ c ∈ bytes_of (first ++ second), c ≠ 0 := by
  rw [bytes_of_append]
  intro c member
  rcases List.mem_append.mp member with early | late
  · exact first_some c early
  · exact second_some c late

/-- The letters of a literal are compared one by one, as numbers. -/
theorem terminated_letters {letters : List Char}
    (plain : letters.all (fun letter => letter.toNat % 256 != 0) = true) :
    ∀ c ∈ bytes_of (String.ofList letters), c ≠ 0 := by
  rw [bytes_of_letters, List.forall_mem_map]
  intro letter member zero
  have number := congrArg UInt8.toNat zero
  rw [UInt8.toNat_ofNat'] at number
  have some := List.all_eq_true.mp plain letter member
  rw [bne_iff_ne] at some
  exact some number

theorem length_append {first second : String} {m n : Nat} (before : (bytes_of first).length = m)
    (behind : (bytes_of second).length = n) : (bytes_of (first ++ second)).length = m + n := by
  rw [bytes_of_append, List.length_append, before, behind]

theorem length_letters {letters : List Char} {n : Nat} (count : letters.length = n) :
    (bytes_of (String.ofList letters)).length = n := by
  rw [bytes_of_letters, List.length_map, count]

/-- The text that cJSON prints for the object of each. -/
def sample_text : CString := ⟨bytes_of
  ("\x7b\"tcp\":true,\"omit\":0,\"time\":10,\"num\":0,\"blockcount\":0,\"parallel\":1," ++
    "\"reverse\":true,\"len\":131072,\"pacing_timer\":1000,\"title\":\"trial\"," ++
    "\"client_version\":\"3.20+\"\x7d"), by
  apply terminated_append
  · apply terminated_append
    · exact terminated_letters rfl
    · exact terminated_letters rfl
  · exact terminated_letters rfl⟩

def unpaced_text : CString := ⟨bytes_of
  ("\x7b\"tcp\":true,\"omit\":0,\"time\":10,\"num\":0,\"blockcount\":0,\"parallel\":1," ++
    "\"len\":131072,\"client_version\":\"3.20+\"\x7d"), by
  apply terminated_append
  · exact terminated_letters rfl
  · exact terminated_letters rfl⟩

theorem sample_length : sample_text.val.length = 67 + 64 + 25 := by
  apply length_append
  · apply length_append
    · exact length_letters rfl
    · exact length_letters rfl
  · exact length_letters rfl

theorem unpaced_length : unpaced_text.val.length = 67 + 38 :=
  length_append (length_letters rfl) (length_letters rfl)

def parse_only (known : CString) (json : cJSON) (text : List UInt8) : Option cJSON :=
  if text = known.val then some json else none

theorem parse_only_nil {known : CString} (json : cJSON) (some : 0 < known.val.length) :
    parse_only known json [] = none := by
  apply if_neg
  intro same
  simp [← same] at some

theorem parameter_exchange_sample :
    let client := iperf_connect sample_client [] 5 (some 1448)
    let json := message sample_features client none
    let answer := get_parameters sample_features (fresh_server sample_features)
      (JSON_read (parse_only sample_text json) ControlStream.bytewise MAX_PARAMS_JSON_STRING
        ⟨put (fun _ => sample_text) (.frame json MAX_PARAMS_JSON_STRING) ++ [], 0⟩).1
    answer.1 = none ∧ Agree client answer.2 := by
  have parses : iperf_parse_arguments sample_features sample_environment
    (iperf_defaults sample_features) [.c, .R, .T "trial"] = .ok sample_client := rfl
  have writes : send_parameters sample_features no_auth
    (iperf_connect sample_client [] 5 (some 1448)) =
      .ok (message sample_features (iperf_connect sample_client [] 5 (some 1448)) none,
        iperf_connect sample_client [] 5 (some 1448)) := rfl
  refine (parameter_exchange parses rfl ⟨by decide, by decide, by decide, by decide⟩ writes
    ?_ ?_ ?_ ControlStream.bytewise_timely).mpr (by decide)
  · exact if_pos rfl
  · exact parse_only_nil _ (by rw [sample_length]; decide)
  · rw [len, sample_length]
    decide

theorem parameter_exchange_counterexample :
    let client := iperf_connect unpaced_client [] 5 (some 1448)
    let json := message sample_features client none
    let answer := get_parameters sample_features (fresh_server sample_features)
      (JSON_read (parse_only unpaced_text json) ControlStream.bytewise MAX_PARAMS_JSON_STRING
        ⟨put (fun _ => unpaced_text) (.frame json MAX_PARAMS_JSON_STRING) ++ [], 0⟩).1
    iperf_parse_arguments sample_features sample_environment (iperf_defaults sample_features)
        [.c, .pacing_timer (some 0)] = .ok unpaced_client ∧
      Small unpaced_client ∧ unpaced_text.val.length ≤ MAX_PARAMS_JSON_STRING.toInt ∧
      send_parameters sample_features no_auth client = .ok (json, client) ∧
      answer.1 = none ∧ client.settings.pacing_timer = 0 ∧
      answer.2.settings.pacing_timer = 1000 ∧ ¬ Agree client answer.2 := by
  have arrives : get_parameters sample_features (fresh_server sample_features)
      (JSON_read (parse_only unpaced_text
        (message sample_features (iperf_connect unpaced_client [] 5 (some 1448)) none))
        ControlStream.bytewise MAX_PARAMS_JSON_STRING
        ⟨put (fun _ => unpaced_text)
          (.frame (message sample_features (iperf_connect unpaced_client [] 5 (some 1448)) none)
            MAX_PARAMS_JSON_STRING) ++ [], 0⟩).1 =
      (none, read_parameters sample_features
        (message sample_features (iperf_connect unpaced_client [] 5 (some 1448)) none)
        (fresh_server sample_features)) := by
    have short : (len (fun _ => unpaced_text) (message sample_features
        (iperf_connect unpaced_client [] 5 (some 1448)) none) : Int) ≤
          MAX_PARAMS_JSON_STRING.toInt := by
      rw [len, unpaced_length]
      decide
    rw [read_within ControlStream.bytewise_timely (if_pos rfl)
      (parse_only_nil _ (by rw [unpaced_length]; decide)) short (by decide), fresh_get_parameters]
  have paced := pacing_timer_read sample_features
    (iperf_connect unpaced_client [] 5 (some 1448)) none
  refine ⟨rfl, ⟨by decide, by decide, by decide, by decide⟩,
    by rw [unpaced_length]; decide, rfl, ?_, rfl, ?_, ?_⟩
  · rw [arrives]
  · rw [arrives]
    exact paced
  · rw [arrives]
    intro agree
    have same := agree.pacing_timer
    rw [paced] at same
    exact absurd same (by decide)

end Samples

end Iperf.ParameterExchange
