import Iperf.AcceptedConfig
import Iperf.OptionOrder

/-!
`Arguments` is what remains of a command line when only the fields of its record are kept.
Every accepted line is accepted there, with the record of its result, so that what holds
of every accepted configuration holds of the whole command line.
-/

namespace Iperf.ArgumentsView

open TestState KeyedWrites CommandLine OptionSettings
open OptionOrder (bind_ok)
open Config (iperf_test iperf_settings Role protocols)

section View

def settings_of (test : Values) : iperf_settings :=
  { socket_bufsize := test .socket_bufsize
    blksize := test .blksize
    rate := test .rate
    fqrate := test .fqrate
    pacing_timer := test .pacing_timer
    burst := test .burst
    mss := test .mss
    tos := test .tos
    flowlabel := test .flowlabel
    bytes := test .bytes
    blocks := test .blocks
    dont_fragment := test .dont_fragment
    client_username := test .client_username
    client_password := test .client_password
    client_rsa_pubkey := test .client_rsa_pubkey
    skip_rx_copy := test .skip_rx_copy }

/-- The fields that no option sets are those of `iperf_defaults`; `use_pkcs1_padding` is
not among the options of `Arguments`. -/
def record_of (test : Values) : iperf_test :=
  { role := test .role
    mode := test .mode
    sender_has_retransmits := test .sender_has_retransmits
    protocol := test .protocol
    server_port := test .server_port
    quic_port := test .quic_port
    «omit» := test .omit
    duration := test .duration
    max_server_duration := test .max_server_duration
    diskfile_name := test .diskfile_name
    affinity := test .affinity
    server_affinity := test .server_affinity
    title := test .title
    extra_data := test .extra_data
    congestion := test .congestion
    ctrl_sck := -1
    listener := -1
    prot_listener := -1
    no_delay := test .no_delay
    reverse := test .reverse
    bidirectional := test .bidirectional
    zerocopy := test .zerocopy
    get_server_output := test .get_server_output
    udp_counters_64bit := test .udp_counters_64bit
    multisend := 10
    repeating_payload := test .repeating_payload
    mptcp := test .mptcp
    num_streams := test .num_streams
    settings := settings_of test }

def parsing_of (test : Values) : Arguments.Parsing :=
  { test := record_of test
    blksize := test .arg_blksize
    server_flag := test .server_flag
    client_flag := test .client_flag
    rate_flag := test .rate_flag
    duration_flag := test .duration_flag
    client_username := test .arg_client_username
    client_rsa_public_key := test .arg_client_rsa_public_key }

def view_assignment : Assignment → Arguments.Opt
  | .p portno => .p portno
  | .quic_port port => .quic_port port
  | .nstreams count burst rate => .nstreams count burst rate
  | .b burst rate => .b burst rate
  | .t seconds => .t seconds
  | .n bytes => .n bytes
  | .k blocks => .k blocks
  | .l blksize => .l blksize
  | .P streams => .P streams
  | .w farg => .w farg
  | .M mss => .M mss
  | .N => .N
  | .S tos => .S tos
  | .dscp tos => .dscp tos
  | .extra_data text => .extra_data text
  | .L flowlabel => .L flowlabel
  | .Z => .Z
  | .repeating_payload => .repeating_payload
  | .O seconds => .O seconds
  | .F name => .F name
  | .server_max_duration seconds => .server_max_duration seconds
  | .A affinity server_affinity => .A affinity server_affinity
  | .T title => .T title
  | .C congestion => .C congestion
  | .get_server_output => .get_server_output
  | .udp_counters_64bit => .udp_counters_64bit
  | .no_fq_socket_pacing => .no_fq_socket_pacing
  | .fq_rate rate => .fq_rate rate
  | .dont_fragment => .dont_fragment
  | .username name => .username name
  | .rsa_public_key_path path => .rsa_public_key_path path
  | .skip_rx_copy => .skip_rx_copy
  | .pacing_timer value => .pacing_timer value
  | .D | .one_off | .quic_cert _ | .quic_key _ | .quic_key_pass _ | .quic_p12 _
  | .quic_p12_pass _ | .server_bitrate_limit _ _ | .idle_timeout _ | .rsa_private_key_path _
  | .time_skew_threshold _ | .use_pkcs1_padding => .other true false
  | .connect_timeout _ => .other false true
  | .f _ | .i _ | .V | .J | .json_stream | .json_stream_full_output | .v | .quic_buf _ | .B _ _
  | .bind_dev _ | .cport _ | .version4 | .version6 | .timestamps _ | .rcv_timeout _
  | .snd_timeout _ | .d _ | .I _ | .logfile _ | .forceflush | .authorized_users_path _ | .h
  | .unknown => .other false false

def view : Opt → Arguments.Opt
  | .assign assignment => view_assignment assignment
  | .s => .s
  | .c _ _ => .c
  | .u => .u
  | .quic => .quic
  | .sctp => .sctp
  | .m => .m
  | .R => .R
  | .bidir => .bidir
  | .X _ | .cntl_ka _ _ _ => .other false false

def view_environment (environment : Environment) : Arguments.Environment :=
  { load_pubkey_from_file := environment.load_pubkey_from_file
    password := environment.password
    file_size := environment.file_size }

end View

section Steps
variable (build : Build)

theorem protocol_viewed (test : Values) (prot_id : Protocol) :
    parsing_of (CommandLine.set_protocol build test prot_id) =
      { parsing_of test with
        test := Config.set_protocol build.toFeatures (record_of test) prot_id } := by
  simp only [CommandLine.set_protocol, Config.set_protocol]
  split <;> rfl

variable (parsing : Arguments.Parsing)

theorem other_neither :
    Arguments.parse_option build.toFeatures parsing (.other false false) = .ok parsing := by
  simp [Arguments.parse_option]

theorem other_server :
    Arguments.parse_option build.toFeatures parsing (.other true false) =
      .ok { parsing with server_flag := true } := by
  simp [Arguments.parse_option]

theorem other_client :
    Arguments.parse_option build.toFeatures parsing (.other false true) =
      .ok { parsing with client_flag := true } := by
  simp [Arguments.parse_option]

theorem burst_accepted {burst : Int32} (range : ¬ (burst ≤ 0 ∨ Config.MAX_BURST < burst))
    (number : UInt64) :
    Arguments.parse_bandwidth parsing (some burst) (some number) =
      .ok { parsing with
        test := { parsing.test with
          settings := { parsing.test.settings with burst := burst, rate := number } }
        rate_flag := true
        client_flag := true } := by
  have accepted : Arguments.parse_burst (some burst) parsing.test.settings.burst = .ok burst :=
    if_neg range
  simp only [Arguments.parse_bandwidth, accepted]
  rfl

theorem assignment_viewed {assignment : Assignment} {entries : List Write} (test : Values)
    (assigned : assigns build assignment = .ok entries) :
    Arguments.parse_option build.toFeatures (parsing_of test) (view_assignment assignment) =
      .ok (parsing_of (apply test entries)) := by
  cases assignment with
  | N | repeating_payload | extra_data text | F name | T title | get_server_output
  | udp_counters_64bit =>
      cases assigned
      rfl
  | p portno | t seconds | P streams | M mss | dscp tos | O seconds
  | server_max_duration seconds | Z =>
      rcases refuse_ok.mp assigned with ⟨range, ⟨⟩⟩
      exact if_neg range
  | n bytes | k blocks | l blksize | pacing_timer value =>
      rcases given_ok.mp assigned with ⟨number, rfl, ⟨⟩⟩
      rfl
  | dont_fragment | username name | rsa_public_key_path path | skip_rx_copy =>
      rcases known_ok.mp assigned with ⟨present, ⟨⟩⟩
      exact if_pos present
  | C congestion | no_fq_socket_pacing =>
      rcases refuse_ok.mp assigned with ⟨present, ⟨⟩⟩
      exact if_pos (not_not.mp present)
  | V | J | json_stream | json_stream_full_output | version4 | version6 | timestamps format
  | d level | I file | logfile file | forceflush =>
      cases assigned
      exact other_neither build (parsing_of test)
  | f unit_format | i interval | cport portno | rcv_timeout milliseconds =>
      rcases refuse_ok.mp assigned with ⟨range, ⟨⟩⟩
      exact other_neither build (parsing_of test)
  | bind_dev dev | authorized_users_path path =>
      rcases known_ok.mp assigned with ⟨present, ⟨⟩⟩
      exact other_neither build (parsing_of test)
  | D | one_off =>
      cases assigned
      exact other_server build (parsing_of test)
  | quic_cert file | quic_key file | quic_key_pass password | quic_p12 file
  | quic_p12_pass password | idle_timeout seconds =>
      rcases refuse_ok.mp assigned with ⟨range, ⟨⟩⟩
      exact other_server build (parsing_of test)
  | rsa_private_key_path path | use_pkcs1_padding =>
      rcases known_ok.mp assigned with ⟨present, ⟨⟩⟩
      exact other_server build (parsing_of test)
  | quic_port port =>
      rcases refuse_ok.mp assigned with ⟨present, assigned⟩
      rcases refuse_ok.mp assigned with ⟨range, ⟨⟩⟩
      exact (if_neg present).trans (if_neg range)
  | quic_buf size =>
      rcases refuse_ok.mp assigned with ⟨present, assigned⟩
      rcases refuse_ok.mp assigned with ⟨range, ⟨⟩⟩
      exact other_neither build (parsing_of test)
  | snd_timeout milliseconds =>
      rcases known_ok.mp assigned with ⟨present, assigned⟩
      rcases refuse_ok.mp assigned with ⟨range, ⟨⟩⟩
      exact other_neither build (parsing_of test)
  | time_skew_threshold seconds =>
      rcases known_ok.mp assigned with ⟨present, assigned⟩
      rcases refuse_ok.mp assigned with ⟨range, ⟨⟩⟩
      exact other_server build (parsing_of test)
  | connect_timeout value =>
      rcases given_ok.mp assigned with ⟨number, rfl, ⟨⟩⟩
      exact other_client build (parsing_of test)
  | fq_rate rate =>
      rcases refuse_ok.mp assigned with ⟨present, assigned⟩
      rcases given_ok.mp assigned with ⟨number, rfl, ⟨⟩⟩
      exact if_pos (not_not.mp present)
  | w number | S number =>
      rcases given_ok.mp assigned with ⟨number, rfl, assigned⟩
      rcases refuse_ok.mp assigned with ⟨range, ⟨⟩⟩
      exact if_neg range
  | L flowlabel =>
      rcases refuse_ok.mp assigned with ⟨present, assigned⟩
      rcases given_ok.mp assigned with ⟨number, rfl, assigned⟩
      rcases refuse_ok.mp assigned with ⟨range, ⟨⟩⟩
      exact (if_neg present).trans (if_neg range)
  | A affinity server_affinity =>
      rcases refuse_ok.mp assigned with ⟨present, assigned⟩
      rcases given_ok.mp assigned with ⟨number, rfl, assigned⟩
      rcases refuse_ok.mp assigned with ⟨range, assigned⟩
      cases server_affinity with
      | none =>
          cases assigned
          exact (if_neg present).trans (if_neg range)
      | some core =>
          rcases refuse_ok.mp assigned with ⟨core_range, ⟨⟩⟩
          exact (if_neg present).trans ((if_neg range).trans (if_neg core_range))
  | B address dev =>
      cases dev with
      | none =>
          cases assigned
          exact other_neither build (parsing_of test)
      | some dev =>
          rcases refuse_ok.mp assigned with ⟨present, ⟨⟩⟩
          exact other_neither build (parsing_of test)
  | server_bitrate_limit interval rate =>
      cases interval with
      | none =>
          rcases given_ok.mp assigned with ⟨number, rfl, ⟨⟩⟩
          exact other_server build (parsing_of test)
      | some interval =>
          rcases refuse_ok.mp assigned with ⟨range, assigned⟩
          rcases given_ok.mp assigned with ⟨number, rfl, ⟨⟩⟩
          exact other_server build (parsing_of test)
  | b burst rate =>
      cases burst with
      | none =>
          rcases given_ok.mp assigned with ⟨number, rfl, ⟨⟩⟩
          rfl
      | some burst =>
          rcases refuse_ok.mp assigned with ⟨range, assigned⟩
          rcases given_ok.mp assigned with ⟨number, rfl, ⟨⟩⟩
          exact burst_accepted (parsing_of test) range number
  | nstreams count burst rate =>
      rcases known_ok.mp assigned with ⟨present, here⟩
      rcases refuse_ok.mp here with ⟨linux, counted⟩
      rcases given_ok.mp counted with ⟨streams, rfl, banded⟩
      cases burst with
      | none =>
          rcases given_ok.mp banded with ⟨number, rfl, ⟨⟩⟩
          exact if_neg (not_not.mpr present)
      | some burst =>
          rcases refuse_ok.mp banded with ⟨range, rated⟩
          rcases given_ok.mp rated with ⟨number, rfl, ⟨⟩⟩
          exact (if_neg (not_not.mpr present)).trans
            (burst_accepted (parsing_of test) range number)
  | v | h | unknown => cases assigned

theorem role_viewed (test : Values) (role : Role) :
    parsing_of (CommandLine.iperf_set_test_role build test role) =
      { parsing_of test with
        test := Config.iperf_set_test_role build.toFeatures (record_of test) role } := by
  have reverse : (test.set .role role) .reverse = (record_of test).reverse := rfl
  have bidirectional : (test.set .role role) .bidirectional = (record_of test).bidirectional := rfl
  simp only [CommandLine.iperf_set_test_role, Config.iperf_set_test_role, reverse, bidirectional]
  split_ifs <;> rfl

theorem reverse_viewed (test : Values) :
    parsing_of (CommandLine.iperf_set_test_reverse build test 1) =
      { parsing_of test with
        test := Config.iperf_set_test_reverse build.toFeatures (record_of test) 1 } := by
  have reversed : (test.set .reverse 1) .reverse = 1 := rfl
  have role : (test.set .reverse 1) .role = (record_of test).role := rfl
  simp only [CommandLine.iperf_set_test_reverse, Config.iperf_set_test_reverse, reversed, role]
  split_ifs <;> rfl

theorem bidirectional_viewed (test : Values) :
    parsing_of (CommandLine.iperf_set_test_bidirectional build test 1) =
      { parsing_of test with
        test := Config.iperf_set_test_bidirectional build.toFeatures (record_of test) 1 } := rfl

theorem raised_viewed (test : Values) :
    parsing_of (test.set .client_flag true) = { parsing_of test with client_flag := true } := rfl

theorem mptcp_viewed (test : Values) :
    parsing_of (test.set .mptcp 1) =
      { parsing_of test with test := { (parsing_of test).test with mptcp := 1 } } := rfl

theorem defaults_viewed :
    parsing_of (CommandLine.iperf_defaults build) =
      { test := Config.iperf_defaults build.toFeatures } := by
  simp only [CommandLine.iperf_defaults, CommandLine.set_protocol, Config.iperf_defaults,
    Config.set_protocol]
  split <;> rfl

theorem device_viewed {dev : Option String} {host : String} {entries : List Write}
    (test : Values)
    (accepted : on_device build dev [⟨.server_hostname, some host⟩] = .ok entries) :
    parsing_of (apply test entries) = parsing_of test := by
  cases dev with
  | none =>
      cases accepted
      rfl
  | some dev =>
      rcases refuse_ok.mp accepted with ⟨present, ⟨⟩⟩
      rfl

theorem keepalive_viewed (keepidle interval count : Option Int32) (test : Values) :
    parsing_of (apply test (keepalive keepidle interval count)) = parsing_of test := by
  cases keepidle <;> cases interval <;> cases count <;> rfl

/-- An accepted option is accepted by `Arguments`, with the record of its result. -/
theorem option_viewed {test next : Values} {opt : Opt}
    (accepted : parse_option build test opt = .ok next) :
    Arguments.parse_option build.toFeatures (parsing_of test) (view opt) =
      .ok (parsing_of next) := by
  cases opt with
  | assign assignment =>
      rcases assign_ok.mp accepted with ⟨entries, assigned, rfl⟩
      exact assignment_viewed build test assigned
  | s =>
      simp only [parse_option] at accepted
      split at accepted <;> cases accepted
      next other =>
        rw [role_viewed]
        exact if_neg other
  | c host dev =>
      rcases c_ok.mp accepted with ⟨other, entries, device, rfl⟩
      rw [device_viewed build _ device, role_viewed]
      exact if_neg other
  | u =>
      cases accepted
      rw [raised_viewed, protocol_viewed]
      rfl
  | quic =>
      simp only [parse_option] at accepted
      split at accepted <;> cases accepted
      next present =>
        rw [protocol_viewed]
        exact if_pos present
  | sctp =>
      simp only [parse_option] at accepted
      split at accepted <;> cases accepted
      next present =>
        rw [raised_viewed, protocol_viewed]
        exact if_pos present
  | m =>
      simp only [parse_option] at accepted
      split at accepted <;> cases accepted
      next present =>
        rw [mptcp_viewed, protocol_viewed]
        exact if_pos present
  | R =>
      simp only [parse_option] at accepted
      split at accepted <;> cases accepted
      next one_way =>
        rw [raised_viewed, reverse_viewed]
        exact if_neg one_way
  | bidir =>
      simp only [parse_option] at accepted
      split at accepted <;> cases accepted
      next forward =>
        rw [raised_viewed, bidirectional_viewed]
        exact if_neg forward
  | X name =>
      cases accepted
      exact other_neither build (parsing_of test)
  | cntl_ka keepidle interval count =>
      rcases cntl_ka_ok.mp accepted with ⟨-, -, rfl⟩
      rw [keepalive_viewed]
      exact other_neither build (parsing_of test)

end Steps

section Finish
variable (build : Build) (environment : Environment)

theorem options_viewed {options : List Opt} {test next : Values}
    (accepted : options.foldlM (parse_option build) test = .ok next) :
    (options.map view).foldlM (Arguments.parse_option build.toFeatures) (parsing_of test) =
      .ok (parsing_of next) := by
  induction options generalizing test with
  | nil =>
      cases accepted
      rfl
  | cons opt rest ih =>
      rw [List.foldlM_cons, bind_ok] at accepted
      rcases accepted with ⟨middle, stepped, reaches⟩
      rw [List.map_cons, List.foldlM_cons, option_viewed build stepped]
      exact ih reaches

/-- The last part works on a record beside the local variables of the parsing. -/
structure Beside (parsing : Arguments.Parsing) (test : Values) (record : iperf_test) : Prop where
  record_eq : record_of test = record
  blksize : test .arg_blksize = parsing.blksize
  rate_flag : test .rate_flag = parsing.rate_flag
  duration_flag : test .duration_flag = parsing.duration_flag

variable {parsing : Arguments.Parsing} {test next : Values} {record : iperf_test}

theorem quic_port_viewed (beside : Beside parsing test record) (quic : test .protocol = .Pquic) :
    Beside parsing (default_quic_port test) (Arguments.quic_default record) := by
  rcases beside with ⟨rfl, blksize, rate_flag, duration_flag⟩
  have condition : ((record_of test).protocol = .Pquic ∧ (record_of test).quic_port = 0) ↔
      test .quic_port = 0 := ⟨fun unset => unset.2, fun zero => ⟨quic, zero⟩⟩
  simp only [default_quic_port, Arguments.quic_default, condition]
  split
  · exact ⟨rfl, blksize, rate_flag, duration_flag⟩
  · exact ⟨rfl, blksize, rate_flag, duration_flag⟩

theorem quic_viewed (beside : Beside parsing test record)
    (accepted : quic_defaults environment test = .ok next) :
    Beside parsing next (Arguments.quic_default record) := by
  simp only [quic_defaults] at accepted
  split at accepted
  next quic =>
    rcases quic_port_viewed beside quic with ⟨same, blksize, rate_flag, duration_flag⟩
    split_ifs at accepted <;> cases accepted <;> exact ⟨same, blksize, rate_flag, duration_flag⟩
  next other =>
    cases accepted
    rcases beside with ⟨rfl, blksize, rate_flag, duration_flag⟩
    have kept : Arguments.quic_default (record_of test) = record_of test :=
      if_neg fun chosen => other chosen.1
    exact ⟨kept.symm, blksize, rate_flag, duration_flag⟩

theorem quic_credentials (accepted : quic_defaults environment test = .ok next) :
    next .arg_client_username = test .arg_client_username ∧
      next .arg_client_rsa_public_key = test .arg_client_rsa_public_key := by
  have port : default_quic_port test .arg_client_username = test .arg_client_username ∧
      default_quic_port test .arg_client_rsa_public_key = test .arg_client_rsa_public_key := by
    simp only [default_quic_port]
    split_ifs <;> exact ⟨rfl, rfl⟩
  simp only [quic_defaults] at accepted
  split_ifs at accepted <;> cases accepted
  · exact port
  · exact port
  · exact ⟨rfl, rfl⟩

theorem rate_viewed (beside : Beside parsing test record) :
    Beside parsing (default_rate test) (Arguments.default_rate parsing record) := by
  rcases beside with ⟨rfl, blksize, rate_flag, duration_flag⟩
  simp only [default_rate, Arguments.default_rate, ← rate_flag]
  split
  · exact ⟨rfl, blksize, rate_flag, duration_flag⟩
  · exact ⟨rfl, blksize, rate_flag, duration_flag⟩

theorem bytes_viewed (beside : Beside parsing test record) :
    Beside parsing (file_bytes environment test)
      (Arguments.file_bytes (view_environment environment) parsing record) := by
  rcases beside with ⟨rfl, blksize, rate_flag, duration_flag⟩
  have condition : ((record_of test).settings.bytes = 0 ∧ (record_of test).settings.blocks = 0 ∧
      ¬ parsing.duration_flag ∧ (record_of test).role = .c) ↔
      (test .bytes = 0 ∧ test .blocks = 0 ∧ ¬ test .duration_flag ∧ test .role = .c) := by
    rw [duration_flag]
    rfl
  have file : (record_of test).diskfile_name.bind (view_environment environment).file_size =
      (test .diskfile_name).bind environment.file_size := rfl
  simp only [file_bytes, Arguments.file_bytes, condition, file]
  split
  · cases (test .diskfile_name).bind environment.file_size with
    | none => exact ⟨rfl, blksize, rate_flag, duration_flag⟩
    | some bytes => exact ⟨rfl, blksize, rate_flag, duration_flag⟩
  · exact ⟨rfl, blksize, rate_flag, duration_flag⟩

theorem blksize_viewed (beside : Beside parsing test record)
    (accepted : CommandLine.set_blksize test = .ok next) :
    ∃ result, Arguments.set_blksize parsing record = .ok result ∧ Beside parsing next result := by
  rcases parsing with ⟨_, _, _, _, _, _, _, _⟩
  rcases beside with ⟨rfl, rfl, rfl, rfl⟩
  let blksize := if test .arg_blksize = 0 then Arguments.default_blksize (test .protocol)
    else test .arg_blksize
  by_cases bad : (test .protocol ≠ .Pudp ∧ blksize ≤ 0) ∨ Config.MAX_BLOCKSIZE < blksize
  · have refused : CommandLine.set_blksize test = .error (.errno .IEBLOCKSIZE) := if_pos bad
    rw [refused] at accepted
    cases accepted
  · by_cases bad_udp : test .protocol = .Pudp ∧ 0 < blksize ∧
        (blksize < Config.MIN_UDP_BLOCKSIZE ∨ Config.MAX_UDP_BLOCKSIZE < blksize)
    · have refused : CommandLine.set_blksize test = .error (.errno .IEUDPBLOCKSIZE) :=
        (if_neg bad).trans (if_pos bad_udp)
      rw [refused] at accepted
      cases accepted
    · have fits : CommandLine.set_blksize test = .ok (test.set .blksize blksize) :=
        (if_neg bad).trans (if_neg bad_udp)
      rw [fits] at accepted
      cases accepted
      exact ⟨_, (if_neg bad).trans (if_neg bad_udp), rfl, rfl, rfl, rfl⟩

theorem end_viewed (beside : Beside parsing test record)
    (accepted : CommandLine.end_conditions test = .ok next) :
    ∃ result, Arguments.end_conditions parsing record = .ok result ∧
      Beside parsing next result := by
  rcases parsing with ⟨_, _, _, _, _, _, _, _⟩
  rcases beside with ⟨rfl, rfl, rfl, rfl⟩
  have alone : ¬ ((test .duration_flag ∧ test .bytes ≠ 0) ∨
      (test .duration_flag ∧ test .blocks ≠ 0) ∨ (test .bytes ≠ 0 ∧ test .blocks ≠ 0)) := by
    intro several
    simp only [CommandLine.end_conditions] at accepted
    split_ifs at accepted
    simp_all [Values.set, write_other]
  by_cases limited : (test .bytes ≠ 0 ∨ test .blocks ≠ 0) ∧ ¬ test .duration_flag
  · have ended : CommandLine.end_conditions test = .ok (test.set .duration 0) := by
      simp only [CommandLine.end_conditions, if_pos limited]
      exact if_neg alone
    have also_limited : ((record_of test).settings.bytes ≠ 0 ∨
        (record_of test).settings.blocks ≠ 0) ∧ ¬ test .duration_flag := limited
    rw [ended] at accepted
    cases accepted
    refine ⟨record_of (test.set .duration 0), ?_, rfl, rfl, rfl, rfl⟩
    simp only [Arguments.end_conditions, if_pos also_limited]
    exact if_neg alone
  · have ended : CommandLine.end_conditions test = .ok test := by
      simp only [CommandLine.end_conditions, if_neg limited]
      exact if_neg alone
    have also_limited : ¬ (((record_of test).settings.bytes ≠ 0 ∨
        (record_of test).settings.blocks ≠ 0) ∧ ¬ test .duration_flag) := limited
    rw [ended] at accepted
    cases accepted
    refine ⟨record_of test, ?_, rfl, rfl, rfl, rfl⟩
    simp only [Arguments.end_conditions, if_neg also_limited]
    exact if_neg alone

theorem private_key_viewed (beside : Beside parsing test record)
    (accepted : load_private_key environment test = .ok next) : Beside parsing next record := by
  rcases beside with ⟨rfl, blksize, rate_flag, duration_flag⟩
  simp only [load_private_key] at accepted
  split at accepted
  · split at accepted <;> cases accepted
    split <;> exact ⟨rfl, blksize, rate_flag, duration_flag⟩
  · cases accepted
    exact ⟨rfl, blksize, rate_flag, duration_flag⟩

theorem client_viewed (beside : Beside parsing test record)
    (username : test .arg_client_username = parsing.client_username)
    (key : test .arg_client_rsa_public_key = parsing.client_rsa_public_key)
    (accepted : client_authentication environment test = .ok next) :
    ∃ result, Arguments.credentials (view_environment environment) parsing record = .ok result ∧
      Beside parsing next result := by
  rcases parsing with ⟨_, _, _, _, _, _, _, _⟩
  rcases beside with ⟨rfl, rfl, rfl, rfl⟩
  subst username key
  have record_role : (record_of test).role = test .role := rfl
  simp only [client_authentication] at accepted
  simp only [Arguments.credentials, record_role]
  cases role : test .role with
  | unset =>
      simp only [role, Except.ok.injEq] at accepted
      subst accepted
      exact ⟨_, rfl, rfl, rfl, rfl, rfl⟩
  | s =>
      cases user : test .arg_client_username with
      | some name => simp [role, user] at accepted
      | none =>
          cases path : test .arg_client_rsa_public_key with
          | some file => simp [role, user, path] at accepted
          | none =>
              simp only [role, user, path, Except.ok.injEq] at accepted
              subst accepted
              exact ⟨_, rfl, rfl, rfl, rfl, rfl⟩
  | c =>
      cases user : test .arg_client_username with
      | none =>
          cases path : test .arg_client_rsa_public_key with
          | some file => simp [role, user, path] at accepted
          | none =>
              simp only [role, user, path, Except.ok.injEq] at accepted
              subst accepted
              exact ⟨_, rfl, rfl, rfl, rfl, rfl⟩
      | some name =>
          cases path : test .arg_client_rsa_public_key with
          | none => simp [role, user, path] at accepted
          | some file =>
              simp only [role, user, path] at accepted
              simp only [view_environment]
              cases loaded : environment.load_pubkey_from_file file with
              | none => simp [loaded] at accepted
              | some pubkey =>
                  cases typed : environment.password with
                  | none => simp [loaded, typed] at accepted
                  | some password =>
                      simp only [loaded, typed, Except.ok.injEq] at accepted
                      subst accepted
                      refine ⟨_, rfl, ?_, rfl, rfl, rfl⟩
                      rw [← role]
                      rfl

/-- A build without OpenSSL has no credentials to check. -/
def NoCredentials (test : Values) : Prop :=
  build.HAVE_SSL = false →
    test .arg_client_username = none ∧ test .arg_client_rsa_public_key = none

theorem authentication_viewed (beside : Beside parsing test record)
    (username : test .arg_client_username = parsing.client_username)
    (key : test .arg_client_rsa_public_key = parsing.client_rsa_public_key)
    (unused : NoCredentials build test)
    (accepted : authentication build environment test = .ok next) :
    ∃ result, Arguments.credentials (view_environment environment) parsing record = .ok result ∧
      Beside parsing next result := by
  simp only [authentication] at accepted
  split at accepted
  · simp only [CommandLine.credentials, bind_ok] at accepted
    obtain ⟨client, identified, _, -, _, -, loaded⟩ := accepted
    rcases client_viewed environment beside username key identified with ⟨result, same, besides⟩
    exact ⟨result, same, private_key_viewed environment besides loaded⟩
  next absent =>
    cases accepted
    have none_given := unused (Bool.eq_false_iff.mpr absent)
    refine ⟨record, ?_, beside⟩
    rw [none_given.1] at username
    rw [none_given.2] at key
    simp only [Arguments.credentials, ← username, ← key]
    cases record.role <;> rfl

/-- What the last part makes of a test is what `Arguments` makes of its record. -/
theorem finish_viewed (unused : NoCredentials build test)
    (accepted : CommandLine.finish build environment test = .ok next) :
    Arguments.finish (view_environment environment) (parsing_of test) = .ok (record_of next) := by
  simp only [CommandLine.finish, bind_ok] at accepted
  obtain ⟨_, checked, quic, defaulted, ssl, authenticated, _, unsent, sized, fits, ended, ends, _,
    roled, final⟩ := accepted
  have start : Beside (parsing_of test) test (record_of test) := ⟨rfl, rfl, rfl, rfl⟩
  have same := quic_credentials environment defaulted
  have still_unused : NoCredentials build quic := by
    simp only [NoCredentials, same]
    exact unused
  obtain ⟨named, credentials_ok, named_beside⟩ :=
    authentication_viewed build environment (quic_viewed environment start defaulted)
      same.1 same.2 still_unused authenticated
  obtain ⟨blocked, blksize_ok, blocked_beside⟩ := blksize_viewed named_beside fits
  obtain ⟨limited, end_ok, limited_beside⟩ :=
    end_viewed (bytes_viewed environment (rate_viewed blocked_beside)) ends
  have role_ok : Arguments.role_check (parsing_of test) = .ok () := by
    simp only [CommandLine.role_check] at checked
    split_ifs at checked with server_only client_only
    exact (if_neg server_only).trans (if_neg client_only)
  have file_ok : ¬ (named.diskfile_name ≠ none ∧ named.protocol = .Pudp) := by
    simp only [udp_file_check] at unsent
    split at unsent
    · cases unsent
    next sendable =>
      rw [← named_beside.record_eq]
      exact sendable
  have role_given : ¬ limited.role = .unset := by
    simp only [given_role] at roled
    split at roled
    · cases roled
    next given =>
      rw [← limited_beside.record_eq]
      exact given
  have averaged : record_of (average_interval environment ended) = limited := by
    simp only [average_interval]
    split
    · exact limited_beside.record_eq
    · exact limited_beside.record_eq
  cases final
  have credentials_here : Arguments.credentials (view_environment environment) (parsing_of test)
      (Arguments.quic_default (parsing_of test).test) = .ok named := credentials_ok
  simp only [Arguments.finish, bind, Except.bind, role_ok, credentials_here, if_neg file_ok,
    blksize_ok, end_ok, if_neg role_given, averaged]
  rfl

end Finish

section Lines
variable (build : Build) (environment : Environment)

theorem touched_credentials {opt : Opt}
    (touches : .client_username ∈ touched opt ∨ .client_rsa_pubkey ∈ touched opt) :
    ∃ text, opt = .assign (.username text) ∨ opt = .assign (.rsa_public_key_path text) := by
  have within := touches.imp (@touched_reach opt _) (@touched_reach opt _)
  cases opt with
  | assign assignment =>
      cases assignment with
      | username name => exact ⟨name, .inl rfl⟩
      | rsa_public_key_path path => exact ⟨path, .inr rfl⟩
      | _ => simp [reach, touched, touched_by, OptionSettings.settings_of] at within
  | _ => simp [reach, touched, documented] at within

theorem no_credentials_step {test next : Values} {opt : Opt} (unused : NoCredentials build test)
    (accepted : parse_option build test opt = .ok next) : NoCredentials build next := by
  intro absent
  have untouched : ¬ (.client_username ∈ touched opt ∨ .client_rsa_pubkey ∈ touched opt) := by
    intro touches
    obtain ⟨text, rfl | rfl⟩ := touched_credentials touches <;>
      simp [parse_option, assigns, known, absent, Except.map] at accepted
  have kept {field : Field} (carried : field = .arg_client_username ∨
      field = .arg_client_rsa_public_key) : next field = test field := by
    by_contra changed
    have covers := OptionOrder.changed_covered build accepted
      (by rcases carried with rfl | rfl <;> decide) (by rcases carried with rfl | rfl <;> decide)
      changed
    rcases carried with rfl | rfl <;> simp [Covers, stands_for] at covers
    · exact untouched (.inl covers)
    · exact untouched (.inr covers)
  rw [kept (.inl rfl), kept (.inr rfl)]
  exact unused absent

theorem run_no_credentials {options : List Opt} {test next : Values}
    (unused : NoCredentials build test)
    (parsed : options.foldlM (parse_option build) test = .ok next) : NoCredentials build next := by
  induction options generalizing test with
  | nil =>
      cases parsed
      exact unused
  | cons opt rest ih =>
      rw [List.foldlM_cons, bind_ok] at parsed
      rcases parsed with ⟨middle, stepped, reaches⟩
      exact ih (no_credentials_step build unused stepped) reaches

/-- Every accepted line is accepted by `Arguments`, with the record of its result. -/
theorem arguments_viewed {options : List Opt} {final : Values}
    (accepted : CommandLine.iperf_parse_arguments build environment options = .ok final) :
    Arguments.iperf_parse_arguments build.toFeatures (view_environment environment)
      (Config.iperf_defaults build.toFeatures) (options.map view) = .ok (record_of final) := by
  simp only [CommandLine.iperf_parse_arguments, bind_ok] at accepted
  obtain ⟨test, parsed, finished⟩ := accepted
  have start : NoCredentials build (CommandLine.iperf_defaults build) := by
    intro _
    simp only [CommandLine.iperf_defaults, CommandLine.set_protocol]
    split <;> exact ⟨rfl, rfl⟩
  have unused := run_no_credentials build start parsed
  have viewed := options_viewed build parsed
  rw [defaults_viewed] at viewed
  simp only [Arguments.iperf_parse_arguments, bind, Except.bind, viewed]
  exact finish_viewed build environment unused finished

/-- What holds of every configuration that `Arguments` accepts holds of the result. -/
theorem accepted_config {options : List Opt} {final : Values}
    (accepted : CommandLine.iperf_parse_arguments build environment options = .ok final) :
    AcceptedConfig.Accepted build.toFeatures (record_of final) :=
  AcceptedConfig.parse_accepted (arguments_viewed build environment accepted)

end Lines

end Iperf.ArgumentsView
