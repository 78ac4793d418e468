import Iperf.CommandLine

/-!
The settings that the usage text names with each option, and the fields that the case
of the option writes: the same ones, but for `--nstreams`.
-/

namespace Iperf.OptionSettings

open KeyedWrites CommandLine

section Documentation

/-- The settings that the usage text names with an option. -/
def settings_of : Assignment → List Field
  | .p _ => [.server_port]
  | .f _ => [.unit_format]
  | .i _ => [.stats_interval, .reporter_interval]
  | .D => [.daemon]
  | .one_off => [.one_off]
  | .V => [.verbose]
  | .J => [.json_output]
  | .json_stream => [.json_output, .json_stream]
  | .json_stream_full_output => [.json_stream_full_output]
  | .quic_cert _ => [.quic_cert_file]
  | .quic_key _ => [.quic_key_file]
  | .quic_key_pass _ => [.quic_key_password]
  | .quic_p12 _ => [.quic_p12_file]
  | .quic_p12_pass _ => [.quic_p12_password]
  | .quic_port _ => [.quic_port]
  | .quic_buf _ => [.quic_buf_size]
  | .nstreams _ _ _ => [.num_ostreams]
  | .b none _ => [.rate]
  | .b (some _) _ => [.rate, .burst]
  | .server_bitrate_limit none _ => [.bitrate_limit]
  | .server_bitrate_limit (some _) _ => [.bitrate_limit, .bitrate_limit_interval]
  | .t _ => [.duration]
  | .n _ => [.bytes]
  | .k _ => [.blocks]
  | .l _ => [.blksize]
  | .P _ => [.num_streams]
  | .w _ => [.socket_bufsize]
  | .B _ none => [.bind_address]
  | .B _ (some _) => [.bind_address, .bind_dev]
  | .bind_dev _ => [.bind_dev]
  | .cport _ => [.bind_port]
  | .M _ => [.mss]
  | .N => [.no_delay]
  | .version4 | .version6 => [.domain]
  | .S _ | .dscp _ => [.tos]
  | .extra_data _ => [.extra_data]
  | .L _ => [.flowlabel]
  | .Z => [.zerocopy]
  | .repeating_payload => [.repeating_payload]
  | .timestamps _ => [.timestamps, .timestamp_format]
  | .O _ => [.omit]
  | .F _ => [.diskfile_name]
  | .idle_timeout _ => [.idle_timeout]
  | .server_max_duration _ => [.max_server_duration]
  | .rcv_timeout _ => [.rcv_timeout]
  | .snd_timeout _ => [.snd_timeout]
  | .A _ none => [.affinity]
  | .A _ (some _) => [.affinity, .server_affinity]
  | .T _ => [.title]
  | .C _ => [.congestion]
  | .d _ => [.debug, .debug_level]
  | .I _ => [.pidfile]
  | .logfile _ => [.logfile]
  | .forceflush => [.forceflush]
  | .get_server_output => [.get_server_output]
  | .udp_counters_64bit => [.udp_counters_64bit]
  | .no_fq_socket_pacing | .fq_rate _ => [.fqrate]
  | .dont_fragment => [.dont_fragment]
  | .username _ => [.client_username]
  | .rsa_public_key_path _ => [.client_rsa_pubkey]
  | .rsa_private_key_path _ => [.server_rsa_private_key]
  | .authorized_users_path _ => [.server_authorized_users]
  | .time_skew_threshold _ => [.server_skew_threshold]
  | .use_pkcs1_padding => [.use_pkcs1_padding]
  | .skip_rx_copy => [.skip_rx_copy]
  | .pacing_timer _ => [.pacing_timer]
  | .connect_timeout _ => [.connect_timeout]
  | .v | .h | .unknown => []

def documented : Opt → List Field
  | .assign assignment => settings_of assignment
  | .s => [.role]
  | .c _ none => [.role, .server_hostname]
  | .c _ (some _) => [.role, .server_hostname, .bind_dev]
  -- "use UDP rather than TCP", "use MPTCP rather than plain TCP"
  | .u | .quic | .sctp => [.protocol]
  | .m => [.protocol, .mptcp]
  | .R => [.reverse]
  | .bidir => [.bidirectional]
  | .X _ => [.xbind_addrs]
  | .cntl_ka _ _ _ => [.cntl_ka, .cntl_ka_keepidle, .cntl_ka_interval, .cntl_ka_count]

/-- No setting is named with both options. -/
def Separate (first second : Opt) : Prop :=
  ∀ setting ∈ documented first, setting ∉ documented second

/-- The settings that a field stands for: a local variable brings a setting to the end
of the function, and the mode and the retransmit flag are computed from settings. -/
def stands_for : Field → List Field
  | .mode => [.role, .reverse, .bidirectional]
  | .sender_has_retransmits => [.role, .reverse, .bidirectional, .protocol]
  | .arg_blksize => [.blksize]
  | .arg_client_username => [.client_username]
  | .arg_client_rsa_public_key => [.client_rsa_pubkey]
  | .arg_server_rsa_private_key => [.server_rsa_private_key]
  | .rate_flag => [.rate]
  | .duration_flag => [.duration]
  | .rcv_timeout_flag => [.rcv_timeout]
  | .snd_timeout_flag => [.snd_timeout]
  | field => [field]

/-- A field that an option may write. The two flags hold the side that the usage text
lists the option under. -/
def Covers (settings : List Field) (field : Field) : Prop :=
  field = .server_flag ∨ field = .client_flag ∨ ∃ setting ∈ stands_for field, setting ∈ settings

/-- An option affects only the settings its documentation names. -/
def Confined (build : Build) (opt : Opt) : Prop :=
  ∀ test next, parse_option build test opt = .ok next →
    ∀ field, next field ≠ test field → Covers (documented opt) field

end Documentation

section Assigned

/-- What the case of an option really writes. -/
def touched_by : Assignment → List Field
  | .nstreams _ none _ => [.num_ostreams, .rate]
  | .nstreams _ (some _) _ => [.num_ostreams, .rate, .burst]
  | assignment => settings_of assignment

def touched : Opt → List Field
  | .assign assignment => touched_by assignment
  | opt => documented opt

/-- What the case of an option can write, whatever parts its argument has. -/
def reach : Opt → List Field
  | .assign (.nstreams _ _ _) => [.num_ostreams, .rate, .burst]
  | .assign (.b _ _) => [.rate, .burst]
  | .assign (.server_bitrate_limit _ _) => [.bitrate_limit, .bitrate_limit_interval]
  | .assign (.B _ _) => [.bind_address, .bind_dev]
  | .assign (.A _ _) => [.affinity, .server_affinity]
  | .c _ _ => [.role, .server_hostname, .bind_dev]
  | opt => touched opt

theorem touched_reach (opt : Opt) : touched opt ⊆ reach opt := by
  cases opt with
  | assign assignment =>
      cases assignment with
      | nstreams count burst rate => cases burst <;> simp [touched, touched_by, reach]
      | b burst rate => cases burst <;> simp [touched, touched_by, settings_of, reach]
      | B address dev => cases dev <;> simp [touched, touched_by, settings_of, reach]
      | server_bitrate_limit interval rate =>
          cases interval <;> simp [touched, touched_by, settings_of, reach]
      | A affinity server_affinity =>
          cases server_affinity <;> simp [touched, touched_by, settings_of, reach]
      | _ => exact List.Subset.refl _
  | c host dev => cases dev <;> simp [touched, documented, reach]
  | _ => exact List.Subset.refl _

theorem toOption_some {Result : Type} {outcome : Except Refusal Result} {result : Result} :
    outcome.toOption = some result ↔ outcome = .ok result := by
  cases outcome <;> simp [Except.toOption]

theorem refuse_ok {refused : Prop} [Decidable refused] {i_errno : Errno}
    {next : Except Refusal (List Write)} {entries : List Write} :
    refuse refused i_errno next = .ok entries ↔ ¬ refused ∧ next = .ok entries := by
  by_cases holds : refused <;> simp [refuse, holds]

theorem known_ok {present : Bool} {next : Except Refusal (List Write)} {entries : List Write} :
    known present next = .ok entries ↔ present = true ∧ next = .ok entries := by
  cases present <;> simp [known]

theorem given_ok {Number : Type} {value : Option Number} {i_errno : Errno}
    {next : Number → Except Refusal (List Write)} {entries : List Write} :
    given value i_errno next = .ok entries ↔
      ∃ number, value = some number ∧ next number = .ok entries := by
  cases value <;> simp [given]

/-- A write to one of the settings, or to a flag that can only be raised. -/
def Within (settings : List Field) (entry : Write) : Prop :=
  entry = ⟨.server_flag, true⟩ ∨ entry = ⟨.client_flag, true⟩ ∨
    ∃ setting ∈ settings, stands_for entry.1 = [setting]

def Writes (settings : List Field) (outcome : Except Refusal (List Write)) : Prop :=
  ∀ entries, outcome = .ok entries → ∀ entry ∈ entries, Within settings entry

variable {settings : List Field}

@[simp] theorem writes_error (refusal : Refusal) : Writes settings (.error refusal) := by
  intro entries assigned
  cases assigned

@[simp] theorem writes_both (entries : List Write) :
    Writes settings (both entries) ↔ ∀ entry ∈ entries, Within settings entry := by
  simp [Writes, both]

@[simp] theorem writes_client (entries : List Write) :
    Writes settings (client entries) ↔ ∀ entry ∈ entries, Within settings entry := by
  simp [Writes, client, Within, or_imp, forall_and]

@[simp] theorem writes_server (entries : List Write) :
    Writes settings (server entries) ↔ ∀ entry ∈ entries, Within settings entry := by
  simp [Writes, server, Within, or_imp, forall_and]

@[simp] theorem writes_refuse (refused : Prop) [Decidable refused] (i_errno : Errno)
    (next : Except Refusal (List Write)) :
    Writes settings (refuse refused i_errno next) ↔ ¬ refused → Writes settings next := by
  by_cases holds : refused <;> simp [refuse, holds]

@[simp] theorem writes_known (present : Bool) (next : Except Refusal (List Write)) :
    Writes settings (known present next) ↔ present → Writes settings next := by
  cases present <;> simp [known]

@[simp] theorem writes_given {Number : Type} (value : Option Number)
    (i_errno : Errno) (next : Number → Except Refusal (List Write)) :
    Writes settings (given value i_errno next) ↔
      ∀ number, value = some number → Writes settings (next number) := by
  cases value <;> simp [given]

variable (build : Build)

theorem device_within (dev : Option String) {entries : List Write}
    (entries_within : ∀ entry ∈ entries, Within settings entry)
    (device_member : dev.isSome → .bind_dev ∈ settings) :
    Writes settings (on_device build dev entries) := by
  cases dev with
  | none => exact (writes_both entries).mpr entries_within
  | some dev =>
      have member := device_member rfl
      simp only [on_device, writes_refuse, writes_both, List.mem_append, List.mem_singleton]
      rintro - entry (early | rfl)
      · exact entries_within entry early
      · exact .inr (.inr ⟨.bind_dev, member, rfl⟩)

theorem bandwidth_within {burst : Option Int32} {rate : Option UInt64} {entries : List Write}
    (entries_within : ∀ entry ∈ entries, Within settings entry) (rate_member : .rate ∈ settings)
    (burst_member : burst.isSome → .burst ∈ settings) :
    Writes settings (parse_bandwidth burst rate entries) := by
  have rate_within (rate : UInt64) : Within settings ⟨.rate, rate⟩ :=
    .inr (.inr ⟨.rate, rate_member, rfl⟩)
  have flag_within : Within settings ⟨.rate_flag, true⟩ :=
    .inr (.inr ⟨.rate, rate_member, rfl⟩)
  cases burst with
  | none =>
      simp only [parse_bandwidth, unit, writes_given, writes_client, List.mem_append,
        List.mem_cons, List.not_mem_nil, or_false]
      rintro number - entry (early | rfl | rfl)
      · exact entries_within entry early
      · exact rate_within number
      · exact flag_within
  | some burst =>
      simp only [parse_bandwidth, unit, writes_refuse, writes_given, writes_client,
        List.mem_append, List.mem_cons, List.not_mem_nil, or_false]
      rintro - number - entry (early | rfl | rfl | rfl)
      · exact entries_within entry early
      · exact .inr (.inr ⟨.burst, burst_member rfl, rfl⟩)
      · exact rate_within number
      · exact flag_within

theorem assigns_within (assignment : Assignment) :
    Writes (touched_by assignment) (assigns build assignment) := by
  cases assignment with
  | nstreams count burst rate =>
      -- what is assigned before the fall into `-b` is within the same settings
      simp only [assigns, unit, writes_known, writes_refuse, writes_given]
      rintro - - number -
      cases burst <;> apply bandwidth_within <;> simp [Within, stands_for, touched_by]
  | b burst rate =>
      simp only [assigns]
      cases burst <;> apply bandwidth_within <;> simp [touched_by, settings_of]
  | B address dev =>
      simp only [assigns]
      cases dev <;> apply device_within <;> simp [Within, stands_for, touched_by, settings_of]
  | server_bitrate_limit interval rate =>
      cases interval <;> simp [assigns, unit, Within, stands_for, touched_by, settings_of]
  | A affinity server_affinity =>
      cases server_affinity <;> simp [assigns, Within, stands_for, touched_by, settings_of]
  | _ => simp [assigns, unit, Within, stands_for, touched_by, settings_of]

end Assigned

section Fields
variable (build : Build)

/-- What the modes and the retransmit flag are computed from, and the two flags. -/
def central : List Field :=
  [.role, .mode, .sender_has_retransmits, .protocol, .reverse, .bidirectional, .mptcp,
    .xbind_addrs, .server_flag, .client_flag]

theorem touched_peripheral (assignment : Assignment) :
    ∀ setting ∈ touched_by assignment, setting ∉ central := by
  have apart : ∀ setting ∈ reach (.assign assignment), setting ∉ central := by
    cases assignment <;> simp [reach, touched, touched_by, settings_of, central]
  exact fun setting touches => apart setting (touched_reach (.assign assignment) touches)

theorem stands_for_central {field : Field} (inside : field ∈ central) :
    ∀ setting ∈ stands_for field, setting ∈ central := by
  simp only [central, List.mem_cons, List.not_mem_nil, or_false] at inside
  rcases inside with rfl | rfl | rfl | rfl | rfl | rfl | rfl | rfl | rfl | rfl <;>
    simp [stands_for, central]

/-- An option that only assigns leaves all of these alone, but for raising a flag. -/
theorem assigned_central {assignment : Assignment} {entries : List Write}
    (assigned : assigns build assignment = .ok entries) {entry : Write} (member : entry ∈ entries)
    (inside : entry.1 ∈ central) :
    entry = ⟨.server_flag, true⟩ ∨ entry = ⟨.client_flag, true⟩ := by
  rcases assigns_within build assignment entries assigned entry member with
    raised | raised | ⟨setting, touches, stands⟩
  · exact .inl raised
  · exact .inr raised
  · have member : setting ∈ stands_for entry.1 := stands ▸ List.mem_singleton_self setting
    exact absurd (stands_for_central inside setting member)
      (touched_peripheral assignment setting touches)

theorem assigned_apart {assignment : Assignment} {entries : List Write}
    (assigned : assigns build assignment = .ok entries) {field : Field} (inside : field ∈ central)
    (not_flag : field ≠ .server_flag ∧ field ≠ .client_flag) :
    ∀ entry ∈ entries, entry.1 ≠ field := by
  rintro entry member rfl
  rcases assigned_central build assigned member inside with rfl | rfl
  · exact not_flag.1 rfl
  · exact not_flag.2 rfl

theorem device_entries {dev : Option String} {entries written : List Write}
    (accepted : on_device build dev entries = .ok written) :
    ∀ entry ∈ written, entry ∈ entries ∨ entry.1 = .bind_dev := by
  cases dev with
  | none =>
      cases accepted
      exact fun entry member => .inl member
  | some dev =>
      rcases refuse_ok.mp accepted with ⟨-, ⟨⟩⟩
      intro entry member
      rcases List.mem_append.mp member with early | last
      · exact .inl early
      · exact .inr (congrArg Sigma.fst (List.mem_singleton.mp last))

theorem keepalive_keys (keepidle interval count : Option Int32) :
    ∀ entry ∈ keepalive keepidle interval count,
      entry.1 ∈ documented (.cntl_ka keepidle interval count) := by
  intro entry member
  simp only [keepalive, List.cons_append, List.mem_cons, List.mem_append, List.mem_map] at member
  rcases member with rfl | (⟨number, -, rfl⟩ | ⟨number, -, rfl⟩) | ⟨number, -, rfl⟩ <;>
    simp [documented]

/-- What an option names it also writes. -/
theorem settings_touched {assignment : Assignment} {setting : Field}
    (named : setting ∈ settings_of assignment) : setting ∈ touched_by assignment := by
  cases assignment with
  | nstreams count burst rate =>
      cases List.mem_singleton.mp named
      cases burst <;> simp [touched_by]
  | _ => exact named

theorem named_peripheral (assignment : Assignment) {setting : Field}
    (named : setting ∈ documented (.assign assignment)) : setting ∉ central :=
  touched_peripheral assignment setting (settings_touched named)

theorem documented_reverse {opt : Opt} (named : .reverse ∈ documented opt) : opt = .R := by
  cases opt with
  | R => rfl
  | assign assignment => exact absurd (by decide) (named_peripheral assignment named)
  | c host dev => cases dev <;> simp [documented] at named
  | _ => simp [documented] at named

theorem documented_bidirectional {opt : Opt} (named : .bidirectional ∈ documented opt) :
    opt = .bidir := by
  cases opt with
  | bidir => rfl
  | assign assignment => exact absurd (by decide) (named_peripheral assignment named)
  | c host dev => cases dev <;> simp [documented] at named
  | _ => simp [documented] at named

theorem flags_unnamed (opt : Opt) {setting : Field} (named : setting ∈ documented opt) :
    setting ≠ .server_flag ∧ setting ≠ .client_flag := by
  cases opt with
  | assign assignment =>
      have peripheral := named_peripheral assignment named
      constructor <;> rintro rfl <;> exact peripheral (by decide)
  | c host dev => cases dev <;> constructor <;> rintro rfl <;> simp [documented] at named
  | _ => constructor <;> rintro rfl <;> simp [documented] at named

end Fields

section Accepted
variable {build : Build} {test next : Values}

theorem assign_ok {assignment : Assignment} :
    parse_option build test (.assign assignment) = .ok next ↔
      ∃ entries, assigns build assignment = .ok entries ∧ apply test entries = next := by
  simp only [parse_option]
  cases assigns build assignment <;> simp [Except.map]

theorem c_ok {host : String} {dev : Option String} :
    parse_option build test (.c host dev) = .ok next ↔
      test .role ≠ .s ∧ ∃ entries,
        on_device build dev [⟨.server_hostname, some host⟩] = .ok entries ∧
          apply (iperf_set_test_role build test .c) entries = next := by
  simp only [parse_option]
  by_cases server : test .role = .s
  · simp [server]
  · cases on_device build dev [⟨.server_hostname, some host⟩] <;> simp [server, Except.map]

theorem cntl_ka_ok {keepidle interval count : Option Int32} :
    parse_option build test (.cntl_ka keepidle interval count) = .ok next ↔
      build.HAVE_TCP_KEEPALIVE = true ∧
        ¬ bad_keepalive (apply test (keepalive keepidle interval count)) ∧
          apply test (keepalive keepidle interval count) = next := by
  simp only [parse_option]
  by_cases present : build.HAVE_TCP_KEEPALIVE = true
  · by_cases bad : bad_keepalive (apply test (keepalive keepidle interval count)) <;>
      simp [present, bad]
  · simp [present]

end Accepted

end Iperf.OptionSettings
