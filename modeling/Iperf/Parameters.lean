import Iperf.Config
import Iperf.Json

/-!
`send_parameters` and `get_parameters`, and the length-prefixed frame in which
`JSON_write` carries an object.
-/

namespace Iperf.Parameters

open TestState Json Config

section Send
variable (features : Features)
  (encode_auth_setting : String → String → String → Int32 → Option String)

/-- The token that `send_parameters` puts into `settings->authtoken`. -/
def authenticate (test : iperf_test) : Except Errno (Option String) :=
  match test.settings.client_username, test.settings.client_password,
      test.settings.client_rsa_pubkey with
  | some username, some password, some pubkey =>
      if features.HAVE_SSL then
        match encode_auth_setting username password pubkey test.use_pkcs1_padding with
        | some authtoken => .ok (some authtoken)
        | none => .error .IESENDPARAMS
      else .ok none
  | _, _, _ => .ok none

def unless_zero (value : Int32) : Option cJSON :=
  if value ≠ 0 then some (int_number value) else none

def unless_empty (value : UInt64) : Option cJSON :=
  if value ≠ 0 then some (size_number value) else none

def mark (condition : Prop) [Decidable condition] : Option cJSON :=
  if condition then some (.bool true) else none

/-- The members of the object in the order of the source, each with the
condition under which it is added. -/
def parameters (test : iperf_test) (authtoken : Option String) : List (String × Option cJSON) :=
  [("tcp", mark (test.protocol = .Ptcp)),
    ("udp", mark (test.protocol = .Pudp)),
    ("sctp", mark (test.protocol = .Psctp)),
    ("quic", mark (test.protocol = .Pquic)),
    ("quic_port", if 0 < test.quic_port then some (int_number test.quic_port) else none),
    ("omit", some (int_number test.omit)),
    ("server_affinity",
      if test.server_affinity ≠ -1 then some (int_number test.server_affinity) else none),
    ("time", some (int_number test.duration)),
    ("num", some (size_number test.settings.bytes)),
    ("blockcount", some (size_number test.settings.blocks)),
    ("MSS", unless_zero test.settings.mss),
    ("nodelay", mark (test.no_delay ≠ 0)),
    ("parallel", some (int_number test.num_streams)),
    ("reverse", mark (test.reverse ≠ 0)),
    ("bidirectional", mark (test.bidirectional ≠ 0)),
    ("mptcp", mark (features.HAVE_IPPROTO_MPTCP ∧ test.mptcp ≠ 0)),
    ("window", unless_zero test.settings.socket_bufsize),
    ("len", unless_zero test.settings.blksize),
    ("bandwidth", unless_empty test.settings.rate),
    ("fqrate", unless_empty test.settings.fqrate),
    ("pacing_timer", unless_zero test.settings.pacing_timer),
    ("burst", unless_zero test.settings.burst),
    ("TOS", unless_zero test.settings.tos),
    ("flowlabel", unless_zero test.settings.flowlabel),
    ("title", test.title.map .string),
    ("extra_data", test.extra_data.map .string),
    ("congestion", test.congestion.map .string),
    ("congestion_used", test.congestion_used.map .string),
    ("get_server_output", unless_zero test.get_server_output),
    ("udp_counters_64bit", unless_zero test.udp_counters_64bit),
    ("repeating_payload", unless_zero test.repeating_payload),
    ("zerocopy", unless_zero test.zerocopy),
    ("dont_fragment",
      if features.HAVE_DONT_FRAGMENT then unless_zero test.settings.dont_fragment else none),
    ("authtoken", authtoken.map .string),
    ("skip_rx_copy", unless_zero test.settings.skip_rx_copy),
    ("client_version", some (.string features.IPERF_VERSION))]

/-- The object that is written, and the client's own test afterwards. -/
def send_parameters (test : iperf_test) : Except Errno (cJSON × iperf_test) := do
  let authtoken ← authenticate features encode_auth_setting test
  let token := authtoken.orElse fun _ => test.settings.authtoken
  pure (.object (written (parameters features test authtoken)),
    { test with settings := { test.settings with authtoken := token } })

end Send

section Get
variable (features : Features) (j : cJSON)

/-- `if (item is a number) field = valueint`, into an `int`. -/
def read_int (name : String) (field : Int32) : Int32 := (number_item j name).elim field Int32.ofInt

/-- The same into an `iperf_size_t`. -/
def read_size (name : String) (field : UInt64) : UInt64 :=
  (number_item j name).elim field UInt64.ofInt

/-- `if (item is a string) field = strdup(valuestring)`. -/
def read_string (name : String) (field : Option String) : Option String :=
  (string_item j name).or field

def read_protocol (test : iperf_test) : iperf_test :=
  let test := if has_bool j "tcp" then set_protocol features test .Ptcp else test
  -- a server that writes to or reads from a file stays with its protocol
  let test :=
    if has_bool j "udp" ∧ test.diskfile_name = none then set_protocol features test .Pudp else test
  let test := if has_bool j "sctp" then set_protocol features test .Psctp else test
  if has_bool j "quic" then set_protocol features test .Pquic else test

/-- From "quic_port" to "parallel". -/
def read_test (test : iperf_test) : iperf_test :=
  { test with
    quic_port := read_int j "quic_port" test.quic_port
    «omit» := read_int j "omit" test.omit
    server_affinity := read_int j "server_affinity" test.server_affinity
    duration := read_int j "time" test.duration
    no_delay := if has_bool j "nodelay" then 1 else test.no_delay
    num_streams := read_int j "parallel" test.num_streams
    settings :=
      { test.settings with
        bytes := read_size j "num" 0
        blocks := read_size j "blockcount" 0
        mss := read_int j "MSS" test.settings.mss } }

def read_direction (test : iperf_test) : iperf_test :=
  let test := if has_bool j "reverse" then iperf_set_test_reverse features test 1 else test
  if has_bool j "bidirectional" then iperf_set_test_bidirectional features test 1 else test

/-- From "mptcp" to "skip_rx_copy"; the last one is read whatever its type. -/
def read_settings (test : iperf_test) : iperf_test :=
  { test with
    mptcp := if features.HAVE_IPPROTO_MPTCP ∧ has_bool j "mptcp" then 1 else test.mptcp
    title := read_string j "title" test.title
    extra_data := read_string j "extra_data" test.extra_data
    congestion := read_string j "congestion" test.congestion
    congestion_used := read_string j "congestion_used" test.congestion_used
    get_server_output := if has_number j "get_server_output" then 1 else test.get_server_output
    udp_counters_64bit := if has_number j "udp_counters_64bit" then 1 else test.udp_counters_64bit
    repeating_payload := if has_number j "repeating_payload" then 1 else test.repeating_payload
    zerocopy := read_int j "zerocopy" test.zerocopy
    settings :=
      { test.settings with
        socket_bufsize := read_int j "window" test.settings.socket_bufsize
        blksize := read_int j "len" test.settings.blksize
        rate := read_size j "bandwidth" test.settings.rate
        fqrate := read_size j "fqrate" test.settings.fqrate
        pacing_timer := read_int j "pacing_timer" test.settings.pacing_timer
        burst := read_int j "burst" test.settings.burst
        tos := read_int j "TOS" test.settings.tos
        flowlabel := read_int j "flowlabel" test.settings.flowlabel
        dont_fragment :=
          if features.HAVE_DONT_FRAGMENT then read_int j "dont_fragment" test.settings.dont_fragment
          else test.settings.dont_fragment
        authtoken :=
          if features.HAVE_SSL then read_string j "authtoken" test.settings.authtoken
          else test.settings.authtoken
        skip_rx_copy :=
          (cJSON_GetObjectItem j "skip_rx_copy").elim test.settings.skip_rx_copy
            fun item => Int32.ofInt (valueint item) } }

def note_retransmits (test : iperf_test) : iperf_test :=
  if test.mode ≠ .RECEIVER ∧ test.protocol = .Ptcp ∧ features.has_tcpinfo_retransmits then
    { test with sender_has_retransmits := 1 }
  else test

def read_parameters (test : iperf_test) : iperf_test :=
  note_retransmits features
    (read_settings features j
      (read_direction features j (read_test j (read_protocol features j test))))

/-- The client may not run longer than the server's configured maximum. -/
def exceeds_duration (test : iperf_test) : Bool :=
  0 < test.max_server_duration &&
    (test.max_server_duration < test.duration + test.omit || test.duration == 0)

/-- The test afterwards, and `i_errno` where -1 is returned. -/
def get_parameters (test : iperf_test) : Option cJSON → Option Errno × iperf_test
  | none => (some .IERECVPARAMS, test)
  | some j =>
      let after := read_parameters features j test
      -- both checks come after the fields were set
      if exceeds_duration after then (some .IEMAXSERVERTESTDURATIONEXCEEDED, after)
      else if has_bool j "udp" ∧ test.diskfile_name ≠ none then (some .IEUDPFILETRANSFER, after)
      else (none, after)

/-- `read_protocol` sets nothing but the protocol and what follows from it. -/
theorem read_protocol_sets (test : iperf_test) : ∃ protocol sender,
    read_protocol features j test =
      { test with protocol := protocol, sender_has_retransmits := sender } := by
  -- Each of the four keys either calls `set_protocol` or leaves the test alone.
  have keeps : ∀ (before : iperf_test) (prot_id : Protocol) (asked : Prop) [Decidable asked],
      (∃ protocol sender, before =
        { test with protocol := protocol, sender_has_retransmits := sender }) →
      ∃ protocol sender, (if asked then set_protocol features before prot_id else before) =
        { test with protocol := protocol, sender_has_retransmits := sender } := by
    rintro before prot_id asked _ ⟨protocol, sender, rfl⟩
    unfold set_protocol
    split
    · split
      · exact ⟨_, _, rfl⟩
      · exact ⟨_, _, rfl⟩
    · exact ⟨_, _, rfl⟩
  unfold read_protocol
  exact keeps _ _ _ (keeps _ _ _ (keeps _ _ _ (keeps _ _ _ ⟨test.protocol, _, rfl⟩)))

theorem read_direction_sets (test : iperf_test) : ∃ mode reverse bidirectional sender,
    read_direction features j test =
      { test with
        mode := mode
        reverse := reverse
        bidirectional := bidirectional
        sender_has_retransmits := sender } := by
  unfold read_direction iperf_set_test_bidirectional
  by_cases reversed : has_bool j "reverse"
  · by_cases both : has_bool j "bidirectional"
    · simp only [reversed, both, if_true]
      exact ⟨_, _, _, _, rfl⟩
    · simp only [reversed, both, if_true]
      exact ⟨_, _, _, _, rfl⟩
  · by_cases both : has_bool j "bidirectional"
    · simp only [reversed, both, if_true]
      exact ⟨_, _, _, _, rfl⟩
    · simp only [reversed, both]
      exact ⟨_, _, _, _, rfl⟩

theorem note_retransmits_sets (test : iperf_test) : ∃ sender,
    note_retransmits features test = { test with sender_has_retransmits := sender } := by
  unfold note_retransmits
  split
  · exact ⟨_, rfl⟩
  · exact ⟨_, rfl⟩

/-- Apart from these five, every field is what its own key makes of it. -/
theorem read_parameters_sets (test : iperf_test) :
    ∃ protocol mode reverse bidirectional sender,
      read_parameters features j test =
        { read_settings features j (read_test j test) with
          protocol := protocol
          mode := mode
          reverse := reverse
          bidirectional := bidirectional
          sender_has_retransmits := sender } := by
  obtain ⟨protocol, first, chosen⟩ := read_protocol_sets features j test
  obtain ⟨mode, reverse, bidirectional, second, directed⟩ :=
    read_direction_sets features j (read_test j (read_protocol features j test))
  obtain ⟨third, noted⟩ := note_retransmits_sets features (read_settings features j
    (read_direction features j (read_test j (read_protocol features j test))))
  refine ⟨protocol, mode, reverse, bidirectional, third, ?_⟩
  rw [read_parameters, noted, directed, chosen]
  rfl

theorem read_parameters_protocol (test : iperf_test) :
    (read_parameters features j test).protocol = (read_protocol features j test).protocol := by
  obtain ⟨_, _, _, _, directed⟩ :=
    read_direction_sets features j (read_test j (read_protocol features j test))
  obtain ⟨_, noted⟩ := note_retransmits_sets features (read_settings features j
    (read_direction features j (read_test j (read_protocol features j test))))
  rw [read_parameters, noted, directed]
  rfl

theorem read_direction_server {test : iperf_test} (server : test.role = .s) :
    let after := read_direction features j test
    after.mode = (if has_bool j "bidirectional" then .BIDIRECTIONAL
      else if has_bool j "reverse" then .SENDER else test.mode) ∧
    after.reverse = (if has_bool j "reverse" then 1 else test.reverse) ∧
    after.bidirectional = (if has_bool j "bidirectional" then 1 else test.bidirectional) := by
  by_cases reversed : has_bool j "reverse"
  · by_cases both : has_bool j "bidirectional"
    · simp [read_direction, iperf_set_test_reverse, iperf_set_test_bidirectional,
        check_sender_has_retransmits, reversed, both]
    · simp [read_direction, iperf_set_test_reverse, check_sender_has_retransmits, reversed, both,
        server]
  · by_cases both : has_bool j "bidirectional"
    · simp [read_direction, iperf_set_test_bidirectional, reversed, both]
    · simp [read_direction, reversed, both]

/-- The direction of a server follows from two keys and from what it was. -/
theorem read_parameters_direction {test : iperf_test} (server : test.role = .s) :
    let after := read_parameters features j test
    after.mode = (if has_bool j "bidirectional" then .BIDIRECTIONAL
      else if has_bool j "reverse" then .SENDER else test.mode) ∧
    after.reverse = (if has_bool j "reverse" then 1 else test.reverse) ∧
    after.bidirectional = (if has_bool j "bidirectional" then 1 else test.bidirectional) := by
  obtain ⟨_, _, chosen⟩ := read_protocol_sets features j test
  obtain ⟨_, noted⟩ := note_retransmits_sets features (read_settings features j
    (read_direction features j (read_test j (read_protocol features j test))))
  have before : (read_test j (read_protocol features j test)).role = .s := by
    rw [chosen]
    exact server
  have directed := read_direction_server features j before
  rw [read_parameters, noted]
  rw [chosen] at directed ⊢
  exact directed

end Get

section Frames

/-- Four bytes, the most significant first. -/
def htonl (value : Nat) : List UInt8 :=
  [.ofNat (value / 2 ^ 24), .ofNat (value / 2 ^ 16), .ofNat (value / 2 ^ 8), .ofNat value]

def ntohl (bytes : List UInt8) : Nat := bytes.foldl (fun value byte => value * 256 + byte.toNat) 0

def JSON_write (cJSON_PrintUnformatted : cJSON → List UInt8) (json : cJSON) : List UInt8 :=
  let str := cJSON_PrintUnformatted json
  htonl (str.length % 2 ^ 32) ++ str

theorem ntohl_htonl {value : Nat} (fits : value < 2 ^ 32) : ntohl (htonl value) = value := by
  simp only [htonl, ntohl, List.foldl_cons, List.foldl_nil, UInt8.toNat_ofNat']
  omega

end Frames

end Iperf.Parameters
