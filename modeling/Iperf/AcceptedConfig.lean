import Iperf.Arguments

/-!
What every configuration that `iperf_parse_arguments` accepts has in common:
flags are zero or one, `-R` and `--bidir` exclude each other, the mode follows
from them, and a test without client options keeps the default durations.
-/

namespace Iperf.AcceptedConfig

open TestState Config Arguments

def Flag (value : Int32) : Prop := value = 0 ∨ value = 1

/-- The mode of a client with these options. -/
def client_mode (reverse bidirectional : Int32) : Mode :=
  if reverse ≠ 0 then .RECEIVER else if bidirectional ≠ 0 then .BIDIRECTIONAL else .SENDER

structure Consistent (features : Features) (test : iperf_test) : Prop where
  server_port : 0 < test.server_port
  quic_port : 0 ≤ test.quic_port
  no_delay : Flag test.no_delay
  reverse : Flag test.reverse
  bidirectional : Flag test.bidirectional
  one_way : test.reverse = 0 ∨ test.bidirectional = 0
  get_server_output : Flag test.get_server_output
  udp_counters_64bit : Flag test.udp_counters_64bit
  repeating_payload : Flag test.repeating_payload
  dont_fragment : features.HAVE_DONT_FRAGMENT = false → test.settings.dont_fragment = 0
  supported : test.protocol ∈ protocols features
  mode : test.role = .c → test.mode = client_mode test.reverse test.bidirectional

section Setters
variable {features : Features} {test : iperf_test}

theorem defaults_consistent (features : Features) :
    Consistent features (iperf_defaults features) := by
  have listed : Protocol.Ptcp ∈ protocols features := by simp [protocols]
  simp only [iperf_defaults, set_protocol, listed, if_true]
  exact ⟨show 0 < PORT by decide, show (0 : Int32) ≤ 0 by decide, Or.inl rfl, Or.inl rfl,
    Or.inl rfl, Or.inl rfl, Or.inl rfl, Or.inl rfl, Or.inl rfl, fun _ => rfl, listed, nofun⟩

theorem set_protocol_consistent (consistent : Consistent features test) (prot_id : Protocol) :
    Consistent features (set_protocol features test prot_id) := by
  unfold set_protocol
  split
  · rename_i listed
    exact { consistent with supported := listed }
  · exact consistent

theorem set_role_consistent (consistent : Consistent features test) (role : Role) :
    Consistent features (iperf_set_test_role features test role) := by
  refine { consistent with mode := ?_ }
  intro client
  have same : role = .c := client
  subst same
  simp only [iperf_set_test_role, check_sender_has_retransmits, client_mode, if_true]
  by_cases reversed : test.reverse = 0
  · simp [reversed]
  · simp [reversed]

theorem set_reverse_consistent (consistent : Consistent features test)
    (oneWay : test.bidirectional = 0) :
    Consistent features (iperf_set_test_reverse features test 1) := by
  refine { consistent with reverse := Or.inr rfl, one_way := Or.inr oneWay, mode := ?_ }
  intro client
  have role : test.role = .c := client
  simp [iperf_set_test_reverse, check_sender_has_retransmits, client_mode, role]

theorem set_bidirectional_consistent (consistent : Consistent features test)
    (oneWay : test.reverse = 0) :
    Consistent features (iperf_set_test_bidirectional features test 1) := by
  refine { consistent with bidirectional := Or.inr rfl, one_way := Or.inl oneWay, mode := ?_ }
  intro _
  simp [iperf_set_test_bidirectional, client_mode, oneWay]

end Setters

section Options

/-- What a result keeps; an error keeps everything. -/
def Keeps {Result : Type} (kept : Result → Prop) : Except Errno Result → Prop
  | .error _ => True
  | .ok result => kept result

theorem keeps_bind {Value Result : Type} {kept : Result → Prop} {value : Except Errno Value}
    {next : Value → Except Errno Result}
    (each : ∀ found, value = .ok found → Keeps kept (next found)) : Keeps kept (value >>= next) := by
  cases value with
  | error reason => trivial
  | ok found => exact each found rfl

theorem keeps_unless {Result : Type} {kept : Result → Prop} {bad : Prop} [Decidable bad]
    {reason : Errno} {next : Except Errno Result} (passes : ¬ bad → Keeps kept next) :
    Keeps kept (if bad then .error reason else next) := by
  by_cases refused : bad
  · simp only [refused, if_true]
    trivial
  · simpa only [refused, if_false] using passes refused

theorem keeps_when {Result : Type} {kept : Result → Prop} {good : Prop} [Decidable good]
    {reason : Errno} {next : Except Errno Result} (passes : good → Keeps kept next) :
    Keeps kept (if good then next else .error reason) := by
  by_cases accepted : good
  · simpa only [accepted, if_true] using passes accepted
  · simp only [accepted, if_false]
    trivial

variable {features : Features} {parsing : Parsing}

/-- No client option has set when the test ends. -/
structure Untouched (test : iperf_test) : Prop where
  duration : test.duration = DURATION
  omitted : test.omit = OMIT
  server_affinity : test.server_affinity = -1
  bytes : test.settings.bytes = 0
  blocks : test.settings.blocks = 0

structure Parsed (features : Features) (parsing : Parsing) : Prop where
  consistent : Consistent features parsing.test
  untouched : parsing.client_flag = false → Untouched parsing.test

theorem client_parsed {test : iperf_test} (consistent : Consistent features test) :
    Keeps (Parsed features) (client parsing test) := ⟨consistent, nofun⟩

theorem both_parsed {test : iperf_test} (parsed : Parsed features parsing)
    (consistent : Consistent features test) (same : Untouched parsing.test → Untouched test) :
    Keeps (Parsed features) (both parsing test) :=
  ⟨consistent, fun none => same (parsed.untouched none)⟩

theorem set_protocol_untouched {test : iperf_test} (prot_id : Protocol)
    (untouched : Untouched test) : Untouched (set_protocol features test prot_id) := by
  unfold set_protocol
  split
  · exact { untouched with }
  · exact untouched

theorem bandwidth_parsed (parsed : Parsed features parsing) (burst : Option Int32)
    (rate : Option UInt64) : Keeps (Parsed features) (parse_bandwidth parsing burst rate) := by
  refine keeps_bind fun _ _ => keeps_bind fun _ _ => client_parsed ?_
  exact { parsed.consistent with }

theorem parse_option_parsed (parsed : Parsed features parsing) (opt : Opt) :
    Keeps (Parsed features) (parse_option features parsing opt) := by
  have consistent := parsed.consistent
  -- Most options set a field that no part of the invariant mentions.
  cases opt with
  | p portno =>
      refine keeps_unless fun range => both_parsed parsed { consistent with server_port := ?_ }
        fun same => { same with }
      have low : 1 ≤ portno := Int32.not_lt.mp fun small => range (Or.inl small)
      exact Int32.lt_of_lt_of_le (by decide) low
  | s =>
      exact keeps_unless fun _ => both_parsed parsed (set_role_consistent consistent .s)
        fun same => { same with }
  | c =>
      exact keeps_unless fun _ => both_parsed parsed (set_role_consistent consistent .c)
        fun same => { same with }
  | u => exact client_parsed (set_protocol_consistent consistent .Pudp)
  | quic =>
      exact keeps_when fun _ => both_parsed parsed (set_protocol_consistent consistent .Pquic)
        (set_protocol_untouched .Pquic)
  | quic_port port =>
      refine keeps_unless fun _ => keeps_unless fun range =>
        both_parsed parsed { consistent with quic_port := ?_ } fun same => { same with }
      exact Int32.le_of_lt (Int32.not_le.mp fun small => range (Or.inl small))
  | sctp => exact keeps_when fun _ => client_parsed (set_protocol_consistent consistent .Psctp)
  | nstreams count burst rate =>
      exact keeps_unless fun _ => keeps_bind fun _ _ => bandwidth_parsed parsed burst rate
  | b burst rate => exact bandwidth_parsed parsed burst rate
  | R =>
      refine keeps_unless fun oneWay => client_parsed (set_reverse_consistent consistent ?_)
      exact not_not.mp oneWay
  | bidir =>
      refine keeps_unless fun oneWay => client_parsed (set_bidirectional_consistent consistent ?_)
      exact not_not.mp oneWay
  | N => exact client_parsed { consistent with no_delay := Or.inr rfl }
  | repeating_payload => exact client_parsed { consistent with repeating_payload := Or.inr rfl }
  | get_server_output => exact client_parsed { consistent with get_server_output := Or.inr rfl }
  | udp_counters_64bit => exact client_parsed { consistent with udp_counters_64bit := Or.inr rfl }
  | dont_fragment =>
      refine keeps_when fun have_it => client_parsed { consistent with dont_fragment := ?_ }
      intro missing
      simp [missing] at have_it
  | F name => exact both_parsed parsed { consistent with } fun same => { same with }
  | server_max_duration seconds =>
      exact keeps_unless fun _ => ⟨{ consistent with }, fun none => { parsed.untouched none with }⟩
  | m =>
      exact keeps_when fun _ => both_parsed parsed
        { set_protocol_consistent consistent .Ptcp with }
        fun same => { @set_protocol_untouched features parsing.test .Ptcp same with }
  | other server_only client_only =>
      refine ⟨consistent, fun none => parsed.untouched ?_⟩
      exact (Bool.or_eq_false_iff.mp none).1
  | A affinity server_affinity =>
      refine keeps_unless fun _ => ?_
      cases affinity with
      | none => trivial
      | some affinity =>
          refine keeps_unless fun _ => ?_
          cases server_affinity with
          | none => exact both_parsed parsed { consistent with } fun same => { same with }
          | some core => exact keeps_unless fun _ => client_parsed { consistent with }
  | L flowlabel =>
      refine keeps_unless fun _ => ?_
      cases flowlabel with
      | none => trivial
      | some flowlabel => exact keeps_unless fun _ => client_parsed { consistent with }
  | w farg =>
      cases farg with
      | none => trivial
      | some farg => exact keeps_unless fun _ => client_parsed { consistent with }
  | S tos =>
      cases tos with
      | none => trivial
      | some tos => exact keeps_unless fun _ => client_parsed { consistent with }
  | t seconds => exact keeps_unless fun _ => client_parsed { consistent with }
  | P streams => exact keeps_unless fun _ => client_parsed { consistent with }
  | M mss => exact keeps_unless fun _ => client_parsed { consistent with }
  | dscp tos => exact keeps_unless fun _ => client_parsed { consistent with }
  | Z => exact keeps_unless fun _ => client_parsed { consistent with }
  | O seconds => exact keeps_unless fun _ => client_parsed { consistent with }
  | n bytes => exact keeps_bind fun _ _ => client_parsed { consistent with }
  | k blocks => exact keeps_bind fun _ _ => client_parsed { consistent with }
  | l blksize => exact keeps_bind fun _ _ => client_parsed { consistent with }
  | pacing_timer value => exact keeps_bind fun _ _ => client_parsed { consistent with }
  | extra_data text => exact client_parsed { consistent with }
  | T title => exact client_parsed { consistent with }
  | C congestion => exact keeps_when fun _ => client_parsed { consistent with }
  | no_fq_socket_pacing => exact keeps_when fun _ => client_parsed { consistent with }
  | username name => exact keeps_when fun _ => client_parsed { consistent with }
  | rsa_public_key_path path => exact keeps_when fun _ => client_parsed { consistent with }
  | skip_rx_copy => exact keeps_when fun _ => client_parsed { consistent with }
  | fq_rate rate =>
      exact keeps_when fun _ => keeps_bind fun _ _ => client_parsed { consistent with }

theorem options_parsed (options : List Opt) (parsed : Parsed features parsing) :
    Keeps (Parsed features) (options.foldlM (parse_option features) parsing) := by
  induction options generalizing parsing with
  | nil => exact parsed
  | cons opt rest ih =>
      rw [List.foldlM_cons]
      refine keeps_bind fun next done => ih ?_
      have step := parse_option_parsed parsed opt
      rw [done] at step
      exact step

end Options

section Finish
variable {features : Features}

/-- A configuration that the command line can produce. -/
structure Accepted (features : Features) (test : iperf_test) : Prop extends
    Consistent features test where
  blksize : test.protocol ≠ .Pudp → test.settings.blksize ≠ 0
  server : test.role = .s → Untouched test

theorem quic_default_consistent {test : iperf_test} (consistent : Consistent features test) :
    Consistent features (quic_default test) := by
  unfold quic_default
  split
  · refine { consistent with quic_port := ?_ }
    show 0 ≤ if 0 < test.server_port + 1 ∧ test.server_port + 1 ≤ 65535 then test.server_port + 1
      else test.server_port
    split
    · rename_i range
      exact Int32.le_of_lt range.1
    · exact Int32.le_of_lt consistent.server_port
  · exact consistent

theorem credentials_keep {environment : Environment} {parsing : Parsing} {test : iperf_test}
    {kept : iperf_test → Prop}
    (same : ∀ username password pubkey, kept { test with
      settings := { test.settings with
        client_username := username
        client_password := password
        client_rsa_pubkey := pubkey } }) :
    Keeps kept (credentials environment parsing test) := by
  unfold credentials
  split
  · split
    · exact same _ _ _
    · trivial
  · trivial
  · trivial
  · exact same _ _ _

theorem keeps_ok {Result : Type} {kept : Result → Prop} {value : Except Errno Result}
    {found : Result} (keeps : Keeps kept value) (done : value = .ok found) : kept found := by
  subst done
  exact keeps

/-- `Accepted` before the block size is settled. -/
structure Ready (features : Features) (test : iperf_test) : Prop where
  consistent : Consistent features test
  server : test.role = .s → Untouched test

theorem role_check_ready {parsing : Parsing} (parsed : Parsed features parsing)
    (passes : role_check parsing = .ok ()) : Ready features (quic_default parsing.test) := by
  have role : (quic_default parsing.test).role = parsing.test.role := by
    unfold quic_default
    split <;> rfl
  refine ⟨quic_default_consistent parsed.consistent, fun server => ?_⟩
  -- A server with a client option does not pass the role check.
  have untouched := parsed.untouched (by
    by_contra some
    have flagged : parsing.client_flag = true := by simpa using some
    simp [role_check, role ▸ server, flagged] at passes)
  unfold quic_default
  split
  · exact { untouched with }
  · exact untouched

theorem blksize_accepted {parsing : Parsing} {test : iperf_test} (ready : Ready features test) :
    Keeps (Accepted features) (set_blksize parsing test) := by
  refine keeps_unless fun positive => keeps_unless fun _ => ?_
  refine ⟨{ ready.consistent with }, fun other zero => positive (Or.inl ⟨other, ?_⟩),
    fun server => { ready.server server with }⟩
  exact Int32.le_of_eq zero

theorem rate_accepted {parsing : Parsing} {test : iperf_test} (accepted : Accepted features test) :
    Accepted features (default_rate parsing test) := by
  unfold default_rate
  split
  · exact accepted
  · exact ⟨{ accepted.toConsistent with }, accepted.blksize,
      fun server => { accepted.server server with }⟩

theorem file_accepted {environment : Environment} {parsing : Parsing} {test : iperf_test}
    (accepted : Accepted features test) :
    Accepted features (file_bytes environment parsing test) := by
  unfold file_bytes
  split
  · rename_i asked
    split
    · refine ⟨{ accepted.toConsistent with }, accepted.blksize, fun server => ?_⟩
      have client : test.role = .c := asked.2.2.2
      have other : test.role = .s := server
      simp [client] at other
    · exact accepted
  · exact accepted

theorem end_accepted {parsing : Parsing} {test : iperf_test} (accepted : Accepted features test) :
    Keeps (Accepted features) (end_conditions parsing test) := by
  refine keeps_unless fun _ => ?_
  split
  · -- Only a client has bytes or blocks here, so a server keeps its duration.
    rename_i ended
    refine ⟨{ accepted.toConsistent with }, accepted.blksize, fun server => ?_⟩
    have untouched := accepted.server server
    simp [untouched.bytes, untouched.blocks] at ended
  · exact accepted

theorem finish_accepted {environment : Environment} {parsing : Parsing}
    (parsed : Parsed features parsing) :
    Keeps (Accepted features) (finish environment parsing) := by
  refine keeps_bind fun _ roles => keeps_bind fun test known => ?_
  have ready : Ready features test := by
    have before := role_check_ready parsed roles
    refine keeps_ok (credentials_keep fun username password pubkey => ?_) known
    exact ⟨{ before.consistent with }, fun server => { before.server server with }⟩
  refine keeps_unless fun _ => keeps_bind fun sized settled => keeps_bind fun ended chosen => ?_
  have accepted := keeps_ok (blksize_accepted ready) settled
  have final := keeps_ok (end_accepted (file_accepted (rate_accepted accepted))) chosen
  exact keeps_unless fun _ => final

/-- Every configuration that the parser returns. -/
theorem parse_accepted {environment : Environment} {options : List Opt} {test : iperf_test}
    (parses : iperf_parse_arguments features environment (iperf_defaults features) options =
      .ok test) : Accepted features test := by
  have start : Parsed features { test := iperf_defaults features } :=
    ⟨defaults_consistent features, fun _ => set_protocol_untouched .Ptcp ⟨rfl, rfl, rfl, rfl, rfl⟩⟩
  refine keeps_ok (keeps_bind fun parsing done => ?_) parses
  exact finish_accepted (keeps_ok (options_parsed options start) done)

end Finish

end Iperf.AcceptedConfig
