import Iperf.ServerReset

/-!
What a client's parameters start from: without client options the command line
leaves the client's settings at their defaults, and so does every reset.
-/

namespace Iperf.ServerConfig

open TestState Json Config Parameters Arguments AcceptedConfig ServerRound ServerReset

/-- No client has set these yet. -/
structure Unset (test : iperf_test) : Prop where
  num_streams : test.num_streams = 1
  socket_bufsize : test.settings.socket_bufsize = 0
  burst : test.settings.burst = 0
  mss : test.settings.mss = 0
  tos : test.settings.tos = 0
  blksize : test.settings.blksize = DEFAULT_TCP_BLKSIZE
  streaming : test.protocol = .Ptcp ∨ test.protocol = .Pquic

/-- The bounds that the option for the maximum duration is checked against. -/
def Bounded (test : iperf_test) : Prop :=
  0 ≤ test.max_server_duration ∧ test.max_server_duration ≤ MAX_TIME

section Options
variable {features : Features} {parsing : Parsing} {test : iperf_test}

structure Plain (parsing : Parsing) : Prop where
  bounded : Bounded parsing.test
  unset : parsing.client_flag = false → Unset parsing.test ∧ parsing.blksize = 0

theorem set_protocol_bounded (prot_id : Protocol) (bounded : Bounded test) :
    Bounded (set_protocol features test prot_id) := by
  unfold set_protocol
  split
  · exact bounded
  · exact bounded

theorem set_protocol_unset {prot_id : Protocol} (unset : Unset test)
    (streaming : prot_id = .Ptcp ∨ prot_id = .Pquic) :
    Unset (set_protocol features test prot_id) := by
  unfold set_protocol
  split
  · exact { unset with streaming := streaming }
  · exact unset

theorem client_plain (bounded : Bounded test) : Keeps Plain (client parsing test) :=
  ⟨bounded, nofun⟩

theorem both_plain (plain : Plain parsing) (bounded : Bounded test)
    (same : Unset parsing.test → Unset test) : Keeps Plain (both parsing test) := by
  refine ⟨bounded, fun none => ?_⟩
  obtain ⟨unset, unsized⟩ := plain.unset none
  exact ⟨same unset, unsized⟩

theorem bandwidth_plain (plain : Plain parsing) (burst : Option Int32) (rate : Option UInt64) :
    Keeps Plain (parse_bandwidth parsing burst rate) :=
  keeps_bind fun _ _ => keeps_bind fun _ _ => client_plain plain.bounded

theorem parse_option_plain (plain : Plain parsing) (opt : Opt) :
    Keeps Plain (parse_option features parsing opt) := by
  have bounded := plain.bounded
  -- An option of the client's side raises the flag; the others set other fields.
  cases opt with
  | p portno =>
      exact keeps_unless fun _ => both_plain plain bounded fun unset => { unset with }
  | s | c => exact keeps_unless fun _ => both_plain plain bounded fun unset => { unset with }
  | quic =>
      exact keeps_when fun _ => both_plain plain (set_protocol_bounded _ bounded)
        fun unset => set_protocol_unset unset (Or.inr rfl)
  | quic_port port =>
      exact keeps_unless fun _ => keeps_unless fun _ =>
        both_plain plain bounded fun unset => { unset with }
  | F name => exact both_plain plain bounded fun unset => { unset with }
  | server_max_duration seconds =>
      refine keeps_unless fun range => ⟨?_, fun none => ?_⟩
      · exact ⟨Int32.not_lt.mp fun low => range (Or.inl low),
          Int32.not_lt.mp fun high => range (Or.inr high)⟩
      · obtain ⟨unset, unsized⟩ := plain.unset none
        exact ⟨{ unset with }, unsized⟩
  | m =>
      refine keeps_when fun _ => both_plain plain ?_ fun unset => ?_
      · exact @set_protocol_bounded features parsing.test .Ptcp bounded
      · exact { @set_protocol_unset features parsing.test .Ptcp unset (Or.inl rfl) with }
  | other server_only client_only =>
      refine ⟨bounded, fun none => plain.unset ?_⟩
      exact (Bool.or_eq_false_iff.mp none).1
  | A affinity server_affinity =>
      refine keeps_unless fun _ => ?_
      cases affinity with
      | none => trivial
      | some affinity =>
          refine keeps_unless fun _ => ?_
          cases server_affinity with
          | none => exact both_plain plain bounded fun unset => { unset with }
          | some core => exact keeps_unless fun _ => client_plain bounded
  | L flowlabel =>
      refine keeps_unless fun _ => ?_
      cases flowlabel with
      | none => trivial
      | some flowlabel => exact keeps_unless fun _ => client_plain bounded
  | w farg =>
      cases farg with
      | none => trivial
      | some farg => exact keeps_unless fun _ => client_plain bounded
  | S tos =>
      cases tos with
      | none => trivial
      | some tos => exact keeps_unless fun _ => client_plain bounded
  | nstreams count burst rate =>
      exact keeps_unless fun _ => keeps_bind fun _ _ => bandwidth_plain plain burst rate
  | b burst rate => exact bandwidth_plain plain burst rate
  | u => exact client_plain (set_protocol_bounded _ bounded)
  | sctp => exact keeps_when fun _ => client_plain (set_protocol_bounded _ bounded)
  | fq_rate rate => exact keeps_when fun _ => keeps_bind fun _ _ => client_plain bounded
  | n _ | k _ | l _ | pacing_timer _ => exact keeps_bind fun _ _ => client_plain bounded
  | t _ | P _ | R | bidir | M _ | dscp _ | Z | O _ =>
      exact keeps_unless fun _ => client_plain bounded
  | C _ | no_fq_socket_pacing | dont_fragment | username _ | rsa_public_key_path _ | skip_rx_copy =>
      exact keeps_when fun _ => client_plain bounded
  | N | extra_data _ | repeating_payload | T _ | get_server_output | udp_counters_64bit =>
      exact client_plain bounded

theorem options_plain (options : List Opt) (plain : Plain parsing) :
    Keeps Plain (options.foldlM (parse_option features) parsing) := by
  induction options generalizing parsing with
  | nil => exact plain
  | cons opt rest ih =>
      rw [List.foldlM_cons]
      refine keeps_bind fun next done => ih ?_
      exact keeps_ok (parse_option_plain plain opt) done

end Options

section Finish
variable {features : Features} {test : iperf_test}

/-- A server that waits for a client's parameters. -/
structure Base (test : iperf_test) : Prop extends Idle test, Unset test where
  role : test.role = .s
  bounded : Bounded test

/-- What the last part of the parser finds on a server. -/
structure Settled (test : iperf_test) : Prop where
  bounded : Bounded test
  server : test.role = .s → Unset test

theorem quic_default_settled (settled : Settled test) : Settled (quic_default test) := by
  unfold quic_default
  split
  · exact ⟨settled.bounded, fun role => { settled.server role with }⟩
  · exact settled

theorem default_rate_settled {parsing : Parsing} (settled : Settled test) :
    Settled (default_rate parsing test) := by
  unfold default_rate
  split
  · exact settled
  · exact ⟨settled.bounded, fun role => { settled.server role with }⟩

theorem file_bytes_settled {environment : Environment} {parsing : Parsing}
    (settled : Settled test) : Settled (file_bytes environment parsing test) := by
  unfold file_bytes
  split
  · split
    · exact ⟨settled.bounded, fun role => { settled.server role with }⟩
    · exact settled
  · exact settled

theorem end_conditions_settled {parsing : Parsing} (settled : Settled test) :
    Keeps Settled (end_conditions parsing test) := by
  refine keeps_unless fun _ => ?_
  split
  · exact ⟨settled.bounded, fun role => { settled.server role with }⟩
  · exact settled

/-- Without `-l` a server gets the block size it already has. -/
theorem set_blksize_settled {parsing : Parsing} (settled : Settled test)
    (unsized : test.role = .s → parsing.blksize = 0) :
    Keeps Settled (set_blksize parsing test) := by
  refine keeps_unless fun _ => keeps_unless fun _ => ⟨settled.bounded, fun role => ?_⟩
  have unset := settled.server role
  have default : default_blksize test.protocol = DEFAULT_TCP_BLKSIZE := by
    rcases unset.streaming with tcp | quic
    · rw [tcp]; rfl
    · rw [quic]; rfl
  refine { unset with blksize := ?_ }
  simp [unsized role, default]

theorem finish_settled {environment : Environment} {parsing : Parsing} (plain : Plain parsing) :
    Keeps Settled (finish environment parsing) := by
  refine keeps_bind fun _ roles => keeps_bind fun test known => ?_
  have unflagged : parsing.test.role = .s → parsing.client_flag = false := by
    intro role
    by_contra some
    have flagged : parsing.client_flag = true := by simpa using some
    simp [role_check, role, flagged] at roles
  have start : Settled (quic_default parsing.test) :=
    quic_default_settled ⟨plain.bounded, fun role => (plain.unset (unflagged role)).1⟩
  have same : (quic_default parsing.test).role = parsing.test.role := by
    unfold quic_default
    split <;> rfl
  have keeps : Keeps (fun found => Settled found ∧ found.role = (quic_default parsing.test).role)
      (credentials environment parsing (quic_default parsing.test)) :=
    credentials_keep fun _ _ _ => ⟨⟨start.bounded, fun role => { start.server role with }⟩, rfl⟩
  rw [known] at keeps
  have ready : Settled test ∧ test.role = (quic_default parsing.test).role := keeps
  refine keeps_unless fun _ => keeps_bind fun sized settled => keeps_bind fun ended chosen => ?_
  have unsized : test.role = .s → parsing.blksize = 0 := by
    intro role
    rw [ready.2, same] at role
    exact (plain.unset (unflagged role)).2
  have first := keeps_ok (set_blksize_settled ready.1 unsized) settled
  have last := keeps_ok (end_conditions_settled (file_bytes_settled
    (default_rate_settled first))) chosen
  exact keeps_unless fun _ => last

theorem parse_settled {environment : Environment} {options : List Opt}
    (parses : iperf_parse_arguments features environment (iperf_defaults features) options =
      .ok test) : Settled test := by
  have bounded : Bounded (iperf_defaults features) :=
    set_protocol_bounded .Ptcp ⟨by decide, by decide⟩
  have unset : Unset (iperf_defaults features) :=
    set_protocol_unset ⟨rfl, rfl, rfl, rfl, rfl, rfl, Or.inl rfl⟩ (Or.inl rfl)
  have start : Plain { test := iperf_defaults features } := ⟨bounded, fun _ => ⟨unset, rfl⟩⟩
  refine keeps_ok (keeps_bind fun parsing done => ?_) parses
  exact finish_settled (keeps_ok (options_plain options start) done)

theorem reset_base (test : iperf_test) (bounded : Bounded test) :
    Base (iperf_reset_test features test) := by
  rw [iperf_reset_test_eq]
  exact ⟨⟨rfl, rfl, rfl⟩, ⟨rfl, rfl, rfl, rfl, rfl, rfl, Or.inl rfl⟩, rfl, bounded⟩

/-- Whatever its clients did, a server waits for the next one like this. -/
theorem serve_base {environment : Environment} {options : List Opt} {initial : iperf_test}
    (parses : iperf_parse_arguments features environment (iperf_defaults features) options =
      .ok initial) (role : initial.role = .s) (rounds : List Round) :
    Base (serve features initial rounds) := by
  have idle := accepted_idle parses role
  have settled := parse_settled parses
  obtain ⟨waiting, configures, _⟩ := serve_carries features idle rounds
  have bounded : Bounded (serve features initial rounds) := by
    have same := congrArg Configured.max_server_duration configures
    simp only [configured] at same
    unfold Bounded
    rw [same]
    exact settled.bounded
  by_cases served : rounds = []
  · subst served
    exact ⟨idle, settled.server role, role, settled.bounded⟩
  · obtain ⟨last, reset, _⟩ := serve_reset features idle served
    rw [reset] at bounded ⊢
    have before : Bounded last := by
      rw [iperf_reset_test_eq] at bounded
      exact bounded
    exact reset_base last before

end Finish

section Message
variable {features : Features} {test : iperf_test} {j : cJSON}

/-- A message that `get_parameters` accepts. -/
theorem accepted_message (accepted : (get_parameters features test (some j)).1 = none) :
    (get_parameters features test (some j)).2 = read_parameters features j test ∧
      exceeds_duration (read_parameters features j test) = false ∧
      (has_bool j "udp" → test.diskfile_name = none) := by
  simp only [get_parameters] at accepted ⊢
  split at accepted
  · simp at accepted
  · split at accepted
    · simp at accepted
    · rename_i short nofile
      simp only [short, nofile, if_false]
      exact ⟨rfl, trivial, fun asked => by simpa [asked] using nofile⟩

end Message

end Iperf.ServerConfig
