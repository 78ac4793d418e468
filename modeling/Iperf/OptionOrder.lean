import Iperf.ComputedMode
import Iperf.OptionEffects

/-!
Whether the order of the options matters. On an accepted line whose options name
different settings it does not, and each option affects only what it names, exactly when
`--nstreams` is not used.
-/

namespace Iperf.OptionOrder

open KeyedWrites CommandLine OptionSettings OptionEffects ComputedMode
open TestState (Protocol)

section Order
variable (build : Build) (environment : Environment)

def Accepted (build : Build) (environment : Environment) (options : List Opt) : Prop :=
  ∃ test, iperf_parse_arguments build environment options = .ok test

/-- Every order of the options has the same result. -/
def AnyOrder (build : Build) (environment : Environment) (options : List Opt) : Prop :=
  ∀ others, others.Perm options →
    iperf_parse_arguments build environment others =
      iperf_parse_arguments build environment options

def step (test : Values) (opt : Opt) : Option Values := (parse_option build test opt).toOption

theorem run_settled {options : List Opt} {test : Values}
    (reached : run (step build) (iperf_defaults build) options = some test) :
    Settled build test := by
  apply run_preserves (step build) _ (defaults_settled build) reached
  intro opt _ test next settled stepped
  exact parse_option_settled build settled (toOption_some.mp stepped)

theorem run_erased (options : List Opt) (test : Values) :
    (run (step build) test options).map erase = run (core build) (erase test) options :=
  run_project (step build) erase (core build)
    (fun opt _ test => parse_option_erased build test opt) test

theorem bind_ok {First Second : Type} {outcome : Except Refusal First}
    {next : First → Except Refusal Second} {final : Second} :
    (outcome >>= next) = .ok final ↔ ∃ found, outcome = .ok found ∧ next found = .ok final := by
  cases outcome <;> simp [bind, Except.bind]

theorem quic_defaults_other {test next : Values} {field : Field}
    (accepted : quic_defaults environment test = .ok next)
    (apart : ∀ other ∈ [.quic_port, .quic_p12_file, .quic_p12_password], other ≠ field) :
    next field = test field := by
  simp only [List.mem_cons, List.not_mem_nil, or_false, forall_eq_or_imp, forall_eq] at apart
  have port : default_quic_port test field = test field := by
    simp only [default_quic_port]
    split_ifs <;> simp [set_other, apart]
  simp only [quic_defaults] at accepted
  split_ifs at accepted <;> cases accepted <;> simp [set_other, port, apart]

theorem credentials_other {test next : Values} {field : Field}
    (accepted : credentials environment test = .ok next)
    (apart : ∀ other ∈ [.client_username, .client_password, .client_rsa_pubkey,
      .arg_client_rsa_public_key, .server_rsa_private_key, .arg_server_rsa_private_key,
      .server_skew_threshold], other ≠ field) : next field = test field := by
  simp only [List.mem_cons, List.not_mem_nil, or_false, forall_eq_or_imp, forall_eq] at apart
  simp only [credentials, bind_ok] at accepted
  obtain ⟨client, identified, -, -, -, -, loaded⟩ := accepted
  have first : client field = test field := by
    simp only [client_authentication] at identified
    split at identified <;> try cases identified
    · split at identified <;> cases identified
      simp [write_other, apart]
    · rfl
  have second : next field = client field := by
    simp only [load_private_key] at loaded
    split at loaded
    · split at loaded <;> cases loaded
      split <;> simp [write_other, set_other, apart]
    · cases loaded
      rfl
  rw [second, first]

theorem end_conditions_other {test next : Values} {field : Field}
    (accepted : end_conditions (file_bytes environment (default_rate test)) = .ok next)
    (apart : ∀ other ∈ [.rate, .bytes, .duration], other ≠ field) : next field = test field := by
  simp only [List.mem_cons, List.not_mem_nil, or_false, forall_eq_or_imp, forall_eq] at apart
  have rate : default_rate test field = test field := by
    simp only [default_rate]
    split <;> simp [set_other, apart]
  have bytes : file_bytes environment (default_rate test) field = test field := by
    simp only [file_bytes]
    split_ifs
    · cases (default_rate test .diskfile_name).bind environment.file_size with
      | none => exact rate
      | some bytes => simp [set_other, rate, apart]
    · exact rate
  simp only [end_conditions] at accepted
  split_ifs at accepted <;> cases accepted <;> simp [set_other, bytes, apart]

/-- The fields that the last part of the function may write, but for the block size. -/
def completed : List Field :=
  [.quic_port, .quic_p12_file, .quic_p12_password, .client_username, .client_password,
    .client_rsa_pubkey, .arg_client_rsa_public_key, .server_rsa_private_key,
    .arg_server_rsa_private_key, .server_skew_threshold, .rate, .bytes, .duration,
    .bitrate_limit_stats_per_interval]

/-- The last part of an accepted line sets the block size, and completes other fields. -/
theorem finish_ok {test final : Values} (accepted : finish build environment test = .ok final) :
    ∃ ssl sized : Values, role_check test = .ok () ∧ set_blksize ssl = .ok sized ∧
      (∀ field, (∀ other ∈ completed, other ≠ field) →
        ssl field = test field ∧ final field = sized field) ∧
      final .role ≠ .unset := by
  simp only [finish, bind_ok] at accepted
  obtain ⟨_, checked, quic, defaulted, ssl, authenticated, -, -, sized, fits, ended, ends, _,
    roled, finished⟩ := accepted
  have averaged {field : Field} (apart : .bitrate_limit_stats_per_interval ≠ field) :
      final field = ended field := by
    cases finished
    simp only [average_interval]
    split <;> simp [set_other, apart]
  refine ⟨ssl, sized, checked, fits, ?_, ?_⟩
  · intro field apart
    simp only [completed, List.mem_cons, List.not_mem_nil, or_false, forall_eq_or_imp,
      forall_eq] at apart
    have quic_kept : quic field = test field :=
      quic_defaults_other environment defaulted (by simp [apart])
    have ssl_kept : ssl field = quic field := by
      simp only [authentication] at authenticated
      split at authenticated
      · exact credentials_other environment authenticated (by simp [apart])
      · cases authenticated
        rfl
    have ended_kept : ended field = sized field :=
      end_conditions_other environment ends (by simp [apart])
    exact ⟨ssl_kept.trans quic_kept, (averaged (by simp [apart])).trans ended_kept⟩
  · rw [averaged (by decide)]
    intro role
    simp [given_role, role] at roled

theorem set_blksize_ok {test sized : Values} (fits : set_blksize test = .ok sized) :
    sized = test.set .blksize
      (if test .arg_blksize = 0 then Arguments.default_blksize (test .protocol)
      else test .arg_blksize) := by
  simp only [set_blksize] at fits
  split_ifs at fits <;> cases fits <;> simp [*]

/-- An accepted line has a role, and no client option with the role of a server. -/
theorem finish_role {test final : Values} (accepted : finish build environment test = .ok final) :
    test .role = .c ∨ test .client_flag = false := by
  obtain ⟨ssl, sized, checked, fits, kept, roled⟩ := finish_ok build environment accepted
  have ended : final .role = test .role := by
    rw [(kept .role (by decide)).2, set_blksize_ok fits, set_other _ _ (by decide)]
    exact (kept .role (by decide)).1
  rw [ended] at roled
  simp only [role_check] at checked
  cases role : test .role with
  | unset => exact absurd role roled
  | c => exact .inl rfl
  | s => exact .inr (by simpa [role] using checked)

/-- Two settled tests that differ only in what is computed do not differ at all. -/
theorem settled_eq {left right : Values} (hleft : Settled build left)
    (hright : Settled build right) (same : erase left = erase right)
    (side : left .role = .c ∨ left .bidirectional = 0) : left = right := by
  have plain {field : Field} (not_mode : field ≠ .mode)
      (not_retransmits : field ≠ .sender_has_retransmits) : left field = right field := by
    have erased := congrFun same field
    rwa [erase_other left not_mode not_retransmits, erase_other right not_mode not_retransmits]
      at erased
  have role := plain (by decide : Field.role ≠ .mode) (by decide)
  have reverse := plain (by decide : Field.reverse ≠ .mode) (by decide)
  have bidirectional := plain (by decide : Field.bidirectional ≠ .mode) (by decide)
  have protocol := plain (by decide : Field.protocol ≠ .mode) (by decide)
  have mode : left .mode = right .mode := by
    rw [hleft.mode_eq, hright.mode_eq, role, reverse, bidirectional]
  funext field
  by_cases is_mode : field = .mode
  · rw [is_mode]
    exact mode
  · by_cases is_retransmits : field = .sender_has_retransmits
    · rw [is_retransmits, hleft.retransmits_eq side, mode, protocol]
      rw [role, bidirectional] at side
      exact (hright.retransmits_eq side).symm
    · exact plain is_mode is_retransmits

/-- Without `--nstreams`, each option affects what its documentation names. -/
theorem faithful_of_other {opt : Opt}
    (other : ∀ count burst rate, opt ≠ .assign (.nstreams count burst rate)) : Faithful opt := by
  cases opt with
  | assign assignment =>
      cases assignment with
      | nstreams count burst rate => exact absurd rfl (other count burst rate)
      | _ => rfl
  | _ => rfl

theorem parse_arguments_ok {options : List Opt} {final : Values} :
    iperf_parse_arguments build environment options = .ok final ↔
      ∃ test, run (step build) (iperf_defaults build) options = some test ∧
        finish build environment test = .ok final := by
  have folded : run (step build) (iperf_defaults build) options =
      (options.foldlM (parse_option build) (iperf_defaults build)).toOption :=
    (toOption_foldlM (parse_option build) (iperf_defaults build) options).symm
  simp only [iperf_parse_arguments, bind_ok, folded, toOption_some]

/-- The order of options that write only what is named does not matter. -/
theorem any_order {options : List Opt} (faithful : ∀ opt ∈ options, Faithful opt)
    (separate : options.Pairwise Separate) (accepted : Accepted build environment options) :
    AnyOrder build environment options := by
  obtain ⟨final, accepted⟩ := accepted
  obtain ⟨test, reached, finished⟩ := (parse_arguments_ok build environment).mp accepted
  intro others perm
  rw [accepted, parse_arguments_ok]
  have commute : options.Pairwise (Commute (core build)) :=
    separate.imp_of_mem fun hfirst hsecond apart =>
      separate_commute build (faithful _ hfirst) (faithful _ hsecond) apart
  have same := run_perm (core build) commute perm.symm (erase (iperf_defaults build))
  rw [← run_erased, ← run_erased, reached] at same
  obtain ⟨again, reached_again, erased⟩ := Option.map_eq_some_iff.mp same.symm
  have settled := run_settled build reached
  have side : test .role = .c ∨ test .bidirectional = 0 := by
    rcases finish_role build environment finished with client | unflagged
    · exact .inl client
    · by_contra neither
      have both_ways := settled.flagged fun one_way => neither (.inr one_way)
      rw [unflagged] at both_ways
      cases both_ways
  have equal := settled_eq build settled (run_settled build reached_again) erased.symm side
  exact ⟨test, equal ▸ reached_again, finished⟩

end Order

section Confinement
variable (build : Build) (environment : Environment)

/-- A field that an option changes is one that it writes, or a computed one. -/
theorem changed_covered {test next : Values} {opt : Opt}
    (accepted : parse_option build test opt = .ok next) {field : Field}
    (not_mode : field ≠ .mode) (not_retransmits : field ≠ .sender_has_retransmits)
    (changed : next field ≠ test field) : Covers (touched opt) field := by
  have erased := parse_option_erased build test opt
  rw [accepted] at erased
  obtain ⟨entries, written, applied⟩ := Option.map_eq_some_iff.mp erased.symm
  have moved : ∃ entry ∈ entries, entry.1 = field := by
    by_contra none_written
    have others : ∀ entry ∈ entries, entry.1 ≠ field :=
      fun entry member same => none_written ⟨entry, member, same⟩
    have kept := apply_other others (erase test)
    rw [applied, erase_other next not_mode not_retransmits,
      erase_other test not_mode not_retransmits] at kept
    exact changed kept
  obtain ⟨entry, member, rfl⟩ := moved
  rcases effect_within build written entry member with rfl | rfl | ⟨setting, touches, stands⟩
  · exact .inl rfl
  · exact .inr (.inl rfl)
  · exact .inr (.inr ⟨setting, stands ▸ List.mem_singleton_self setting, touches⟩)

theorem protocol_mode (test : Values) (prot_id : Protocol) :
    set_protocol build test prot_id .mode = test .mode := by
  simp only [set_protocol]
  split <;> simp [check_other, set_other]

/-- The mode and the retransmit flag change only with the settings that they are computed
from. -/
theorem computed_kept {test next : Values} {opt : Opt}
    (accepted : parse_option build test opt = .ok next) {field : Field}
    (computed : field = .mode ∨ field = .sender_has_retransmits)
    (uncovered : ¬ Covers (documented opt) field) : next field = test field := by
  cases opt with
  | assign assignment =>
      rcases assign_ok.mp accepted with ⟨entries, assigned, rfl⟩
      apply apply_other
      rcases computed with rfl | rfl <;>
        exact assigned_apart build assigned (by decide) (by decide)
  | s | R | bidir =>
      rcases computed with rfl | rfl <;> simp [Covers, stands_for, documented] at uncovered
  | c host dev =>
      cases dev <;> rcases computed with rfl | rfl <;>
        simp [Covers, stands_for, documented] at uncovered
  | u =>
      rcases computed with rfl | rfl
      · cases accepted
        simp [set_other, protocol_mode]
      · simp [Covers, stands_for, documented] at uncovered
  | quic | sctp | m =>
      rcases computed with rfl | rfl
      · simp only [parse_option] at accepted
        split at accepted <;> cases accepted
        simp [set_other, protocol_mode]
      · simp [Covers, stands_for, documented] at uncovered
  | X name =>
      cases accepted
      rcases computed with rfl | rfl <;> simp [set_other]
  | cntl_ka keepidle interval count =>
      rcases cntl_ka_ok.mp accepted with ⟨-, -, rfl⟩
      apply apply_other
      rintro entry member rfl
      have key := keepalive_keys keepidle interval count entry member
      rcases computed with same | same <;> simp [same, documented] at key

theorem confined_of_faithful {opt : Opt} (faithful : Faithful opt) : Confined build opt := by
  intro test next accepted field changed
  by_contra uncovered
  by_cases computed : field = .mode ∨ field = .sender_has_retransmits
  · exact changed (computed_kept build accepted computed uncovered)
  · rw [not_or] at computed
    have covered := changed_covered build accepted computed.1 computed.2 changed
    rw [faithful] at covered
    exact uncovered covered

/-- The branch of `-b` sets the rate to the same number in every test. -/
theorem bandwidth_rate {burst : Option Int32} {rate : Option UInt64} {entries written : List Write}
    (accepted : parse_bandwidth burst rate entries = .ok written) :
    ∃ number, ∀ test : Values, apply test written .rate = number := by
  cases burst with
  | none =>
      rcases given_ok.mp accepted with ⟨number, rfl, ⟨⟩⟩
      exact ⟨number, fun test => by simp [write_other]⟩
  | some burst =>
      rcases refuse_ok.mp accepted with ⟨-, rated⟩
      rcases given_ok.mp rated with ⟨number, rfl, ⟨⟩⟩
      exact ⟨number, fun test => by simp [write_other]⟩

theorem nstreams_rate {count : Option UInt64} {burst : Option Int32} {rate : Option UInt64}
    {entries : List Write} (assigned : assigns build (.nstreams count burst rate) = .ok entries) :
    ∃ number, ∀ test : Values, apply test entries .rate = number := by
  rcases known_ok.mp assigned with ⟨-, here⟩
  rcases refuse_ok.mp here with ⟨-, counted⟩
  rcases given_ok.mp counted with ⟨streams, rfl, banded⟩
  exact bandwidth_rate banded

/-- The case of `--nstreams` sets the rate as well, in any test where it is accepted. -/
theorem nstreams_not_confined {count : Option UInt64} {burst : Option Int32}
    {rate : Option UInt64} {before next : Values}
    (accepted : parse_option build before (.assign (.nstreams count burst rate)) = .ok next) :
    ¬ Confined build (.assign (.nstreams count burst rate)) := by
  rcases assign_ok.mp accepted with ⟨entries, assigned, rfl⟩
  rcases nstreams_rate build assigned with ⟨number, rated⟩
  intro confined
  -- a test with another rate shows the change
  let other := before.set .rate (number + 1)
  have changed : apply other entries .rate ≠ other .rate := by
    rw [rated]
    simp [other]
  have covered := confined other (apply other entries)
    (assign_ok.mpr ⟨entries, assigned, rfl⟩) .rate changed
  simp [Covers, stands_for, documented, settings_of] at covered

end Confinement

section Line
variable (build : Build) (environment : Environment)

/-- On an accepted line whose options name different settings, the order does not matter
and each option affects only what it names exactly when `--nstreams` is not used. -/
theorem option_order_iff (options : List Opt) (separate : options.Pairwise Separate)
    (accepted : Accepted build environment options) :
    (AnyOrder build environment options ∧ ∀ opt ∈ options, Confined build opt) ↔
      ∀ count burst rate, .assign (.nstreams count burst rate) ∉ options := by
  constructor
  · rintro ⟨-, confined⟩ count burst rate member
    obtain ⟨final, accepted⟩ := accepted
    obtain ⟨test, reached, -⟩ := (parse_arguments_ok build environment).mp accepted
    obtain ⟨before, next, stepped⟩ := run_accepts (step build) reached member
    exact nstreams_not_confined build (toOption_some.mp stepped) (confined _ member)
  · intro absent
    have faithful : ∀ opt ∈ options, Faithful opt := by
      intro opt member
      apply faithful_of_other
      rintro count burst rate rfl
      exact absent count burst rate member
    exact ⟨any_order build environment faithful separate accepted,
      fun opt member => confined_of_faithful build (faithful opt member)⟩

def sample_line : List Opt :=
  [.R, .c "host" none, .assign (.b (some 20) (some 1000)), .u, .assign (.P 3)]

theorem sample_line_order :
    (AnyOrder sample_build sample_environment sample_line ∧
      ∀ opt ∈ sample_line, Confined sample_build opt) ↔
    ∀ count burst rate, .assign (.nstreams count burst rate) ∉ sample_line :=
  option_order_iff sample_build sample_environment sample_line (by
    simp [sample_line, Separate, documented, settings_of]) ⟨_, rfl⟩

/-- `-c host --nstreams 4 -b 10`, whose two last options may not be swapped. -/
def nstreams_line : List Opt :=
  [.c "host" none, .assign (.nstreams (some 4) none (some 4)), .assign (.b none (some 10))]

theorem nstreams_order_matters :
    nstreams_line.Pairwise Separate ∧ Accepted sample_build sample_environment nstreams_line ∧
      ¬ AnyOrder sample_build sample_environment nstreams_line ∧
      ¬ Confined sample_build (.assign (.nstreams (some 4) none (some 4))) := by
  refine ⟨by simp [nstreams_line, Separate, documented, settings_of], ⟨_, rfl⟩, ?_, ?_⟩
  · intro every
    have swapped := every
      [.c "host" none, .assign (.b none (some 10)), .assign (.nstreams (some 4) none (some 4))]
      (.cons _ (.swap _ _ _))
    have rates := congrArg (fun outcome => outcome.toOption.map (· .rate)) swapped
    exact absurd rates (by decide)
  · have accepted : parse_option sample_build (iperf_defaults sample_build)
        (.assign (.nstreams (some 4) none (some 4))) = .ok _ := rfl
    exact nstreams_not_confined sample_build accepted

end Line

end Iperf.OptionOrder
