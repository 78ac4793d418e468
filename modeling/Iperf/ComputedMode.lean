import Iperf.OptionSettings

/-!
The mode and `sender_has_retransmits`, which several setters compute from what is set so
far. On every accepted line both follow from the role, `-R`, `--bidir` and the protocol.
-/

namespace Iperf.ComputedMode

open TestState KeyedWrites CommandLine OptionSettings
open Config (Role)

section Computed
variable (build : Build)

/-- The mode that the three setters agree on, whatever the order of their calls. -/
def mode_of (role : Role) (reverse bidirectional : Int32) : Mode :=
  if bidirectional ≠ 0 then .BIDIRECTIONAL
  else if reverse = 0 then if role = .c then .SENDER else .RECEIVER
  else if role = .s then .SENDER else .RECEIVER

def retransmits_of (mode : Mode) (protocol : Protocol) : Int32 :=
  if mode ≠ .RECEIVER ∧ protocol = .Ptcp ∧ build.has_tcpinfo_retransmits then 1 else 0

/-- `iperf_set_test_bidirectional` does not look at the retransmits again, so before a role
is set the flag may lag behind; a server is refused then. -/
structure Settled (test : Values) : Prop where
  exclusive : test .reverse = 0 ∨ test .bidirectional = 0
  flagged : test .bidirectional ≠ 0 → test .client_flag = true
  mode_eq : test .mode = mode_of (test .role) (test .reverse) (test .bidirectional)
  retransmits_eq : test .role = .c ∨ test .bidirectional = 0 →
    test .sender_has_retransmits = retransmits_of build (test .mode) (test .protocol)

@[simp] theorem set_same (test : Values) (field : Field) (value : field.Ty) :
    test.set field value field = value :=
  write_same test field value

theorem set_other (test : Values) {field other : Field} (value : field.Ty)
    (differs : field ≠ other) : test.set field value other = test other :=
  write_other test differs

@[simp] theorem check_retransmits (test : Values) :
    check_sender_has_retransmits build test .sender_has_retransmits =
      retransmits_of build (test .mode) (test .protocol) :=
  set_same test .sender_has_retransmits _

theorem check_other (test : Values) {field : Field} (other : field ≠ .sender_has_retransmits) :
    check_sender_has_retransmits build test field = test field :=
  set_other test _ other.symm

theorem role_settled {test : Values} (settled : Settled build test) {role : Role}
    (given : role ≠ .unset) : Settled build (iperf_set_test_role build test role) := by
  have exclusive := settled.exclusive
  constructor
  · simp only [iperf_set_test_role]
    split_ifs <;> simpa [check_other, set_other] using exclusive
  · simp only [iperf_set_test_role]
    split_ifs <;> simpa [check_other, set_other] using settled.flagged
  · simp only [iperf_set_test_role]
    cases role <;> split_ifs <;> simp_all [check_other, set_other, mode_of]
  · intro _
    simp [iperf_set_test_role, check_other]

theorem reverse_settled {test : Values} (settled : Settled build test)
    (one_way : test .bidirectional = 0) : Settled build (iperf_set_test_reverse build test 1) := by
  have mode := settled.mode_eq
  have one_side : iperf_set_test_reverse build test 1 .bidirectional = 0 := by
    simp only [iperf_set_test_reverse]
    split_ifs <;> simpa [check_other, set_other] using one_way
  constructor
  · exact .inr one_side
  · exact fun both_ways => absurd one_side both_ways
  · simp only [iperf_set_test_reverse]
    split_ifs <;> simp_all [check_other, set_other, mode_of]
  · intro _
    simp [iperf_set_test_reverse, check_other]

theorem bidirectional_settled {test : Values} (settled : Settled build test)
    (forward : test .reverse = 0) :
    Settled build ((iperf_set_test_bidirectional build test 1).set .client_flag true) := by
  have retransmits := settled.retransmits_eq
  have mode := settled.mode_eq
  constructor
  · exact .inl (by simpa [iperf_set_test_bidirectional, set_other] using forward)
  · simp
  · simp [iperf_set_test_bidirectional, set_other, mode_of]
  · -- on a client the mode was `SENDER`, for which the flag has the same value
    intro side
    have client : test .role = .c := by simpa [iperf_set_test_bidirectional, set_other] using side
    by_cases both_ways : test .bidirectional = 0
    · have sends : test .mode = .SENDER := by simp [mode, mode_of, client, forward, both_ways]
      simp [iperf_set_test_bidirectional, set_other, retransmits (.inl client), retransmits_of,
        sends]
    · have sends : test .mode = .BIDIRECTIONAL := by simp [mode, mode_of, both_ways]
      simp [iperf_set_test_bidirectional, set_other, retransmits (.inl client), sends]

theorem protocol_settled {test : Values} (settled : Settled build test) (prot_id : Protocol) :
    Settled build (set_protocol build test prot_id) := by
  have mode := settled.mode_eq
  simp only [set_protocol]
  split
  · constructor
    · simpa [check_other, set_other] using settled.exclusive
    · simpa [check_other, set_other] using settled.flagged
    · simpa [check_other, set_other] using settled.mode_eq
    · intro _
      simp [check_other]
  · exact settled

def entangled : List Field :=
  [.role, .mode, .sender_has_retransmits, .protocol, .reverse, .bidirectional]

/-- Assignments to other fields keep what was computed. -/
theorem settled_apply {test : Values} (settled : Settled build test) {entries : List Write}
    (others : ∀ field ∈ entangled, ∀ entry ∈ entries, entry.1 ≠ field)
    (raised : ∀ entry ∈ entries, entry.1 = .client_flag → entry = ⟨.client_flag, true⟩) :
    Settled build (apply test entries) := by
  simp only [entangled, List.mem_cons, List.not_mem_nil, or_false, forall_eq_or_imp,
    forall_eq] at others
  have role := apply_other others.1 test
  have mode := apply_other others.2.1 test
  have retransmits := apply_other others.2.2.1 test
  have protocol := apply_other others.2.2.2.1 test
  have reverse := apply_other others.2.2.2.2.1 test
  have bidirectional := apply_other others.2.2.2.2.2 test
  constructor
  · rw [reverse, bidirectional]
    exact settled.exclusive
  · rw [bidirectional]
    exact fun both_ways => apply_keeps (settled.flagged both_ways) raised
  · rw [mode, role, reverse, bidirectional]
    exact settled.mode_eq
  · rw [role, bidirectional, retransmits, mode, protocol]
    exact settled.retransmits_eq

theorem defaults_settled : Settled build (iperf_defaults build) := by
  apply protocol_settled
  constructor
  · exact .inl rfl
  · exact fun both_ways => absurd rfl both_ways
  · rfl
  · exact fun _ => rfl

theorem assigned_settled {test : Values} (settled : Settled build test) {assignment : Assignment}
    {entries : List Write} (assigned : assigns build assignment = .ok entries) :
    Settled build (apply test entries) := by
  apply settled_apply build settled
  · intro field inside
    apply assigned_apart build assigned
    · revert field
      decide
    · revert field
      decide
  · intro entry member raises
    have inside : entry.1 ∈ central := by simp [raises, central]
    rcases assigned_central build assigned member inside with rfl | rfl
    · cases raises
    · rfl

theorem settled_set {test : Values} (settled : Settled build test) {field : Field}
    (value : field.Ty) (apart : field ∉ entangled) (not_flag : field ≠ .client_flag) :
    Settled build (test.set field value) := by
  change Settled build (apply test [⟨field, value⟩])
  apply settled_apply build settled
  · rintro other inside entry member rfl
    cases List.mem_singleton.mp member
    exact apart inside
  · rintro entry member raises
    cases List.mem_singleton.mp member
    exact absurd raises not_flag

theorem settled_raise {test : Values} (settled : Settled build test) :
    Settled build (test.set .client_flag true) := by
  change Settled build (apply test [⟨.client_flag, true⟩])
  apply settled_apply build settled
  · rintro other inside entry member rfl
    cases List.mem_singleton.mp member
    simp [entangled] at inside
  · rintro entry member -
    exact List.mem_singleton.mp member

theorem settled_keepalive {test : Values} (settled : Settled build test)
    (keepidle interval count : Option Int32) :
    Settled build (apply test (keepalive keepidle interval count)) := by
  have keys := keepalive_keys keepidle interval count
  apply settled_apply build settled
  · rintro field inside entry member rfl
    have key := keys entry member
    simp only [documented, List.mem_cons, List.not_mem_nil, or_false] at key
    rcases key with same | same | same | same <;> simp [same, entangled] at inside
  · intro entry member raises
    have key := keys entry member
    simp [raises, documented] at key

theorem settled_device {test : Values} (settled : Settled build test) {host : String}
    {dev : Option String} {entries : List Write}
    (accepted : on_device build dev [⟨.server_hostname, some host⟩] = .ok entries) :
    Settled build (apply test entries) := by
  apply settled_apply build settled
  · rintro field inside entry member rfl
    rcases device_entries build accepted entry member with first | last
    · cases List.mem_singleton.mp first
      simp [entangled] at inside
    · simp [last, entangled] at inside
  · intro entry member raises
    rcases device_entries build accepted entry member with first | last
    · cases List.mem_singleton.mp first
      cases raises
    · rw [last] at raises
      cases raises

/-- Every option keeps the mode and the retransmit flag in step. -/
theorem parse_option_settled {test next : Values} {opt : Opt} (settled : Settled build test)
    (accepted : parse_option build test opt = .ok next) : Settled build next := by
  cases opt with
  | assign assignment =>
      rcases assign_ok.mp accepted with ⟨entries, assigned, rfl⟩
      exact assigned_settled build settled assigned
  | s =>
      simp only [parse_option] at accepted
      split at accepted
      · cases accepted
      · cases accepted
        exact role_settled build settled (by decide)
  | c host dev =>
      rcases c_ok.mp accepted with ⟨-, entries, device, rfl⟩
      exact settled_device build (role_settled build settled (by decide)) device
  | u =>
      cases accepted
      exact settled_raise build (protocol_settled build settled .Pudp)
  | quic =>
      simp only [parse_option] at accepted
      split at accepted
      · cases accepted
        exact protocol_settled build settled .Pquic
      · cases accepted
  | sctp =>
      simp only [parse_option] at accepted
      split at accepted
      · cases accepted
        exact settled_raise build (protocol_settled build settled .Psctp)
      · cases accepted
  | m =>
      simp only [parse_option] at accepted
      split at accepted
      · cases accepted
        exact settled_set build (protocol_settled build settled .Ptcp) _ (by decide) (by decide)
      · cases accepted
  | R =>
      simp only [parse_option] at accepted
      split at accepted
      · cases accepted
      next one_way =>
        cases accepted
        exact settled_raise build (reverse_settled build settled (not_not.mp one_way))
  | bidir =>
      simp only [parse_option] at accepted
      split at accepted
      · cases accepted
      next forward =>
        cases accepted
        exact bidirectional_settled build settled (not_not.mp forward)
  | X name =>
      cases accepted
      exact settled_set build settled _ (by decide) (by decide)
  | cntl_ka keepidle interval count =>
      rcases cntl_ka_ok.mp accepted with ⟨-, -, rfl⟩
      exact settled_keepalive build settled keepidle interval count

end Computed

end Iperf.ComputedMode
