import Iperf.OptionSettings

/-!
A line read without the mode and the retransmit flag, which follow from other fields.
There an accepted option is a list of assignments, and two options can trade places
unless they name one setting; `-R` and `--bidir` refuse each other in both orders.
-/

namespace Iperf.OptionEffects

open TestState KeyedWrites CommandLine OptionSettings
open Config (Role protocols)

section Erased
variable (build : Build)

/-- A test without the two fields that are computed. -/
def erase (test : Values) : Values :=
  apply test [⟨.mode, .RECEIVER⟩, ⟨.sender_has_retransmits, 0⟩]

theorem erase_other (test : Values) {field : Field} (not_mode : field ≠ .mode)
    (not_retransmits : field ≠ .sender_has_retransmits) : erase test field = test field := by
  apply apply_other
  simp [not_mode.symm, not_retransmits.symm]

theorem erase_apply (test : Values) {entries : List Write}
    (others : ∀ entry ∈ entries, entry.1 ≠ .mode ∧ entry.1 ≠ .sender_has_retransmits) :
    erase (apply test entries) = apply (erase test) entries := by
  apply apply_comm
  intro left hleft right hright same
  -- the erasing writes go to the two fields that the others leave alone
  have computed := others left hleft
  simp only [List.mem_cons, List.not_mem_nil, or_false] at hright
  rcases hright with rfl | rfl
  · exact absurd same computed.1
  · exact absurd same computed.2

theorem erase_set (test : Values) {field : Field} (value : field.Ty) (not_mode : field ≠ .mode)
    (not_retransmits : field ≠ .sender_has_retransmits) :
    erase (test.set field value) = (erase test).set field value :=
  @erase_apply test [⟨field, value⟩] (by simp [not_mode, not_retransmits])

theorem erase_congr {left right : Values}
    (same : ∀ field, field ≠ .mode → field ≠ .sender_has_retransmits → left field = right field) :
    erase left = erase right := by
  funext field
  by_cases is_retransmits : field = .sender_has_retransmits
  · subst is_retransmits
    simp [erase]
  · by_cases is_mode : field = .mode
    · subst is_mode
      rfl
    · rw [erase_other left is_mode is_retransmits, erase_other right is_mode is_retransmits]
      exact same field is_mode is_retransmits

@[simp] theorem erase_mode (test : Values) (mode : Mode) :
    erase (test.set .mode mode) = erase test :=
  erase_congr fun _ not_mode _ => write_other test not_mode.symm

@[simp] theorem erase_check (test : Values) :
    erase (check_sender_has_retransmits build test) = erase test :=
  erase_congr fun _ _ not_retransmits => write_other test not_retransmits.symm

theorem erase_role (test : Values) (role : Role) :
    erase (iperf_set_test_role build test role) = (erase test).set .role role := by
  have core := erase_set test role (by decide : Field.role ≠ .mode) (by decide)
  simp only [iperf_set_test_role, erase_check]
  split_ifs <;> simp [core]

theorem erase_reverse (test : Values) (reverse : Int32) :
    erase (iperf_set_test_reverse build test reverse) = (erase test).set .reverse reverse := by
  have core := erase_set test reverse (by decide : Field.reverse ≠ .mode) (by decide)
  simp only [iperf_set_test_reverse, erase_check]
  split_ifs <;> simp [core]

theorem erase_bidirectional (test : Values) :
    erase (iperf_set_test_bidirectional build test 1) = (erase test).set .bidirectional 1 := by
  have core := erase_set test (1 : Int32) (by decide : Field.bidirectional ≠ .mode) (by decide)
  simp [iperf_set_test_bidirectional, core]

theorem erase_protocol (test : Values) (prot_id : Protocol) :
    erase (set_protocol build test prot_id) =
      if prot_id ∈ protocols build.toFeatures then (erase test).set .protocol prot_id
      else erase test := by
  have core := erase_set test prot_id (by decide : Field.protocol ≠ .mode) (by decide)
  simp only [set_protocol]
  split_ifs <;> simp [core]

/-- What an accepted option writes, the computed fields left out. -/
def effect (test : Values) (opt : Opt) : Option (List Write) :=
  match opt with
  | .assign assignment => (assigns build assignment).toOption
  | .s => if test .role = .c then none else some [⟨.role, .s⟩]
  | .c host dev =>
      if test .role = .s then none
      else (on_device build dev [⟨.server_hostname, some host⟩]).toOption.map (⟨.role, .c⟩ :: ·)
  | .u => some [⟨.protocol, .Pudp⟩, ⟨.client_flag, true⟩]
  | .quic => if build.HAVE_MSQUIC then some [⟨.protocol, .Pquic⟩] else none
  | .sctp =>
      if build.HAVE_SCTP_H then some [⟨.protocol, .Psctp⟩, ⟨.client_flag, true⟩] else none
  | .m => if build.HAVE_IPPROTO_MPTCP then some [⟨.protocol, .Ptcp⟩, ⟨.mptcp, 1⟩] else none
  | .R =>
      if test .bidirectional ≠ 0 then none else some [⟨.reverse, 1⟩, ⟨.client_flag, true⟩]
  | .bidir =>
      if test .reverse ≠ 0 then none else some [⟨.bidirectional, 1⟩, ⟨.client_flag, true⟩]
  | .X name => some [⟨.xbind_addrs, test .xbind_addrs ++ [name]⟩]
  | .cntl_ka keepidle interval count =>
      if ¬ build.HAVE_TCP_KEEPALIVE then none
      else if bad_keepalive (apply test (keepalive keepidle interval count)) then none
      else some (keepalive keepidle interval count)

def core (test : Values) (opt : Opt) : Option Values :=
  (effect build test opt).map (apply test)

theorem protocol_listed : .Ptcp ∈ protocols build.toFeatures ∧ .Pudp ∈ protocols build.toFeatures ∧
    .Pquic ∈ protocols build.toFeatures := by
  simp [protocols]

theorem sctp_listed (supported : build.HAVE_SCTP_H = true) :
    .Psctp ∈ protocols build.toFeatures := by
  simp [protocols, supported]

theorem bad_keepalive_congr {left right : Values}
    (keepidle : left .cntl_ka_keepidle = right .cntl_ka_keepidle)
    (interval : left .cntl_ka_interval = right .cntl_ka_interval)
    (count : left .cntl_ka_count = right .cntl_ka_count) :
    bad_keepalive left ↔ bad_keepalive right := by
  simp only [bad_keepalive, keepidle, interval, count]

/-- Reading an option commutes with leaving the computed fields out. -/
theorem parse_option_erased (test : Values) (opt : Opt) :
    (parse_option build test opt).toOption.map erase = core build (erase test) opt := by
  have role := erase_other test (by decide : Field.role ≠ .mode) (by decide)
  have flagged (test : Values) :=
    erase_set test true (by decide : Field.client_flag ≠ .mode) (by decide)
  have listed := protocol_listed build
  cases opt with
  | assign assignment =>
      simp only [parse_option, core, effect]
      cases assigned : assigns build assignment with
      | error refusal => rfl
      | ok entries =>
          have not_mode :=
            assigned_apart build assigned (by decide : Field.mode ∈ central) (by decide)
          have not_retransmits :=
            assigned_apart build assigned (by decide : Field.sender_has_retransmits ∈ central)
              (by decide)
          exact congrArg some (erase_apply test fun entry member =>
            ⟨not_mode entry member, not_retransmits entry member⟩)
  | s =>
      simp only [parse_option, core, effect, role]
      split
      · rfl
      · exact congrArg some (erase_role build test .s)
  | c host dev =>
      simp only [parse_option, core, effect, role]
      split
      · rfl
      · cases accepted : on_device build dev [⟨.server_hostname, some host⟩] with
        | error refusal => rfl
        | ok entries =>
            have others : ∀ entry ∈ entries,
                entry.1 ≠ .mode ∧ entry.1 ≠ .sender_has_retransmits := by
              intro entry member
              rcases device_entries build accepted entry member with first | last
              · simp [List.mem_singleton.mp first]
              · simp [last]
            have applied := erase_apply (iperf_set_test_role build test .c) others
            rw [erase_role] at applied
            exact congrArg some applied
  | u =>
      have protocol := erase_protocol build test .Pudp
      rw [if_pos listed.2.1] at protocol
      have erased := flagged (set_protocol build test .Pudp)
      rw [protocol] at erased
      exact congrArg some erased
  | quic =>
      have protocol := erase_protocol build test .Pquic
      rw [if_pos listed.2.2] at protocol
      simp only [parse_option, core, effect]
      split
      · exact congrArg some protocol
      · rfl
  | sctp =>
      simp only [parse_option, core, effect]
      split
      next supported =>
        have protocol := erase_protocol build test .Psctp
        rw [if_pos (sctp_listed build supported)] at protocol
        have erased := flagged (set_protocol build test .Psctp)
        rw [protocol] at erased
        exact congrArg some erased
      next => rfl
  | m =>
      have protocol := erase_protocol build test .Ptcp
      rw [if_pos listed.1] at protocol
      have erased := erase_set (set_protocol build test .Ptcp) (1 : Int32)
        (by decide : Field.mptcp ≠ .mode) (by decide)
      rw [protocol] at erased
      simp only [parse_option, core, effect]
      split
      · exact congrArg some erased
      · rfl
  | R =>
      have bidirectional := erase_other test (by decide : Field.bidirectional ≠ .mode) (by decide)
      have erased := flagged (iperf_set_test_reverse build test 1)
      rw [erase_reverse] at erased
      simp only [parse_option, core, effect, bidirectional]
      split
      · rfl
      · exact congrArg some erased
  | bidir =>
      have reverse := erase_other test (by decide : Field.reverse ≠ .mode) (by decide)
      have erased := flagged (iperf_set_test_bidirectional build test 1)
      rw [erase_bidirectional] at erased
      simp only [parse_option, core, effect, reverse]
      split
      · rfl
      · exact congrArg some erased
  | X name =>
      have names := erase_other test (by decide : Field.xbind_addrs ≠ .mode) (by decide)
      simp only [parse_option, core, effect, names]
      exact congrArg some (erase_set test _ (by decide) (by decide))
  | cntl_ka keepidle interval count =>
      have applied : erase (apply test (keepalive keepidle interval count)) =
          apply (erase test) (keepalive keepidle interval count) := by
        apply erase_apply
        intro entry member
        have key := keepalive_keys keepidle interval count entry member
        constructor <;> rintro same <;> simp [same, documented] at key
      have same : bad_keepalive (apply (erase test) (keepalive keepidle interval count)) ↔
          bad_keepalive (apply test (keepalive keepidle interval count)) := by
        rw [← applied]
        apply bad_keepalive_congr <;> exact erase_other _ (by decide) (by decide)
      simp only [parse_option, core, effect, same]
      split
      · rfl
      · split
        · rfl
        · exact congrArg some applied

end Erased

section Commuting
variable (build : Build)

/-- The fields that decide whether an option is refused, or what it writes. -/
def reads : Opt → List Field
  | .s | .c _ _ => [.role]
  | .R => [.bidirectional]
  | .bidir => [.reverse]
  | .X _ => [.xbind_addrs]
  | .cntl_ka _ _ _ => [.cntl_ka_keepidle, .cntl_ka_interval, .cntl_ka_count]
  | _ => []

theorem effect_congr {left right : Values} {opt : Opt}
    (same : ∀ field ∈ reads opt, left field = right field) :
    effect build left opt = effect build right opt := by
  cases opt with
  | cntl_ka keepidle interval count =>
      simp only [reads, List.mem_cons, List.not_mem_nil, or_false, forall_eq_or_imp,
        forall_eq] at same
      have bad : bad_keepalive (apply left (keepalive keepidle interval count)) ↔
          bad_keepalive (apply right (keepalive keepidle interval count)) :=
        bad_keepalive_congr (apply_congr same.1 _) (apply_congr same.2.1 _)
          (apply_congr same.2.2 _)
      simp only [effect, bad]
  | s => simp only [effect, same .role (List.mem_singleton_self _)]
  | c host dev => simp only [effect, same .role (List.mem_singleton_self _)]
  | R => simp only [effect, same .bidirectional (List.mem_singleton_self _)]
  | bidir => simp only [effect, same .reverse (List.mem_singleton_self _)]
  | X name => simp only [effect, same .xbind_addrs (List.mem_singleton_self _)]
  | _ => rfl

theorem effect_within {test : Values} {opt : Opt} {entries : List Write}
    (written : effect build test opt = some entries) :
    ∀ entry ∈ entries, Within (touched opt) entry := by
  cases opt with
  | assign assignment =>
      exact assigns_within build assignment entries (toOption_some.mp written)
  | c host dev =>
      simp only [effect, Option.ite_none_left_eq_some, Option.map_eq_some_iff] at written
      obtain ⟨-, others, accepted, rfl⟩ := written
      have device : Writes (documented (.c host dev))
          (on_device build dev [⟨.server_hostname, some host⟩]) := by
        cases dev <;> apply device_within <;> simp [Within, stands_for, documented]
      have named : Field.role ∈ documented (.c host dev) := by
        cases dev <;> simp [documented]
      intro entry member
      rcases List.mem_cons.mp member with rfl | later
      · exact .inr (.inr ⟨.role, named, rfl⟩)
      · exact device others (toOption_some.mp accepted) entry later
  | cntl_ka keepidle interval count =>
      simp only [effect, Option.ite_none_left_eq_some, Option.some.injEq] at written
      obtain ⟨-, -, rfl⟩ := written
      intro entry member
      have key := keepalive_keys keepidle interval count entry member
      refine .inr (.inr ⟨entry.1, key, ?_⟩)
      simp only [documented, List.mem_cons, List.not_mem_nil, or_false] at key
      rcases key with same | same | same | same <;> simp [same, stands_for]
  | u | X name =>
      cases written
      simp [Within, stands_for, touched, documented]
  | s | R | bidir =>
      simp only [effect, Option.ite_none_left_eq_some, Option.some.injEq] at written
      rcases written with ⟨-, rfl⟩
      simp [Within, stands_for, touched, documented]
  | quic | sctp | m =>
      simp only [effect, Option.ite_none_right_eq_some, Option.some.injEq] at written
      rcases written with ⟨-, rfl⟩
      simp [Within, stands_for, touched, documented]

/-- `-R` and `--bidir` name different settings, and each refuses the other. -/
def Opposed (first second : Opt) : Prop :=
  (first = .R ∧ second = .bidir) ∨ (first = .bidir ∧ second = .R)

def Undisturbed (first second : Opt) : Prop :=
  ∀ field ∈ reads second, field ∉ documented first

/-- Options that name no common setting do not decide about each other, but for one pair. -/
theorem undisturbed_or_opposed {first second : Opt} (separate : Separate first second) :
    Undisturbed first second ∨ Opposed first second := by
  by_cases undisturbed : Undisturbed first second
  · exact .inl undisturbed
  · simp only [Undisturbed, not_forall, not_not] at undisturbed
    obtain ⟨field, reading, named⟩ := undisturbed
    have apart := separate field named
    -- only these two read a field that they do not name
    cases second with
    | R =>
        cases List.mem_singleton.mp reading
        exact .inr (.inr ⟨documented_bidirectional named, rfl⟩)
    | bidir =>
        cases List.mem_singleton.mp reading
        exact .inr (.inl ⟨documented_reverse named, rfl⟩)
    | c host dev => cases dev <;> simp_all [reads, documented]
    | cntl_ka keepidle interval count =>
        exact absurd (List.mem_cons_of_mem _ reading) apart
    | _ => simp_all [reads, documented]

theorem reads_plain {opt : Opt} {field : Field} (reading : field ∈ reads opt) :
    stands_for field = [field] ∧ field ≠ .server_flag ∧ field ≠ .client_flag := by
  cases opt with
  | cntl_ka keepidle interval count =>
      simp only [reads, List.mem_cons, List.not_mem_nil, or_false] at reading
      rcases reading with rfl | rfl | rfl <;> simp [stands_for]
  | s | c host dev | R | bidir | X name =>
      cases List.mem_singleton.mp reading
      simp [stands_for]
  | _ => cases reading

/-- The options whose case writes only what is named. -/
def Faithful (opt : Opt) : Prop := touched opt = documented opt

/-- What an option does is the same before and after one that does not disturb it. -/
theorem effect_after {first second : Opt} (faithful : Faithful first)
    (undisturbed : Undisturbed first second) {test : Values} {entries : List Write}
    (written : effect build test first = some entries) :
    effect build (apply test entries) second = effect build test second := by
  apply effect_congr
  intro field reading
  have plain := reads_plain reading
  apply apply_other
  rintro entry member rfl
  rcases effect_within build written entry member with rfl | rfl | ⟨setting, touches, stands⟩
  · exact plain.2.1 rfl
  · exact plain.2.2 rfl
  · rw [plain.1, List.singleton_inj] at stands
    rw [faithful, ← stands] at touches
    exact undisturbed entry.1 reading touches

theorem within_agree {first second : Opt} (separate : Separate first second) {left right : Write}
    (hleft : Within (documented first) left) (hright : Within (documented second) right)
    (same : left.1 = right.1) : left = right := by
  rcases hleft with rfl | rfl | ⟨setting, named, stands⟩
  -- a flag is raised by both, and any other common key stands for a common setting
  · rcases hright with rfl | rfl | ⟨other, again, stands⟩
    · rfl
    · cases same
    · rw [← same] at stands
      exact absurd (List.singleton_inj.mp stands).symm (flags_unnamed second again).1
  · rcases hright with rfl | rfl | ⟨other, again, stands⟩
    · cases same
    · rfl
    · rw [← same] at stands
      exact absurd (List.singleton_inj.mp stands).symm (flags_unnamed second again).2
  · rcases hright with rfl | rfl | ⟨other, again, also_stands⟩
    · rw [same] at stands
      exact absurd (List.singleton_inj.mp stands).symm (flags_unnamed first named).1
    · rw [same] at stands
      exact absurd (List.singleton_inj.mp stands).symm (flags_unnamed first named).2
    · rw [same, also_stands, List.singleton_inj] at stands
      exact absurd (stands ▸ again) (separate setting named)

theorem undisturbed_commute {first second : Opt} (hfirst : Faithful first)
    (hsecond : Faithful second) (separate : Separate first second)
    (forth : Undisturbed first second) (back : Undisturbed second first) :
    Commute (core build) first second := by
  intro test
  simp only [core]
  cases left : effect build test first with
  | none =>
      cases right : effect build test second with
      | none => rfl
      | some entries =>
          simp [effect_after build hsecond back right, left]
  | some entries =>
      have second_after := effect_after build hfirst forth left
      cases right : effect build test second with
      | none => simp [second_after, right]
      | some others =>
          have first_after := effect_after build hsecond back right
          simp only [Option.map_some, Option.bind_some, second_after, first_after, left, right]
          refine congrArg some (apply_comm ?_ test)
          intro one hone two htwo same
          have one_within := effect_within build left one hone
          have two_within := effect_within build right two htwo
          rw [hfirst] at one_within
          rw [hsecond] at two_within
          exact within_agree separate one_within two_within same

theorem reverse_refuses (test : Values) :
    (core build test .R).bind (core build · .bidir) = none := by
  by_cases bidirectional : test .bidirectional = 0 <;>
    simp [core, effect, bidirectional, write_other]

theorem bidirectional_refuses (test : Values) :
    (core build test .bidir).bind (core build · .R) = none := by
  by_cases reverse : test .reverse = 0 <;> simp [core, effect, reverse, write_other]

theorem opposed_commute {first second : Opt} (opposed : Opposed first second) :
    Commute (core build) first second := by
  intro test
  rcases opposed with ⟨rfl, rfl⟩ | ⟨rfl, rfl⟩
  · rw [reverse_refuses, bidirectional_refuses]
  · rw [bidirectional_refuses, reverse_refuses]

theorem separate_commute {first second : Opt} (hfirst : Faithful first) (hsecond : Faithful second)
    (separate : Separate first second) : Commute (core build) first second := by
  have backward : Separate second first := fun setting named again => separate setting again named
  rcases undisturbed_or_opposed separate with forth | opposed
  · rcases undisturbed_or_opposed backward with back | opposed
    · exact undisturbed_commute build hfirst hsecond separate forth back
    · exact commute_symm (core build) (opposed_commute build opposed)
  · exact opposed_commute build opposed

end Commuting

end Iperf.OptionEffects
