import Mathlib.Data.List.Basic
import Mathlib.Data.List.Induction
import Iperf.AcceptedConfig
import Iperf.ServerRound

/-!
What a server carries from one test into the next. `Traces` collects it from
what the clients sent and did; everything else that a round sets is restored,
so two servers with the same command line are equal after their last reset
exactly when they carry the same traces.
-/

namespace Iperf.ServerReset

open TestState Json Config Parameters Arguments ServerRound AcceptedConfig

section Rounds

/-- The parameters that reach `get_parameters`. -/
def Contact.message (contact : Contact) : Option cJSON :=
  if contact.options_set ∧ contact.cookie_complete ∧ contact.greeted then contact.parameters
  else none

/-- The server answers these parameters with an error. -/
def refuses (test : iperf_test) (j : cJSON) : Bool :=
  (has_bool j "udp" && test.diskfile_name != none) ||
    (0 < test.max_server_duration &&
      (test.max_server_duration < read_int j "time" DURATION + read_int j "omit" OMIT ||
        read_int j "time" DURATION == 0))

/-- The server gets as far as `protocol->listen`. -/
def Contact.welcome (features : Features) (test : iperf_test) (contact : Contact) : Bool :=
  (Contact.message contact).any (fun j => !refuses test j) &&
    (!features.HAVE_SSL || contact.authorized)

/-- The control connection is set up completely. -/
def Contact.completes (features : Features) (test : iperf_test) (contact : Contact) : Bool :=
  Contact.welcome features test contact && contact.prot_listener.isSome &&
    contact.streams_announced &&
    ((Contact.message contact).all (fun j => read_int j "server_affinity" (-1) == -1) ||
      contact.affinity_set)

/-- The descriptors that enter `max_fd` in the course of a round. -/
def Contact.descriptors (features : Features) (test : iperf_test) (contact : Contact) :
    List Int32 :=
  (if contact.options_set ∧ contact.cookie_complete then [contact.socket] else []) ++
    (if Contact.welcome features test contact then contact.prot_listener.toList else []) ++
    (if Contact.completes features test contact then contact.stream_sockets else [])

def Round.message (round : Round) : Option cJSON := round.contact.bind Contact.message

def Round.descriptors (features : Features) (test : iperf_test) (round : Round) : List Int32 :=
  round.listener :: (round.contact.elim [] (Contact.descriptors features test))

def Round.maps (features : Features) (test : iperf_test) (round : Round) : Bool :=
  round.contact.any fun contact => Contact.completes features test contact && contact.mapped

/-- The client whose test begins. -/
def Round.tested (features : Features) (test : iperf_test) (round : Round) : Option Contact :=
  round.contact.filter fun contact => Contact.completes features test contact

/-- What the omit timer, if it is reached, leaves in `omitting`. -/
def Contact.omitting (contact : Contact) : Option Int32 :=
  if contact.begun then
    some (if (Contact.message contact).elim OMIT (read_int · "omit" OMIT) = 0 ∨ contact.omit_over
      then 0 else 1)
  else none

def Round.stalls (features : Features) (test : iperf_test) (round : Round) : Bool :=
  (Round.tested features test round).any (·.stalled)

/-- What `iperf_run_server` returns. -/
def Round.rc (features : Features) (test : iperf_test) (round : Round) : Int32 :=
  if round.contact.isNone then 2
  else if (Round.tested features test round).any fun contact =>
    !(contact.stalled || contact.failed) then 0
  else -1

def Round.rendered (test : iperf_test) (round : Round) : Option String :=
  if test.json_output = 0 then none else round.contact.bind (·.rendered)

end Rounds

section Traces
variable (features : Features)

/-- The fields that no reset restores. -/
@[ext]
structure Traces where
  quic_port : Int32
  pacing_timer : Int32
  flowlabel : Int32
  get_server_output : Int32
  repeating_payload : Int32
  mptcp : Int32
  bytes : UInt64
  blocks : UInt64
  mapped_v4 : Int32
  max_fd : Int32
  json_output_string : Option String
  omitting : Int32
  cpu_util : Utilization
  remote_cpu_util : Utilization
  server_last_run_rc : Int32
  server_forced_no_msg_restarts_count : UInt32
  server_test_number : UInt32
  deriving DecidableEq, Repr

def higher (top fd : Int32) : Int32 := if top < fd then fd else top

/-- The last number under a key, or what the field was before. -/
def last_int (name : String) (messages : List cJSON) (before : Int32) : Int32 :=
  (messages.filterMap (number_item · name)).getLast?.elim before Int32.ofInt

/-- The number under a key of the last message, zero when it has none. -/
def of_last (name : String) (messages : List cJSON) (before : UInt64) : UInt64 :=
  messages.getLast?.elim before fun j => read_size j name 0

/-- One if any message had the key. -/
def if_any (asked : cJSON → Bool) (messages : List cJSON) (before : Int32) : Int32 :=
  if messages.any asked then 1 else before

/-- The last value that a round gave a field. -/
def last_of {α : Type} (value : Round → Option α) (rounds : List Round) (before : α) : α :=
  (rounds.filterMap value).getLast?.getD before

/-- How many of these runs print the banner: all but those right after an idle
restart. -/
def banners (before : Int32) : List Int32 → UInt32
  | [] => 0
  | rc :: rcs => (if before = 2 then 0 else 1) + banners rc rcs

/-- What the rounds leave behind on a server with this command line. -/
def traces (initial : iperf_test) (rounds : List Round) : Traces :=
  let messages := rounds.filterMap Round.message
  let of_test {α : Type} (value : Contact → Option α) (round : Round) :=
    (Round.tested features initial round).bind value
  let rcs := rounds.map (Round.rc features initial)
  { quic_port := last_int "quic_port" messages initial.quic_port
    pacing_timer := last_int "pacing_timer" messages initial.settings.pacing_timer
    flowlabel := last_int "flowlabel" messages initial.settings.flowlabel
    get_server_output :=
      if_any (has_number · "get_server_output") messages initial.get_server_output
    repeating_payload :=
      if_any (has_number · "repeating_payload") messages initial.repeating_payload
    mptcp :=
      if_any (fun j => features.HAVE_IPPROTO_MPTCP && has_bool j "mptcp") messages initial.mptcp
    bytes := of_last "num" messages initial.settings.bytes
    blocks := of_last "blockcount" messages initial.settings.blocks
    mapped_v4 := if rounds.any (Round.maps features initial) then 1 else initial.mapped_v4
    max_fd := (rounds.flatMap (Round.descriptors features initial)).foldl higher initial.max_fd
    json_output_string :=
      last_of (fun round => (Round.rendered initial round).map some) rounds
        initial.json_output_string
    omitting := last_of (of_test Contact.omitting) rounds initial.omitting
    cpu_util := last_of (of_test (·.measured)) rounds initial.cpu_util
    remote_cpu_util := last_of (of_test (·.results)) rounds initial.remote_cpu_util
    server_last_run_rc := rcs.getLast?.getD initial.server_last_run_rc
    server_forced_no_msg_restarts_count :=
      initial.server_forced_no_msg_restarts_count +
        .ofNat (rounds.countP (Round.stalls features initial))
    server_test_number :=
      if initial.json_output = 0 then
        initial.server_test_number + banners initial.server_last_run_rc rcs
      else initial.server_test_number }

def carried (test : iperf_test) : Traces :=
  { quic_port := test.quic_port
    pacing_timer := test.settings.pacing_timer
    flowlabel := test.settings.flowlabel
    get_server_output := test.get_server_output
    repeating_payload := test.repeating_payload
    mptcp := test.mptcp
    bytes := test.settings.bytes
    blocks := test.settings.blocks
    mapped_v4 := test.mapped_v4
    max_fd := test.max_fd
    json_output_string := test.json_output_string
    omitting := test.omitting
    cpu_util := test.cpu_util
    remote_cpu_util := test.remote_cpu_util
    server_last_run_rc := test.server_last_run_rc
    server_forced_no_msg_restarts_count := test.server_forced_no_msg_restarts_count
    server_test_number := test.server_test_number }

/-- The banner. -/
def Traces.announce (initial : iperf_test) (left : Traces) : Traces :=
  { left with
    server_test_number :=
      if initial.json_output = 0 ∧ left.server_last_run_rc ≠ 2 then left.server_test_number + 1
      else left.server_test_number }

def Traces.raise (left : Traces) (fds : List Int32) : Traces :=
  { left with max_fd := fds.foldl higher left.max_fd }

def Traces.map (left : Traces) (mapped : Bool) : Traces :=
  { left with mapped_v4 := if mapped then 1 else left.mapped_v4 }

def Traces.hear (left : Traces) : Option cJSON → Traces
  | none => left
  | some j =>
      { left with
        quic_port := read_int j "quic_port" left.quic_port
        pacing_timer := read_int j "pacing_timer" left.pacing_timer
        flowlabel := read_int j "flowlabel" left.flowlabel
        get_server_output := if has_number j "get_server_output" then 1 else left.get_server_output
        repeating_payload := if has_number j "repeating_payload" then 1 else left.repeating_payload
        mptcp := if features.HAVE_IPPROTO_MPTCP ∧ has_bool j "mptcp" then 1 else left.mptcp
        bytes := read_size j "num" 0
        blocks := read_size j "blockcount" 0 }

/-- The test itself, if it comes to one. -/
def Traces.test (left : Traces) (tested : Option Contact) : Traces :=
  { left with
    omitting := (tested.bind Contact.omitting).getD left.omitting
    cpu_util := (tested.bind (·.measured)).getD left.cpu_util
    remote_cpu_util := (tested.bind (·.results)).getD left.remote_cpu_util
    server_forced_no_msg_restarts_count :=
      if tested.any (·.stalled) then left.server_forced_no_msg_restarts_count + 1
      else left.server_forced_no_msg_restarts_count }

/-- What `run` stores. -/
def Traces.finish (left : Traces) (rc : Int32) (rendered : Option String) : Traces :=
  { left with
    server_last_run_rc := rc
    json_output_string := rendered.or left.json_output_string }

/-- One more round. -/
def Traces.next (initial : iperf_test) (left : Traces) (round : Round) : Traces :=
  (((((left.announce initial).hear features (Round.message round)).raise
    (Round.descriptors features initial round)).map (Round.maps features initial round)).test
      (Round.tested features initial round)).finish
    (Round.rc features initial round) (Round.rendered initial round)

theorem Traces.raise_raise (left : Traces) (fds later : List Int32) :
    (left.raise fds).raise later = left.raise (fds ++ later) := by
  simp [Traces.raise, List.foldl_append]

theorem Traces.hear_raise (left : Traces) (fds : List Int32) (message : Option cJSON) :
    (left.raise fds).hear features message = (left.hear features message).raise fds := by
  cases message with
  | none => rfl
  | some j => rfl

theorem Traces.raise_map (left : Traces) (fds : List Int32) (mapped : Bool) :
    (left.map mapped).raise fds = (left.raise fds).map mapped := rfl

theorem last_int_append (name : String) (messages : List cJSON) (j : cJSON) (before : Int32) :
    last_int name (messages ++ [j]) before = read_int j name (last_int name messages before) := by
  simp only [last_int, read_int, List.filterMap_append]
  cases item : number_item j name with
  | none => simp [item]
  | some value => simp [item]

theorem if_any_append (asked : cJSON → Bool) (messages : List cJSON) (j : cJSON) (before : Int32) :
    if_any asked (messages ++ [j]) before =
      if asked j then 1 else if_any asked messages before := by
  by_cases now : asked j
  · simp [if_any, now]
  · simp [if_any, now]

theorem of_last_append (name : String) (messages : List cJSON) (j : cJSON) (before : UInt64) :
    of_last name (messages ++ [j]) before = read_size j name 0 := by
  simp [of_last]

theorem last_of_append {α : Type} (value : Round → Option α) (rounds : List Round)
    (round : Round) (before : α) :
    last_of value (rounds ++ [round]) before =
      (value round).getD (last_of value rounds before) := by
  cases now : value round with
  | none => simp [last_of, now]
  | some last => simp [last_of, now]

theorem banners_append (before rc : Int32) (rcs : List Int32) :
    banners before (rcs ++ [rc]) =
      banners before rcs + if rcs.getLast?.getD before = 2 then 0 else 1 := by
  induction rcs generalizing before with
  | nil => exact (UInt32.add_zero _).trans (UInt32.zero_add _).symm
  | cons next rcs rest =>
      have last : (next :: rcs).getLast?.getD before = rcs.getLast?.getD next := by
        simp [List.getLast?_cons]
      rw [List.cons_append, banners, rest, banners, last, UInt32.add_assoc]

/-- The round's banner looks at the result of the round before it. -/
theorem traces_announce (initial : iperf_test) (rounds : List Round) (round : Round) :
    (traces features initial (rounds ++ [round])).server_test_number =
      ((traces features initial rounds).announce initial).server_test_number := by
  have number : ∀ (before count : UInt32) (rc : Int32),
      before + (count + if rc = 2 then 0 else 1) =
        if rc = 2 then before + count else before + count + 1 := by
    intro before count rc
    by_cases idle : rc = 2
    · simp [idle]
    · simp [idle, UInt32.add_assoc]
  simp only [traces, Traces.announce, List.map_append, List.map_singleton, banners_append, number]
  by_cases banner : initial.json_output = 0
  · simp [banner]
  · simp [banner]

theorem traces_stall (initial : iperf_test) (rounds : List Round) (round : Round) :
    (traces features initial (rounds ++ [round])).server_forced_no_msg_restarts_count =
      if Round.stalls features initial round then
        (traces features initial rounds).server_forced_no_msg_restarts_count + 1
      else (traces features initial rounds).server_forced_no_msg_restarts_count := by
  by_cases stalls : Round.stalls features initial round
  · simp [traces, stalls, UInt32.ofNat_add, UInt32.add_assoc]
  · simp [traces, stalls]

theorem traces_append (initial : iperf_test) (rounds : List Round) (round : Round) :
    traces features initial (rounds ++ [round]) =
      (traces features initial rounds).next features initial round := by
  have mapped : (if (rounds ++ [round]).any (Round.maps features initial) then 1
      else initial.mapped_v4) = if Round.maps features initial round then (1 : Int32)
        else if rounds.any (Round.maps features initial) then 1 else initial.mapped_v4 := by
    by_cases now : Round.maps features initial round
    · simp [now]
    · simp [now]
  have number := traces_announce features initial rounds round
  have restarts := traces_stall features initial rounds round
  have text (rendered : Option String) (before : Option String) :
      (rendered.map some).getD before = rendered.or before := by
    cases rendered with
    | none => rfl
    | some text => rfl
  simp only [Traces.next]
  cases sent : Round.message round with
  | none =>
      apply Traces.ext
      case server_test_number => exact number
      case server_forced_no_msg_restarts_count => exact restarts
      case mapped_v4 => exact mapped
      all_goals simp [traces, sent, text, last_of_append, Traces.hear,
        Traces.announce, Traces.raise, Traces.map, Traces.test, Traces.finish]
  | some j =>
      apply Traces.ext
      case server_test_number => exact number
      case server_forced_no_msg_restarts_count => exact restarts
      case mapped_v4 => exact mapped
      all_goals simp [traces, sent, text, last_of_append, last_int_append, if_any_append,
        of_last_append, Traces.hear, Traces.announce, Traces.raise, Traces.map, Traces.test,
        Traces.finish]

end Traces

section Step
variable {features : Features} {test : iperf_test}

/-- Between two tests, and before the first. -/
structure Idle (test : iperf_test) : Prop where
  duration : test.duration = DURATION
  omitted : test.omit = OMIT
  server_affinity : test.server_affinity = -1

/-- What only the command line sets. -/
structure Configured where
  server_port : Int32
  max_server_duration : Int32
  diskfile_name : Option String
  affinity : Int32
  ctrl_sck_mss : Int32
  use_pkcs1_padding : Int32
  json_output : Int32
  /-- a build with SSL forgets these as well -/
  credentials : Option (Option String × Option String × Option String × Option String)

def configured (features : Features) (test : iperf_test) : Configured :=
  { server_port := test.server_port
    max_server_duration := test.max_server_duration
    diskfile_name := test.diskfile_name
    affinity := test.affinity
    ctrl_sck_mss := test.ctrl_sck_mss
    use_pkcs1_padding := test.use_pkcs1_padding
    json_output := test.json_output
    credentials :=
      if features.HAVE_SSL then none
      else some (test.settings.authtoken, test.settings.client_username,
        test.settings.client_password, test.settings.client_rsa_pubkey) }

theorem iperf_reset_test_eq (features : Features) (test : iperf_test) :
    iperf_reset_test features test = { test with
      role := .s
      mode := .RECEIVER
      sender_has_retransmits := 0
      other_side_has_retransmits := 0
      protocol := .Ptcp
      state := 0
      «omit» := OMIT
      duration := DURATION
      server_affinity := -1
      title := none
      extra_data := none
      congestion := none
      remote_congestion_used := none
      ctrl_sck := -1
      listener := -1
      prot_listener := -1
      no_delay := 0
      reverse := 0
      bidirectional := 0
      zerocopy := 0
      udp_counters_64bit := 0
      multisend := 10
      done := 0
      num_streams := 1
      cookie := List.replicate COOKIE_SIZE 0
      settings := { test.settings with
        socket_bufsize := 0
        blksize := DEFAULT_TCP_BLKSIZE
        rate := 0
        fqrate := 0
        burst := 0
        mss := 0
        tos := 0
        dont_fragment := 0
        skip_rx_copy := 0
        authtoken := if features.HAVE_SSL then none else test.settings.authtoken
        client_username := if features.HAVE_SSL then none else test.settings.client_username
        client_password := if features.HAVE_SSL then none else test.settings.client_password
        client_rsa_pubkey :=
          if features.HAVE_SSL then none else test.settings.client_rsa_pubkey } } := by
  simp [iperf_reset_test, set_protocol, protocols, check_sender_has_retransmits]

/-- A reset leaves nothing but what it does not touch. -/
theorem reset_congr {first second : iperf_test} (carries : carried first = carried second)
    (configures : configured features first = configured features second)
    (used : first.congestion_used = second.congestion_used) :
    iperf_reset_test features first = iperf_reset_test features second := by
  simp only [carried, Traces.mk.injEq] at carries
  simp only [configured, Configured.mk.injEq] at configures
  rw [iperf_reset_test_eq, iperf_reset_test_eq]
  cases ssl : features.HAVE_SSL with
  | true => simp [carries, configures, used]
  | false =>
      have credentials := configures.2.2.2.2.2.2.2
      simp only [ssl, Bool.false_eq_true, if_false, Option.some.injEq, Prod.mk.injEq] at credentials
      simp [carries, configures, used, credentials]

theorem carried_reset (test : iperf_test) :
    carried (iperf_reset_test features test) = carried test := by
  rw [iperf_reset_test_eq]
  rfl

theorem configured_reset (test : iperf_test) :
    configured features (iperf_reset_test features test) = configured features test := by
  rw [iperf_reset_test_eq]
  cases ssl : features.HAVE_SSL <;> simp [configured, ssl]

theorem idle_reset (test : iperf_test) : Idle (iperf_reset_test features test) := by
  rw [iperf_reset_test_eq]
  exact ⟨rfl, rfl, rfl⟩

variable (features)

theorem get_parameters_idle (idle : Idle test) (j : cJSON) :
    ∃ errno, get_parameters features test (some j) = (errno, read_parameters features j test) ∧
      (errno = none ↔ refuses test j = false) := by
  obtain ⟨_, _, _, _, _, after⟩ := read_parameters_sets features j test
  -- The reset durations are the defaults, so the limit depends on the message alone.
  have limit : exceeds_duration (read_parameters features j test) =
      (0 < test.max_server_duration &&
        (test.max_server_duration < read_int j "time" DURATION + read_int j "omit" OMIT ||
          read_int j "time" DURATION == 0)) := by
    rw [after, ← idle.duration, ← idle.omitted]
    rfl
  by_cases long : exceeds_duration (read_parameters features j test)
  · refine ⟨some .IEMAXSERVERTESTDURATIONEXCEEDED, by simp [get_parameters, long], ?_⟩
    simp [refuses, ← limit, long]
  · by_cases file : has_bool j "udp" ∧ test.diskfile_name ≠ none
    · refine ⟨some .IEUDPFILETRANSFER, by simp [get_parameters, long, file.1, file.2], ?_⟩
      simp [refuses, file.1, file.2]
    · refine ⟨none, by simp only [get_parameters, long, file, if_false]; rfl, ?_⟩
      simp only [refuses, ← limit, long]
      simpa using file

theorem carried_read (test : iperf_test) (j : cJSON) :
    carried (read_parameters features j test) = (carried test).hear features (some j) := by
  obtain ⟨_, _, _, _, _, after⟩ := read_parameters_sets features j test
  rw [after]
  rfl

theorem configured_read (test : iperf_test) (j : cJSON) :
    configured features (read_parameters features j test) = configured features test := by
  obtain ⟨_, _, _, _, _, after⟩ := read_parameters_sets features j test
  rw [after]
  cases ssl : features.HAVE_SSL <;> simp [configured, read_settings, read_test, ssl]

theorem raise_fds (fds : List Int32) (test : iperf_test) :
    fds.foldl raise_fd test = { test with max_fd := fds.foldl higher test.max_fd } := by
  induction fds generalizing test with
  | nil => rfl
  | cons fd fds later => rw [List.foldl_cons, List.foldl_cons, later]; rfl

theorem exchange_spec (idle : Idle test) {contact : Contact}
    (message : Contact.message contact = contact.parameters) :
    let exchanged := iperf_exchange_parameters features test contact
    exchanged.1 = (Contact.welcome features test contact && contact.prot_listener.isSome &&
      contact.streams_announced) ∧
    configured features exchanged.2 = configured features test ∧
    carried exchanged.2 = ((carried test).hear features contact.parameters).raise
      (if Contact.welcome features test contact then contact.prot_listener.toList else []) ∧
    exchanged.2.server_affinity =
      contact.parameters.elim (-1) (read_int · "server_affinity" (-1)) ∧
    exchanged.2.omit = contact.parameters.elim OMIT (read_int · "omit" OMIT) := by
  simp only [Contact.welcome, message, iperf_exchange_parameters]
  cases sent : contact.parameters with
  | none =>
      exact ⟨rfl, rfl, rfl, idle.server_affinity, idle.omitted⟩
  | some j =>
      obtain ⟨errno, got, fine⟩ := get_parameters_idle features idle j
      obtain ⟨_, _, _, _, _, after⟩ := read_parameters_sets features j test
      have affinity : (read_parameters features j test).server_affinity =
          read_int j "server_affinity" (-1) := by
        rw [after, ← idle.server_affinity]
        rfl
      have omitted : (read_parameters features j test).omit = read_int j "omit" OMIT := by
        rw [after, ← idle.omitted]
        rfl
      have carries := carried_read features test j
      have configures := configured_read features test j
      rw [got]
      by_cases refused : errno = none
      · have willing := fine.mp refused
        by_cases ssl : features.HAVE_SSL ∧ ¬ contact.authorized
        · have have_ssl : features.HAVE_SSL = true := ssl.1
          have unauthorized : contact.authorized = false := by simpa using ssl.2
          simp only [refused, have_ssl, unauthorized, ne_eq, not_true_eq_false, if_false,
            Bool.false_eq_true, not_false_eq_true, and_self, if_true, Option.any_some, willing,
            Bool.not_true, Bool.or_self, Bool.and_false, Bool.false_and]
          exact ⟨trivial, configures, carries, affinity, omitted⟩
        · have welcome : (!features.HAVE_SSL || contact.authorized) = true := by
            cases have_ssl : features.HAVE_SSL with
            | false => rfl
            | true => simpa [have_ssl] using ssl
          simp only [refused, ssl, ne_eq, not_true_eq_false, if_false, Option.any_some, willing,
            welcome, Bool.not_false, Bool.true_and]
          cases contact.prot_listener with
          | none => exact ⟨rfl, configures, carries, affinity, omitted⟩
          | some s =>
              refine ⟨rfl, configures, ?_, affinity, omitted⟩
              exact congrArg (Traces.raise · [s]) carries
      · have unwilling : refuses test j = true := by
          simpa using fun willing => refused (fine.mpr willing)
        simp only [refused, ne_eq, not_false_eq_true, if_true, Option.any_some, unwilling,
          Bool.not_true, Bool.false_and]
        exact ⟨trivial, configures, carries, affinity, omitted⟩

theorem accept_spec (idle : Idle test) (contact : Contact) :
    let accepted := iperf_accept features test contact
    accepted.1 = Contact.completes features test contact ∧
    configured features accepted.2 = configured features test ∧
    carried accepted.2 = (((carried test).hear features (Contact.message contact)).raise
      ((if contact.options_set ∧ contact.cookie_complete then [contact.socket] else []) ++
        if Contact.welcome features test contact then contact.prot_listener.toList else [])).map
        (Contact.completes features test contact && contact.mapped) ∧
    accepted.2.omit = (Contact.message contact).elim OMIT (read_int · "omit" OMIT) := by
  by_cases options : contact.options_set
  · by_cases cookie : contact.cookie_complete
    · by_cases greeted : contact.greeted
      · have message : Contact.message contact = contact.parameters := by
          simp [Contact.message, options, cookie, greeted]
        have waiting : Idle { raise_fd { test with
            ctrl_sck := contact.socket, cookie := contact.cookie } contact.socket with
            state := PARAM_EXCHANGE } := ⟨idle.duration, idle.omitted, idle.server_affinity⟩
        obtain ⟨agreed, configures, carries, affinity, omitted⟩ :=
          exchange_spec features waiting message
        have raised : carried { raise_fd { test with
            ctrl_sck := contact.socket, cookie := contact.cookie } contact.socket with
            state := PARAM_EXCHANGE } = (carried test).raise [contact.socket] := rfl
        rw [raised, Traces.hear_raise, Traces.raise_raise] at carries
        simp only [iperf_accept, options, cookie, greeted, not_true_eq_false, if_false]
        generalize iperf_exchange_parameters features _ contact = exchanged at *
        obtain ⟨done, after⟩ := exchanged
        change configured features after = configured features test at configures
        change carried after = ((carried test).hear features contact.parameters).raise
          ([contact.socket] ++ if Contact.welcome features test contact then
            contact.prot_listener.toList else []) at carries
        simp only at agreed affinity omitted ⊢
        -- Beyond the exchange only a requested affinity can still fail the accept.
        have finishes : Contact.completes features test contact =
            (done && (after.server_affinity == -1 || contact.affinity_set)) := by
          rw [agreed, affinity, Contact.completes, message]
          cases contact.parameters with
          | none => rfl
          | some j => rfl
        rw [finishes, message]
        cases done with
        | false => exact ⟨rfl, configures, carries, omitted⟩
        | true =>
            by_cases bound : after.server_affinity ≠ -1 ∧ ¬ contact.affinity_set
            · have outside : (after.server_affinity == -1 || contact.affinity_set) = false := by
                simpa using bound
              rw [if_pos bound, outside]
              exact ⟨rfl, configures, carries, omitted⟩
            · have inside : (after.server_affinity == -1 || contact.affinity_set) = true := by
                simpa [Decidable.imp_iff_not_or] using bound
              rw [if_neg bound, inside]
              refine ⟨rfl, ?_⟩
              cases contact.mapped with
              | false => exact ⟨configures, carries, omitted⟩
              | true => exact ⟨configures, congrArg (Traces.map · true) carries, omitted⟩
      · have message : Contact.message contact = none := by simp [Contact.message, greeted]
        simp only [Contact.completes, Contact.welcome, message]
        simp only [iperf_accept, options, cookie, greeted, not_true_eq_false, if_false]
        exact ⟨rfl, rfl, rfl, idle.omitted⟩
    · have message : Contact.message contact = none := by simp [Contact.message, cookie]
      simp only [Contact.completes, Contact.welcome, message]
      simp only [iperf_accept, options, cookie, not_true_eq_false, if_false]
      exact ⟨rfl, rfl, rfl, idle.omitted⟩
  · have message : Contact.message contact = none := by simp [Contact.message, options]
    simp only [Contact.completes, Contact.welcome, message]
    simp only [iperf_accept, options]
    exact ⟨rfl, rfl, rfl, idle.omitted⟩

theorem run_test_spec {contact : Contact}
    (omitted : test.omit = (Contact.message contact).elim OMIT (read_int · "omit" OMIT)) :
    let after := run_test test contact
    configured features after = configured features test ∧
    carried after = ((carried test).raise contact.stream_sockets).test (some contact) := by
  simp only [run_test, create_server_omit_timer, raise_fds]
  cases begun : contact.begun with
  | false => exact ⟨rfl, by simp [carried, Traces.raise, Traces.test, Contact.omitting, begun]⟩
  | true =>
      refine ⟨rfl, ?_⟩
      simp [carried, Traces.raise, Traces.test, Contact.omitting, begun, omitted]

/-- What `run` still does with the result of a round that had a client. -/
theorem finish_spec (test : iperf_test) (rc : Int32) (contact : Contact) :
    let after := iperf_json_finish { test with server_last_run_rc := rc } contact
    configured features after = configured features test ∧
    carried after = (carried test).finish rc
      (if test.json_output = 0 then none else contact.rendered) ∧
    after.congestion_used = test.congestion_used := by
  by_cases plain : test.json_output = 0
  · rw [iperf_json_finish, if_pos plain, if_pos plain]
    exact ⟨rfl, rfl, rfl⟩
  · rw [iperf_json_finish, if_neg plain, if_neg plain]
    exact ⟨rfl, rfl, rfl⟩

theorem carried_round (idle : Idle test) (round : Round) :
    let after := run_once features test round
    configured features after = configured features test ∧
    carried after = (carried test).next features test round ∧
    after.congestion_used = none := by
  obtain ⟨listener, contact⟩ := round
  have listening : carried { iperf_server_listen test listener with state := IPERF_START } =
      ((carried test).announce test).raise [listener] := rfl
  cases contact with
  | none =>
      refine ⟨rfl, ?_, rfl⟩
      simp only [Traces.next, Round.rendered, Option.bind_none, ite_self]
      exact congrArg (Traces.finish · 2 none) listening
  | some contact =>
      have open_ : Idle { iperf_server_listen test listener with state := IPERF_START } :=
        ⟨idle.duration, idle.omitted, idle.server_affinity⟩
      obtain ⟨completes, configures, carries, omitted⟩ := accept_spec features open_ contact
      rw [listening, Traces.hear_raise, Traces.raise_raise] at carries
      simp only [run_once, iperf_run_server, Option.elim_some]
      generalize iperf_accept features _ contact = accepted at *
      obtain ⟨done, after⟩ := accepted
      change configured features after = configured features test at configures
      change done = Contact.completes features test contact at completes
      change after.omit = (Contact.message contact).elim OMIT (read_int · "omit" OMIT) at omitted
      have plain : after.json_output = test.json_output :=
        congrArg Configured.json_output configures
      change carried after = ((((carried test).announce test).hear features
        (Contact.message contact)).raise
        ([listener] ++ ((if contact.options_set ∧ contact.cookie_complete then [contact.socket]
          else []) ++ if Contact.welcome features test contact then
            contact.prot_listener.toList else []))).map
        (Contact.completes features test contact && contact.mapped) at carries
      subst completes
      cases completes : Contact.completes features test contact with
      | false =>
          obtain ⟨keeps, finished, used⟩ := finish_spec features (cleanup_server after) (-1) contact
          refine ⟨keeps.trans configures, ?_, used⟩
          have untested : Round.tested features test ⟨listener, some contact⟩ = none := by
            simp [Round.tested, completes]
          rw [completes] at carries
          refine finished.trans ?_
          change (carried after).finish _ _ = _
          rw [carries]
          simp [Traces.next, Round.message, Round.descriptors, Round.maps, Round.rc, Round.rendered,
            Contact.descriptors, completes, untested, cleanup_server, plain, Traces.test]
      | true =>
          obtain ⟨ran, tested⟩ := run_test_spec features omitted
          obtain ⟨keeps, finished, used⟩ := finish_spec features
            (cleanup_server (run_test after contact))
            (if contact.stalled ∨ contact.failed then -1 else 0) contact
          refine ⟨keeps.trans (ran.trans configures), ?_, used⟩
          have begins : Round.tested features test ⟨listener, some contact⟩ = some contact := by
            simp [Round.tested, completes]
          rw [completes] at carries
          refine finished.trans ?_
          change (carried (run_test after contact)).finish _ _ = _
          have quiet : (run_test after contact).json_output = test.json_output :=
            (congrArg Configured.json_output ran).trans plain
          have returned : (if contact.stalled ∨ contact.failed then -1 else 0) =
              Round.rc features test ⟨listener, some contact⟩ := by
            cases stalled : contact.stalled <;> cases failed : contact.failed <;>
              simp [Round.rc, begins, stalled, failed]
          rw [tested, carries, Traces.raise_map, Traces.raise_raise, returned]
          simp [Traces.next, Round.message, Round.descriptors, Round.maps, Round.rendered,
            Contact.descriptors, completes, begins, cleanup_server, quiet]

theorem next_congr {first second : iperf_test}
    (same : configured features first = configured features second) (left : Traces)
    (round : Round) : left.next features first round = left.next features second round := by
  simp only [configured, Configured.mk.injEq] at same
  have refusal : refuses first = refuses second := by
    unfold refuses
    rw [same.2.1, same.2.2.1]
  have welcome : Contact.welcome features first = Contact.welcome features second := by
    unfold Contact.welcome
    rw [refusal]
  have completes : Contact.completes features first = Contact.completes features second := by
    unfold Contact.completes
    rw [welcome]
  have descriptors : Contact.descriptors features first = Contact.descriptors features second := by
    unfold Contact.descriptors
    rw [welcome, completes]
  have tested : Round.tested features first = Round.tested features second := by
    unfold Round.tested
    rw [completes]
  have announce : Traces.announce first = Traces.announce second := by
    unfold Traces.announce
    rw [same.2.2.2.2.2.2.1]
  have rendered : Round.rendered first = Round.rendered second := by
    unfold Round.rendered
    rw [same.2.2.2.2.2.2.1]
  simp only [Traces.next, Round.descriptors, Round.maps, Round.rc, descriptors, completes, tested,
    announce, rendered]

/-- Whatever the rounds were, a server keeps its command line and their traces. -/
theorem serve_carries {initial : iperf_test} (idle : Idle initial) (rounds : List Round) :
    let after := serve features initial rounds
    Idle after ∧ configured features after = configured features initial ∧
      carried after = traces features initial rounds := by
  -- The last round starts from the reset that ended the one before it.
  induction rounds using List.reverseRecOn with
  | nil =>
      refine ⟨idle, rfl, ?_⟩
      simp [serve, traces, carried, last_of, last_int, if_any, of_last, banners]
  | append_singleton rounds round earlier =>
      obtain ⟨idle, configures, carries⟩ := earlier
      obtain ⟨keeps, left, _⟩ := carried_round features idle round
      simp only [serve, List.foldl_append, List.foldl_cons, List.foldl_nil]
      refine ⟨idle_reset _, ?_, ?_⟩
      · rw [configured_reset]
        exact keeps.trans configures
      · rw [carried_reset, traces_append, ← carries, ← next_congr features configures]
        exact left

theorem serve_reset {initial : iperf_test} (idle : Idle initial) {rounds : List Round}
    (served : rounds ≠ []) :
    ∃ last, serve features initial rounds = iperf_reset_test features last ∧
      last.congestion_used = none := by
  rcases List.eq_nil_or_concat' rounds with rfl | ⟨rounds, round, rfl⟩
  · exact absurd rfl served
  · obtain ⟨before, _, _⟩ := serve_carries features idle rounds
    obtain ⟨_, _, used⟩ := carried_round features before round
    refine ⟨_, ?_, used⟩
    simp [serve]

theorem serve_eq_iff {initial : iperf_test} (idle : Idle initial) {first second : List Round}
    (started : first ≠ []) (served : second ≠ []) :
    serve features initial first = serve features initial second ↔
      traces features initial first = traces features initial second := by
  obtain ⟨_, one_configures, one_carries⟩ := serve_carries features idle first
  obtain ⟨_, other_configures, other_carries⟩ := serve_carries features idle second
  constructor
  · intro same
    rw [← one_carries, ← other_carries, same]
  · intro same
    obtain ⟨one, one_reset, one_used⟩ := serve_reset features idle started
    obtain ⟨other, other_reset, other_used⟩ := serve_reset features idle served
    rw [one_reset, configured_reset] at one_configures
    rw [other_reset, configured_reset] at other_configures
    rw [one_reset, carried_reset] at one_carries
    rw [other_reset, carried_reset] at other_carries
    rw [one_reset, other_reset]
    exact reset_congr (one_carries.trans (same.trans other_carries.symm))
      (one_configures.trans other_configures.symm) (one_used.trans other_used.symm)

end Step

section Isolation
variable {features : Features}

theorem accepted_idle {environment : Environment} {options : List Opt} {initial : iperf_test}
    (parses : iperf_parse_arguments features environment (iperf_defaults features) options =
      .ok initial) (role : initial.role = .s) : Idle initial :=
  have untouched := (parse_accepted parses).server role
  ⟨untouched.duration, untouched.omitted, untouched.server_affinity⟩

/-- Two servers with one command line are the same after a reset, and make the
same of any next client's parameters, exactly when their clients left the same
traces. -/
theorem reset_isolation {environment : Environment} {options : List Opt} {parsed : iperf_test}
    (parses : iperf_parse_arguments features environment (iperf_defaults features) options =
      .ok parsed) (role : parsed.role = .s) (output : Int32) {first second : List Round}
    (started : first ≠ []) (served : second ≠ []) :
    -- -J is not among the options of this `iperf_parse_arguments`
    let initial := { parsed with json_output := output }
    (serve features initial first = serve features initial second ∧
      ∀ message, get_parameters features (serve features initial first) message =
        get_parameters features (serve features initial second) message) ↔
      traces features initial first = traces features initial second := by
  intro initial
  have idle := accepted_idle parses role
  have waiting : Idle initial := ⟨idle.duration, idle.omitted, idle.server_affinity⟩
  rw [← serve_eq_iff features waiting started served]
  constructor
  · exact And.left
  · intro same
    exact ⟨same, fun message => by rw [same]⟩

/-- `iperf3 -s` after the command line. -/
def sample_server : iperf_test := { iperf_defaults sample_features with role := .s }

/-- A client whose connection goes through and sends these parameters. -/
def client_of (members : List (String × cJSON)) : Round :=
  { listener := 3
    contact := some
      { socket := 4, options_set := true, cookie := [], cookie_complete := true, greeted := true
        parameters := some (.object members), authorized := true, prot_listener := some 3
        reopened := none, streams_announced := true, affinity_set := true, mapped := false
        stream_sockets := [5], enlarged := none, algorithm := some "cubic" } }

/-- What every client writes. -/
def plain_members : List (String × cJSON) :=
  [("tcp", .bool true), ("omit", int_number 0), ("time", int_number 10), ("num", size_number 0),
    ("blockcount", size_number 0), ("parallel", int_number 1), ("len", int_number 131072),
    ("pacing_timer", int_number 1000), ("client_version", .string "3.20+")]

theorem reset_isolation_sample :
    let plain := client_of plain_members
    let reversed := client_of (plain_members ++ [("reverse", .bool true), ("TOS", int_number 16)])
    serve sample_features sample_server [plain] =
        serve sample_features sample_server [reversed] ∧
      ∀ message,
        get_parameters sample_features (serve sample_features sample_server [plain]) message =
          get_parameters sample_features (serve sample_features sample_server [reversed])
            message := by
  have parses : iperf_parse_arguments sample_features sample_environment
    (iperf_defaults sample_features) [.s] = .ok sample_server := rfl
  exact (reset_isolation parses rfl 0 (List.cons_ne_nil _ _) (List.cons_ne_nil _ _)).mpr
    (by decide +kernel)

/-- One client asks for a flow label and for the server's output. The next one,
which asks for nothing, gets them too. -/
theorem reset_isolation_counterexample :
    let plain := client_of plain_members
    let labelled := client_of
      (plain_members ++ [("flowlabel", int_number 7), ("get_server_output", int_number 1)])
    let next := some (cJSON.object plain_members)
    let clean := serve sample_features sample_server [plain]
    let leaky := serve sample_features sample_server [labelled]
    iperf_parse_arguments sample_features sample_environment (iperf_defaults sample_features)
        [.s] = .ok sample_server ∧ clean ≠ leaky ∧
      (get_parameters sample_features clean next).2.settings.flowlabel = 0 ∧
      (get_parameters sample_features leaky next).2.settings.flowlabel = 7 ∧
      (get_parameters sample_features clean next).2.get_server_output = 0 ∧
      (get_parameters sample_features leaky next).2.get_server_output = 1 := by
  refine ⟨rfl, ?_, ?_, ?_, ?_, ?_⟩
  · decide +kernel
  · decide +kernel
  · decide +kernel
  · decide +kernel
  · decide +kernel

end Isolation

end Iperf.ServerReset
