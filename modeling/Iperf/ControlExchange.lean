import Iperf.ControlProtocol

/-!
The conversation that both programs hold. `ClientAt` and `ServerAt` say where
in it each side stands; each program keeps to the script, so the two loops can
interleave in any order without going wrong.
-/

namespace Iperf.ControlExchange

open TestState Dialogue ControlProtocol Transition

section Scripts

abbrev Script := List (Line Message)

def display : Script := [.hears (.state DISPLAY_RESULTS), .tells (.state IPERF_DONE)]

def exchange : Script :=
  .hears (.state EXCHANGE_RESULTS) :: .tells (.json .results) :: .hears (.json .results) :: display

def finish : Script := .tells (.state TEST_END) :: exchange

def begin_test : Script := .hears (.state TEST_START) :: .hears (.state TEST_RUNNING) :: finish

/-- One stream after the other; only UDP answers each of them. -/
def create (protocol : Protocol) : Nat → Script
  | 0 => begin_test
  | more + 1 =>
      if protocol = .Pudp then
        .tells (.connection (prot_listener protocol)) :: .hears .reply :: create protocol more
      else .tells (.connection (prot_listener protocol)) :: create protocol more

def total_streams (setup : Setup) : Nat :=
  match setup.mode with
  | .BIDIRECTIONAL => setup.num_streams + setup.num_streams
  | _ => setup.num_streams

def agree (setup : Setup) : Script :=
  .tells (send_parameters setup) :: .hears (.state CREATE_STREAMS) ::
    create setup.protocol (total_streams setup)

/-- The whole conversation, as the client holds it. -/
def conversation (setup : Setup) : Script :=
  .tells (.connection .listener) :: .tells .cookie :: .hears (.state PARAM_EXCHANGE) :: agree setup

end Scripts

section Client
variable {setup : Setup}

/-- Where a client stands, and what is left of the conversation. -/
inductive ClientAt (setup : Setup) : Client → Script → Prop where
  | connecting : ClientAt setup {} (conversation setup)
  | greeting : ClientAt setup { pc := .greeting }
      (.tells .cookie :: .hears (.state PARAM_EXCHANGE) :: agree setup)
  | greeted : ClientAt setup { pc := .waiting } (.hears (.state PARAM_EXCHANGE) :: agree setup)
  | sendingParameters :
      ClientAt setup { pc := .sendingParameters, state := PARAM_EXCHANGE } (agree setup)
  | parametersSent :
      ClientAt setup { pc := .waiting, state := PARAM_EXCHANGE, parameters_sent := 1 }
        (.hears (.state CREATE_STREAMS) :: create setup.protocol (total_streams setup))
  | creating (senders receivers : Nat) :
      ClientAt setup
        { pc := .creating senders receivers, state := CREATE_STREAMS, parameters_sent := 1 }
        (create setup.protocol (senders + receivers))
  | awaitingReply (senders receivers : Nat) :
      ClientAt setup
        { pc := .awaitingReply senders receivers, state := CREATE_STREAMS, parameters_sent := 1 }
        (.hears .reply :: create setup.protocol (senders + receivers))
  | created :
      ClientAt setup { pc := .waiting, state := CREATE_STREAMS, parameters_sent := 1 } begin_test
  | started (omitting : Bool) :
      ClientAt setup
        { pc := .waiting, state := TEST_START, omitting := omitting, parameters_sent := 1 }
        (.hears (.state TEST_RUNNING) :: finish)
  | running (omitting reached : Bool) :
      ClientAt setup
        { pc := .waiting, state := TEST_RUNNING, omitting := omitting, reached := reached
          parameters_sent := 1 }
        finish
  | ended : ClientAt setup
      { pc := .waiting, state := TEST_END, reached := true, parameters_sent := 1 } exchange
  | sendingResults : ClientAt setup
      { pc := .sendingResults, state := EXCHANGE_RESULTS, reached := true, parameters_sent := 1 }
      (.tells (.json .results) :: .hears (.json .results) :: display)
  | gettingResults : ClientAt setup
      { pc := .gettingResults, state := EXCHANGE_RESULTS, reached := true, parameters_sent := 1
        results_sent := 1 }
      (.hears (.json .results) :: display)
  | exchanged : ClientAt setup
      { pc := .waiting, state := EXCHANGE_RESULTS, reached := true, parameters_sent := 1
        results_sent := 1, results_received := 1 }
      display
  | ending : ClientAt setup
      { pc := .ending, state := DISPLAY_RESULTS, reached := true, parameters_sent := 1
        results_sent := 1, results_received := 1 }
      [.tells (.state IPERF_DONE)]
  | leaving : ClientAt setup
      { pc := .waiting, state := IPERF_DONE, reached := true, parameters_sent := 1
        results_sent := 1, results_received := 1 } []
  | finished : ClientAt setup
      { pc := .finished, state := IPERF_DONE, reached := true, parameters_sent := 1
        results_sent := 1, results_received := 1 } []

theorem create_streams_at (setup : Setup) :
    ClientAt setup
      { pc := create_streams setup, state := CREATE_STREAMS, parameters_sent := 1 }
      (create setup.protocol (total_streams setup)) := by
  unfold create_streams total_streams
  cases setup.mode with
  | SENDER => exact .creating setup.num_streams 0
  | RECEIVER => simpa using @ClientAt.creating setup 0 setup.num_streams
  | BIDIRECTIONAL => exact .creating setup.num_streams setup.num_streams

theorem connect_stream_follows (pc : ClientPc) (senders receivers : Nat) :
    Follows Message.channel (ClientAt setup) (create setup.protocol (senders + receivers + 1))
      (connect_stream setup { pc := pc, state := CREATE_STREAMS, parameters_sent := 1 }
        senders receivers) := by
  by_cases udp : setup.protocol = .Pudp
  · refine ⟨.hears .reply :: create setup.protocol (senders + receivers), by simp [create, udp], ?_⟩
    simpa only [udp, if_true] using @ClientAt.awaitingReply setup senders receivers
  · refine ⟨create setup.protocol (senders + receivers), by simp [create, udp], ?_⟩
    simpa only [udp, if_false] using @ClientAt.creating setup senders receivers

theorem running_follows {omitting reached : Bool} :
    ∀ act ∈ running
      { pc := .waiting, state := TEST_RUNNING, omitting := omitting, reached := reached
        parameters_sent := 1 },
    Follows Message.channel (ClientAt setup) finish act := by
  intro act listed
  rcases List.mem_append.mp listed with timer | ended
  · rcases List.mem_append.mp timer with omitTimer | condition
    · cases omitting with
      | false => cases omitTimer
      | true =>
          simp only [if_true, List.mem_cons, List.not_mem_nil, or_false] at omitTimer
          rcases omitTimer with rfl | rfl
          · exact .running false reached
          · exact .running false false
    · cases reached with
      | true => cases condition
      | false =>
          obtain rfl := List.mem_singleton.mp condition
          exact .running omitting true
  · cases omitting with
    | true => cases ended
    | false =>
        cases reached with
        | false => cases ended
        | true =>
            obtain rfl := List.mem_singleton.mp ended
            exact ⟨_, rfl, .ended⟩

theorem client_follows {client : Client} {script : Script} (here : ClientAt setup client script) :
    ∀ act ∈ Client.acts setup client, Follows Message.channel (ClientAt setup) script act := by
  intro act listed
  cases here with
  | connecting =>
      obtain rfl := List.mem_singleton.mp listed
      exact ⟨_, rfl, .greeting⟩
  | greeting =>
      obtain rfl := List.mem_singleton.mp listed
      exact ⟨_, rfl, .greeted⟩
  | greeted =>
      obtain rfl := List.mem_singleton.mp listed
      exact follows_hear Message.channel rfl .sendingParameters
  | sendingParameters =>
      obtain rfl := List.mem_singleton.mp listed
      exact ⟨_, rfl, .parametersSent⟩
  | parametersSent =>
      obtain rfl := List.mem_singleton.mp listed
      exact follows_hear Message.channel rfl (create_streams_at setup)
  | creating senders receivers =>
      cases senders with
      | succ senders =>
          obtain rfl := List.mem_singleton.mp listed
          rw [Nat.succ_add]
          exact connect_stream_follows _ senders receivers
      | zero =>
          cases receivers with
          | succ receivers =>
              obtain rfl := List.mem_singleton.mp listed
              exact connect_stream_follows _ 0 receivers
          | zero =>
              obtain rfl := List.mem_singleton.mp listed
              exact .created
  | awaitingReply senders receivers =>
      obtain rfl := List.mem_singleton.mp listed
      exact follows_hear Message.channel rfl (.creating senders receivers)
  | created =>
      obtain rfl := List.mem_singleton.mp listed
      exact follows_hear Message.channel rfl (.started _)
  | started omitting =>
      obtain rfl := List.mem_singleton.mp listed
      exact follows_hear Message.channel rfl (.running omitting false)
  | running omitting reached =>
      -- The client polls the control socket, but it is its own turn to tell.
      rcases List.mem_cons.mp listed with rfl | timer
      · exact follows_deaf Message.channel nofun
      · exact running_follows act timer
  | ended =>
      obtain rfl := List.mem_singleton.mp listed
      exact follows_hear Message.channel rfl .sendingResults
  | sendingResults =>
      obtain rfl := List.mem_singleton.mp listed
      exact ⟨_, rfl, .gettingResults⟩
  | gettingResults =>
      obtain rfl := List.mem_singleton.mp listed
      exact follows_hear Message.channel rfl .exchanged
  | exchanged =>
      obtain rfl := List.mem_singleton.mp listed
      exact follows_hear Message.channel rfl .ending
  | ending =>
      obtain rfl := List.mem_singleton.mp listed
      exact ⟨_, rfl, .leaving⟩
  | leaving =>
      obtain rfl := List.mem_singleton.mp listed
      exact .finished
  | finished => cases listed

theorem finished_silent {client : Client} {script : Script} (here : ClientAt setup client script)
    (ended : client.pc = .finished) : ∀ message, .tells message ∉ script := by
  cases here with
  | finished => simp
  | _ => cases ended

theorem client_ready {client : Client} {script : Script} (here : ClientAt setup client script)
    (active : client.pc ≠ .finished) :
    ∃ act ∈ Client.acts setup client, act.Ready Message.channel script := by
  cases here with
  | creating senders receivers =>
      -- Sending streams are opened before receiving ones.
      have more : ∀ count, ∃ rest, create setup.protocol (count + 1) =
          .tells (.connection (prot_listener setup.protocol)) :: rest := by
        intro count
        by_cases udp : setup.protocol = .Pudp <;> simp [create, udp]
      cases senders with
      | succ senders => exact ⟨_, List.mem_singleton.mpr rfl, Nat.succ_add _ _ ▸ more _⟩
      | zero =>
          cases receivers with
          | succ receivers => exact ⟨_, List.mem_singleton.mpr rfl, Nat.zero_add _ ▸ more _⟩
          | zero => exact ⟨_, List.mem_singleton.mpr rfl, trivial⟩
  | running omitting reached =>
      cases omitting with
      | true => exact ⟨_, List.mem_cons_of_mem _ List.mem_cons_self, trivial⟩
      | false =>
          cases reached with
          | false => exact ⟨_, List.mem_cons_of_mem _ List.mem_cons_self, trivial⟩
          | true => exact ⟨_, List.mem_cons_of_mem _ List.mem_cons_self, _, rfl⟩
  | leaving => exact ⟨_, List.mem_singleton.mpr rfl, trivial⟩
  | finished => exact absurd rfl active
  | connecting => exact ⟨_, List.mem_singleton.mpr rfl, _, rfl⟩
  | greeting => exact ⟨_, List.mem_singleton.mpr rfl, _, rfl⟩
  | sendingParameters => exact ⟨_, List.mem_singleton.mpr rfl, _, rfl⟩
  | sendingResults => exact ⟨_, List.mem_singleton.mpr rfl, _, rfl⟩
  | ending => exact ⟨_, List.mem_singleton.mpr rfl, _, rfl⟩
  | _ => exact ⟨_, List.mem_singleton.mpr rfl, _, _, rfl, rfl⟩

/-- The quiet steps that a client has before it must tell or hear something. -/
def client_rank (client : Client) : Nat :=
  (match client.pc with
    | .creating _ _ => 2
    | .ending => 2
    | .waiting => 1
    | _ => 0) +
  (if client.omitting then 2 else 0) + (if client.reached then 0 else 1)

theorem client_rank_bounded (client : Client) : client_rank client ≤ 5 := by
  unfold client_rank
  split <;> split <;> split <;> omega

theorem running_passes {client next : Client} (pc : client.pc = .waiting)
    (listed : .pass next ∈ running client) : client_rank next < client_rank client := by
  rcases List.mem_append.mp listed with timer | ended
  · rcases List.mem_append.mp timer with omitTimer | condition
    · cases omitting : client.omitting with
      | false => simp [omitting] at omitTimer
      | true =>
          simp only [omitting, if_true, List.mem_cons, Act.pass.injEq, List.not_mem_nil,
            or_false] at omitTimer
          rcases omitTimer with rfl | rfl
          · simp [client_rank, pc, omitting]
          · simp only [client_rank, pc, omitting, Bool.false_eq_true, if_false, if_true]
            omega
    · cases reached : client.reached with
      | true => simp [reached] at condition
      | false =>
          simp only [reached, Bool.false_eq_true, if_false, List.mem_singleton,
            Act.pass.injEq] at condition
          simp [client_rank, pc, condition, reached]
  · by_cases both : !client.omitting && client.reached
    · simp [both] at ended
    · simp [both] at ended

theorem client_passes {client next : Client} (listed : .pass next ∈ Client.acts setup client) :
    client_rank next < client_rank client := by
  cases pc : client.pc with
  | waiting =>
      by_cases done : client.state = IPERF_DONE
      · simp only [Client.acts, pc, done, if_true, List.mem_singleton, Act.pass.injEq] at listed
        simp [client_rank, pc, listed]
      · simp only [Client.acts, pc, done, if_false, List.mem_cons, reduceCtorEq, false_or] at listed
        split at listed
        · exact running_passes pc listed
        · cases listed
  | creating senders receivers =>
      cases senders with
      | succ senders => simp [Client.acts, pc, connect_stream] at listed
      | zero =>
          cases receivers with
          | succ receivers => simp [Client.acts, pc, connect_stream] at listed
          | zero =>
              simp only [Client.acts, pc, List.mem_singleton, Act.pass.injEq] at listed
              simp [client_rank, pc, listed]
  | ending =>
      by_cases positive : 0 < client.state
      · simp [Client.acts, pc, positive] at listed
      · simp only [Client.acts, pc, positive, if_false, List.mem_singleton, Act.pass.injEq]
          at listed
        simp [client_rank, pc, listed]
  | _ => simp [Client.acts, pc] at listed

/-- The client is blocked in a read. -/
def ClientReading (client : Client) : Prop :=
  (client.pc = .waiting ∧ client.state ≠ TEST_RUNNING ∧ client.state ≠ IPERF_DONE) ∨
    (∃ senders receivers, client.pc = .awaitingReply senders receivers) ∨
    client.pc = .gettingResults

theorem reading_client_hears {client : Client} {script : Script}
    (here : ClientAt setup client script) (reading : ClientReading client) :
    ∃ message rest, script = .hears message :: rest := by
  cases here with
  | running omitting reached => simp [ClientReading] at reading
  | leaving => simp [ClientReading] at reading
  | greeted => exact ⟨_, _, rfl⟩
  | parametersSent => exact ⟨_, _, rfl⟩
  | awaitingReply senders receivers => exact ⟨_, _, rfl⟩
  | created => exact ⟨_, _, rfl⟩
  | started omitting => exact ⟨_, _, rfl⟩
  | ended => exact ⟨_, _, rfl⟩
  | gettingResults => exact ⟨_, _, rfl⟩
  | exchanged => exact ⟨_, _, rfl⟩
  | _ => simp [ClientReading] at reading

end Client

section Server
variable {setup : Setup}

def heard (script : Script) : Script := script.map Line.mirror

/-- The streams on which the server sends, and those on which it receives. -/
def sending (setup : Setup) : Nat :=
  match setup.mode with
  | .SENDER => 0
  | _ => setup.num_streams

def receiving (setup : Setup) : Nat :=
  match setup.mode with
  | .RECEIVER => 0
  | _ => setup.num_streams

/-- A server that knows the parameters. -/
def informed (setup : Setup) : Server :=
  { state := PARAM_EXCHANGE
    connected := true
    protocol := setup.protocol
    mode := setup.mode.complement
    num_streams := setup.num_streams
    parameters_received := 1 }

def serving (setup : Setup) (received sent : Nat) : Server :=
  { informed setup with
    state := CREATE_STREAMS
    streams_to_send := sending setup
    streams_to_rec := receiving setup
    send_streams_accepted := sent
    rec_streams_accepted := received }

def accepted (setup : Setup) : Server := serving setup (receiving setup) (sending setup)

/-- How many streams are still to come. -/
def Missing (setup : Setup) (received sent count : Nat) : Prop :=
  received ≤ receiving setup ∧ sent ≤ sending setup ∧
    count = (receiving setup - received) + (sending setup - sent)

inductive ServerAt (setup : Setup) : Server → Script → Prop where
  | listening : ServerAt setup {} (heard (conversation setup))
  | readingCookie : ServerAt setup { pc := .readingCookie, connected := true }
      (heard (.tells .cookie :: .hears (.state PARAM_EXCHANGE) :: agree setup))
  | sendingParamExchange : ServerAt setup { pc := .sendingParamExchange, connected := true }
      (heard (.hears (.state PARAM_EXCHANGE) :: agree setup))
  | readingParameters :
      ServerAt setup { pc := .readingParameters, state := PARAM_EXCHANGE, connected := true }
        (heard (agree setup))
  | sendingCreateStreams : ServerAt setup { informed setup with pc := .sendingCreateStreams }
      (heard (.hears (.state CREATE_STREAMS) :: create setup.protocol (total_streams setup)))
  | checking {received sent count : Nat} : Missing setup received sent count →
      ServerAt setup { serving setup received sent with pc := .checking }
        (heard (create setup.protocol count))
  | accepting {received sent count : Nat} : Missing setup received sent (count + 1) →
      ServerAt setup { serving setup received sent with pc := .waiting }
        (heard (create setup.protocol (count + 1)))
  | replying {received sent count : Nat} : Missing setup received sent (count + 1) →
      ServerAt setup { serving setup received sent with pc := .replying }
        (.tells .reply :: heard (create setup.protocol count))
  | sendingTestStart : ServerAt setup { accepted setup with pc := .sendingTestStart }
      (heard begin_test)
  | sendingTestRunning :
      ServerAt setup { accepted setup with pc := .sendingTestRunning, state := TEST_START }
        (heard (.hears (.state TEST_RUNNING) :: finish))
  | running : ServerAt setup { accepted setup with pc := .waiting, state := TEST_RUNNING }
      (heard finish)
  | sendingExchangeResults :
      ServerAt setup { accepted setup with pc := .sendingExchangeResults, state := TEST_END }
        (heard exchange)
  | gettingResults :
      ServerAt setup { accepted setup with pc := .gettingResults, state := EXCHANGE_RESULTS }
        (heard (.tells (.json .results) :: .hears (.json .results) :: display))
  | sendingResults : ServerAt setup
      { accepted setup with
        pc := .sendingResults, state := EXCHANGE_RESULTS, results_received := 1 }
      (heard (.hears (.json .results) :: display))
  | sendingDisplayResults : ServerAt setup
      { accepted setup with
        pc := .sendingDisplayResults, state := EXCHANGE_RESULTS
        results_received := 1, results_sent := 1 }
      (heard display)
  | displayed : ServerAt setup
      { accepted setup with
        pc := .waiting, state := DISPLAY_RESULTS, results_received := 1, results_sent := 1 }
      (heard [.tells (.state IPERF_DONE)])
  -- a one-off QUIC server leaves the client's last byte unread
  | leaving {unread : Script} : unread = [] ∨ unread = heard [.tells (.state IPERF_DONE)] →
      ServerAt setup
        { accepted setup with
          pc := .waiting, state := IPERF_DONE, results_received := 1, results_sent := 1 }
        unread
  | finished {unread : Script} : unread = [] ∨ unread = heard [.tells (.state IPERF_DONE)] →
      ServerAt setup
        { accepted setup with
          pc := .finished, state := IPERF_DONE, results_received := 1, results_sent := 1 }
        unread

theorem receiving_sending (setup : Setup) :
    receiving setup + sending setup = total_streams setup := by
  cases mode : setup.mode <;> simp [receiving, sending, total_streams, mode]

theorem informed_parameters (setup : Setup) :
    get_parameters { pc := .readingParameters, state := PARAM_EXCHANGE, connected := true }
      (send_parameters setup) = { informed setup with pc := .sendingCreateStreams } := by
  cases mode : setup.mode <;>
    simp [get_parameters, send_parameters, informed, server_mode, Mode.complement, mode]

theorem set_streams_number_informed (setup : Setup) :
    set_streams_number { informed setup with pc := .sendingCreateStreams } =
      { serving setup 0 0 with state := PARAM_EXCHANGE, pc := .sendingCreateStreams } := by
  cases mode : setup.mode <;>
    simp [set_streams_number, informed, serving, sending, receiving, Mode.complement, mode]

/-- `count_stream` counts the stream on one side or the other. -/
theorem count_stream_serving {received sent count : Nat}
    (missing : Missing setup received sent (count + 1)) (pc : ServerPc) :
    ∃ more other, Missing setup more other count ∧
      count_stream { serving setup received sent with pc := pc } =
        { serving setup more other with pc := pc } := by
  obtain ⟨fewReceived, fewSent, total⟩ := missing
  -- Receiving streams come first; a sending one is counted when those are complete.
  by_cases full : received = receiving setup
  · have notSent : sent ≠ sending setup := by omega
    refine ⟨received, sent + 1, ⟨fewReceived, by omega, by omega⟩, ?_⟩
    simp [count_stream, serving, full, notSent]
  · refine ⟨received + 1, sent, ⟨by omega, fewSent, by omega⟩, ?_⟩
    simp [count_stream, serving, full]

theorem accept_stream_at {received sent count : Nat}
    (missing : Missing setup received sent (count + 1)) (connection : Message) :
    ∃ rest, heard (create setup.protocol (count + 1)) =
        .hears (.connection (prot_listener setup.protocol)) :: rest ∧
      ServerAt setup
        (accept_stream { serving setup received sent with pc := .waiting } connection) rest := by
  by_cases udp : setup.protocol = .Pudp
  · refine ⟨.tells .reply :: heard (create setup.protocol count),
      by simp [heard, create, udp, Line.mirror], ?_⟩
    have answered : accept_stream { serving setup received sent with pc := .waiting } connection =
        { serving setup received sent with pc := .replying } := if_pos udp
    exact answered ▸ ServerAt.replying missing
  · obtain ⟨more, other, left, counted⟩ := count_stream_serving missing .waiting
    refine ⟨heard (create setup.protocol count), by simp [heard, create, udp, Line.mirror], ?_⟩
    have taken : accept_stream { serving setup received sent with pc := .waiting } connection =
        { count_stream { serving setup received sent with pc := .waiting } with pc := .checking } :=
      if_neg udp
    rw [taken, counted]
    exact .checking left

theorem streams_accept_done_at {received sent count : Nat}
    (missing : Missing setup received sent count) :
    ServerAt setup (streams_accept_done { serving setup received sent with pc := .checking })
      (heard (create setup.protocol count)) := by
  obtain ⟨fewReceived, fewSent, total⟩ := missing
  cases count with
  | zero =>
      obtain rfl : received = receiving setup := by omega
      obtain rfl : sent = sending setup := by omega
      have all : streams_accept_done { accepted setup with pc := .checking } =
          { accepted setup with pc := .sendingTestStart } := by
        simp [streams_accept_done, accepted, serving]
      exact all ▸ ServerAt.sendingTestStart
  | succ count =>
      have some : ¬ (received = receiving setup ∧ sent = sending setup) := by omega
      have wait : streams_accept_done { serving setup received sent with pc := .checking } =
          { serving setup received sent with pc := .waiting } := by
        simp [streams_accept_done, serving, some]
      exact wait ▸ ServerAt.accepting ⟨fewReceived, fewSent, total⟩

theorem heard_create_control (protocol : Protocol) (count : Nat) :
    ∀ message ∈ expected (heard (create protocol count)), message.channel ≠ .control := by
  intro message listed
  induction count with
  | zero => cases listed
  | succ more ih =>
      by_cases udp : protocol = .Pudp
      · simp only [heard, create, udp, if_true, List.map_cons, Line.mirror, expected,
          List.mem_singleton] at listed
        subst listed
        decide
      · simp only [heard, create, udp, if_false, List.map_cons, Line.mirror, expected,
          List.mem_cons] at listed
        rcases listed with rfl | later
        · have apart : prot_listener protocol ≠ .control := by cases protocol <;> decide
          exact apart
        · exact ih later

theorem server_follows {server : Server} {script : Script} (here : ServerAt setup server script) :
    ∀ act ∈ Server.acts setup server, Follows Message.channel (ServerAt setup) script act := by
  intro act listed
  cases here with
  | listening =>
      obtain rfl := List.mem_singleton.mp listed
      exact follows_hear Message.channel rfl .readingCookie
  | readingCookie =>
      obtain rfl := List.mem_singleton.mp listed
      exact follows_hear Message.channel rfl .sendingParamExchange
  | sendingParamExchange =>
      obtain rfl := List.mem_singleton.mp listed
      exact ⟨_, rfl, .readingParameters⟩
  | readingParameters =>
      obtain rfl := List.mem_singleton.mp listed
      apply follows_hear Message.channel rfl
      rw [informed_parameters]
      exact .sendingCreateStreams
  | sendingCreateStreams =>
      obtain rfl := List.mem_singleton.mp listed
      refine ⟨_, rfl, ?_⟩
      rw [set_streams_number_informed, ← receiving_sending]
      exact .checking ⟨Nat.zero_le _, Nat.zero_le _, rfl⟩
  | checking missing =>
      obtain rfl := List.mem_singleton.mp listed
      exact streams_accept_done_at missing
  | accepting missing =>
      rcases List.mem_cons.mp listed with rfl | stream
      · exact follows_deaf Message.channel (heard_create_control _ _)
      · obtain rfl := List.mem_singleton.mp stream
        obtain ⟨rest, shape, there⟩ :=
          accept_stream_at missing (.connection (prot_listener setup.protocol))
        rw [shape]
        exact follows_hear Message.channel rfl there
  | replying missing =>
      obtain rfl := List.mem_singleton.mp listed
      obtain ⟨more, other, left, counted⟩ := count_stream_serving missing .replying
      refine ⟨_, rfl, ?_⟩
      rw [counted]
      exact .checking left
  | sendingTestStart =>
      obtain rfl := List.mem_singleton.mp listed
      exact ⟨_, rfl, .sendingTestRunning⟩
  | sendingTestRunning =>
      obtain rfl := List.mem_singleton.mp listed
      exact ⟨_, rfl, .running⟩
  | running =>
      rcases List.mem_cons.mp listed with rfl | control
      · exact follows_deaf Message.channel (by simp [expected, heard, finish, exchange, Line.mirror,
          Message.channel])
      · obtain rfl := List.mem_singleton.mp control
        exact follows_hear Message.channel rfl .sendingExchangeResults
  | sendingExchangeResults =>
      obtain rfl := List.mem_singleton.mp listed
      exact ⟨_, rfl, .gettingResults⟩
  | gettingResults =>
      obtain rfl := List.mem_singleton.mp listed
      exact follows_hear Message.channel rfl .sendingResults
  | sendingResults =>
      obtain rfl := List.mem_singleton.mp listed
      exact ⟨_, rfl, .sendingDisplayResults⟩
  | sendingDisplayResults =>
      obtain rfl := List.mem_singleton.mp listed
      refine ⟨_, rfl, ?_⟩
      by_cases early : setup.protocol = .Pquic ∧ setup.one_off
      · have left : ∀ server : Server, server.protocol = setup.protocol →
            display_results setup server = { server with pc := .waiting, state := IPERF_DONE } :=
          fun server same => if_pos (same ▸ early)
        rw [left _ rfl]
        exact .leaving (Or.inr rfl)
      · have stays : ∀ server : Server, server.protocol = setup.protocol →
            display_results setup server =
              { server with pc := .waiting, state := DISPLAY_RESULTS } :=
          fun server same => if_neg (same ▸ early)
        rw [stays _ rfl]
        exact .displayed
  | displayed =>
      rcases List.mem_cons.mp listed with rfl | control
      · exact follows_deaf Message.channel (by simp [expected, heard, Line.mirror, Message.channel])
      · obtain rfl := List.mem_singleton.mp control
        exact follows_hear Message.channel rfl (.leaving (Or.inl rfl))
  | leaving unread =>
      obtain rfl := List.mem_singleton.mp listed
      exact .finished unread
  | finished unread => cases listed

theorem finished_server_silent {server : Server} {script : Script}
    (here : ServerAt setup server script) (ended : server.pc = .finished) :
    ∀ message, .tells message ∉ script := by
  cases here with
  | finished unread => rcases unread with rfl | rfl <;> simp [heard, Line.mirror]
  | _ => cases ended

theorem server_ready {server : Server} {script : Script} (here : ServerAt setup server script)
    (active : server.pc ≠ .finished) :
    ∃ act ∈ Server.acts setup server, act.Ready Message.channel script := by
  cases here with
  | checking missing => exact ⟨_, List.mem_singleton.mpr rfl, trivial⟩
  | accepting missing =>
      obtain ⟨rest, shape, _⟩ :=
        accept_stream_at missing (.connection (prot_listener setup.protocol))
      exact ⟨_, List.mem_cons_of_mem _ List.mem_cons_self, _, rest, shape, rfl⟩
  | running => exact ⟨_, List.mem_cons_of_mem _ List.mem_cons_self, _, _, rfl, rfl⟩
  | displayed => exact ⟨_, List.mem_cons_of_mem _ List.mem_cons_self, _, _, rfl, rfl⟩
  | leaving unread => exact ⟨_, List.mem_singleton.mpr rfl, trivial⟩
  | finished unread => exact absurd rfl active
  | listening => exact ⟨_, List.mem_singleton.mpr rfl, _, _, rfl, rfl⟩
  | readingCookie => exact ⟨_, List.mem_singleton.mpr rfl, _, _, rfl, rfl⟩
  | readingParameters => exact ⟨_, List.mem_singleton.mpr rfl, _, _, rfl, rfl⟩
  | gettingResults => exact ⟨_, List.mem_singleton.mpr rfl, _, _, rfl, rfl⟩
  | _ => exact ⟨_, List.mem_singleton.mpr rfl, _, rfl⟩

def server_rank (server : Server) : Nat :=
  match server.pc with
  | .checking => 2
  | .waiting => 1
  | _ => 0

theorem server_passes {server next : Server} (listed : .pass next ∈ Server.acts setup server) :
    server_rank next < server_rank server := by
  cases pc : server.pc with
  | waiting =>
      by_cases done : server.state = IPERF_DONE
      · simp only [Server.acts, pc, done, if_true, List.mem_singleton, Act.pass.injEq] at listed
        simp [server_rank, pc, listed]
      · simp only [Server.acts, pc, done, if_false, select] at listed
        split_ifs at listed <;> simp at listed
  | checking =>
      simp only [Server.acts, pc, List.mem_singleton, Act.pass.injEq] at listed
      subst listed
      unfold streams_accept_done
      split <;> simp [server_rank, pc]
  | _ => simp [Server.acts, pc, set_send_state] at listed

theorem server_rank_bounded (server : Server) : server_rank server ≤ 5 := by
  unfold server_rank
  split <;> omega

/-- The server is blocked in a read or in `select`. -/
def ServerReading (server : Server) : Prop :=
  (server.pc = .waiting ∧ server.state ≠ IPERF_DONE) ∨ server.pc = .readingCookie ∨
    server.pc = .readingParameters ∨ server.pc = .gettingResults

theorem reading_server_hears {server : Server} {script : Script}
    (here : ServerAt setup server script) (reading : ServerReading server) :
    ∃ message rest, script = .hears message :: rest := by
  cases here with
  | listening => exact ⟨_, _, rfl⟩
  | readingCookie => exact ⟨_, _, rfl⟩
  | readingParameters => exact ⟨_, _, rfl⟩
  | accepting missing =>
      obtain ⟨rest, shape, _⟩ :=
        accept_stream_at missing (.connection (prot_listener setup.protocol))
      exact ⟨_, rest, shape⟩
  | running => exact ⟨_, _, rfl⟩
  | gettingResults => exact ⟨_, _, rfl⟩
  | displayed => exact ⟨_, _, rfl⟩
  | _ => simp [ServerReading] at reading

end Server

section Runs
variable (setup : Setup)

/-- Both loops have ended, and each exchange has happened once. -/
def Complete (system : System) : Prop :=
  (system.left.pc = .finished ∧ system.left.state = IPERF_DONE) ∧
    (system.right.pc = .finished ∧ system.right.state = IPERF_DONE) ∧
    (system.left.parameters_sent = 1 ∧ system.right.parameters_received = 1) ∧
    (system.left.results_sent = 1 ∧ system.right.results_received = 1) ∧
    (system.right.results_sent = 1 ∧ system.left.results_received = 1)

/-- A bound on the length of every run. -/
def most_steps (setup : Setup) : Nat := 12 * ((conversation setup).length + 1)

theorem client_keeps : KeepsTo Message.channel (playing Message.channel (Client.acts setup))
    (ClientAt setup) :=
  keepsTo_playing Message.channel client_follows

theorem server_keeps : KeepsTo Message.channel (playing Message.channel (Server.acts setup))
    (ServerAt setup) :=
  keepsTo_playing Message.channel server_follows

theorem client_willing : Willing (playing Message.channel (Client.acts setup)) (ClientAt setup)
    (fun client => client.pc = .finished) :=
  willing_playing Message.channel finished_silent client_ready

theorem server_willing : Willing (playing Message.channel (Server.acts setup)) (ServerAt setup)
    (fun server => server.pc = .finished) :=
  willing_playing Message.channel finished_server_silent server_ready

theorem client_never_fails {client : Client} {script : Script}
    (here : ClientAt setup client script) (reason : Failure) : client.pc ≠ .failed reason := by
  cases here <;> nofun

theorem server_never_fails {server : Server} {script : Script}
    (here : ServerAt setup server script) (reason : Failure) : server.pc ≠ .failed reason := by
  cases here <;> nofun

theorem finished_complete {system : System} {left right : Script}
    (atLeft : ClientAt setup system.left left) (atRight : ServerAt setup system.right right)
    (doneLeft : system.left.pc = .finished) (doneRight : system.right.pc = .finished) :
    Complete system := by
  obtain ⟨client, server, toLeft, toRight⟩ := system
  cases atLeft with
  | finished =>
      cases atRight with
      | finished unread => exact ⟨⟨rfl, rfl⟩, ⟨rfl, rfl⟩, ⟨rfl, rfl⟩, ⟨rfl, rfl⟩, ⟨rfl, rfl⟩⟩
      | _ => cases doneRight
  | _ => cases doneLeft

/-- Over every interleaving of the two programs: no read finds what it cannot
use, the sides never wait for each other, every run is bounded, and a run that
cannot go on is a finished test. -/
theorem control_protocol {past : List (Event Message)} {system : System}
    (run : Run (Step setup) start past system) :
    (∀ reason, system.left.pc ≠ .failed reason ∧ system.right.pc ≠ .failed reason) ∧
      ¬ (ClientReading system.left ∧ ServerReading system.right ∧
        system.toLeft = [] ∧ system.toRight = []) ∧
      past.length ≤ most_steps setup ∧
      ((∀ event after, ¬ Step setup system event after) → Complete system) := by
  obtain ⟨left, right, atLeft, atRight, balanced, spent⟩ :=
    run_balanced (client_keeps setup) (server_keeps setup)
      (tires_playing client_passes client_rank_bounded)
      (tires_playing server_passes server_rank_bounded) run (conversation setup)
      .connecting .listening rfl rfl
  refine ⟨fun reason => ⟨client_never_fails setup atLeft reason,
    server_never_fails setup atRight reason⟩, ?_, ?_, fun stuck => ?_⟩
  · rintro ⟨readingLeft, readingRight, noneLeft, noneRight⟩
    obtain ⟨_, _, rfl⟩ := reading_client_hears atLeft readingLeft
    obtain ⟨_, _, rfl⟩ := reading_server_hears atRight readingRight
    rcases balanced.in_flight with some | some
    · exact some noneLeft
    · exact some noneRight
  · have opening : client_rank start.left + server_rank start.right = 2 := rfl
    simp only [weight, List.length_map] at spent
    unfold most_steps
    omega
  · obtain ⟨doneLeft, doneRight⟩ := stuck_over (client_willing setup) (server_willing setup)
      atLeft atRight balanced stuck
    exact finished_complete setup atLeft atRight doneLeft doneRight

/-- A bidirectional UDP test with two streams each way runs to its end. -/
theorem control_protocol_completes : ∃ past system,
    Run (Step ⟨.Pudp, 2, .BIDIRECTIONAL, 1, false⟩) start past system ∧ Complete system := by
  obtain ⟨past, system, run, stuck⟩ := bounded_run_ends
    fun past system run => (control_protocol ⟨.Pudp, 2, .BIDIRECTIONAL, 1, false⟩ run).2.2.1
  exact ⟨past, system, run, (control_protocol _ run).2.2.2 stuck⟩

end Runs

end Iperf.ControlExchange
