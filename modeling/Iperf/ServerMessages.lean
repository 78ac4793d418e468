import Iperf.ServerLoop

/-!
What the server makes of the control bytes. The byte is read into the state, and
the handler looks at nothing else: each byte has its answer in every state.
-/

namespace Iperf.ServerMessages

open TestState Json Config ServerLoop Outcome

/-- The bytes that the handler knows. -/
def known : List StateByte := [TEST_START, TEST_END, IPERF_DONE, CLIENT_TERMINATE]

/-- The answer to a test that ends, with the results exchanged. -/
def farewell : List Effect :=
  [.statistics, .sent EXCHANGE_RESULTS, .results_exchanged, .summary, .sent DISPLAY_RESULTS]

/-- The client was told, and its results came. -/
def Concluded (server : Server) (message : Message) : Prop :=
  0 ≤ server.test.ctrl_sck ∧ message.announced ∧ message.exchanged = none ∧ message.displayed

def Ended (after : Server) : Prop := after.test.state = IPERF_DONE

/-- The answer to a message, whatever the state was before it. -/
structure Answered (before : Server) (message : Message) (outcome : Except Server Server) :
    Prop where
  started : message.byte = .received TEST_START →
    outcome = .ok (iperf_set_test_state before TEST_START)
  counted : message.byte = .received TEST_END →
    Ends (fun after => before.effects ++ [.statistics] <+: after.effects ∧ after.summary_printed)
      (fun after => before.effects ++ [.statistics] <+: after.effects) outcome
  concluded : message.byte = .received TEST_END → Concluded before message →
    Ends (fun after => after.effects = before.effects ++ farewell) (fun _ => False) outcome
  finished : message.byte = .received IPERF_DONE →
    outcome = .ok (iperf_set_test_state before IPERF_DONE)
  terminated : message.byte = .received CLIENT_TERMINATE →
    Ends (fun after => Ended after ∧ after.i_errno = some .IECLIENTTERM ∧
      after.effects = before.effects ++ [.report]) (fun _ => False) outcome
  refused : ∀ state, message.byte = .received state → state ∉ known →
    Ends (fun _ => False) (fun after => after.i_errno = some .IEMESSAGE ∧
      after.effects = before.effects ∧ after.summary_printed = before.summary_printed) outcome
  hung_up : message.byte = .closed →
    Ends (fun after => Ended after ∧ after.i_errno = some .IECTRLCLOSE ∧
      after.effects = before.effects) (fun _ => False) outcome

section Effects
variable {server : Server}

theorem close_streams_same (server : Server) :
    (close_streams server).effects = server.effects ∧
      (close_streams server).i_errno = server.i_errno := by
  rw [close_streams_eq]
  exact ⟨rfl, rfl⟩

/-- Effects are only added. -/
def Since (effects : List Effect) (server : Server) : Prop := effects <+: server.effects

theorem since_emit {effects : List Effect} (since : Since effects server) (effect : Effect) :
    Since effects (emit server effect) :=
  since.trans (List.prefix_append server.effects [effect])

theorem since_set_send_state {effects : List Effect} (since : Since effects server)
    (state : StateByte) (written : Bool) :
    Ends (Since effects) (Since effects) (iperf_set_send_state server state written) := by
  unfold iperf_set_send_state
  split
  · split
    · exact since_emit since _
    · exact since_emit since _
  · exact since

theorem since_announce_results {effects : List Effect} (since : Since effects server)
    (message : Message) :
    Ends (Since effects) (Since effects) (announce_results server message) := by
  apply announce_rule
  · exact since_set_send_state since EXCHANGE_RESULTS message.announced
  · intro server since
    have told := since_emit since .results_exchanged
    unfold iperf_exchange_results
    dsimp only
    split
    · exact told
    · exact told

/-- The summary is marked as printed, and stays so. -/
def Printed (effects : List Effect) (server : Server) : Prop :=
  Since effects server ∧ server.summary_printed = true

theorem printed_set_send_state {effects : List Effect} (printed : Printed effects server)
    (state : StateByte) (written : Bool) :
    Ends (Printed effects) (Printed effects) (iperf_set_send_state server state written) := by
  unfold iperf_set_send_state
  split
  · split
    · exact ⟨since_emit printed.1 _, printed.2⟩
    · exact ⟨since_emit printed.1 _, printed.2⟩
  · exact printed

theorem test_end_counted (server : Server) (message : Message) :
    Ends (Printed (server.effects ++ [.statistics])) (Since (server.effects ++ [.statistics]))
      (handle_test_end server message) := by
  let marked := emit { server with test := { server.test with done := 1 } } .statistics
  have counted : Since (server.effects ++ [.statistics]) (close_streams marked) := by
    rw [Since, (close_streams_same marked).1]
    exact List.prefix_refl _
  apply Ends.bind (since_announce_results counted message)
  intro server since
  have marked : Since (_ ++ [.statistics]) { server with summary_printed := true } := since
  have printed := printed_set_send_state ⟨since_emit marked .summary, rfl⟩ DISPLAY_RESULTS
    message.displayed
  have shown := ends_unless_quic printed
  apply Ends.bind (shown.imp (fun _ => id) (fun _ printed => printed.1))
  intro server printed
  split
  · exact printed
  · exact printed

/-- These effects, and a client that can be told more. -/
def Told (effects : List Effect) (server : Server) : Prop :=
  server.effects = effects ∧ 0 ≤ server.test.ctrl_sck

theorem told_emit {effects : List Effect} (told : Told effects server) (effect : Effect) :
    Told (effects ++ [effect]) (emit server effect) :=
  ⟨congrArg (· ++ [effect]) told.1, told.2⟩

theorem told_set_send_state {effects : List Effect} (told : Told effects server)
    (state : StateByte) {written : Bool} (complete : written = true) :
    Ends (Told (effects ++ [.sent state])) (fun _ => False)
      (iperf_set_send_state server state written) := by
  have sent : Told (effects ++ [.sent state])
      (emit (iperf_set_test_state server state) (.sent state)) :=
    ⟨congrArg (· ++ [Effect.sent state]) told.1, told.2⟩
  simpa [iperf_set_send_state, told.2, complete] using sent

theorem succeeds_unless_quic {good : Server → Prop} {first : Except Server Server}
    (succeeds : Ends good (fun _ => False) first) :
    Ends good (fun _ => False) (unless_quic first) := by
  cases first with
  | ok server => exact succeeds
  | error server => exact succeeds.elim

theorem told_announce_results {effects : List Effect} (told : Told effects server)
    {message : Message} (announced : message.announced = true) (exchanged : message.exchanged = none) :
    Ends (Told (effects ++ [.sent EXCHANGE_RESULTS] ++ [.results_exchanged])) (fun _ => False)
      (announce_results server message) := by
  have announcement := told_set_send_state told EXCHANGE_RESULTS announced
  unfold announce_results
  split
  · rename_i sent
    apply succeeds_unless_quic
    simp only [iperf_exchange_results, exchanged]
    exact told_emit (announcement.of_ok sent) .results_exchanged
  · rename_i sent
    exact (announcement.of_error sent).elim

theorem test_end_concluded {message : Message} (concluded : Concluded server message) :
    Ends (fun after => after.effects = server.effects ++ farewell) (fun _ => False)
      (handle_test_end server message) := by
  obtain ⟨connected, announced, exchanged, displayed⟩ := concluded
  let marked := emit { server with test := { server.test with done := 1 } } .statistics
  have counted : Told (server.effects ++ [.statistics]) (close_streams marked) := by
    rw [Told, (close_streams_same marked).1, close_streams_test]
    exact ⟨rfl, connected⟩
  apply Ends.bind (told_announce_results counted announced exchanged)
  intro server told
  have printed : Told _ { server with summary_printed := true } := told
  have shown := told_set_send_state (told_emit printed .summary) DISPLAY_RESULTS displayed
  apply Ends.bind (succeeds_unless_quic shown)
  intro server told
  have all : server.effects = _ := told.1
  split
  · simpa [farewell, iperf_set_test_state] using all
  · simpa [farewell] using all

theorem handled_answered (before : Server) (message : Message) :
    Answered before message (iperf_handle_message_server before message) := by
  have counted := test_end_counted (iperf_set_test_state before TEST_END) message
  have finished : IPERF_DONE ≠ TEST_END ∧ IPERF_DONE ≠ TEST_START := by decide
  have stopped : CLIENT_TERMINATE ≠ TEST_END ∧ CLIENT_TERMINATE ≠ TEST_START ∧
      CLIENT_TERMINATE ≠ IPERF_DONE := by decide
  have apart : TEST_END ≠ TEST_START := by decide
  unfold iperf_handle_message_server
  constructor
  case started =>
    intro byte
    simp [byte]
  case counted =>
    intro byte
    simp only [byte]
    rw [if_neg apart, if_pos trivial]
    exact counted
  case concluded =>
    intro byte concluded
    have answer := test_end_concluded
      (show Concluded (iperf_set_test_state before TEST_END) message from concluded)
    simp only [byte]
    rw [if_neg apart, if_pos trivial]
    exact answer
  case finished =>
    intro byte
    simp [byte, finished]
  case terminated =>
    intro byte
    have same := close_streams_same
      (emit (failed (iperf_set_test_state before CLIENT_TERMINATE) .IECLIENTTERM) .report)
    simpa [byte, stopped, Ended, iperf_set_test_state, emit, failed] using same.symm
  case refused =>
    intro state byte unknown
    simp only [known, List.mem_cons, not_or] at unknown
    simp [byte, unknown, failed, iperf_set_test_state]
  case hung_up =>
    intro byte
    simp [byte, Ended, iperf_set_test_state, failed]

end Effects

/-- A message with the server it reached, and what became of the server. -/
structure Turn where
  before : Server
  message : Message
  outcome : Except Server Server

/-- The client's messages one after the other, until the handler gives up. -/
def dialogue (server : Server) : List Message → List Turn
  | [] => []
  | message :: rest =>
      let outcome := iperf_handle_message_server server message
      ⟨server, message, outcome⟩ ::
        match outcome with
        | .ok after => dialogue after rest
        | .error _ => []

/-- Every byte of every sequence is answered as it would be in any other state. -/
theorem control_bytes_answered (server : Server) (messages : List Message) :
    ∀ turn ∈ dialogue server messages, Answered turn.before turn.message turn.outcome := by
  induction messages generalizing server with
  | nil => simp [dialogue]
  | cons message rest ih =>
      intro turn member
      rcases List.mem_cons.mp member with first | later
      · subst first
        exact handled_answered server message
      · cases outcome : iperf_handle_message_server server message with
        | error after => simp [outcome] at later
        | ok after =>
            simp only [outcome] at later
            exact ih after turn later

theorem control_bytes_answered_sample :
    let message := message_sample (.received TEST_END)
    Answered early_server message (iperf_handle_message_server early_server message) :=
  control_bytes_answered early_server [message_sample (.received TEST_END)]
    ⟨early_server, message_sample (.received TEST_END), _⟩ List.mem_cons_self

def left_by : Except Server Server → Server
  | .ok server | .error server => server

/-- While the streams are awaited, `TEST_END` brings statistics, results and a summary, and
`TEST_START` becomes the state. -/
theorem control_bytes_answered_counterexample :
    let ended := iperf_handle_message_server early_server (message_sample (.received TEST_END))
    let started := iperf_handle_message_server early_server (message_sample (.received TEST_START))
    early_server.test.state = CREATE_STREAMS ∧
      (left_by ended).effects = early_server.effects ++ farewell ∧
      (left_by started).test.state = TEST_START := by
  decide +kernel

end Iperf.ServerMessages
