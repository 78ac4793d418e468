import Iperf.ServerLoop

/-!
The phases of the server's loop. Between two passes of any run, a server in
`CREATE_STREAMS` has a control connection and awaits another stream, and a test
that has a timer has its streams and its control connection.
-/

namespace Iperf.ServerPhases

open TestState Json Config Parameters ServerLoop Outcome
open ServerRound (raise_fd iperf_on_connect)

/-- What holds after each step of a pass. -/
structure Steady (server : Server) : Prop where
  connected : server.test.ctrl_sck = -1 ∨ 0 ≤ server.test.ctrl_sck
  created : server.test.state = CREATE_STREAMS →
    0 ≤ server.test.ctrl_sck ∧
      (server.test.protocol = .Ptcp → server.test.prot_listener = server.test.listener)
  timed : server.timer = true → 0 ≤ server.test.ctrl_sck ∧ server.test.state ≠ CREATE_STREAMS
  /-- a control connection that is gone is found by the next `select` -/
  attended : server.stale = false → server.test.state ≠ IPERF_START → 0 ≤ server.test.ctrl_sck

theorem Steady.of_same {server after : Server} (steady : Steady server)
    (test : after.test = server.test) (timer : after.timer = server.timer)
    (stale : after.stale = server.stale) : Steady after := by
  obtain ⟨connected, created, timed, attended⟩ := steady
  constructor
  · rw [test]
    exact connected
  · rw [test]
    exact created
  · rw [test, timer]
    exact timed
  · rw [test, stale]
    exact attended

/-- What holds between two passes. -/
structure Phased (server : Server) : Prop where
  steady : Steady server
  awaiting : server.test.state = CREATE_STREAMS → all_accepted server = false

/-- The server that `iperf_run_server` is called with: made anew, or reset after a test. -/
structure Fresh (server : Server) : Prop where
  unconnected : server.test.ctrl_sck = -1
  unlistening : server.test.prot_listener = -1
  untimed : server.timer = false
  streamless : server.streams = []
  unlogged : server.log = []

/-- An error ends the run, whatever it leaves behind. -/
abbrev Succeeds {Result : Type} (good : Result → Prop) : Except Server Result → Prop :=
  Ends good fun _ => True

section Connection
variable {server : Server}

@[simp] theorem close_timer (server : Server) (fd : Int32) :
    (close server fd).timer = server.timer := by
  rw [close_eq]

theorem close_stale (server : Server) (fd : Int32) : (close server fd).stale = server.stale := by
  rw [close_eq]

/-- The connection, the protocol and the timer are as before. -/
def Kept (before after : Server) : Prop :=
  after.test.ctrl_sck = before.test.ctrl_sck ∧ after.test.protocol = before.test.protocol ∧
    after.timer = before.timer

theorem kept_verify_buffers {before : Server} (kept : Kept before server) (s : Int32)
    (same : s = server.test.listener) (kernel : Listening) :
    Succeeds (fun result => Kept before result.2 ∧ result.1 = result.2.test.listener)
      (verify_buffers server s kernel) := by
  unfold verify_buffers
  split
  · exact ⟨kept, same⟩
  · trivial

theorem kept_tcp_listen (server : Server) (kernel : Listening) :
    Succeeds (fun result => Kept server result.2 ∧ result.1 = result.2.test.listener)
      (iperf_tcp_listen server kernel) := by
  unfold iperf_tcp_listen
  split
  · dsimp only
    split
    · trivial
    · split
      · trivial
      · split
        · apply kept_verify_buffers _ _ rfl
          simp [Kept, opened]
        · trivial
  · exact kept_verify_buffers ⟨rfl, rfl, rfl⟩ _ rfl _

theorem kept_listen (server : Server) (kernel : Listening) :
    Succeeds (fun result => Kept server result.2 ∧
        (server.test.protocol = .Ptcp → result.1 = result.2.test.listener))
      (listen server kernel) := by
  unfold ServerLoop.listen
  cases protocol : server.test.protocol with
  | Ptcp =>
      apply (kept_tcp_listen server kernel).imp
      · exact fun result ⟨kept, same⟩ => ⟨kept, fun _ => same⟩
      · exact fun _ _ => trivial
  | Pudp =>
      simp only [iperf_udp_listen]
      split
      · trivial
      · simp [Kept, opened]
  | Psctp =>
      simp only [iperf_sctp_listen]
      split
      · trivial
      · split
        · trivial
        · split
          · simp [Kept, opened]
          · trivial
  | Pquic =>
      simp only [iperf_quic_listen]
      split
      · trivial
      · simp [Kept]

/-- A byte that went out has become the state; without a connection nothing happens. -/
theorem send_state_rule {good : Server → Prop} (state : StateByte) (written : Bool)
    (sent : 0 ≤ server.test.ctrl_sck → good (emit (iperf_set_test_state server state) (.sent state)))
    (silent : ¬ 0 ≤ server.test.ctrl_sck → good server) :
    Succeeds good (iperf_set_send_state server state written) := by
  unfold iperf_set_send_state
  split
  · rename_i connected
    split
    · exact sent connected
    · trivial
  · rename_i unconnected
    exact silent unconnected

theorem get_parameters_keeps (features : Features) (test : iperf_test)
    (message : Option cJSON) :
    (get_parameters features test message).2.ctrl_sck = test.ctrl_sck ∧
      (get_parameters features test message).2.listener = test.listener ∧
      (get_parameters features test message).2.prot_listener = test.prot_listener ∧
      (get_parameters features test message).2.state = test.state := by
  cases message with
  | none => exact ⟨rfl, rfl, rfl, rfl⟩
  | some j =>
      obtain ⟨_, _, _, _, _, sets⟩ := read_parameters_sets features j test
      have after : (get_parameters features test (some j)).2 = read_parameters features j test := by
        unfold get_parameters
        dsimp only
        split
        · rfl
        · split <;> rfl
      rw [after, sets]
      exact ⟨rfl, rfl, rfl, rfl⟩

/-- The client is connected, and its streams are awaited. -/
structure Welcomed (before after : Server) : Prop where
  state : after.test.state = CREATE_STREAMS
  ctrl_sck : after.test.ctrl_sck = before.test.ctrl_sck
  listener : after.test.protocol = .Ptcp → after.test.prot_listener = after.test.listener
  timer : after.timer = before.timer

theorem exchange_welcomes (features : Features) (connected : 0 ≤ server.test.ctrl_sck)
    (peer : Exchange) :
    Succeeds (Welcomed server) (iperf_exchange_parameters features server peer) := by
  have refuses : ∀ server first, Succeeds (Welcomed server) (refuse first peer) := by
    intro server first
    unfold refuse
    split <;> trivial
  have keeps := (get_parameters_keeps features server.test peer.parameters).1
  unfold iperf_exchange_parameters
  dsimp only
  split
  · exact refuses _ _
  · split
    · exact refuses _ _
    · let heard := { server with test := (get_parameters features server.test peer.parameters).2 }
      have kept := kept_listen heard peer.listening
      split
      · exact refuses _ _
      · rename_i s after listened
        obtain ⟨⟨ctrl_sck, protocol, timer⟩, same⟩ := kept.of_ok listened
        have open_ : 0 ≤ after.test.ctrl_sck := by
          rw [ctrl_sck]
          exact keeps.symm ▸ connected
        apply send_state_rule
        · intro _
          refine ⟨rfl, ctrl_sck.trans keeps, fun tcp => same ?_, timer⟩
          rw [← protocol]
          exact tcp
        · exact fun unconnected => absurd open_ unconnected

theorem welcome_welcomes (features : Features) (connected : 0 ≤ server.test.ctrl_sck)
    (contact : Contact) :
    Succeeds (Welcomed server) (welcome features server contact) := by
  unfold welcome
  dsimp only
  split
  · trivial
  · let heard := { server with test := { server.test with cookie := contact.cookie } }
    let raised := { heard with test := raise_fd heard.test heard.test.ctrl_sck }
    have greeted : Succeeds (Kept server) (iperf_set_send_state raised PARAM_EXCHANGE
        contact.greeted) :=
      send_state_rule _ _ (fun _ => ⟨rfl, rfl, rfl⟩) (fun _ => ⟨rfl, rfl, rfl⟩)
    apply Ends.bind greeted
    intro after kept
    have connected : 0 ≤ after.test.ctrl_sck := kept.1.symm ▸ connected
    apply Ends.bind (exchange_welcomes features connected contact.exchange)
    rintro agreed ⟨state, ctrl_sck, listener, timer⟩
    replace ctrl_sck := ctrl_sck.trans kept.1
    replace timer := timer.trans kept.2.2
    split
    · trivial
    · by_cases mapped : contact.mapped = true
      · simp only [iperf_on_connect, mapped]
        exact ⟨state, ctrl_sck, listener, timer⟩
      · simp only [iperf_on_connect, mapped]
        exact ⟨state, ctrl_sck, listener, timer⟩

theorem steady_accept (features : Features) (steady : Steady server) (contact : Contact) :
    Succeeds Steady (iperf_accept features server contact) := by
  unfold iperf_accept
  dsimp only
  split
  · trivial
  · rename_i given
    have nonneg : 0 ≤ contact.socket := by
      simpa using given
    split
    · rename_i free
      let held := { opened server contact.socket with
        test := { (opened server contact.socket).test with ctrl_sck := contact.socket } }
      have welcomed := welcome_welcomes features (show 0 ≤ held.test.ctrl_sck from nonneg) contact
      have untimed : server.timer ≠ true := by
        intro timed
        have connected := (steady.timed timed).1
        rw [show server.test.ctrl_sck = -1 from free] at connected
        exact absurd connected (by decide)
      unfold accept_client
      dsimp only
      split
      · trivial
      · trivial
      · split
        · rename_i after result
          obtain ⟨state, ctrl_sck, listener, timer⟩ := welcomed.of_ok result
          have connected : 0 ≤ after.test.ctrl_sck := ctrl_sck ▸ nonneg
          refine ⟨.inr connected, fun _ => ⟨connected, listener⟩, fun timed => ?_,
            fun _ _ => connected⟩
          exact absurd (timer.symm.trans timed) untimed
        · trivial
    · exact steady.of_same (close_test _ _) (close_timer _ _) (close_stale _ _)

end Connection

section Control
variable {server : Server}

/-- The connection and the timer are as before, and no streams are awaited. -/
structure Moved (before after : Server) : Prop where
  ctrl_sck : after.test.ctrl_sck = before.test.ctrl_sck
  timer : after.timer = before.timer
  state : after.test.state ≠ CREATE_STREAMS

theorem Moved.steady {before after : Server} (moved : Moved before after)
    (connected : 0 ≤ before.test.ctrl_sck) : Steady after := by
  obtain ⟨ctrl_sck, timer, state⟩ := moved
  rw [← ctrl_sck] at connected
  constructor
  · exact .inr connected
  · exact fun creating => absurd creating state
  · exact fun _ => ⟨connected, state⟩
  · exact fun _ _ => connected

theorem moved_set_send_state {before : Server} (moved : Moved before server) (state : StateByte)
    (written : Bool) (other : state ≠ CREATE_STREAMS) :
    Ends (Moved before) (Moved before) (iperf_set_send_state server state written) := by
  unfold iperf_set_send_state
  split
  · split
    · exact ⟨moved.ctrl_sck, moved.timer, other⟩
    · exact ⟨moved.ctrl_sck, moved.timer, other⟩
  · exact moved

theorem moved_close_streams {before : Server} (moved : Moved before server) :
    Moved before (close_streams server) := by
  rw [close_streams_eq]
  exact ⟨moved.ctrl_sck, moved.timer, moved.state⟩

theorem moved_announce_results {before : Server} (moved : Moved before server)
    (message : Message) :
    Ends (Moved before) (Moved before) (announce_results server message) := by
  apply announce_rule
  · exact moved_set_send_state moved EXCHANGE_RESULTS message.announced (by decide)
  · rintro server ⟨ctrl_sck, timer, state⟩
    unfold iperf_exchange_results
    dsimp only
    split
    · exact ⟨ctrl_sck, timer, state⟩
    · exact ⟨ctrl_sck, timer, state⟩

theorem moved_handle_test_end {before : Server} (moved : Moved before server)
    (message : Message) :
    Ends (Moved before) (Moved before) (handle_test_end server message) := by
  have marked : Moved before
      (emit { server with test := { server.test with done := 1 } } .statistics) :=
    ⟨moved.ctrl_sck, moved.timer, moved.state⟩
  apply Ends.bind (moved_announce_results (moved_close_streams marked) message)
  rintro server ⟨ctrl_sck, timer, state⟩
  have printed : Moved before (emit { server with summary_printed := true } .summary) :=
    ⟨ctrl_sck, timer, state⟩
  apply Ends.bind (ends_unless_quic (moved_set_send_state printed _ _ (by decide)))
  rintro server ⟨ctrl_sck, timer, state⟩
  split
  · exact ⟨ctrl_sck, timer, show IPERF_DONE ≠ CREATE_STREAMS by decide⟩
  · exact ⟨ctrl_sck, timer, state⟩

/-- No byte makes the server await streams. -/
theorem moved_handle_message (server : Server) (message : Message) :
    Succeeds (Moved server) (iperf_handle_message_server server message) := by
  have finished : IPERF_DONE ≠ CREATE_STREAMS := by decide
  have others : TEST_START ≠ CREATE_STREAMS ∧ TEST_END ≠ CREATE_STREAMS ∧
      CLIENT_TERMINATE ≠ CREATE_STREAMS := by decide
  obtain ⟨starts, ends, terminates⟩ := others
  unfold iperf_handle_message_server
  split
  · trivial
  · exact ⟨rfl, rfl, finished⟩
  · rename_i state _
    dsimp only
    split
    · rename_i start
      subst start
      exact ⟨rfl, rfl, starts⟩
    · split
      · rename_i test_end
        subst test_end
        have moved : Moved server (iperf_set_test_state server TEST_END) := ⟨rfl, rfl, ends⟩
        exact (moved_handle_test_end moved message).imp (fun _ => id) (fun _ _ => trivial)
      · split
        · rename_i done
          subst done
          exact ⟨rfl, rfl, finished⟩
        · split
          · rename_i terminate
            subst terminate
            have moved : Moved server (emit
                (failed (iperf_set_test_state server CLIENT_TERMINATE) .IECLIENTTERM) .report) :=
              ⟨rfl, rfl, terminates⟩
            obtain ⟨ctrl_sck, timer, _⟩ := moved_close_streams moved
            exact ⟨ctrl_sck, timer, finished⟩
          · trivial

end Control

section Streams
variable {before server : Server}

/-- What accepting a stream leaves. A UDP test gets another `prot_listener`. -/
structure Serving (before after : Server) : Prop where
  ctrl_sck : after.test.ctrl_sck = before.test.ctrl_sck
  state : after.test.state = before.test.state
  protocol : after.test.protocol = before.test.protocol
  timer : after.timer = before.timer
  listener : after.test.listener = before.test.listener
  prot_listener : before.test.protocol ≠ .Pudp →
    after.test.prot_listener = before.test.prot_listener

theorem serving_refl (server : Server) : Serving server server :=
  ⟨rfl, rfl, rfl, rfl, rfl, fun _ => rfl⟩

theorem Serving.of_same {after : Server} (serving : Serving before server)
    (test : after.test = server.test) (timer : after.timer = server.timer) :
    Serving before after := by
  obtain ⟨ctrl_sck, state, protocol, timed, listener, prot_listener⟩ := serving
  constructor
  · rw [test, ctrl_sck]
  · rw [test, state]
  · rw [test, protocol]
  · rw [timer, timed]
  · rw [test, listener]
  · rw [test]
    exact prot_listener

theorem Serving.steady (serving : Serving before server) (steady : Steady before)
    (connected : 0 ≤ before.test.ctrl_sck) : Steady server := by
  obtain ⟨ctrl_sck, state, protocol, timer, listener, prot_listener⟩ := serving
  constructor
  · rw [ctrl_sck]
    exact steady.connected
  · rw [ctrl_sck, state, protocol, listener]
    intro creating
    obtain ⟨connected, same⟩ := steady.created creating
    refine ⟨connected, fun tcp => ?_⟩
    rw [prot_listener (by rw [tcp]; decide)]
    exact same tcp
  · rw [ctrl_sck, state, timer]
    exact steady.timed
  · rw [ctrl_sck]
    exact fun _ _ => connected

/-- With the descriptor that comes along. -/
abbrev serving_with (before : Server) (result : Int32 × Server) : Prop := Serving before result.2

theorem serving_tcp_accept (serving : Serving before server) (contact : StreamContact) :
    Succeeds (serving_with before) (iperf_tcp_accept server contact) := by
  unfold iperf_tcp_accept
  dsimp only
  split
  · trivial
  · split
    · trivial
    · split
      · exact serving.of_same rfl rfl
      · exact serving.of_same (close_test _ _) (close_timer _ _)

theorem serving_sctp_accept (serving : Serving before server) (contact : StreamContact) :
    Succeeds (serving_with before) (iperf_sctp_accept server contact) := by
  unfold iperf_sctp_accept
  dsimp only
  split
  · trivial
  · split
    · trivial
    · split
      · exact serving.of_same rfl rfl
      · split
        · exact serving.of_same (close_test _ _) (close_timer _ _)
        · trivial

theorem serving_check_buffers (serving : Serving before server) (contact : StreamContact) :
    Succeeds (Serving before) (check_buffers server contact) := by
  obtain ⟨ctrl_sck, state, protocol, timer, listener, prot_listener⟩ := serving
  unfold check_buffers
  split
  · trivial
  · split
    · dsimp only
      split
      · trivial
      · exact ⟨ctrl_sck, state, protocol, timer, listener, prot_listener⟩
    · exact ⟨ctrl_sck, state, protocol, timer, listener, prot_listener⟩

theorem serving_udp_accept (serving : Serving before server) (contact : StreamContact)
    (udp : before.test.protocol = .Pudp) :
    Succeeds (serving_with before) (iperf_udp_accept server contact) := by
  unfold iperf_udp_accept
  dsimp only
  split
  · trivial
  · apply Ends.bind (serving_check_buffers serving contact)
    rintro server ⟨ctrl_sck, state, protocol, timer, listener, _⟩
    split
    · trivial
    · split
      · exact ⟨ctrl_sck, state, protocol, timer, listener, fun other => absurd udp other⟩
      · trivial

theorem serving_accept (serving : Serving before server) (contact : StreamContact) :
    Succeeds (serving_with before) (accept server contact) := by
  unfold accept
  cases protocol : server.test.protocol with
  | Ptcp => exact serving_tcp_accept serving contact
  | Pudp => exact serving_udp_accept serving contact (serving.protocol.symm.trans protocol)
  | Psctp => exact serving_sctp_accept serving contact
  | Pquic => trivial

theorem serving_tcp_options (features : Features) (serving : Serving before server) (s : Int32)
    (contact : StreamContact) :
    Succeeds (Serving before) (set_tcp_options features server s contact) := by
  unfold set_tcp_options
  split
  · exact serving
  · split
    · trivial
    · split
      · exact serving
      · split
        · trivial
        · obtain ⟨ctrl_sck, state, protocol, timer, listener, prot_listener⟩ := serving
          exact ⟨ctrl_sck, state, protocol, timer, listener, prot_listener⟩

theorem serving_next_flag (serving : Serving before server) {flag : Bool} {after : Server}
    (next : next_flag server = some (flag, after)) : Serving before after := by
  obtain ⟨receiving, sending, rfl⟩ := next_flag_counts next
  exact serving.of_same rfl rfl

theorem serving_new_stream (serving : Serving before server) (s : Int32) (sender : Bool)
    (created : Option ServerErrno) :
    Succeeds (Serving before) (iperf_new_stream server s sender created) := by
  unfold iperf_new_stream
  split
  · exact serving.of_same rfl rfl
  · trivial

theorem serving_common_sockopts (serving : Serving before server) (s : Int32)
    (contact : StreamContact) :
    Succeeds (Serving before) (iperf_common_sockopts server s contact) := by
  unfold iperf_common_sockopts
  split
  · exact serving
  · split
    · trivial
    · split
      · exact serving
      · trivial

theorem serving_accept_stream (features : Features) (server : Server) (contact : StreamContact) :
    Succeeds (Serving server) (accept_stream features server contact) := by
  apply Ends.bind (serving_accept (serving_refl server) contact)
  rintro ⟨s, after⟩ serving
  apply Ends.bind (serving_common_sockopts serving s contact)
  intro after serving
  split
  · exact serving
  · apply Ends.bind (serving_tcp_options features serving s contact)
    intro after serving
    unfold add_stream
    split
    · exact serving
    · rename_i next
      apply Ends.bind (serving_new_stream (serving_next_flag serving next) s _ _)
      rintro after ⟨ctrl_sck, state, protocol, timer, listener, prot_listener⟩
      exact ⟨ctrl_sck, state, protocol, timer, listener, prot_listener⟩

theorem serving_drain (serving : Serving before server) (queued : List StreamContact) :
    Succeeds (Serving before) (drain server queued) := by
  apply drain_rule _ serving
  intro server serving contact flag after next
  exact serving_new_stream (serving_next_flag serving next) _ _ _

theorem serving_prot_listener (features : Features) (server : Server) (event : Pass)
    (ready : List Int32) :
    Succeeds (Serving server) (serve_prot_listener features server event ready) := by
  unfold serve_prot_listener
  split
  · split
    · exact serving_drain (serving_refl server) event.queued
    · exact serving_accept_stream features server event.stream
  · exact serving_refl server

end Streams

section Start
variable {server : Server}

/-- The test runs, or `cleanup_server` has been called while it was starting. -/
structure Launched (server : Server) : Prop where
  connected : server.test.ctrl_sck = -1 ∨ 0 ≤ server.test.ctrl_sck
  state : server.test.state = TEST_RUNNING
  timed : server.timer = true → 0 ≤ server.test.ctrl_sck
  attended : server.stale = false → 0 ≤ server.test.ctrl_sck

theorem Launched.steady (launched : Launched server) : Steady server := by
  have apart : TEST_RUNNING ≠ CREATE_STREAMS := by decide
  obtain ⟨connected, state, timed, attended⟩ := launched
  constructor
  · exact connected
  · rw [state]
    exact fun creating => absurd creating apart
  · rw [state]
    exact fun set => ⟨timed set, apart⟩
  · exact fun watched _ => attended watched

theorem cleared_cases (fd : Int32) : cleared fd = -1 ∨ ¬ 0 ≤ fd ∧ cleared fd = fd := by
  unfold cleared
  split
  · exact .inl rfl
  · rename_i negative
    exact .inr ⟨negative, rfl⟩

theorem launched_pthread_attr (launched : Launched server) (succeeds : Bool)
    (errno : ServerErrno) (counted : Bool) :
    Launched (pthread_attr server succeeds errno counted) := by
  unfold pthread_attr
  split
  · exact launched
  · rw [cleanup_server_eq]
    constructor
    · rcases cleared_cases server.test.ctrl_sck with gone | ⟨negative, same⟩
      · exact .inl gone
      · rcases launched.connected with none | connected
        · exact .inl (same.trans none)
        · exact absurd connected negative
    · exact launched.state
    · exact fun set => absurd set Bool.false_ne_true
    · intro watched
      simp only [Bool.or_eq_false_iff, decide_eq_false_iff_not] at watched
      exact absurd (launched.attended watched.1) watched.2

theorem launched_start_threads (launched : Launched server) (start : Start) (counted : Bool) :
    Succeeds Launched (start_threads server start counted) := by
  have begun := launched_pthread_attr launched start.attr_init .IEPTHREADATTRINIT counted
  unfold start_threads
  dsimp only
  split
  · trivial
  · exact launched_pthread_attr begun _ _ _

theorem connected_close_listener (connected : 0 ≤ server.test.ctrl_sck) (start : Start) :
    Succeeds (fun after => 0 ≤ after.test.ctrl_sck) (close_listener server start) := by
  unfold close_listener
  dsimp only
  split
  · exact connected
  · split
    · split
      · trivial
      · exact connected
    · exact connected
  · exact connected

theorem connected_create_timers (connected : 0 ≤ server.test.ctrl_sck) (start : Start) :
    Succeeds (fun after => 0 ≤ after.test.ctrl_sck) (create_server_timers server start) := by
  unfold create_server_timers
  dsimp only
  split_ifs
  all_goals first | exact connected | trivial

theorem launched_start_test (connected : 0 ≤ server.test.ctrl_sck) (start : Start)
    (counted : Bool) : Succeeds Launched (start_test server start counted) := by
  apply Ends.bind (connected_close_listener connected start)
  intro server connected
  split
  · trivial
  · have started : Succeeds (fun after => 0 ≤ after.test.ctrl_sck)
        (iperf_set_send_state server TEST_START start.started) :=
      send_state_rule _ _ (fun _ => connected) (fun _ => connected)
    apply Ends.bind started
    intro server connected
    split
    · trivial
    · apply Ends.bind (connected_create_timers connected start)
      intro server connected
      have running : Succeeds Launched
          (iperf_set_send_state server TEST_RUNNING start.running) :=
        send_state_rule _ _
          (fun _ => ⟨.inr connected, rfl, fun _ => connected, fun _ => connected⟩)
          (fun unconnected => absurd connected unconnected)
      apply Ends.bind running
      intro server launched
      exact launched_start_threads launched start counted

end Start

section Roster
variable {server : Server}

/-- The streams of a test, and how many there are of how many. -/
def roster (server : Server) : List Stream × Int32 × Int32 × Int32 × Int32 :=
  (server.streams, server.streams_to_rec, server.streams_to_send, server.rec_streams_accepted,
    server.send_streams_accepted)

theorem roster_set_send_state (server : Server) (state : StateByte) (written : Bool) :
    Ends (roster · = roster server) (roster · = roster server)
      (iperf_set_send_state server state written) := by
  unfold iperf_set_send_state
  dsimp only
  split
  · split
    · rfl
    · rfl
  · rfl

theorem roster_close_listener (server : Server) (start : Start) :
    Ends (roster · = roster server) (roster · = roster server) (close_listener server start) := by
  unfold close_listener
  dsimp only
  rw [close_eq, close_eq]
  split
  · rfl
  · split
    · split
      · rfl
      · rfl
    · rfl
  · rfl

theorem roster_create_timers (server : Server) (start : Start) :
    Ends (roster · = roster server) (roster · = roster server)
      (create_server_timers server start) := by
  unfold create_server_timers
  dsimp only
  split_ifs
  all_goals rfl

variable {Holds : Server → Prop}

/-- Of the steps that start a test, only `cleanup_server` touches the roster. -/
theorem start_test_keeps
    (frame : ∀ server after, roster after = roster server → Holds server → Holds after)
    (cleanup : ∀ server counted, Holds server → Holds (cleanup_server server counted))
    (holds : Holds server) (start : Start) (counted : Bool) :
    Ends Holds Holds (start_test server start counted) := by
  have framed {server : Server} (holds : Holds server) {next : Except Server Server}
      (same : Ends (roster · = roster server) (roster · = roster server) next) :
      Ends Holds Holds next :=
    same.imp (fun after same => frame server after same holds)
      (fun after same => frame server after same holds)
  have cleaned {server : Server} (holds : Holds server) (succeeds : Bool) (errno : ServerErrno) :
      Holds (pthread_attr server succeeds errno counted) := by
    unfold pthread_attr
    split
    · exact holds
    · exact cleanup _ _ (frame server _ rfl holds)
  apply Ends.bind (framed holds (roster_close_listener server start))
  intro closed holds
  split
  · exact frame closed _ rfl holds
  · apply Ends.bind (framed holds (roster_set_send_state closed TEST_START start.started))
    intro told holds
    split
    · exact frame told _ rfl holds
    · apply Ends.bind (framed holds (roster_create_timers told start))
      intro timed holds
      apply Ends.bind (framed holds (roster_set_send_state timed TEST_RUNNING start.running))
      intro running holds
      have begun := cleaned holds start.attr_init .IEPTHREADATTRINIT
      unfold start_threads
      dsimp only
      split
      · exact frame (pthread_attr running start.attr_init .IEPTHREADATTRINIT counted) _ rfl begun
      · exact cleaned begun _ _

end Roster

section Passes
variable (features : Features) {server : Server}

theorem steady_serve_listener (steady : Steady server) (event : Pass) (ready : List Int32) :
    Succeeds (fun result => Steady result.2) (serve_listener features server event ready) := by
  unfold serve_listener
  split
  · apply Ends.bind (steady_accept features steady event.contact)
    intro after steady
    exact steady.of_same rfl rfl rfl
  · exact steady

theorem steady_serve_control (steady : Steady server) (event : Pass) (ready : List Int32) :
    Succeeds Steady (serve_control server event ready) := by
  unfold serve_control
  split
  · rename_i set
    simp only [FD_ISSET, decide_eq_true_eq] at set
    have moved := moved_handle_message server event.message
    exact moved.imp (fun _ moved => moved.steady set.1) (fun _ => id)
  · exact steady

theorem phased_serve_streams (steady : Steady server) (event : Pass) (ready : List Int32) :
    Succeeds Phased (serve_streams features server event ready) := by
  unfold serve_streams
  split
  · rename_i elsewhere
    exact ⟨steady, fun creating => absurd creating elsewhere⟩
  · rename_i creating
    apply Ends.bind (serving_prot_listener features server event ready)
    intro after serving
    have before := (steady.created (not_not.mp creating)).1
    have served := serving.steady steady before
    split
    · have connected : 0 ≤ after.test.ctrl_sck := serving.ctrl_sck ▸ before
      apply (launched_start_test connected event.start event.counted).imp _ (fun _ => id)
      intro final launched
      refine ⟨launched.steady, fun creating => ?_⟩
      rw [launched.state] at creating
      exact absurd creating (by decide)
    · rename_i missing
      exact ⟨served, fun _ => Bool.eq_false_iff.mpr missing⟩

theorem phased_serve (steady : Steady server) (event : Pass) (ready : List Int32) :
    Succeeds Phased (serve features server event ready) := by
  apply Ends.bind (steady_serve_listener features steady event ready)
  rintro ⟨ready, after⟩ steady
  apply Ends.bind (steady_serve_control steady event ready)
  intro after steady
  exact phased_serve_streams features steady event ready

/-- What holds of a server that is still in the loop. -/
def InLoop (Holds : Server → Prop) : Status → Prop
  | .loop server => Holds server
  | .returned _ => True

/-- The timer ends the test, and unless it is a QUIC test its control connection. -/
theorem server_timer_proc_cases (server : Server) :
    (server_timer_proc server).timer = false ∧
      ((server_timer_proc server).test.state = server.test.state) ∧
      ((server_timer_proc server).test.ctrl_sck = server.test.ctrl_sck ∧
          (server_timer_proc server).stale = server.stale ∨
        (server_timer_proc server).test.ctrl_sck = -1 ∧
          (server_timer_proc server).stale = (server.stale || decide (0 ≤ server.test.ctrl_sck))) := by
  unfold server_timer_proc
  dsimp only
  split
  · exact ⟨rfl, rfl, .inl ⟨rfl, rfl⟩⟩
  · split
    · exact ⟨rfl, rfl, .inl ⟨rfl, rfl⟩⟩
    · refine ⟨?_, ?_, .inr ⟨?_, ?_⟩⟩
      · rw [close_ctrl_sck, close_timer, print_summary]
        split <;> rfl
      · rw [close_ctrl_sck_test, print_summary_test]
      · rw [close_ctrl_sck_test]
      · rw [close_ctrl_sck, print_summary_test, print_summary]
        dsimp only
        split <;> rfl

theorem phased_server_timer_proc (phased : Phased server) (set : server.timer = true) :
    Phased (server_timer_proc server) := by
  obtain ⟨connected, elsewhere⟩ := phased.steady.timed set
  obtain ⟨timer, state, change⟩ := server_timer_proc_cases server
  have awaited : (server_timer_proc server).test.state ≠ CREATE_STREAMS := state ▸ elsewhere
  refine ⟨⟨?_, fun creating => absurd creating awaited, fun set => ?_, ?_⟩,
    fun creating => absurd creating awaited⟩
  · rcases change with ⟨same, _⟩ | ⟨gone, _⟩
    · exact .inr (same ▸ connected)
    · exact .inl gone
  · rw [timer] at set
    cases set
  · rcases change with ⟨same, _⟩ | ⟨_, stale⟩
    · exact fun _ _ => same ▸ connected
    · intro watched
      rw [stale, Bool.or_eq_false_iff, decide_eq_false_iff_not] at watched
      exact absurd connected watched.2

theorem phased_tmr_run (phased : Phased server) (event : Pass) :
    InLoop Phased (tmr_run server event) := by
  unfold tmr_run
  by_cases due : server.timer ∧ event.timer_due
  · rw [if_pos due]
    exact phased_server_timer_proc phased due.1
  · rw [if_neg due]
    exact phased

theorem phased_expire (phased : Phased server) (event : Pass) (idle : Bool) :
    InLoop Phased (expire server event idle) := by
  unfold expire
  split
  · split
    · trivial
    · split
      · trivial
      · exact phased_tmr_run phased event
  · exact phased_tmr_run phased event

theorem phased_pass (phased : Phased server) (event : Pass) :
    InLoop Phased (pass features server event) := by
  unfold ServerLoop.pass
  split
  · split <;> trivial
  · split
    · trivial
    · split
      · trivial
      · split
        · trivial
        · exact phased_tmr_run phased event
        · exact phased_expire phased event _
        · rename_i descriptors _
          have served := phased_serve features phased.steady event descriptors
          split
          · rename_i result
            exact phased_tmr_run (served.of_ok result) event
          · trivial

theorem phased_listen (fresh : Fresh server) (listener : Int32) (counted : Bool) :
    InLoop Phased (iperf_server_listen server listener counted) := by
  have apart : IPERF_START ≠ CREATE_STREAMS := by decide
  unfold iperf_server_listen
  dsimp only
  split
  · trivial
  · refine ⟨⟨.inl fresh.unconnected, fun creating => absurd creating apart, ?_, ?_⟩,
      fun creating => absurd creating apart⟩
    · intro set
      exact absurd (fresh.untimed.symm.trans set) (by decide)
    · exact fun _ moved => absurd rfl moved

/-- What a pass keeps holds in every state that any run reaches. -/
theorem run_keeps {Holds : Server → Prop}
    (kept : ∀ server event, Holds server → InLoop Holds (pass features server event))
    {listener : Int32} {counted : Bool}
    (begins : InLoop Holds (iperf_server_listen server listener counted)) (events : List Pass) :
    InLoop Holds (iperf_run_server features server listener counted events) := by
  unfold iperf_run_server
  generalize iperf_server_listen server listener counted = status at begins ⊢
  induction events generalizing status with
  | nil => exact begins
  | cons event rest ih =>
      apply ih
      cases status with
      | loop server => exact kept server event begins
      | returned server => trivial

/-- The phases hold in every state that any run reaches. -/
theorem run_phased (fresh : Fresh server) (listener : Int32) (counted : Bool)
    (events : List Pass) :
    InLoop Phased (iperf_run_server features server listener counted events) := by
  apply run_keeps
  · exact fun server event phased => phased_pass features phased event
  · exact phased_listen fresh listener counted

end Passes

end Iperf.ServerPhases
