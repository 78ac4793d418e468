import Iperf.MachineWords
import Iperf.ServerLoop

/-!
The bitrate limit where the test is admitted. The number of streams and the rate
come from the client, and their product is taken modulo 2^64.
-/

namespace Iperf.ServerAdmission

open TestState Json Config Parameters ServerLoop Outcome

/-- The rate that all streams together are asked to reach. -/
def requested (num_streams : Int32) (rate : UInt64) (mode : Mode) : Int :=
  num_streams.toInt * rate.toNat * (if mode = .BIDIRECTIONAL then 2 else 1)

def requested_by (test : iperf_test) : Int :=
  requested test.num_streams test.settings.rate test.mode

/-- The rate that is compared with the limit is the remainder of the one requested. -/
theorem total_requested_rate_wraps (test : iperf_test) :
    ((total_requested_rate test).toNat : Int) = requested_by test % 2 ^ 64 := by
  have streams := MachineWords.widened_toInt test.num_streams
  have factor : (((if test.mode = .BIDIRECTIONAL then 2 else 1 : UInt64).toNat : Nat) : Int) =
      if test.mode = .BIDIRECTIONAL then 2 else 1 := by
    split <;> rfl
  unfold total_requested_rate requested_by requested
  rw [UInt64.toNat_mul, UInt64.toNat_mul]
  push_cast
  rw [factor, streams]
  -- the remainders inside the product make no difference
  simp only [Int.mul_emod, Int.emod_emod, Int.reducePow]

def test_starts (server : Server) : Nat := server.effects.count (.sent TEST_START)

/-- No `TEST_START` has been sent since, and the limit is the same. -/
def Quiet (base server : Server) : Prop :=
  test_starts server = test_starts base ∧ server.bitrate_limit = base.bitrate_limit

section Quiet
variable {base server : Server}

theorem quiet_refl (server : Server) : Quiet server server := ⟨rfl, rfl⟩

/-- Only the effects and the limit count. -/
theorem Quiet.of_same {after : Server} (quiet : Quiet base server)
    (effects : after.effects = server.effects)
    (limit : after.bitrate_limit = server.bitrate_limit) : Quiet base after := by
  unfold Quiet test_starts
  rw [effects, limit]
  exact quiet

theorem quiet_emit (quiet : Quiet base server) (effect : Effect)
    (differs : effect ≠ .sent TEST_START) : Quiet base (emit server effect) := by
  unfold Quiet test_starts emit at *
  simp [List.count_append, differs, quiet]

theorem quiet_opened (quiet : Quiet base server) (fd : Int32) : Quiet base (opened server fd) :=
  quiet.of_same rfl rfl

theorem quiet_close (quiet : Quiet base server) (fd : Int32) : Quiet base (close server fd) := by
  rw [close_eq]
  exact quiet.of_same rfl rfl

theorem quiet_failed (quiet : Quiet base server) (errno : ServerErrno) :
    Quiet base (failed server errno) :=
  quiet.of_same rfl rfl

theorem quiet_test (quiet : Quiet base server) (test : iperf_test) :
    Quiet base { server with test := test } :=
  quiet.of_same rfl rfl

theorem quiet_set_send_state (quiet : Quiet base server) (state : StateByte) (written : Bool)
    (differs : state ≠ TEST_START) :
    Ends (Quiet base) (Quiet base) (iperf_set_send_state server state written) := by
  have told : Quiet base (emit (iperf_set_test_state server state) (.sent state)) := by
    apply quiet_emit (quiet_test quiet _)
    simpa using differs
  unfold iperf_set_send_state
  split
  · split
    · exact told
    · exact quiet_failed told _
  · exact quiet

/-- A function that returns a descriptor as well. -/
abbrev quiet_with (base : Server) (result : Int32 × Server) : Prop := Quiet base result.2

theorem quiet_verify_buffers (quiet : Quiet base server) (s : Int32) (kernel : Listening) :
    Ends (quiet_with base) (Quiet base) (verify_buffers server s kernel) := by
  unfold verify_buffers
  split
  · exact quiet
  · exact quiet_failed (quiet_close quiet _) _

theorem quiet_tcp_listen (quiet : Quiet base server) (kernel : Listening) :
    Ends (quiet_with base) (Quiet base) (iperf_tcp_listen server kernel) := by
  have reopened := quiet_opened (quiet_close quiet server.test.listener) kernel.socket
  unfold iperf_tcp_listen
  split
  · dsimp only
    split
    · exact quiet_failed (quiet_close quiet _) _
    · split
      · exact quiet_failed (quiet_close reopened _) _
      · split
        · exact quiet_verify_buffers (quiet_test reopened _) _ _
        · exact quiet_failed (quiet_close reopened _) _
  · exact quiet_verify_buffers quiet _ _

theorem quiet_sctp_listen (quiet : Quiet base server) (kernel : Listening) :
    Ends (quiet_with base) (Quiet base) (iperf_sctp_listen server kernel) := by
  have shut := quiet_test (quiet_close quiet server.test.listener)
    { (close server server.test.listener).test with listener := -1 }
  have reopened := quiet_opened shut kernel.socket
  unfold iperf_sctp_listen
  dsimp only
  split
  · exact quiet_failed shut _
  · split
    · exact quiet_failed (quiet_close reopened _) _
    · split
      · exact quiet_test reopened _
      · exact quiet_failed reopened _

theorem quiet_listen (quiet : Quiet base server) (kernel : Listening) :
    Ends (quiet_with base) (Quiet base) (listen server kernel) := by
  unfold ServerLoop.listen
  split
  · exact quiet_tcp_listen quiet kernel
  · unfold iperf_udp_listen
    split
    · exact quiet_failed quiet _
    · exact quiet_opened quiet _
  · exact quiet_sctp_listen quiet kernel
  · unfold iperf_quic_listen
    split
    · exact quiet_failed quiet _
    · exact quiet

theorem quiet_refuse (quiet : Quiet base server) (peer : Exchange) :
    Ends (Quiet base) (Quiet base) (refuse server peer) := by
  have told := quiet_set_send_state quiet SERVER_ERROR peer.refused (by decide)
  unfold refuse
  split
  · rename_i sent
    exact told.of_error sent
  · rename_i sent
    split
    · exact told.of_ok sent
    · exact quiet_failed (told.of_ok sent) _

theorem quiet_exchange_parameters (features : Features) (quiet : Quiet base server)
    (peer : Exchange) :
    Ends (Quiet base) (Quiet base) (iperf_exchange_parameters features server peer) := by
  unfold iperf_exchange_parameters
  dsimp only
  split
  · exact quiet_refuse (quiet_failed (quiet_test quiet _) _) _
  · split
    · exact quiet_refuse (quiet_failed (quiet_test quiet _) _) _
    · have heard := quiet_listen
        (quiet_test quiet (get_parameters features server.test peer.parameters).2) peer.listening
      split
      · rename_i listened
        exact quiet_refuse (heard.of_error listened) _
      · rename_i listened
        exact quiet_set_send_state (quiet_test (heard.of_ok listened) _) _ _ (by decide)

theorem quiet_welcome (features : Features) (quiet : Quiet base server) (contact : Contact) :
    Ends (Quiet base) (Quiet base) (welcome features server contact) := by
  unfold welcome
  dsimp only
  split
  · exact quiet_failed (quiet_test quiet _) _
  · apply Ends.bind (quiet_set_send_state (quiet_test quiet _) _ _ (by decide))
    intro greeted quiet
    apply Ends.bind (quiet_exchange_parameters features quiet _)
    intro agreed quiet
    split
    · exact quiet_failed quiet _
    · exact quiet_test quiet _

theorem quiet_accept (features : Features) (quiet : Quiet base server) (contact : Contact) :
    Ends (Quiet base) (Quiet base) (iperf_accept features server contact) := by
  have got := quiet_opened quiet contact.socket
  unfold iperf_accept
  dsimp only
  split
  · exact quiet_failed quiet _
  · split
    · have held := quiet_test got
        { (opened server contact.socket).test with ctrl_sck := contact.socket }
      have welcomed := quiet_welcome features held contact
      unfold accept_client
      dsimp only
      split
      · exact quiet_failed (quiet_close held _) _
      · exact quiet_failed held _
      · split
        · rename_i result
          exact welcomed.of_ok result
        · rename_i result
          exact quiet_close (welcomed.of_error result) _
    · exact quiet_close (quiet_emit got _ (by simp)) _

theorem quiet_close_streams (quiet : Quiet base server) : Quiet base (close_streams server) := by
  rw [close_streams_eq]
  exact quiet.of_same rfl rfl

theorem quiet_exchange_results (quiet : Quiet base server) (exchanged : Option ServerErrno) :
    Ends (Quiet base) (Quiet base) (iperf_exchange_results server exchanged) := by
  have told := quiet_emit quiet .results_exchanged (by simp)
  unfold iperf_exchange_results
  dsimp only
  split
  · exact told
  · exact quiet_failed told _

theorem quiet_announce_results (quiet : Quiet base server) (message : Message) :
    Ends (Quiet base) (Quiet base) (announce_results server message) := by
  apply announce_rule
  · exact quiet_set_send_state quiet EXCHANGE_RESULTS message.announced (by decide)
  · exact fun _ quiet => quiet_exchange_results quiet _

theorem quiet_handle_test_end (quiet : Quiet base server) (message : Message) :
    Ends (Quiet base) (Quiet base) (handle_test_end server message) := by
  have counted := quiet_close_streams
    (quiet_emit (quiet_test quiet { server.test with done := 1 }) .statistics (by simp))
  apply Ends.bind (quiet_announce_results counted message)
  intro server quiet
  have marked : Quiet base { server with summary_printed := true } := quiet.of_same rfl rfl
  have printed := quiet_emit marked .summary (by simp)
  apply Ends.bind (ends_unless_quic (quiet_set_send_state printed _ _ (by decide)))
  intro server quiet
  split
  · exact quiet_test quiet _
  · exact quiet

theorem quiet_handle_message (quiet : Quiet base server) (message : Message) :
    Ends (Quiet base) (Quiet base) (iperf_handle_message_server server message) := by
  unfold iperf_handle_message_server
  split
  · exact quiet_failed quiet _
  · exact quiet_test (quiet_failed quiet _) _
  · rename_i state _
    have arrived : Quiet base (iperf_set_test_state server state) := quiet_test quiet _
    dsimp only
    split_ifs
    · exact arrived
    · exact quiet_handle_test_end arrived _
    · exact arrived
    · exact quiet_test (quiet_close_streams (quiet_emit (quiet_failed arrived _) _ (by simp))) _
    · exact quiet_failed arrived _

theorem quiet_tcp_accept (quiet : Quiet base server) (contact : StreamContact) :
    Ends (quiet_with base) (Quiet base) (iperf_tcp_accept server contact) := by
  have got := quiet_opened quiet contact.socket
  unfold iperf_tcp_accept
  dsimp only
  split
  · exact quiet_failed quiet _
  · split
    · exact quiet_failed (quiet_close got _) _
    · split
      · exact got
      · exact quiet_close (quiet_emit got _ (by simp)) _

theorem quiet_check_buffers (quiet : Quiet base server) (contact : StreamContact) :
    Ends (Quiet base) (Quiet base) (check_buffers server contact) := by
  unfold check_buffers
  split
  · exact quiet_failed quiet _
  · split
    · dsimp only
      split
      · exact quiet_failed (quiet_test quiet _) _
      · exact quiet_test quiet _
    · exact quiet

theorem quiet_udp_accept (quiet : Quiet base server) (contact : StreamContact) :
    Ends (quiet_with base) (Quiet base) (iperf_udp_accept server contact) := by
  unfold iperf_udp_accept
  dsimp only
  split
  · exact quiet_failed quiet _
  · apply Ends.bind (quiet_check_buffers quiet _)
    intro server quiet
    have replaced := quiet_test quiet { server.test with prot_listener := contact.announced }
    have listening := quiet_test (quiet_opened replaced contact.announced)
    split
    · exact quiet_failed replaced _
    · split
      · exact listening _
      · exact quiet_failed (listening _) _

theorem quiet_sctp_accept (quiet : Quiet base server) (contact : StreamContact) :
    Ends (quiet_with base) (Quiet base) (iperf_sctp_accept server contact) := by
  have got := quiet_opened quiet contact.socket
  unfold iperf_sctp_accept
  dsimp only
  split
  · exact quiet_failed quiet _
  · split
    · exact quiet_failed (quiet_close got _) _
    · split
      · exact got
      · split
        · exact quiet_close (quiet_emit got _ (by simp)) _
        · exact quiet_failed (quiet_close got _) _

theorem quiet_stream (quiet : Quiet base server) (contact : StreamContact) :
    Ends (quiet_with base) (Quiet base) (accept server contact) := by
  unfold accept
  split
  · exact quiet_tcp_accept quiet contact
  · exact quiet_udp_accept quiet contact
  · exact quiet_sctp_accept quiet contact
  · exact quiet_failed quiet _

theorem quiet_common_sockopts (quiet : Quiet base server) (s : Int32) (contact : StreamContact) :
    Ends (Quiet base) (Quiet base) (iperf_common_sockopts server s contact) := by
  unfold iperf_common_sockopts
  split
  · exact quiet
  · split
    · exact quiet_failed quiet _
    · split
      · exact quiet
      · exact quiet_failed quiet _

theorem quiet_tcp_options (features : Features) (quiet : Quiet base server) (s : Int32)
    (contact : StreamContact) :
    Ends (Quiet base) (Quiet base) (set_tcp_options features server s contact) := by
  unfold set_tcp_options
  split
  · exact quiet
  · split
    · exact quiet_failed (quiet_close quiet _) _
    · split
      · exact quiet
      · split
        · exact quiet_failed (quiet_close quiet _) _
        · exact quiet_test quiet _

theorem quiet_next_flag (quiet : Quiet base server) {flag : Bool} {after : Server}
    (next : next_flag server = some (flag, after)) : Quiet base after := by
  obtain ⟨receiving, sending, rfl⟩ := next_flag_counts next
  exact quiet.of_same rfl rfl

theorem quiet_new_stream (quiet : Quiet base server) (s : Int32) (sender : Bool)
    (created : Option ServerErrno) :
    Ends (Quiet base) (Quiet base) (iperf_new_stream server s sender created) := by
  unfold iperf_new_stream
  split
  · exact quiet.of_same rfl rfl
  · exact quiet_failed quiet _

theorem quiet_accept_stream (features : Features) (quiet : Quiet base server)
    (contact : StreamContact) :
    Ends (Quiet base) (Quiet base) (accept_stream features server contact) := by
  apply Ends.bind (quiet_stream quiet contact)
  rintro ⟨s, server⟩ quiet
  apply Ends.bind (quiet_common_sockopts quiet s contact)
  intro server quiet
  split
  · exact quiet
  · apply Ends.bind (quiet_tcp_options features quiet s contact)
    intro server quiet
    unfold add_stream
    split
    · exact quiet
    · rename_i next
      apply Ends.bind (quiet_new_stream (quiet_next_flag quiet next) s _ _)
      intro server quiet
      exact quiet_test quiet _

theorem quiet_drain (quiet : Quiet base server) (queued : List StreamContact) :
    Ends (Quiet base) (Quiet base) (drain server queued) := by
  apply drain_rule _ quiet
  intro server quiet contact flag after next
  exact quiet_new_stream (quiet_next_flag quiet next) _ _ _

theorem quiet_serve_listener (features : Features) (quiet : Quiet base server) (event : Pass)
    (ready : List Int32) :
    Ends (fun result => Quiet base result.2) (Quiet base)
      (serve_listener features server event ready) := by
  unfold serve_listener
  split
  · apply Ends.bind (quiet_accept features quiet event.contact)
    intro server quiet
    exact quiet.of_same rfl rfl
  · exact quiet

theorem quiet_serve_control (quiet : Quiet base server) (event : Pass) (ready : List Int32) :
    Ends (Quiet base) (Quiet base) (serve_control server event ready) := by
  unfold serve_control
  split
  · exact quiet_handle_message quiet _
  · exact quiet

theorem quiet_close_listener (quiet : Quiet base server) (start : Start) :
    Ends (Quiet base) (Quiet base) (close_listener server start) := by
  have replaced := quiet_test (quiet_close quiet server.test.listener)
    { server.test with listener := -1 }
  unfold close_listener
  dsimp only
  split
  · exact quiet_test quiet _
  · split
    · split
      · exact quiet_failed replaced _
      · exact quiet_test (quiet_opened replaced _) _
    · exact quiet_test quiet _
  · exact quiet_test (quiet_close quiet _) _

theorem quiet_print_summary (quiet : Quiet base server) : Quiet base (print_summary server) := by
  have counted := quiet_emit quiet .statistics (by simp)
  have marked : Quiet base { emit server .statistics with summary_printed := true } :=
    counted.of_same rfl rfl
  unfold print_summary
  dsimp only
  split
  · exact counted
  · exact quiet_emit marked .summary (by simp)

theorem quiet_close_ctrl_sck (quiet : Quiet base server) (field : Int32) :
    Quiet base (close_ctrl_sck server field) :=
  (quiet_close quiet server.test.ctrl_sck).of_same rfl rfl

theorem quiet_cleanup (quiet : Quiet base server) (counted : Bool) :
    Quiet base (cleanup_server server counted) := by
  rw [cleanup_server_eq]
  refine ⟨?_, quiet.2⟩
  rw [← quiet.1]
  unfold test_starts
  dsimp only
  rw [List.count_append]
  split <;> simp

theorem quiet_server_timer_proc (quiet : Quiet base server) :
    Quiet base (server_timer_proc server) := by
  unfold server_timer_proc
  dsimp only
  split
  · exact quiet.of_same rfl rfl
  · split
    · exact quiet.of_same rfl rfl
    · apply quiet_close_ctrl_sck
      apply quiet_print_summary
      exact quiet.of_same rfl rfl

end Quiet

/-- What the client asks for is within the limit. -/
def Admitted (base server : Server) : Prop :=
  server.bitrate_limit = base.bitrate_limit ∧ exceeds_limit server = false

section Admitted
variable {base server : Server}

theorem Admitted.of_same {after : Server} (admitted : Admitted base server)
    (limit : after.bitrate_limit = server.bitrate_limit)
    (rate : total_requested_rate after.test = total_requested_rate server.test) :
    Admitted base after := by
  unfold Admitted exceeds_limit at *
  rw [limit, rate]
  exact admitted

theorem admitted_set_send_state (admitted : Admitted base server) (state : StateByte)
    (written : Bool) :
    Ends (Admitted base) (Admitted base) (iperf_set_send_state server state written) := by
  unfold iperf_set_send_state
  split
  · split
    · exact admitted.of_same rfl rfl
    · exact admitted.of_same rfl rfl
  · exact admitted

theorem admitted_cleanup (admitted : Admitted base server) (counted : Bool) :
    Admitted base (cleanup_server server counted) := by
  rw [cleanup_server_eq]
  exact admitted.of_same rfl rfl

theorem admitted_server_timer_proc (admitted : Admitted base server) :
    Admitted base (server_timer_proc server) := by
  have limit := (quiet_server_timer_proc (quiet_refl server)).2
  apply admitted.of_same limit
  unfold server_timer_proc
  dsimp only
  split
  · rfl
  · split
    · rfl
    · rw [close_ctrl_sck_test, print_summary_test]
      rfl

theorem admitted_create_server_timers (admitted : Admitted base server) (start : Start) :
    Ends (Admitted base) (Admitted base) (create_server_timers server start) := by
  unfold create_server_timers
  dsimp only
  split_ifs <;> exact admitted.of_same rfl rfl

theorem admitted_failed (admitted : Admitted base server) (errno : ServerErrno) :
    Admitted base (failed server errno) :=
  admitted.of_same rfl rfl

theorem admitted_pthread_attr (admitted : Admitted base server) (succeeds : Bool)
    (errno : ServerErrno) (counted : Bool) :
    Admitted base (pthread_attr server succeeds errno counted) := by
  unfold pthread_attr
  split
  · exact admitted
  · exact admitted_cleanup (admitted_failed admitted errno) counted

theorem admitted_start_threads (admitted : Admitted base server) (start : Start)
    (counted : Bool) :
    Ends (Admitted base) (Admitted base) (start_threads server start counted) := by
  have begun := admitted_pthread_attr admitted start.attr_init .IEPTHREADATTRINIT counted
  unfold start_threads
  dsimp only
  split
  · exact admitted_failed begun _
  · exact admitted_pthread_attr begun _ _ _

end Admitted

/-- Either no `TEST_START` went out or the limit is met. -/
def Guarded (base server : Server) : Prop := Quiet base server ∨ Admitted base server

section Guarded
variable (features : Features) {base server : Server}

theorem guarded_start_test (quiet : Quiet base server) (start : Start) (counted : Bool) :
    Ends (Guarded base) (Guarded base) (start_test server start counted) := by
  have quietly : ∀ server, Quiet base server → Guarded base server := fun _ => .inl
  have admittedly : ∀ server, Admitted base server → Guarded base server := fun _ => .inr
  apply Ends.bind ((quiet_close_listener quiet start).imp (fun _ => id) quietly)
  intro server quiet
  split
  · exact quietly _ (quiet_failed quiet _)
  · rename_i within
    have admitted : Admitted base server := ⟨quiet.2, by simpa using within⟩
    apply Ends.bind ((admitted_set_send_state admitted _ _).imp (fun _ => id) admittedly)
    intro server admitted
    split
    · exact admittedly _ (admitted.of_same rfl rfl)
    · apply Ends.bind ((admitted_create_server_timers admitted start).imp (fun _ => id) admittedly)
      intro server admitted
      apply Ends.bind ((admitted_set_send_state admitted _ _).imp (fun _ => id) admittedly)
      intro server admitted
      exact (admitted_start_threads admitted start counted).imp admittedly admittedly

theorem quiet_serve_prot_listener (quiet : Quiet base server) (event : Pass)
    (ready : List Int32) :
    Ends (Quiet base) (Quiet base) (serve_prot_listener features server event ready) := by
  unfold serve_prot_listener
  split
  · split
    · exact quiet_drain quiet event.queued
    · exact quiet_accept_stream features quiet event.stream
  · exact quiet

theorem guarded_serve (event : Pass) (ready : List Int32) :
    Ends (Guarded server) (Guarded server) (serve features server event ready) := by
  have quietly : ∀ after, Quiet server after → Guarded server after := fun _ => .inl
  apply Ends.bind ((quiet_serve_listener features (quiet_refl server) event ready).imp
    (fun _ => id) quietly)
  rintro ⟨ready, after⟩ quiet
  apply Ends.bind ((quiet_serve_control quiet event ready).imp (fun _ => id) quietly)
  intro after quiet
  unfold serve_streams
  split
  · exact quietly _ quiet
  · apply Ends.bind ((quiet_serve_prot_listener features quiet event ready).imp
      (fun _ => id) quietly)
    intro after quiet
    split
    · exact guarded_start_test quiet event.start event.counted
    · exact quietly _ quiet

theorem guarded_cleanup (guarded : Guarded base server) (counted : Bool) :
    Guarded base (cleanup_server server counted) :=
  guarded.imp (quiet_cleanup · counted) (admitted_cleanup · counted)

theorem guarded_tmr_run (guarded : Guarded base server) (event : Pass) :
    Guarded base (tmr_run server event).server := by
  unfold tmr_run
  dsimp only [Status.server]
  split
  · exact guarded.imp quiet_server_timer_proc admitted_server_timer_proc
  · exact guarded

theorem guarded_leave (guarded : Guarded base server) (event : Pass) :
    Guarded base (leave server event).server :=
  guarded_cleanup guarded event.counted

theorem guarded_expired (guarded : Guarded base server) (event : Pass) (idle : Bool) :
    Guarded base (expire server event idle).server := by
  have noted : Guarded base (failed server .IENOMSG) :=
    guarded.imp (quiet_failed · _) (admitted_failed · _)
  unfold expire
  split
  · split
    · exact guarded_leave guarded event
    · split
      · exact guarded_leave noted event
      · exact guarded_tmr_run guarded event
  · exact guarded_tmr_run guarded event

theorem guarded_pass (event : Pass) : Guarded server (pass features server event).server := by
  have still : Guarded server server := .inl (quiet_refl server)
  have noted : ∀ errno, Guarded server (failed server errno) :=
    fun errno => .inl (quiet_failed (quiet_refl server) errno)
  have served := @guarded_serve features server event
  unfold ServerLoop.pass
  split
  · split
    · exact guarded_leave still event
    · exact still
  · split
    · exact guarded_leave (noted .IETOTALRATE) event
    · split
      · exact guarded_leave (noted .IESELECT) event
      · split
        · exact guarded_leave (noted .IESELECT) event
        · exact guarded_tmr_run still event
        · exact guarded_expired still event _
        · rename_i descriptors _
          split
          · rename_i result
            exact guarded_tmr_run ((served descriptors).of_ok result) event
          · rename_i result
            exact guarded_leave ((served descriptors).of_error result) event

end Guarded

/-- The request and the limit that a server holds. -/
def Asks (num_streams : Int32) (rate : UInt64) (mode : Mode) (limit : UInt64)
    (server : Server) : Prop :=
  server.test.num_streams = num_streams ∧ server.test.settings.rate = rate ∧
    server.test.mode = mode ∧ server.bitrate_limit = limit

section LastStream
variable (num_streams : Int32) (rate : UInt64) (mode : Mode) (limit : UInt64)

/-- A server that awaits the last stream of the test. -/
def last_awaited : Server :=
  let test : iperf_test :=
    { ctrl_sck := 4
      listener := 3
      prot_listener := 3
      state := CREATE_STREAMS
      num_streams := num_streams
      mode := mode
      settings := { rate := rate } }
  { new_server test limit false with
    streams_to_send := if mode = .RECEIVER then 0 else num_streams
    streams_to_rec := if mode = .SENDER then 0 else num_streams
    send_streams_accepted := if mode = .RECEIVER then 0 else num_streams - 1
    rec_streams_accepted :=
      match mode with
      | .SENDER => 0
      | .RECEIVER => num_streams - 1
      | .BIDIRECTIONAL => num_streams
    log := [.opened 3, .opened 4] }

def all_arrived : Server :=
  let server := last_awaited num_streams rate mode limit
  { server with
    test := { server.test with max_fd := 5, congestion_used := some "cubic" }
    streams := [⟨5, mode ≠ .RECEIVER⟩]
    send_streams_accepted := server.streams_to_send
    rec_streams_accepted := server.streams_to_rec
    log := [.opened 3, .opened 4, .opened 5] }

theorem last_accepted :
    accept_stream sample_features (last_awaited num_streams rate mode limit)
        (stream_sample 5 (some [])) =
      .ok (all_arrived num_streams rate mode limit) := by
  have matching : c_string (List.replicate COOKIE_SIZE 0) = c_string [] := by decide
  have there : DescriptorLedger.isOpen [.opened 3, .opened 4, .opened (5 : Int32)] 5 = true := by
    decide
  have one_less : num_streams - 1 ≠ num_streams := by
    intro same
    have bits := congrArg Int32.toBitVec same
    simp only [Int32.toBitVec_sub, Int32.toBitVec_one] at bits
    bv_omega
  have accepted : accept (last_awaited num_streams rate mode limit) (stream_sample 5 (some [])) =
      .ok (5, { last_awaited num_streams rate mode limit with
        log := [.opened 3, .opened 4, .opened 5] }) := by
    simp [accept, last_awaited, new_server, iperf_tcp_accept, stream_sample, opened, same_cookie,
      matching]
  unfold accept_stream
  rw [accepted]
  cases mode <;>
    simp [last_awaited, new_server, all_arrived, stream_sample, bind, Except.bind,
      iperf_common_sockopts, is_closed, there, set_tcp_options, sample_features,
      set_congestion_used, add_stream, next_flag, iperf_new_stream, one_less, ServerRound.raise_fd]

theorem arrived_starts
    (within : exceeds_limit (last_awaited num_streams rate mode limit) = false) :
    Ends (fun after => after.effects = [.sent TEST_START, .sent TEST_RUNNING] ∧
        Asks num_streams rate mode limit after) (fun _ => False)
      (start_test (all_arrived num_streams rate mode limit) start_sample false) := by
  let server := all_arrived num_streams rate mode limit
  have kept : close_listener server start_sample =
      .ok { server with test := { server.test with prot_listener := -1 } } := by
    simp [close_listener, server, all_arrived, last_awaited, new_server]
  unfold start_test
  rw [kept]
  simp only [bind, Except.bind]
  rw [if_neg]
  · simp [server, iperf_set_send_state, all_arrived, last_awaited, new_server, start_sample,
      create_server_timers, start_threads, pthread_attr, emit, iperf_set_test_state, Asks]
  · exact Bool.eq_false_iff.mp within

/-- The pass in which the last stream arrives. -/
def last_pass : Pass :=
  { pass_sample with selected := .ready [3], stream := stream_sample 5 (some []) }

theorem last_served :
    serve sample_features (last_awaited num_streams rate mode limit) last_pass [3] =
      start_test (all_arrived num_streams rate mode limit) start_sample false := by
  let server := last_awaited num_streams rate mode limit
  have listener : serve_listener sample_features server last_pass [3] = .ok ([3], server) := by
    simp [serve_listener, server, last_awaited, new_server]
  have control : serve_control server last_pass [3] = .ok server := by
    have quiet : FD_ISSET 4 [3] = false := by decide
    simp [serve_control, server, last_awaited, new_server, quiet]
  have stream : serve_prot_listener sample_features server last_pass [3] =
      .ok (all_arrived num_streams rate mode limit) := by
    have accepted := last_accepted num_streams rate mode limit
    have ready : FD_ISSET 3 [3] = true := by decide
    simpa [serve_prot_listener, server, last_awaited, new_server, last_pass, ready] using accepted
  have counted : all_accepted (all_arrived num_streams rate mode limit) = true := by
    simp [all_accepted, all_arrived]
  have creates : ¬ server.test.state ≠ CREATE_STREAMS := by
    simp [server, last_awaited, new_server]
  unfold serve
  rw [listener]
  simp only [bind, Except.bind]
  rw [control]
  simp only [serve_streams]
  rw [if_neg creates, stream]
  simp only [bind, Except.bind, if_pos counted]
  rfl

theorem last_pass_starts
    (within : exceeds_limit (last_awaited num_streams rate mode limit) = false) :
    let server := last_awaited num_streams rate mode limit
    let after := (pass sample_features server last_pass).server
    Asks num_streams rate mode limit after ∧ test_starts server < test_starts after := by
  have started := arrived_starts num_streams rate mode limit within
  rw [← last_served] at started
  intro server
  have unfinished : ¬ server.test.state = IPERF_DONE := by
    change ¬ CREATE_STREAMS = IPERF_DONE
    decide
  cases served : serve sample_features server last_pass [3] with
  | error after => exact (started.of_error served).elim
  | ok after =>
      obtain ⟨sent, asks⟩ := started.of_ok served
      have ran : (pass sample_features server last_pass).server = after := by
        have unexceeded : last_pass.exceeded = false := rfl
        have watched : server.stale = false := rfl
        have selected : last_pass.selected = .ready [3] := rfl
        simp only [ServerLoop.pass, if_neg unfinished, unexceeded, watched, selected, served,
          Bool.false_eq_true, if_false]
        simp [tmr_run, Status.server, last_pass, pass_sample]
      have now : test_starts after = 1 := by
        rw [test_starts, sent]
        decide
      have none : test_starts server = 0 := rfl
      rw [ran]
      exact ⟨asks, by rw [now, none]; exact Nat.zero_lt_one⟩

end LastStream

/-- `TEST_START` goes out only within the limit exactly when the product does not
reach 2^64, or leaves a remainder that is beyond the limit itself. -/
theorem bitrate_limit_enforced (num_streams : Int32) (rate : UInt64) (mode : Mode)
    (limit : UInt64) (limited : 0 < limit) :
    (∀ features server event,
      Asks num_streams rate mode limit (pass features server event).server →
      test_starts server < test_starts (pass features server event).server →
        requested num_streams rate mode ≤ limit.toNat) ↔
      requested num_streams rate mode < 2 ^ 64 ∨
        limit.toNat < requested num_streams rate mode % 2 ^ 64 := by
  constructor
  · intro enforced
    by_contra beyond
    rw [not_or, not_lt, not_lt] at beyond
    have within : exceeds_limit (last_awaited num_streams rate mode limit) = false := by
      have wraps := total_requested_rate_wraps (last_awaited num_streams rate mode limit).test
      have asked : requested_by (last_awaited num_streams rate mode limit).test =
          requested num_streams rate mode := rfl
      have bound : (last_awaited num_streams rate mode limit).bitrate_limit = limit := rfl
      have remainder : (total_requested_rate (last_awaited num_streams rate mode limit).test).toNat
          ≤ limit.toNat := by omega
      simp [exceeds_limit, bound, UInt64.lt_iff_toNat_lt, remainder]
    obtain ⟨asks, starts⟩ := last_pass_starts num_streams rate mode limit within
    have small := enforced _ _ _ asks starts
    have most := limit.toNat_lt
    omega
  · rintro fits features server event ⟨streams, rates, modes, limits⟩ starts
    rcases @guarded_pass features server event with quiet | admitted
    · exact absurd quiet.1 (Nat.ne_of_gt starts)
    · have wraps := total_requested_rate_wraps (pass features server event).server.test
      have asked : requested_by (pass features server event).server.test =
          requested num_streams rate mode := by
        rw [requested_by, streams, rates, modes]
      have small : (total_requested_rate (pass features server event).server.test).toNat
          ≤ limit.toNat := by
        have within := admitted.2
        simp only [exceeds_limit, limits, limited, true_and, decide_eq_false_iff_not,
          UInt64.lt_iff_toNat_lt, not_lt] at within
        exact within
      omega

theorem bitrate_limit_enforced_sample :
    (∀ features server event,
      Asks 2 500000 .SENDER 1000000 (pass features server event).server →
      test_starts server < test_starts (pass features server event).server →
        requested 2 500000 .SENDER ≤ (1000000 : UInt64).toNat) ↔
      requested 2 500000 .SENDER < 2 ^ 64 ∨
        (1000000 : UInt64).toNat < requested 2 500000 .SENDER % 2 ^ 64 :=
  bitrate_limit_enforced 2 500000 .SENDER 1000000 (by decide)

/-- Two streams of 2^63 bits per second each. -/
def wrapping_message : cJSON :=
  .object [("tcp", .bool true), ("parallel", .number 2), ("bandwidth", .number (-2 ^ 63))]

def wrapping_passes : List Pass :=
  [{ pass_sample with
      selected := .ready [3], contact := contact_sample 4 cookie_sample (some wrapping_message) },
    { pass_sample with selected := .ready [3], stream := stream_sample 5 (some cookie_sample) },
    { pass_sample with selected := .ready [3], stream := stream_sample 6 (some cookie_sample) }]

/-- A server with a limit of 1 Mbit/s starts a test of 2^64 bits per second. -/
theorem bitrate_limit_enforced_counterexample :
    let test := iperf_set_test_role sample_features (iperf_defaults sample_features) .s
    let after := (iperf_run_server sample_features (new_server test 1000000 false) 3 false
      wrapping_passes).server
    after.bitrate_limit = 1000000 ∧ test_starts after = 1 ∧ requested_by after.test = 2 ^ 64 ∧
      ¬ requested_by after.test ≤ after.bitrate_limit.toNat := by
  decide +kernel

end Iperf.ServerAdmission
