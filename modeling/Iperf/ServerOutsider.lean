import Iperf.ServerPhases

/-!
Connections that do not belong to the test. Outside `CREATE_STREAMS` the server
denies them unread; while streams are awaited it reads their cookie first, and what
it makes of the descriptor depends on how the reading goes.
-/

namespace Iperf.ServerOutsider

open TestState Json Config ServerLoop ServerPhases Outcome DescriptorLedger

/-- From the first stream that is awaited to the results. -/
def testing : List StateByte :=
  [CREATE_STREAMS, TEST_START, TEST_RUNNING, TEST_END, EXCHANGE_RESULTS, DISPLAY_RESULTS]

/-- A pass in which a connection arrives on the listening socket, and nothing else happens. -/
structure Knocks (server : Server) (event : Pass) : Prop where
  selected : event.selected = .ready [server.test.listener]
  listening : 0 ≤ server.test.listener
  apart : server.test.ctrl_sck ≠ server.test.listener
  watched : server.stale = false
  unexceeded : event.exceeded = false
  undue : event.timer_due = false
  /-- the one connection, whichever function accepts it -/
  accepted : event.contact.socket = event.stream.socket

/-- The loop goes on with the test, its streams and their numbers as they were. -/
def Undisturbed (server : Server) (status : Status) : Prop :=
  ∃ after, status = .loop after ∧ after.test = server.test ∧ after.streams = server.streams ∧
    after.rec_streams_accepted = server.rec_streams_accepted ∧
    after.send_streams_accepted = server.send_streams_accepted

/-- Bytes were read, and as strings they differ from the cookie. -/
def Denied (server : Server) (contact : StreamContact) : Prop :=
  ∃ bytes, contact.cookie = some bytes ∧ same_cookie server bytes = false

def Harmless (server : Server) (event : Pass) : Prop :=
  0 ≤ event.stream.socket ∧
    (server.test.state = CREATE_STREAMS →
      Denied server event.stream ∧ server.test.settings.tos = 0)

section Counts
variable {before server : Server}

/-- The numbers of accepted streams are the same. -/
def SameCounts (before after : Server) : Prop :=
  after.rec_streams_accepted = before.rec_streams_accepted ∧
    after.send_streams_accepted = before.send_streams_accepted

/-- Starting the test leaves the numbers alone. -/
theorem counts_start_test (same : SameCounts before server) (start : Start) (counted : Bool) :
    Succeeds (SameCounts before) (start_test server start counted) := by
  have numbers {server after : Server} (kept : roster after = roster server)
      (same : SameCounts before server) : SameCounts before after := by
    unfold roster at kept
    simp only [Prod.mk.injEq] at kept
    exact ⟨kept.2.2.2.1.trans same.1, kept.2.2.2.2.trans same.2⟩
  have keeps := start_test_keeps (fun _ _ => numbers) (fun server counted same => by
    rw [cleanup_server_eq]
    exact same) same start counted
  exact keeps.imp (fun _ => id) (fun _ _ => trivial)

end Counts

section Streams
variable (features : Features) {server : Server} {contact : StreamContact}

/-- A connection with another cookie is closed, and nothing is left of it. -/
theorem denied_ignored (tcp : server.test.protocol = .Ptcp) (accepted : 0 ≤ contact.socket)
    (denied : Denied server contact) (unset : server.test.settings.tos = 0) :
    ∃ after, accept_stream features server contact = .ok after ∧ after.test = server.test ∧
      after.streams = server.streams ∧ SameCounts server after ∧
      all_accepted after = all_accepted server := by
  obtain ⟨bytes, read, differs⟩ := denied
  let got := opened server contact.socket
  let after := close (emit got (.denied contact.socket)) contact.socket
  have negative : ¬ contact.socket < 0 := Int32.not_lt.mpr accepted
  have other : same_cookie got bytes = false := differs
  have returned : accept server contact = .ok (contact.socket, after) := by
    simp only [accept, tcp, iperf_tcp_accept, if_neg negative, read]
    rw [if_neg (Bool.eq_false_iff.mp other)]
  have test : after.test = server.test := close_test _ _
  have plain : iperf_common_sockopts after contact.socket contact = .ok after := by
    rw [iperf_common_sockopts, test, if_pos unset]
  have gone : is_closed after contact.socket = true := by
    simp [is_closed, after, close, accepted]
  refine ⟨after, ?_, test, ?_, ?_, ?_⟩
  · unfold accept_stream
    rw [returned]
    simp only [bind, Except.bind]
    rw [plain]
    simp only [if_pos gone]
  · simp only [after, close_eq]
    rfl
  · simp only [after, close_eq]
    exact ⟨rfl, rfl⟩
  · simp only [after, close_eq]
    rfl

theorem one_more (number : Int32) : number + 1 ≠ number := by
  intro same
  have bits := congrArg Int32.toBitVec same
  simp only [Int32.toBitVec_add, Int32.toBitVec_one] at bits
  bv_omega

/-- A stream that is taken counts. -/
theorem add_stream_counts (s : Int32) (awaiting : all_accepted server = false) :
    Succeeds (fun after => ¬ SameCounts server after) (add_stream server s contact) := by
  unfold add_stream next_flag
  split
  · rename_i none
    split at none
    · cases none
    · rename_i received
      split at none
      · cases none
      · rename_i sent
        simp [all_accepted, not_not.mp received, not_not.mp sent] at awaiting
  · rename_i flag taken some
    have counted : ¬ SameCounts server taken := by
      split at some
      · cases some
        exact fun same => one_more _ same.1
      · split at some
        · cases some
          exact fun same => one_more _ same.2
        · cases some
    unfold iperf_new_stream
    split
    · exact counted
    · trivial

theorem tcp_options_count (before : Server) (s : Int32) (same : SameCounts before server)
    (awaiting : all_accepted server = false) :
    Succeeds (fun after => SameCounts before after ∧ all_accepted after = false)
      (set_tcp_options features server s contact) := by
  unfold set_tcp_options
  split
  · exact ⟨same, awaiting⟩
  · split
    · trivial
    · split
      · exact ⟨same, awaiting⟩
      · split
        · trivial
        · exact ⟨same, awaiting⟩

/-- Whatever else happens to a connection in `CREATE_STREAMS` either ends the run or
makes a stream of it. -/
theorem undenied_disturbs (tcp : server.test.protocol = .Ptcp)
    (awaiting : all_accepted server = false)
    (harmful : ¬ (0 ≤ contact.socket ∧ Denied server contact ∧ server.test.settings.tos = 0)) :
    Succeeds (fun after => ¬ SameCounts server after) (accept_stream features server contact) := by
  unfold accept_stream
  simp only [accept, tcp, iperf_tcp_accept]
  split
  · trivial
  · rename_i accepted
    have number : 0 ≤ contact.socket := Int32.not_lt.mp accepted
    split
    · trivial
    · rename_i bytes read
      let got := opened server contact.socket
      split
      · -- the cookie passes for the test's
        have there : is_closed got contact.socket = false := by
          simp [is_closed, got, opened]
        have plain : Succeeds (fun after => after = got)
            (iperf_common_sockopts got contact.socket contact) := by
          unfold iperf_common_sockopts
          split
          · rfl
          · split
            · trivial
            · split
              · rfl
              · trivial
        apply Ends.bind plain
        rintro after rfl
        rw [if_neg (Bool.eq_false_iff.mp there)]
        have options : Succeeds (fun after => SameCounts server after ∧ all_accepted after = false)
            (set_tcp_options features got contact.socket contact) :=
          tcp_options_count features server contact.socket ⟨rfl, rfl⟩ awaiting
        apply Ends.bind options
        rintro chosen ⟨same, awaiting⟩
        apply (add_stream_counts contact.socket awaiting).imp _ (fun _ => id)
        intro after counted unchanged
        apply counted
        exact ⟨unchanged.1.trans same.1.symm, unchanged.2.trans same.2.symm⟩
      · -- the descriptor is closed, and takes no option
        rename_i differs
        have denied : Denied server contact := ⟨bytes, read, Bool.eq_false_iff.mpr differs⟩
        have set : server.test.settings.tos ≠ 0 := fun unset => harmful ⟨number, denied, unset⟩
        let after := close (emit got (.denied contact.socket)) contact.socket
        have test : after.test = server.test := close_test _ _
        have gone : is_closed after contact.socket = true := by
          simp [is_closed, after, close, number]
        have refused : Succeeds (fun _ => False)
            (iperf_common_sockopts after contact.socket contact) := by
          rw [iperf_common_sockopts, test, if_neg set, if_pos gone]
          trivial
        apply Ends.bind refused
        exact fun _ never => never.elim

end Streams

section Knock
variable (features : Features) {server : Server} {event : Pass}

theorem knock_pass (knocks : Knocks server event) (unfinished : server.test.state ≠ IPERF_DONE) :
    pass features server event =
      match serve features server event [server.test.listener] with
      | .ok after => .loop after
      | .error after => leave after event := by
  obtain ⟨selected, _, _, watched, unexceeded, undue, _⟩ := knocks
  simp only [ServerLoop.pass, if_neg unfinished, unexceeded, watched, selected,
    Bool.false_eq_true, if_false]
  cases serve features server event [server.test.listener] with
  | ok after => simp [tmr_run, undue]
  | error after => rfl

theorem knock_control (knocks : Knocks server event) {after : Server}
    (test : after.test = server.test) (ready : List Int32)
    (watched : ∀ fd ∈ ready, fd = server.test.listener) :
    serve_control after event ready = .ok after := by
  have silent : FD_ISSET after.test.ctrl_sck ready = false := by
    rw [test, FD_ISSET, decide_eq_false_iff_not]
    exact fun set => knocks.apart (watched _ set.2)
  rw [serve_control, if_neg (Bool.eq_false_iff.mp silent)]

/-- Outside `CREATE_STREAMS` the connection is denied. -/
theorem knock_denied (knocks : Knocks server event) (connected : 0 ≤ server.test.ctrl_sck)
    (elsewhere : server.test.state ≠ CREATE_STREAMS) (accepted : 0 ≤ event.stream.socket) :
    ∃ after, serve features server event [server.test.listener] = .ok after ∧
      after.test = server.test ∧ after.streams = server.streams ∧ SameCounts server after := by
  let denied := close (emit (opened server event.contact.socket) (.denied event.contact.socket))
    event.contact.socket
  have busy : server.test.ctrl_sck ≠ -1 := by
    intro free
    rw [free] at connected
    exact absurd connected (by decide)
  have negative : ¬ event.contact.socket < 0 := by
    rw [knocks.accepted]
    exact Int32.not_lt.mpr accepted
  have answered : iperf_accept features server event.contact = .ok denied := by
    simp only [iperf_accept, if_neg negative]
    rw [if_neg (show (opened server event.contact.socket).test.ctrl_sck ≠ -1 from busy)]
  have set : FD_ISSET server.test.listener [server.test.listener] = true := by
    simp [FD_ISSET, knocks.listening]
  have test : (set_streams_number denied).test = server.test := close_test _ _
  have listened : serve_listener features server event [server.test.listener] =
      .ok ([], set_streams_number denied) := by
    have same : denied.test.listener = server.test.listener := congrArg _ (close_test _ _)
    rw [serve_listener, if_pos ⟨set, elsewhere⟩, answered]
    simp [bind, Except.bind, same]
  refine ⟨set_streams_number denied, ?_, test, ?_, ?_⟩
  · unfold serve
    rw [listened]
    simp only [bind, Except.bind]
    rw [knock_control knocks test [] (by simp)]
    simp only [serve_streams, test, if_pos elsewhere]
  · simp only [set_streams_number, denied, close_eq]
    rfl
  · simp only [set_streams_number, denied, close_eq]
    exact ⟨rfl, rfl⟩

theorem knock_unaccepted (knocks : Knocks server event)
    (elsewhere : server.test.state ≠ CREATE_STREAMS) (negative : ¬ 0 ≤ event.stream.socket) :
    Succeeds (fun _ => False) (serve features server event [server.test.listener]) := by
  have refused : event.contact.socket < 0 := by
    rw [knocks.accepted]
    exact Int32.not_le.mp negative
  have set : FD_ISSET server.test.listener [server.test.listener] = true := by
    simp [FD_ISSET, knocks.listening]
  have failed : Succeeds (fun _ => False)
      (serve_listener features server event [server.test.listener]) := by
    rw [serve_listener, if_pos ⟨set, elsewhere⟩]
    simp [iperf_accept, refused, bind, Except.bind]
  apply Ends.bind failed
  exact fun _ never => never.elim

/-- In `CREATE_STREAMS` it is taken for one of the streams. -/
theorem knock_stream (knocks : Knocks server event) (phased : Phased server)
    (tcp : server.test.protocol = .Ptcp) (creating : server.test.state = CREATE_STREAMS) :
    serve features server event [server.test.listener] = (do
      let after ← accept_stream features server event.stream
      if all_accepted after then start_test after event.start event.counted else .ok after) := by
  have same := (phased.steady.created creating).2 tcp
  have set : FD_ISSET server.test.prot_listener [server.test.listener] = true := by
    simp [FD_ISSET, same, knocks.listening]
  have passed : serve_listener features server event [server.test.listener] =
      .ok ([server.test.listener], server) := by
    rw [serve_listener, if_neg (fun both => both.2 creating)]
  have accepting : serve_prot_listener features server event [server.test.listener] =
      accept_stream features server event.stream := by
    rw [serve_prot_listener, if_pos set, if_neg (by rw [tcp]; decide)]
  unfold serve
  rw [passed]
  simp only [bind, Except.bind]
  rw [knock_control knocks rfl _ (by simp)]
  simp only [serve_streams, creating, accepting, bind, Except.bind]
  simp

/-- In any run of a TCP test, a connection leaves the test undisturbed exactly when it is
accepted and, while streams are awaited, is read, has another cookie and meets no type
of service. -/
theorem outsider_undisturbing {start : Server} (fresh : Fresh start) {listener : Int32}
    {counted : Bool} {events : List Pass}
    (reached : iperf_run_server features start listener counted events = .loop server)
    (tcp : server.test.protocol = .Ptcp) (running : server.test.state ∈ testing)
    (knocks : Knocks server event) :
    Undisturbed server (pass features server event) ↔ Harmless server event := by
  have phased : Phased server := by
    have held := run_phased features fresh listener counted events
    rw [reached] at held
    exact held
  have unfinished : server.test.state ≠ IPERF_DONE := by
    intro done
    rw [done] at running
    exact absurd running (by decide)
  have begun : server.test.state ≠ IPERF_START := by
    intro idle
    rw [idle] at running
    exact absurd running (by decide)
  have connected := phased.steady.attended knocks.watched begun
  rw [knock_pass features knocks unfinished]
  by_cases creating : server.test.state = CREATE_STREAMS
  · have awaiting := phased.awaiting creating
    rw [knock_stream features knocks phased tcp creating]
    constructor
    · rintro ⟨after, went_on, _, _, counts⟩
      by_contra harmful
      have disturbs := undenied_disturbs features tcp awaiting
        (fun harmless => harmful ⟨harmless.1, fun _ => harmless.2⟩)
      have served : Succeeds (fun after => ¬ SameCounts server after) (do
          let after ← accept_stream features server event.stream
          if all_accepted after then start_test after event.start event.counted
          else .ok after) := by
        apply Ends.bind disturbs
        intro taken counted
        split
        · have kept := @counts_start_test taken taken ⟨rfl, rfl⟩ event.start event.counted
          apply kept.imp _ (fun _ => id)
          intro after same unchanged
          exact counted ⟨same.1.symm.trans unchanged.1, same.2.symm.trans unchanged.2⟩
        · exact counted
      split at went_on
      · rename_i result
        cases went_on
        exact served.of_ok result counts
      · cases went_on
    · rintro ⟨accepted, harmless⟩
      obtain ⟨denied, unset⟩ := harmless creating
      obtain ⟨after, ignored, test, streams, counts, same⟩ :=
        denied_ignored features tcp accepted denied unset
      refine ⟨after, ?_, test, streams, counts⟩
      rw [ignored]
      simp only [bind, Except.bind, same, awaiting]
      simp
  · constructor
    · rintro ⟨after, went_on, _⟩
      by_contra harmful
      have negative : ¬ 0 ≤ event.stream.socket :=
        fun accepted => harmful ⟨accepted, fun here => absurd here creating⟩
      have refused := knock_unaccepted features knocks creating negative
      split at went_on
      · rename_i result
        exact refused.of_ok result
      · cases went_on
    · rintro ⟨accepted, _⟩
      obtain ⟨after, answered, test, streams, counts⟩ :=
        knock_denied features knocks connected creating accepted
      exact ⟨after, by rw [answered], test, streams, counts⟩

end Knock

theorem fresh_sample : Fresh server_sample := by
  constructor
  · decide
  · decide
  · rfl
  · rfl
  · rfl

theorem early_reached :
    iperf_run_server sample_features server_sample 3 false early_passes = .loop early_server := by
  decide +kernel

/-- A connection on descriptor 7 that sends these bytes, or breaks off. -/
def knock_sample (bytes : Option (List UInt8)) : Pass :=
  { pass_sample with
    selected := .ready [3]
    contact := contact_sample 7 [] none
    stream := stream_sample 7 bytes }

theorem knocks_sample (bytes : Option (List UInt8)) :
    Knocks early_server (knock_sample bytes) := by
  have listener : early_server.test.listener = 3 := by decide +kernel
  constructor
  · rw [listener]
    rfl
  · rw [listener]
    decide
  · decide +kernel
  · decide +kernel
  · rfl
  · rfl
  · rfl

theorem outsider_undisturbing_sample :
    Undisturbed early_server (pass sample_features early_server (knock_sample (some [1, 2, 3]))) ↔
      Harmless early_server (knock_sample (some [1, 2, 3])) :=
  outsider_undisturbing sample_features fresh_sample early_reached (by decide +kernel)
    (by decide +kernel) (knocks_sample _)

/-- A stranger's connection that is reset while the streams are awaited ends the run. -/
theorem outsider_undisturbing_counterexample :
    early_server.test.protocol = .Ptcp ∧ early_server.test.state = CREATE_STREAMS ∧
      Knocks early_server (knock_sample none) ∧
      (knock_sample none).stream.cookie ≠ some early_server.test.cookie ∧
      ¬ Undisturbed early_server (pass sample_features early_server (knock_sample none)) := by
  have returned : ¬ (pass sample_features early_server (knock_sample none)).in_loop := by
    decide +kernel
  refine ⟨by decide +kernel, by decide +kernel, knocks_sample none, by simp [knock_sample,
    stream_sample], ?_⟩
  rintro ⟨after, went_on, _⟩
  rw [went_on] at returned
  exact returned rfl

end Iperf.ServerOutsider
