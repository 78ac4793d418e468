import Iperf.ServerPhases
import Iperf.StreamResults

/-!
The streams of the two sides. The client decides the directions in two rounds, the
server with two counters, over as many passes of its loop as the connections take to
arrive. The stream of each connection is the receiver of one side and the sender of
the other, under one id.
-/

namespace Iperf.StreamPairs

open TestState Config Parameters ServerLoop ServerPhases Outcome
open StreamResults (client_directions server_directions new_streams)
open ServerRound (raise_fd)

section Arrivals
variable (features : Features)

/-- A connection for `prot_listener`, up to where its direction is decided. -/
def connect_stream (server : Server) (contact : StreamContact) : Except Server (Int32 × Server) := do
  let (s, server) ← accept server contact
  let server ← iperf_common_sockopts server s contact
  if is_closed server s then .error server
  else
    let server ← set_tcp_options features server s contact
    .ok (s, server)

/-- A pass in which these connections come in and the control connection is silent. -/
inductive Arrives (server : Server) (event : Pass) : List Int32 → Prop
  | interrupted (selected : event.selected = .interrupted) : Arrives server event []
  | expired {idle : Bool} (selected : event.selected = .expired idle)
      (patient : idle = true → server.test.mode = .SENDER) : Arrives server event []
  | elsewhere {ready : List Int32} (selected : event.selected = .ready ready)
      (silent : server.test.ctrl_sck ∉ ready)
      (nobody : FD_ISSET server.test.prot_listener ready = false) : Arrives server event []
  | connection {ready : List Int32} {s : Int32} {connected : Server}
      (selected : event.selected = .ready ready) (silent : server.test.ctrl_sck ∉ ready)
      (somebody : FD_ISSET server.test.prot_listener ready = true)
      (single : server.test.protocol ≠ .Pquic)
      (accepted : connect_stream features server event.stream = .ok (s, connected))
      (created : event.stream.created = none) : Arrives server event [s]
  | queued {ready : List Int32} (selected : event.selected = .ready ready)
      (silent : server.test.ctrl_sck ∉ ready)
      (somebody : FD_ISSET server.test.prot_listener ready = true)
      (quic : server.test.protocol = .Pquic)
      (waiting : ∀ contact ∈ event.queued, 0 ≤ contact.socket ∧ contact.created = none) :
      Arrives server event (event.queued.map (·.socket))

/-- Passes from `start` on in which these connections came in, one after the other. -/
inductive Connected (start : Server) : List Int32 → Status → Prop
  | start : Connected start [] (.loop start)
  | pass {sockets more : List Int32} {here : Server} {event : Pass}
      (earlier : Connected start sockets (.loop here))
      (creating : here.test.state = CREATE_STREAMS) (spared : event.exceeded = false)
      (arrives : Arrives features here event more) :
      Connected start (sockets ++ more) (ServerLoop.pass features here event)

/-- The server is still in `CREATE_STREAMS`. -/
def Waits (status : Status) : Prop :=
  ∃ here, status = .loop here ∧ here.test.state = CREATE_STREAMS

end Arrivals

section Counting
variable {server : Server} {receiving sending : Nat} {sockets : List Int32}

/-- The receiving streams come first, in the order of the connections. -/
structure Counted (receiving sending : Nat) (sockets : List Int32) (server : Server) : Prop where
  streams : server.streams = List.zipWith Stream.mk sockets
    (List.replicate receiving false ++ List.replicate sending true)
  streams_to_rec : server.streams_to_rec = Int32.ofNat receiving
  streams_to_send : server.streams_to_send = Int32.ofNat sending
  rec_streams_accepted : server.rec_streams_accepted = Int32.ofNat (min sockets.length receiving)
  send_streams_accepted : server.send_streams_accepted =
    Int32.ofNat (sockets.length - receiving)

theorem ofNat_eq_iff {first second : Nat} (one : first < 2 ^ 31) (other : second < 2 ^ 31) :
    Int32.ofNat first = Int32.ofNat second ↔ first = second := by
  constructor
  · intro same
    have values := congrArg Int32.toInt same
    rw [Int32.toInt_ofNat_of_lt one, Int32.toInt_ofNat_of_lt other] at values
    omega
  · exact congrArg Int32.ofNat

theorem Counted.of_same {after : Server} (counted : Counted receiving sending sockets server)
    (streams : after.streams = server.streams)
    (streams_to_rec : after.streams_to_rec = server.streams_to_rec)
    (streams_to_send : after.streams_to_send = server.streams_to_send)
    (rec_streams_accepted : after.rec_streams_accepted = server.rec_streams_accepted)
    (send_streams_accepted : after.send_streams_accepted = server.send_streams_accepted) :
    Counted receiving sending sockets after :=
  ⟨streams.trans counted.streams, streams_to_rec.trans counted.streams_to_rec,
    streams_to_send.trans counted.streams_to_send,
    rec_streams_accepted.trans counted.rec_streams_accepted,
    send_streams_accepted.trans counted.send_streams_accepted⟩

theorem counted_all (counted : Counted receiving sending sockets server)
    (receiving_int : receiving < 2 ^ 31) (sending_int : sending < 2 ^ 31)
    (few : sockets.length ≤ receiving + sending) :
    all_accepted server = true ↔ sockets.length = receiving + sending := by
  rw [all_accepted, decide_eq_true_eq, counted.rec_streams_accepted, counted.streams_to_rec,
    counted.send_streams_accepted, counted.streams_to_send,
    ofNat_eq_iff (by omega) receiving_int, ofNat_eq_iff (by omega) sending_int]
  omega

theorem zipWith_snoc {directions : List Bool} (s : Int32) {flag : Bool}
    (next : directions[sockets.length]? = some flag) :
    List.zipWith Stream.mk (sockets ++ [s]) directions =
      List.zipWith Stream.mk sockets directions ++ [⟨s, flag⟩] := by
  induction sockets generalizing directions with
  | nil =>
      cases directions with
      | nil => simp at next
      | cons first rest =>
          simp only [List.length_nil, List.getElem?_cons_zero, Option.some.injEq] at next
          simp [next]
  | cons socket sockets ih =>
      cases directions with
      | nil => simp at next
      | cons first rest =>
          simp only [List.length_cons, List.getElem?_cons_succ] at next
          simp [ih next]

/-- Each connection takes the next direction. -/
theorem counted_next (counted : Counted receiving sending sockets server)
    (receiving_int : receiving < 2 ^ 31) (sending_int : sending < 2 ^ 31)
    (few : sockets.length < receiving + sending) :
    ∃ flag next, next_flag server = some (flag, next) ∧ next.test = server.test ∧
      next.timer = server.timer ∧ next.stale = server.stale ∧
      ∀ s, Counted receiving sending (sockets ++ [s])
        { next with streams := next.streams ++ [⟨s, flag⟩] } := by
  obtain ⟨streams, to_rec, to_send, accepted_rec, accepted_send⟩ := counted
  have more : server.rec_streams_accepted ≠ server.streams_to_rec ↔
      sockets.length < receiving := by
    rw [accepted_rec, to_rec, ne_eq, ofNat_eq_iff (by omega) receiving_int]
    omega
  unfold next_flag
  by_cases receives : sockets.length < receiving
  · rw [if_pos (more.mpr receives)]
    refine ⟨_, _, rfl, rfl, rfl, rfl, fun s => ?_⟩
    have direction : (List.replicate receiving false ++ List.replicate sending true)[
        sockets.length]? = some false := by
      rw [List.getElem?_append_left (by simpa using receives), List.getElem?_replicate,
        if_pos receives]
    constructor
    · rw [zipWith_snoc s direction, ← streams]
    · exact to_rec
    · exact to_send
    · simp only [accepted_rec, List.length_append, List.length_singleton]
      rw [Nat.min_eq_left (by omega), Nat.min_eq_left (by omega), Int32.ofNat_add]
      rfl
    · rw [List.length_append, List.length_singleton, Nat.sub_eq_zero_of_le (by omega),
        accepted_send, Nat.sub_eq_zero_of_le (by omega)]
  · have left : server.send_streams_accepted ≠ server.streams_to_send := by
      rw [accepted_send, to_send, ne_eq, ofNat_eq_iff (by omega) sending_int]
      omega
    rw [if_neg (mt more.mp receives), if_pos left]
    refine ⟨_, _, rfl, rfl, rfl, rfl, fun s => ?_⟩
    have direction : (List.replicate receiving false ++ List.replicate sending true)[
        sockets.length]? = some true := by
      rw [List.getElem?_append_right (by simpa using receives), List.length_replicate,
        List.getElem?_replicate, if_pos (by omega)]
    constructor
    · rw [zipWith_snoc s direction, ← streams]
    · exact to_rec
    · exact to_send
    · rw [List.length_append, List.length_singleton, Nat.min_eq_right (by omega), accepted_rec,
        Nat.min_eq_right (by omega)]
    · simp only [accepted_send, List.length_append, List.length_singleton]
      rw [← Nat.succ_eq_add_one, Nat.succ_sub (by omega), Nat.succ_eq_add_one, Int32.ofNat_add]
      rfl

end Counting

section Frame
variable {server : Server}

/-- What accepting a connection leaves alone. -/
def accounts (server : Server) : List Stream × Int32 × Int32 × Int32 × Int32 × Bool :=
  (server.streams, server.streams_to_rec, server.streams_to_send, server.rec_streams_accepted,
    server.send_streams_accepted, server.stale)

@[simp] theorem accounts_close (server : Server) (fd : Int32) :
    accounts (close server fd) = accounts server := by
  rw [close_eq]
  rfl

abbrev SameAccounts (before : Server) (result : Int32 × Server) : Prop :=
  accounts result.2 = accounts before

theorem accounts_tcp_accept (contact : StreamContact) :
    Succeeds (SameAccounts server) (iperf_tcp_accept server contact) := by
  unfold iperf_tcp_accept
  dsimp only
  split
  · trivial
  · split
    · trivial
    · split
      · rfl
      · simp only [SameAccounts, ends_ok, accounts_close]
        rfl

theorem accounts_sctp_accept (contact : StreamContact) :
    Succeeds (SameAccounts server) (iperf_sctp_accept server contact) := by
  unfold iperf_sctp_accept
  dsimp only
  split
  · trivial
  · split
    · trivial
    · split
      · rfl
      · split
        · simp only [SameAccounts, ends_ok, accounts_close]
          rfl
        · trivial

theorem accounts_udp_accept (contact : StreamContact) :
    Succeeds (SameAccounts server) (iperf_udp_accept server contact) := by
  have checked : Succeeds (fun after => accounts after = accounts server)
      (check_buffers server contact) := by
    unfold check_buffers
    split
    · exact True.intro
    · split
      · dsimp only
        split
        · exact True.intro
        · simp only [ends_ok, accounts]
      · simp only [ends_ok]
  unfold iperf_udp_accept
  dsimp only
  split
  · trivial
  · apply Ends.bind checked
    intro after same
    split_ifs
    · trivial
    · exact same
    · trivial

theorem accounts_accept (contact : StreamContact) :
    Succeeds (SameAccounts server) (accept server contact) := by
  unfold accept
  split
  · exact accounts_tcp_accept contact
  · exact accounts_udp_accept contact
  · exact accounts_sctp_accept contact
  · trivial

theorem accounts_common_sockopts (s : Int32) (contact : StreamContact) :
    Succeeds (fun after => accounts after = accounts server)
      (iperf_common_sockopts server s contact) := by
  unfold iperf_common_sockopts
  split
  · rfl
  · split
    · trivial
    · split
      · rfl
      · trivial

theorem accounts_tcp_options (features : Features) (s : Int32) (contact : StreamContact) :
    Succeeds (fun after => accounts after = accounts server)
      (set_tcp_options features server s contact) := by
  unfold set_tcp_options
  split
  · rfl
  · split
    · trivial
    · split
      · rfl
      · split
        · trivial
        · rfl

/-- A connection that came through has a server that differs in nothing that counts, and
only its direction is left to decide. -/
theorem connected_stream {features : Features} {contact : StreamContact} {s : Int32}
    {connected : Server} (accepted : connect_stream features server contact = .ok (s, connected)) :
    Serving server connected ∧ accounts connected = accounts server ∧
      accept_stream features server contact = add_stream connected s contact := by
  have serves := serving_accept (serving_refl server) contact
  have counts := @accounts_accept server contact
  cases first : accept server contact with
  | error failed =>
      rw [connect_stream, first] at accepted
      cases accepted
  | ok result =>
      rw [first] at serves counts
      have sockopts := serving_common_sockopts serves result.1 contact
      have sockopts_counts := @accounts_common_sockopts result.2 result.1 contact
      simp only [connect_stream, accept_stream, first, bind, Except.bind] at accepted ⊢
      cases second : iperf_common_sockopts result.2 result.1 contact with
      | error failed =>
          rw [second] at accepted
          cases accepted
      | ok opened =>
          rw [second] at sockopts sockopts_counts
          simp only [second] at accepted ⊢
          split at accepted
          · cases accepted
          · rename_i descriptor
            have options := serving_tcp_options features sockopts result.1 contact
            have options_counts := @accounts_tcp_options opened features result.1 contact
            rw [if_neg descriptor]
            cases third : set_tcp_options features opened result.1 contact with
            | error failed =>
                rw [third] at accepted
                cases accepted
            | ok ready =>
                rw [third] at options options_counts accepted
                cases accepted
                exact ⟨options, options_counts.trans (sockopts_counts.trans counts), rfl⟩

end Frame

section Passes
variable {server : Server} {receiving sending : Nat} {sockets : List Int32}

theorem Counted.of_accounts {after : Server} (counted : Counted receiving sending sockets server)
    (same : accounts after = accounts server) : Counted receiving sending sockets after := by
  simp only [accounts, Prod.mk.injEq] at same
  exact counted.of_same same.1 same.2.1 same.2.2.1 same.2.2.2.1 same.2.2.2.2.1

/-- Between two passes, with streams still missing. -/
structure Gathering (receiving sending : Nat) (sockets : List Int32) (server : Server) : Prop where
  counted : Counted receiving sending sockets server
  creating : server.test.state = CREATE_STREAMS
  connected : 0 ≤ server.test.ctrl_sck
  timer : server.timer = false
  stale : server.stale = false

/-- What a connection or a queue of them leaves, before the streams are counted. -/
theorem Gathering.of_serving {after : Server} {more : List Int32}
    (gathering : Gathering receiving sending sockets server) (serving : Serving server after)
    (stale : after.stale = server.stale) (counted : Counted receiving sending more after) :
    Gathering receiving sending more after :=
  ⟨counted, serving.state.trans gathering.creating, serving.ctrl_sck.symm ▸ gathering.connected,
    serving.timer.trans gathering.timer, stale.trans gathering.stale⟩

theorem add_stream_gathers (gathering : Gathering receiving sending sockets server)
    (receiving_int : receiving < 2 ^ 31) (sending_int : sending < 2 ^ 31)
    (few : sockets.length < receiving + sending) (s : Int32) {contact : StreamContact}
    (created : contact.created = none) :
    ∃ after, add_stream server s contact = .ok after ∧
      Gathering receiving sending (sockets ++ [s]) after := by
  obtain ⟨flag, next, taken, test, timer, stale, counted⟩ :=
    counted_next gathering.counted receiving_int sending_int few
  refine ⟨{ next with
    streams := next.streams ++ [⟨s, flag⟩]
    test := raise_fd next.test s }, ?_, ?_⟩
  · simp only [add_stream, taken, iperf_new_stream, created]
    rfl
  · constructor
    · exact (counted s).of_same rfl rfl rfl rfl rfl
    · simp only [raise_fd, test, gathering.creating]
    · simp only [raise_fd, test, gathering.connected]
    · exact timer.trans gathering.timer
    · exact stale.trans gathering.stale

/-- The queue is emptied, since no more connections wait than streams are missing. -/
theorem drain_gathers (gathering : Gathering receiving sending sockets server)
    (receiving_int : receiving < 2 ^ 31) (sending_int : sending < 2 ^ 31)
    (queued : List StreamContact)
    (waiting : ∀ contact ∈ queued, 0 ≤ contact.socket ∧ contact.created = none)
    (few : sockets.length + queued.length ≤ receiving + sending) :
    ∃ after, drain server queued = .ok after ∧
      Gathering receiving sending (sockets ++ queued.map (·.socket)) after := by
  induction queued generalizing server sockets with
  | nil => exact ⟨server, rfl, by simpa using gathering⟩
  | cons contact rest ih =>
      rw [List.length_cons] at few
      obtain ⟨descriptor, created⟩ := waiting contact List.mem_cons_self
      obtain ⟨flag, next, taken, test, timer, stale, counted⟩ :=
        counted_next gathering.counted receiving_int sending_int (by omega)
      have open_socket : ¬ contact.socket < 0 := Int32.not_lt.mpr descriptor
      let after : Server := { next with streams := next.streams ++ [⟨contact.socket, flag⟩] }
      have gathered : Gathering receiving sending (sockets ++ [contact.socket]) after :=
        ⟨counted contact.socket, (congrArg (·.state) test).trans gathering.creating,
          test.symm ▸ gathering.connected, timer.trans gathering.timer,
          stale.trans gathering.stale⟩
      have unfolded : drain server (contact :: rest) =
          if all_accepted after then .ok after else drain after rest := by
        simp only [drain, open_socket, if_false, taken, iperf_new_stream, created]
        rfl
      have length : (sockets ++ [contact.socket]).length = sockets.length + 1 := by simp
      have all := counted_all gathered.counted receiving_int sending_int (by omega)
      by_cases complete : all_accepted after = true
      · have last := all.mp complete
        obtain rfl : rest = [] := List.eq_nil_of_length_eq_zero (by omega)
        exact ⟨after, by rw [unfolded, if_pos complete], gathered⟩
      · obtain ⟨final, drained, held⟩ := ih gathered
          (fun later member => waiting later (List.mem_cons_of_mem _ member)) (by omega)
        refine ⟨final, by rw [unfolded, if_neg complete, drained], ?_⟩
        simpa using held

/-- What the descriptors of a pass lead to, when connections came in. -/
theorem prot_listener_gathers {features : Features} {event : Pass} {more ready : List Int32}
    (gathering : Gathering receiving sending sockets server)
    (receiving_int : receiving < 2 ^ 31) (sending_int : sending < 2 ^ 31)
    (few : sockets.length < receiving + sending)
    (total : (sockets ++ more).length ≤ receiving + sending)
    (selected : event.selected = .ready ready) (arrives : Arrives features server event more) :
    ∃ after, serve_prot_listener features server event ready = .ok after ∧
      Gathering receiving sending (sockets ++ more) after := by
  unfold serve_prot_listener
  cases arrives with
  | interrupted other =>
      rw [selected] at other
      cases other
  | expired other =>
      rw [selected] at other
      cases other
  | elsewhere other _ nobody =>
      cases selected.symm.trans other
      rw [nobody]
      exact ⟨server, rfl, by simpa using gathering⟩
  | connection other _ somebody single accepted created =>
      cases selected.symm.trans other
      obtain ⟨serving, same, added⟩ := connected_stream accepted
      have stale : _ = server.stale := congrArg (·.2.2.2.2.2) same
      have connected := gathering.of_serving serving stale (gathering.counted.of_accounts same)
      rw [somebody, if_pos rfl, if_neg single, added]
      exact add_stream_gathers connected receiving_int sending_int few _ created
  | queued other _ somebody quic waiting =>
      cases selected.symm.trans other
      rw [somebody, if_pos rfl, if_pos quic]
      apply drain_gathers gathering receiving_int sending_int event.queued waiting
      simpa using total

end Passes

section Start
variable {server : Server}

def flags (server : Server) : List Bool := server.streams.map (·.sender)

@[simp] theorem flags_close (server : Server) (fd : Int32) :
    flags (close server fd) = flags server := by
  rw [close_eq]
  rfl

/-- `cleanup_server` closes the streams' sockets and keeps the streams. -/
@[simp] theorem flags_cleanup (server : Server) (counted : Bool) :
    flags (cleanup_server server counted) = flags server := by
  rw [cleanup_server_eq]
  simp only [flags]
  split
  · rfl
  · rw [List.map_map]
    rfl

/-- The directions are still those of `before`. -/
def Same (before after : Server) : Prop := flags after = flags before

/-- Starting the test changes no direction, whether it succeeds or not. -/
theorem same_start_test (server : Server) (start : Start) (counted : Bool) :
    Ends (Same server) (Same server) (start_test server start counted) := by
  apply start_test_keeps
  · intro first after kept same
    unfold roster at kept
    simp only [Prod.mk.injEq] at kept
    have directions : flags after = flags first := by
      unfold flags
      rw [kept.1]
    exact directions.trans same
  · exact fun first counted same => (flags_cleanup first counted).trans same
  · exact Eq.refl (flags server)

theorem flags_server_timer_proc (server : Server) :
    flags (server_timer_proc server) = flags server := by
  unfold server_timer_proc
  dsimp only
  split
  · rfl
  · split
    · rfl
    · rw [close_ctrl_sck]
      change flags (close _ _) = _
      rw [flags_close, print_summary]
      split <;> rfl

end Start

section Runs
variable {features : Features} {server : Server} {receiving sending : Nat} {sockets : List Int32}

/-- The directions are decided and the server has left `CREATE_STREAMS`. -/
structure Settled (receiving sending : Nat) (status : Status) : Prop where
  left : ¬ Waits status
  flags : flags status.server = List.replicate receiving false ++ List.replicate sending true

theorem counted_flags (counted : Counted receiving sending sockets server)
    (complete : sockets.length = receiving + sending) :
    flags server = List.replicate receiving false ++ List.replicate sending true := by
  have all : ∀ (sockets : List Int32) (directions : List Bool),
      sockets.length = directions.length →
        (List.zipWith Stream.mk sockets directions).map (·.sender) = directions := by
    intro sockets
    induction sockets with
    | nil =>
        intro directions same
        simpa using same.symm
    | cons socket rest ih =>
        intro directions same
        cases directions with
        | nil => simp at same
        | cons first directions =>
            rw [List.length_cons, List.length_cons] at same
            simp [ih directions (by omega)]
  rw [flags, counted.streams]
  apply all
  simpa using complete

/-- Where a run is that had these connections. -/
inductive Progress (receiving sending : Nat) (sockets : List Int32) : Status → Prop
  | gathering {here : Server} (few : sockets.length < receiving + sending)
      (gathering : Gathering receiving sending sockets here) :
      Progress receiving sending sockets (.loop here)
  | settled {status : Status} (complete : sockets.length = receiving + sending)
      (settled : Settled receiving sending status) : Progress receiving sending sockets status

theorem tmr_run_gathers {event : Pass} (few : sockets.length < receiving + sending)
    (gathering : Gathering receiving sending sockets server) :
    Progress receiving sending sockets (tmr_run server event) := by
  have idle : ¬ (server.timer = true ∧ event.timer_due = true) := by simp [gathering.timer]
  rw [tmr_run, if_neg idle]
  exact .gathering few gathering

theorem settled_leave {event : Pass}
    (directions : flags server = List.replicate receiving false ++ List.replicate sending true) :
    Settled receiving sending (leave server event) := by
  constructor
  · rintro ⟨here, looping, -⟩
    cases looping
  · exact (flags_cleanup server event.counted).trans directions

theorem settled_tmr_run {event : Pass} (launched : Launched server)
    (directions : flags server = List.replicate receiving false ++ List.replicate sending true) :
    Settled receiving sending (tmr_run server event) := by
  have moved : server.test.state ≠ CREATE_STREAMS := by
    rw [launched.state]
    decide
  by_cases due : server.timer ∧ event.timer_due
  · rw [tmr_run, if_pos due]
    constructor
    · rintro ⟨here, looping, creating⟩
      cases looping
      exact moved ((server_timer_proc_cases server).2.1.symm.trans creating)
    · exact (flags_server_timer_proc server).trans directions
  · rw [tmr_run, if_neg due]
    constructor
    · rintro ⟨here, looping, creating⟩
      cases looping
      exact moved creating
    · exact directions

/-- With the last stream the test starts, or the server gives up. -/
theorem start_settles {event : Pass} (gathering : Gathering receiving sending sockets server)
    (complete : sockets.length = receiving + sending) :
    Ends (fun after => Settled receiving sending (tmr_run after event))
      (fun after => Settled receiving sending (leave after event))
      (start_test server event.start event.counted) := by
  have directions := counted_flags gathering.counted complete
  have launched := launched_start_test gathering.connected event.start event.counted
  have same := same_start_test server event.start event.counted
  apply (same.along launched).imp
  · rintro after ⟨same, launched⟩
    exact settled_tmr_run launched (same.trans directions)
  · intro after same
    exact settled_leave (same.trans directions)

/-- The descriptors of one pass. -/
theorem serve_progress {event : Pass} {more ready : List Int32}
    (gathering : Gathering receiving sending sockets server)
    (receiving_int : receiving < 2 ^ 31) (sending_int : sending < 2 ^ 31)
    (few : sockets.length < receiving + sending)
    (total : (sockets ++ more).length ≤ receiving + sending)
    (selected : event.selected = .ready ready) (silent : server.test.ctrl_sck ∉ ready)
    (arrives : Arrives features server event more) :
    Ends (fun after => Progress receiving sending (sockets ++ more) (tmr_run after event))
      (fun after => Progress receiving sending (sockets ++ more) (leave after event))
      (serve features server event ready) := by
  have unaccepted : serve_listener features server event ready = .ok (ready, server) := by
    simp [serve_listener, gathering.creating]
  have unread : serve_control server event ready = .ok server := by
    simp [serve_control, FD_ISSET, silent]
  obtain ⟨after, served, gathered⟩ := prot_listener_gathers gathering receiving_int sending_int few
    total selected arrives
  have all := counted_all gathered.counted receiving_int sending_int total
  have streams : serve features server event ready =
      if all_accepted after then start_test after event.start event.counted else .ok after := by
    simp only [serve, unaccepted, unread, serve_streams, gathering.creating, served, bind,
      Except.bind, ne_eq, not_true_eq_false, if_false]
  rw [streams]
  by_cases complete : all_accepted after = true
  · rw [if_pos complete]
    apply (start_settles gathered (all.mp complete)).imp
    · exact fun _ settled => .settled (all.mp complete) settled
    · exact fun _ settled => .settled (all.mp complete) settled
  · rw [if_neg complete]
    apply tmr_run_gathers _ gathered
    have missing := mt all.mpr complete
    omega

/-- One pass of the loop. -/
theorem pass_progress {event : Pass} {more : List Int32}
    (gathering : Gathering receiving sending sockets server)
    (receiving_int : receiving < 2 ^ 31) (sending_int : sending < 2 ^ 31)
    (few : sockets.length < receiving + sending)
    (total : (sockets ++ more).length ≤ receiving + sending) (spared : event.exceeded = false)
    (arrives : Arrives features server event more) :
    Progress receiving sending (sockets ++ more) (ServerLoop.pass features server event) := by
  have unfinished : ¬ server.test.state = IPERF_DONE := by
    rw [gathering.creating]
    decide
  have unended : ¬ server.test.state = IPERF_START := by
    rw [gathering.creating]
    decide
  have step (ready : List Int32) (selected : event.selected = .ready ready)
      (silent : server.test.ctrl_sck ∉ ready) :
      Progress receiving sending (sockets ++ more) (ServerLoop.pass features server event) := by
    have served := serve_progress gathering receiving_int sending_int few total selected silent
      arrives
    simp only [ServerLoop.pass, unfinished, spared, gathering.stale, selected, if_false,
      Bool.false_eq_true]
    cases result : serve features server event ready with
    | ok after => exact served.of_ok result
    | error after => exact served.of_error result
  have waits : more = [] → tmr_run server event = ServerLoop.pass features server event →
      Progress receiving sending (sockets ++ more) (ServerLoop.pass features server event) := by
    rintro rfl same
    rw [← same, List.append_nil]
    exact tmr_run_gathers few gathering
  cases arrives with
  | interrupted selected =>
      apply waits rfl
      simp only [ServerLoop.pass, unfinished, spared, gathering.stale, selected, if_false,
        Bool.false_eq_true]
  | @expired idle selected patient =>
      apply waits rfl
      simp only [ServerLoop.pass, unfinished, spared, gathering.stale, selected, if_false,
        Bool.false_eq_true, expire, unended]
      cases idle with
      | true => simp [patient rfl]
      | false => rfl
  | elsewhere selected silent nobody => exact step _ selected silent
  | connection selected silent somebody single accepted created => exact step _ selected silent
  | queued selected silent somebody quic waiting => exact step _ selected silent

/-- Every run over which the connections come in. -/
theorem connected_progress {start : Server} {status : Status}
    (begun : Gathering receiving sending [] start)
    (receiving_int : receiving < 2 ^ 31) (sending_int : sending < 2 ^ 31)
    (some_stream : 0 < receiving + sending) (run : Connected features start sockets status)
    (total : sockets.length ≤ receiving + sending) :
    Progress receiving sending sockets status := by
  induction run with
  | start => exact .gathering some_stream begun
  | @pass sockets more here event earlier creating spared arrives ih =>
      have before : sockets.length ≤ receiving + sending := by
        rw [List.length_append] at total
        omega
      cases ih before with
      | gathering few gathering =>
          exact pass_progress gathering receiving_int sending_int few total spared arrives
      | settled complete settled => exact absurd ⟨here, rfl, creating⟩ settled.left

end Runs

section Client
variable {server : Server}

theorem accounts_verify_buffers (s : Int32) (kernel : Listening) :
    Succeeds (SameAccounts server) (verify_buffers server s kernel) := by
  unfold verify_buffers
  split
  · rfl
  · trivial

theorem accounts_tcp_listen (kernel : Listening) :
    Succeeds (SameAccounts server) (iperf_tcp_listen server kernel) := by
  unfold iperf_tcp_listen
  split
  · dsimp only
    split
    · trivial
    · split
      · trivial
      · split
        · apply (accounts_verify_buffers _ _).imp
          · intro result same
            exact same.trans (accounts_close server server.test.listener)
          · exact fun _ _ => trivial
        · trivial
  · exact accounts_verify_buffers _ _

theorem accounts_sctp_listen (kernel : Listening) :
    Succeeds (SameAccounts server) (iperf_sctp_listen server kernel) := by
  unfold iperf_sctp_listen
  dsimp only
  split
  · trivial
  · split
    · trivial
    · split
      · -- The new listener and the entry in the log are no part of the accounts.
        have closed := accounts_close server server.test.listener
        unfold accounts at closed
        exact closed
      · trivial

theorem accounts_listen (kernel : Listening) :
    Succeeds (SameAccounts server) (listen server kernel) := by
  unfold ServerLoop.listen
  split
  · exact accounts_tcp_listen kernel
  · unfold iperf_udp_listen
    split
    · trivial
    · rfl
  · exact accounts_sctp_listen kernel
  · unfold iperf_quic_listen
    split
    · trivial
    · rfl

theorem accounts_exchange (features : Features) (peer : Exchange) :
    Succeeds (fun after => accounts after = accounts server)
      (iperf_exchange_parameters features server peer) := by
  have refuses : ∀ first, Succeeds (fun after => accounts after = accounts server)
      (refuse first peer) := by
    intro first
    unfold refuse
    split <;> trivial
  unfold iperf_exchange_parameters
  dsimp only
  split
  · exact refuses _
  · split
    · exact refuses _
    · let heard := { server with test := (get_parameters features server.test peer.parameters).2 }
      have listened := @accounts_listen heard peer.listening
      split
      · exact refuses _
      · rename_i s after succeeded
        have same : accounts after = accounts server := listened.of_ok succeeded
        exact send_state_rule _ _ (fun _ => same) (fun _ => same)

theorem accounts_welcome (features : Features) (contact : Contact) :
    Succeeds (fun after => accounts after = accounts server) (welcome features server contact) := by
  unfold welcome
  dsimp only
  split
  · trivial
  · let heard := { server with test := { server.test with cookie := contact.cookie } }
    let raised := { heard with test := raise_fd heard.test heard.test.ctrl_sck }
    have greeted : Succeeds (fun after => accounts after = accounts server)
        (iperf_set_send_state raised PARAM_EXCHANGE contact.greeted) :=
      send_state_rule _ _ (fun _ => rfl) (fun _ => rfl)
    apply Ends.bind greeted
    intro after same
    apply Ends.bind (accounts_exchange features contact.exchange)
    intro agreed kept
    split
    · trivial
    · exact kept.trans same

/-- A server that waits for a client. -/
structure Idle (server : Server) : Prop where
  unconnected : server.test.ctrl_sck = -1
  timer : server.timer = false
  stale : server.stale = false
  streams : server.streams = []
  rec_streams_accepted : server.rec_streams_accepted = 0
  send_streams_accepted : server.send_streams_accepted = 0

/-- The loop begins with such a server. -/
theorem listening_idle {fresh : Server} (new : Fresh fresh) {listener : Int32} {counted : Bool}
    (listening : iperf_server_listen fresh listener counted = .loop server) : Idle server := by
  unfold iperf_server_listen at listening
  dsimp only at listening
  split at listening
  · cases listening
  · cases listening
    exact ⟨new.unconnected, new.untimed, rfl, new.streamless, rfl, rfl⟩

theorem client_accepted {features : Features} {contact : Contact} {accepted : Server}
    (idle : Idle server) (admitted : iperf_accept features server contact = .ok accepted) :
    accounts accepted = accounts server ∧ accepted.test.state = CREATE_STREAMS ∧
      0 ≤ accepted.test.ctrl_sck ∧ accepted.timer = server.timer := by
  unfold iperf_accept at admitted
  dsimp only at admitted
  split at admitted
  · cases admitted
  · rename_i given
    have nonneg : 0 ≤ contact.socket := by simpa using given
    have free : (opened server contact.socket).test.ctrl_sck = -1 := idle.unconnected
    rw [if_pos free] at admitted
    unfold accept_client at admitted
    dsimp only at admitted
    split at admitted
    · cases admitted
    · cases admitted
    · let held := { opened server contact.socket with
        test := { (opened server contact.socket).test with ctrl_sck := contact.socket } }
      have welcomed := welcome_welcomes features (show 0 ≤ held.test.ctrl_sck from nonneg) contact
      have same := @accounts_welcome held features contact
      split at admitted
      · rename_i after result
        cases admitted
        obtain ⟨state, ctrl_sck, _, timer⟩ := welcomed.of_ok result
        exact ⟨same.of_ok result, state, ctrl_sck.symm ▸ nonneg, timer⟩
      · cases admitted

end Client

section Pairs
variable {features : Features} {server : Server}

def to_rec (mode : Mode) (num_streams : Int32) : Int32 := if mode = .SENDER then 0 else num_streams

def to_send (mode : Mode) (num_streams : Int32) : Int32 :=
  if mode = .RECEIVER then 0 else num_streams

theorem num_streams_int (number : Int32) : number.toInt.toNat < 2 ^ 31 := by
  have bounded := number.toInt_lt
  omega

theorem int_of_nat {number : Int32} (nonnegative : 0 ≤ number.toInt) :
    Int32.ofNat number.toInt.toNat = number := by
  have same : ((number.toInt.toNat : Nat) : Int) = number.toInt := Int.toNat_of_nonneg nonnegative
  rw [← Int32.ofInt_eq_ofNat, same, Int32.ofInt_toInt]

/-- The client has been accepted, and the numbers of streams are set. -/
theorem accepted_gathers {contact : Contact} {accepted : Server} (idle : Idle server)
    (admitted : iperf_accept features server contact = .ok accepted)
    (some_streams : 0 ≤ accepted.test.num_streams.toInt) :
    Gathering (to_rec accepted.test.mode accepted.test.num_streams).toInt.toNat
      (to_send accepted.test.mode accepted.test.num_streams).toInt.toNat []
      (set_streams_number accepted) := by
  obtain ⟨same, state, connected, timer⟩ := client_accepted idle admitted
  simp only [accounts, Prod.mk.injEq] at same
  obtain ⟨streams, -, -, received, sent, stale⟩ := same
  have receiving : 0 ≤ (to_rec accepted.test.mode accepted.test.num_streams).toInt := by
    unfold to_rec
    split
    · decide
    · exact some_streams
  have sending : 0 ≤ (to_send accepted.test.mode accepted.test.num_streams).toInt := by
    unfold to_send
    split
    · decide
    · exact some_streams
  constructor
  · constructor
    · exact streams.trans idle.streams
    · exact (int_of_nat receiving).symm
    · exact (int_of_nat sending).symm
    · simpa [set_streams_number] using received.trans idle.rec_streams_accepted
    · simpa [set_streams_number] using sent.trans idle.send_streams_accepted
  · exact state
  · exact connected
  · exact timer.trans idle.timer
  · exact stale.trans idle.stale

/-- What the two sides need of each other's streams. -/
structure Paired (clients servers : List StreamResults.iperf_stream) : Prop where
  ids : servers.map (·.id) = clients.map (·.id)
  opposite : servers.map (·.sender) = clients.map (! ·.sender)
  client_distinct : (clients.map (·.id)).Nodup
  server_distinct : (servers.map (·.id)).Nodup

theorem new_streams_senders (senders : List Bool) :
    (new_streams senders).map (·.sender) = senders := by
  rw [StreamResults.new_streams_eq, List.map_map]
  exact List.zipIdx_map_fst 0 senders

theorem directions_opposite (mode : Mode) (num_streams : Int32) :
    server_directions mode.complement num_streams =
      (client_directions mode num_streams).map (! ·) := by
  cases mode <;>
    simp [server_directions, client_directions, StreamResults.iperf_create_streams,
      Mode.complement]

theorem directions_pair (mode : Mode) (num_streams : Int32) :
    Paired (new_streams (client_directions mode num_streams))
      (new_streams (server_directions mode.complement num_streams)) := by
  have opposite := directions_opposite mode num_streams
  constructor
  · rw [StreamResults.new_streams_ids, StreamResults.new_streams_ids, opposite, List.length_map]
  · have flipped : (new_streams (client_directions mode num_streams)).map (! ·.sender) =
        ((new_streams (client_directions mode num_streams)).map (·.sender)).map (! ·) := by
      rw [List.map_map]
      rfl
    rw [flipped, new_streams_senders, new_streams_senders, opposite]
  · exact StreamResults.new_streams_nodup (StreamResults.client_directions_length mode num_streams)
  · exact StreamResults.new_streams_nodup (StreamResults.server_directions_length _ num_streams)

end Pairs

/-- Once a client with this mode and number of streams has been accepted, however its
connections spread over the passes, the server waits while connections are missing, and
then has the streams that belong to the client's. -/
theorem streams_pair_up (features : Features) (mode : Mode) (num_streams : Int32)
    (some_streams : 1 ≤ num_streams.toInt) (server : Server) (idle : Idle server)
    (contact : Contact) (accepted : Server)
    (admitted : iperf_accept features server contact = .ok accepted)
    (same_mode : accepted.test.mode = mode.complement)
    (same_number : accepted.test.num_streams = num_streams) (sockets : List Int32)
    (status : Status) (run : Connected features (set_streams_number accepted) sockets status)
    (total : sockets.length ≤ (client_directions mode num_streams).length) :
    (Waits status ↔ sockets.length < (client_directions mode num_streams).length) ∧
      (sockets.length = (client_directions mode num_streams).length →
        Paired (new_streams (client_directions mode num_streams))
          (new_streams (status.server.streams.map (·.sender)))) := by
  have begun := accepted_gathers idle admitted (by rw [same_number]; omega)
  rw [same_mode, same_number] at begun
  have length : (client_directions mode num_streams).length =
      (to_rec mode.complement num_streams).toInt.toNat +
        (to_send mode.complement num_streams).toInt.toNat := by
    have opposite := congrArg List.length (directions_opposite mode num_streams)
    rw [List.length_map] at opposite
    rw [← opposite]
    simp [server_directions, to_rec, to_send]
  have positive : 0 < (to_rec mode.complement num_streams).toInt.toNat +
      (to_send mode.complement num_streams).toInt.toNat := by
    cases mode with
    | SENDER =>
        change 0 < num_streams.toInt.toNat + _
        omega
    | RECEIVER =>
        change 0 < _ + num_streams.toInt.toNat
        omega
    | BIDIRECTIONAL =>
        change 0 < num_streams.toInt.toNat + _
        omega
  have receiving_int := num_streams_int (to_rec mode.complement num_streams)
  have sending_int := num_streams_int (to_send mode.complement num_streams)
  rw [length] at total ⊢
  have progress := connected_progress begun receiving_int sending_int positive run total
  cases progress with
  | @gathering here few gathering =>
      constructor
      · exact ⟨fun _ => few, fun _ => ⟨here, rfl, gathering.creating⟩⟩
      · intro complete
        omega
  | settled complete settled =>
      constructor
      · constructor
        · exact fun waits => absurd waits settled.left
        · intro few
          omega
      · intro _
        have directions : status.server.streams.map (·.sender) =
            server_directions mode.complement num_streams := settled.flags
        rw [directions]
        exact directions_pair mode num_streams

/-- A TCP client's parameters for two streams that send. -/
def greeting : Contact :=
  contact_sample 4 cookie_sample
    (some (.object [("tcp", .bool true), ("parallel", .number 2)]))

def left_by : Except Server Server → Server
  | .ok server | .error server => server

def waiting_sample : Server :=
  { server_sample with test := { server_sample.test with listener := 3, state := IPERF_START } }

def accepted_sample : Server := left_by (iperf_accept sample_features waiting_sample greeting)

/-- The first of the two connections comes in. -/
def arrival : Pass :=
  { pass_sample with
    selected := .ready [3]
    stream := stream_sample 5 (some cookie_sample) }

def connected_sample : Int32 × Server :=
  match connect_stream sample_features (set_streams_number accepted_sample) arrival.stream with
  | .ok result => result
  | .error server => (-1, server)

theorem arrival_arrives :
    Arrives sample_features (set_streams_number accepted_sample) arrival [5] :=
  @Arrives.connection _ _ _ [3] 5 connected_sample.2 rfl (by decide +kernel) (by decide +kernel)
    (by decide +kernel) (by decide +kernel) rfl

/-- With one of two connections the server still waits. -/
theorem streams_pair_up_sample :
    Waits (ServerLoop.pass sample_features (set_streams_number accepted_sample) arrival) ↔ 1 < 2 :=
  (streams_pair_up sample_features .SENDER 2 (by decide) waiting_sample
    ⟨by decide +kernel, by decide +kernel, by decide +kernel, by decide +kernel,
      by decide +kernel, by decide +kernel⟩ greeting accepted_sample (by decide +kernel)
    (by decide +kernel) (by decide +kernel) [5] _
    (.pass .start (by decide +kernel) rfl arrival_arrives) (by decide +kernel)).1

end Iperf.StreamPairs
