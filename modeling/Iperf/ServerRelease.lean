import Iperf.ServerOutsider
import Iperf.StreamPairs
import Iperf.TimerRun

/-!
What the server's test timer does for a server whose client has gone silent. It
closes the control connection, so that the next `select` fails, except in a QUIC test
and in one that is done already; then only the wait for received data can end the
loop, and a server that only sends does not wait for any.
-/

namespace Iperf.ServerRelease

open Time TestState Config Parameters ServerLoop ServerPhases StreamPairs Outcome SelectTimeout
open TimerRun (Alarm timeout_of Advancing backlog)

section Unclosed
variable {server : Server}

/-- No descriptor of `read_set` is closed. -/
def Unclosed (server : Server) : Prop := server.stale = false

theorem Unclosed.of_accounts {after : Server} (unclosed : Unclosed server)
    (same : accounts after = accounts server) : Unclosed after := by
  have stale : after.stale = server.stale := congrArg (fun account => account.2.2.2.2.2) same
  exact stale.trans unclosed

theorem unclosed_set_send_state (unclosed : Unclosed server) (state : StateByte)
    (written : Bool) : Ends Unclosed Unclosed (iperf_set_send_state server state written) := by
  unfold iperf_set_send_state
  split
  · split
    · exact unclosed
    · exact unclosed
  · exact unclosed

theorem unclosed_close (unclosed : Unclosed server) (fd : Int32) : Unclosed (close server fd) :=
  (close_stale server fd).trans unclosed

theorem unclosed_close_streams (unclosed : Unclosed server) : Unclosed (close_streams server) := by
  rw [close_streams_eq]
  exact unclosed

theorem unclosed_handle_test_end (unclosed : Unclosed server) (message : Message) :
    Ends Unclosed Unclosed (handle_test_end server message) := by
  have closed : Unclosed (close_streams
      (emit { server with test := { server.test with done := 1 } } .statistics)) :=
    unclosed_close_streams unclosed
  have announced : Ends Unclosed Unclosed (announce_results (close_streams
      (emit { server with test := { server.test with done := 1 } } .statistics)) message) := by
    have sent := unclosed_set_send_state closed EXCHANGE_RESULTS message.announced
    unfold announce_results
    split
    · rename_i result
      apply ends_unless_quic
      have kept := sent.of_ok result
      unfold iperf_exchange_results
      dsimp only
      split
      · exact kept
      · exact kept
    · rename_i result
      exact @ends_unless_quic Unclosed (.error _) (sent.of_error result)
  apply Ends.bind announced
  intro after kept
  have printed : Unclosed (emit { after with summary_printed := true } .summary) := kept
  apply Ends.bind (ends_unless_quic (unclosed_set_send_state printed _ _))
  intro final kept
  split
  · exact kept
  · exact kept

theorem unclosed_serve_control (unclosed : Unclosed server) (event : Pass) (ready : List Int32) :
    Succeeds Unclosed (serve_control server event ready) := by
  unfold serve_control
  split
  · unfold iperf_handle_message_server
    split
    · trivial
    · exact unclosed
    · rename_i state _
      dsimp only
      split
      · exact unclosed
      · split
        · have ended := @unclosed_handle_test_end (iperf_set_test_state server state) unclosed
            event.message
          exact ended.imp (fun _ => id) (fun _ _ => trivial)
        · split
          · exact unclosed
          · split
            · exact unclosed_close_streams unclosed
            · trivial
  · exact unclosed

theorem unclosed_serve_listener (features : Features) (unclosed : Unclosed server) (event : Pass)
    (ready : List Int32) :
    Succeeds (fun result => Unclosed result.2) (serve_listener features server event ready) := by
  have accepted : Succeeds Unclosed (iperf_accept features server event.contact) := by
    unfold iperf_accept
    dsimp only
    split
    · trivial
    · split
      · unfold accept_client
        dsimp only
        split
        · trivial
        · trivial
        · let held := { opened server event.contact.socket with
            test := { (opened server event.contact.socket).test with
              ctrl_sck := event.contact.socket } }
          have same := @accounts_welcome held features event.contact
          split
          · rename_i result
            exact @Unclosed.of_accounts held _ unclosed (same.of_ok result)
          · trivial
      · exact (close_stale _ _).trans unclosed
  unfold serve_listener
  split
  · apply Ends.bind accepted
    exact fun _ => id
  · exact unclosed

theorem unclosed_next_flag (unclosed : Unclosed server) {flag : Bool} {after : Server}
    (next : next_flag server = some (flag, after)) : Unclosed after := by
  obtain ⟨receiving, sending, rfl⟩ := next_flag_counts next
  exact unclosed

theorem unclosed_new_stream (unclosed : Unclosed server) (s : Int32) (sender : Bool)
    (created : Option ServerErrno) :
    Succeeds Unclosed (iperf_new_stream server s sender created) := by
  unfold iperf_new_stream
  split
  · exact unclosed
  · trivial

theorem unclosed_accept_stream (features : Features) (unclosed : Unclosed server)
    (contact : StreamContact) : Succeeds Unclosed (accept_stream features server contact) := by
  apply Ends.bind (accounts_accept contact)
  rintro ⟨s, after⟩ same
  replace unclosed := unclosed.of_accounts same
  apply Ends.bind (accounts_common_sockopts s contact)
  intro after same
  replace unclosed := unclosed.of_accounts same
  split
  · exact unclosed
  · apply Ends.bind (accounts_tcp_options features s contact)
    intro after same
    replace unclosed := unclosed.of_accounts same
    unfold add_stream
    split
    · exact unclosed
    · rename_i next
      apply Ends.bind (unclosed_new_stream (unclosed_next_flag unclosed next) s _ _)
      exact fun _ => id

theorem unclosed_drain (unclosed : Unclosed server) (queued : List StreamContact) :
    Succeeds Unclosed (drain server queued) := by
  apply drain_rule _ unclosed
  intro server unclosed contact flag after next
  exact unclosed_new_stream (unclosed_next_flag unclosed next) _ _ _

end Unclosed

section Watched
variable {server : Server}

/-- Between two passes: a test with a timer is one whose descriptors are open. -/
def Watched (server : Server) : Prop := server.timer = true → Unclosed server

theorem watched_pthread_attr (watched : Watched server) (succeeds : Bool) (errno : ServerErrno)
    (counted : Bool) : Watched (pthread_attr server succeeds errno counted) := by
  unfold pthread_attr
  split
  · exact watched
  · rw [cleanup_server_eq]
    exact fun set => absurd set Bool.false_ne_true

theorem unclosed_close_listener (unclosed : Unclosed server) (start : Start) :
    Succeeds Unclosed (close_listener server start) := by
  unfold close_listener
  dsimp only
  split
  · exact unclosed
  · split
    · split
      · trivial
      · exact unclosed_close unclosed server.test.listener
    · exact unclosed
  · exact unclosed_close unclosed server.test.prot_listener

theorem watched_start_test (unclosed : Unclosed server) (start : Start) (counted : Bool) :
    Succeeds Watched (start_test server start counted) := by
  apply Ends.bind (unclosed_close_listener unclosed start)
  intro server unclosed
  split
  · trivial
  · have started := unclosed_set_send_state unclosed TEST_START start.started
    apply Ends.bind (started.imp (fun _ => id) (fun _ _ => trivial))
    intro server unclosed
    split
    · trivial
    · have timed : Succeeds Unclosed (create_server_timers server start) := by
        unfold create_server_timers
        dsimp only
        split_ifs
        all_goals first | exact unclosed | trivial
      apply Ends.bind timed
      intro server unclosed
      have running := unclosed_set_send_state unclosed TEST_RUNNING start.running
      apply Ends.bind (running.imp (fun _ => id) (fun _ _ => trivial))
      intro server unclosed
      have begun := watched_pthread_attr (fun _ => unclosed) start.attr_init .IEPTHREADATTRINIT
        counted
      unfold start_threads
      dsimp only
      split
      · trivial
      · exact watched_pthread_attr begun _ _ _

theorem watched_serve (features : Features) (unclosed : Unclosed server) (event : Pass)
    (ready : List Int32) : Succeeds Watched (serve features server event ready) := by
  apply Ends.bind (unclosed_serve_listener features unclosed event ready)
  rintro ⟨ready, server⟩ unclosed
  apply Ends.bind (unclosed_serve_control unclosed event ready)
  intro server unclosed
  unfold serve_streams
  split
  · exact fun _ => unclosed
  · have served : Succeeds Unclosed (serve_prot_listener features server event ready) := by
      unfold serve_prot_listener
      split
      · split
        · exact unclosed_drain unclosed event.queued
        · exact unclosed_accept_stream features unclosed event.stream
      · exact unclosed
    apply Ends.bind served
    intro server unclosed
    split
    · exact watched_start_test unclosed event.start event.counted
    · exact fun _ => unclosed

theorem watched_tmr_run (watched : Watched server) (event : Pass) :
    InLoop Watched (tmr_run server event) := by
  unfold ServerLoop.tmr_run
  split
  · intro set
    rw [(server_timer_proc_cases server).1] at set
    cases set
  · exact watched

theorem watched_pass (features : Features) (watched : Watched server) (event : Pass) :
    InLoop Watched (pass features server event) := by
  unfold ServerLoop.pass
  split
  · split <;> trivial
  · split
    · trivial
    · split
      · trivial
      · rename_i unclosed
        split
        · trivial
        · exact watched_tmr_run watched event
        · unfold expire
          split_ifs
          all_goals first | exact watched_tmr_run watched event | trivial
        · rename_i descriptors _
          have served := watched_serve features (Bool.eq_false_iff.mpr unclosed) event descriptors
          split
          · rename_i result
            exact watched_tmr_run (served.of_ok result) event
          · trivial

theorem run_watched (features : Features) (server : Server) (listener : Int32) (counted : Bool)
    (events : List Pass) :
    InLoop Watched (iperf_run_server features server listener counted events) := by
  apply run_keeps
  · exact fun server event watched => watched_pass features watched event
  · unfold iperf_server_listen
    dsimp only
    split
    · trivial
    · exact fun _ => rfl

end Watched

section Waiting

/-- A server in its loop, with all that its waiting depends on. -/
structure Waiting where
  server : Server
  /-- `bitrate_limit_exceeded`, which no callback of a test that is done sets -/
  exceeded : Bool
  rcv_timeout : iperf_time
  idle_timeout : Int32
  timers : List Alarm
  clock : Int
  last_receive_time : Int
  last_receive_blocks : UInt64
  blocks_received : UInt64

variable (w : Waiting)

def Waiting.select_timeout (start : Int) : Option timeval :=
  (Side.server w.server.test.state w.server.test.mode w.idle_timeout).select_timeout
    w.rcv_timeout (timeout_of w.timers start)

/-- Nothing was received for too long, in a test that runs. -/
def Waiting.stalled (finish : Int) : Bool :=
  micros w.rcv_timeout < finish - w.last_receive_time ∧ w.blocks_received = w.last_receive_blocks

/-- A pass without a byte and without a connection: the `select` from `start` to
`finish` times out, and the timers run. -/
structure Quiet (event : Pass) (start finish ran : Int) (timers : List Alarm) : Prop where
  exceeded : event.exceeded = w.exceeded
  started : w.clock ≤ start
  waited : ∃ used, w.select_timeout start = some used ∧ start + used.usecs ≤ finish
  expired : event.selected = .expired (w.stalled finish)
  resumed : finish ≤ ran
  fired : TimerRun.tmr_run ran w.timers timers

/-- After such a pass; it may be the first to see the last blocks. -/
def Waiting.after (server : Server) (finish ran : Int) (timers : List Alarm) : Waiting :=
  let progress := w.last_receive_blocks < w.blocks_received
  { w with
    server := server
    timers := timers
    clock := ran
    last_receive_time := if progress then finish else w.last_receive_time
    last_receive_blocks := if progress then w.blocks_received else w.last_receive_blocks }

/-- The loop is left after finitely many passes, however the clock goes on: before the
next `select`, or, as that wakes up, in one of the passes from there. -/
inductive Leaves (features : Features) : Waiting → Prop
  | now {w : Waiting}
      (at_once : ∀ event : Pass, event.exceeded = w.exceeded →
        ∃ server, pass features w.server event = .returned server) : Leaves features w
  | later {w : Waiting} (wakes : ∀ start, w.select_timeout start ≠ none)
      (passes : ∀ event start finish ran timers server, Quiet w event start finish ran timers →
        pass features w.server event = .loop server →
        Leaves features (w.after server finish ran timers)) : Leaves features w

variable {w} {features : Features}

/-- A running test whose timer has fired. -/
structure Spent (w : Waiting) : Prop where
  running : w.server.test.state = TEST_RUNNING
  untimed : w.server.timer = false
  advancing : Advancing w.timers

theorem tmr_run_untimed {server : Server} (untimed : server.timer = false) (event : Pass) :
    ServerLoop.tmr_run server event = .loop server := by
  unfold ServerLoop.tmr_run
  rw [if_neg fun due => absurd (untimed.symm.trans due.1) Bool.false_ne_true]

/-- A quiet pass that stays in the loop changes nothing, and found no stall. -/
theorem quiet_pass (spent : Spent w) {event : Pass} {start finish ran : Int}
    {timers : List Alarm} (quiet : Quiet w event start finish ran timers) {server : Server}
    (stays : pass features w.server event = .loop server) :
    server = w.server ∧ (w.server.test.mode ≠ .SENDER → w.stalled finish = false) := by
  have unfinished : w.server.test.state ≠ IPERF_DONE := by
    rw [spent.running]
    decide
  have started : w.server.test.state ≠ IPERF_START := by
    rw [spent.running]
    decide
  unfold ServerLoop.pass at stays
  rw [if_neg unfinished] at stays
  split at stays
  · cases stays
  · split at stays
    · cases stays
    · simp only [quiet.expired, expire, tmr_run_untimed spent.untimed, if_neg started] at stays
      cases stalled : w.stalled finish with
      | false =>
          simp only [stalled, Bool.false_eq_true, if_false] at stays
          cases stays
          exact ⟨rfl, fun _ => rfl⟩
      | true =>
          simp only [stalled, if_true] at stays
          split at stays
          · cases stays
          · rename_i sending
            cases stays
            exact ⟨rfl, fun receiving => absurd receiving sending⟩

theorem Spent.after (spent : Spent w) {ran : Int} {timers : List Alarm}
    (fired : TimerRun.tmr_run ran w.timers timers) (finish : Int) :
    Spent (w.after w.server finish ran timers) :=
  ⟨spent.running, spent.untimed, (TimerRun.tmr_run_fires spent.advancing fired 0).advancing⟩

end Waiting

section Receiving
variable {w : Waiting} {features : Features}

/-- A server that receives wakes up after the receive timeout or at the next timer. -/
theorem receiving_timeout (running : w.server.test.state = TEST_RUNNING)
    (receiving : w.server.test.mode ≠ .SENDER) (start : Int) :
    ∃ used, w.select_timeout start = some used ∧
      (used.usecs = micros w.rcv_timeout ∨
        ∃ t rest, w.timers = t :: rest ∧ used.usecs = max 0 (t.time - start)) := by
  have watched : (Side.server w.server.test.state w.server.test.mode w.idle_timeout).supervises
      w.rcv_timeout = true := by
    have started : TEST_RUNNING ≠ IPERF_START := by decide
    simp [Side.supervises, running, receiving, started]
  unfold Waiting.select_timeout
  rw [Side.select_supervised watched]
  unfold timeout_of
  cases timers : w.timers with
  | nil =>
      obtain ⟨used, gives, usecs⟩ := supervised_none w.rcv_timeout
      exact ⟨used, gives, .inl usecs⟩
  | cons t rest =>
      have total := usecs_timeval (max 0 (t.time - start))
      have due : 0 ≤ (timeval_of (max 0 (t.time - start))).usecs := by
        rw [total]
        exact Int.le_max_left _ _
      obtain ⟨used, gives, usecs⟩ := @supervised_some w.rcv_timeout _ due
      refine ⟨used, gives, ?_⟩
      rw [usecs]
      split
      · exact .inl rfl
      · exact .inr ⟨t, rest, rfl, total⟩

/-- The time up to the error, and the timers in it. -/
def rank (w : Waiting) : Nat :=
  backlog (w.last_receive_time + micros w.rcv_timeout) w.timers +
    (w.last_receive_time + micros w.rcv_timeout - w.clock).toNat

/-- A quiet pass that finds no stall waits for a timer, or for the receive timeout. -/
theorem rank_decreases (spent : Spent w) (receiving : w.server.test.mode ≠ .SENDER)
    (positive : 0 < micros w.rcv_timeout) (seen : w.blocks_received = w.last_receive_blocks)
    {event : Pass} {start finish ran : Int} {timers : List Alarm}
    (quiet : Quiet w event start finish ran timers) (goes_on : w.stalled finish = false) :
    rank (w.after w.server finish ran timers) < rank w := by
  obtain ⟨used, gives, kinds⟩ := receiving_timeout spent.running receiving start
  obtain ⟨_, started, ⟨same, waits, finished⟩, _, resumed, fired⟩ := quiet
  obtain rfl := Option.some.inj (waits.symm.trans gives)
  have within : finish ≤ w.last_receive_time + micros w.rcv_timeout := by
    simp only [Waiting.stalled, seen, and_true, decide_eq_false_iff_not] at goes_on
    omega
  have still : ¬ w.last_receive_blocks < w.blocks_received := by
    rw [seen]
    exact UInt64.lt_irrefl _
  simp only [rank, Waiting.after, still, if_false]
  generalize w.last_receive_time + micros w.rcv_timeout = bound at within ⊢
  have less := (TimerRun.tmr_run_fires spent.advancing fired bound).backlog
  rcases kinds with whole | ⟨t, rest, timed, usecs⟩
  · omega
  · have advancing := spent.advancing
    rw [timed] at advancing fired less ⊢
    have fewer := @TimerRun.tmr_run_progress ran bound t rest timers advancing fired (by omega)
      (by omega)
    omega

theorem settled_leaves (spent : Spent w) (receiving : w.server.test.mode ≠ .SENDER)
    (positive : 0 < micros w.rcv_timeout) (seen : w.blocks_received = w.last_receive_blocks) :
    Leaves features w := by
  induction amount : rank w using Nat.strongRecOn generalizing w with
  | ind amount ih =>
      subst amount
      apply Leaves.later
      · intro start blocked
        obtain ⟨used, gives, _⟩ := receiving_timeout spent.running receiving start
        rw [blocked] at gives
        cases gives
      · intro event start finish ran timers server quiet stays
        obtain ⟨rfl, unstalled⟩ := quiet_pass spent quiet stays
        apply ih _ _ (spent.after quiet.fired finish) receiving positive _ rfl
        · exact rank_decreases spent receiving positive seen quiet (unstalled receiving)
        · simp [Waiting.after, seen]

/-- The first pass sees the last blocks. -/
theorem receiving_leaves (spent : Spent w) (receiving : w.server.test.mode ≠ .SENDER)
    (positive : 0 < micros w.rcv_timeout) (known : w.last_receive_blocks ≤ w.blocks_received) :
    Leaves features w := by
  apply Leaves.later
  · intro start blocked
    obtain ⟨used, gives, _⟩ := receiving_timeout spent.running receiving start
    rw [blocked] at gives
    cases gives
  · intro event start finish ran timers server quiet stays
    obtain ⟨rfl, _⟩ := quiet_pass spent quiet stays
    apply settled_leaves (spent.after quiet.fired finish) receiving positive
    simp only [Waiting.after]
    split
    · rfl
    · rename_i none
      exact UInt64.le_antisymm (UInt64.not_lt.mp none) known

end Receiving

section Sending
variable {w : Waiting} {features : Features}

/-- A server that only sends, with its descriptors open and its rate within the limit. -/
structure Sends (w : Waiting) : Prop where
  spent : Spent w
  mode : w.server.test.mode = .SENDER
  unclosed : Unclosed w.server
  within : w.exceeded = false

theorem sending_pass (sends : Sends w) {event : Pass} (within : event.exceeded = w.exceeded)
    (selected : event.selected = .interrupted ∨ ∃ idle, event.selected = .expired idle) :
    pass features w.server event = .loop w.server := by
  have unfinished : w.server.test.state ≠ IPERF_DONE := by
    rw [sends.spent.running]
    decide
  have started : w.server.test.state ≠ IPERF_START := by
    rw [sends.spent.running]
    decide
  have unclosed : ¬ w.server.stale = true := Bool.eq_false_iff.mp sends.unclosed
  have limited : ¬ event.exceeded = true := by
    rw [within, sends.within]
    exact Bool.false_ne_true
  have runs := fun event => tmr_run_untimed sends.spent.untimed event
  unfold ServerLoop.pass
  rw [if_neg unfinished, if_neg limited, if_neg unclosed]
  rcases selected with interrupted | ⟨idle, expired⟩
  · simp only [interrupted, runs]
  · simp [expired, expire, started, sends.mode, runs]

/-- Nothing ends the loop of a server that only sends. -/
theorem sending_stays (leaves : Leaves features w) : ¬ Sends w := by
  induction leaves with
  | now at_once =>
      intro sends
      obtain ⟨server, returns⟩ := at_once pass_sample sends.within.symm
      rw [sending_pass sends sends.within.symm (.inl rfl)] at returns
      cases returns
  | @later w wakes _ ih =>
      intro sends
      have plain : w.select_timeout w.clock = timeout_of w.timers w.clock := by
        have started : TEST_RUNNING ≠ IPERF_START := by decide
        simp [Waiting.select_timeout, Side.select_timeout, sends.spent.running, sends.mode,
          started]
      cases timeout : w.select_timeout w.clock with
      | none => exact wakes w.clock timeout
      | some used =>
          let finish := w.clock + used.usecs
          let event := { pass_sample with selected := .expired (w.stalled finish) }
          rcases TimerRun.tmr_run_returns finish sends.spent.advancing with ⟨timers, fired⟩
          have quiet : Quiet w event w.clock finish finish timers :=
            ⟨sends.within.symm, Int.le_refl _, ⟨used, timeout, Int.le_refl _⟩, rfl,
              Int.le_refl _, fired⟩
          have stays : pass features w.server event = .loop w.server :=
            sending_pass sends sends.within.symm (.inr ⟨_, rfl⟩)
          exact ih event _ _ _ _ _ quiet stays
            ⟨sends.spent.after fired finish, sends.mode, sends.unclosed, sends.within⟩

end Sending

section Timer
variable {features : Features} {server : Server}

/-- What the timer does where it is not the first to end the test, or in a QUIC test. -/
theorem server_timer_proc_test (server : Server) :
    (server_timer_proc server).test.mode = server.test.mode ∧
      (server.test.done ≠ 0 ∨ server.test.protocol = .Pquic →
        (server_timer_proc server).stale = server.stale) ∧
      (server.test.done = 0 → server.test.protocol ≠ .Pquic →
        (server_timer_proc server).stale =
          (server.stale || decide (0 ≤ server.test.ctrl_sck))) := by
  unfold server_timer_proc
  dsimp only
  split
  · rename_i ended
    exact ⟨rfl, fun _ => rfl, fun running => absurd running ended⟩
  · rename_i running
    split
    · rename_i quic
      exact ⟨rfl, fun _ => rfl, fun _ other => absurd quic other⟩
    · rename_i other
      have printed (server : Server) : (print_summary server).stale = server.stale := by
        unfold print_summary
        dsimp only
        split <;> rfl
      constructor
      · rw [close_ctrl_sck_test, print_summary_test]
      · constructor
        · rintro (ended | quic)
          · exact absurd ended running
          · exact absurd quic other
        · intro _ _
          rw [close_ctrl_sck, printed, print_summary_test]

/-- A server leaves its loop at the next pass with its limit exceeded, or with a
descriptor closed. -/
theorem leaves_at_once {w : Waiting} (running : w.server.test.state = TEST_RUNNING)
    (ends : w.exceeded = true ∨ w.server.stale = true) : Leaves features w := by
  have unfinished : w.server.test.state ≠ IPERF_DONE := by
    rw [running]
    decide
  apply Leaves.now
  intro event same
  unfold ServerLoop.pass
  rw [if_neg unfinished]
  by_cases exceeded : event.exceeded = true
  · rw [if_pos exceeded]
    exact ⟨_, rfl⟩
  · have stale : w.server.stale = true := by
      rcases ends with beyond | stale
      · exact absurd (same.trans beyond) exceeded
      · exact stale
    rw [if_neg exceeded, if_pos stale]
    exact ⟨_, rfl⟩

/-- Once the timer has fired in a running test, a server to which nothing comes leaves
its loop just when its rate had exceeded the limit, or it receives, or it was not a QUIC
test and no worker had ended it (with `done`, at the end of a file). -/
theorem timer_frees_iff {listener : Int32} {counted : Bool} {events : List Pass}
    {reached : Server} (fresh : Fresh server)
    (runs : iperf_run_server features server listener counted events = .loop reached)
    (running : reached.test.state = TEST_RUNNING) (set : reached.timer = true) (done : Int32)
    (w : Waiting)
    (fired : w.server =
      server_timer_proc { reached with test := { reached.test with done := done } })
    (positive : 0 < micros w.rcv_timeout) (advancing : Advancing w.timers)
    (known : w.last_receive_blocks ≤ w.blocks_received) :
    Leaves features w ↔ w.exceeded = true ∨ reached.test.mode ≠ .SENDER ∨
      (reached.test.protocol ≠ .Pquic ∧ done = 0) := by
  have phased := run_phased features fresh listener counted events
  have watched := run_watched features server listener counted events
  rw [runs] at phased watched
  obtain ⟨connected, _⟩ := phased.steady.timed set
  have unclosed : reached.stale = false := watched set
  obtain ⟨untimed, state, _⟩ := server_timer_proc_cases
    { reached with test := { reached.test with done := done } }
  obtain ⟨mode, spared, closed⟩ := server_timer_proc_test
    { reached with test := { reached.test with done := done } }
  rw [← fired] at untimed state mode spared closed
  have spent : Spent w := ⟨state.trans running, untimed, advancing⟩
  constructor
  · intro leaves
    by_contra stays
    simp only [not_or, not_and, not_not] at stays
    obtain ⟨within, sending, other⟩ := stays
    apply sending_stays leaves
    refine ⟨spent, mode.trans sending, ?_, Bool.eq_false_iff.mpr within⟩
    apply (spared _).trans unclosed
    by_cases quic : reached.test.protocol = .Pquic
    · exact .inr quic
    · exact .inl (other quic)
  · rintro (exceeded | receiving | ⟨protocol, undone⟩)
    · exact leaves_at_once spent.running (.inl exceeded)
    · exact receiving_leaves spent (mode ▸ receiving) positive known
    · apply leaves_at_once spent.running
      rw [closed undone protocol]
      exact .inr (by simp [connected])

end Timer

section Samples

/-- A client's connection, and a stream on `prot_listener`. -/
def client_passes (members : List (String × Json.cJSON)) (prot_listener : Int32) : List Pass :=
  let contact := contact_sample 4 cookie_sample (some (.object members))
  let listening := { contact.exchange.listening with socket := prot_listener }
  [{ pass_sample with
      selected := .ready [3]
      contact := { contact with exchange := { contact.exchange with listening := listening } } },
    { pass_sample with
      selected := .ready [prot_listener]
      stream := stream_sample 5 (some cookie_sample)
      queued := [stream_sample 5 none] }]

/-- The other side asks for ten seconds in which the server sends. -/
def reverse_test (protocol : String) : List (String × Json.cJSON) :=
  [(protocol, .bool true), ("reverse", .bool true), ("time", .number 10), ("parallel", .number 1)]

def tcp_server : Server :=
  (iperf_run_server sample_features server_sample 3 false
    (client_passes (reverse_test "tcp") 3)).server

def quic_server : Server :=
  (iperf_run_server sample_features server_sample 3 false
    (client_passes (reverse_test "quic") 6)).server

theorem tcp_reached :
    iperf_run_server sample_features server_sample 3 false
        (client_passes (reverse_test "tcp") 3) = .loop tcp_server ∧
      tcp_server.test.state = TEST_RUNNING ∧ tcp_server.timer = true ∧
      tcp_server.stale = false ∧ tcp_server.test.mode = .SENDER := by
  decide +kernel

theorem quic_reached :
    iperf_run_server sample_features server_sample 3 false
        (client_passes (reverse_test "quic") 6) = .loop quic_server ∧
      quic_server.test.state = TEST_RUNNING ∧ quic_server.timer = true ∧
      quic_server.stale = false ∧ quic_server.test.mode = .SENDER ∧
      quic_server.test.protocol = .Pquic := by
  decide +kernel

/-- After the timer, with the statistics every second. -/
def released (server : Server) : Waiting :=
  { server := server_timer_proc server, exceeded := false, rcv_timeout := ⟨120, 0⟩
    idle_timeout := 0, timers := [⟨51000000, 1000000, true⟩], clock := 50000000
    last_receive_time := 0, last_receive_blocks := 0, blocks_received := 0 }

theorem released_stays {server : Server} (running : server.test.state = TEST_RUNNING)
    (sending : server.test.mode = .SENDER) (unclosed : Unclosed server)
    (spared : server.test.done ≠ 0 ∨ server.test.protocol = .Pquic) :
    ¬ Leaves sample_features (released server) := by
  intro leaves
  obtain ⟨untimed, state, _⟩ := server_timer_proc_cases server
  obtain ⟨mode, keeps, _⟩ := server_timer_proc_test server
  apply sending_stays leaves
  constructor
  · exact ⟨state.trans running, untimed, by simp [Advancing, released]⟩
  · exact mode.trans sending
  · exact (keeps spared).trans unclosed
  · rfl

end Samples

theorem timer_frees_sample :
    Leaves sample_features (released tcp_server) ↔ (released tcp_server).exceeded = true ∨
      tcp_server.test.mode ≠ .SENDER ∨
        (tcp_server.test.protocol ≠ .Pquic ∧ tcp_server.test.done = 0) := by
  obtain ⟨runs, running, set, _⟩ := tcp_reached
  apply timer_frees_iff ServerOutsider.fresh_sample runs running set tcp_server.test.done
    (released tcp_server) rfl
  · decide
  · simp [Advancing, released]
  · decide

/-- Two tests in which the server sends: over QUIC, and with a file that has come to its
end. The statistics timer wakes the loop for ever. -/
theorem timer_frees_counterexample :
    (quic_server.test.state = TEST_RUNNING ∧ quic_server.timer = true ∧
      ¬ Leaves sample_features (released quic_server)) ∧
    (tcp_server.test.state = TEST_RUNNING ∧ tcp_server.timer = true ∧
      ¬ Leaves sample_features
        (released { tcp_server with test := { tcp_server.test with done := 1 } })) := by
  obtain ⟨_, running, set, unclosed, sending, quic⟩ := quic_reached
  obtain ⟨_, running_tcp, set_tcp, unclosed_tcp, sending_tcp⟩ := tcp_reached
  refine ⟨⟨running, set, ?_⟩, running_tcp, set_tcp, ?_⟩
  · exact released_stays running sending unclosed (.inr quic)
  · exact released_stays running_tcp sending_tcp unclosed_tcp (.inl (by decide))

end Iperf.ServerRelease
