import Mathlib.Data.List.Induction
import Iperf.ServerPhases

/-!
The descriptors of a run, from `netannounce` to the return of `cleanup_server`. A
TCP test awaits its streams on the listener itself, and the answers to `TEST_END`
and `CLIENT_TERMINATE` leave the closed sockets in the streams; a run that ends
without either closes every descriptor once.
-/

namespace Iperf.ServerDescriptors

open TestState Json Config Parameters ServerLoop ServerPhases DescriptorLedger Outcome Transition
open ServerRound (raise_fd iperf_on_connect)

section Ledger
variable {log : List (Entry Int32)} {fds others gone : List Int32} {fd : Int32}

/-- The descriptors among the numbers that the fields hold. -/
def descriptors (fds : List Int32) : List Int32 := fds.filter (0 ≤ ·)

/-- In a log that a kernel can produce, exactly these are open. -/
def Ledger (log : List (Entry Int32)) (fds : List Int32) : Prop :=
  Lawful log → Accounted log (descriptors fds)

theorem ledger_nil (none_held : descriptors fds = []) : Ledger [] fds := by
  intro _
  rw [none_held]
  exact accounted_nil

theorem Ledger.of_eq (ledger : Ledger log fds) (same : descriptors others = descriptors fds) :
    Ledger log others := by
  rw [Ledger, same]
  exact ledger

theorem Ledger.perm (ledger : Ledger log fds) (same : fds.Perm others) : Ledger log others :=
  fun lawful => (ledger lawful).perm (same.filter _)

theorem Ledger.opened (ledger : Ledger log fds) (number : 0 ≤ fd) :
    Ledger (log ++ [.opened fd]) (fd :: fds) := by
  intro lawful
  obtain ⟨lawful, unused⟩ := lawful_opened.mp lawful
  have grown := (ledger lawful).opened unused
  simpa [descriptors, number] using grown

theorem Ledger.closes (ledger : Ledger log (gone ++ fds)) : Ledger (log ++ closes gone) fds := by
  induction gone generalizing log with
  | nil => simpa [ServerLoop.closes] using ledger
  | cons fd rest ih =>
      by_cases number : 0 ≤ fd
      · have shrunk : Ledger (log ++ [.closed fd]) (rest ++ fds) := by
          intro lawful
          have owned := ledger (lawful_closed.mp lawful)
          simp only [descriptors, List.cons_append, number, decide_true, List.filter_cons_of_pos]
            at owned
          exact owned.closed
        simpa [ServerLoop.closes, number] using ih shrunk
      · have same : Ledger log (rest ++ fds) :=
          ledger.of_eq (by simp [descriptors, number])
        simpa [ServerLoop.closes, number] using ih same

theorem Ledger.closed (ledger : Ledger log (fd :: fds)) :
    Ledger (log ++ ServerLoop.closes [fd]) fds :=
  @Ledger.closes log fds [fd] ledger

/-- A descriptor that is held was not closed. -/
theorem Ledger.held_open (ledger : Ledger log fds) (number : 0 ≤ fd) (member : fd ∈ fds)
    (shut : isOpen log fd = false) : Ledger log others := by
  intro lawful
  have held : isOpen log fd = true :=
    ((ledger lawful).holds fd).mpr (List.mem_filter.mpr ⟨member, by simpa using number⟩)
  rw [shut] at held
  cases held

end Ledger

section Holdings
variable {server before : Server}

def fields (test : iperf_test) : List Int32 :=
  [test.ctrl_sck, test.listener] ++ if test.protocol = .Pudp then [test.prot_listener] else []

/-- Where the server keeps its descriptors; the `prot_listener` of a TCP test is the listener. -/
def held (server : Server) : List Int32 := server.streams.map (·.socket) ++ fields server.test

structure Balanced (server : Server) : Prop where
  domain : server.test.protocol = .Ptcp ∨ server.test.protocol = .Pudp
  single : server.test.protocol = .Ptcp → server.test.state ≠ CREATE_STREAMS →
    server.test.prot_listener = -1
  idle : server.test.ctrl_sck = -1 → server.stale = false → server.test.prot_listener = -1
  ledger : Ledger server.log (held server)

/-- `cleanup_server` closes what is open and nothing else. -/
def Closable (server : Server) : Prop := Ledger server.log (remaining server)

theorem closable_of_held (domain : server.test.protocol = .Ptcp ∨ server.test.protocol = .Pudp)
    (single : server.test.protocol = .Ptcp → server.test.prot_listener = -1)
    (ledger : Ledger server.log (held server)) : Closable server := by
  apply ledger.of_eq
  rcases domain with tcp | udp
  · simp [remaining, sockets, held, fields, tcp, single tcp, descriptors, List.filter_cons]
  · simp [remaining, sockets, held, fields, udp, descriptors]

theorem Balanced.closable (balanced : Balanced server)
    (settled : server.test.protocol = .Ptcp → server.test.state ≠ CREATE_STREAMS) :
    Closable server :=
  closable_of_held balanced.domain (fun tcp => balanced.single tcp (settled tcp)) balanced.ledger

theorem ledger_cleanup (closable : Closable server) (counted : Bool) :
    Ledger (cleanup_server server counted).log [] := by
  have all : Ledger server.log (remaining server ++ []) := by
    rw [List.append_nil]
    exact closable
  rw [cleanup_server_eq]
  exact all.closes

/-- What the books are about. -/
def holdings (server : Server) :
    List (Entry Int32) × List Stream × Int32 × Int32 × Int32 × Protocol :=
  (server.log, server.streams, server.test.ctrl_sck, server.test.listener,
    server.test.prot_listener, server.test.protocol)

abbrev Keeps (before : Server) : Except Server Server → Prop :=
  Ends (fun after => holdings after = holdings before)
    (fun after => holdings after = holdings before)

theorem ledger_of_same (ledger : Ledger before.log (held before))
    (same : holdings server = holdings before) : Ledger server.log (held server) := by
  simp only [holdings, Prod.mk.injEq] at same
  obtain ⟨log, streams, ctrl_sck, listener, prot_listener, protocol⟩ := same
  simp only [held, fields, log, streams, ctrl_sck, listener, prot_listener, protocol]
  exact ledger

theorem keeps_set_send_state (same : holdings server = holdings before) (state : StateByte)
    (written : Bool) : Keeps before (iperf_set_send_state server state written) := by
  unfold iperf_set_send_state
  split
  · split
    · exact same
    · exact same
  · exact same

end Holdings

section Connection
variable (features : Features) {server : Server}

/-- `protocol->listen` gets its socket. -/
def Listens (test : iperf_test) (kernel : Listening) : Prop :=
  if test.protocol = .Ptcp then
    (relistens test = true →
      0 ≤ kernel.socket ∧ kernel.prepared = none ∧ kernel.listens = true) ∧ kernel.buffers = none
  else 0 ≤ kernel.socket

/-- The test when the client's parameters are read. -/
def greet (test : iperf_test) (contact : Contact) : iperf_test :=
  { raise_fd { test with ctrl_sck := contact.socket, cookie := contact.cookie } contact.socket with
    state := PARAM_EXCHANGE }

/-- The client asks for a TCP or a UDP test. -/
def AsksTcpUdp (test : iperf_test) (contact : Contact) : Prop :=
  let agreed := (get_parameters features (greet test contact) contact.exchange.parameters).2
  agreed.protocol = .Ptcp ∨ agreed.protocol = .Pudp

/-- No step goes to `error_handling`, which closes the socket but leaves it in `ctrl_sck`. -/
structure Welcomes (test : iperf_test) (contact : Contact) : Prop where
  read : contact.cookie_complete = true
  greeted : contact.greeted = true
  agreed : (get_parameters features (greet test contact) contact.exchange.parameters).1 = none
  authorized : features.HAVE_SSL → contact.exchange.authorized = true
  listens : Listens
    (get_parameters features (greet test contact) contact.exchange.parameters).2
    contact.exchange.listening
  announced : contact.exchange.announced = true
  placed :
    (get_parameters features (greet test contact)
        contact.exchange.parameters).2.server_affinity ≠ -1 →
      contact.affinity_set = true
  asks : AsksTcpUdp features test contact

/-- The listener for the streams is in `s`, and all else as before. -/
structure Listened (before : Server) (s : Int32) (after : Server) : Prop where
  ctrl_sck : after.test.ctrl_sck = before.test.ctrl_sck
  protocol : after.test.protocol = before.test.protocol
  affinity : after.test.server_affinity = before.test.server_affinity
  ledger : Ledger after.log
    (held { after with test := { after.test with prot_listener := s } })

theorem listened_verify_buffers {before : Server} {s : Int32} (listened : Listened before s server)
    {kernel : Listening} (large : kernel.buffers = none) :
    Ends (fun result => Listened before result.1 result.2) (fun _ => False)
      (verify_buffers server s kernel) := by
  simp only [verify_buffers, large]
  exact listened

theorem last_first (front : List Int32) (fd : Int32) : (front ++ [fd]).Perm (fd :: front) := by
  simp

/-- A TCP listener that makes way for another one. -/
theorem ledger_replaced (tcp : server.test.protocol = .Ptcp)
    (ledger : Ledger server.log (held server)) {fd : Int32} (number : 0 ≤ fd) :
    Ledger (server.log ++ closes [server.test.listener] ++ [.opened fd])
      (held { server with test := { server.test with listener := fd } }) := by
  let front := server.streams.map (·.socket) ++ [server.test.ctrl_sck]
  have before : held server = front ++ [server.test.listener] := by
    simp [held, fields, tcp, front]
  have after : held { server with test := { server.test with listener := fd } } =
      front ++ [fd] := by
    simp [held, fields, tcp, front]
  rw [before] at ledger
  rw [after]
  have without := (ledger.perm (last_first front _)).closed
  exact (without.opened number).perm (last_first front fd).symm

theorem listened_tcp (tcp : server.test.protocol = .Ptcp)
    (ledger : Ledger server.log (held server)) {kernel : Listening}
    (ready : Listens server.test kernel) :
    Ends (fun result => Listened server result.1 result.2) (fun _ => False)
      (iperf_tcp_listen server kernel) := by
  rw [Listens, if_pos tcp] at ready
  obtain ⟨replaced, large⟩ := ready
  unfold iperf_tcp_listen
  by_cases fresh : relistens server.test
  · obtain ⟨number, prepared, listens⟩ := replaced fresh
    have given : ¬ kernel.socket < 0 := by simpa using number
    simp only [fresh, if_true, given, if_false, prepared, listens]
    apply listened_verify_buffers _ large
    refine ⟨?_, ?_, ?_, ?_⟩
    · simp [opened]
    · simp [opened]
    · simp [opened]
    · have replaced_by := ledger_replaced tcp ledger number
      rw [close_eq]
      simpa [held, fields, tcp, opened] using replaced_by
  · simp only [fresh]
    apply listened_verify_buffers _ large
    refine ⟨rfl, rfl, rfl, ?_⟩
    simpa [held, fields, tcp] using ledger

theorem held_unlistening (unlistening : server.test.prot_listener = -1) :
    descriptors (held server) =
      descriptors
        (server.streams.map (·.socket) ++ [server.test.ctrl_sck, server.test.listener]) := by
  by_cases udp : server.test.protocol = .Pudp <;>
    simp [held, fields, udp, unlistening, descriptors, List.filter_cons]

theorem listened_udp (udp : server.test.protocol = .Pudp)
    (unlistening : server.test.prot_listener = -1) (ledger : Ledger server.log (held server))
    {kernel : Listening} (ready : Listens server.test kernel) :
    Ends (fun result => Listened server result.1 result.2) (fun _ => False)
      (iperf_udp_listen server kernel) := by
  have number : 0 ≤ kernel.socket := by
    simpa [Listens, udp] using ready
  have given : ¬ kernel.socket < 0 := by simpa using number
  have others := ledger.of_eq (held_unlistening unlistening).symm
  have grown := (others.opened number).perm (last_first _ _).symm
  simp only [iperf_udp_listen, given, if_false]
  refine ⟨rfl, rfl, rfl, ?_⟩
  simpa [held, fields, udp, opened] using grown

theorem listened_listen (domain : server.test.protocol = .Ptcp ∨ server.test.protocol = .Pudp)
    (unlistening : server.test.prot_listener = -1) (ledger : Ledger server.log (held server))
    {kernel : Listening} (ready : Listens server.test kernel) :
    Ends (fun result => Listened server result.1 result.2) (fun _ => False)
      (listen server kernel) := by
  rcases domain with tcp | udp
  · simp only [ServerLoop.listen, tcp]
    exact listened_tcp tcp ledger ready
  · simp only [ServerLoop.listen, udp]
    exact listened_udp udp unlistening ledger ready

/-- The client is connected and its streams are awaited, with the books in order. -/
structure Joined (server : Server) : Prop where
  domain : server.test.protocol = .Ptcp ∨ server.test.protocol = .Pudp
  connected : 0 ≤ server.test.ctrl_sck
  state : server.test.state = CREATE_STREAMS
  ledger : Ledger server.log (held server)

theorem Joined.balanced (joined : Joined server) : Balanced server := by
  obtain ⟨domain, connected, state, ledger⟩ := joined
  constructor
  · exact domain
  · exact fun _ elsewhere => absurd state elsewhere
  · intro gone
    rw [gone] at connected
    exact absurd connected (by decide)
  · exact ledger

/-- On a connection, a byte that is written leaves the message and the new state. -/
theorem set_send_state_written (connected : 0 ≤ server.test.ctrl_sck) (state : StateByte) :
    iperf_set_send_state server state true =
      .ok (emit (iperf_set_test_state server state) (.sent state)) := by
  simp [iperf_set_send_state, connected]

theorem joined_exchange (connected : 0 ≤ server.test.ctrl_sck)
    (unlistening : server.test.prot_listener = -1)
    (ledger : Ledger server.log (held server)) (contact : Contact) (before : iperf_test)
    (greeted : server.test = greet before contact)
    (welcomes : Welcomes features before contact) :
    Ends (fun after => Joined after ∧
        (after.test.server_affinity ≠ -1 → contact.affinity_set = true)) (fun _ => False)
      (iperf_exchange_parameters features server contact.exchange) := by
  obtain ⟨_, _, agreed, authorized, listens, announced, placed, asks⟩ := welcomes
  unfold AsksTcpUdp at asks
  rw [← greeted] at agreed listens placed asks
  obtain ⟨ctrl_sck, listener, prot_listener, _⟩ :=
    get_parameters_keeps features server.test contact.exchange.parameters
  let heard : Server :=
    { server with test := (get_parameters features server.test contact.exchange.parameters).2 }
  have unlistened : heard.test.prot_listener = -1 := prot_listener.trans unlistening
  have owed : Ledger heard.log (held heard) := by
    apply ledger.of_eq
    rw [held_unlistening unlistened, held_unlistening unlistening]
    simp only [heard, ctrl_sck, listener]
  have listened := listened_listen asks unlistened owed listens
  have admitted : ¬ (features.HAVE_SSL ∧ ¬ contact.exchange.authorized = true) :=
    fun ⟨secured, denied⟩ => denied (authorized secured)
  unfold iperf_exchange_parameters
  simp only [agreed, admitted, if_false]
  cases result : listen heard contact.exchange.listening with
  | error after => exact (listened.of_error result).elim
  | ok pair =>
      obtain ⟨s, after⟩ := pair
      obtain ⟨same_ctrl_sck, protocol, affinity, ledger⟩ := listened.of_ok result
      have open_ : 0 ≤ after.test.ctrl_sck := by
        rw [same_ctrl_sck]
        exact ctrl_sck.symm ▸ connected
      simp only [announced]
      rw [set_send_state_written (by exact open_)]
      refine ⟨⟨?_, open_, rfl, ?_⟩, ?_⟩
      · exact protocol.symm ▸ asks
      · exact ledger
      · exact fun pinned => placed (affinity ▸ pinned)

theorem joined_welcome {contact : Contact} (number : 0 ≤ contact.socket)
    (unlistening : server.test.prot_listener = -1)
    (ledger : Ledger server.log
      (held { server with test := { server.test with ctrl_sck := contact.socket } }))
    (welcomes : Welcomes features server.test contact) :
    Ends Joined (fun _ => False)
      (welcome features { server with test := { server.test with ctrl_sck := contact.socket } }
        contact) := by
  unfold welcome
  simp only [welcomes.read, welcomes.greeted, not_true_eq_false, if_false]
  rw [set_send_state_written (by exact number)]
  have agreed := @joined_exchange features
    { server with
      test := greet server.test contact
      effects := server.effects ++ [.sent PARAM_EXCHANGE] }
    number unlistening ledger contact server.test rfl welcomes
  apply Ends.bind agreed
  rintro after ⟨⟨domain, connected, state, ledger⟩, placed⟩
  have pinned : ¬ (after.test.server_affinity ≠ -1 ∧ ¬ contact.affinity_set = true) :=
    fun ⟨asked, missed⟩ => missed (placed asked)
  rw [if_neg pinned]
  by_cases mapped : contact.mapped = true
  · simp only [iperf_on_connect, mapped]
    exact ⟨domain, connected, state, ledger⟩
  · simp only [iperf_on_connect, mapped]
    exact ⟨domain, connected, state, ledger⟩

theorem ledger_connected (unconnected : server.test.ctrl_sck = -1)
    (unlistening : server.test.prot_listener = -1) (ledger : Ledger server.log (held server))
    {s : Int32} (number : 0 ≤ s) :
    Ledger (server.log ++ [.opened s])
      (held { server with test := { server.test with ctrl_sck := s } }) := by
  have others : Ledger server.log
      (server.streams.map (·.socket) ++ [server.test.listener]) := by
    apply ledger.of_eq
    rw [held_unlistening unlistening, unconnected]
    simp [descriptors, List.filter_cons]
  have grown := (others.opened number).perm List.perm_middle.symm
  apply grown.of_eq
  exact held_unlistening (by exact unlistening)

/-- A connection that is accepted on a free server goes wrong in no step, or in the keepalive. -/
def OrderlyContact (server : Server) (contact : Contact) : Prop :=
  server.test.ctrl_sck = -1 → 0 ≤ contact.socket →
    contact.options = none ∧ (contact.keepalive = none → Welcomes features server.test contact)

theorem balanced_accept (balanced : Balanced server) (watched : server.stale = false)
    (elsewhere : server.test.state ≠ CREATE_STREAMS) {contact : Contact}
    (orderly : OrderlyContact features server contact) :
    Ends Balanced Closable (iperf_accept features server contact) := by
  unfold iperf_accept
  dsimp only
  split
  · exact balanced.closable fun _ => elsewhere
  · rename_i given
    have number : 0 ≤ contact.socket := by simpa using given
    split
    · rename_i unconnected
      have free : server.test.ctrl_sck = -1 := unconnected
      have unlistening : server.test.prot_listener = -1 := balanced.idle free watched
      have owed := ledger_connected free unlistening balanced.ledger number
      obtain ⟨set, welcomes⟩ := orderly free number
      unfold accept_client
      simp only [set]
      cases kept : contact.keepalive with
      | some errno => exact closable_of_held balanced.domain (fun _ => unlistening) owed
      | none =>
          have joined := @joined_welcome features (opened server contact.socket) contact number
            unlistening owed (welcomes kept)
          dsimp only
          split
          · rename_i result
            exact (joined.of_ok result).balanced
          · rename_i result
            exact (joined.of_error result).elim
    · obtain ⟨domain, single, idle, ledger⟩ := balanced
      rw [close_eq]
      exact ⟨domain, single, idle, (ledger.opened number).closed⟩

end Connection

section Control
variable {server before : Server}

/-- Their handlers close the sockets of the streams, and `cleanup_server` closes them again. -/
def ends_test (byte : Byte) : Bool :=
  byte = .received TEST_END ∨ byte = .received CLIENT_TERMINATE

/-- A control byte comes when no listener is shared, and ends no test with open streams. -/
def OrderlyByte (server : Server) (message : Message) : Prop :=
  (server.test.protocol = .Ptcp → server.test.state ≠ CREATE_STREAMS) ∧
    (ends_test message.byte = true → ∀ sp ∈ server.streams, ¬ 0 ≤ sp.socket)

theorem keeps_close_streams (same : holdings server = holdings before)
    (gone : ∀ sp ∈ server.streams, ¬ 0 ≤ sp.socket) :
    holdings (close_streams server) = holdings before := by
  have nothing : closes (sockets server) = [] := by
    unfold sockets closes
    split
    · rfl
    · simpa using gone
  rw [close_streams_eq, nothing, List.append_nil]
  exact same

theorem keeps_announce_results (same : holdings server = holdings before) (message : Message) :
    Keeps before (announce_results server message) := by
  apply announce_rule
  · exact keeps_set_send_state same EXCHANGE_RESULTS message.announced
  · intro server same
    unfold iperf_exchange_results
    dsimp only
    split
    · exact same
    · exact same

theorem keeps_handle_test_end (same : holdings server = holdings before)
    (gone : ∀ sp ∈ server.streams, ¬ 0 ≤ sp.socket) (message : Message) :
    Keeps before (handle_test_end server message) := by
  have closed := @keeps_close_streams
    (emit { server with test := { server.test with done := 1 } } .statistics) before same gone
  apply Ends.bind (keeps_announce_results closed message)
  intro server same
  have printed : holdings (emit { server with summary_printed := true } .summary) =
      holdings before := same
  apply Ends.bind (ends_unless_quic (keeps_set_send_state printed _ _))
  intro server same
  split
  · exact same
  · exact same

theorem keeps_handle_message {message : Message}
    (gone : ends_test message.byte = true → ∀ sp ∈ server.streams, ¬ 0 ≤ sp.socket) :
    Keeps server (iperf_handle_message_server server message) := by
  unfold iperf_handle_message_server
  split
  · rfl
  · rfl
  · rename_i state received
    dsimp only
    split
    · rfl
    · split
      · rename_i test_end
        subst test_end
        have ended := gone (by rw [received]; rfl)
        exact keeps_handle_test_end rfl (by exact ended) message
      · split
        · rfl
        · split
          · rename_i terminate
            subst terminate
            have ended := gone (by rw [received]; rfl)
            exact keeps_close_streams rfl (by exact ended)
          · rfl

theorem balanced_handle_message (balanced : Balanced server) (connected : 0 ≤ server.test.ctrl_sck)
    {message : Message} (orderly : OrderlyByte server message) :
    Ends Balanced Closable (iperf_handle_message_server server message) := by
  obtain ⟨elsewhere, gone⟩ := orderly
  have unshared := fun tcp => balanced.single tcp (elsewhere tcp)
  apply (keeps_handle_message gone).imp
  · intro after same
    have ledger := ledger_of_same balanced.ledger same
    simp only [holdings, Prod.mk.injEq] at same
    obtain ⟨_, _, ctrl_sck, _, prot_listener, protocol⟩ := same
    constructor
    · exact protocol.symm ▸ balanced.domain
    · intro tcp _
      rw [prot_listener]
      exact unshared (protocol ▸ tcp)
    · intro gone
      rw [← ctrl_sck, gone] at connected
      exact absurd connected (by decide)
    · exact ledger
  · intro after same
    have ledger := ledger_of_same balanced.ledger same
    simp only [holdings, Prod.mk.injEq] at same
    obtain ⟨_, _, _, _, prot_listener, protocol⟩ := same
    apply closable_of_held (protocol.symm ▸ balanced.domain) _ ledger
    intro tcp
    rw [prot_listener]
    exact unshared (protocol ▸ tcp)

end Control

section Streams
variable (features : Features) {server before : Server} {s : Int32} {contact : StreamContact}

/-- The type of service, the options and the stream itself fail in no step. -/
def Fits (server : Server) (contact : StreamContact) : Prop :=
  (server.test.settings.tos = 0 ∨ contact.tos = none) ∧ contact.created = none ∧
    (server.test.protocol = .Ptcp → contact.options = none ∧
      (features.HAVE_TCP_CONGESTION → contact.algorithm = none → server.test.congestion = none))

/-- A connection is read; then it fits, or it has another cookie and no option is set on it. -/
def OrderlyTcp (server : Server) (contact : StreamContact) : Prop :=
  0 ≤ contact.socket ∧ ∃ cookie, contact.cookie = some cookie ∧
    if same_cookie server cookie then Fits features server contact
    else server.test.settings.tos = 0

/-- `check_buffers` has its way. -/
def Buffered (server : Server) (contact : StreamContact) : Prop :=
  ¬ contact.buffercheck < 0 ∧
    (0 < contact.buffercheck → server.test.settings.socket_bufsize = 0 → ¬ contact.rechecked < 0)

/-- Once the listening socket is connected, no step fails: nothing else holds it any more. -/
def OrderlyUdp (server : Server) (contact : StreamContact) : Prop :=
  contact.received = true → Buffered server contact →
    0 ≤ contact.announced ∧ contact.replied = true ∧ Fits features server contact

def OrderlyStream (server : Server) (contact : StreamContact) : Prop :=
  if server.test.protocol = .Ptcp then OrderlyTcp features server contact
  else OrderlyUdp features server contact

/-- The new socket, and no field that holds it. -/
structure InHand (s : Int32) (contact : StreamContact) (server : Server) : Prop where
  number : 0 ≤ s
  waiting : all_accepted server = false
  fits : Fits features server contact
  ledger : Ledger server.log (s :: held server)

theorem inhand_tcp_options (inhand : InHand features s contact server) :
    Ends (InHand features s contact) Closable (set_tcp_options features server s contact) := by
  obtain ⟨number, waiting, ⟨tos, created, options⟩, ledger⟩ := inhand
  unfold set_tcp_options
  split
  · exact ⟨number, waiting, ⟨tos, created, options⟩, ledger⟩
  · rename_i tcp
    obtain ⟨set, algorithm⟩ := options (not_not.mp tcp)
    rw [set]
    dsimp only
    split
    · exact ⟨number, waiting, ⟨tos, created, options⟩, ledger⟩
    · rename_i chooses
      split
      · rename_i lost
        exact absurd (algorithm (not_not.mp chooses) lost.1) lost.2
      · exact ⟨number, waiting, ⟨tos, created, options⟩, ledger⟩

theorem next_flag_some (waiting : all_accepted server = false) : ∃ flag after,
    next_flag server = some (flag, after) ∧ after.log = server.log ∧
      after.streams = server.streams ∧ after.test = server.test := by
  unfold next_flag
  by_cases receives : server.rec_streams_accepted = server.streams_to_rec
  · have sends : server.send_streams_accepted ≠ server.streams_to_send := by
      intro sends
      simp [all_accepted, receives, sends] at waiting
    simp only [receives, ne_eq, not_true_eq_false, if_false, sends, not_false_eq_true, if_true]
    exact ⟨_, _, rfl, rfl, rfl, rfl⟩
  · simp only [ne_eq, receives, not_false_eq_true, if_true]
    exact ⟨_, _, rfl, rfl, rfl, rfl⟩

theorem ledger_add_stream (inhand : InHand features s contact server) :
    Ends (fun after => Ledger after.log (held after)) Closable (add_stream server s contact) := by
  obtain ⟨number, waiting, ⟨_, created, _⟩, ledger⟩ := inhand
  obtain ⟨flag, after, next, log, streams, test⟩ := next_flag_some waiting
  have moved : Ledger server.log (server.streams.map (·.socket) ++ s :: fields server.test) :=
    ledger.perm List.perm_middle.symm
  simp only [add_stream, next, iperf_new_stream, created]
  show Ledger after.log _
  rw [log]
  apply moved.of_eq
  simp [held, fields, raise_fd, streams, test]

/-- What `accept_stream` does with the socket from `accept`. -/
def join (server : Server) (s : Int32) (contact : StreamContact) : Except Server Server := do
  let server ← iperf_common_sockopts server s contact
  if is_closed server s then .ok server
  else
    let server ← set_tcp_options features server s contact
    add_stream server s contact

theorem accept_stream_eq (server : Server) (contact : StreamContact) :
    accept_stream features server contact =
      (accept server contact).bind fun (s, server) => join features server s contact := rfl

theorem join_of_optional (optional : iperf_common_sockopts server s contact = .ok server) :
    join features server s contact =
      if is_closed server s then .ok server
      else (set_tcp_options features server s contact).bind fun server =>
        add_stream server s contact := by
  simp only [join, optional]
  rfl

theorem ledger_join (inhand : InHand features s contact server) :
    Ends (fun after => Ledger after.log (held after)) Closable
      (join features server s contact) := by
  by_cases shut : is_closed server s = true
  -- no kernel produces such a log
  · have any : ∀ fds, Ledger server.log fds := fun fds =>
      inhand.ledger.held_open inhand.number List.mem_cons_self (by simpa [is_closed] using shut)
    by_cases unset : server.test.settings.tos = 0
    · rw [join_of_optional features (by simp [iperf_common_sockopts, unset]), if_pos shut]
      exact any _
    · simp only [join, iperf_common_sockopts, unset, if_false, shut, if_true]
      exact any _
  · have optional : iperf_common_sockopts server s contact = .ok server := by
      rcases inhand.fits.1 with unset | none_set
      · simp [iperf_common_sockopts, unset]
      · simp [iperf_common_sockopts, shut, none_set]
    rw [join_of_optional features optional, if_neg shut]
    apply Ends.bind (inhand_tcp_options features inhand)
    intro after inhand
    exact ledger_add_stream features inhand

/-- The socket of a stranger has been closed, and is left alone. -/
theorem ledger_dismiss (shut : is_closed server s = true) (unset : server.test.settings.tos = 0)
    (ledger : Ledger server.log (held server)) :
    Ends (fun after => Ledger after.log (held after)) Closable
      (join features server s contact) := by
  rw [join_of_optional features (by simp [iperf_common_sockopts, unset]), if_pos shut]
  exact ledger

theorem ledger_accept_tcp (tcp : server.test.protocol = .Ptcp)
    (waiting : all_accepted server = false) (ledger : Ledger server.log (held server))
    (orderly : OrderlyTcp features server contact) :
    Ends (fun after => Ledger after.log (held after)) Closable
      (accept_stream features server contact) := by
  obtain ⟨number, cookie, read, known⟩ := orderly
  have given : ¬ contact.socket < 0 := by simpa using number
  have compared :
      same_cookie (opened server contact.socket) cookie = same_cookie server cookie := by
    rw [same_cookie, same_cookie, show (opened server contact.socket).test = server.test from rfl]
  rw [accept_stream_eq]
  simp only [accept, tcp, iperf_tcp_accept, given, if_false, read, compared]
  by_cases same : same_cookie server cookie = true
  · rw [if_pos same] at known
    rw [if_pos same]
    exact ledger_join features ⟨number, waiting, known, ledger.opened number⟩
  · rw [if_neg same] at known
    rw [if_neg same, close_eq]
    apply ledger_dismiss features
    · simp [is_closed, closes, number]
    · exact known
    · exact (ledger.opened number).closed

/-- What the sizes of the buffers leave alone. -/
structure Sized (before after : Server) : Prop where
  same : holdings after = holdings before
  counts : all_accepted after = all_accepted before
  tos : after.test.settings.tos = before.test.settings.tos

theorem sized_settings (server : Server) (settings : iperf_settings)
    (tos : settings.tos = server.test.settings.tos) :
    Sized server { server with test := { server.test with settings := settings } } :=
  ⟨rfl, rfl, tos⟩

theorem sized_check_buffers (server : Server) (contact : StreamContact) :
    Ends (fun after => Sized server after ∧ Buffered server contact)
      (fun after => holdings after = holdings server) (check_buffers server contact) := by
  unfold check_buffers
  split
  · rfl
  · rename_i sufficient
    split
    · have raised := sized_settings server
        { server.test.settings with
          socket_bufsize := server.test.settings.blksize + UDP_BUFFER_EXTRA } rfl
      dsimp only
      split
      · exact raised.same
      · rename_i checked
        exact ⟨raised, sufficient, fun _ _ => checked⟩
    · rename_i enough
      exact ⟨⟨rfl, rfl, rfl⟩, sufficient, fun more unset => absurd ⟨more, unset⟩ enough⟩

theorem closable_of_udp (udp : server.test.protocol = .Pudp)
    (ledger : Ledger server.log (held server)) : Closable server := by
  apply closable_of_held (.inr udp) _ ledger
  intro tcp
  rw [udp] at tcp
  cases tcp

/-- The old listener is the stream's socket, and the new one takes its place. -/
theorem ledger_exchanged (udp : server.test.protocol = .Pudp)
    (ledger : Ledger server.log (held server)) {fd : Int32} (number : 0 ≤ fd) :
    Ledger (server.log ++ [.opened fd])
      (server.test.prot_listener ::
        held { server with test := { server.test with prot_listener := fd } }) := by
  let front :=
    server.streams.map (·.socket) ++ [server.test.ctrl_sck, server.test.listener]
  have before : held server = front ++ [server.test.prot_listener] := by
    simp [held, fields, udp, front]
  have after : held { server with test := { server.test with prot_listener := fd } } =
      front ++ [fd] := by
    simp [held, fields, udp, front]
  rw [before] at ledger
  rw [after]
  apply (ledger.opened number).perm
  let s := server.test.prot_listener
  calc
    List.Perm (fd :: (front ++ [s])) (fd :: s :: front) := (last_first front s).cons fd
    List.Perm _ (s :: fd :: front) := .swap s fd front
    List.Perm _ (s :: (front ++ [fd])) := (last_first front fd).symm.cons s

theorem ledger_accept_udp (udp : server.test.protocol = .Pudp)
    (number : 0 ≤ server.test.prot_listener) (waiting : all_accepted server = false)
    (ledger : Ledger server.log (held server)) (orderly : OrderlyUdp features server contact) :
    Ends (fun after => Ledger after.log (held after)) Closable
      (accept_stream features server contact) := by
  rw [accept_stream_eq]
  simp only [accept, udp, iperf_udp_accept]
  by_cases received : contact.received = true
  · have sized := sized_check_buffers server contact
    simp only [received, not_true_eq_false, if_false]
    cases checked : check_buffers server contact with
    | error after =>
        have same := sized.of_error checked
        have owed := ledger_of_same ledger same
        simp only [holdings, Prod.mk.injEq] at same
        exact closable_of_udp (same.2.2.2.2.2.trans udp) owed
    | ok after =>
        obtain ⟨⟨same, counts, tos⟩, buffered⟩ := sized.of_ok checked
        obtain ⟨announced, replied, unset, created, _⟩ := orderly received buffered
        have owed := ledger_of_same ledger same
        simp only [holdings, Prod.mk.injEq] at same
        obtain ⟨_, _, _, _, prot_listener, protocol⟩ := same
        have still_udp := protocol.trans udp
        have given : ¬ contact.announced < 0 := by simpa using announced
        have exchanged := ledger_exchanged still_udp owed announced
        simp only [given, if_false, replied, if_true]
        rw [prot_listener] at exchanged
        apply ledger_join features
        refine ⟨number, counts.trans waiting, ⟨?_, created, ?_⟩, exchanged⟩
        · exact tos.symm ▸ unset
        · intro tcp
          rw [show after.test.protocol = .Ptcp from tcp] at still_udp
          cases still_udp
  · simp only [received]
    exact closable_of_udp udp ledger

/-- Accepting a stream leaves the books in order. -/
theorem ledger_accept_stream (domain : server.test.protocol = .Ptcp ∨ server.test.protocol = .Pudp)
    (number : 0 ≤ server.test.prot_listener) (waiting : all_accepted server = false)
    (ledger : Ledger server.log (held server))
    (orderly : OrderlyStream features server contact) :
    Ends (fun after => Ledger after.log (held after)) Closable
      (accept_stream features server contact) := by
  unfold OrderlyStream at orderly
  rcases domain with tcp | udp
  · rw [if_pos tcp] at orderly
    exact ledger_accept_tcp features tcp waiting ledger orderly
  · rw [if_neg (by simp [udp])] at orderly
    exact ledger_accept_udp features udp number waiting ledger orderly

end Streams

section Start
variable {server before : Server} {start : Start}

/-- A TCP listener that is closed is replaced. -/
def OrderlyStart (server : Server) (start : Start) : Prop :=
  server.test.protocol = .Ptcp →
    server.test.no_delay ≠ 0 ∨ server.test.settings.mss ≠ 0 ∨
      server.test.settings.socket_bufsize ≠ 0 →
    0 ≤ start.announced

/-- No streams are awaited any more. -/
structure Released (server : Server) : Prop where
  domain : server.test.protocol = .Ptcp ∨ server.test.protocol = .Pudp
  unlistening : server.test.prot_listener = -1
  ledger : Ledger server.log (held server)

theorem Released.closable (released : Released server) : Closable server :=
  closable_of_held released.domain (fun _ => released.unlistening) released.ledger

theorem Released.balanced (released : Released server) : Balanced server :=
  ⟨released.domain, fun _ _ => released.unlistening, fun _ _ => released.unlistening,
    released.ledger⟩

theorem Released.of_same (released : Released before)
    (same : holdings server = holdings before) : Released server := by
  have ledger := ledger_of_same released.ledger same
  simp only [holdings, Prod.mk.injEq] at same
  obtain ⟨_, _, _, _, prot_listener, protocol⟩ := same
  exact ⟨protocol.symm ▸ released.domain, prot_listener.trans released.unlistening, ledger⟩

theorem released_of_keeps (released : Released before) {result : Except Server Server}
    (keeps : Keeps before result) : Ends Released Closable result :=
  keeps.imp (fun _ same => released.of_same same)
    (fun _ same => (released.of_same same).closable)

theorem ledger_unlistening (udp : server.test.protocol = .Pudp)
    (ledger : Ledger server.log (held server)) :
    Ledger (server.log ++ closes [server.test.prot_listener])
      (held { server with test := { server.test with prot_listener := -1 } }) := by
  have last : held server =
      (server.streams.map (·.socket) ++ [server.test.ctrl_sck, server.test.listener]) ++
        [server.test.prot_listener] := by
    simp [held, fields, udp]
  rw [last] at ledger
  apply (ledger.perm (last_first _ _)).closed.of_eq
  exact held_unlistening rfl

theorem released_close_listener
    (domain : server.test.protocol = .Ptcp ∨ server.test.protocol = .Pudp)
    (ledger : Ledger server.log (held server)) (orderly : OrderlyStart server start) :
    Ends Released Closable (close_listener server start) := by
  unfold close_listener
  dsimp only
  split
  · rename_i quic
    simp [quic] at domain
  · rename_i tcp
    split
    · rename_i replaces
      have number := orderly tcp replaces
      have given : ¬ start.announced < 0 := by simpa using number
      have replaced := ledger_replaced tcp ledger number
      rw [if_neg given, close_eq]
      refine ⟨.inl tcp, rfl, ?_⟩
      simpa [held, fields, tcp, opened, raise_fd] using replaced
    · refine ⟨.inl tcp, rfl, ?_⟩
      simpa [held, fields, tcp] using ledger
  · rename_i other
    have udp := domain.resolve_left other
    rw [close_eq]
    exact ⟨.inr udp, rfl, ledger_unlistening udp ledger⟩

theorem keeps_create_timers (server : Server) (start : Start) :
    Keeps server (create_server_timers server start) := by
  unfold create_server_timers
  dsimp only
  split_ifs <;> rfl

theorem cleared_negative (fd : Int32) : cleared fd < 0 := by
  unfold cleared
  split
  · decide
  · rename_i negative
    simpa using negative

/-- `cleanup_server` may be called in the middle of the run: it leaves nothing to close. -/
theorem released_cleanup (released : Released server) (counted : Bool) :
    Released (cleanup_server server counted) := by
  have closed := ledger_cleanup released.closable counted
  rw [cleanup_server_eq] at closed
  have other : server.test.protocol ≠ .Pquic := by
    rcases released.domain with tcp | udp
    · simp [tcp]
    · simp [udp]
  rw [cleanup_server_eq]
  refine ⟨released.domain, ?_, ?_⟩
  · simp [cleaned, other, cleared, released.unlistening]
  · apply closed.of_eq
    by_cases udp : server.test.protocol = .Pudp
    · simp [descriptors, held, fields, cleaned, udp, cleared_negative]
    · simp [descriptors, held, fields, cleaned, other, udp, cleared_negative]

theorem released_pthread_attr (released : Released server) (succeeds : Bool) (errno : ServerErrno)
    (counted : Bool) : Released (pthread_attr server succeeds errno counted) := by
  unfold pthread_attr
  split
  · exact released
  · have marked : Released (failed server errno) := released.of_same rfl
    exact released_cleanup marked counted

theorem released_start_threads (released : Released server) (start : Start) (counted : Bool) :
    Ends Released Closable (start_threads server start counted) := by
  have begun := released_pthread_attr released start.attr_init .IEPTHREADATTRINIT counted
  unfold start_threads
  dsimp only
  split
  · exact (begun.of_same rfl).closable
  · exact released_pthread_attr begun _ _ _

theorem released_start_test (domain : server.test.protocol = .Ptcp ∨ server.test.protocol = .Pudp)
    (ledger : Ledger server.log (held server)) (orderly : OrderlyStart server start)
    (counted : Bool) : Ends Released Closable (start_test server start counted) := by
  apply Ends.bind (released_close_listener domain ledger orderly)
  intro server released
  split
  · exact (released.of_same rfl).closable
  · apply Ends.bind (released_of_keeps released (keeps_set_send_state rfl _ _))
    intro server released
    split
    · exact (released.of_same rfl).closable
    · apply Ends.bind (released_of_keeps released (keeps_create_timers server start))
      intro server released
      apply Ends.bind (released_of_keeps released (keeps_set_send_state rfl _ _))
      intro server released
      exact released_start_threads released start counted

end Start

section Passes
variable (features : Features) {server : Server} {event : Pass}

/-- A stream comes while one is awaited, and the test starts when the last one is there. -/
def OrderlyStreams (server : Server) (event : Pass) (ready : List Int32) : Prop :=
  server.test.state = CREATE_STREAMS →
    (FD_ISSET server.test.prot_listener ready = true →
      all_accepted server = false ∧ OrderlyStream features server event.stream) ∧
    ∀ after, serve_prot_listener features server event ready = .ok after →
      all_accepted after = true → OrderlyStart after event.start

/-- The three turns of a pass, each from what the turns before it leave. -/
structure OrderlyServe (server : Server) (event : Pass) (ready : List Int32) : Prop where
  contact : FD_ISSET server.test.listener ready = true → server.test.state ≠ CREATE_STREAMS →
    OrderlyContact features server event.contact
  message : ∀ left after, serve_listener features server event ready = .ok (left, after) →
    FD_ISSET after.test.ctrl_sck left = true → OrderlyByte after event.message
  streams : ∀ left after last, serve_listener features server event ready = .ok (left, after) →
    serve_control after event left = .ok last → OrderlyStreams features last event left

/-- The loop ends before anything is served. -/
def GivesUp (server : Server) (event : Pass) : Prop :=
  event.exceeded = true ∨ server.stale = true ∨ event.selected = .failed ∨
    event.selected = .expired true ∧
      (server.test.state = IPERF_START ∨ server.test.mode ≠ .SENDER)

/-- A pass that loses no descriptor and closes none again. -/
structure Orderly (server : Server) (event : Pass) : Prop where
  finished : server.test.state = IPERF_DONE → event.finished = true
  patient : server.test.protocol = .Ptcp → server.test.state = CREATE_STREAMS →
    ¬ GivesUp server event
  served : server.test.state ≠ IPERF_DONE → ¬ GivesUp server event → ∀ descriptors,
    event.selected = .ready descriptors → OrderlyServe features server event descriptors

theorem balanced_serve_listener (balanced : Balanced server) (watched : server.stale = false)
    {ready : List Int32}
    (orderly : FD_ISSET server.test.listener ready = true →
      server.test.state ≠ CREATE_STREAMS → OrderlyContact features server event.contact) :
    Ends (fun result => Balanced result.2) Closable
      (serve_listener features server event ready) := by
  unfold serve_listener
  split
  · rename_i comes
    apply Ends.bind (balanced_accept features balanced watched comes.2 (orderly comes.1 comes.2))
    rintro after ⟨domain, single, idle, ledger⟩
    exact ⟨domain, single, idle, ledger⟩
  · exact balanced

theorem balanced_serve_control (balanced : Balanced server) {ready : List Int32}
    (orderly : FD_ISSET server.test.ctrl_sck ready = true → OrderlyByte server event.message) :
    Ends Balanced Closable (serve_control server event ready) := by
  unfold serve_control
  split
  · rename_i comes
    have connected : 0 ≤ server.test.ctrl_sck := by
      simp only [FD_ISSET, decide_eq_true_eq] at comes
      exact comes.1
    exact balanced_handle_message balanced connected (orderly comes)
  · exact balanced

theorem ledger_serve_prot_listener (balanced : Balanced server) {ready : List Int32}
    (orderly : FD_ISSET server.test.prot_listener ready = true →
      all_accepted server = false ∧ OrderlyStream features server event.stream) :
    Ends (fun after => Ledger after.log (held after))
      Closable (serve_prot_listener features server event ready) := by
  unfold serve_prot_listener
  split
  · rename_i comes
    obtain ⟨waiting, stream⟩ := orderly comes
    have number : 0 ≤ server.test.prot_listener := by
      simp only [FD_ISSET, decide_eq_true_eq] at comes
      exact comes.1
    split
    · rename_i quic
      have domain := balanced.domain
      simp [quic] at domain
    · exact ledger_accept_stream features balanced.domain number waiting balanced.ledger stream
  · exact balanced.ledger

theorem balanced_serve_streams (steady : Steady server) (balanced : Balanced server)
    {ready : List Int32} (orderly : OrderlyStreams features server event ready) :
    Ends Balanced Closable (serve_streams features server event ready) := by
  unfold serve_streams
  split
  · exact balanced
  · rename_i found
    have creating := not_not.mp found
    obtain ⟨stream, started⟩ := orderly creating
    have booked := ledger_serve_prot_listener features balanced stream
    have serving := serving_prot_listener features server event ready
    apply Ends.bind (booked.along serving).traced
    · rintro after ⟨⟨ledger, serving⟩, reached⟩
      have domain : after.test.protocol = .Ptcp ∨ after.test.protocol = .Pudp :=
        serving.protocol.symm ▸ balanced.domain
      split
      · rename_i complete
        have orderly := started after reached complete
        exact (released_start_test domain ledger orderly event.counted).imp
          (fun _ released => released.balanced) (fun _ => id)
      · have connected : 0 ≤ after.test.ctrl_sck :=
          serving.ctrl_sck.symm ▸ (steady.created creating).1
        refine ⟨domain, fun _ moved => ?_, fun gone => ?_, ledger⟩
        · exact absurd (serving.state.trans creating) moved
        · rw [gone] at connected
          exact absurd connected (by decide)

theorem balanced_serve (steady : Steady server) (balanced : Balanced server)
    (watched : server.stale = false) {ready : List Int32}
    (orderly : OrderlyServe features server event ready) :
    Ends Balanced Closable (serve features server event ready) := by
  have listened := balanced_serve_listener features balanced watched orderly.contact
  have steadied := steady_serve_listener features steady event ready
  apply Ends.bind (listened.along steadied).traced
  rintro ⟨left, after⟩ ⟨⟨balanced, steady⟩, reached⟩
  have controlled := balanced_serve_control balanced (orderly.message left after reached)
  apply Ends.bind (controlled.along (steady_serve_control steady event left)).traced
  rintro last ⟨⟨balanced, steady⟩, answered⟩
  exact balanced_serve_streams features steady balanced
    (orderly.streams left after last reached answered)

/-- The books of a server in the loop, and of a run that is over. -/
def Settled : Status → Prop
  | .loop server => Balanced server
  | .returned server => Ledger server.log []

theorem settled_leave (closable : Closable server) (event : Pass) :
    Settled (leave server event) :=
  ledger_cleanup closable event.counted

theorem ledger_close_ctrl_sck (ledger : Ledger server.log (held server)) :
    Ledger (close_ctrl_sck server (-1)).log (held (close_ctrl_sck server (-1))) := by
  let rest := server.test.listener ::
    if server.test.protocol = .Pudp then [server.test.prot_listener] else []
  have first : (held server).Perm
      (server.test.ctrl_sck :: (server.streams.map (·.socket) ++ rest)) := List.perm_middle
  have closed := (ledger.perm first).closed
  rw [close_ctrl_sck, close_eq]
  apply closed.of_eq
  simp [descriptors, held, fields, rest, List.filter_cons]

/-- The timer closes the control connection and clears its field. -/
theorem balanced_server_timer_proc (steady : Steady server) (balanced : Balanced server)
    (set : server.timer = true) : Balanced (server_timer_proc server) := by
  have connected := (steady.timed set).1
  obtain ⟨domain, single, idle, ledger⟩ := balanced
  unfold server_timer_proc
  dsimp only
  split
  · exact ⟨domain, single, idle, ledger⟩
  · split
    · rename_i quic
      simp [quic] at domain
    · have same : holdings (print_summary
          { server with timer := false, test := { server.test with done := 1 } }) =
          holdings server := by
        unfold print_summary
        dsimp only
        split <;> rfl
      have closed := ledger_close_ctrl_sck (ledger_of_same ledger same)
      constructor
      · rw [close_ctrl_sck_test, print_summary_test]
        exact domain
      · rw [close_ctrl_sck_test, print_summary_test]
        exact single
      · intro _ watched
        rw [close_ctrl_sck, print_summary_test] at watched
        simp [connected] at watched
      · exact closed

theorem settled_tmr_run (steady : Steady server) (balanced : Balanced server) (event : Pass) :
    Settled (tmr_run server event) := by
  unfold tmr_run
  by_cases due : server.timer ∧ event.timer_due
  · rw [if_pos due]
    exact balanced_server_timer_proc steady balanced due.1
  · rw [if_neg due]
    exact balanced

theorem settled_pass (steady : Steady server) (balanced : Balanced server)
    (orderly : Orderly features server event) : Settled (pass features server event) := by
  obtain ⟨finished, patient, served⟩ := orderly
  have leaves : GivesUp server event → Closable server := fun gives_up =>
    balanced.closable fun tcp creating => patient tcp creating gives_up
  unfold ServerLoop.pass
  split
  · rename_i done
    rw [if_pos (finished done)]
    apply settled_leave
    apply balanced.closable
    intro _ creating
    rw [done] at creating
    exact absurd creating (by decide)
  · rename_i running
    split
    · rename_i exceeded
      have closable := leaves (.inl exceeded)
      exact settled_leave (by exact closable) event
    · split
      · rename_i stale
        have closable := leaves (.inr (.inl stale))
        exact settled_leave (by exact closable) event
      · split
        · rename_i failed_select
          have closable := leaves (.inr (.inr (.inl failed_select)))
          exact settled_leave (by exact closable) event
        · exact settled_tmr_run steady balanced event
        · rename_i idle expired
          unfold expire
          split
          · rename_i long
            rw [long] at expired
            split
            · rename_i listening
              exact settled_leave (leaves (.inr (.inr (.inr ⟨expired, .inl listening⟩)))) event
            · split
              · rename_i receiving
                have closable := leaves (.inr (.inr (.inr ⟨expired, .inr receiving⟩)))
                exact settled_leave (by exact closable) event
              · exact settled_tmr_run steady balanced event
          · exact settled_tmr_run steady balanced event
        · rename_i within watched _ descriptors ready
          have waits : ¬ GivesUp server event := by
            rintro (exceeded | stale | failed_select | ⟨expired, _⟩)
            · exact within exceeded
            · exact watched stale
            · rw [ready] at failed_select
              cases failed_select
            · rw [ready] at expired
              cases expired
          have books := balanced_serve features steady balanced (Bool.eq_false_iff.mpr watched)
            (served running waits descriptors ready)
          have phases := phased_serve features steady event descriptors
          split
          · rename_i result
            exact settled_tmr_run (phases.of_ok result).steady (books.of_ok result) event
          · rename_i result
            exact settled_leave (books.of_error result) event

theorem settled_listen (fresh : Fresh server)
    (domain : server.test.protocol = .Ptcp ∨ server.test.protocol = .Pudp) (listener : Int32)
    (counted : Bool) : Settled (iperf_server_listen server listener counted) := by
  obtain ⟨unconnected, unlistening, _, streamless, unlogged⟩ := fresh
  have none_held : Ledger server.log [] := by
    rw [unlogged]
    exact ledger_nil rfl
  unfold iperf_server_listen
  dsimp only
  split
  · rename_i negative
    apply ledger_cleanup
    apply none_held.of_eq
    have protocol : server.test.protocol ≠ .Pquic := by
      rcases domain with tcp | udp
      · simp [tcp]
      · simp [udp]
    have below : ¬ 0 ≤ listener := by simpa using negative
    simp [descriptors, remaining, sockets, failed, streamless, unconnected, unlistening, protocol,
      below]
  · rename_i given
    have number : 0 ≤ listener := by simpa using given
    refine ⟨domain, fun _ _ => unlistening, fun _ _ => unlistening, ?_⟩
    apply (none_held.opened number).of_eq
    rw [held_unlistening (by exact unlistening)]
    simp [descriptors, opened, raise_fd, iperf_set_test_state, streamless, unconnected, number]

/-- The books are in order in every state that an orderly run reaches. -/
theorem run_settled (fresh : Fresh server)
    (domain : server.test.protocol = .Ptcp ∨ server.test.protocol = .Pudp) (listener : Int32)
    (counted : Bool) {events : List Pass}
    (orderly : Each (fun past event => ∀ reached,
      iperf_run_server features server listener counted past = .loop reached →
        Orderly features reached event) events) :
    Settled (iperf_run_server features server listener counted events) := by
  induction events using List.reverseRecOn with
  | nil => exact settled_listen fresh domain listener counted
  | append_singleton past event ih =>
      obtain ⟨before, last⟩ := (each_append _ _ _).mp orderly
      have settled := ih before
      have phased := run_phased features fresh listener counted past
      have next : iperf_run_server features server listener counted (past ++ [event]) =
          turn features (iperf_run_server features server listener counted past) event := by
        simp [iperf_run_server, List.foldl_append]
      rw [next]
      cases reached : iperf_run_server features server listener counted past with
      | returned after =>
          rw [reached] at settled
          exact settled
      | loop now =>
          rw [reached] at settled phased
          exact settled_pass features phased.steady settled (last now reached)

/-- In a run of a TCP or UDP test whose passes are all orderly, and in which no descriptor is
given out while it is open, every descriptor is closed exactly once. -/
theorem descriptors_closed_once {start after : Server} (fresh : Fresh start)
    (domain : start.test.protocol = .Ptcp ∨ start.test.protocol = .Pudp) {listener : Int32}
    {counted : Bool} {events : List Pass}
    (orderly : Each (fun past event => ∀ reached,
      iperf_run_server features start listener counted past = .loop reached →
        Orderly features reached event) events)
    (run : iperf_run_server features start listener counted events = .returned after)
    (lawful : Lawful after.log) : ClosedOnce after.log := by
  have settled := run_settled features fresh domain listener counted orderly
  rw [run] at settled
  have books := settled lawful
  exact books.once lawful

end Passes

section Samples

/-- A UDP client connects. -/
def udp_contact : Pass :=
  let contact := contact_sample 4 cookie_sample (some (.object [("udp", .bool true)]))
  let listening := { contact.exchange.listening with socket := 5 }
  { pass_sample with
    selected := .ready [3]
    contact := { contact with exchange := { contact.exchange with listening := listening } } }

/-- It hangs up before its stream. -/
def udp_hangup : Pass :=
  { pass_sample with selected := .ready [4], message := message_sample .closed }

def udp_run (passes : List Pass) : Status :=
  iperf_run_server sample_features server_sample 3 false passes

theorem orderly_contact_sample : Orderly sample_features (udp_run []).server udp_contact := by
  have served : serve_listener sample_features (udp_run []).server udp_contact [3] =
      .ok ([], (udp_run [udp_contact]).server) := by decide +kernel
  have answered : serve_control (udp_run [udp_contact]).server udp_contact [] =
      .ok (udp_run [udp_contact]).server := by decide +kernel
  have accepted : serve_prot_listener sample_features (udp_run [udp_contact]).server udp_contact [] =
      .ok (udp_run [udp_contact]).server := by decide +kernel
  constructor
  · exact fun done => absurd done (by decide +kernel)
  · exact fun _ creating => absurd creating (by decide +kernel)
  · intro _ _ descriptors ready
    cases ready
    constructor
    · intro _ _ _ _
      refine ⟨rfl, fun _ => ?_⟩
      constructor
      · rfl
      · rfl
      · decide +kernel
      · exact fun _ => rfl
      · show (0 : Int32) ≤ 5
        decide
      · rfl
      · exact fun _ => rfl
      · exact .inr (by decide +kernel)
    · intro left after result comes
      rw [served] at result
      cases result
      exact absurd comes (by decide +kernel)
    · intro left after last result control
      rw [served] at result
      cases result
      rw [answered] at control
      cases control
      intro _
      constructor
      · exact fun comes => absurd comes (by decide +kernel)
      · intro final stream _
        rw [accepted] at stream
        cases stream
        exact fun tcp => absurd tcp (by decide +kernel)

theorem orderly_hangup_sample :
    Orderly sample_features (udp_run [udp_contact]).server udp_hangup := by
  have served : serve_listener sample_features (udp_run [udp_contact]).server udp_hangup [4] =
      .ok ([4], (udp_run [udp_contact]).server) := by decide +kernel
  have answered : serve_control (udp_run [udp_contact]).server udp_hangup [4] =
      .ok (udp_run [udp_contact, udp_hangup]).server := by decide +kernel
  constructor
  · exact fun done => absurd done (by decide +kernel)
  · exact fun tcp => absurd tcp (by decide +kernel)
  · intro _ _ descriptors ready
    cases ready
    constructor
    · exact fun comes => absurd comes (by decide +kernel)
    · intro left after result comes
      rw [served] at result
      cases result
      exact ⟨fun tcp => absurd tcp (by decide +kernel), fun ends => absurd ends (by decide +kernel)⟩
    · intro left after last result control
      rw [served] at result
      cases result
      rw [answered] at control
      cases control
      exact fun creating => absurd creating (by decide +kernel)

theorem orderly_done_sample :
    Orderly sample_features (udp_run [udp_contact, udp_hangup]).server pass_sample :=
  ⟨fun _ => rfl, fun _ creating => absurd creating (by decide +kernel),
    fun running => absurd (by decide +kernel) running⟩

theorem descriptors_closed_once_sample :
    ClosedOnce (udp_run [udp_contact, udp_hangup, pass_sample]).server.log := by
  have lawful : Lawful (([] : List (Entry Int32)) ++ [.opened 3] ++ [.opened 4] ++ [.opened 5] ++
      [.closed 4] ++ [.closed 3] ++ [.closed 5]) := by
    simp only [lawful_opened, lawful_closed]
    exact ⟨⟨⟨each_nil _, by decide⟩, by decide⟩, by decide⟩
  have log : (udp_run [udp_contact, udp_hangup, pass_sample]).server.log =
      [.opened 3, .opened 4, .opened 5, .closed 4, .closed 3, .closed 5] := by decide +kernel
  have orderly : Each (fun past event => ∀ reached, udp_run past = .loop reached →
      Orderly sample_features reached event)
      (([] ++ [udp_contact]) ++ [udp_hangup] ++ [pass_sample]) := by
    rw [each_append, each_append, each_append]
    refine ⟨⟨⟨each_nil _, ?_⟩, ?_⟩, ?_⟩
    · intro reached run
      have orderly := orderly_contact_sample
      rw [show udp_run [] = .loop reached from run] at orderly
      exact orderly
    · intro reached run
      have orderly := orderly_hangup_sample
      rw [show udp_run [udp_contact] = .loop reached from run] at orderly
      exact orderly
    · intro reached run
      have orderly := orderly_done_sample
      rw [show udp_run [udp_contact, udp_hangup] = .loop reached from run] at orderly
      exact orderly
  refine descriptors_closed_once sample_features ⟨rfl, rfl, rfl, rfl, rfl⟩ (.inl rfl) orderly ?_ ?_
  · exact show udp_run _ = _ by decide +kernel
  · rw [log]
    exact lawful

/-- One stream from the client, and then the end of the test. -/
def tcp_passes : List Pass :=
  early_passes ++
    [{ pass_sample with selected := .ready [3], stream := stream_sample 5 (some cookie_sample) },
      { pass_sample with selected := .ready [4], message := message_sample (.received TEST_END) },
      { pass_sample with selected := .ready [4], message := message_sample (.received IPERF_DONE) },
      pass_sample]

def tcp_run : Status := iperf_run_server sample_features server_sample 3 false tcp_passes

theorem tcp_run_log : tcp_run.server.log =
    [.opened 3, .opened 4, .opened 5, .closed 5, .closed 5, .closed 4, .closed 3] := by
  decide +kernel

theorem descriptors_closed_once_counterexample :
    Fresh server_sample ∧ server_sample.test.protocol = .Ptcp ∧
      tcp_run = .returned tcp_run.server ∧ Lawful tcp_run.server.log ∧
      ¬ ClosedOnce tcp_run.server.log := by
  have lawful : Lawful (([] : List (Entry Int32)) ++ [.opened 3] ++ [.opened 4] ++ [.opened 5] ++
      [.closed 5] ++ [.closed 5] ++ [.closed 4] ++ [.closed 3]) := by
    simp only [lawful_opened, lawful_closed]
    exact ⟨⟨⟨each_nil _, by decide⟩, by decide⟩, by decide⟩
  refine ⟨⟨rfl, rfl, rfl, rfl, rfl⟩, rfl, by decide +kernel, ?_, ?_⟩
  · rw [tcp_run_log]
    exact lawful
  · intro once
    have count := once [.opened 3, .opened 4] 5 [.closed 5, .closed 5, .closed 4, .closed 3]
      tcp_run_log
    exact absurd count (by decide)

end Samples

end Iperf.ServerDescriptors
