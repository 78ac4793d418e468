import Iperf.DescriptorLedger
import Iperf.Outcome
import Iperf.ServerRound

/-!
`iperf_run_server`, one pass of its loop at a time: the control connection, the
control bytes, the streams, the start of the test and the timer that ends it.
What the kernel and the client answer is the data of the pass. A function that
returns -1 ends in `.error`, with the server as it leaves it.
-/

namespace Iperf.ServerLoop

open TestState Json Config Parameters DescriptorLedger Outcome
open ServerRound (raise_fd iperf_on_connect)

/-- The values of `i_errno` on the paths of the loop. -/
inductive ServerErrno where
  | parameters (errno : Errno)
  | IEAUTHTEST
  | IECTRLWRITE
  | IECTRLCLOSE
  | IEMESSAGE
  | IESENDMESSAGE
  | IERECVMESSAGE
  | IECLIENTTERM
  | IESELECT
  | IENOMSG
  | IELISTEN
  | IEQUICCERT
  | IEACCEPT
  | IESETNODELAY
  | IESETUSERTIMEOUT
  | IESETCNTLKA
  | IESETCNTLKAKEEPIDLE
  | IESETCNTLKAINTERVAL
  | IESETCNTLKACOUNT
  | IECNTLKA
  | IERECVCOOKIE
  | IEAFFINITY
  | IESTREAMLISTEN
  | IESETMSS
  | IESETBUF
  | IESETBUF2
  | IEREUSEADDR
  | IEV6ONLY
  | IEBINDDEV
  | IEPROTOCOL
  | IEPACKAGERESULTS
  | IESENDRESULTS
  | IERECVRESULTS
  | IESTREAMID
  | IESTREAMCONNECT
  | IESTREAMACCEPT
  | IESTREAMWRITE
  | IESETTOS
  | IESETCOS
  | IESETCONGESTION
  | IECREATESTREAM
  | IEFILE
  | IETOTALRATE
  | IEINITTEST
  | IEPTHREADATTRINIT
  | IEPTHREADCREATE
  | IEPTHREADATTRDESTROY
  deriving DecidableEq, Repr

structure Stream where
  socket : Int32
  sender : Bool
  deriving DecidableEq, Repr

/-- What the server tells a peer or the user, oldest first. -/
inductive Effect where
  /-- a state byte on the control connection -/
  | sent (state : StateByte)
  /-- `ACCESS_DENIED` on another connection -/
  | denied (socket : Int32)
  | statistics
  | results_exchanged
  | summary
  /-- `reporter_callback` in the state `DISPLAY_RESULTS` -/
  | report
  deriving DecidableEq, Repr

structure Server where
  test : iperf_test
  bitrate_limit : UInt64
  one_off : Bool
  streams : List Stream
  streams_to_send : Int32
  streams_to_rec : Int32
  send_streams_accepted : Int32
  rec_streams_accepted : Int32
  summary_printed : Bool
  /-- `test->timer` is set -/
  timer : Bool
  /-- a descriptor was closed that is still in `read_set` -/
  stale : Bool
  i_errno : Option ServerErrno
  log : List (Entry Int32)
  effects : List Effect
  deriving DecidableEq, Repr

section Primitives
variable (server : Server)

def opened (fd : Int32) : Server := { server with log := server.log ++ [.opened fd] }

/-- `close`; a negative number is no descriptor. -/
def close (fd : Int32) : Server :=
  if 0 ≤ fd then { server with log := server.log ++ [.closed fd] } else server

/-- What closing these leaves in the log. -/
def closes (fds : List Int32) : List (Entry Int32) := (fds.filter (0 ≤ ·)).map .closed

theorem closes_append (front back : List Int32) :
    closes (front ++ back) = closes front ++ closes back := by
  simp [closes]

/-- Closing leaves nothing but the entry in the log. -/
theorem close_eq (fd : Int32) : close server fd = { server with log := server.log ++ closes [fd] } := by
  by_cases number : 0 ≤ fd <;> simp [close, closes, number]

@[simp] theorem close_test (fd : Int32) : (close server fd).test = server.test := by
  rw [close_eq]

def emit (effect : Effect) : Server := { server with effects := server.effects ++ [effect] }

def failed (errno : ServerErrno) : Server := { server with i_errno := some errno }

/-- `EBADF` from `select`. -/
def is_closed (fd : Int32) : Bool := ! isOpen server.log fd

def iperf_set_test_state (state : StateByte) : Server :=
  { server with test := { server.test with state := state } }

def iperf_set_send_state (state : StateByte) (written : Bool) : Except Server Server :=
  if 0 ≤ server.test.ctrl_sck then
    let server := emit (iperf_set_test_state server state) (.sent state)
    if written then .ok server else .error (failed server .IESENDMESSAGE)
  else .ok server

end Primitives

section Connection
variable (features : Features)

/-- The kernel's answers to `protocol->listen`. An error stands for the step that fails. -/
structure Listening where
  socket : Int32
  /-- the options and `bind`, and then `listen` -/
  prepared : Option ServerErrno
  listens : Bool
  /-- the buffer sizes are read, and large enough -/
  buffers : Option ServerErrno
  deriving DecidableEq, Repr

/-- The listener is replaced when an option has to be set before a connection. -/
def relistens (test : iperf_test) : Bool :=
  test.no_delay ≠ 0 ∨ test.mptcp ≠ 0 ∨ test.settings.mss ≠ 0 ∨ test.settings.socket_bufsize ≠ 0

def verify_buffers (server : Server) (s : Int32) (kernel : Listening) :
    Except Server (Int32 × Server) :=
  match kernel.buffers with
  | none => .ok (s, server)
  | some errno => .error (failed (close server s) errno)

def iperf_tcp_listen (server : Server) (kernel : Listening) : Except Server (Int32 × Server) :=
  if relistens server.test then
    let server := close server server.test.listener
    let s := kernel.socket
    if s < 0 then .error (failed server .IESTREAMLISTEN)
    else
      let server := opened server s
      match kernel.prepared with
      | some errno => .error (failed (close server s) errno)
      | none =>
          if kernel.listens then
            verify_buffers { server with test := { server.test with listener := s } } s kernel
          else .error (failed (close server s) .IESTREAMLISTEN)
  else verify_buffers server server.test.listener kernel

def iperf_udp_listen (server : Server) (kernel : Listening) : Except Server (Int32 × Server) :=
  if kernel.socket < 0 then .error (failed server .IESTREAMLISTEN)
  else .ok (kernel.socket, opened server kernel.socket)

def iperf_sctp_listen (server : Server) (kernel : Listening) : Except Server (Int32 × Server) :=
  let server := close server server.test.listener
  let server := { server with test := { server.test with listener := -1 } }
  let s := kernel.socket
  if s < 0 then .error (failed server .IESTREAMLISTEN)
  else
    let server := opened server s
    match kernel.prepared with
    | some errno => .error (failed (close server s) errno)
    | none =>
        if kernel.listens then .ok (s, { server with test := { server.test with listener := s } })
        else .error (failed server .IESTREAMLISTEN)

/-- The descriptor of a QUIC listener is a pipe that its context owns. -/
def iperf_quic_listen (server : Server) (kernel : Listening) : Except Server (Int32 × Server) :=
  if kernel.socket < 0 then .error (failed server (kernel.prepared.getD .IELISTEN))
  else .ok (kernel.socket, server)

def listen (server : Server) (kernel : Listening) : Except Server (Int32 × Server) :=
  match server.test.protocol with
  | .Ptcp => iperf_tcp_listen server kernel
  | .Pudp => iperf_udp_listen server kernel
  | .Psctp => iperf_sctp_listen server kernel
  | .Pquic => iperf_quic_listen server kernel

/-- The client's message, and what answers the server. -/
structure Exchange where
  parameters : Option cJSON
  authorized : Bool
  listening : Listening
  /-- `SERVER_ERROR` is written, and then the two error numbers -/
  refused : Bool
  reported : Bool
  announced : Bool

/-- The server reports its error and gives up, whether or not the report goes out. -/
def refuse (server : Server) (peer : Exchange) : Except Server Server :=
  match iperf_set_send_state server SERVER_ERROR peer.refused with
  | .error server => .error server
  | .ok server => .error (if peer.reported then server else failed server .IECTRLWRITE)

def iperf_exchange_parameters (server : Server) (peer : Exchange) : Except Server Server :=
  let (errno, test) := get_parameters features server.test peer.parameters
  let server := { server with test := test }
  match errno with
  | some errno => refuse (failed server (.parameters errno)) peer
  | none =>
      if features.HAVE_SSL ∧ ¬ peer.authorized then refuse (failed server .IEAUTHTEST) peer
      else
        match listen server peer.listening with
        | .error server => refuse server peer
        | .ok (s, server) =>
            let test := { raise_fd server.test s with prot_listener := s }
            iperf_set_send_state { server with test := test } CREATE_STREAMS peer.announced

/-- A connection on the listening socket, as `iperf_accept` meets it. -/
structure Contact where
  socket : Int32
  /-- `TCP_NODELAY` and `TCP_USER_TIMEOUT`, and then the keepalive -/
  options : Option ServerErrno
  keepalive : Option ServerErrno
  /-- what `Nread` stored, and whether it was all of it -/
  cookie : List UInt8
  cookie_complete : Bool
  greeted : Bool
  exchange : Exchange
  affinity_set : Bool
  mapped : Bool

/-- After the descriptor is in `ctrl_sck`; the steps that go to `error_handling`. -/
def welcome (server : Server) (contact : Contact) : Except Server Server :=
  let server := { server with test := { server.test with cookie := contact.cookie } }
  if ¬ contact.cookie_complete then .error (failed server .IERECVCOOKIE)
  else do
    let server := { server with test := raise_fd server.test server.test.ctrl_sck }
    let server ← iperf_set_send_state server PARAM_EXCHANGE contact.greeted
    let server ← iperf_exchange_parameters features server contact.exchange
    if server.test.server_affinity ≠ -1 ∧ ¬ contact.affinity_set then
      .error (failed server .IEAFFINITY)
    else .ok { server with test := iperf_on_connect server.test contact.mapped }

/-- `iperf_accept` on a server whose control socket is free. -/
def accept_client (server : Server) (contact : Contact) : Except Server Server :=
  let s := contact.socket
  let server := { server with test := { server.test with ctrl_sck := s } }
  match contact.options, contact.keepalive with
  | some errno, _ => .error (failed (close server s) errno)
  | none, some errno => .error (failed server errno)
  | none, none =>
      match welcome features server contact with
      | .ok server => .ok server
      -- `error_handling` leaves the descriptor in `ctrl_sck`
      | .error server => .error (close server s)

def iperf_accept (server : Server) (contact : Contact) : Except Server Server :=
  let s := contact.socket
  if s < 0 then .error (failed server .IEACCEPT)
  else
    let server := opened server s
    if server.test.ctrl_sck = -1 then accept_client features server contact
    else .ok (close (emit server (.denied s)) s)

def set_streams_number (server : Server) : Server :=
  let num_streams := server.test.num_streams
  { server with
    streams_to_send := if server.test.mode = .RECEIVER then 0 else num_streams
    streams_to_rec := if server.test.mode = .SENDER then 0 else num_streams }

end Connection

section Control
variable (server : Server)

/-- The handlers of the control bytes close the sockets and leave them in the streams. -/
def close_streams : Server :=
  if server.test.protocol = .Pquic then server
  else server.streams.foldl (fun server sp => close server sp.socket) server

/-- The descriptors of the streams; those of a QUIC test are stream ids. -/
def sockets : List Int32 :=
  if server.test.protocol = .Pquic then [] else server.streams.map (·.socket)

theorem close_streams_eq :
    close_streams server = { server with log := server.log ++ closes (sockets server) } := by
  have folds : ∀ (streams : List Stream) (server : Server),
      streams.foldl (fun server sp => close server sp.socket) server =
        { server with log := server.log ++ closes (streams.map (·.socket)) } := by
    intro streams
    induction streams with
    | nil => simp [closes]
    | cons sp rest ih =>
        intro server
        have split := closes_append [sp.socket] (rest.map (·.socket))
        simp only [List.singleton_append] at split
        rw [List.foldl_cons, ih, close_eq, List.map_cons, split]
        simp
  by_cases quic : server.test.protocol = .Pquic <;>
    simp [close_streams, sockets, quic, folds, closes]

@[simp] theorem close_streams_test : (close_streams server).test = server.test := by
  rw [close_streams_eq]

/-- What `Nread` makes of the control connection. -/
inductive Byte where
  | received (state : StateByte)
  | closed
  | failed
  deriving DecidableEq, Repr

/-- The client's byte, and how far the answer to `TEST_END` gets. -/
structure Message where
  byte : Byte
  announced : Bool
  exchanged : Option ServerErrno
  displayed : Bool
  deriving DecidableEq, Repr

def iperf_exchange_results (exchanged : Option ServerErrno) : Except Server Server :=
  let server := emit server .results_exchanged
  match exchanged with
  | none => .ok server
  | some errno => .error (failed server errno)

/-- A QUIC test goes on where the others give up. -/
def unless_quic : Except Server Server → Except Server Server
  | .ok server => .ok server
  | .error server => if server.test.protocol = .Pquic then .ok server else .error server

theorem ends_unless_quic {Holds : Server → Prop} {first : Except Server Server}
    (ends : Ends Holds Holds first) : Ends Holds Holds (unless_quic first) := by
  cases first with
  | ok server => exact ends
  | error server =>
      by_cases quic : server.test.protocol = .Pquic <;> simpa [unless_quic, quic] using ends

def announce_results (message : Message) : Except Server Server :=
  match iperf_set_send_state server EXCHANGE_RESULTS message.announced with
  | .ok server => unless_quic (iperf_exchange_results server message.exchanged)
  | .error server => unless_quic (.error server)

theorem announce_rule {server : Server} {Holds : Server → Prop} {message : Message}
    (announced : Ends Holds Holds
      (iperf_set_send_state server EXCHANGE_RESULTS message.announced))
    (exchanged : ∀ server, Holds server →
      Ends Holds Holds (iperf_exchange_results server message.exchanged)) :
    Ends Holds Holds (announce_results server message) := by
  unfold announce_results
  split
  · rename_i sent
    exact ends_unless_quic (exchanged _ (announced.of_ok sent))
  · rename_i sent
    exact @ends_unless_quic Holds (.error _) (announced.of_error sent)

def handle_test_end (message : Message) : Except Server Server := do
  let server := emit { server with test := { server.test with done := 1 } } .statistics
  let server ← announce_results (close_streams server) message
  let server := emit { server with summary_printed := true } .summary
  let server ← unless_quic (iperf_set_send_state server DISPLAY_RESULTS message.displayed)
  if server.test.protocol = .Pquic ∧ server.one_off then
    .ok (iperf_set_test_state server IPERF_DONE)
  else .ok server

def iperf_handle_message_server (message : Message) : Except Server Server :=
  match message.byte with
  | .failed => .error (failed server .IERECVMESSAGE)
  | .closed => .ok (iperf_set_test_state (failed server .IECTRLCLOSE) IPERF_DONE)
  | .received state =>
      -- the byte is read into the state itself
      let server := iperf_set_test_state server state
      if state = TEST_START then .ok server
      else if state = TEST_END then handle_test_end server message
      else if state = IPERF_DONE then .ok server
      else if state = CLIENT_TERMINATE then
        let server := close_streams (emit (failed server .IECLIENTTERM) .report)
        .ok (iperf_set_test_state server IPERF_DONE)
      else .error (failed server .IEMESSAGE)

end Control

section Streams
variable (features : Features)

/-- A connection or a datagram for `prot_listener`, as the server meets it. -/
structure StreamContact where
  /-- `accept`, or the next stream of the QUIC context -/
  socket : Int32
  /-- what `Nread` leaves in the buffer, unless it fails -/
  cookie : Option (List UInt8)
  denial_written : Bool
  /-- `recvfrom` and `connect` -/
  received : Bool
  /-- the two calls of `iperf_udp_buffercheck`, and their error -/
  buffercheck : Int32
  rechecked : Int32
  buffers : ServerErrno
  /-- `netannounce` -/
  announced : Int32
  replied : Bool
  /-- the type of service of an open socket -/
  tos : Option ServerErrno
  /-- `TCP_USER_TIMEOUT` and the congestion algorithm -/
  options : Option ServerErrno
  /-- the name of the algorithm in use -/
  algorithm : Option String
  created : Option ServerErrno
  deriving DecidableEq, Repr

/-- The bytes that `strncmp` looks at. -/
def c_string (bytes : List UInt8) : List UInt8 := (bytes.take COOKIE_SIZE).takeWhile (· ≠ 0)

/-- `strncmp` over `COOKIE_SIZE` bytes finds no difference. -/
def same_cookie (server : Server) (cookie : List UInt8) : Bool :=
  c_string server.test.cookie = c_string cookie

def iperf_tcp_accept (server : Server) (contact : StreamContact) :
    Except Server (Int32 × Server) :=
  let s := contact.socket
  if s < 0 then .error (failed server .IESTREAMCONNECT)
  else
    let server := opened server s
    match contact.cookie with
    | none => .error (failed (close server s) .IERECVCOOKIE)
    | some cookie =>
        if same_cookie server cookie then .ok (s, server)
        -- the closed descriptor is returned all the same
        else .ok (s, close (emit server (.denied s)) s)

def UDP_BUFFER_EXTRA : Int32 := 1024

def check_buffers (server : Server) (contact : StreamContact) : Except Server Server :=
  if contact.buffercheck < 0 then .error (failed server contact.buffers)
  else if 0 < contact.buffercheck ∧ server.test.settings.socket_bufsize = 0 then
    let bufsize := server.test.settings.blksize + UDP_BUFFER_EXTRA
    let settings := { server.test.settings with socket_bufsize := bufsize }
    let server := { server with test := { server.test with settings := settings } }
    if contact.rechecked < 0 then .error (failed server contact.buffers) else .ok server
  else .ok server

/-- The listening socket becomes the stream's, and a new one listens. -/
def iperf_udp_accept (server : Server) (contact : StreamContact) :
    Except Server (Int32 × Server) :=
  let s := server.test.prot_listener
  if ¬ contact.received then .error (failed server .IESTREAMACCEPT)
  else do
    let server ← check_buffers server contact
    let prot_listener := contact.announced
    let server := { server with test := { server.test with prot_listener := prot_listener } }
    if prot_listener < 0 then .error (failed server .IESTREAMLISTEN)
    else
      let server := opened server prot_listener
      let server := { server with test := raise_fd server.test prot_listener }
      if contact.replied then .ok (s, server) else .error (failed server .IESTREAMWRITE)

def iperf_sctp_accept (server : Server) (contact : StreamContact) :
    Except Server (Int32 × Server) :=
  let s := contact.socket
  if s < 0 then .error (failed server .IESTREAMCONNECT)
  else
    let server := opened server s
    match contact.cookie with
    | none => .error (failed (close server s) .IERECVCOOKIE)
    | some cookie =>
        if same_cookie server cookie then .ok (s, server)
        else if contact.denial_written then .ok (s, close (emit server (.denied s)) s)
        else .error (failed (close server s) .IESENDMESSAGE)

def accept (server : Server) (contact : StreamContact) : Except Server (Int32 × Server) :=
  match server.test.protocol with
  | .Ptcp => iperf_tcp_accept server contact
  | .Pudp => iperf_udp_accept server contact
  | .Psctp => iperf_sctp_accept server contact
  -- the queue of the QUIC context is emptied by `drain`
  | .Pquic => .error (failed server .IEACCEPT)

def iperf_common_sockopts (server : Server) (s : Int32) (contact : StreamContact) :
    Except Server Server :=
  if server.test.settings.tos = 0 then .ok server
  -- a closed descriptor has no address family, and takes no option
  else if is_closed server s then .error (failed server .IESETTOS)
  else
    match contact.tos with
    | none => .ok server
    | some errno => .error (failed server errno)

def set_congestion_used (server : Server) (algorithm : String) : Server :=
  { server with test := { server.test with congestion_used := some algorithm } }

def set_tcp_options (server : Server) (s : Int32) (contact : StreamContact) :
    Except Server Server :=
  if server.test.protocol ≠ .Ptcp then .ok server
  else
    match contact.options with
    | some errno => .error (failed (close server s) errno)
    | none =>
        if ¬ features.HAVE_TCP_CONGESTION then .ok server
        else if contact.algorithm = none ∧ server.test.congestion ≠ none then
          .error (failed (close server s) .IESETCONGESTION)
        else .ok (set_congestion_used server (contact.algorithm.getD "unknown"))

/-- The direction of the next stream; the receiving ones come first. -/
def next_flag (server : Server) : Option (Bool × Server) :=
  if server.rec_streams_accepted ≠ server.streams_to_rec then
    some (false, { server with rec_streams_accepted := server.rec_streams_accepted + 1 })
  else if server.send_streams_accepted ≠ server.streams_to_send then
    some (true, { server with send_streams_accepted := server.send_streams_accepted + 1 })
  else none

def iperf_new_stream (server : Server) (s : Int32) (sender : Bool)
    (created : Option ServerErrno) : Except Server Server :=
  match created with
  | none => .ok { server with streams := server.streams ++ [⟨s, sender⟩] }
  | some errno => .error (failed server errno)

def add_stream (server : Server) (s : Int32) (contact : StreamContact) : Except Server Server :=
  match next_flag server with
  | none => .ok server
  | some (flag, server) => do
      let server ← iperf_new_stream server s flag contact.created
      .ok { server with test := raise_fd server.test s }

def accept_stream (server : Server) (contact : StreamContact) : Except Server Server := do
  let (s, server) ← accept server contact
  let server ← iperf_common_sockopts server s contact
  if is_closed server s then .ok server
  else
    let server ← set_tcp_options features server s contact
    add_stream server s contact

/-- Every stream that was asked for is there. -/
def all_accepted (server : Server) : Bool :=
  server.rec_streams_accepted = server.streams_to_rec ∧
    server.send_streams_accepted = server.streams_to_send

/-- The streams that wait in the QUIC context, up to the last one needed. -/
def drain (server : Server) : List StreamContact → Except Server Server
  | [] => .ok server
  | contact :: rest =>
      if contact.socket < 0 then .ok server
      else
        match next_flag server with
        | none => .ok server
        | some (flag, server) => do
            let server ← iperf_new_stream server contact.socket flag contact.created
            if all_accepted server then .ok server else drain server rest

/-- The next flag moves one of the counts of accepted streams. -/
theorem next_flag_counts {server after : Server} {flag : Bool}
    (next : next_flag server = some (flag, after)) : ∃ receiving sending, after =
      { server with rec_streams_accepted := receiving, send_streams_accepted := sending } := by
  unfold next_flag at next
  split at next
  · cases next
    exact ⟨_, _, rfl⟩
  · split at next
    · cases next
      exact ⟨_, _, rfl⟩
    · cases next

/-- What each new stream keeps is kept by all of them. -/
theorem drain_rule {good bad : Server → Prop}
    (stream : ∀ server, good server → ∀ (contact : StreamContact) (flag : Bool) (after : Server),
      next_flag server = some (flag, after) →
        Ends good bad (iperf_new_stream after contact.socket flag contact.created))
    {server : Server} (begun : good server) (queued : List StreamContact) :
    Ends good bad (drain server queued) := by
  induction queued generalizing server with
  | nil => exact begun
  | cons contact rest ih =>
      unfold drain
      split
      · exact begun
      · split
        · exact begun
        · rename_i flag after next
          apply Ends.bind (stream server begun contact flag after next)
          intro last held
          split
          · exact held
          · exact ih held

end Streams

section Finish
variable (server : Server)

/-- A field whose descriptor `cleanup_server` has closed. -/
def cleared (fd : Int32) : Int32 := if 0 ≤ fd then -1 else fd

def clear_streams : Server :=
  if server.test.protocol = .Pquic then server
  else
    { close_streams server with
      streams := server.streams.map fun sp => { sp with socket := cleared sp.socket } }

/-- Without `FD_CLR`: the descriptor stays in `read_set`. -/
def close_ctrl_sck (field : Int32) : Server :=
  { close server server.test.ctrl_sck with
    stale := server.stale || decide (0 ≤ server.test.ctrl_sck)
    test := { server.test with ctrl_sck := field } }

@[simp] theorem close_ctrl_sck_test (field : Int32) :
    (close_ctrl_sck server field).test = { server.test with ctrl_sck := field } := by
  simp [close_ctrl_sck]

def clear_ctrl_sck : Server := close_ctrl_sck server (cleared server.test.ctrl_sck)

def clear_listener : Server :=
  let server := close server server.test.listener
  { server with test := { server.test with listener := cleared server.test.listener } }

/-- The listener of a QUIC context is closed by its reset. -/
def clear_prot_listener : Server :=
  if server.test.protocol = .Pquic then server
  else
    let server := close server server.test.prot_listener
    { server with
      test := { server.test with prot_listener := cleared server.test.prot_listener } }

def print_summary : Server :=
  let server := emit server .statistics
  if server.summary_printed then server else emit { server with summary_printed := true } .summary

def release : Server :=
  clear_prot_listener (clear_listener (clear_ctrl_sck (clear_streams server)))

/-- The last steps of `cleanup_server`. -/
def cancel_timers : Server :=
  { server with
    timer := false
    test := { server.test with congestion_used := none } }

/-- `counted` says that bytes or blocks went over the streams. -/
def cleanup_server (counted : Bool) : Server :=
  cancel_timers
    (release (if counted ∧ ¬ server.summary_printed then print_summary server else server))

@[simp] theorem print_summary_test : (print_summary server).test = server.test := by
  unfold print_summary
  dsimp only
  split <;> rfl

/-- The descriptors of a test after `cleanup_server`. -/
def cleaned (test : iperf_test) : iperf_test :=
  { test with
    ctrl_sck := cleared test.ctrl_sck
    listener := cleared test.listener
    prot_listener :=
      if test.protocol = .Pquic then test.prot_listener else cleared test.prot_listener
    congestion_used := none }

/-- What `cleanup_server` closes, in this order. -/
def remaining : List Int32 :=
  sockets server ++ [server.test.ctrl_sck, server.test.listener] ++
    if server.test.protocol = .Pquic then [] else [server.test.prot_listener]

theorem release_eq :
    release server =
      { server with
        test := { cleaned server.test with congestion_used := server.test.congestion_used }
        streams :=
          if server.test.protocol = .Pquic then server.streams
          else server.streams.map fun sp => { sp with socket := cleared sp.socket }
        stale := server.stale || decide (0 ≤ server.test.ctrl_sck)
        log := server.log ++ closes (remaining server) } := by
  have pair : closes [server.test.ctrl_sck, server.test.listener] =
      closes [server.test.ctrl_sck] ++ closes [server.test.listener] :=
    closes_append [_] [_]
  have triple : closes [server.test.ctrl_sck, server.test.listener, server.test.prot_listener] =
      closes [server.test.ctrl_sck] ++ (closes [server.test.listener] ++
        closes [server.test.prot_listener]) :=
    (closes_append [_] [_, _]).trans (congrArg _ (closes_append [_] [_]))
  by_cases quic : server.test.protocol = .Pquic
  · simp [release, clear_prot_listener, clear_listener, clear_ctrl_sck, close_ctrl_sck,
      clear_streams, close_eq, cleaned, remaining, sockets, quic, pair]
  · simp [release, clear_prot_listener, clear_listener, clear_ctrl_sck, close_ctrl_sck,
      clear_streams, close_streams_eq, close_eq, cleaned, remaining, sockets, quic, closes_append,
      triple]

/-- All that `cleanup_server` does. -/
theorem cleanup_server_eq (counted : Bool) :
    cleanup_server server counted =
      { server with
        test := cleaned server.test
        streams :=
          if server.test.protocol = .Pquic then server.streams
          else server.streams.map fun sp => { sp with socket := cleared sp.socket }
        summary_printed := server.summary_printed || counted
        timer := false
        stale := server.stale || decide (0 ≤ server.test.ctrl_sck)
        log := server.log ++ closes (remaining server)
        effects := server.effects ++
          if counted ∧ ¬ server.summary_printed then [.statistics, .summary] else [] } := by
  cases printed : server.summary_printed <;> cases counted <;>
    simp [cleanup_server, release_eq, cancel_timers, print_summary, emit, printed, cleaned,
      remaining, sockets]

def server_timer_proc : Server :=
  let server := { server with timer := false }
  if server.test.done ≠ 0 then server
  else
    let server := { server with test := { server.test with done := 1 } }
    if server.test.protocol = .Pquic then server
    else
      close_ctrl_sck (print_summary server) (-1)

end Finish

section Start

/-- The answers while the test is started. -/
structure Start where
  /-- `netannounce` -/
  announced : Int32
  started : Bool
  /-- `iperf_init_test` and the clock -/
  initialized : Bool
  /-- `tmr_create` for the end of the test, and for the other timers -/
  timed : Bool
  scheduled : Bool
  running : Bool
  attr_init : Bool
  threads : Bool
  attr_destroy : Bool
  deriving DecidableEq, Repr

/-- The streams have been accepted: the listener goes, or makes way for a fresh one. -/
def close_listener (server : Server) (start : Start) : Except Server Server :=
  let test := server.test
  match test.protocol with
  | .Pquic => .ok { server with test := { test with prot_listener := -1 } }
  | .Ptcp =>
      if test.no_delay ≠ 0 ∨ test.settings.mss ≠ 0 ∨ test.settings.socket_bufsize ≠ 0 then
        let server := close server test.listener
        let server := { server with test := { test with listener := -1 } }
        let s := start.announced
        if s < 0 then .error (failed server .IELISTEN)
        else
          let server := opened server s
          let test := raise_fd { server.test with listener := s } s
          .ok { server with test := { test with prot_listener := -1 } }
      else .ok { server with test := { test with prot_listener := -1 } }
  | _ =>
      let server := close server test.prot_listener
      .ok { server with test := { test with prot_listener := -1 } }

/-- An `iperf_size_t`; the number of streams is converted to it. -/
def total_requested_rate (test : iperf_test) : UInt64 :=
  test.num_streams.toInt64.toUInt64 * test.settings.rate *
    (if test.mode = .BIDIRECTIONAL then 2 else 1)

def exceeds_limit (server : Server) : Bool :=
  0 < server.bitrate_limit ∧ server.bitrate_limit < total_requested_rate server.test

def create_server_timers (server : Server) (start : Start) : Except Server Server :=
  let server :=
    if server.test.duration ≠ 0 then
      { server with test := { server.test with done := 0 }, timer := start.timed }
    else { server with timer := false }
  if (server.test.duration ≠ 0 ∧ ¬ start.timed) ∨ ¬ start.scheduled then
    .error (failed server .IEINITTEST)
  else .ok server

/-- A call on the thread attributes; after a failure the loop goes on. -/
def pthread_attr (server : Server) (succeeds : Bool) (errno : ServerErrno) (counted : Bool) :
    Server :=
  if succeeds then server else cleanup_server (failed server errno) counted

def start_threads (server : Server) (start : Start) (counted : Bool) : Except Server Server :=
  let server := pthread_attr server start.attr_init .IEPTHREADATTRINIT counted
  if ¬ server.streams.isEmpty ∧ ¬ start.threads then .error (failed server .IEPTHREADCREATE)
  else .ok (pthread_attr server start.attr_destroy .IEPTHREADATTRDESTROY counted)

/-- From `streams_accept_done` on, with all streams accepted. -/
def start_test (server : Server) (start : Start) (counted : Bool) : Except Server Server := do
  let server ← close_listener server start
  if exceeds_limit server then .error (failed server .IETOTALRATE)
  else
    let server ← iperf_set_send_state server TEST_START start.started
    if ¬ start.initialized then .error (failed server .IEINITTEST)
    else
      let server ← create_server_timers server start
      let server ← iperf_set_send_state server TEST_RUNNING start.running
      start_threads server start counted

end Start

section Loop
variable (features : Features)

/-- What `select` returns: the descriptors that can be read, or a reason for none. -/
inductive Selected where
  | failed
  | interrupted
  /-- whether the time since the last progress is up -/
  | expired (idle : Bool)
  | ready (descriptors : List Int32)
  deriving DecidableEq, Repr

/-- One pass of the loop, as the kernel and the clients let it go. -/
structure Pass where
  /-- `test->bitrate_limit_exceeded` -/
  exceeded : Bool
  selected : Selected
  contact : Contact
  message : Message
  stream : StreamContact
  queued : List StreamContact
  start : Start
  /-- `tmr_run` calls `server_timer_proc`, if its timer is set -/
  timer_due : Bool
  counted : Bool
  /-- `iperf_json_finish` -/
  finished : Bool

/-- -1 is in no set. -/
def FD_ISSET (fd : Int32) (ready : List Int32) : Bool := 0 ≤ fd ∧ fd ∈ ready

/-- The listener's turn, with the descriptors that are left for the others. -/
def serve_listener (server : Server) (event : Pass) (ready : List Int32) :
    Except Server (List Int32 × Server) :=
  if FD_ISSET server.test.listener ready ∧ server.test.state ≠ CREATE_STREAMS then do
    let server ← iperf_accept features server event.contact
    .ok (ready.filter (· ≠ server.test.listener), set_streams_number server)
  else .ok (ready, server)

def serve_control (server : Server) (event : Pass) (ready : List Int32) : Except Server Server :=
  if FD_ISSET server.test.ctrl_sck ready then iperf_handle_message_server server event.message
  else .ok server

def serve_prot_listener (server : Server) (event : Pass) (ready : List Int32) :
    Except Server Server :=
  if FD_ISSET server.test.prot_listener ready then
    if server.test.protocol = .Pquic then drain server event.queued
    else accept_stream features server event.stream
  else .ok server

def serve_streams (server : Server) (event : Pass) (ready : List Int32) : Except Server Server :=
  if server.test.state ≠ CREATE_STREAMS then .ok server
  else do
    let server ← serve_prot_listener features server event ready
    if all_accepted server then start_test server event.start event.counted else .ok server

def serve (server : Server) (event : Pass) (ready : List Int32) : Except Server Server := do
  let (ready, server) ← serve_listener features server event ready
  let server ← serve_control server event ready
  serve_streams features server event ready

inductive Status where
  | loop (server : Server)
  | returned (server : Server)
  deriving DecidableEq, Repr

def Status.server : Status → Server
  | .loop server | .returned server => server

def Status.in_loop : Status → Bool
  | .loop _ => true
  | .returned _ => false

def tmr_run (server : Server) (event : Pass) : Status :=
  .loop (if server.timer ∧ event.timer_due then server_timer_proc server else server)

def leave (server : Server) (event : Pass) : Status :=
  .returned (cleanup_server server event.counted)

/-- Nothing came in time. -/
def expire (server : Server) (event : Pass) (idle : Bool) : Status :=
  if idle then
    if server.test.state = IPERF_START then leave server event
    else if server.test.mode ≠ .SENDER then leave (failed server .IENOMSG) event
    else tmr_run server event
  else tmr_run server event

def pass (server : Server) (event : Pass) : Status :=
  if server.test.state = IPERF_DONE then
    if event.finished then leave server event else .returned server
  else if event.exceeded then leave (failed server .IETOTALRATE) event
  -- `EBADF`
  else if server.stale then leave (failed server .IESELECT) event
  else
    match event.selected with
    | .failed => leave (failed server .IESELECT) event
    | .interrupted => tmr_run server event
    | .expired idle => expire server event idle
    | .ready descriptors =>
        match serve features server event descriptors with
        | .ok server => tmr_run server event
        | .error server => leave server event

/-- A server without streams, with nothing logged. -/
def new_server (test : iperf_test) (bitrate_limit : UInt64) (one_off : Bool) : Server :=
  { test, bitrate_limit, one_off
    streams := []
    streams_to_send := 0
    streams_to_rec := 0
    send_streams_accepted := 0
    rec_streams_accepted := 0
    summary_printed := false
    timer := false
    stale := false
    i_errno := none
    log := []
    effects := [] }

/-- `iperf_run_server` up to its loop; `listener` is what `netannounce` returns. -/
def iperf_server_listen (server : Server) (listener : Int32) (counted : Bool) : Status :=
  let server := { server with test := { server.test with listener := listener } }
  if listener < 0 then .returned (cleanup_server (failed server .IELISTEN) counted)
  else
    let server := opened server listener
    let server := { server with test := raise_fd server.test listener }
    .loop
      { iperf_set_test_state server IPERF_START with
        stale := false
        send_streams_accepted := 0
        rec_streams_accepted := 0
        streams_to_send := 0
        streams_to_rec := 0 }

def turn (status : Status) (event : Pass) : Status :=
  match status with
  | .loop server => pass features server event
  | .returned server => .returned server

/-- As far as the loop gets with the passes given. -/
def iperf_run_server (server : Server) (listener : Int32) (counted : Bool) (events : List Pass) :
    Status :=
  events.foldl (turn features) (iperf_server_listen server listener counted)

end Loop

section Samples

/-- The client's answers to every step succeed. -/
def exchange_sample (parameters : Option cJSON) : Exchange :=
  { parameters := parameters, authorized := true
    listening := { socket := -1, prepared := none, listens := true, buffers := none }
    refused := true, reported := true, announced := true }

def contact_sample (socket : Int32) (cookie : List UInt8) (parameters : Option cJSON) : Contact :=
  { socket := socket, options := none, keepalive := none
    cookie := cookie, cookie_complete := true, greeted := true
    exchange := exchange_sample parameters, affinity_set := true, mapped := false }

/-- 36 letters and the NUL. -/
def cookie_sample : List UInt8 := List.replicate 36 97 ++ [0]

def message_sample (byte : Byte) : Message :=
  { byte := byte, announced := true, exchanged := none, displayed := true }

def stream_sample (socket : Int32) (cookie : Option (List UInt8)) : StreamContact :=
  { socket := socket, cookie := cookie, denial_written := true, received := true
    buffercheck := 0, rechecked := 0, buffers := .IESETBUF, announced := -1, replied := true
    tos := none, options := none, algorithm := some "cubic", created := none }

def start_sample : Start :=
  { announced := -1, started := true, initialized := true, timed := true, scheduled := true
    running := true, attr_init := true, threads := true, attr_destroy := true }

/-- A pass in which nothing happens; the others name what does. -/
def pass_sample : Pass :=
  { exceeded := false, selected := .interrupted
    contact := contact_sample (-1) [] none, message := message_sample .failed
    stream := stream_sample (-1) none, queued := [], start := start_sample
    timer_due := false, counted := false, finished := true }

def server_sample : Server :=
  new_server (iperf_set_test_role sample_features (iperf_defaults sample_features) .s) 0 false

/-- A TCP client's parameters are read, and no stream has come yet. -/
def early_passes : List Pass :=
  [{ pass_sample with
    selected := .ready [3]
    contact := contact_sample 4 cookie_sample (some (.object [("tcp", .bool true)])) }]

def early_server : Server :=
  (iperf_run_server sample_features server_sample 3 false early_passes).server

end Samples

end Iperf.ServerLoop
