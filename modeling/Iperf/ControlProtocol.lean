import Iperf.Dialogue
import Iperf.TestState

/-!
The control connection of one test: `iperf_run_client` with
`iperf_handle_message_client`, and `iperf_run_server` with `iperf_accept` and
`iperf_handle_message_server`. A program counter stands at every read and
write; between them the code is local to its side. State bytes are dispatched
on as raw bytes, and a read that finds something of another kind fails.

An iteration of a loop that finds nothing to read and no timer due changes
nothing and is not a step.
-/

namespace Iperf.ControlProtocol

open TestState Dialogue

/-- The control socket, the TCP listener, and what the other protocols use for
their data streams. -/
inductive Channel where
  | control
  | listener
  | stream
  deriving DecidableEq, Repr

/-- The JSON objects of `send_parameters` and `send_results`. -/
inductive Frame where
  | parameters (protocol : Protocol) (num_streams : Nat) (reverse bidirectional : Bool)
  | results
  deriving DecidableEq, Repr

inductive Message where
  | connection (socket : Channel)
  | reply
  | cookie
  | state (byte : StateByte)
  | json (frame : Frame)
  deriving DecidableEq, Repr

def Message.channel : Message → Channel
  | .connection socket => socket
  | .reply => .stream
  | _ => .control

/-- Where `protocol->connect` reaches the server: TCP data streams come to the
listening socket of the control connections. -/
def prot_listener : Protocol → Channel
  | .Ptcp => .listener
  | _ => .stream

/-- What the command lines of the two sides settle. -/
structure Setup where
  protocol : Protocol
  num_streams : Nat
  mode : Mode
  omit_seconds : Nat
  one_off : Bool
  deriving Repr

/-- The values of `i_errno` on these paths; `wrongKind` is a read that finds a
message of another kind. -/
inductive Failure where
  | IEMESSAGE
  | IESERVERTERM
  | IEACCESSDENIED
  | serverError
  | IERECVCOOKIE
  | IERECVPARAMS
  | IERECVRESULTS
  | IESTREAMREAD
  | wrongKind
  deriving DecidableEq, Repr

section Client

inductive ClientPc where
  | connecting
  | greeting
  | waiting
  | sendingParameters
  | creating (senders receivers : Nat)
  | awaitingReply (senders receivers : Nat)
  | sendingResults
  | gettingResults
  | ending
  | finished
  | failed (reason : Failure)
  deriving DecidableEq, Repr

/-- `reached` says that the end condition on `done`, bytes or blocks holds. -/
structure Client where
  pc : ClientPc := .connecting
  state : StateByte := 0
  omitting : Bool := false
  reached : Bool := false
  parameters_sent : Nat := 0
  results_sent : Nat := 0
  results_received : Nat := 0
  deriving Repr

abbrev Client.Act := Dialogue.Act Client Message Channel

/-- `iperf_create_streams` runs once with `sender` set and once without it in
bidirectional mode, and once with `mode` otherwise. -/
def create_streams (setup : Setup) : ClientPc :=
  match setup.mode with
  | .BIDIRECTIONAL => .creating setup.num_streams setup.num_streams
  | .SENDER => .creating setup.num_streams 0
  | .RECEIVER => .creating 0 setup.num_streams

def handle_state_client (setup : Setup) (client : Client) (byte : StateByte) : Client :=
  let client := { client with state := byte }
  if byte = PARAM_EXCHANGE then { client with pc := .sendingParameters }
  else if byte = CREATE_STREAMS then { client with pc := create_streams setup }
  else if byte = TEST_START then
    { client with pc := .waiting, omitting := decide (setup.omit_seconds ≠ 0) }
  else if byte = TEST_RUNNING then { client with pc := .waiting }
  else if byte = EXCHANGE_RESULTS then { client with pc := .sendingResults }
  else if byte = DISPLAY_RESULTS then { client with pc := .ending }
  else if byte = IPERF_DONE then { client with pc := .waiting }
  else if byte = SERVER_TERMINATE then { client with pc := .failed .IESERVERTERM }
  else if byte = ACCESS_DENIED then { client with pc := .failed .IEACCESSDENIED }
  else if byte = SERVER_ERROR then { client with pc := .failed .serverError }
  else { client with pc := .failed .IEMESSAGE }

def iperf_handle_message_client (setup : Setup) (client : Client) : Message → Client
  | .state byte => handle_state_client setup client byte
  | _ => { client with pc := .failed .wrongKind }

/-- `iperf_exchange_parameters` on the client's side writes this. -/
def send_parameters (setup : Setup) : Message :=
  .json (.parameters setup.protocol setup.num_streams (setup.mode == .RECEIVER)
    (setup.mode == .BIDIRECTIONAL))

def get_results_client (client : Client) : Message → Client
  | .json .results =>
      { client with pc := .waiting, results_received := client.results_received + 1 }
  | .json _ => { client with pc := .failed .IERECVRESULTS }
  | _ => { client with pc := .failed .wrongKind }

/-- `protocol->connect`; only `iperf_udp_connect` waits for an answer. -/
def connect_stream (setup : Setup) (client : Client) (senders receivers : Nat) : Client.Act :=
  .tell (.connection (prot_listener setup.protocol))
    { client with
      pc := if setup.protocol = .Pudp then .awaitingReply senders receivers
        else .creating senders receivers }

def udp_reply (client : Client) (senders receivers : Nat) : Message → Client
  | .reply => { client with pc := .creating senders receivers }
  | _ => { client with pc := .failed .IESTREAMREAD }

/-- The part of the loop under `test->state == TEST_RUNNING`: the omit timer,
which also resets the counters, the other end conditions, and the end of the
test. -/
def running (client : Client) : List Client.Act :=
  (if client.omitting then
    [.pass { client with omitting := false },
      .pass { client with omitting := false, reached := false }]
  else []) ++
  (if client.reached then [] else [.pass { client with reached := true }]) ++
  (if !client.omitting && client.reached then
    [.tell (.state TEST_END) { client with state := TEST_END }]
  else [])

def Client.acts (setup : Setup) (client : Client) : List Client.Act :=
  match client.pc with
  | .connecting => [.tell (.connection .listener) { client with pc := .greeting }]
  | .greeting => [.tell .cookie { client with pc := .waiting }]
  | .waiting =>
      if client.state = IPERF_DONE then [.pass { client with pc := .finished }]
      else .hear .control (iperf_handle_message_client setup client) ::
        if client.state = TEST_RUNNING then running client else []
  | .sendingParameters =>
      [.tell (send_parameters setup)
        { client with pc := .waiting, parameters_sent := client.parameters_sent + 1 }]
  | .creating (senders + 1) receivers => [connect_stream setup client senders receivers]
  | .creating 0 (receivers + 1) => [connect_stream setup client 0 receivers]
  | .creating 0 0 => [.pass { client with pc := .waiting }]
  | .awaitingReply senders receivers => [.hear .stream (udp_reply client senders receivers)]
  | .sendingResults =>
      [.tell (.json .results)
        { client with pc := .gettingResults, results_sent := client.results_sent + 1 }]
  | .gettingResults => [.hear .control (get_results_client client)]
  | .ending =>
      -- `iperf_client_end` answers unless the server failed
      if 0 < client.state then
        [.tell (.state IPERF_DONE) { client with pc := .waiting, state := IPERF_DONE }]
      else [.pass { client with pc := .waiting }]
  | .finished => []
  | .failed _ => []

end Client

section Server

inductive ServerPc where
  | waiting
  | readingCookie
  | sendingParamExchange
  | readingParameters
  | sendingCreateStreams
  | replying
  | checking
  | sendingTestStart
  | sendingTestRunning
  | sendingExchangeResults
  | gettingResults
  | sendingResults
  | sendingDisplayResults
  | finished
  | failed (reason : Failure)
  deriving DecidableEq, Repr

structure Server where
  pc : ServerPc := .waiting
  state : StateByte := IPERF_START
  /-- `ctrl_sck` is not -1 -/
  connected : Bool := false
  protocol : Protocol := .Ptcp
  mode : Mode := .RECEIVER
  num_streams : Nat := 1
  streams_to_send : Nat := 0
  streams_to_rec : Nat := 0
  send_streams_accepted : Nat := 0
  rec_streams_accepted : Nat := 0
  parameters_received : Nat := 0
  results_received : Nat := 0
  results_sent : Nat := 0
  deriving Repr

abbrev Server.Act := Dialogue.Act Server Message Channel

/-- The part of `iperf_accept` before its reads; a second connection is
answered with ACCESS_DENIED on its own socket. -/
def iperf_accept (server : Server) : Server :=
  if server.connected then { server with pc := .checking }
  else { server with connected := true, pc := .readingCookie }

def read_cookie (server : Server) : Message → Server
  | .cookie => { server with pc := .sendingParamExchange }
  | _ => { server with pc := .failed .IERECVCOOKIE }

def server_mode (reverse bidirectional : Bool) : Mode :=
  if bidirectional then .BIDIRECTIONAL else if reverse then .SENDER else .RECEIVER

def get_parameters (server : Server) : Message → Server
  | .json (.parameters protocol num_streams reverse bidirectional) =>
      { server with
        pc := .sendingCreateStreams
        protocol := protocol
        num_streams := num_streams
        mode := server_mode reverse bidirectional
        parameters_received := server.parameters_received + 1 }
  | .json _ => { server with pc := .failed .IERECVPARAMS }
  | _ => { server with pc := .failed .wrongKind }

/-- "Set streams number", after `iperf_accept` has returned. -/
def set_streams_number (server : Server) : Server :=
  match server.mode with
  | .BIDIRECTIONAL =>
      { server with streams_to_send := server.num_streams, streams_to_rec := server.num_streams }
  | .RECEIVER => { server with streams_to_send := 0, streams_to_rec := server.num_streams }
  | .SENDER => { server with streams_to_send := server.num_streams, streams_to_rec := 0 }

def count_stream (server : Server) : Server :=
  if server.rec_streams_accepted ≠ server.streams_to_rec then
    { server with rec_streams_accepted := server.rec_streams_accepted + 1 }
  else if server.send_streams_accepted ≠ server.streams_to_send then
    { server with send_streams_accepted := server.send_streams_accepted + 1 }
  else server

/-- `protocol->accept` and the count of the new stream. The QUIC branch repeats
this until its queue is empty, which takes the same streams in the same order;
`iperf_udp_accept` answers the client before it returns. -/
def accept_stream (server : Server) (_connection : Message) : Server :=
  if server.protocol = .Pudp then { server with pc := .replying }
  else { count_stream server with pc := .checking }

def streams_accept_done (server : Server) : Server :=
  if server.state = CREATE_STREAMS ∧ server.rec_streams_accepted = server.streams_to_rec ∧
      server.send_streams_accepted = server.streams_to_send then
    { server with pc := .sendingTestStart }
  else { server with pc := .waiting }

def handle_state_server (server : Server) (byte : StateByte) : Server :=
  let server := { server with state := byte }
  if byte = TEST_START then { server with pc := .waiting }
  else if byte = TEST_END then { server with pc := .sendingExchangeResults }
  else if byte = IPERF_DONE then { server with pc := .waiting }
  -- the client gave up: its results are printed as far as they go
  else if byte = CLIENT_TERMINATE then { server with pc := .waiting, state := IPERF_DONE }
  else { server with pc := .failed .IEMESSAGE }

def iperf_handle_message_server (server : Server) : Message → Server
  | .state byte => handle_state_server server byte
  | _ => { server with pc := .failed .wrongKind }

def get_results_server (server : Server) : Message → Server
  | .json .results =>
      { server with pc := .sendingResults, results_received := server.results_received + 1 }
  | .json _ => { server with pc := .failed .IERECVRESULTS }
  | _ => { server with pc := .failed .wrongKind }

/-- The end of the TEST_END branch; a one-off QUIC server does not wait for the
client's IPERF_DONE. -/
def display_results (setup : Setup) (server : Server) : Server :=
  if server.protocol = .Pquic ∧ setup.one_off then
    { server with pc := .waiting, state := IPERF_DONE }
  else { server with pc := .waiting, state := DISPLAY_RESULTS }

/-- One socket that `select` reports: the listener, the control socket, or in
CREATE_STREAMS the protocol's own listener. -/
def select (server : Server) : List Server.Act :=
  (if server.state = CREATE_STREAMS then []
    else [.hear .listener (fun _ => iperf_accept server)]) ++
  (if server.connected then [.hear .control (iperf_handle_message_server server)] else []) ++
  (if server.state = CREATE_STREAMS then
    [.hear (prot_listener server.protocol) (accept_stream server)] else [])

def set_send_state (server : Server) (byte : StateByte) (pc : ServerPc) : Server.Act :=
  .tell (.state byte) { server with state := byte, pc := pc }

def Server.acts (setup : Setup) (server : Server) : List Server.Act :=
  match server.pc with
  | .waiting =>
      if server.state = IPERF_DONE then [.pass { server with pc := .finished }] else select server
  | .readingCookie => [.hear .control (read_cookie server)]
  | .sendingParamExchange => [set_send_state server PARAM_EXCHANGE .readingParameters]
  | .readingParameters => [.hear .control (get_parameters server)]
  | .sendingCreateStreams =>
      [set_send_state (set_streams_number server) CREATE_STREAMS .checking]
  | .replying => [.tell .reply { count_stream server with pc := .checking }]
  | .checking => [.pass (streams_accept_done server)]
  | .sendingTestStart => [set_send_state server TEST_START .sendingTestRunning]
  | .sendingTestRunning => [set_send_state server TEST_RUNNING .waiting]
  | .sendingExchangeResults => [set_send_state server EXCHANGE_RESULTS .gettingResults]
  | .gettingResults => [.hear .control (get_results_server server)]
  | .sendingResults =>
      [.tell (.json .results)
        { server with pc := .sendingDisplayResults, results_sent := server.results_sent + 1 }]
  | .sendingDisplayResults => [.tell (.state DISPLAY_RESULTS) (display_results setup server)]
  | .finished => []
  | .failed _ => []

end Server

abbrev System := Joint Client Server Message

abbrev Step (setup : Setup) : System → Event Message → System → Prop :=
  Dialogue.Step Message.channel (playing Message.channel (Client.acts setup))
    (playing Message.channel (Server.acts setup))

def start : System := ⟨{}, {}, [], []⟩

end Iperf.ControlProtocol
