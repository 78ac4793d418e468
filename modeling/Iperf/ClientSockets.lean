import Iperf.Arguments
import Iperf.DescriptorLedger
import Iperf.Outcome

/-!
The sockets of a client: `create_socket`, `netdial`, the connect functions of the
protocols and `iperf_connect`. What the system answers to a call is data. A function
that returns -1 ends in `.error`, with the client as it leaves it.
-/

namespace Iperf.ClientSockets

open TestState Config DescriptorLedger Outcome

/-- The values of `i_errno` on the paths of a client. -/
inductive ClientErrno where
  | IECONNECT
  | IESETNODELAY
  | IESETCNTLKA
  | IESETCNTLKAKEEPIDLE
  | IESETCNTLKAINTERVAL
  | IESETCNTLKACOUNT
  | IECNTLKA
  | IESETUSERTIMEOUT
  | IESENDCOOKIE
  | IESELECT
  | IENOMSG
  | IECTRLCLOSE
  | IERECVMESSAGE
  | IESERVERTERM
  | IEACCESSDENIED
  | IECTRLREAD
  | IEMESSAGE
  | IESENDMESSAGE
  | IEINITTEST
  | IESENDPARAMS
  | IEPACKAGERESULTS
  | IESENDRESULTS
  | IERECVRESULTS
  | IESTREAMID
  | IESETCONGESTION
  | IESTREAMCONNECT
  | IESTREAMWRITE
  | IESTREAMREAD
  | IESETMSS
  | IESETBUF
  | IESETBUF2
  | IESETFLOW
  | IEBINDDEV
  | IEPROTOCOL
  | IENOSCTP
  | IESETSCTPNSTREAM
  | IESETSCTPBINDX
  | IESETSCTPDISABLEFRAG
  | IEQUICCONNECT
  | IECREATESTREAM
  | IEFILE
  | IEPTHREADATTRINIT
  | IEPTHREADCREATE
  | IEPTHREADATTRDESTROY
  | IEPTHREADCANCEL
  | IEPTHREADJOIN
  /-- the number that comes with `SERVER_ERROR` -/
  | reported (errno : Int32)
  deriving DecidableEq, Repr

/-- What a client holds: descriptors, the lists that `getaddrinfo` allocates, and the
threads of its streams, with the descriptor that a thread works on unless it is QUIC's. -/
inductive Resource where
  | descriptor (fd : Int32)
  | addresses (list : Nat)
  | thread (fd : Option Int32) (sender : Bool) (thr : Nat)
  deriving DecidableEq, Repr

/-- What a client does, oldest first. -/
inductive Happening where
  | resource (entry : Entry Resource)
  /-- the close that `iperf_sctp_bindx` makes itself, when `sctp_bindx()` fails -/
  | bindx_closed (s : Int32)
  /-- a state byte on the control connection -/
  | received (state : StateByte)
  | sent (state : StateByte)
  | parameters
  | results
  | statistics
  /-- `reporter_callback` in a state -/
  | report (state : StateByte)
  deriving DecidableEq, Repr

structure Stream where
  socket : Int32
  sender : Bool
  done : Bool
  thread_created : Bool
  thr : Nat
  deriving DecidableEq, Repr

/-- The options that only the sockets of a client see. -/
structure Choices where
  bind_address : Bool
  bind_dev : Bool
  bind_port : Int32
  snd_timeout : Int32
  num_ostreams : Int32
  /-- how many there are -/
  xbind_addrs : Nat
  deriving DecidableEq, Repr

structure Client where
  test : iperf_test
  choices : Choices
  streams : List Stream
  omitting : Bool
  /-- how many timers of `create_client_timers` will end the test, and how many of
  `create_client_omit_timer` the omit period -/
  timers : Nat
  omit_timers : Nat
  startup : Bool
  i_errno : Option ClientErrno
  history : List Happening
  deriving DecidableEq, Repr

section Primitives
variable (client : Client)

def happens (happening : Happening) : Client :=
  { client with history := client.history ++ [happening] }

def opened (resource : Resource) : Client := happens client (.resource (.opened resource))

def closed (resource : Resource) : Client := happens client (.resource (.closed resource))

def close (s : Int32) : Client := closed client (.descriptor s)

/-- A null list is let pass. -/
def freeaddrinfo (list : Option Nat) : Client :=
  match list with
  | some list => closed client (.addresses list)
  | none => client

def failed (errno : ClientErrno) : Client := { client with i_errno := some errno }

end Primitives

/-- What was opened and closed. -/
def resources (history : List Happening) : List (Entry Resource) :=
  history.filterMap fun
    | .resource entry => some entry
    | .bindx_closed s => some (.closed (.descriptor s))
    | _ => none

/-- The checks of a function, in its order: whether each goes wrong, and its error. -/
def first_failure (steps : List (Bool × ClientErrno)) : Option ClientErrno :=
  (steps.find? (·.1)).map (·.2)

/-- What the build provides. -/
structure Build where
  HAVE_SO_BINDTODEVICE : Bool
  HAVE_TCP_USER_TIMEOUT : Bool
  HAVE_TCP_KEEPALIVE : Bool
  HAVE_FLOWLABEL : Bool
  HAVE_SCTP_H : Bool
  deriving DecidableEq, Repr

inductive Family where
  | AF_INET
  | AF_INET6
  | unknown
  deriving DecidableEq, Repr

/-- The system's answers to `create_socket`. -/
structure Kernel where
  /-- `getaddrinfo` on the own name and on the server's -/
  local_res : Option Nat
  server_res : Option Nat
  /-- of the server's first address -/
  family : Family
  socket : Int32
  /-- `SO_BINDTODEVICE` -/
  device_bound : Bool
  bound : Bool
  deriving DecidableEq, Repr

section Dialling
variable (build : Build) (client : Client)

/-- The list of the own addresses; nothing is looked up without `-B`. -/
def own_addresses (kernel : Kernel) : Option Nat :=
  if client.choices.bind_address then kernel.local_res else none

def look_up (list : Option Nat) : Client :=
  match list with
  | some list => opened client (.addresses list)
  | none => client

/-- Whether `SO_BINDTODEVICE` is asked for and does not work. -/
def device_refused (kernel : Kernel) : Bool :=
  client.choices.bind_dev && ! (build.HAVE_SO_BINDTODEVICE && kernel.device_bound)

/-- The socket and the list of the server's addresses. -/
def create_socket (local_port : Int32) (kernel : Kernel) :
    Except Client ((Int32 × Nat) × Client) :=
  if client.choices.bind_address ∧ kernel.local_res = none then .error client
  else
    let local_res := own_addresses client kernel
    let client := look_up client local_res
    match kernel.server_res with
    | none => .error (freeaddrinfo client local_res)
    | some server_res =>
        let client := opened client (.addresses server_res)
        let s := kernel.socket
        if s < 0 then .error (freeaddrinfo (freeaddrinfo client local_res) (some server_res))
        else
          let client := opened client (.descriptor s)
          if device_refused build client kernel then
            .error (freeaddrinfo (freeaddrinfo (close client s) local_res) (some server_res))
          else if client.choices.bind_address then
            if kernel.bound then .ok ((s, server_res), freeaddrinfo client local_res)
            else .error (freeaddrinfo (freeaddrinfo (close client s) local_res) (some server_res))
          else if local_port ≠ 0 ∧ (kernel.family = .unknown ∨ ¬ kernel.bound) then
            .error (freeaddrinfo (close client s) (some server_res))
          else .ok ((s, server_res), client)

/-- `connected` is the test behind `timeout_connect`: no error, or `EINPROGRESS`. -/
def netdial (local_port : Int32) (kernel : Kernel) (connected : Bool) :
    Except Client (Int32 × Client) := do
  let ((s, server_res), client) ← create_socket build client local_port kernel
  if connected then .ok (s, freeaddrinfo client (some server_res))
  else .error (freeaddrinfo (close client s) (some server_res))

end Dialling

section Protocols
variable (build : Build) (client : Client)

/-- The system's answers to `protocol->connect`. -/
structure Connecting where
  kernel : Kernel
  /-- the socket options that can be asked for -/
  no_delay : Bool
  mss : Bool
  rcvbuf : Bool
  sndbuf : Bool
  user_timeout : Bool
  flowlabel : Bool
  initmsg : Bool
  /-- `iperf_sctp_bindx`: the first address is found and bound, the others are found, and
  `sctp_bindx()` -/
  first_bound : Bool
  others_found : Bool
  bindx : Bool
  disable_fragments : Bool
  /-- the buffer sizes that are read back -/
  sndbuf_actual : Option Int32
  rcvbuf_actual : Option Int32
  connected : Bool
  cookie_sent : Bool
  /-- the two calls of `iperf_udp_buffercheck`, and their error -/
  buffercheck : Int32
  rechecked : Int32
  buffers : ClientErrno
  /-- the datagram of `iperf_udp_connect`, and what `recv` returns until it times out -/
  written : Bool
  datagrams : List (Option (List UInt8))
  /-- the stream id of a QUIC connection -/
  stream_id : Int32
  deriving DecidableEq, Repr

/-- Whether a size that was asked for is larger than the one that was set. -/
def too_small (socket_bufsize : Int32) (actual : Option Int32) : Bool :=
  socket_bufsize ≠ 0 && actual.any (· < socket_bufsize)

/-- The steps of `iperf_tcp_connect` that close the socket and free the addresses. -/
def tcp_steps (test : iperf_test) (choices : Choices) (answers : Connecting) :
    List (Bool × ClientErrno) :=
  let settings := test.settings
  let sized := settings.socket_bufsize ≠ 0
  let labelled := build.HAVE_FLOWLABEL ∧ settings.flowlabel ≠ 0
  [(test.no_delay ≠ 0 ∧ ¬ answers.no_delay, .IESETNODELAY),
    (settings.mss ≠ 0 ∧ ¬ answers.mss, .IESETMSS),
    (sized ∧ ¬ answers.rcvbuf, .IESETBUF),
    (sized ∧ ¬ answers.sndbuf, .IESETBUF),
    (build.HAVE_TCP_USER_TIMEOUT ∧ choices.snd_timeout ≠ 0 ∧ ¬ answers.user_timeout,
      .IESETUSERTIMEOUT),
    (answers.sndbuf_actual = none, .IESETBUF),
    (too_small settings.socket_bufsize answers.sndbuf_actual, .IESETBUF2),
    (answers.rcvbuf_actual = none, .IESETBUF),
    (too_small settings.socket_bufsize answers.rcvbuf_actual, .IESETBUF2),
    (labelled ∧ answers.kernel.family ≠ .AF_INET6, .IESETFLOW),
    (labelled ∧ ¬ answers.flowlabel, .IESETFLOW),
    (¬ answers.connected, .IESTREAMCONNECT)]

def iperf_tcp_connect (port : Int32) (answers : Connecting) : Except Client (Int32 × Client) :=
  match create_socket build client port answers.kernel with
  | .error client => .error (failed client .IESTREAMCONNECT)
  | .ok ((s, server_res), client) =>
      match first_failure (tcp_steps build client.test client.choices answers) with
      | some errno => .error (failed (freeaddrinfo (close client s) (some server_res)) errno)
      | none =>
          let client := freeaddrinfo client (some server_res)
          if answers.cookie_sent then .ok (s, client)
          else .error (failed (close client s) .IESENDCOOKIE)

def UDP_BUFFER_EXTRA : Int32 := 1024

def check_buffers (answers : Connecting) : Except Client Client :=
  if answers.buffercheck < 0 then .error (failed client answers.buffers)
  else if 0 < answers.buffercheck ∧ client.test.settings.socket_bufsize = 0 then
    let bufsize := client.test.settings.blksize + UDP_BUFFER_EXTRA
    let settings := { client.test.settings with socket_bufsize := bufsize }
    let client := { client with test := { client.test with settings := settings } }
    if answers.rechecked < 0 then .error (failed client answers.buffers) else .ok client
  else .ok client

/-- The bytes of the words, as a little-endian machine has them in memory. -/
def UDP_CONNECT_MSG : List UInt8 := [0x39, 0x38, 0x37, 0x36]
def UDP_CONNECT_REPLY : List UInt8 := [0x36, 0x37, 0x38, 0x39]
def LEGACY_UDP_CONNECT_REPLY : List UInt8 := [0xb1, 0x68, 0xde, 0x3a]
def MAX_REVERSE_OUT_OF_ORDER_PACKETS : Int32 := 2

def is_reply (buf : List UInt8) : Bool :=
  buf = UDP_CONNECT_REPLY ∨ buf = LEGACY_UDP_CONNECT_REPLY

/-- `recv` into a buffer of four bytes. -/
def recv (buf datagram : List UInt8) : List UInt8 := datagram.take 4 ++ buf.drop datagram.length

/-- The loop that waits for the reply; the socket's timeout ends a `recv` with nothing to read. -/
def wait_for_reply (max_len : Int) : List (Option (List UInt8)) → List UInt8 → Int → Bool
  | [], _, _ => false
  | none :: _, _, _ => false
  | some datagram :: rest, buf, i =>
      let buf := recv buf datagram
      let i := i + (min datagram.length 4 : Nat)
      if is_reply buf then true
      else if i < max_len then wait_for_reply max_len rest buf i
      else false

def max_len_wait_for_reply (test : iperf_test) : Int :=
  4 + if test.reverse ≠ 0 then
    MAX_REVERSE_OUT_OF_ORDER_PACKETS.toInt * test.settings.blksize.toInt else 0

def iperf_udp_connect (port : Int32) (answers : Connecting) : Except Client (Int32 × Client) :=
  match netdial build client port answers.kernel answers.connected with
  | .error client => .error (failed client .IESTREAMCONNECT)
  | .ok (s, client) => do
      let client ← check_buffers client answers
      if ¬ answers.written then .error (failed client .IESTREAMWRITE)
      else if wait_for_reply (max_len_wait_for_reply client.test) answers.datagrams
          UDP_CONNECT_MSG 0 then .ok (s, client)
      else .error (failed client .IESTREAMREAD)

/-- The steps of `iperf_sctp_connect` between the two bindings. -/
def sctp_steps (test : iperf_test) (choices : Choices) (answers : Connecting) :
    List (Bool × ClientErrno) :=
  let mss := test.settings.mss
  [(test.no_delay ≠ 0 ∧ ¬ answers.no_delay, .IESETNODELAY),
    (512 ≤ mss ∧ mss ≤ 131072 ∧ ¬ answers.mss, .IESETMSS),
    (0 < choices.num_ostreams ∧ ¬ answers.initmsg, .IESETSCTPNSTREAM)]

/-- The steps behind them. -/
def association_steps (answers : Connecting) : List (Bool × ClientErrno) :=
  [(¬ answers.connected, .IESTREAMCONNECT),
    (¬ answers.cookie_sent, .IESENDCOOKIE),
    (¬ answers.disable_fragments, .IESETSCTPDISABLEFRAG)]

/-- The lists of its own are freed before it returns. A socket that the system call refuses
is closed here, and again by the caller. -/
def iperf_sctp_bindx (s : Int32) (answers : Connecting) : Except Client Client :=
  if client.choices.xbind_addrs = 0 then .ok client
  else if ¬ answers.first_bound then .error (failed client .IESETSCTPBINDX)
  else if client.choices.xbind_addrs = 1 then .ok client
  else if ¬ answers.others_found then .error (failed client .IESETSCTPBINDX)
  else if ¬ answers.bindx then .error (failed (happens client (.bindx_closed s)) .IESETSCTPBINDX)
  else .ok client

def sctp_options (s : Int32) (server_res : Nat) (answers : Connecting) :
    Except Client (Int32 × Client) :=
  match first_failure (sctp_steps client.test client.choices answers) with
  | some errno => .error (failed (freeaddrinfo (close client s) (some server_res)) errno)
  | none =>
      match iperf_sctp_bindx client s answers with
      | .error client => .error (close (freeaddrinfo client (some server_res)) s)
      | .ok client =>
          match first_failure (association_steps answers) with
          | some errno => .error (failed (freeaddrinfo (close client s) (some server_res)) errno)
          | none => .ok (s, freeaddrinfo client (some server_res))

def iperf_sctp_connect (port : Int32) (answers : Connecting) : Except Client (Int32 × Client) :=
  let kernel := answers.kernel
  if ¬ build.HAVE_SCTP_H then .error (failed client .IENOSCTP)
  else if client.choices.bind_address ∧ kernel.local_res = none then
    .error (failed client .IESTREAMCONNECT)
  else
    let local_res := own_addresses client kernel
    let client := look_up client local_res
    match kernel.server_res with
    | none => .error (failed (freeaddrinfo client local_res) .IESTREAMCONNECT)
    | some server_res =>
        let client := opened client (.addresses server_res)
        let s := kernel.socket
        if s < 0 then
          .error (failed (freeaddrinfo (freeaddrinfo client local_res) (some server_res))
            .IESTREAMCONNECT)
        else
          let client := opened client (.descriptor s)
          if client.test.settings.socket_bufsize ≠ 0 ∧ ¬ (answers.rcvbuf ∧ answers.sndbuf) then
            -- the own addresses stay
            .error (failed (freeaddrinfo (close client s) (some server_res)) .IESETBUF)
          else if device_refused build client kernel then
            .error (failed
              (freeaddrinfo (freeaddrinfo (close client s) local_res) (some server_res)) .IEBINDDEV)
          else if client.choices.bind_address then
            if kernel.bound then
              sctp_options (freeaddrinfo client local_res) s server_res answers
            else
              .error (failed (freeaddrinfo (freeaddrinfo (close client s) local_res)
                (some server_res)) .IESTREAMCONNECT)
          else if port ≠ 0 ∧ kernel.family = .unknown then
            .error (failed (freeaddrinfo (close client s) (some server_res)) .IEPROTOCOL)
          else if port ≠ 0 ∧ ¬ kernel.bound then
            .error (failed (freeaddrinfo (close client s) (some server_res)) .IESTREAMCONNECT)
          else sctp_options client s server_res answers

/-- The number is a stream id; the context owns what is behind it. -/
def iperf_quic_connect (answers : Connecting) : Except Client (Int32 × Client) :=
  if answers.stream_id < 0 then .error (failed client .IEQUICCONNECT)
  else .ok (answers.stream_id, client)

def connect (port : Int32) (answers : Connecting) : Except Client (Int32 × Client) :=
  match client.test.protocol with
  | .Ptcp => iperf_tcp_connect build client port answers
  | .Pudp => iperf_udp_connect build client port answers
  | .Psctp => iperf_sctp_connect build client port answers
  | .Pquic => iperf_quic_connect client answers

end Protocols

section Control
variable (build : Build) (client : Client)

/-- The system's answers to `iperf_connect`. -/
structure Calling where
  cookie : List UInt8
  kernel : Kernel
  connected : Bool
  no_delay : Bool
  keepalive : Option ClientErrno
  user_timeout : Bool
  greeted : Bool
  /-- `TCP_MAXSEG` -/
  mss : Option Int32
  deriving DecidableEq, Repr

/-- The errors of `iperf_connect` behind the connection. -/
def control_failure (choices : Choices) (answers : Calling) : Option ClientErrno :=
  if ¬ answers.no_delay then some .IESETNODELAY
  else if build.HAVE_TCP_KEEPALIVE ∧ answers.keepalive ≠ none then answers.keepalive
  else
    first_failure
      [(build.HAVE_TCP_USER_TIMEOUT ∧ choices.snd_timeout ≠ 0 ∧ ¬ answers.user_timeout,
          .IESETUSERTIMEOUT),
        (¬ answers.greeted, .IESENDCOOKIE)]

/-- The control connection is bound to no port, whatever `--cport` says. -/
def dial_control (answers : Calling) : Except Client (Int32 × Client) :=
  if client.test.ctrl_sck < 0 then
    match netdial build client 0 answers.kernel answers.connected with
    | .error client =>
        .error (failed { client with test := { client.test with ctrl_sck := -1 } } .IECONNECT)
    | .ok (s, client) => .ok (s, client)
  else .ok (client.test.ctrl_sck, client)

def iperf_connect (answers : Calling) : Except Client Client :=
  let test := { client.test with cookie := answers.cookie }
  match dial_control build { client with test := test } answers with
  | .error client => .error client
  | .ok (s, client) =>
      match control_failure build client.choices answers with
      | some errno =>
          .error (failed { client with test := { client.test with ctrl_sck := s } } errno)
      | none =>
          .ok { client with
            test := Arguments.iperf_connect client.test answers.cookie s answers.mss }

end Control

end Iperf.ClientSockets
