import Iperf.Config
import Mathlib.Algebra.Order.Ring.Rat

/-!
`iperf_parse_arguments` after `getopt_long` has split the command line: each
option comes with the value that `atoi`, `strtol` or a `unit_` function made of
its argument, `none` where that function reports an error. The last part is
`iperf_connect`, which settles the block size of a UDP client.
-/

namespace Iperf.Arguments

open TestState Config

/-- `other` stands for the options that only set what is not modelled, by the
side that they are restricted to. -/
inductive Opt where
  | p (portno : Int32)
  | s
  | c
  | u
  | quic
  | quic_port (port : Int32)
  | sctp
  | nstreams (count : Option UInt64) (burst : Option Int32) (rate : Option UInt64)
  | b (burst : Option Int32) (rate : Option UInt64)
  | t (seconds : Int32)
  | n (bytes : Option UInt64)
  | k (blocks : Option UInt64)
  | l (blksize : Option UInt64)
  | P (streams : Int32)
  | R
  | bidir
  | w (farg : Option Rat)
  | M (mss : Int32)
  | N
  | S (tos : Option Int32)
  | dscp (tos : Int32)
  | extra_data (text : String)
  | L (flowlabel : Option Int32)
  | Z
  | repeating_payload
  | O (seconds : Int32)
  | F (name : String)
  | server_max_duration (seconds : Int32)
  | A (affinity : Option Int32) (server_affinity : Option Int32)
  | T (title : String)
  | C (congestion : String)
  | get_server_output
  | udp_counters_64bit
  | no_fq_socket_pacing
  | fq_rate (rate : Option UInt64)
  | dont_fragment
  | username (name : String)
  | rsa_public_key_path (path : String)
  | skip_rx_copy
  | pacing_timer (value : Option UInt64)
  | m
  | other (server_only client_only : Bool)
  deriving DecidableEq, Repr

/-- The local variables of `iperf_parse_arguments`. -/
structure Parsing where
  test : iperf_test
  blksize : Int32 := 0
  server_flag : Bool := false
  client_flag : Bool := false
  rate_flag : Bool := false
  duration_flag : Bool := false
  client_username : Option String := none
  client_rsa_public_key : Option String := none

section Options
variable (features : Features)

/-- The value of a `unit_` function, with its `i_errno`. -/
def unit (value : Option UInt64) : Except Errno UInt64 := value.elim (.error .IEUNITVAL) .ok

/-- An `iperf_size_t` stored into an `int`. -/
def int_of_size (value : UInt64) : Int32 := .ofInt value.toNat

def client (parsing : Parsing) (test : iperf_test) : Except Errno Parsing :=
  .ok { parsing with test := test, client_flag := true }

def server (parsing : Parsing) (test : iperf_test) : Except Errno Parsing :=
  .ok { parsing with test := test, server_flag := true }

def both (parsing : Parsing) (test : iperf_test) : Except Errno Parsing :=
  .ok { parsing with test := test }

def parse_burst (burst : Option Int32) (field : Int32) : Except Errno Int32 :=
  match burst with
  | some burst => if burst ≤ 0 ∨ MAX_BURST < burst then .error .IEBURST else .ok burst
  | none => .ok field

/-- The branch of `-b`; `--nstreams` has no break and falls into it. -/
def parse_bandwidth (parsing : Parsing) (burst : Option Int32) (rate : Option UInt64) :
    Except Errno Parsing := do
  let test := parsing.test
  let burst ← parse_burst burst test.settings.burst
  let rate ← unit rate
  let settings := { test.settings with burst := burst, rate := rate }
  client { parsing with rate_flag := true } { test with settings := settings }

def parse_option (parsing : Parsing) (opt : Opt) : Except Errno Parsing :=
  let test := parsing.test
  let settings := test.settings
  match opt with
  | .p portno =>
      if portno < 1 ∨ 65535 < portno then .error .IEBADPORT
      else both parsing { test with server_port := portno }
  | .s =>
      if test.role = .c then .error .IESERVCLIENT
      else both parsing (iperf_set_test_role features test .s)
  | .c =>
      if test.role = .s then .error .IESERVCLIENT
      else both parsing (iperf_set_test_role features test .c)
  | .u => client parsing (set_protocol features test .Pudp)
  | .quic =>
      if features.HAVE_MSQUIC then both parsing (set_protocol features test .Pquic)
      else .error .IEUNIMP
  | .quic_port port =>
      if ¬ features.HAVE_MSQUIC then .error .IEUNIMP
      else if port ≤ 0 ∨ 65535 < port then .error .IEBADPORT
      else both parsing { test with quic_port := port }
  | .sctp =>
      if features.HAVE_SCTP_H then client parsing (set_protocol features test .Psctp)
      else .error .usage
  | .nstreams count burst rate =>
      if ¬ features.HAVE_SCTP_H then .error .usage
      else do
        let _num_ostreams ← unit count
        parse_bandwidth parsing burst rate
  | .b burst rate => parse_bandwidth parsing burst rate
  | .t seconds =>
      if MAX_TIME < seconds ∨ seconds < 0 then .error .IEDURATION
      else client { parsing with duration_flag := true } { test with duration := seconds }
  | .n bytes => do
      let bytes ← unit bytes
      client parsing { test with settings := { settings with bytes := bytes } }
  | .k blocks => do
      let blocks ← unit blocks
      client parsing { test with settings := { settings with blocks := blocks } }
  | .l blksize => do
      let blksize ← unit blksize
      client { parsing with blksize := int_of_size blksize } test
  | .P streams =>
      if MAX_STREAMS < streams then .error .IENUMSTREAMS
      else client parsing { test with num_streams := streams }
  | .R =>
      if test.bidirectional ≠ 0 then .error .IEREVERSEBIDIR
      else client parsing (iperf_set_test_reverse features test 1)
  | .bidir =>
      if test.reverse ≠ 0 then .error .IEREVERSEBIDIR
      else client parsing (iperf_set_test_bidirectional features test 1)
  | .w farg =>
      match farg with
      | none => .error .IEUNITVAL
      | some farg =>
          if (MAX_TCP_BUFFER.toInt : Rat) < farg then .error .IEBUFSIZE
          else client parsing { test with
            settings := { settings with socket_bufsize := .ofInt (farg.num.tdiv farg.den) } }
  | .M mss =>
      if MAX_MSS < mss then .error .IEMSS
      else client parsing { test with settings := { settings with mss := mss } }
  | .N => client parsing { test with no_delay := 1 }
  | .S tos =>
      match tos with
      | none => .error .IEBADTOS
      | some tos =>
          if tos < 0 ∨ 255 < tos then .error .IEBADTOS
          else client parsing { test with settings := { settings with tos := tos } }
  | .dscp tos =>
      if tos < 0 then .error .IEBADTOS
      else client parsing { test with settings := { settings with tos := tos } }
  | .extra_data text => client parsing { test with extra_data := some text }
  | .L flowlabel =>
      if ¬ features.HAVE_FLOWLABEL then .error .IEUNIMP
      else match flowlabel with
        | none => .error .IESETFLOW
        | some flowlabel =>
            if flowlabel < 1 ∨ 0xfffff < flowlabel then .error .IESETFLOW
            else client parsing { test with settings := { settings with flowlabel := flowlabel } }
  | .Z =>
      if ¬ features.has_sendfile then .error .IENOSENDFILE
      else client parsing { test with zerocopy := 1 }
  | .repeating_payload => client parsing { test with repeating_payload := 1 }
  | .O seconds =>
      if seconds < 0 ∨ MAX_OMIT_TIME < seconds then .error .IEOMIT
      else client parsing { test with «omit» := seconds }
  | .F name => both parsing { test with diskfile_name := some name }
  | .server_max_duration seconds =>
      if seconds < 0 ∨ MAX_TIME < seconds then .error .IEDURATION
      else server parsing { test with max_server_duration := seconds }
  | .A affinity server_affinity =>
      if ¬ features.HAVE_CPU_AFFINITY then .error .IEUNIMP
      else match affinity with
        | none => .error .IEAFFINITY
        | some affinity =>
            if affinity < 0 ∨ 1024 < affinity then .error .IEAFFINITY
            else match server_affinity with
              | none => both parsing { test with affinity := affinity }
              | some core =>
                  if core < 0 ∨ 1024 < core then .error .IEAFFINITY
                  else client parsing { test with affinity := affinity, server_affinity := core }
  | .T title => client parsing { test with title := some title }
  | .C congestion =>
      if features.HAVE_TCP_CONGESTION then
        client parsing { test with congestion := some congestion }
      else .error .IEUNIMP
  | .get_server_output => client parsing { test with get_server_output := 1 }
  | .udp_counters_64bit => client parsing { test with udp_counters_64bit := 1 }
  | .no_fq_socket_pacing =>
      if features.HAVE_SO_MAX_PACING_RATE then
        client parsing { test with settings := { settings with fqrate := 0 } }
      else .error .IEUNIMP
  | .fq_rate rate =>
      if features.HAVE_SO_MAX_PACING_RATE then do
        let rate ← unit rate
        client parsing { test with settings := { settings with fqrate := rate } }
      else .error .IEUNIMP
  | .dont_fragment =>
      if features.HAVE_DONT_FRAGMENT then
        client parsing { test with settings := { settings with dont_fragment := 1 } }
      else .error .usage
  | .username name =>
      if features.HAVE_SSL then client { parsing with client_username := some name } test
      else .error .usage
  | .rsa_public_key_path path =>
      if features.HAVE_SSL then client { parsing with client_rsa_public_key := some path } test
      else .error .usage
  | .skip_rx_copy =>
      if features.HAVE_MSG_TRUNC then
        client parsing { test with settings := { settings with skip_rx_copy := 1 } }
      else .error .usage
  | .pacing_timer value => do
      let value ← unit value
      client parsing { test with settings := { settings with pacing_timer := int_of_size value } }
  | .m =>
      if features.HAVE_IPPROTO_MPTCP then
        both parsing { set_protocol features test .Ptcp with mptcp := 1 }
      else .error .usage
  | .other server_only client_only =>
      .ok { parsing with
        server_flag := parsing.server_flag || server_only
        client_flag := parsing.client_flag || client_only }

end Options

section Checks

/-- The files, the environment and the terminal that the last part consults. -/
structure Environment where
  load_pubkey_from_file : String → Option String
  password : Option String
  file_size : String → Option UInt64

def sample_environment : Environment := ⟨fun _ => none, none, fun _ => none⟩

def role_check (parsing : Parsing) : Except Errno Unit :=
  if parsing.test.role = .c ∧ parsing.server_flag then .error .IESERVERONLY
  else if parsing.test.role = .s ∧ parsing.client_flag then .error .IECLIENTONLY
  else .ok ()

/-- The port of a QUIC test is next to the control port. -/
def quic_default (test : iperf_test) : iperf_test :=
  if test.protocol = .Pquic ∧ test.quic_port = 0 then
    let qp := test.server_port + 1
    { test with quic_port := if 0 < qp ∧ qp ≤ 65535 then qp else test.server_port }
  else test

def credentials (environment : Environment) (parsing : Parsing) (test : iperf_test) :
    Except Errno iperf_test :=
  match test.role, parsing.client_username, parsing.client_rsa_public_key with
  | .c, some username, some path =>
      match environment.load_pubkey_from_file path, environment.password with
      | some pubkey, some password =>
          .ok { test with
            settings := { test.settings with
              client_username := some username
              client_password := some password
              client_rsa_pubkey := some pubkey } }
      | _, _ => .error .IESETCLIENTAUTH
  | .c, some _, none => .error .IESETCLIENTAUTH
  | .c, none, some _ => .error .IESETCLIENTAUTH
  | _, _, _ => .ok test

def default_blksize (protocol : Protocol) : Int32 :=
  match protocol with
  | .Pudp => 0
  | .Psctp => DEFAULT_SCTP_BLKSIZE
  | _ => DEFAULT_TCP_BLKSIZE

def set_blksize (parsing : Parsing) (test : iperf_test) : Except Errno iperf_test :=
  let blksize := if parsing.blksize = 0 then default_blksize test.protocol else parsing.blksize
  if (test.protocol ≠ .Pudp ∧ blksize ≤ 0) ∨ MAX_BLOCKSIZE < blksize then .error .IEBLOCKSIZE
  else if test.protocol = .Pudp ∧ 0 < blksize ∧
      (blksize < MIN_UDP_BLOCKSIZE ∨ MAX_UDP_BLOCKSIZE < blksize) then .error .IEUDPBLOCKSIZE
  else .ok { test with settings := { test.settings with blksize := blksize } }

def default_rate (parsing : Parsing) (test : iperf_test) : iperf_test :=
  if parsing.rate_flag then test
  else { test with
    settings := { test.settings with rate := if test.protocol = .Pudp then UDP_RATE else 0 } }

/-- A client that sends a file has the file's size as its end condition. -/
def file_bytes (environment : Environment) (parsing : Parsing) (test : iperf_test) : iperf_test :=
  if test.settings.bytes = 0 ∧ test.settings.blocks = 0 ∧ ¬ parsing.duration_flag ∧
      test.role = .c then
    match test.diskfile_name.bind environment.file_size with
    | some bytes => { test with settings := { test.settings with bytes := bytes } }
    | none => test
  else test

def end_conditions (parsing : Parsing) (test : iperf_test) : Except Errno iperf_test :=
  let test :=
    if (test.settings.bytes ≠ 0 ∨ test.settings.blocks ≠ 0) ∧ ¬ parsing.duration_flag then
      { test with duration := 0 }
    else test
  if (parsing.duration_flag ∧ test.settings.bytes ≠ 0) ∨
      (parsing.duration_flag ∧ test.settings.blocks ≠ 0) ∨
      (test.settings.bytes ≠ 0 ∧ test.settings.blocks ≠ 0) then .error .IEENDCONDITIONS
  else .ok test

def finish (environment : Environment) (parsing : Parsing) : Except Errno iperf_test := do
  role_check parsing
  let test ← credentials environment parsing (quic_default parsing.test)
  if test.diskfile_name ≠ none ∧ test.protocol = .Pudp then throw .IEUDPFILETRANSFER
  let test ← set_blksize parsing test
  let test ← end_conditions parsing (file_bytes environment parsing (default_rate parsing test))
  if test.role = .unset then throw .IENOROLE
  return test

def iperf_parse_arguments (features : Features) (environment : Environment) (test : iperf_test)
    (options : List Opt) : Except Errno iperf_test := do
  let parsing ← options.foldlM (parse_option features) { test := test }
  finish environment parsing

end Checks

/-- What `iperf_connect` makes of the segment size that the kernel reports for
the control connection. -/
def control_mss (opt : Option Int32) : Int32 :=
  match opt with
  | some opt => if 0 < opt ∧ opt ≤ MAX_UDP_BLOCKSIZE then opt else 0
  | none => 0

/-- The part of `iperf_connect` that sets fields. -/
def iperf_connect (test : iperf_test) (cookie : List UInt8) (socket : Int32) (opt : Option Int32) :
    iperf_test :=
  let ctrl_sck_mss := control_mss opt
  let blksize :=
    if test.protocol = .Pudp ∧ test.settings.blksize = 0 then
      if ctrl_sck_mss ≠ 0 then ctrl_sck_mss else DEFAULT_UDP_BLKSIZE
    else test.settings.blksize
  { test with
    cookie := cookie
    ctrl_sck := socket
    max_fd := if test.max_fd < socket then socket else test.max_fd
    ctrl_sck_mss := ctrl_sck_mss
    settings := { test.settings with blksize := blksize } }

end Iperf.Arguments
