import Mathlib.Algebra.Order.Ring.Int
import Iperf.TestState

/-!
The fields of `struct iperf_test` and `struct iperf_settings` that the command
line, the parameter exchange or a connection sets, and the setters that several
of them share. The default of a field is the zeroed memory of `iperf_new_test`.
-/

namespace Iperf.Config

open TestState

/-- What the build and the system provide. -/
structure Features where
  HAVE_SCTP_H : Bool
  HAVE_MSQUIC : Bool
  HAVE_IPPROTO_MPTCP : Bool
  HAVE_DONT_FRAGMENT : Bool
  HAVE_FLOWLABEL : Bool
  HAVE_CPU_AFFINITY : Bool
  HAVE_TCP_CONGESTION : Bool
  HAVE_SO_MAX_PACING_RATE : Bool
  HAVE_MSG_TRUNC : Bool
  HAVE_SSL : Bool
  has_sendfile : Bool
  has_tcpinfo_retransmits : Bool
  IPERF_VERSION : String
  deriving DecidableEq, Repr

/-- A Linux build with every library. -/
def sample_features : Features :=
  { HAVE_SCTP_H := true, HAVE_MSQUIC := true, HAVE_IPPROTO_MPTCP := true
    HAVE_DONT_FRAGMENT := true, HAVE_FLOWLABEL := true, HAVE_CPU_AFFINITY := true
    HAVE_TCP_CONGESTION := true, HAVE_SO_MAX_PACING_RATE := true, HAVE_MSG_TRUNC := true
    HAVE_SSL := true, has_sendfile := true, has_tcpinfo_retransmits := true
    IPERF_VERSION := "3.20+" }

inductive Role where
  | unset
  | c
  | s
  deriving DecidableEq, Repr

/-- The values of `i_errno` on the modelled paths; `usage` is the exit on an
option that this build does not know. -/
inductive Errno where
  | usage
  | IESERVCLIENT
  | IENOROLE
  | IESERVERONLY
  | IECLIENTONLY
  | IEBADPORT
  | IEUNIMP
  | IEBURST
  | IEUNITVAL
  | IEDURATION
  | IENUMSTREAMS
  | IEREVERSEBIDIR
  | IEBUFSIZE
  | IEMSS
  | IEBADTOS
  | IESETFLOW
  | IENOSENDFILE
  | IEOMIT
  | IEAFFINITY
  | IEBLOCKSIZE
  | IEUDPBLOCKSIZE
  | IEENDCONDITIONS
  | IEUDPFILETRANSFER
  | IESETCLIENTAUTH
  | IESENDPARAMS
  | IERECVPARAMS
  | IEMAXSERVERTESTDURATIONEXCEEDED
  deriving DecidableEq, Repr

structure iperf_settings where
  socket_bufsize : Int32 := 0
  blksize : Int32 := 0
  rate : UInt64 := 0
  fqrate : UInt64 := 0
  pacing_timer : Int32 := 0
  burst : Int32 := 0
  mss : Int32 := 0
  tos : Int32 := 0
  flowlabel : Int32 := 0
  bytes : UInt64 := 0
  blocks : UInt64 := 0
  dont_fragment : Int32 := 0
  authtoken : Option String := none
  client_username : Option String := none
  client_password : Option String := none
  client_rsa_pubkey : Option String := none
  skip_rx_copy : Int32 := 0
  deriving DecidableEq, Repr

def COOKIE_SIZE : Nat := 37

/-- The bits of three doubles: total, user and system. -/
abbrev Utilization := UInt64 × UInt64 × UInt64

structure iperf_test where
  role : Role := .unset
  mode : Mode := .RECEIVER
  sender_has_retransmits : Int32 := 0
  other_side_has_retransmits : Int32 := 0
  protocol : Protocol := .Ptcp
  state : StateByte := 0
  server_port : Int32 := 0
  quic_port : Int32 := 0
  «omit» : Int32 := 0
  duration : Int32 := 0
  max_server_duration : Int32 := 0
  diskfile_name : Option String := none
  affinity : Int32 := 0
  server_affinity : Int32 := 0
  title : Option String := none
  extra_data : Option String := none
  congestion : Option String := none
  congestion_used : Option String := none
  remote_congestion_used : Option String := none
  ctrl_sck : Int32 := 0
  mapped_v4 : Int32 := 0
  listener : Int32 := 0
  prot_listener : Int32 := 0
  ctrl_sck_mss : Int32 := 0
  use_pkcs1_padding : Int32 := 0
  no_delay : Int32 := 0
  reverse : Int32 := 0
  bidirectional : Int32 := 0
  zerocopy : Int32 := 0
  get_server_output : Int32 := 0
  udp_counters_64bit : Int32 := 0
  multisend : Int32 := 0
  repeating_payload : Int32 := 0
  mptcp : Int32 := 0
  json_output : Int32 := 0
  json_output_string : Option String := none
  max_fd : Int32 := 0
  omitting : Int32 := 0
  done : Int32 := 0
  cpu_util : Utilization := (0, 0, 0)
  remote_cpu_util : Utilization := (0, 0, 0)
  num_streams : Int32 := 0
  server_last_run_rc : Int32 := 0
  server_forced_no_msg_restarts_count : UInt32 := 0
  server_test_number : UInt32 := 0
  cookie : List UInt8 := List.replicate COOKIE_SIZE 0
  settings : iperf_settings := {}
  deriving DecidableEq, Repr

def OMIT : Int32 := 0
def DURATION : Int32 := 10
def PORT : Int32 := 5201
def UDP_RATE : UInt64 := 1024 * 1024
def DEFAULT_TCP_BLKSIZE : Int32 := 128 * 1024
def DEFAULT_SCTP_BLKSIZE : Int32 := 64 * 1024
def DEFAULT_UDP_BLKSIZE : Int32 := 1460
def DEFAULT_PACING_TIMER : Int32 := 1000
def MIN_UDP_BLOCKSIZE : Int32 := 4 + 4 + 8
def MAX_UDP_BLOCKSIZE : Int32 := 65535 - 8 - 20
def MAX_BLOCKSIZE : Int32 := 1024 * 1024
def MAX_TCP_BUFFER : Int32 := 512 * 1024 * 1024
def MAX_TIME : Int32 := 86400
def MAX_OMIT_TIME : Int32 := 600
def MAX_BURST : Int32 := 1000
def MAX_MSS : Int32 := 32 * 1024 - 1
def MAX_STREAMS : Int32 := 128
def MAX_PARAMS_JSON_STRING : Int32 := 8 * 1024

section Setters
variable (features : Features)

def check_sender_has_retransmits (ipt : iperf_test) : iperf_test :=
  { ipt with
    sender_has_retransmits :=
      if ipt.mode ≠ .RECEIVER ∧ ipt.protocol = .Ptcp ∧ features.has_tcpinfo_retransmits then 1
      else 0 }

def iperf_set_test_role (ipt : iperf_test) (role : Role) : iperf_test :=
  check_sender_has_retransmits features
    { ipt with
      role := role
      mode :=
        if ipt.reverse = 0 then
          if ipt.bidirectional ≠ 0 then .BIDIRECTIONAL
          else if role = .c then .SENDER
          else if role = .s then .RECEIVER
          else ipt.mode
        else if role = .c then .RECEIVER
        else if role = .s then .SENDER
        else ipt.mode }

def iperf_set_test_reverse (ipt : iperf_test) (reverse : Int32) : iperf_test :=
  check_sender_has_retransmits features
    { ipt with
      reverse := reverse
      mode :=
        if reverse = 0 then
          if ipt.role = .c then .SENDER
          else if ipt.role = .s then .RECEIVER
          else ipt.mode
        else if ipt.role = .c then .RECEIVER
        else if ipt.role = .s then .SENDER
        else ipt.mode }

def iperf_set_test_bidirectional (ipt : iperf_test) (bidirectional : Int32) : iperf_test :=
  let ipt := { ipt with bidirectional := bidirectional }
  if bidirectional ≠ 0 then { ipt with mode := .BIDIRECTIONAL }
  else iperf_set_test_reverse features ipt ipt.reverse

/-- The list that `iperf_defaults` sets up. -/
def protocols : List Protocol :=
  [.Ptcp, .Pudp, .Pquic] ++ if features.HAVE_SCTP_H then [.Psctp] else []

/-- An id that is not in the list leaves the protocol as it is; no caller looks
at the result. -/
def set_protocol (test : iperf_test) (prot_id : Protocol) : iperf_test :=
  if prot_id ∈ protocols features then
    check_sender_has_retransmits features { test with protocol := prot_id }
  else test

def iperf_defaults : iperf_test :=
  set_protocol features
    { «omit» := OMIT
      duration := DURATION
      affinity := -1
      server_affinity := -1
      server_port := PORT
      ctrl_sck := -1
      listener := -1
      prot_listener := -1
      num_streams := 1
      multisend := 10
      settings :=
        { blksize := DEFAULT_TCP_BLKSIZE
          pacing_timer := DEFAULT_PACING_TIMER } } .Ptcp

end Setters

end Iperf.Config
