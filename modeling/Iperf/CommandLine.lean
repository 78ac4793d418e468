import Iperf.Arguments
import Iperf.KeyedWrites
import Iperf.Time

/-!
`iperf_parse_arguments` with all its options. A test is a value for each field that
the command line can set, those of `struct iperf_settings` and the local variables of
the function among them. As in `Arguments`, an option comes with what `atoi`, `strtol`,
`atof` or a `unit_` function made of its argument.
-/

namespace Iperf.CommandLine

open TestState Config KeyedWrites Time
open Arguments (int_of_size)

inductive Errno where
  | IESERVCLIENT
  | IENOROLE
  | IESERVERONLY
  | IECLIENTONLY
  | IEBADPORT
  | IEUNIMP
  | IEBADFORMAT
  | IEINTERVAL
  | IETOTALINTERVAL
  | IEBURST
  | IEUNITVAL
  | IEDURATION
  | IENUMSTREAMS
  | IEREVERSEBIDIR
  | IEBUFSIZE
  | IEBINDDEVNOSUPPORT
  | IEMSS
  | IEBADTOS
  | IESETFLOW
  | IENOSENDFILE
  | IEOMIT
  | IEIDLETIMEOUT
  | IERCVTIMEOUT
  | IESNDTIMEOUT
  | IECNTLKA
  | IEAFFINITY
  | IESKEWTHRESHOLD
  | IEQUICCERT
  | IERVRSONLYRCVTIMEOUT
  | IESETCLIENTAUTH
  | IESETSERVERAUTH
  | IESERVERAUTHUSERS
  | IEBLOCKSIZE
  | IEUDPBLOCKSIZE
  | IEENDCONDITIONS
  | IEUDPFILETRANSFER
  deriving DecidableEq, Repr

/-- The function returns -1 with `i_errno` set, or the program exits. -/
inductive Refusal where
  | errno (i_errno : Errno)
  | exit (status : Int32)
  deriving DecidableEq, Repr

/-- What the build provides besides the `Features`. -/
structure Build extends Features where
  HAVE_SO_BINDTODEVICE : Bool
  HAVE_TCP_USER_TIMEOUT : Bool
  HAVE_TCP_KEEPALIVE : Bool
  linux : Bool

def sample_build : Build :=
  { sample_features with
    HAVE_SO_BINDTODEVICE := true, HAVE_TCP_USER_TIMEOUT := true
    HAVE_TCP_KEEPALIVE := true, linux := true }

inductive Domain where
  | AF_UNSPEC
  | AF_INET
  | AF_INET6
  deriving DecidableEq, Repr

/-- A `double`; `none` is not a number. No infinity is ever stored: like any number
beyond the bounds, it is refused. -/
abbrev Double := Option Rat

def Double.lt : Double → Double → Bool
  | some left, some right => decide (left < right)
  | _, _ => false

def Double.le : Double → Double → Bool
  | some left, some right => decide (left ≤ right)
  | _, _ => false

section Fields

/-- The last group are the local variables of `iperf_parse_arguments`. -/
inductive Field where
  | role
  | mode
  | sender_has_retransmits
  | protocol
  | server_hostname
  | bind_address
  | bind_dev
  | xbind_addrs
  | bind_port
  | server_port
  | quic_port
  | «omit»
  | duration
  | max_server_duration
  | diskfile_name
  | affinity
  | server_affinity
  | title
  | extra_data
  | congestion
  | pidfile
  | logfile
  | server_authorized_users
  | server_rsa_private_key
  | server_skew_threshold
  | use_pkcs1_padding
  | quic_cert_file
  | quic_key_file
  | quic_key_password
  | quic_p12_file
  | quic_p12_password
  | quic_buf_size
  | daemon
  | one_off
  | no_delay
  | reverse
  | bidirectional
  | verbose
  | json_output
  | json_stream
  | json_stream_full_output
  | zerocopy
  | debug
  | debug_level
  | get_server_output
  | udp_counters_64bit
  | forceflush
  | repeating_payload
  | timestamps
  | timestamp_format
  | mptcp
  | stats_interval
  | reporter_interval
  | num_streams
  | domain
  | socket_bufsize
  | blksize
  | rate
  | bitrate_limit
  | bitrate_limit_interval
  | bitrate_limit_stats_per_interval
  | fqrate
  | pacing_timer
  | burst
  | mss
  | tos
  | flowlabel
  | bytes
  | blocks
  | unit_format
  | num_ostreams
  | dont_fragment
  | client_username
  | client_password
  | client_rsa_pubkey
  | skip_rx_copy
  | connect_timeout
  | idle_timeout
  | snd_timeout
  | rcv_timeout
  | cntl_ka
  | cntl_ka_keepidle
  | cntl_ka_interval
  | cntl_ka_count
  | arg_blksize
  | arg_client_username
  | arg_client_rsa_public_key
  | arg_server_rsa_private_key
  | server_flag
  | client_flag
  | rate_flag
  | duration_flag
  | rcv_timeout_flag
  | snd_timeout_flag
  deriving DecidableEq, Repr

/-- The type of a field. -/
@[reducible] def Field.Ty : Field → Type
  | .role => Role
  | .mode => Mode
  | .protocol => Protocol
  | .domain => Domain
  | .xbind_addrs => List String
  | .unit_format => Char
  | .rcv_timeout => iperf_time
  | .stats_interval | .reporter_interval | .bitrate_limit_interval => Double
  | .rate | .bitrate_limit | .fqrate | .bytes | .blocks => UInt64
  | .quic_buf_size | .snd_timeout => UInt32
  | .server_hostname | .bind_address | .bind_dev | .diskfile_name | .title | .extra_data
  | .congestion | .pidfile | .logfile | .server_authorized_users | .server_rsa_private_key
  | .quic_cert_file | .quic_key_file | .quic_key_password | .quic_p12_file
  | .quic_p12_password | .timestamp_format | .client_username | .client_password
  | .client_rsa_pubkey | .arg_client_username | .arg_client_rsa_public_key
  | .arg_server_rsa_private_key => Option String
  | .server_flag | .client_flag | .rate_flag | .duration_flag | .rcv_timeout_flag
  | .snd_timeout_flag => Bool
  | _ => Int32

abbrev Values := (field : Field) → field.Ty

abbrev Write := Sigma Field.Ty

def Values.set (test : Values) (field : Field) (value : field.Ty) : Values :=
  write test ⟨field, value⟩

end Fields

section Setters
variable (build : Build)

def check_sender_has_retransmits (test : Values) : Values :=
  test.set .sender_has_retransmits
    (if test .mode ≠ .RECEIVER ∧ test .protocol = .Ptcp ∧ build.has_tcpinfo_retransmits then 1
    else 0)

def iperf_set_test_role (test : Values) (role : Role) : Values :=
  let test := test.set .role role
  check_sender_has_retransmits build
    (if test .reverse = 0 then
      if test .bidirectional ≠ 0 then test.set .mode .BIDIRECTIONAL
      else if role = .c then test.set .mode .SENDER
      else if role = .s then test.set .mode .RECEIVER
      else test
    else if role = .c then test.set .mode .RECEIVER
    else if role = .s then test.set .mode .SENDER
    else test)

def iperf_set_test_reverse (test : Values) (reverse : Int32) : Values :=
  let test := test.set .reverse reverse
  check_sender_has_retransmits build
    (if test .reverse = 0 then
      if test .role = .c then test.set .mode .SENDER
      else if test .role = .s then test.set .mode .RECEIVER
      else test
    else if test .role = .c then test.set .mode .RECEIVER
    else if test .role = .s then test.set .mode .SENDER
    else test)

def iperf_set_test_bidirectional (test : Values) (bidirectional : Int32) : Values :=
  let test := test.set .bidirectional bidirectional
  if bidirectional ≠ 0 then test.set .mode .BIDIRECTIONAL
  else iperf_set_test_reverse build test (test .reverse)

def set_protocol (test : Values) (prot_id : Protocol) : Values :=
  if prot_id ∈ protocols build.toFeatures then
    check_sender_has_retransmits build (test.set .protocol prot_id)
  else test

end Setters

section Assignments

/-- The options whose case in the switch only assigns. -/
inductive Assignment where
  | p (portno : Int32)
  | f (unit_format : Char)
  | i (interval : Double)
  | D
  | one_off
  | V
  | J
  | json_stream
  | json_stream_full_output
  | v
  | quic_cert (file : String)
  | quic_key (file : String)
  | quic_key_pass (password : String)
  | quic_p12 (file : String)
  | quic_p12_pass (password : String)
  | quic_port (port : Int32)
  | quic_buf (size : UInt32)
  | nstreams (count : Option UInt64) (burst : Option Int32) (rate : Option UInt64)
  | b (burst : Option Int32) (rate : Option UInt64)
  | server_bitrate_limit (interval : Option Double) (rate : Option UInt64)
  | t (seconds : Int32)
  | n (bytes : Option UInt64)
  | k (blocks : Option UInt64)
  | l (blksize : Option UInt64)
  | P (streams : Int32)
  | w (farg : Option Rat)
  | B (address : String) (dev : Option String)
  | bind_dev (dev : String)
  | cport (portno : Int32)
  | M (mss : Int32)
  | N
  | version4
  | version6
  | S (tos : Option Int32)
  | dscp (tos : Int32)
  | extra_data (text : String)
  | L (flowlabel : Option Int32)
  | Z
  | repeating_payload
  | timestamps (format : Option String)
  | O (seconds : Int32)
  | F (name : String)
  | idle_timeout (seconds : Int32)
  | server_max_duration (seconds : Int32)
  | rcv_timeout (milliseconds : Int32)
  | snd_timeout (milliseconds : Int32)
  | A (affinity : Option Int32) (server_affinity : Option Int32)
  | T (title : String)
  | C (congestion : String)
  | d (level : Option Int32)
  | I (file : String)
  | logfile (file : String)
  | forceflush
  | get_server_output
  | udp_counters_64bit
  | no_fq_socket_pacing
  | fq_rate (rate : Option UInt64)
  | dont_fragment
  | username (name : String)
  | rsa_public_key_path (path : String)
  | rsa_private_key_path (path : String)
  | authorized_users_path (path : String)
  | time_skew_threshold (seconds : Int32)
  | use_pkcs1_padding
  | skip_rx_copy
  | pacing_timer (value : Option UInt64)
  | connect_timeout (value : Option UInt64)
  | h
  | unknown

/-- The doubles nearest to 0.1 and 60. -/
def MIN_INTERVAL : Double := some (3602879701896397 / 36028797018963968)
def MAX_INTERVAL : Double := some 60

def MIN_NO_MSG_RCVD_TIMEOUT : Int32 := 100
def DEFAULT_NO_MSG_RCVD_TIMEOUT : Int32 := 120000
def SEC_TO_mS : Int32 := 1000
def mS_TO_US : Int32 := 1000
def DEBUG_LEVEL_MAX : Int32 := 4
def TIMESTAMP_FORMAT : String := "%c "
def unit_formats : List Char := ['k', 'K', 'm', 'M', 'g', 'G', 't', 'T']

def refuse (refused : Prop) [Decidable refused] (i_errno : Errno)
    (next : Except Refusal (List Write)) : Except Refusal (List Write) :=
  if refused then .error (.errno i_errno) else next

/-- An option that the build does not have ends in `usage`. -/
def known (present : Bool) (next : Except Refusal (List Write)) : Except Refusal (List Write) :=
  if present then next else .error (.exit 1)

def given {Number : Type} (value : Option Number) (i_errno : Errno)
    (next : Number → Except Refusal (List Write)) : Except Refusal (List Write) :=
  value.elim (.error (.errno i_errno)) next

def unit (value : Option UInt64) (next : UInt64 → Except Refusal (List Write)) :
    Except Refusal (List Write) :=
  given value .IEUNITVAL next

def both (entries : List Write) : Except Refusal (List Write) := .ok entries

def client (entries : List Write) : Except Refusal (List Write) :=
  .ok (entries ++ [⟨.client_flag, true⟩])

def server (entries : List Write) : Except Refusal (List Write) :=
  .ok (entries ++ [⟨.server_flag, true⟩])

def bad_interval (interval : Double) : Prop :=
  (Double.lt interval MIN_INTERVAL ∨ Double.lt MAX_INTERVAL interval) ∧ interval ≠ some 0

instance (interval : Double) : Decidable (bad_interval interval) :=
  inferInstanceAs (Decidable (_ ∧ _))

/-- A bind device is split off the address where there is one. -/
def on_device (build : Build) (dev : Option String) (entries : List Write) :
    Except Refusal (List Write) :=
  match dev with
  | none => both entries
  | some dev =>
      refuse (¬ build.HAVE_SO_BINDTODEVICE) .IEBINDDEVNOSUPPORT
        (both (entries ++ [⟨.bind_dev, some dev⟩]))

def parse_bandwidth (burst : Option Int32) (rate : Option UInt64) (entries : List Write) :
    Except Refusal (List Write) :=
  match burst with
  | none => unit rate fun rate => client (entries ++ [⟨.rate, rate⟩, ⟨.rate_flag, true⟩])
  | some burst =>
      refuse (burst ≤ 0 ∨ MAX_BURST < burst) .IEBURST
        (unit rate fun rate =>
          client (entries ++ [⟨.burst, burst⟩, ⟨.rate, rate⟩, ⟨.rate_flag, true⟩]))

/-- What an option assigns, whatever is set so far. -/
def assigns (build : Build) : Assignment → Except Refusal (List Write)
  | .p portno =>
      refuse (portno < 1 ∨ 65535 < portno) .IEBADPORT (both [⟨.server_port, portno⟩])
  | .f unit_format =>
      refuse (unit_format ∉ unit_formats) .IEBADFORMAT (both [⟨.unit_format, unit_format⟩])
  | .i interval =>
      refuse (bad_interval interval) .IEINTERVAL
        (both [⟨.stats_interval, interval⟩, ⟨.reporter_interval, interval⟩])
  | .D => server [⟨.daemon, 1⟩]
  | .one_off => server [⟨.one_off, 1⟩]
  | .V => both [⟨.verbose, 1⟩]
  | .J => both [⟨.json_output, 1⟩]
  | .json_stream => both [⟨.json_output, 1⟩, ⟨.json_stream, 1⟩]
  | .json_stream_full_output => both [⟨.json_stream_full_output, 1⟩]
  | .v => .error (.exit 0)
  | .quic_cert file =>
      refuse (¬ build.HAVE_MSQUIC) .IEUNIMP (server [⟨.quic_cert_file, some file⟩])
  | .quic_key file =>
      refuse (¬ build.HAVE_MSQUIC) .IEUNIMP (server [⟨.quic_key_file, some file⟩])
  | .quic_key_pass password =>
      refuse (¬ build.HAVE_MSQUIC) .IEUNIMP
        (server [⟨.quic_key_password, if password = "" then none else some password⟩])
  | .quic_p12 file =>
      refuse (¬ build.HAVE_MSQUIC) .IEUNIMP (server [⟨.quic_p12_file, some file⟩])
  | .quic_p12_pass password =>
      refuse (¬ build.HAVE_MSQUIC) .IEUNIMP
        (server [⟨.quic_p12_password, if password = "" then none else some password⟩])
  | .quic_port port =>
      refuse (¬ build.HAVE_MSQUIC) .IEUNIMP
        (refuse (port ≤ 0 ∨ 65535 < port) .IEBADPORT (both [⟨.quic_port, port⟩]))
  | .quic_buf size =>
      refuse (¬ build.HAVE_MSQUIC) .IEUNIMP
        (refuse (size = 0) .IEBUFSIZE (both [⟨.quic_buf_size, size⟩]))
  | .nstreams count burst rate =>
      -- there is no break: the case runs into that of `-b`, on the same argument
      known build.HAVE_SCTP_H
        (refuse (¬ build.linux) .IEUNIMP
          (unit count fun count =>
            parse_bandwidth burst rate
              [⟨.num_ostreams, int_of_size count⟩, ⟨.client_flag, true⟩]))
  | .b burst rate => parse_bandwidth burst rate []
  | .server_bitrate_limit interval rate =>
      match interval with
      | none => unit rate fun rate => server [⟨.bitrate_limit, rate⟩]
      | some interval =>
          refuse (bad_interval interval) .IETOTALINTERVAL
            (unit rate fun rate =>
              server [⟨.bitrate_limit_interval, interval⟩, ⟨.bitrate_limit, rate⟩])
  | .t seconds =>
      refuse (MAX_TIME < seconds ∨ seconds < 0) .IEDURATION
        (client [⟨.duration, seconds⟩, ⟨.duration_flag, true⟩])
  | .n bytes => unit bytes fun bytes => client [⟨.bytes, bytes⟩]
  | .k blocks => unit blocks fun blocks => client [⟨.blocks, blocks⟩]
  | .l blksize => unit blksize fun blksize => client [⟨.arg_blksize, int_of_size blksize⟩]
  | .P streams =>
      refuse (MAX_STREAMS < streams) .IENUMSTREAMS (client [⟨.num_streams, streams⟩])
  | .w farg =>
      given farg .IEUNITVAL fun farg =>
        refuse ((MAX_TCP_BUFFER.toInt : Rat) < farg) .IEBUFSIZE
          (client [⟨.socket_bufsize, .ofInt (farg.num.tdiv farg.den)⟩])
  | .B address dev => on_device build dev [⟨.bind_address, some address⟩]
  | .bind_dev dev => known build.HAVE_SO_BINDTODEVICE (both [⟨.bind_dev, some dev⟩])
  | .cport portno =>
      refuse (portno < 1 ∨ 65535 < portno) .IEBADPORT (both [⟨.bind_port, portno⟩])
  | .M mss => refuse (MAX_MSS < mss) .IEMSS (client [⟨.mss, mss⟩])
  | .N => client [⟨.no_delay, 1⟩]
  | .version4 => both [⟨.domain, .AF_INET⟩]
  | .version6 => both [⟨.domain, .AF_INET6⟩]
  | .S tos =>
      given tos .IEBADTOS fun tos =>
        refuse (tos < 0 ∨ 255 < tos) .IEBADTOS (client [⟨.tos, tos⟩])
  | .dscp tos => refuse (tos < 0) .IEBADTOS (client [⟨.tos, tos⟩])
  | .extra_data text => client [⟨.extra_data, some text⟩]
  | .L flowlabel =>
      refuse (¬ build.HAVE_FLOWLABEL) .IEUNIMP
        (given flowlabel .IESETFLOW fun flowlabel =>
          refuse (flowlabel < 1 ∨ 0xfffff < flowlabel) .IESETFLOW
            (client [⟨.flowlabel, flowlabel⟩]))
  | .Z => refuse (¬ build.has_sendfile) .IENOSENDFILE (client [⟨.zerocopy, 1⟩])
  | .repeating_payload => client [⟨.repeating_payload, 1⟩]
  | .timestamps format =>
      both [⟨.timestamps, 1⟩, ⟨.timestamp_format, some (format.getD TIMESTAMP_FORMAT)⟩]
  | .O seconds =>
      refuse (seconds < 0 ∨ MAX_OMIT_TIME < seconds) .IEOMIT (client [⟨.omit, seconds⟩])
  | .F name => both [⟨.diskfile_name, some name⟩]
  | .idle_timeout seconds =>
      refuse (seconds < 1 ∨ MAX_TIME < seconds) .IEIDLETIMEOUT (server [⟨.idle_timeout, seconds⟩])
  | .server_max_duration seconds =>
      refuse (seconds < 0 ∨ MAX_TIME < seconds) .IEDURATION
        (server [⟨.max_server_duration, seconds⟩])
  | .rcv_timeout milliseconds =>
      refuse (milliseconds < MIN_NO_MSG_RCVD_TIMEOUT ∨ MAX_TIME * SEC_TO_mS < milliseconds)
        .IERCVTIMEOUT
        (both [⟨.rcv_timeout,
            { secs := (milliseconds / SEC_TO_mS).toUInt32
              usecs := (milliseconds % SEC_TO_mS * mS_TO_US).toUInt32 }⟩,
          ⟨.rcv_timeout_flag, true⟩])
  | .snd_timeout milliseconds =>
      -- the field is unsigned, so a negative number is above the limit
      known build.HAVE_TCP_USER_TIMEOUT
        (refuse ((MAX_TIME * SEC_TO_mS).toUInt32 < milliseconds.toUInt32) .IESNDTIMEOUT
          (both [⟨.snd_timeout, milliseconds.toUInt32⟩, ⟨.snd_timeout_flag, true⟩]))
  | .A affinity server_affinity =>
      refuse (¬ build.HAVE_CPU_AFFINITY) .IEUNIMP
        (given affinity .IEAFFINITY fun affinity =>
          refuse (affinity < 0 ∨ 1024 < affinity) .IEAFFINITY
            (match server_affinity with
            | none => both [⟨.affinity, affinity⟩]
            | some core =>
                refuse (core < 0 ∨ 1024 < core) .IEAFFINITY
                  (client [⟨.affinity, affinity⟩, ⟨.server_affinity, core⟩])))
  | .T title => client [⟨.title, some title⟩]
  | .C congestion =>
      refuse (¬ build.HAVE_TCP_CONGESTION) .IEUNIMP (client [⟨.congestion, some congestion⟩])
  | .d level =>
      both [⟨.debug, 1⟩, ⟨.debug_level,
        match level with
        | none => DEBUG_LEVEL_MAX
        | some level => if level < 0 then DEBUG_LEVEL_MAX else level⟩]
  | .I file => both [⟨.pidfile, some file⟩]
  | .logfile file => both [⟨.logfile, some file⟩]
  | .forceflush => both [⟨.forceflush, 1⟩]
  | .get_server_output => client [⟨.get_server_output, 1⟩]
  | .udp_counters_64bit => client [⟨.udp_counters_64bit, 1⟩]
  | .no_fq_socket_pacing =>
      refuse (¬ build.HAVE_SO_MAX_PACING_RATE) .IEUNIMP (client [⟨.fqrate, 0⟩])
  | .fq_rate rate =>
      refuse (¬ build.HAVE_SO_MAX_PACING_RATE) .IEUNIMP
        (unit rate fun rate => client [⟨.fqrate, rate⟩])
  | .dont_fragment => known build.HAVE_DONT_FRAGMENT (client [⟨.dont_fragment, 1⟩])
  | .username name => known build.HAVE_SSL (client [⟨.arg_client_username, some name⟩])
  | .rsa_public_key_path path =>
      known build.HAVE_SSL (client [⟨.arg_client_rsa_public_key, some path⟩])
  | .rsa_private_key_path path =>
      known build.HAVE_SSL (server [⟨.arg_server_rsa_private_key, some path⟩])
  | .authorized_users_path path =>
      known build.HAVE_SSL (both [⟨.server_authorized_users, some path⟩])
  | .time_skew_threshold seconds =>
      known build.HAVE_SSL
        (refuse (seconds ≤ 0) .IESKEWTHRESHOLD (server [⟨.server_skew_threshold, seconds⟩]))
  | .use_pkcs1_padding => known build.HAVE_SSL (server [⟨.use_pkcs1_padding, 1⟩])
  | .skip_rx_copy => known build.HAVE_MSG_TRUNC (client [⟨.skip_rx_copy, 1⟩])
  | .pacing_timer value => unit value fun value => client [⟨.pacing_timer, int_of_size value⟩]
  | .connect_timeout value =>
      unit value fun value => client [⟨.connect_timeout, int_of_size value⟩]
  | .h => .error (.exit 0)
  | .unknown => .error (.exit 1)

end Assignments

section Options

inductive Opt where
  | assign (assignment : Assignment)
  | s
  | c (host : String) (dev : Option String)
  | u
  | quic
  | sctp
  | m
  | R
  | bidir
  | X (name : String)
  | cntl_ka (keepidle interval count : Option Int32)

/-- What `--cntl-ka` assigns; a number left out keeps its field. -/
def keepalive (keepidle interval count : Option Int32) : List Write :=
  ⟨.cntl_ka, 1⟩ :: count.toList.map (⟨.cntl_ka_count, ·⟩) ++
    interval.toList.map (⟨.cntl_ka_interval, ·⟩) ++ keepidle.toList.map (⟨.cntl_ka_keepidle, ·⟩)

def bad_keepalive (test : Values) : Prop :=
  test .cntl_ka_keepidle ≠ 0 ∧
    test .cntl_ka_keepidle ≤ test .cntl_ka_count * test .cntl_ka_interval

instance (test : Values) : Decidable (bad_keepalive test) := inferInstanceAs (Decidable (_ ∧ _))

variable (build : Build)

def parse_option (test : Values) (opt : Opt) : Except Refusal Values :=
  match opt with
  | .assign assignment => (assigns build assignment).map (apply test)
  | .s =>
      if test .role = .c then .error (.errno .IESERVCLIENT)
      else .ok (iperf_set_test_role build test .s)
  | .c host dev =>
      if test .role = .s then .error (.errno .IESERVCLIENT)
      else (on_device build dev [⟨.server_hostname, some host⟩]).map
        (apply (iperf_set_test_role build test .c))
  | .u => .ok ((set_protocol build test .Pudp).set .client_flag true)
  | .quic =>
      if build.HAVE_MSQUIC then .ok (set_protocol build test .Pquic)
      else .error (.errno .IEUNIMP)
  | .sctp =>
      if build.HAVE_SCTP_H then .ok ((set_protocol build test .Psctp).set .client_flag true)
      else .error (.exit 1)
  | .m =>
      if build.HAVE_IPPROTO_MPTCP then .ok ((set_protocol build test .Ptcp).set .mptcp 1)
      else .error (.exit 1)
  | .R =>
      if test .bidirectional ≠ 0 then .error (.errno .IEREVERSEBIDIR)
      else .ok ((iperf_set_test_reverse build test 1).set .client_flag true)
  | .bidir =>
      if test .reverse ≠ 0 then .error (.errno .IEREVERSEBIDIR)
      else .ok ((iperf_set_test_bidirectional build test 1).set .client_flag true)
  | .X name => .ok (test.set .xbind_addrs (test .xbind_addrs ++ [name]))
  | .cntl_ka keepidle interval count =>
      if ¬ build.HAVE_TCP_KEEPALIVE then .error (.exit 1)
      else
        let test := apply test (keepalive keepidle interval count)
        if bad_keepalive test then .error (.errno .IECNTLKA) else .ok test

end Options

section Checks

/-- The files, the environment, the terminal and the arithmetic that the last part
consults; `round_quotient` rounds the quotient of two doubles to an `int`. -/
structure Environment where
  load_pubkey_from_file : String → Option String
  password : Option String
  load_privkey_from_file : String → Option String
  readable : String → Bool
  file_size : String → Option UInt64
  ensure_default_quic_p12 : Bool
  round_quotient : Double → Double → Int32

def sample_environment : Environment :=
  { load_pubkey_from_file := fun _ => none
    password := none
    load_privkey_from_file := fun _ => none
    readable := fun _ => false
    file_size := fun _ => none
    ensure_default_quic_p12 := false
    round_quotient := fun _ _ => 0 }

variable (build : Build) (environment : Environment)

def role_check (test : Values) : Except Refusal Unit :=
  if test .role = .c ∧ test .server_flag then .error (.errno .IESERVERONLY)
  else if test .role = .s ∧ test .client_flag then .error (.errno .IECLIENTONLY)
  else .ok ()

def default_quic_port (test : Values) : Values :=
  if test .quic_port = 0 then
    let qp := test .server_port + 1
    test.set .quic_port (if 0 < qp ∧ qp ≤ 65535 then qp else test .server_port)
  else test

def quic_defaults (test : Values) : Except Refusal Values :=
  if test .protocol = .Pquic then
    let test := default_quic_port test
    if test .role = .s ∧ test .quic_p12_file = none ∧ test .quic_cert_file = none ∧
        test .quic_key_file = none then
      if environment.ensure_default_quic_p12 then
        .ok ((test.set .quic_p12_file (some "/tmp/iperf_quic.p12")).set .quic_p12_password none)
      else .error (.errno .IEQUICCERT)
    else .ok test
  else .ok test

def client_authentication (test : Values) : Except Refusal Values :=
  match test .role, test .arg_client_username, test .arg_client_rsa_public_key with
  | .s, some _, _ => .error (.errno .IECLIENTONLY)
  | .s, _, some _ => .error (.errno .IECLIENTONLY)
  | .c, some username, some path =>
      match environment.load_pubkey_from_file path, environment.password with
      | some pubkey, some password =>
          .ok (apply test
            [⟨.client_username, some username⟩, ⟨.client_password, some password⟩,
              ⟨.client_rsa_pubkey, some pubkey⟩, ⟨.arg_client_rsa_public_key, none⟩])
      | _, _ => .error (.errno .IESETCLIENTAUTH)
  | .c, some _, none => .error (.errno .IESETCLIENTAUTH)
  | .c, none, some _ => .error (.errno .IESETCLIENTAUTH)
  | _, _, _ => .ok test

def server_only_check (test : Values) : Except Refusal Unit :=
  if test .role = .c ∧
      (test .arg_server_rsa_private_key ≠ none ∨ test .server_authorized_users ≠ none) then
    .error (.errno .IESERVERONLY)
  else if test .role = .c ∧ test .server_skew_threshold ≠ 0 then
    .error (.errno .IESERVERONLY)
  else if test .role = .c ∧ test .rcv_timeout_flag ∧ test .mode = .SENDER then
    .error (.errno .IERVRSONLYRCVTIMEOUT)
  else if test .role = .s ∧
      (test .arg_server_rsa_private_key ≠ none ∨ test .server_authorized_users ≠ none) ∧
      ¬ (test .arg_server_rsa_private_key ≠ none ∧ test .server_authorized_users ≠ none) then
    .error (.errno .IESETSERVERAUTH)
  else .ok ()

def users_check (test : Values) : Except Refusal Unit :=
  match test .role, test .server_authorized_users with
  | .s, some path =>
      if environment.readable path then .ok () else .error (.errno .IESERVERAUTHUSERS)
  | _, _ => .ok ()

def load_private_key (test : Values) : Except Refusal Values :=
  match test .role, test .arg_server_rsa_private_key with
  | .s, some path =>
      match environment.load_privkey_from_file path with
      | some key =>
          let test : Values := apply test
            [⟨.server_rsa_private_key, some key⟩, ⟨.arg_server_rsa_private_key, none⟩]
          .ok (if test .server_skew_threshold = 0 then test.set .server_skew_threshold 10 else test)
      | none => .error (.errno .IESETSERVERAUTH)
  | _, _ => .ok test

def credentials (test : Values) : Except Refusal Values := do
  let test ← client_authentication environment test
  server_only_check test
  users_check environment test
  load_private_key environment test

/-- The part that only a build with `HAVE_SSL` has. -/
def authentication (test : Values) : Except Refusal Values :=
  if build.HAVE_SSL then credentials environment test else .ok test

def set_blksize (test : Values) : Except Refusal Values :=
  let blksize :=
    if test .arg_blksize = 0 then Arguments.default_blksize (test .protocol)
    else test .arg_blksize
  if (test .protocol ≠ .Pudp ∧ blksize ≤ 0) ∨ MAX_BLOCKSIZE < blksize then
    .error (.errno .IEBLOCKSIZE)
  else if test .protocol = .Pudp ∧ 0 < blksize ∧
      (blksize < MIN_UDP_BLOCKSIZE ∨ MAX_UDP_BLOCKSIZE < blksize) then
    .error (.errno .IEUDPBLOCKSIZE)
  else .ok (test.set .blksize blksize)

def default_rate (test : Values) : Values :=
  if test .rate_flag then test
  else test.set .rate (if test .protocol = .Pudp then UDP_RATE else 0)

def file_bytes (test : Values) : Values :=
  if test .bytes = 0 ∧ test .blocks = 0 ∧ ¬ test .duration_flag ∧ test .role = .c then
    match (test .diskfile_name).bind environment.file_size with
    | some bytes => test.set .bytes bytes
    | none => test
  else test

def end_conditions (test : Values) : Except Refusal Values :=
  let test :=
    if (test .bytes ≠ 0 ∨ test .blocks ≠ 0) ∧ ¬ test .duration_flag then test.set .duration 0
    else test
  if (test .duration_flag ∧ test .bytes ≠ 0) ∨ (test .duration_flag ∧ test .blocks ≠ 0) ∨
      (test .bytes ≠ 0 ∧ test .blocks ≠ 0) then
    .error (.errno .IEENDCONDITIONS)
  else .ok test

/-- The number of report intervals over which the server averages the rate. -/
def average_interval (test : Values) : Values :=
  if test .bitrate_limit_interval ≠ some 0 then
    test.set .bitrate_limit_stats_per_interval
      (if Double.le (test .bitrate_limit_interval) (test .stats_interval) then 1
      else environment.round_quotient (test .bitrate_limit_interval) (test .stats_interval))
  else test

def udp_file_check (test : Values) : Except Refusal Unit :=
  if test .diskfile_name ≠ none ∧ test .protocol = .Pudp then .error (.errno .IEUDPFILETRANSFER)
  else .ok ()

def given_role (test : Values) : Except Refusal Unit :=
  if test .role = .unset then .error (.errno .IENOROLE) else .ok ()

def finish (test : Values) : Except Refusal Values := do
  role_check test
  let test ← quic_defaults environment test
  let test ← authentication build environment test
  udp_file_check test
  let test ← set_blksize test
  let test ← end_conditions (file_bytes environment (default_rate test))
  given_role test
  return average_interval environment test

/-- The zeroed memory of `iperf_new_test`. -/
def iperf_new_test : Values
  | .role => .unset
  | .mode => .RECEIVER
  | .protocol => .Ptcp
  | .domain => .AF_UNSPEC
  | .xbind_addrs => []
  | .unit_format => '\x00'
  | .rcv_timeout => { secs := 0, usecs := 0 }
  | .stats_interval | .reporter_interval | .bitrate_limit_interval => some 0
  | .rate | .bitrate_limit | .fqrate | .bytes | .blocks => 0
  | .quic_buf_size | .snd_timeout => 0
  | .server_hostname | .bind_address | .bind_dev | .diskfile_name | .title | .extra_data
  | .congestion | .pidfile | .logfile | .server_authorized_users | .server_rsa_private_key
  | .quic_cert_file | .quic_key_file | .quic_key_password | .quic_p12_file
  | .quic_p12_password | .timestamp_format | .client_username | .client_password
  | .client_rsa_pubkey | .arg_client_username | .arg_client_rsa_public_key
  | .arg_server_rsa_private_key => none
  | .server_flag | .client_flag | .rate_flag | .duration_flag | .rcv_timeout_flag
  | .snd_timeout_flag => false
  | .sender_has_retransmits | .bind_port | .server_port | .quic_port | .omit | .duration
  | .max_server_duration | .affinity | .server_affinity | .server_skew_threshold
  | .use_pkcs1_padding | .daemon | .one_off | .no_delay | .reverse | .bidirectional | .verbose
  | .json_output | .json_stream | .json_stream_full_output | .zerocopy | .debug | .debug_level
  | .get_server_output | .udp_counters_64bit | .forceflush | .repeating_payload | .timestamps
  | .mptcp | .num_streams | .socket_bufsize | .blksize | .bitrate_limit_stats_per_interval
  | .pacing_timer | .burst | .mss | .tos | .flowlabel | .num_ostreams | .dont_fragment
  | .skip_rx_copy | .connect_timeout | .idle_timeout | .cntl_ka | .cntl_ka_keepidle
  | .cntl_ka_interval | .cntl_ka_count | .arg_blksize => 0

def iperf_defaults : Values :=
  set_protocol build
    (apply iperf_new_test
      [⟨.omit, OMIT⟩, ⟨.duration, DURATION⟩, ⟨.affinity, -1⟩, ⟨.server_affinity, -1⟩,
        ⟨.server_port, PORT⟩, ⟨.stats_interval, some 1⟩, ⟨.reporter_interval, some 1⟩,
        ⟨.num_streams, 1⟩, ⟨.unit_format, 'a'⟩, ⟨.blksize, DEFAULT_TCP_BLKSIZE⟩,
        ⟨.bitrate_limit_interval, some 5⟩, ⟨.pacing_timer, DEFAULT_PACING_TIMER⟩,
        ⟨.connect_timeout, -1⟩,
        ⟨.rcv_timeout,
          { secs := (DEFAULT_NO_MSG_RCVD_TIMEOUT / SEC_TO_mS).toUInt32
            usecs := (DEFAULT_NO_MSG_RCVD_TIMEOUT % SEC_TO_mS * mS_TO_US).toUInt32 }⟩]) .Ptcp

def iperf_parse_arguments (options : List Opt) : Except Refusal Values := do
  let test ← options.foldlM (parse_option build) (iperf_defaults build)
  finish build environment test

end Checks

end Iperf.CommandLine
