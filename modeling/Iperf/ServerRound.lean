import Iperf.Parameters

/-!
One round of the server's loop, as far as it sets fields of the test: listening,
`iperf_accept` with the parameter exchange and `iperf_on_connect`, the data
streams, the omit period, the results, `cleanup_server`, and `iperf_reset_test`.
The calls into the kernel and what the client does are the data of the round.
The count of idle restarts and the address family are left out: no client
changes them.
-/

namespace Iperf.ServerRound

open TestState Json Config Parameters

/-- A control connection, and what comes over it until its test ends. -/
structure Contact where
  socket : Int32
  options_set : Bool
  /-- what `Nread` stored, and whether it was all of it -/
  cookie : List UInt8
  cookie_complete : Bool
  greeted : Bool
  parameters : Option cJSON
  authorized : Bool
  /-- the descriptor of `protocol->listen`, and the listener that `iperf_tcp_listen` reopened -/
  prot_listener : Option Int32
  reopened : Option Int32
  streams_announced : Bool
  affinity_set : Bool
  mapped : Bool
  /-- the descriptors that join the `select` sets while the streams are accepted -/
  stream_sockets : List Int32
  /-- `iperf_udp_accept` enlarges a buffer that is too small -/
  enlarged : Option Int32
  algorithm : Option String
  /-- `create_server_omit_timer` is reached, and its timer fires before the end -/
  begun : Bool := false
  omit_over : Bool := false
  /-- what `cpu_util` stored last, and the client's numbers in its last results -/
  measured : Option Utilization := none
  results : Option Utilization := none
  /-- the receive timeout forces a restart, or an error ends the test -/
  stalled : Bool := false
  failed : Bool := false
  /-- what `iperf_json_finish` renders -/
  rendered : Option String := none

/-- `contact` is missing when the server gives up waiting for a client. -/
structure Round where
  listener : Int32
  contact : Option Contact

section Accept
variable (features : Features)

def raise_fd (test : iperf_test) (fd : Int32) : iperf_test :=
  { test with max_fd := if test.max_fd < fd then fd else test.max_fd }

/-- The tests are counted where the banner is printed. -/
def iperf_server_listen (test : iperf_test) (listener : Int32) : iperf_test :=
  raise_fd { test with
    listener := listener
    server_test_number :=
      if test.json_output = 0 ∧ test.server_last_run_rc ≠ 2 then test.server_test_number + 1
      else test.server_test_number } listener

/-- The server's half of `iperf_exchange_parameters`, and whether it succeeds. -/
def iperf_exchange_parameters (test : iperf_test) (contact : Contact) : Bool × iperf_test :=
  let (errno, test) := get_parameters features test contact.parameters
  if errno ≠ none then (false, { test with state := SERVER_ERROR })
  else if features.HAVE_SSL ∧ ¬ contact.authorized then (false, { test with state := SERVER_ERROR })
  else
    let test := { test with listener := contact.reopened.getD test.listener }
    match contact.prot_listener with
    | none => (false, { test with state := SERVER_ERROR })
    | some s =>
        (contact.streams_announced,
          { raise_fd test s with prot_listener := s, state := CREATE_STREAMS })

def iperf_on_connect (test : iperf_test) (mapped : Bool) : iperf_test :=
  if mapped then { test with mapped_v4 := 1 } else test

/-- `iperf_accept` on a server whose control socket is free. -/
def iperf_accept (test : iperf_test) (contact : Contact) : Bool × iperf_test :=
  let test := { test with ctrl_sck := contact.socket }
  if ¬ contact.options_set then (false, test)
  else
    -- the bytes that arrived are stored, complete or not
    let test := { test with cookie := contact.cookie }
    if ¬ contact.cookie_complete then (false, test)
    else
      let test := { raise_fd test contact.socket with state := PARAM_EXCHANGE }
      if ¬ contact.greeted then (false, test)
      else
        let (agreed, test) := iperf_exchange_parameters features test contact
        if ¬ agreed then (false, test)
        else if test.server_affinity ≠ -1 ∧ ¬ contact.affinity_set then (false, test)
        else (true, iperf_on_connect test contact.mapped)

/-- The last value of `omitting`, which `server_omit_timer_proc` clears. -/
def create_server_omit_timer (test : iperf_test) (contact : Contact) : iperf_test :=
  if contact.begun then
    { test with omitting := if test.omit = 0 ∨ contact.omit_over then 0 else 1 }
  else test

/-- The fields that accepting the streams and running the test touch. -/
def run_test (test : iperf_test) (contact : Contact) : iperf_test :=
  let test := create_server_omit_timer (contact.stream_sockets.foldl raise_fd test) contact
  { test with
    congestion_used := contact.algorithm.or test.congestion_used
    prot_listener := -1
    cpu_util := contact.measured.getD test.cpu_util
    remote_cpu_util := contact.results.getD test.remote_cpu_util
    server_forced_no_msg_restarts_count :=
      if contact.stalled then test.server_forced_no_msg_restarts_count + 1
      else test.server_forced_no_msg_restarts_count
    -- the last values before the end of the test; the reset overwrites both
    state := TEST_RUNNING
    done := 1
    settings := { test.settings with
      socket_bufsize := contact.enlarged.getD test.settings.socket_bufsize } }

def cleanup_server (test : iperf_test) : iperf_test :=
  { test with ctrl_sck := -1, listener := -1, congestion_used := none }

/-- What the call returns, and the test afterwards. -/
def iperf_run_server (test : iperf_test) (round : Round) : Int32 × iperf_test :=
  let test := { iperf_server_listen test round.listener with state := IPERF_START }
  match round.contact with
  | none => (2, cleanup_server test)
  | some contact =>
      match iperf_accept features test contact with
      | (false, test) => (-1, cleanup_server test)
      | (true, test) =>
          (if contact.stalled ∨ contact.failed then -1 else 0,
            cleanup_server (run_test test contact))

/-- Called at the end of `iperf_run_server`, and by `run` when that failed. -/
def iperf_json_finish (test : iperf_test) (contact : Contact) : iperf_test :=
  if test.json_output = 0 then test
  else { test with json_output_string := contact.rendered.or test.json_output_string }

/-- What the next test starts from. -/
def iperf_reset_test (test : iperf_test) : iperf_test :=
  let test := set_protocol features
    { test with
      done := 0
      congestion := none
      remote_congestion_used := none
      role := .s
      mode := .RECEIVER
      sender_has_retransmits := 0 } .Ptcp
  { test with
    «omit» := OMIT
    duration := DURATION
    server_affinity := -1
    state := 0
    ctrl_sck := -1
    listener := -1
    prot_listener := -1
    other_side_has_retransmits := 0
    reverse := 0
    bidirectional := 0
    no_delay := 0
    num_streams := 1
    zerocopy := 0
    cookie := List.replicate COOKIE_SIZE 0
    multisend := 10
    udp_counters_64bit := 0
    title := none
    extra_data := none
    settings := { test.settings with
      socket_bufsize := 0
      blksize := DEFAULT_TCP_BLKSIZE
      rate := 0
      fqrate := 0
      burst := 0
      mss := 0
      tos := 0
      dont_fragment := 0
      skip_rx_copy := 0
      authtoken := if features.HAVE_SSL then none else test.settings.authtoken
      client_username := if features.HAVE_SSL then none else test.settings.client_username
      client_password := if features.HAVE_SSL then none else test.settings.client_password
      client_rsa_pubkey := if features.HAVE_SSL then none else test.settings.client_rsa_pubkey } }

/-- The loop of `run` up to the reset. -/
def run_once (test : iperf_test) (round : Round) : iperf_test :=
  let (rc, test) := iperf_run_server features test round
  let test := { test with server_last_run_rc := rc }
  round.contact.elim test (iperf_json_finish test)

/-- The loop of the server in `run`. -/
def serve (test : iperf_test) (rounds : List Round) : iperf_test :=
  rounds.foldl (fun test round => iperf_reset_test features (run_once features test round)) test

end Accept

end Iperf.ServerRound
