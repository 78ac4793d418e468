import Iperf.ClientSockets

/-!
`iperf_run_client`: the connection, one pass of its loop at a time with
`iperf_handle_message_client`, and both ways out. The threads are created, cancelled
and joined; what they do to `test->done` and to the counters is the data of a pass, as
is what the system and the server answer.
-/

namespace Iperf.ClientLoop

open TestState Config DescriptorLedger Outcome ClientSockets

section Answers

/-- `ESRCH` is no error to the client. -/
inductive Rc where
  | success
  | ESRCH
  | failure
  deriving DecidableEq, Repr

/-- The answers while one stream is made. -/
structure Making where
  connecting : Connecting
  /-- `TCP_CONGESTION` is set, and the algorithm that is then in use -/
  congestion_set : Bool
  algorithm : Option String
  /-- `iperf_new_stream` -/
  created : Option ClientErrno
  deriving DecidableEq, Repr

inductive Byte where
  | received (state : StateByte)
  | closed
  | failed
  deriving DecidableEq, Repr

/-- What `select` returns. -/
inductive Selected where
  | failed
  | interrupted
  /-- whether the idle timeout of a client that receives is up -/
  | expired (idle : Bool)
  | ready (control : Bool)
  deriving DecidableEq, Repr

/-- One pass of the loop, as the system, the server and the threads let it go. -/
structure Pass where
  selected : Selected
  byte : Byte
  parameters : Option ClientErrno
  results : Option ClientErrno
  making : Bool → Nat → Making
  /-- `iperf_init_test`, the test's timer, the other two, the omit timer and the send timers -/
  initialized : Bool
  timed : Bool
  scheduled : Bool
  omit_timed : Bool
  send_timed : Bool
  /-- the two numbers behind `SERVER_ERROR` -/
  errno : Option Int32
  errno_complete : Bool
  attr_init : Bool
  attr_destroy : Bool
  /-- `pthread_create` for the streams in their order -/
  spawned : List (Option Nat)
  /-- a thread has come to the end of its file -/
  file_ended : Bool
  /-- how many timers of each kind are due -/
  due : Nat
  omit_due : Nat
  bytes_sent : UInt64
  bytes_received : UInt64
  blocks_sent : UInt64
  blocks_received : UInt64
  cancelled : Nat → Rc
  joined : Nat → Rc
  /-- `TEST_END` and `IPERF_DONE` are written -/
  ended : Bool
  done : Bool
  /-- `iperf_json_finish` -/
  finished : Bool

end Answers

section Control
variable (client : Client)

def iperf_set_test_state (state : StateByte) : Client :=
  { client with test := { client.test with state := state } }

def iperf_set_send_state (state : StateByte) (written : Bool) : Except Client Client :=
  if 0 ≤ client.test.ctrl_sck then
    let client := iperf_set_test_state client state
    if written then .ok (happens client (.sent state)) else .error (failed client .IESENDMESSAGE)
  else .ok client

/-- The stream sockets, or `iperf_quic_reset_test`. -/
def close_streams : Client :=
  if client.test.protocol = .Pquic then client
  else client.streams.foldl (fun client sp => close client sp.socket) client

def iperf_client_end (written : Bool) : Client :=
  let client := close_streams client
  let client := happens client (.report client.test.state)
  let answer :=
    if 0 < client.test.state then iperf_set_send_state client IPERF_DONE written else .ok client
  match answer with
  | .error client => client
  | .ok client =>
      if 0 ≤ client.test.ctrl_sck then close client client.test.ctrl_sck else client

end Control

section Streams
variable (build : Build) (client : Client)

/-- With `--cport` each stream has a port of its own. -/
def stream_port (sender : Bool) (i : Nat) : Int32 :=
  let bind_port := client.choices.bind_port
  if bind_port = 0 then bind_port
  else
    let port := bind_port + Int32.ofNat i
    if ¬ sender ∧ client.test.mode = .BIDIRECTIONAL then port + client.test.num_streams else port

def set_congestion (s : Int32) (answers : Making) : Except Client Client :=
  if client.test.protocol ≠ .Ptcp then .ok client
  else if client.test.congestion ≠ none ∧ ¬ (answers.congestion_set ∧ answers.algorithm ≠ none) then
    .error (failed (close client s) .IESETCONGESTION)
  else
    let algorithm := answers.algorithm.getD "unknown"
    .ok { client with test := { client.test with congestion_used := some algorithm } }

/-- A socket that `iperf_new_stream` does not take stays open. -/
def iperf_new_stream (s : Int32) (sender : Bool) (answers : Making) : Except Client Client :=
  match answers.created with
  | some errno => .error (failed client errno)
  | none =>
      let sp : Stream :=
        { socket := s, sender := sender, done := false, thread_created := false, thr := 0 }
      .ok { client with streams := client.streams ++ [sp] }

def create_stream (sender : Bool) (i : Nat) (answers : Making) : Except Client Client := do
  let (s, client) ← connect build client (stream_port client sender i) answers.connecting
  let client ← set_congestion client s answers
  iperf_new_stream client s sender answers

def create_from (sender : Bool) (answers : Nat → Making) :
    Nat → Nat → Client → Except Client Client
  | 0, _, client => .ok client
  | count + 1, i, client => do
      let client ← create_stream build client sender i (answers i)
      create_from sender answers count (i + 1) client

def iperf_create_streams (sender : Bool) (answers : Nat → Making) : Except Client Client :=
  create_from build sender answers client.test.num_streams.toInt.toNat 0 client

end Streams

section Messages
variable (build : Build) (client : Client)

/-- A call that reports its error or succeeds. -/
def attempt (error : Option ClientErrno) (happening : Happening) : Except Client Client :=
  match error with
  | some errno => .error (failed client errno)
  | none => .ok (happens client happening)

def create_client_timers (event : Pass) : Except Client Client :=
  let client :=
    if client.test.duration ≠ 0 then
      { client with
        test := { client.test with done := 0 }
        timers := if event.timed then client.timers + 1 else client.timers }
    else client
  if (client.test.duration ≠ 0 ∧ ¬ event.timed) ∨ ¬ event.scheduled then
    .error (failed client .IEINITTEST)
  else .ok client

def create_client_omit_timer (event : Pass) : Except Client Client :=
  if client.test.omit = 0 then .ok { client with omitting := false }
  else
    let client := { client with omitting := true }
    if event.omit_timed then .ok { client with omit_timers := client.omit_timers + 1 }
    else .error (failed client .IEINITTEST)

/-- A mode other than `RECEIVER` is not zero. -/
def start_test (event : Pass) : Except Client Client :=
  if ¬ event.initialized then .error (failed client .IEINITTEST)
  else do
    let client ← create_client_timers client event
    let client ← create_client_omit_timer client event
    if client.test.mode ≠ .RECEIVER ∧ ¬ event.send_timed then .error (failed client .IEINITTEST)
    else .ok client

def create_all (event : Pass) : Except Client Client :=
  match client.test.mode with
  | .BIDIRECTIONAL => do
      let client ← iperf_create_streams build client true (event.making true)
      iperf_create_streams build client false (event.making false)
  | .SENDER => iperf_create_streams build client true (event.making true)
  | .RECEIVER => iperf_create_streams build client false (event.making false)

/-- The summary of a test that the server ends is that of `DISPLAY_RESULTS`. -/
def server_terminated : Client := happens (failed client .IESERVERTERM) (.report DISPLAY_RESULTS)

def server_error (event : Pass) : Client :=
  match event.errno with
  | none => failed client .IECTRLREAD
  | some errno =>
      if event.errno_complete then failed client (.reported errno) else failed client .IECTRLREAD

def iperf_handle_message_client (event : Pass) : Except Client Client :=
  match event.byte with
  | .closed => .error (failed client .IECTRLCLOSE)
  | .failed => .error (failed client .IERECVMESSAGE)
  | .received state =>
      -- the byte is read into the state itself
      let client := happens (iperf_set_test_state client state) (.received state)
      if state = PARAM_EXCHANGE then attempt client event.parameters .parameters
      else if state = CREATE_STREAMS then create_all build client event
      else if state = TEST_START then start_test client event
      else if state = TEST_RUNNING then .ok client
      else if state = EXCHANGE_RESULTS then attempt client event.results .results
      else if state = DISPLAY_RESULTS then .ok (iperf_client_end client event.done)
      else if state = IPERF_DONE then .ok client
      else if state = SERVER_TERMINATE then .error (server_terminated client)
      else if state = ACCESS_DENIED then .error (failed client .IEACCESSDENIED)
      else if state = SERVER_ERROR then .error (server_error client event)
      else .error (failed client .IEMESSAGE)

end Messages

section Threads
variable (client : Client)

/-- The descriptor of a stream; a QUIC stream has none. -/
def descriptor (sp : Stream) : Option Int32 :=
  if client.test.protocol = .Pquic then none else some sp.socket

def thread (sp : Stream) : Resource := .thread (descriptor client sp) sp.sender sp.thr

/-- `pthread_create` for one stream after another: the streams, the threads, and whether all
could be created. -/
def spawn : List Stream → List (Option Nat) → List Stream × List Resource × Bool
  | [], _ => ([], [], true)
  | sp :: rest, some thr :: answers =>
      let sp := { sp with thread_created := true, thr := thr }
      let (rest, threads, complete) := spawn rest answers
      (sp :: rest, thread client sp :: threads, complete)
  | sp :: rest, _ => (sp :: rest, [], false)

def create_threads (answers : List (Option Nat)) : Client × Bool :=
  let (streams, threads, complete) := spawn client client.streams answers
  ({ client with
    streams := streams
    history := client.history ++ threads.map fun held => .resource (.opened held) }, complete)

/-- Threads are created in the first pass in which the test runs. -/
def start_threads (event : Pass) : Except Client Client :=
  if ¬ client.startup then .ok client
  else
    let client := { client with startup := false }
    if ¬ event.attr_init then .error (failed client .IEPTHREADATTRINIT)
    else
      let (client, complete) := create_threads client event.spawned
      if ¬ complete then .error (failed client .IEPTHREADCREATE)
      else if ¬ event.attr_destroy then .error (failed client .IEPTHREADATTRDESTROY)
      else .ok client

/-- The thread that a join has ended. -/
def ended_thread (event : Pass) (sp : Stream) : List Resource :=
  if event.joined sp.thr = .success then [thread client sp] else []

/-- `pthread_cancel` and `pthread_join` where the caller gives up at an error. -/
def stop_thread (event : Pass) (sp : Stream) : Stream × List Resource × Option ClientErrno :=
  let sp := { sp with done := true }
  if ¬ sp.thread_created then (sp, [], none)
  else if event.cancelled sp.thr = .failure then (sp, [], some .IEPTHREADCANCEL)
  else if event.joined sp.thr = .failure then (sp, [], some .IEPTHREADJOIN)
  else ({ sp with thread_created := false }, ended_thread client event sp, none)

/-- The threads of one direction. -/
def stop_threads (event : Pass) (senders : Bool) :
    List Stream → List Stream × List Resource × Option ClientErrno
  | [] => ([], [], none)
  | sp :: rest =>
      if sp.sender ≠ senders then
        let (rest, joined, error) := stop_threads event senders rest
        (sp :: rest, joined, error)
      else
        match stop_thread client event sp with
        | (sp, joined, some errno) => (sp :: rest, joined, some errno)
        | (sp, joined, none) =>
            let (rest, others, error) := stop_threads event senders rest
            (sp :: rest, joined ++ others, error)

/-- `cleanup_and_fail` passes over the streams that are done, and over the errors. -/
def stop_all (event : Pass) : List Stream → List Stream × List Resource
  | [] => ([], [])
  | sp :: rest =>
      let (rest, others) := stop_all event rest
      if sp.done then (sp :: rest, others)
      else if ¬ sp.thread_created then ({ sp with done := true } :: rest, others)
      else
        ({ sp with done := true, thread_created := false } :: rest,
          ended_thread client event sp ++ others)

def joins (streams : List Stream) (joined : List Resource) : Client :=
  { client with
    streams := streams
    history := client.history ++ joined.map fun held => .resource (.closed held) }

/-- A loop over the streams of one direction. -/
def cancel_threads (event : Pass) (senders : Bool) : Except Client Client :=
  let (streams, joined, error) := stop_threads client event senders client.streams
  let client := joins client streams joined
  match error with
  | some errno => .error (failed client errno)
  | none => .ok client

end Threads

section Loop
variable (build : Build)

def tmr_run (client : Client) (event : Pass) : Client :=
  let due := min event.due client.timers
  let omit_due := min event.omit_due client.omit_timers
  { client with
    timers := client.timers - due
    omit_timers := client.omit_timers - omit_due
    omitting := if 0 < omit_due then false else client.omitting
    test := { client.test with
      done := if 0 < due ∨ event.file_ended then 1 else client.test.done } }

def goal_reached (settings : iperf_settings) (event : Pass) : Bool :=
  (settings.bytes ≠ 0 ∧
      (settings.bytes ≤ event.bytes_sent ∨ settings.bytes ≤ event.bytes_received)) ∨
    (settings.blocks ≠ 0 ∧
      (settings.blocks ≤ event.blocks_sent ∨ settings.blocks ≤ event.blocks_received))

/-- Whether the test is done. -/
def ends (client : Client) (event : Pass) : Bool :=
  ! client.omitting && (client.test.done ≠ 0 || goal_reached client.test.settings event)

def end_test (client : Client) (event : Pass) : Except Client Client :=
  if ends client event then do
    let client ← cancel_threads client event true
    let client := happens { client with test := { client.test with done := 1 } } .statistics
    iperf_set_send_state client TEST_END event.ended
  else .ok client

def run_test (client : Client) (event : Pass) : Except Client Client :=
  if client.test.state ≠ TEST_RUNNING then .ok client
  else do
    let client ← start_threads client event
    end_test (tmr_run client event) event

/-- The body of the loop. -/
def round (client : Client) (event : Pass) : Except Client Client :=
  match event.selected with
  | .failed => .error (failed client .IESELECT)
  | .interrupted => run_test client event
  | .expired idle =>
      if client.test.state = TEST_RUNNING ∧ client.test.mode ≠ .SENDER ∧ idle then
        .error (failed client .IENOMSG)
      else run_test client event
  | .ready control =>
      if control then do
        let client ← iperf_handle_message_client build client event
        run_test client event
      else run_test client event

inductive Status where
  | loop (client : Client)
  | returned (code : Int32) (client : Client)
  deriving DecidableEq, Repr

def Status.client : Status → Client
  | .loop client | .returned _ client => client

def cleanup_and_fail (client : Client) (event : Pass) : Status :=
  let (streams, joined) := stop_all client event client.streams
  .returned (-1) (iperf_client_end (joins client streams joined) event.done)

/-- After the loop. -/
def finish (client : Client) (event : Pass) : Status :=
  match cancel_threads client event false with
  | .error client => cleanup_and_fail client event
  | .ok client => .returned (if event.finished then 0 else -1) client

def pass (client : Client) (event : Pass) : Status :=
  if client.test.state = IPERF_DONE then finish client event
  else
    match round build client event with
    | .ok client => .loop client
    | .error client => cleanup_and_fail client event

/-- A client that has done nothing yet. -/
def new_client (test : iperf_test) (choices : Choices) : Client :=
  { test, choices
    streams := []
    omitting := false
    timers := 0
    omit_timers := 0
    startup := true
    i_errno := none
    history := [] }

/-- `iperf_run_client` up to its loop; the pass holds the answers to a cleanup. -/
def begin_client (client : Client) (calling : Calling) (event : Pass) : Status :=
  match iperf_connect build client calling with
  | .ok client => .loop client
  | .error client => cleanup_and_fail client event

def turn (status : Status) (event : Pass) : Status :=
  match status with
  | .loop client => pass build client event
  | .returned code client => .returned code client

/-- As far as the loop gets with the passes given. -/
def iperf_run_client (client : Client) (calling : Calling) (first : Pass) (events : List Pass) :
    Status :=
  events.foldl (turn build) (begin_client build client calling first)

end Loop

end Iperf.ClientLoop
