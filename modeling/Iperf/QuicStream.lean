import Iperf.Loop
import Iperf.LinkedQueue
import Iperf.TestState

/-!
One QUIC stream of `iperf_quic.c`: its `iperf_quic_stream_ctx`, the
`iperf_stream` it is attached to, the worker thread inside `iperf_quic_send` or
`iperf_quic_recv`, and the MsQuic callbacks of `stream_cb`. A step is one
callback, one block under `sc->lock`, or one library call between two blocks.
Byte counters and `size_t` fields are natural numbers: the chunk list is in
memory, so its byte count cannot leave 64 bits, and the counters of the stream
are those of the source while it has moved fewer than 2^64 bytes each way.
-/

namespace Iperf.QuicStream

open LinkedQueue TestState

/-- The fields of a chunk; `next` is the link of its cell. -/
structure quic_recv_chunk where
  data : List UInt8
  len : Nat
  off : Nat
  deriving DecidableEq, Repr

structure iperf_quic_stream_ctx where
  chunks : Fifo quic_recv_chunk
  queued : Nat
  pending_sends : Nat
  fin : Bool

structure iperf_stream where
  blksize : Nat
  pending_size : Nat
  done : Bool
  bytes_sent : Nat
  bytes_sent_this_interval : Nat
  bytes_received : Nat
  bytes_received_this_interval : Nat

/-- Where the worker stands inside `iperf_quic_send`; each phase carries the
local variables that are live there. -/
inductive SendPhase where
  | idle
  | throttle (old_cancel : Bool)
  | slotted (old_cancel : Bool) (len : Nat)
  | accepted (old_cancel : Bool) (len : Nat)
  deriving DecidableEq, Repr

/-- `cancel` is the thread's cancel state (`true` is PTHREAD_CANCEL_ENABLE) and
`inFlight` counts the sends MsQuic has accepted and not completed. `returns`
records the cancel state at entry and at return of every finished call. -/
structure System where
  sc : iperf_quic_stream_ctx
  sp : iperf_stream
  test_done : Bool
  test_state : StateByte
  cancel : Bool
  phase : SendPhase
  inFlight : Nat
  returns : List (Bool × Bool)

def QUIC_MAX_PENDING_SENDS : Nat := 32

section Functions

/-- One buffer of a RECEIVE event; `chunk` is the address the allocator returns. -/
def receiveBuffer (sc : iperf_quic_stream_ctx) (chunk : Ptr) (buffer : List UInt8) :
    Option iperf_quic_stream_ctx :=
  (sc.chunks.append chunk ⟨buffer, buffer.length, 0⟩).map fun chunks =>
    { sc with chunks := chunks, queued := sc.queued + buffer.length }

/-- The SEND_COMPLETE block. Natural subtraction is the guard `pending_sends > 0`. -/
def sendComplete (sc : iperf_quic_stream_ctx) : iperf_quic_stream_ctx :=
  { sc with pending_sends := sc.pending_sends - 1 }

/-- PEER_SEND_SHUTDOWN, PEER_SEND_ABORTED and SHUTDOWN_COMPLETE all set `fin`. -/
def finish (sc : iperf_quic_stream_ctx) : iperf_quic_stream_ctx :=
  { sc with fin := true }

/-- The wait condition shared by both throttling loops. -/
def stopped (system : System) : Bool :=
  system.sc.fin || system.sp.done || system.test_done

/-- The locals of the copy loop; `buffer` holds the first `got` bytes. -/
structure Copy where
  chunks : Fifo quic_recv_chunk
  queued : Nat
  got : Nat
  buffer : List UInt8

/-- One iteration of `while (got < want && sc->head)`. -/
def copyChunk (want : Nat) : Loop.Body Copy Copy := fun copy =>
  if copy.got < want then
    match copy.chunks.head with
    | none => some (.done copy)
    | some c =>
        match copy.chunks.heap c with
        | none => none
        | some cell =>
            let avail := cell.value.len - cell.value.off
            let take := min (want - copy.got) avail
            let chunk := { cell.value with off := cell.value.off + take }
            let written : Fifo quic_recv_chunk :=
              { copy.chunks with
                heap := Function.update copy.chunks.heap c (some ⟨chunk, cell.next⟩) }
            some (.again
              { chunks :=
                  if chunk.off = chunk.len then written.dropHead c ⟨chunk, cell.next⟩
                  else written
                queued := copy.queued - take
                got := copy.got + take
                buffer := copy.buffer ++ (cell.value.data.drop cell.value.off).take take })
  else some (.done copy)

/-- `iperf_quic_recv` once its wait loop is left. The result is the filled part
of the block buffer; its length is the return value. -/
def iperf_quic_recv (fuel blksize : Nat) (system : System) : Option (List UInt8 × System) :=
  if system.sc.queued = 0 then some ([], system)
  else
    let want := min blksize system.sc.queued
    (Loop.run (copyChunk want) fuel ⟨system.sc.chunks, system.sc.queued, 0, []⟩).map fun copy =>
      let counted := if system.test_state = TEST_RUNNING then copy.got else 0
      (copy.buffer,
        { system with
          sc := { system.sc with chunks := copy.chunks, queued := copy.queued }
          sp :=
            { system.sp with
              bytes_received := system.sp.bytes_received + counted
              bytes_received_this_interval :=
                system.sp.bytes_received_this_interval + counted } })

/-- Entry: cancellation is disabled and the old state kept in a local. -/
def sendEnter (system : System) : System :=
  { system with cancel := false, phase := .throttle system.cancel }

def leave (system : System) (old_cancel : Bool) (restored : Bool) : System :=
  { system with
    phase := .idle
    cancel := if restored then old_cancel else system.cancel
    returns := system.returns ++ [(old_cancel, if restored then old_cancel else system.cancel)] }

/-- Take a slot; an empty `pending_size` starts a new block. -/
def sendSlot (system : System) (old_cancel : Bool) : System :=
  let pending_size :=
    if system.sp.pending_size = 0 then system.sp.blksize else system.sp.pending_size
  { system with
    sc := { system.sc with pending_sends := system.sc.pending_sends + 1 }
    sp := { system.sp with pending_size := pending_size }
    phase := .slotted old_cancel pending_size }

/-- Both failures after the slot was taken: `return NET_HARDERROR`. -/
def sendFailed (system : System) (old_cancel : Bool) : System :=
  leave system old_cancel false

def sendAccepted (system : System) (old_cancel : Bool) (len : Nat) : System :=
  { system with inFlight := system.inFlight + 1, phase := .accepted old_cancel len }

def sendReturn (system : System) (old_cancel : Bool) (len : Nat) : System :=
  leave
    { system with
      sp :=
        { system.sp with
          pending_size := 0
          bytes_sent := system.sp.bytes_sent + len
          bytes_sent_this_interval := system.sp.bytes_sent_this_interval + len } }
    old_cancel true

end Functions

inductive Event where
  | receive (chunk : Ptr) (buffer : List UInt8)
  | sendComplete
  | peerSendShutdown
  | shutdownComplete
  | streamDone
  | testDone
  | setState (state : StateByte)
  | recv (blksize : Nat) (bytes : List UInt8)
  | sendNoContext
  | sendEnter
  | sendWait
  | sendStopped
  | sendSlot
  | sendNoMemory
  | sendRejected
  | sendAccepted (len : Nat)
  | sendReturn
  deriving DecidableEq, Repr

/-- One step of the stream. MsQuic completes only accepted sends; everything
else is enabled exactly where the code stands. -/
inductive Step : System → Event → System → Prop where
  | receive {system : System} {sc : iperf_quic_stream_ctx} (chunk : Ptr) (buffer : List UInt8)
      (unused : system.sc.chunks.heap chunk = none)
      (linked : receiveBuffer system.sc chunk buffer = some sc) :
      Step system (.receive chunk buffer) { system with sc := sc }
  | sendComplete {system : System} (accepted : 0 < system.inFlight) :
      Step system .sendComplete
        { system with sc := sendComplete system.sc, inFlight := system.inFlight - 1 }
  | peerSendShutdown {system : System} :
      Step system .peerSendShutdown { system with sc := finish system.sc }
  | shutdownComplete {system : System} :
      Step system .shutdownComplete { system with sc := finish system.sc }
  | streamDone {system : System} :
      Step system .streamDone { system with sp := { system.sp with done := true } }
  | testDone {system : System} : Step system .testDone { system with test_done := true }
  | setState {system : System} (state : StateByte) :
      Step system (.setState state) { system with test_state := state }
  | recv {system after : System} {bytes : List UInt8} (fuel blksize : Nat)
      (idle : system.phase = .idle) (ready : system.sc.queued ≠ 0 ∨ stopped system = true)
      (returned : iperf_quic_recv fuel blksize system = some (bytes, after)) :
      Step system (.recv blksize bytes) after
  | sendNoContext {system : System} (idle : system.phase = .idle) :
      Step system .sendNoContext system
  | sendEnter {system : System} (idle : system.phase = .idle) :
      Step system .sendEnter (sendEnter system)
  | sendWait {system : System} {old_cancel : Bool} (waits : system.phase = .throttle old_cancel)
      (full : QUIC_MAX_PENDING_SENDS ≤ system.sc.pending_sends)
      (runs : stopped system = false) :
      Step system .sendWait system
  | sendStopped {system : System} {old_cancel : Bool}
      (waits : system.phase = .throttle old_cancel) (stops : stopped system = true) :
      Step system .sendStopped (leave system old_cancel true)
  | sendSlot {system : System} {old_cancel : Bool} (waits : system.phase = .throttle old_cancel)
      (room : system.sc.pending_sends < QUIC_MAX_PENDING_SENDS)
      (runs : stopped system = false) :
      Step system .sendSlot (sendSlot system old_cancel)
  | sendNoMemory {system : System} {old_cancel : Bool} {len : Nat}
      (slotted : system.phase = .slotted old_cancel len) :
      Step system .sendNoMemory (sendFailed system old_cancel)
  | sendRejected {system : System} {old_cancel : Bool} {len : Nat}
      (slotted : system.phase = .slotted old_cancel len) :
      Step system .sendRejected (sendFailed system old_cancel)
  | sendAccepted {system : System} {old_cancel : Bool} {len : Nat}
      (slotted : system.phase = .slotted old_cancel len) :
      Step system (.sendAccepted len) (sendAccepted system old_cancel len)
  | sendReturn {system : System} {old_cancel : Bool} {len : Nat}
      (accepted : system.phase = .accepted old_cancel len) :
      Step system .sendReturn (sendReturn system old_cancel len)

/-- A stream as `quic_sc_new` and `iperf_new_stream` leave it, in a worker that
has just enabled cancellation. -/
def fresh (blksize : Nat) (test_state : StateByte) : System :=
  { sc := ⟨Fifo.empty, 0, 0, false⟩
    sp := ⟨blksize, 0, false, 0, 0, 0, 0⟩
    test_done := false
    test_state := test_state
    cancel := true
    phase := .idle
    inFlight := 0
    returns := [] }

end Iperf.QuicStream
