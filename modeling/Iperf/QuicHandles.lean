import Mathlib.Logic.Function.Basic
import Iperf.LinkedQueue

/-!
The life of the stream handles of `iperf_quic.c`: which calls reach MsQuic with
`sc->stream` while its callbacks come and go. The accept queue and the id map
are the lists their pointers spell out. A step is one callback, one block under
a lock, or one call of the MsQuic table.
-/

namespace Iperf.QuicHandles

open LinkedQueue

abbrev HQUIC := Nat

/-- The fields that decide which handle is used, and when. -/
structure iperf_quic_stream_ctx where
  stream : Option HQUIC
  pending_sends : Nat
  fin : Bool
  deriving DecidableEq, Repr

structure iperf_quic_context where
  next_id : Int32
  map : List (Int32 × Ptr)
  ahead : List Ptr
  deriving DecidableEq, Repr

/-- MsQuic's side of a handle: the callback context, whether SHUTDOWN_COMPLETE
was delivered, and whether StreamClose was called and has returned. -/
structure Handle where
  context : Ptr
  started : Bool
  shutdown : Bool
  closed : Bool
  returned : Bool
  deriving DecidableEq, Repr

/-- The sender thread of a stream. Inside `iperf_quic_send` it has `sc` in a local
variable: before the throttle, after it, and after the argument `sc->stream` of
StreamSend has been read. -/
inductive Thread where
  | absent
  | ready
  | entered (sc : Ptr)
  | slotted (sc : Ptr)
  | loaded (sc : Ptr) (h : HQUIC)
  deriving DecidableEq, Repr

/-- What follows the close of a context: the error return of a connect, the rest
of a stream cleanup, or the next node of the teardown walk. The walk has read
`next` before the close, so at the last node of the queue it ends there. -/
inductive After where
  | connectFailed
  | cleanup (sp : Ptr)
  | walk (last : Bool)
  deriving DecidableEq, Repr

inductive Stage where
  | toShutdown
  | toClose
  | inClose
  deriving DecidableEq, Repr

inductive Main where
  | idle
  | opened (sc : Ptr)
  | started (sc : Ptr)
  | attaching (sp sc : Ptr)
  | closing (stage : Stage) (sc : Ptr) (after : After)
  | walking
  | finishing
  deriving DecidableEq, Repr

/-- `streams` lists each `iperf_stream` with its `sp->data`. -/
structure System where
  quic_ctx : Option iperf_quic_context
  scs : Ptr → Option iperf_quic_stream_ctx
  streams : List (Ptr × Ptr)
  threads : Ptr → Thread
  main : Main
  handles : HQUIC → Option Handle

def QUIC_MAX_PENDING_SENDS : Nat := 32

section Functions

/-- A callback's block under `sc->lock`. -/
def onContext (system : System) (sc : Ptr)
    (change : iperf_quic_stream_ctx → iperf_quic_stream_ctx) : System :=
  { system with scs := Function.update system.scs sc ((system.scs sc).map change) }

def setHandle (system : System) (h : HQUIC) (handle : Handle) : System :=
  { system with handles := Function.update system.handles h (some handle) }

/-- `quic_sc_new` and SetCallbackHandler for a handle MsQuic has just made. -/
def newContext (system : System) (sc : Ptr) (h : HQUIC) (started : Bool) : System :=
  { system with
    scs := Function.update system.scs sc (some ⟨some h, 0, false⟩)
    handles := Function.update system.handles h (some ⟨sc, started, false, false, false⟩) }

def atStep : After → Main
  | .connectFailed | .cleanup _ => .idle
  | .walk false => .walking
  | .walk true => .finishing

/-- `quic_sc_free` and what its caller does next: a cleanup clears `sp->data`,
the end of the walk drops the queue. -/
def release (system : System) (sc : Ptr) (after : After) : System :=
  { system with
    scs := Function.update system.scs sc none
    streams := match after with
      | .cleanup sp => system.streams.filter fun stream => stream.1 ≠ sp
      | _ => system.streams
    quic_ctx := match after with
      | .walk true => system.quic_ctx.map fun ctx => { ctx with ahead := [] }
      | _ => system.quic_ctx
    main := atStep after }

/-- `if (sc->stream) { StreamShutdown; StreamClose; sc->stream = NULL; }`, then free. -/
def closeContext (system : System) (stream : Option HQUIC) (sc : Ptr) (after : After) : System :=
  match stream with
  | some _ => { system with main := .closing .toShutdown sc after }
  | none => release system sc after

/-- Under `ctx->lock`: the next id, and a map node unless its allocation fails. -/
def identify (ctx : iperf_quic_context) (sc : Ptr) (mapped : Bool) : iperf_quic_context :=
  { ctx with
    next_id := ctx.next_id + 1
    map := if mapped then (ctx.next_id + 1, sc) :: ctx.map else ctx.map }

def setThread (system : System) (sp : Ptr) (thread : Thread) : System :=
  { system with threads := Function.update system.threads sp thread }

end Functions

/-- Labels carry the handle of every MsQuic call and of every callback. -/
inductive Event where
  | ctxInit
  | peerStreamStarted (sc : Ptr) (h : HQUIC)
  | receive (h : HQUIC)
  | sendComplete (h : HQUIC)
  | peerSendShutdown (h : HQUIC)
  | shutdownComplete (h : HQUIC) (appCloseInProgress : Bool)
  | streamOpen (sc : Ptr) (h : HQUIC)
  | openRefused (h : HQUIC)
  | streamStart (h : HQUIC)
  | streamStartFailed
  | connect
  | accept
  | lookup (sp : Ptr) (id : Int32)
  | attach
  | spawn (sp : Ptr)
  | join (sp : Ptr)
  | sendEnter (sp : Ptr)
  | sendLeave (sp : Ptr)
  | sendSlot (sp : Ptr)
  | sendLoad (sp : Ptr)
  | streamSend (h : HQUIC)
  | cleanup (sp : Ptr)
  | freeTest
  | walk
  | streamShutdown (h : HQUIC)
  | streamClose (h : HQUIC)
  | closeReturn
  | freeEnd
  deriving DecidableEq, Repr

/-- MsQuic delivers nothing before the stream started or after StreamClose
returned, and SHUTDOWN_COMPLETE once, with AppCloseInProgress exactly inside the
application's StreamClose. A stream may be cleaned up beside its sender, and what
the sender then reads from the freed context is anything. -/
inductive Step : System → Event → System → Prop where
  | ctxInit {system : System} (idle : system.main = .idle) (none : system.quic_ctx = none) :
      Step system .ctxInit { system with quic_ctx := some ⟨0, [], []⟩ }
  | peerStreamStarted {system : System} {ctx : iperf_quic_context} (sc : Ptr) (h : HQUIC)
      (queued : Bool) (live : system.quic_ctx = some ctx) (unused : system.scs sc = none)
      (fresh : system.handles h = none) :
      Step system (.peerStreamStarted sc h)
        { newContext system sc h true with
          quic_ctx := some { ctx with ahead := if queued then ctx.ahead ++ [sc] else ctx.ahead } }
  | receive {system : System} {handle : Handle} (h : HQUIC)
      (known : system.handles h = some handle) (started : handle.started = true)
      (delivers : handle.returned = false) : Step system (.receive h) system
  | sendComplete {system : System} {handle : Handle} (h : HQUIC)
      (known : system.handles h = some handle) (started : handle.started = true)
      (delivers : handle.returned = false) :
      Step system (.sendComplete h) (onContext system handle.context fun sc =>
        { sc with pending_sends := sc.pending_sends - 1 })
  | peerSendShutdown {system : System} {handle : Handle} (h : HQUIC)
      (known : system.handles h = some handle) (started : handle.started = true)
      (delivers : handle.returned = false) :
      Step system (.peerSendShutdown h) (onContext system handle.context fun sc =>
        { sc with fin := true })
  /-- The callback closes the handle itself and leaves `sc->stream` as it is. -/
  | shutdownClosing {system : System} {handle : Handle} (h : HQUIC)
      (known : system.handles h = some handle) (started : handle.started = true)
      (once : handle.shutdown = false) (unclosed : handle.closed = false) :
      Step system (.shutdownComplete h false)
        (setHandle (onContext system handle.context fun sc => { sc with fin := true }) h
          { handle with shutdown := true, closed := true, returned := true })
  | shutdownInClose {system : System} {handle : Handle} (h : HQUIC)
      (known : system.handles h = some handle) (started : handle.started = true)
      (once : handle.shutdown = false) (closed : handle.closed = true)
      (delivers : handle.returned = false) :
      Step system (.shutdownComplete h true)
        (setHandle (onContext system handle.context fun sc => { sc with fin := true }) h
          { handle with shutdown := true })
  | streamOpen {system : System} (sc : Ptr) (h : HQUIC) (idle : system.main = .idle)
      (live : system.quic_ctx ≠ none) (unused : system.scs sc = none)
      (fresh : system.handles h = none) :
      Step system (.streamOpen sc h) { newContext system sc h false with main := .opened sc }
  /-- `quic_sc_new` fails: the new handle is closed at once. -/
  | openRefused {system : System} (h : HQUIC) (idle : system.main = .idle)
      (live : system.quic_ctx ≠ none) (fresh : system.handles h = none) :
      Step system (.openRefused h) (setHandle system h ⟨0, false, false, true, true⟩)
  | streamStart {system : System} {sc : Ptr} {stream : iperf_quic_stream_ctx} {handle : Handle}
      (h : HQUIC) (opened : system.main = .opened sc) (stored : system.scs sc = some stream)
      (reads : stream.stream = some h) (known : system.handles h = some handle) :
      Step system (.streamStart h)
        { setHandle system h { handle with started := true } with main := .started sc }
  | streamStartFailed {system : System} {sc : Ptr} {stream : iperf_quic_stream_ctx}
      (opened : system.main = .opened sc) (stored : system.scs sc = some stream) :
      Step system .streamStartFailed (closeContext system stream.stream sc .connectFailed)
  | connect {system : System} {sc : Ptr} {ctx : iperf_quic_context} (mapped : Bool)
      (started : system.main = .started sc) (live : system.quic_ctx = some ctx) :
      Step system .connect
        { system with quic_ctx := some (identify ctx sc mapped), main := .idle }
  | accept {system : System} {sc : Ptr} {rest : List Ptr} {ctx : iperf_quic_context}
      (mapped : Bool) (idle : system.main = .idle) (live : system.quic_ctx = some ctx)
      (waiting : ctx.ahead = sc :: rest) :
      Step system .accept
        { system with quic_ctx := some (identify { ctx with ahead := rest } sc mapped) }
  | lookup {system : System} {sc : Ptr} {front back : List (Int32 × Ptr)}
      {ctx : iperf_quic_context} (sp : Ptr) (id : Int32) (idle : system.main = .idle)
      (live : system.quic_ctx = some ctx) (found : ctx.map = front ++ (id, sc) :: back)
      (first : ∀ entry ∈ front, entry.1 ≠ id)
      (unattached : sp ∉ system.streams.map Prod.fst) :
      Step system (.lookup sp id)
        { system with
          quic_ctx := some { ctx with map := front ++ back }, main := .attaching sp sc }
  | attach {system : System} {sp sc : Ptr} (attaching : system.main = .attaching sp sc) :
      Step system .attach { system with streams := (sp, sc) :: system.streams, main := .idle }
  | spawn {system : System} (sp : Ptr) (idle : system.main = .idle)
      (attached : sp ∈ system.streams.map Prod.fst) (absent : system.threads sp = .absent) :
      Step system (.spawn sp) (setThread system sp .ready)
  | join {system : System} (sp : Ptr) (idle : system.main = .idle)
      (ready : system.threads sp = .ready) : Step system (.join sp) (setThread system sp .absent)
  | sendEnter {system : System} {sc : Ptr} (sp : Ptr) (ready : system.threads sp = .ready)
      (attached : (sp, sc) ∈ system.streams) (live : system.quic_ctx ≠ none) :
      Step system (.sendEnter sp) (setThread system sp (.entered sc))
  /-- The stream is finished, or there is no memory for the block. -/
  | sendLeave {system : System} {sc : Ptr} (sp : Ptr)
      (inside : system.threads sp = .entered sc ∨ system.threads sp = .slotted sc) :
      Step system (.sendLeave sp) (setThread system sp .ready)
  | sendSlot {system : System} {sc : Ptr} {stream : iperf_quic_stream_ctx} (sp : Ptr)
      (entered : system.threads sp = .entered sc) (stored : system.scs sc = some stream)
      (runs : stream.fin = false) (room : stream.pending_sends < QUIC_MAX_PENDING_SENDS) :
      Step system (.sendSlot sp) (setThread (onContext system sc fun sc =>
        { sc with pending_sends := sc.pending_sends + 1 }) sp (.slotted sc))
  | sendSlotFreed {system : System} {sc : Ptr} (sp : Ptr)
      (entered : system.threads sp = .entered sc) (freed : system.scs sc = none) :
      Step system (.sendSlot sp) (setThread system sp (.slotted sc))
  | sendLoad {system : System} {sc : Ptr} {stream : iperf_quic_stream_ctx} {h : HQUIC} (sp : Ptr)
      (slotted : system.threads sp = .slotted sc) (stored : system.scs sc = some stream)
      (reads : stream.stream = some h) :
      Step system (.sendLoad sp) (setThread system sp (.loaded sc h))
  | sendLoadFreed {system : System} {sc : Ptr} (sp : Ptr) (h : HQUIC)
      (slotted : system.threads sp = .slotted sc) (freed : system.scs sc = none) :
      Step system (.sendLoad sp) (setThread system sp (.loaded sc h))
  | streamSend {system : System} {sp sc : Ptr} {h : HQUIC}
      (loaded : system.threads sp = .loaded sc h) :
      Step system (.streamSend h) (setThread system sp .ready)
  | cleanup {system : System} {sc : Ptr} {stream : iperf_quic_stream_ctx} (sp : Ptr)
      (idle : system.main = .idle) (attached : (sp, sc) ∈ system.streams)
      (stored : system.scs sc = some stream) :
      Step system (.cleanup sp)
        (if system.quic_ctx = none then release system sc (.cleanup sp)
          else closeContext system stream.stream sc (.cleanup sp))
  | freeTest {system : System} (idle : system.main = .idle) (live : system.quic_ctx ≠ none) :
      Step system .freeTest { system with main := .walking }
  | walkMap {system : System} {id : Int32} {sc : Ptr} {rest : List (Int32 × Ptr)}
      {ctx : iperf_quic_context} {stream : iperf_quic_stream_ctx}
      (walking : system.main = .walking) (live : system.quic_ctx = some ctx)
      (node : ctx.map = (id, sc) :: rest) (stored : system.scs sc = some stream) :
      Step system .walk
        (closeContext { system with quic_ctx := some { ctx with map := rest } } stream.stream sc
          (.walk false))
  | walkAccept {system : System} {sc : Ptr} {rest : List Ptr} {ctx : iperf_quic_context}
      {stream : iperf_quic_stream_ctx} (walking : system.main = .walking)
      (live : system.quic_ctx = some ctx) (mapped : ctx.map = []) (node : ctx.ahead = sc :: rest)
      (stored : system.scs sc = some stream) :
      Step system .walk
        (closeContext { system with quic_ctx := some { ctx with ahead := rest } } stream.stream sc
          (.walk rest.isEmpty))
  | walkEnd {system : System} {ctx : iperf_quic_context} (walking : system.main = .walking)
      (live : system.quic_ctx = some ctx) (mapped : ctx.map = []) (queued : ctx.ahead = []) :
      Step system .walk { system with main := .finishing }
  | streamShutdown {system : System} {sc : Ptr} {after : After} {stream : iperf_quic_stream_ctx}
      {h : HQUIC} (closing : system.main = .closing .toShutdown sc after)
      (stored : system.scs sc = some stream) (reads : stream.stream = some h) :
      Step system (.streamShutdown h) { system with main := .closing .toClose sc after }
  | streamClose {system : System} {sc : Ptr} {after : After} {stream : iperf_quic_stream_ctx}
      {h : HQUIC} {handle : Handle} (closing : system.main = .closing .toClose sc after)
      (stored : system.scs sc = some stream) (reads : stream.stream = some h)
      (known : system.handles h = some handle) :
      Step system (.streamClose h)
        { setHandle system h { handle with closed := true } with
          main := .closing .inClose sc after }
  | closeReturn {system : System} {sc : Ptr} {after : After} {stream : iperf_quic_stream_ctx}
      {h : HQUIC} {handle : Handle} (closing : system.main = .closing .inClose sc after)
      (stored : system.scs sc = some stream) (reads : stream.stream = some h)
      (known : system.handles h = some handle) :
      Step system .closeReturn
        (release (setHandle system h { handle with returned := true }) sc after)
  | freeEnd {system : System} (finishing : system.main = .finishing) :
      Step system .freeEnd { system with quic_ctx := none, main := .idle }

/-- A test before its context is set up. -/
def fresh : System :=
  { quic_ctx := none
    scs := fun _ => none
    streams := []
    threads := fun _ => .absent
    main := .idle
    handles := fun _ => none }

end Iperf.QuicHandles
