import Iperf.Loop
import Iperf.LinkedQueue

/-!
The QUIC context of one test as two threads see it: MsQuic's worker, which
announces peer streams, and the main thread inside `iperf_quic_accept`,
`iperf_quic_connect` or `iperf_quic_attach_stream`. A step is one callback, one
block under `ctx->lock`, or the part of a call before or after such a block.
List nodes and stream contexts come from an allocator that does not fail.
-/

namespace Iperf.QuicContext

open LinkedQueue

/-- The fields of a map node; `next` is the link of its cell. -/
structure quic_stream_map where
  id : Int32
  sc : Ptr
  deriving DecidableEq, Repr

/-- `nfd` with the byte count of the pipe behind it: both ends are open until
`iperf_quic_close_listener` closes both. -/
structure Pipe where
  isOpen : Bool
  bytes : Nat
  deriving DecidableEq, Repr

/-- `accept` is the pair `ahead`, `atail`; its nodes carry only `sc`. -/
structure iperf_quic_context where
  nfd : Pipe
  next_id : Int32
  nodes : Heap quic_stream_map
  map : Option Ptr
  accept : Fifo Ptr

/-- Where the main thread stands. A context it has opened or taken from the map
and not yet handed on is in a local variable of the running call. -/
inductive Main where
  | idle
  | accepting
  | connecting (sc : Ptr)
  | attaching (sp sc : Ptr)
  deriving DecidableEq, Repr

/-- `data` is `sp->data` of each stream and `contexts` lists the stream contexts
allocated so far, in order. -/
structure System where
  ctx : iperf_quic_context
  data : Ptr → Option Ptr
  contexts : List Ptr
  main : Main

section Functions

/-- `notify_pipe`: the write end does not block, so a full pipe drops the byte. -/
def notify_pipe (capacity : Nat) (nfd : Pipe) : Pipe :=
  if nfd.isOpen then
    if nfd.bytes < capacity then { nfd with bytes := nfd.bytes + 1 } else nfd
  else nfd

/-- `read(ctx->nfd[0], &junk, 1)` on the non-blocking read end. -/
def drain (nfd : Pipe) : Pipe :=
  if nfd.isOpen then { nfd with bytes := nfd.bytes - 1 } else nfd

def map_add (ctx : iperf_quic_context) (node : Ptr) (id : Int32) (sc : Ptr) :
    iperf_quic_context :=
  { ctx with
    nodes := Function.update ctx.nodes node (some ⟨⟨id, sc⟩, ctx.map⟩)
    map := some node }

/-- One iteration of the search in `map_take`, with `prev` and `cur`. -/
def takeStep (ctx : iperf_quic_context) (id : Int32) :
    Loop.Body (Option Ptr × Option Ptr) (Option Ptr × iperf_quic_context)
  | (_, none) => some (.done (none, ctx))
  | (prev, some cur) =>
      match ctx.nodes cur with
      | none => none
      | some cell =>
          if cell.value.id = id then
            match prev with
            | none =>
                some (.done (some cell.value.sc,
                  { ctx with nodes := Function.update ctx.nodes cur none, map := cell.next }))
            | some p =>
                match ctx.nodes p with
                | none => none
                | some before =>
                    let linked := Function.update ctx.nodes p (some ⟨before.value, cell.next⟩)
                    some (.done (some cell.value.sc,
                      { ctx with nodes := Function.update linked cur none }))
          else some (.again (some cur, cell.next))

def map_take (fuel : Nat) (ctx : iperf_quic_context) (id : Int32) :
    Option (Option Ptr × iperf_quic_context) :=
  Loop.run (takeStep ctx id) fuel (none, ctx.map)

def accept_enq (capacity : Nat) (ctx : iperf_quic_context) (node sc : Ptr) :
    Option iperf_quic_context :=
  (ctx.accept.append node sc).map fun queue =>
    { ctx with accept := queue, nfd := notify_pipe capacity ctx.nfd }

/-- The outer `none` is a dangling `ahead`, the inner one an empty queue. -/
def accept_deq (ctx : iperf_quic_context) : Option (Option Ptr × iperf_quic_context) :=
  match ctx.accept.head with
  | none => some (none, ctx)
  | some n =>
      match ctx.accept.heap n with
      | none => none
      | some cell => some (some cell.value, { ctx with accept := ctx.accept.dropHead n cell })

/-- `id = ++ctx->next_id; map_add(ctx, id, sc);`, in accept and in connect. -/
def identify (ctx : iperf_quic_context) (node sc : Ptr) : Int32 × iperf_quic_context :=
  let id := ctx.next_id + 1
  (id, map_add { ctx with next_id := id } node id sc)

/-- The block of `iperf_quic_accept` under the lock: `none` is the return of −1. -/
def acceptLocked (ctx : iperf_quic_context) (node : Ptr) :
    Option (Option (Int32 × Ptr) × iperf_quic_context) :=
  match accept_deq ctx with
  | none => none
  | some (none, after) => some (none, after)
  | some (some sc, after) =>
      let (id, added) := identify after node sc
      some (some (id, sc), added)

/-- `if (!sc) return -1;`, else the context is in hand until `sp->data = sc`. -/
def afterLookup (sp : Ptr) : Option Ptr → Main
  | none => .idle
  | some sc => .attaching sp sc

end Functions

section Specifications
variable {ctx after : iperf_quic_context} {waiting : List (Ptr × Ptr)}

theorem accept_enq_waiting {capacity : Nat} {node sc : Ptr} (holds : ctx.accept.Holds waiting)
    (unused : ctx.accept.heap node = none) (queued : accept_enq capacity ctx node sc = some after) :
    after.accept.Holds (waiting ++ [(node, sc)]) ∧
      after = { ctx with accept := after.accept, nfd := notify_pipe capacity ctx.nfd } := by
  obtain ⟨queue, appended, longer⟩ := Fifo.append_holds holds unused sc
  simp only [accept_enq, appended, Option.map_some, Option.some.injEq] at queued
  subst queued
  exact ⟨longer, rfl⟩

theorem accept_deq_waiting (holds : ctx.accept.Holds waiting) :
    (waiting = [] ∧ accept_deq ctx = some (none, ctx)) ∨
      ∃ n sc rest queue, waiting = (n, sc) :: rest ∧ queue.Holds rest ∧
        accept_deq ctx = some (some sc, { ctx with accept := queue }) := by
  cases waiting with
  | nil =>
      have empty : ctx.accept.head = none := holds.chain
      exact Or.inl ⟨rfl, by simp [accept_deq, empty]⟩
  | cons first rest =>
      obtain ⟨n, sc⟩ := first
      obtain ⟨starts, link, stored, _⟩ := holds.chain
      dsimp only at starts stored
      have dropped := Fifo.dropHead_holds ⟨sc, link⟩ holds stored
      exact Or.inr ⟨n, sc, rest, _, rfl, dropped, by simp [accept_deq, starts, stored]⟩

/-- A lookup writes only the map. -/
theorem map_take_frame {fuel : Nat} {id : Int32} {result : Option Ptr}
    (took : map_take fuel ctx id = some (result, after)) :
    after.accept = ctx.accept ∧ after.nfd = ctx.nfd := by
  refine Loop.run_result (P := fun outcome : Option Ptr × iperf_quic_context =>
    outcome.2.accept = ctx.accept ∧ outcome.2.nfd = ctx.nfd) ?_ took
  intro state outcome stops
  -- The loop only stops with the context it searched or with new `nodes` and `map`.
  obtain ⟨prev, cur⟩ := state
  cases cur with
  | none =>
      simp only [takeStep, Option.some.injEq, Loop.Verdict.done.injEq] at stops
      exact stops ▸ ⟨rfl, rfl⟩
  | some c =>
      simp only [takeStep] at stops
      split at stops
      · cases stops
      · split at stops
        · cases prev with
          | none =>
              simp only [Option.some.injEq, Loop.Verdict.done.injEq] at stops
              exact stops ▸ ⟨rfl, rfl⟩
          | some p =>
              dsimp only at stops
              split at stops
              · cases stops
              · simp only [Option.some.injEq, Loop.Verdict.done.injEq] at stops
                exact stops ▸ ⟨rfl, rfl⟩
        · simp at stops

end Specifications

/-- Labels name the addresses involved and what a call returns: an accept the
new id with its context, a lookup the context it took out of the map. -/
inductive Event where
  | peerStreamStarted (sc : Ptr)
  | acceptRead
  | accept (result : Option (Int32 × Ptr))
  | connectOpen (sc : Ptr)
  | connect (id : Int32) (sc : Ptr)
  | lookup (sp : Ptr) (id : Int32) (result : Option Ptr)
  | attach (sp sc : Ptr)
  | closeListener
  deriving DecidableEq, Repr

inductive Step (capacity : Nat) : System → Event → System → Prop where
  | peerStreamStarted {system : System} {ctx : iperf_quic_context} (sc node : Ptr)
      (fresh : sc ∉ system.contexts) (unused : system.ctx.accept.heap node = none)
      (queued : accept_enq capacity system.ctx node sc = some ctx) :
      Step capacity system (.peerStreamStarted sc)
        { system with ctx := ctx, contexts := system.contexts ++ [sc] }
  | acceptRead {system : System} (idle : system.main = .idle) :
      Step capacity system .acceptRead
        { system with
          ctx := { system.ctx with nfd := drain system.ctx.nfd }, main := .accepting }
  | accept {system : System} {ctx : iperf_quic_context} {result : Option (Int32 × Ptr)}
      (node : Ptr) (unused : system.ctx.nodes node = none) (accepting : system.main = .accepting)
      (locked : acceptLocked system.ctx node = some (result, ctx)) :
      Step capacity system (.accept result) { system with ctx := ctx, main := .idle }
  | connectOpen {system : System} (sc : Ptr) (fresh : sc ∉ system.contexts)
      (idle : system.main = .idle) :
      Step capacity system (.connectOpen sc)
        { system with contexts := system.contexts ++ [sc], main := .connecting sc }
  | connect {system : System} {sc : Ptr} (node : Ptr) (unused : system.ctx.nodes node = none)
      (connecting : system.main = .connecting sc) :
      Step capacity system (.connect (identify system.ctx node sc).1 sc)
        { system with ctx := (identify system.ctx node sc).2, main := .idle }
  | lookup {system : System} {ctx : iperf_quic_context} {result : Option Ptr}
      (fuel : Nat) (sp : Ptr) (id : Int32) (idle : system.main = .idle)
      (unattached : system.data sp = none)
      (took : map_take fuel system.ctx id = some (result, ctx)) :
      Step capacity system (.lookup sp id result)
        { system with ctx := ctx, main := afterLookup sp result }
  | attach {system : System} {sp sc : Ptr} (attaching : system.main = .attaching sp sc) :
      Step capacity system (.attach sp sc)
        { system with data := Function.update system.data sp (some sc), main := .idle }
  | closeListener {system : System} (idle : system.main = .idle) :
      Step capacity system .closeListener
        { system with ctx := { system.ctx with nfd := { system.ctx.nfd with isOpen := false } } }

/-- A context as `quic_ctx_init` leaves it, with no stream attached. -/
def fresh : System :=
  { ctx := ⟨⟨true, 0⟩, 0, fun _ => none, none, Fifo.empty⟩
    data := fun _ => none
    contexts := []
    main := .idle }

end Iperf.QuicContext
