import Iperf.Loop
import Iperf.DoublyLinked
import Iperf.Time

/-!
`timer.c`: the active timers, a doubly linked list kept in firing order, and the
free list threaded through `next`. `tmr_run` is a machine that stops at every
callback, so that the callback can create and reset timers before it returns.
-/

namespace Iperf.Timers

open DoublyLinked Time

/-- The fields of a timer besides its links. -/
structure Timer where
  timer_proc : Ptr
  client_data : Ptr
  usecs : Int64
  periodic : Bool
  time : iperf_time
  deriving DecidableEq, Repr

structure Globals where
  timers : DList Timer
  free_timers : Option Ptr

section Functions

/-- One iteration of the walk in `list_add`, with `t2prev` and `t2`. -/
def findStep (heap : Heap Timer) (time : iperf_time) :
    Loop.Body (Ptr × Option Ptr) (Ptr × Option Ptr)
  | (t2prev, none) => some (.done (t2prev, none))
  | (t2prev, some t2) =>
      match heap t2 with
      | none => none
      | some node =>
          if iperf_time_compare time node.value.time < 0 then some (.done (t2prev, some t2))
          else some (.again (t2, node.next))

def list_add (fuel : Nat) (timers : DList Timer) (t : Ptr) : Option (DList Timer) :=
  match timers.heap t with
  | none => none
  | some node =>
      match timers.head with
      | none => { timers with head := some t }.setLinks t none none
      | some first =>
          match timers.heap first with
          | none => none
          | some head =>
              if iperf_time_compare node.value.time head.value.time < 0 then
                -- The new timer goes at the head of the list.
                (timers.setLinks t none (some first)).bind fun linked =>
                  (linked.setPrev first (some t)).map fun pushed => { pushed with head := some t }
              else
                match Loop.run (findStep timers.heap node.value.time) fuel (first, head.next) with
                | none => none
                | some (t2prev, some t2) =>
                    (timers.setNext t2prev (some t)).bind fun forward =>
                      (forward.setLinks t (some t2prev) (some t2)).bind fun linked =>
                        linked.setPrev t2 (some t)
                | some (t2prev, none) =>
                    (timers.setNext t2prev (some t)).bind fun forward =>
                      forward.setLinks t (some t2prev) none

def list_remove (timers : DList Timer) (t : Ptr) : Option (DList Timer) := timers.remove t

def list_resort (fuel : Nat) (timers : DList Timer) (t : Ptr) : Option (DList Timer) :=
  (list_remove timers t).bind fun removed => list_add fuel removed t

/-- The node of a new timer: the first free one, else what `malloc` returns. -/
def takeNode (globals : Globals) (malloc : Option Ptr) : Option (Option Ptr × Globals) :=
  match globals.free_timers with
  | none => some (malloc, globals)
  | some t =>
      match globals.timers.heap t with
      | none => none
      | some node => some (some t, { globals with free_timers := node.next })

/-- The assignments to the fields; the links keep what the memory held. -/
def fill (timers : DList Timer) (t : Ptr) (timer : Timer) : DList Timer :=
  { timers with
    heap := Function.update timers.heap t (some
      ⟨timer, (timers.heap t).bind Node.prev, (timers.heap t).bind Node.next⟩) }

def tmr_create (fuel : Nat) (globals : Globals) (malloc : Option Ptr) (now : iperf_time)
    (timer_proc client_data : Ptr) (usecs : Int64) (periodic : Bool) :
    Option (Option Ptr × Globals) :=
  match takeNode globals malloc with
  | none => none
  | some (none, globals) => some (none, globals)
  | some (some t, globals) =>
      let time := iperf_time_add_usecs now usecs.toUInt64
      let filled := fill globals.timers t ⟨timer_proc, client_data, usecs, periodic, time⟩
      (list_add fuel filled t).map fun timers => (some t, { globals with timers := timers })

/-- A new firing time for a linked timer, and its new place in the list. -/
def retime (fuel : Nat) (globals : Globals) (t : Ptr) (time : Timer → iperf_time) :
    Option Globals :=
  match globals.timers.heap t with
  | none => none
  | some node =>
      (globals.timers.setValue t { node.value with time := time node.value }).bind fun timed =>
        (list_resort fuel timed t).map fun timers => { globals with timers := timers }

def tmr_reset (fuel : Nat) (globals : Globals) (now : iperf_time) (t : Ptr) : Option Globals :=
  retime fuel globals t fun timer => iperf_time_add_usecs now timer.usecs.toUInt64

/-- The periodic branch of `tmr_run`. -/
def reschedule (fuel : Nat) (globals : Globals) (t : Ptr) : Option Globals :=
  retime fuel globals t fun timer => iperf_time_add_usecs timer.time timer.usecs.toUInt64

def tmr_cancel (globals : Globals) (t : Ptr) : Option Globals :=
  (list_remove globals.timers t).bind fun removed =>
    (removed.setLinks t none globals.free_timers).map fun timers =>
      { timers := timers, free_timers := some t }

end Functions

/-- Where `tmr_run` stands: outside, at the head of its loop with `t`, or inside
the callback of `t` with `next` already read. -/
inductive Phase where
  | idle
  | walking (now : iperf_time) (t : Option Ptr)
  | calling (now : iperf_time) (t : Ptr) (next : Option Ptr)
  deriving DecidableEq, Repr

/-- `active` records the timers handed out and not yet cancelled or expired. -/
structure System where
  globals : Globals
  active : List Ptr
  phase : Phase

inductive Event where
  | create (result : Option Ptr)
  | reset (t : Ptr)
  | cancel (t : Ptr)
  | runEnter
  | runLeave
  | call (t : Ptr)
  | rescheduled (t : Ptr)
  | expired (t : Ptr)
  deriving DecidableEq, Repr

/-- Callers, and callbacks while `tmr_run` waits for them. -/
def Phase.accepts : Phase → Prop
  | .walking _ _ => False
  | _ => True

inductive Step : System → Event → System → Prop where
  | create {system : System} {globals : Globals} {result : Option Ptr} (fuel : Nat)
      (malloc : Option Ptr) (now : iperf_time) (timer_proc client_data : Ptr) (usecs : Int64)
      (periodic : Bool) (accepts : system.phase.accepts)
      (fresh : ∀ t, malloc = some t → system.globals.timers.heap t = none)
      (returned : tmr_create fuel system.globals malloc now timer_proc client_data usecs periodic =
        some (result, globals)) :
      Step system (.create result)
        { system with globals := globals, active := result.toList ++ system.active }
  | reset {system : System} {globals : Globals} (fuel : Nat) (now : iperf_time) (t : Ptr)
      (accepts : system.phase.accepts) (live : t ∈ system.active)
      (returned : tmr_reset fuel system.globals now t = some globals) :
      Step system (.reset t) { system with globals := globals }
  | cancel {system : System} {globals : Globals} (t : Ptr) (idle : system.phase = .idle)
      (live : t ∈ system.active) (returned : tmr_cancel system.globals t = some globals) :
      Step system (.cancel t)
        { system with globals := globals, active := system.active.erase t }
  | runEnter {system : System} (now : iperf_time) (idle : system.phase = .idle) :
      Step system .runEnter
        { system with phase := .walking now system.globals.timers.head }
  | runEnd {system : System} {now : iperf_time} (ended : system.phase = .walking now none) :
      Step system .runLeave { system with phase := .idle }
  | runBreak {system : System} {now : iperf_time} {t : Ptr} {node : Node Timer}
      (walking : system.phase = .walking now (some t))
      (stored : system.globals.timers.heap t = some node)
      (later : iperf_time_compare node.value.time now > 0) :
      Step system .runLeave { system with phase := .idle }
  | call {system : System} {now : iperf_time} {t : Ptr} {node : Node Timer}
      (walking : system.phase = .walking now (some t))
      (stored : system.globals.timers.heap t = some node)
      (due : ¬ iperf_time_compare node.value.time now > 0) :
      Step system (.call t) { system with phase := .calling now t node.next }
  | rescheduled {system : System} {globals : Globals} {now : iperf_time} {t : Ptr}
      {next : Option Ptr} {node : Node Timer} (fuel : Nat)
      (calling : system.phase = .calling now t next)
      (stored : system.globals.timers.heap t = some node) (periodic : node.value.periodic = true)
      (returned : reschedule fuel system.globals t = some globals) :
      Step system (.rescheduled t) { system with globals := globals, phase := .walking now next }
  | expired {system : System} {globals : Globals} {now : iperf_time} {t : Ptr}
      {next : Option Ptr} {node : Node Timer} (calling : system.phase = .calling now t next)
      (stored : system.globals.timers.heap t = some node) (once : node.value.periodic = false)
      (returned : tmr_cancel system.globals t = some globals) :
      Step system (.expired t)
        { system with
          globals := globals, active := system.active.erase t, phase := .walking now next }

def fresh : System :=
  { globals := ⟨⟨fun _ => none, none⟩, none⟩, active := [], phase := .idle }

end Iperf.Timers
