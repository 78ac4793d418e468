import Iperf.Transition
import Iperf.QuicContext

/-!
The notification pipe of the accept queue. Each queued stream has written its
byte before the lock is released; an accept may be one byte ahead of the entry
it takes, and only while it is between its read and its locked block.
-/

namespace Iperf.QuicWakeup

open LinkedQueue QuicContext Transition

def Queued (system : System) (waiting : List (Ptr × Ptr)) : Prop :=
  Chain system.ctx.accept.heap system.ctx.accept.head waiting

/-- The queue is no longer than the pipe can notify. -/
def Fits (capacity : Nat) (system : System) : Prop :=
  ∀ waiting, Queued system waiting → waiting.length ≤ capacity

/-- `select` reports the read end of the pipe. -/
def readable (nfd : Pipe) : Bool := nfd.isOpen && decide (0 < nfd.bytes)

/-- The byte an accept has consumed for an entry it has not taken yet. -/
def ahead : Main → Nat
  | .accepting => 1
  | _ => 0

structure Notified (system : System) (waiting : List (Ptr × Ptr)) : Prop where
  queue : system.ctx.accept.Holds waiting
  enough : system.ctx.nfd.isOpen = true →
    waiting.length ≤ system.ctx.nfd.bytes + ahead system.main

section Steps
variable {capacity : Nat} {before : System} {waiting : List (Ptr × Ptr)}

theorem notify_pipe_bytes (capacity : Nat) (nfd : Pipe) (isOpen : nfd.isOpen = true) :
    (notify_pipe capacity nfd).bytes = nfd.bytes + 1 ∨
      capacity ≤ (notify_pipe capacity nfd).bytes := by
  by_cases room : nfd.bytes < capacity
  · exact Or.inl (by simp [notify_pipe, isOpen, room])
  · exact Or.inr (by simp [notify_pipe, isOpen, room]; omega)

theorem notify_pipe_isOpen (capacity : Nat) (nfd : Pipe) :
    (notify_pipe capacity nfd).isOpen = nfd.isOpen := by
  unfold notify_pipe
  split
  · split <;> rfl
  · rfl

/-- A byte is lost only when the pipe alone already covers the longer queue. -/
theorem peerStreamStarted_notified (notified : Notified before waiting) {sc node : Ptr}
    {ctx : iperf_quic_context} {contexts : List Ptr}
    (unused : before.ctx.accept.heap node = none)
    (queued : accept_enq capacity before.ctx node sc = some ctx)
    (fits : Fits capacity { before with ctx := ctx, contexts := contexts }) :
    Notified { before with ctx := ctx, contexts := contexts } (waiting ++ [(node, sc)]) := by
  obtain ⟨holds, same⟩ := accept_enq_waiting notified.queue unused queued
  refine ⟨holds, fun isOpen => ?_⟩
  have bounded := fits (waiting ++ [(node, sc)]) holds.chain
  have pipe : ctx.nfd = notify_pipe capacity before.ctx.nfd := by rw [same]
  have wasOpen : before.ctx.nfd.isOpen = true := by
    rw [← notify_pipe_isOpen capacity, ← pipe]
    exact isOpen
  have covered := notified.enough wasOpen
  simp only [List.length_append, List.length_singleton, pipe] at bounded ⊢
  -- A full pipe drops the byte, but then its bytes already cover the whole queue.
  rcases notify_pipe_bytes capacity before.ctx.nfd wasOpen with written | full
  · omega
  · omega

theorem acceptRead_notified (notified : Notified before waiting) (idle : before.main = .idle) :
    Notified { before with
      ctx := { before.ctx with nfd := drain before.ctx.nfd }, main := .accepting } waiting := by
  refine ⟨notified.queue, fun isOpen => ?_⟩
  have wasOpen : before.ctx.nfd.isOpen = true := by
    by_cases was : before.ctx.nfd.isOpen = true
    · exact was
    · simp [drain, was] at isOpen
  have covered := notified.enough wasOpen
  simp only [drain, wasOpen, if_true, ahead, idle] at covered ⊢
  omega

/-- The locked block takes one entry, which settles the byte read before it. -/
theorem accept_notified (notified : Notified before waiting) {ctx : iperf_quic_context}
    {node : Ptr} {result : Option (Int32 × Ptr)} (accepting : before.main = .accepting)
    (locked : acceptLocked before.ctx node = some (result, ctx)) :
    ∃ rest, Notified { before with ctx := ctx, main := .idle } rest := by
  rcases accept_deq_waiting notified.queue with
    ⟨none, empty⟩ | ⟨n, sc, rest, queue, split, holds, deq⟩
  · simp only [acceptLocked, empty, Option.some.injEq, Prod.mk.injEq] at locked
    obtain ⟨_, rfl⟩ := locked
    exact ⟨waiting, notified.queue, fun _ => by simp [none]⟩
  · simp only [acceptLocked, deq, Option.some.injEq, Prod.mk.injEq] at locked
    obtain ⟨_, rfl⟩ := locked
    refine ⟨rest, holds, fun isOpen => ?_⟩
    have covered := notified.enough isOpen
    rw [accepting, split] at covered
    simp only [ahead, List.length_cons] at covered ⊢
    exact Nat.le_of_succ_le_succ covered

theorem Notified.frame {after : System} (notified : Notified before waiting)
    (queue : after.ctx.accept = before.ctx.accept) (nfd : after.ctx.nfd = before.ctx.nfd)
    (main : ahead after.main = ahead before.main) : Notified after waiting := by
  constructor
  · rw [queue]
    exact notified.queue
  · rw [nfd, main]
    exact notified.enough

theorem step_notified {event : Event} {after : System} (notified : Notified before waiting)
    (step : Within (Fits capacity) (Step capacity) before event after) :
    ∃ rest, Notified after rest := by
  obtain ⟨step, fits⟩ := step
  cases step with
  | peerStreamStarted sc node fresh unused queued =>
      exact ⟨_, peerStreamStarted_notified notified unused queued fits⟩
  | acceptRead idle => exact ⟨_, acceptRead_notified notified idle⟩
  | accept node unused accepting locked => exact accept_notified notified accepting locked
  | connectOpen sc fresh idle => exact ⟨_, notified.frame rfl rfl (by simp [idle, ahead])⟩
  | connect node unused connecting =>
      exact ⟨_, notified.frame rfl rfl (by simp [connecting, ahead])⟩
  | @lookup ctx result fuel sp id idle unattached took =>
      obtain ⟨queue, nfd⟩ := map_take_frame took
      refine ⟨_, notified.frame queue nfd ?_⟩
      cases result <;> simp [idle, ahead, afterLookup]
  | attach attaching => exact ⟨_, notified.frame rfl rfl (by simp [attaching, ahead])⟩
  | closeListener idle => exact ⟨waiting, notified.queue, fun isOpen => by simp at isOpen⟩

end Steps

/-- No wake-up is lost: between accepts an open pipe holds at least a byte for
every queued stream, so `select` sees it, as long as the queue has always
fitted into the pipe. -/
theorem no_lost_wakeup (capacity : Nat) (past : List Event) (system : System)
    (run : Run (Within (Fits capacity) (Step capacity)) fresh past system)
    (outside : system.main ≠ .accepting) (isOpen : system.ctx.nfd.isOpen = true) :
    ∃ waiting, Queued system waiting ∧ waiting.length ≤ system.ctx.nfd.bytes ∧
      (waiting ≠ [] → readable system.ctx.nfd = true) := by
  obtain ⟨waiting, notified⟩ :=
    run.invariant (fun _ system => ∃ waiting, Notified system waiting)
      ⟨[], Fifo.empty_holds, fun _ => Nat.zero_le _⟩
      fun past before event after ⟨_, notified⟩ step => step_notified notified step
  have covered := notified.enough isOpen
  have none : ahead system.main = 0 := by
    unfold ahead
    split
    · contradiction
    · rfl
  rw [none, Nat.add_zero] at covered
  refine ⟨waiting, notified.queue.chain, covered, fun some => ?_⟩
  have positive := List.length_pos_iff.mpr some
  simp [readable, isOpen]
  omega

/-- Two peer streams arrive and one is accepted: the other stays announced. -/
theorem no_lost_wakeup_sample :
    ∃ system waiting, Queued system waiting ∧ waiting.length ≤ system.ctx.nfd.bytes ∧
      (waiting ≠ [] → readable system.ctx.nfd = true) := by
  have fits : ∀ {system : System} (cells : List (Ptr × Ptr)),
      Queued system cells → cells.length ≤ 4 → Fits 4 system := by
    intro system cells chain atMost waiting other
    rw [← chain_unique chain other]
    exact atMost
  have first := Run.next (.peerStreamStarted 7)
    (Run.start : Run (Within (Fits 4) (Step 4)) fresh [] _)
    ⟨Step.peerStreamStarted 7 20 (by decide) rfl rfl,
      fits [(20, 7)] ⟨rfl, _, rfl, rfl⟩ (by decide)⟩
  have second := Run.next (.peerStreamStarted 8) first
    ⟨Step.peerStreamStarted 8 21 (by decide) rfl rfl,
      fits [(20, 7), (21, 8)] ⟨rfl, _, rfl, rfl, _, rfl, rfl⟩ (by decide)⟩
  have read := Run.next .acceptRead second
    ⟨Step.acceptRead rfl,
      fits [(20, 7), (21, 8)] ⟨rfl, _, rfl, rfl, _, rfl, rfl⟩ (by decide)⟩
  have accepted := Run.next (.accept (some (1, 7))) read
    ⟨Step.accept 30 rfl rfl rfl, fits [(21, 8)] ⟨rfl, _, rfl, rfl⟩ (by decide)⟩
  exact ⟨_, no_lost_wakeup 4 _ _ accepted (by decide) rfl⟩

end Iperf.QuicWakeup
