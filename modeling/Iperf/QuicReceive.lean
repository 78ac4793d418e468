import Mathlib.Algebra.GroupWithZero.Nat
import Iperf.Transition
import Iperf.QuicStream

/-!
The receive queue of a QUIC stream is a byte FIFO. `Reads` ties the chunk list
to the bytes not yet handed out; the copy loop consumes a prefix of them, the
RECEIVE callback appends to them, and no other step touches the queue.
-/

namespace Iperf.QuicReceive

open LinkedQueue QuicStream Transition

abbrev Cells := List (Ptr × quic_recv_chunk)

def unread (cells : Cells) : List UInt8 :=
  cells.flatMap fun cell => cell.2.data.drop cell.2.off

def unreadSize (cells : Cells) : Nat :=
  (cells.map fun cell => cell.2.len - cell.2.off).sum

theorem unread_cons (c : Ptr) (chunk : quic_recv_chunk) (rest : Cells) :
    unread ((c, chunk) :: rest) = chunk.data.drop chunk.off ++ unread rest := rfl

def Sound (cells : Cells) : Prop :=
  ∀ cell ∈ cells, cell.2.data.length = cell.2.len ∧ cell.2.off ≤ cell.2.len

theorem unread_length (cells : Cells) (sound : Sound cells) :
    (unread cells).length = unreadSize cells := by
  induction cells with
  | nil => rfl
  | cons cell rest ih =>
      have tail := ih fun later member => sound later (List.mem_cons_of_mem cell member)
      have head := (sound cell List.mem_cons_self).1
      simp only [unread, unreadSize, List.flatMap_cons, List.map_cons, List.sum_cons,
        List.length_append, List.length_drop] at tail ⊢
      omega

/-- Chunk list, byte counter and contents of the queue, in step with each other. -/
structure Reads (chunks : Fifo quic_recv_chunk) (queued : Nat) (cells : Cells) : Prop where
  holds : chunks.Holds cells
  sound : Sound cells
  queued : queued = unreadSize cells

theorem Sound.tail {cell : Ptr × quic_recv_chunk} {rest : Cells}
    (sound : Sound (cell :: rest)) : Sound rest :=
  fun later member => sound later (List.mem_cons_of_mem cell member)

/-- One iteration: the head chunk gives what it can. It is dropped when that
exhausts it and stays, with its offset moved, when the block is full first. -/
theorem copyChunk_again (want : Nat) (c : Ptr) (chunk : quic_recv_chunk) (rest : Cells)
    (copy : Copy) (reads : Reads copy.chunks copy.queued ((c, chunk) :: rest))
    (more : copy.got < want) :
    ∃ next take, copyChunk want copy = some (.again next) ∧
      take = min (want - copy.got) (chunk.len - chunk.off) ∧
      next.got = copy.got + take ∧
      next.buffer = copy.buffer ++ (chunk.data.drop chunk.off).take take ∧
      (take = chunk.len - chunk.off ∧ Reads next.chunks next.queued rest ∨
        take < chunk.len - chunk.off ∧ Reads next.chunks next.queued
          ((c, { chunk with off := chunk.off + take }) :: rest)) := by
  obtain ⟨holds, sound, queued⟩ := reads
  obtain ⟨sized, inside⟩ := sound (c, chunk) List.mem_cons_self
  have starts : copy.chunks.head = some c := holds.chain.1
  obtain ⟨link, stored⟩ := chain_stored holds.chain (c, chunk) List.mem_cons_self
  dsimp only at sized inside stored
  simp only [unreadSize, List.map_cons, List.sum_cons] at queued
  -- The offset is written first; an exhausted chunk is then dropped as written.
  let take := min (want - copy.got) (chunk.len - chunk.off)
  have atMost : take ≤ chunk.len - chunk.off := Nat.min_le_right _ _
  let moved : quic_recv_chunk := { chunk with off := chunk.off + take }
  have written := Fifo.writeHead_holds ⟨chunk, link⟩ holds stored moved
  refine ⟨_, take, by simp only [copyChunk, more, if_true, starts, stored]; rfl, rfl, rfl, rfl, ?_⟩
  by_cases exhausted : take = chunk.len - chunk.off
  · refine Or.inl ⟨exhausted, ?_, sound.tail, ?_⟩
    · have ended : chunk.off + take = chunk.len := by omega
      have dropped := Fifo.dropHead_holds ⟨moved, link⟩ written (by simp)
      simpa [take, moved, ended, starts] using dropped
    · dsimp only
      rw [queued, ← unreadSize]
      omega
  · refine Or.inr ⟨by omega, ?_, ?_, ?_⟩
    · have unfinished : chunk.off + take ≠ chunk.len := by omega
      simpa [take, moved, unfinished, starts] using written
    · intro cell member
      rcases List.mem_cons.mp member with same | later
      · rw [same]
        exact ⟨sized, by dsimp only; omega⟩
      · exact sound.tail cell later
    · simp only [unreadSize, List.map_cons, List.sum_cons]
      rw [queued]
      omega

/-- The copy loop takes the first `want - got` unread bytes, splitting the last
chunk it reads and dropping every chunk it exhausts. -/
theorem copy_returns (want : Nat) (cells : Cells) (copy : Copy)
    (reads : Reads copy.chunks copy.queued cells) (below : copy.got ≤ want)
    (enough : want ≤ copy.got + unreadSize cells) :
    ∃ result rest, Loop.Returns (copyChunk want) copy result ∧
      Reads result.chunks result.queued rest ∧ result.got = want ∧
      result.buffer = copy.buffer ++ (unread cells).take (want - copy.got) ∧
      unread rest = (unread cells).drop (want - copy.got) := by
  induction cells generalizing copy with
  | nil =>
      simp only [unreadSize, List.map_nil, List.sum_nil] at enough
      have full : ¬ copy.got < want := by omega
      exact ⟨copy, [], Loop.returns_done (by simp [copyChunk, full]), reads, by omega,
        by simp [unread], by simp [unread]⟩
  | cons cell rest ih =>
      by_cases more : copy.got < want
      · obtain ⟨c, chunk⟩ := cell
        obtain ⟨sized, inside⟩ := reads.sound (c, chunk) List.mem_cons_self
        dsimp only at sized inside
        simp only [unreadSize, List.map_cons, List.sum_cons] at enough
        obtain ⟨next, take, continues, least, got, buffer, outcome⟩ :=
          copyChunk_again want c chunk rest copy reads more
        have headBytes : (chunk.data.drop chunk.off).length = chunk.len - chunk.off := by
          rw [List.length_drop, sized]
        rcases outcome with ⟨exhausted, after⟩ | ⟨partly, after⟩
        · -- The head chunk is used up; the rest of the block comes from `rest`.
          obtain ⟨result, left, returns, readsLeft, filled, bytes, kept⟩ :=
            ih next after (by omega) (by simp only [unreadSize]; omega)
          have whole : (chunk.data.drop chunk.off).take take = chunk.data.drop chunk.off :=
            List.take_of_length_le (by omega)
          have remaining : want - next.got = want - copy.got - (chunk.len - chunk.off) := by omega
          refine ⟨result, left, Loop.returns_again continues returns, readsLeft, filled, ?_, ?_⟩
          · have all : (chunk.data.drop chunk.off).take (want - copy.got) =
                chunk.data.drop chunk.off := List.take_of_length_le (by omega)
            rw [bytes, buffer, whole, unread_cons, List.take_append, all, headBytes, remaining,
              List.append_assoc]
          · have none : (chunk.data.drop chunk.off).drop (want - copy.got) = [] :=
              List.drop_of_length_le (by omega)
            rw [kept, unread_cons, List.drop_append, none, headBytes, remaining, List.nil_append]
        · -- The block is full inside the head chunk, so the loop stops next.
          have filled : next.got = want := by omega
          have stops : Loop.Returns (copyChunk want) next next :=
            Loop.returns_done (by simp [copyChunk, filled])
          refine ⟨next, _, Loop.returns_again continues stops, after, filled, ?_, ?_⟩
          · have within : want - copy.got ≤ (chunk.data.drop chunk.off).length := by omega
            rw [buffer, unread_cons, List.take_append_of_le_length within,
              show want - copy.got = take by omega]
          · have within : want - copy.got ≤ (chunk.data.drop chunk.off).length := by omega
            rw [unread_cons, unread_cons, List.drop_append_of_le_length within, List.drop_drop,
              show want - copy.got = take by omega]
      · have none : want - copy.got = 0 := by omega
        exact ⟨copy, cell :: rest, Loop.returns_done (by simp [copyChunk, more]), reads,
          by omega, by simp [none], by simp [none]⟩

/-- A call that leaves the wait loop, for every budget that lets its copy loop
finish: it returns the first unread bytes and leaves the others. -/
theorem recv_returns {fuel blksize : Nat} {system after : System} {bytes : List UInt8}
    {cells : Cells} (reads : Reads system.sc.chunks system.sc.queued cells)
    (returned : iperf_quic_recv fuel blksize system = some (bytes, after)) :
    bytes = (unread cells).take (min blksize system.sc.queued) ∧
      ∃ rest, Reads after.sc.chunks after.sc.queued rest ∧ unread cells = bytes ++ unread rest := by
  by_cases none : system.sc.queued = 0
  · simp only [iperf_quic_recv, none, if_true, Option.some.injEq, Prod.mk.injEq] at returned
    obtain ⟨rfl, rfl⟩ := returned
    exact ⟨by simp [none], cells, reads, rfl⟩
  · simp only [iperf_quic_recv, none, if_false, Option.map_eq_some_iff, Prod.mk.injEq] at returned
    obtain ⟨copy, ran, rfl, rfl⟩ := returned
    obtain ⟨result, rest, returns, readsRest, _, buffer, kept⟩ :=
      copy_returns (min blksize system.sc.queued) cells
        ⟨system.sc.chunks, system.sc.queued, 0, []⟩ reads (Nat.zero_le _)
        (by rw [Nat.zero_add, ← reads.queued]; exact Nat.min_le_right _ _)
    obtain rfl : copy = result := Loop.Returns.unique ⟨fuel, ran⟩ returns
    simp only [List.nil_append, Nat.sub_zero] at buffer kept
    refine ⟨buffer, rest, readsRest, ?_⟩
    rw [buffer, kept, List.take_append_drop]

/-- With bytes queued, some budget lets the call return. -/
theorem recv_terminates (blksize : Nat) (system : System) (cells : Cells)
    (reads : Reads system.sc.chunks system.sc.queued cells) :
    ∃ fuel bytes after, iperf_quic_recv fuel blksize system = some (bytes, after) := by
  by_cases none : system.sc.queued = 0
  · exact ⟨0, [], system, by simp [iperf_quic_recv, none]⟩
  · obtain ⟨result, _, ⟨fuel, ran⟩, _⟩ :=
      copy_returns (min blksize system.sc.queued) cells
        ⟨system.sc.chunks, system.sc.queued, 0, []⟩ reads (Nat.zero_le _)
        (by rw [Nat.zero_add, ← reads.queued]; exact Nat.min_le_right _ _)
    exact ⟨fuel, _, _, by simp only [iperf_quic_recv, none, if_false, ran, Option.map_some]; rfl⟩

theorem receiveBuffer_reads {sc after : iperf_quic_stream_ctx} {cells : Cells} {chunk : Ptr}
    {buffer : List UInt8} (reads : Reads sc.chunks sc.queued cells)
    (unused : sc.chunks.heap chunk = none)
    (linked : receiveBuffer sc chunk buffer = some after) :
    Reads after.chunks after.queued (cells ++ [(chunk, ⟨buffer, buffer.length, 0⟩)]) := by
  obtain ⟨queue, appended, holds⟩ :=
    Fifo.append_holds reads.holds unused ⟨buffer, buffer.length, 0⟩
  simp only [receiveBuffer, appended, Option.map_some, Option.some.injEq] at linked
  subst linked
  refine ⟨holds, ?_, ?_⟩
  · intro cell member
    rcases List.mem_append.mp member with old | new
    · exact reads.sound cell old
    · rw [List.mem_singleton.mp new]
      exact ⟨rfl, Nat.zero_le _⟩
  · simp [unreadSize, reads.queued]

/-- The allocator's fresh chunk can always be linked: no pointer dangles. -/
theorem receiveBuffer_links {sc : iperf_quic_stream_ctx} {cells : Cells} {chunk : Ptr}
    (buffer : List UInt8) (reads : Reads sc.chunks sc.queued cells)
    (unused : sc.chunks.heap chunk = none) :
    ∃ after, receiveBuffer sc chunk buffer = some after := by
  obtain ⟨queue, appended, _⟩ :=
    Fifo.append_holds reads.holds unused ⟨buffer, buffer.length, 0⟩
  exact ⟨_, by rw [receiveBuffer, appended, Option.map_some]⟩

def receivedBytes : List Event → List UInt8 :=
  List.flatMap fun event => match event with
    | .receive _ buffer => buffer
    | _ => []

def returnedBytes : List Event → List UInt8 :=
  List.flatMap fun event => match event with
    | .recv _ bytes => bytes
    | _ => []

def Lossless (past : List Event) (system : System) : Prop :=
  ∃ cells, Reads system.sc.chunks system.sc.queued cells ∧
    returnedBytes past ++ unread cells = receivedBytes past

theorem fresh_lossless (blksize : Nat) (test_state : TestState.StateByte) :
    Lossless [] (fresh blksize test_state) :=
  ⟨[], ⟨Fifo.empty_holds, by simp [Sound], rfl⟩, rfl⟩

/-- Only two kinds of steps touch the queue; the others leave it as it is. -/
theorem step_lossless (past : List Event) (before : System) (event : Event) (after : System)
    (lossless : Lossless past before) (step : Step before event after) :
    Lossless (past ++ [event]) after := by
  obtain ⟨cells, reads, conserved⟩ := lossless
  cases step with
  | receive chunk buffer unused linked =>
      refine ⟨_, receiveBuffer_reads reads unused linked, ?_⟩
      simp only [receivedBytes, returnedBytes, unread, List.flatMap_append, List.flatMap_cons,
        List.flatMap_nil, List.append_nil, List.drop_zero] at conserved ⊢
      rw [← conserved, List.append_assoc]
  | recv fuel blksize idle ready returned =>
      obtain ⟨_, rest, readsRest, taken⟩ := recv_returns reads returned
      refine ⟨rest, readsRest, ?_⟩
      simp only [receivedBytes, returnedBytes, List.flatMap_append, List.flatMap_cons,
        List.flatMap_nil, List.append_nil] at conserved ⊢
      rw [← conserved, taken, List.append_assoc]
  | _ => exact ⟨cells, reads, by simpa [receivedBytes, returnedBytes] using conserved⟩

/-- The receive queue of a stream, over every interleaving of callbacks and
calls: a byte FIFO that loses nothing, with its four fields consistent, from
which a call takes a full block whenever one is queued. -/
theorem receive_queue_fifo (blksize : Nat) (test_state : TestState.StateByte)
    (past : List Event) (system : System)
    (run : Run Step (fresh blksize test_state) past system) :
    ∃ cells : Cells,
      returnedBytes past ++ unread cells = receivedBytes past ∧
      Chain system.sc.chunks.heap system.sc.chunks.head cells ∧ Sound cells ∧
      system.sc.queued = (cells.map fun cell => cell.2.len - cell.2.off).sum ∧
      system.sc.chunks.tail = (cells.map Prod.fst).getLast? ∧
      (system.sc.chunks.tail = none ↔ system.sc.chunks.head = none) ∧
      (∀ size bytes after, 0 < size → Step system (.recv size bytes) after →
        (0 < system.sc.queued → bytes.length = min size system.sc.queued) ∧
          (bytes.length = 0 → system.sc.queued = 0)) ∧
      (∀ size, system.phase = .idle → 0 < system.sc.queued →
        ∃ bytes after, Step system (.recv size bytes) after) ∧
      (∀ chunk buffer, system.sc.chunks.heap chunk = none →
        ∃ after, Step system (.receive chunk buffer) after) := by
  obtain ⟨cells, reads, conserved⟩ :=
    run.invariant Lossless (fresh_lossless blksize test_state) step_lossless
  refine ⟨cells, conserved, reads.holds.chain, reads.sound, reads.queued, reads.holds.tail,
    reads.holds.tail_none_iff, ?_, ?_, ?_⟩
  · intro size bytes after positive step
    cases step with
    | recv fuel _ idle ready returned =>
        have taken := (recv_returns reads returned).1
        have available : (unread cells).length = system.sc.queued := by
          rw [unread_length cells reads.sound, reads.queued]
        have length : bytes.length = min size system.sc.queued := by
          rw [taken, List.length_take, available]
          omega
        exact ⟨fun _ => length, fun none => by omega⟩
  · intro size idle some
    obtain ⟨fuel, bytes, after, returned⟩ := recv_terminates size system cells reads
    exact ⟨bytes, after, Step.recv fuel size idle (Or.inl (by omega)) returned⟩
  · intro chunk buffer unused
    obtain ⟨sc, linked⟩ := receiveBuffer_links buffer reads unused
    exact ⟨_, Step.receive chunk buffer unused linked⟩

/-- Three bytes arrive in one buffer and a call with block size two reads. -/
theorem receive_queue_fifo_sample :
    ∃ system, Run Step (fresh 2 TestState.TEST_RUNNING)
        [.receive 7 [1, 2, 3], .recv 2 [1, 2]] system ∧
      ∃ cells : Cells, [1, 2] ++ unread cells = [1, 2, 3] ∧
        Chain system.sc.chunks.heap system.sc.chunks.head cells := by
  have arrived := Run.next (.receive 7 [1, 2, 3]) (Run.start : Run Step
    (fresh 2 TestState.TEST_RUNNING) [] _) (Step.receive 7 [1, 2, 3] rfl rfl)
  have read := Run.next (.recv 2 [1, 2]) arrived (Step.recv 2 2 rfl (Or.inl (by decide)) rfl)
  obtain ⟨cells, conserved, chain, _⟩ := receive_queue_fifo 2 TestState.TEST_RUNNING _ _ read
  exact ⟨_, read, cells, conserved, chain⟩

end Iperf.QuicReceive
