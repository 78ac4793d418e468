import Mathlib.Logic.Function.Basic
import Mathlib.Data.List.Basic

/-!
Singly linked cells in a heap of addresses. `Chain` reads a list off a start
pointer by following `next` until NULL. A `Fifo` adds the tail pointer that
intrusive queues keep by hand; `Holds` says that both ends agree with the chain.
Operations answer `none` where the program would follow a dangling pointer.
-/

namespace Iperf.LinkedQueue

abbrev Ptr := Nat

structure Cell (Value : Type) where
  value : Value
  next : Option Ptr
  deriving DecidableEq, Repr

abbrev Heap (Value : Type) := Ptr → Option (Cell Value)

section Chains
variable {Value : Type}

def Chain (heap : Heap Value) : Option Ptr → List (Ptr × Value) → Prop
  | start, [] => start = none
  | start, cell :: rest =>
      start = some cell.1 ∧
        ∃ link, heap cell.1 = some ⟨cell.2, link⟩ ∧ Chain heap link rest

/-- A chain only reads the cells on it. -/
theorem chain_frame {heap heap' : Heap Value} {start : Option Ptr}
    {cells : List (Ptr × Value)} (chain : Chain heap start cells)
    (same : ∀ cell ∈ cells, heap' cell.1 = heap cell.1) : Chain heap' start cells := by
  induction cells generalizing start with
  | nil => exact chain
  | cons cell rest ih =>
      obtain ⟨starts, link, stored, follows⟩ := chain
      refine ⟨starts, link, ?_, ih follows fun later member =>
        same later (List.mem_cons_of_mem cell member)⟩
      rw [same cell List.mem_cons_self, stored]

theorem chain_unique {heap : Heap Value} {start : Option Ptr}
    {left right : List (Ptr × Value)} (first : Chain heap start left)
    (second : Chain heap start right) : left = right := by
  induction left generalizing start right with
  | nil =>
      cases right with
      | nil => rfl
      | cons cell rest =>
          obtain ⟨starts, _⟩ := second
          cases first.symm.trans starts
  | cons cell rest ih =>
      obtain ⟨starts, link, stored, follows⟩ := first
      cases right with
      | nil => cases (show start = none from second).symm.trans starts
      | cons other more =>
          obtain ⟨starts', link', stored', follows'⟩ := second
          have samePtr : cell.1 = other.1 := Option.some.inj (starts.symm.trans starts')
          rw [← samePtr] at stored'
          have sameCell := Option.some.inj (stored.symm.trans stored')
          have sameValue : cell.2 = other.2 := congrArg Cell.value sameCell
          have sameLink : link = link' := congrArg Cell.next sameCell
          rw [← sameLink] at follows'
          rw [ih follows follows', Prod.ext samePtr sameValue]

theorem apart_from {cells : List (Ptr × Value)} {p : Ptr} (outside : p ∉ cells.map Prod.fst)
    {cell : Ptr × Value} (member : cell ∈ cells) : p ≠ cell.1 := by
  intro same
  apply outside
  rw [same]
  exact List.mem_map_of_mem member

theorem chain_stored {heap : Heap Value} {start : Option Ptr}
    {cells : List (Ptr × Value)} (chain : Chain heap start cells)
    (cell : Ptr × Value) (member : cell ∈ cells) :
    ∃ link, heap cell.1 = some ⟨cell.2, link⟩ := by
  induction cells generalizing start with
  | nil => simp at member
  | cons first rest ih =>
      obtain ⟨_, link, stored, follows⟩ := chain
      rcases List.mem_cons.mp member with same | later
      · rw [same]
        exact ⟨link, stored⟩
      · exact ih follows later

theorem chain_suffix {heap : Heap Value} {start : Option Ptr}
    {front : List (Ptr × Value)} {cell : Ptr × Value} {back : List (Ptr × Value)}
    (chain : Chain heap start (front ++ cell :: back)) :
    Chain heap (some cell.1) (cell :: back) := by
  induction front generalizing start with
  | nil => exact ⟨rfl, chain.2⟩
  | cons first rest ih =>
      obtain ⟨_, _, _, follows⟩ := chain
      exact ih follows

theorem chain_start {heap : Heap Value} {start : Option Ptr} {cells : List (Ptr × Value)}
    (chain : Chain heap start cells) : start = (cells.map Prod.fst).head? := by
  cases cells with
  | nil => exact chain
  | cons cell rest => exact chain.1

/-- What stands behind any cell of a chain. -/
theorem chain_after {heap : Heap Value} {start : Option Ptr}
    {front : List (Ptr × Value)} {cell : Ptr × Value} {back : List (Ptr × Value)}
    (chain : Chain heap start (front ++ cell :: back)) :
    ∃ link, heap cell.1 = some ⟨cell.2, link⟩ ∧ Chain heap link back :=
  (chain_suffix chain).2

/-- A chain that ends in NULL cannot visit an address twice. -/
theorem chain_nodup {heap : Heap Value} {start : Option Ptr}
    {cells : List (Ptr × Value)} (chain : Chain heap start cells) :
    (cells.map Prod.fst).Nodup := by
  induction cells generalizing start with
  | nil => exact List.nodup_nil
  | cons cell rest ih =>
      obtain ⟨_, link, stored, follows⟩ := chain
      refine List.nodup_cons.mpr ⟨?_, ih follows⟩
      -- A second visit of the head would repeat the whole chain inside its own tail.
      intro member
      obtain ⟨again, inRest, same⟩ := List.mem_map.mp member
      obtain ⟨front, back, split⟩ := List.append_of_mem inRest
      have suffix := follows
      rw [split] at suffix
      have repeated := chain_suffix suffix
      rw [same] at repeated
      have whole : Chain heap (some cell.1) (cell :: rest) := ⟨rfl, link, stored, follows⟩
      have lengths := congrArg List.length (chain_unique whole repeated)
      simp only [split, List.length_cons, List.length_append] at lengths
      omega

theorem fresh_not_on_chain {heap : Heap Value} {start : Option Ptr}
    {cells : List (Ptr × Value)} (chain : Chain heap start cells) {fresh : Ptr}
    (unused : heap fresh = none) (cell : Ptr × Value) (member : cell ∈ cells) :
    cell.1 ≠ fresh := by
  intro same
  obtain ⟨link, stored⟩ := chain_stored chain cell member
  rw [same, unused] at stored
  cases stored

theorem chain_update_fresh {heap : Heap Value} {start : Option Ptr}
    {cells : List (Ptr × Value)} (chain : Chain heap start cells) {fresh : Ptr}
    (unused : heap fresh = none) (cell : Option (Cell Value)) :
    Chain (Function.update heap fresh cell) start cells :=
  chain_frame chain fun old member =>
    Function.update_of_ne (fresh_not_on_chain chain unused old member) _ _

/-- Whatever is written to the first cell, the rest of the chain stands. -/
theorem chain_update_head {heap : Heap Value} {start link : Option Ptr}
    {cell : Ptr × Value} {rest : List (Ptr × Value)}
    (chain : Chain heap start (cell :: rest)) (stored : heap cell.1 = some ⟨cell.2, link⟩)
    (replacement : Option (Cell Value)) :
    Chain (Function.update heap cell.1 replacement) link rest := by
  have distinct := chain_nodup chain
  obtain ⟨_, link', stored', follows⟩ := chain
  have sameLink : link' = link :=
    congrArg Cell.next (Option.some.inj (stored'.symm.trans stored))
  rw [sameLink] at follows
  have outside := (List.nodup_cons.mp distinct).1
  exact chain_frame follows fun later member =>
    Function.update_of_ne (apart_from outside member).symm _ _

/-- Linking a stored cell behind the old last one. -/
theorem chain_link_last {heap : Heap Value} {start : Option Ptr}
    {front : List (Ptr × Value)} {last : Ptr × Value}
    (chain : Chain heap start (front ++ [last]))
    {fresh : Ptr} {value : Value} (stored : heap fresh = some ⟨value, none⟩)
    (apart : ∀ cell ∈ front ++ [last], cell.1 ≠ fresh) :
    Chain (Function.update heap last.1 (some ⟨last.2, some fresh⟩)) start
      (front ++ [last] ++ [(fresh, value)]) := by
  have distinct := chain_nodup chain
  induction front generalizing start with
  | nil =>
      have away : fresh ≠ last.1 := Ne.symm (apart last (by simp))
      refine ⟨chain.1, some fresh, by simp, rfl, none, ?_, rfl⟩
      simpa [Function.update_of_ne away] using stored
  | cons cell rest ih =>
      obtain ⟨starts, between, kept, follows⟩ := chain
      rw [List.cons_append, List.map_cons, List.nodup_cons] at distinct
      have away : cell.1 ≠ last.1 := apart_from distinct.1 (by simp)
      refine ⟨starts, between, ?_, ih follows (fun later member => apart later ?_) distinct.2⟩
      · rw [Function.update_of_ne away]
        exact kept
      · exact List.mem_cons_of_mem cell member

/-- A fresh cell in front of the chain. -/
theorem chain_push {heap : Heap Value} {start : Option Ptr} {cells : List (Ptr × Value)}
    (chain : Chain heap start cells) {fresh : Ptr} (unused : heap fresh = none) (value : Value) :
    Chain (Function.update heap fresh (some ⟨value, start⟩)) (some fresh)
      ((fresh, value) :: cells) :=
  ⟨rfl, start, by simp, chain_update_fresh chain unused _⟩

/-- Unlinking and freeing a cell that has another one in front of it. -/
theorem chain_unlink {heap : Heap Value} {start link : Option Ptr}
    {front rest : List (Ptr × Value)} {before cell : Ptr × Value}
    (chain : Chain heap start (front ++ before :: cell :: rest))
    (stored : heap cell.1 = some ⟨cell.2, link⟩) :
    Chain (Function.update
        (Function.update heap before.1 (some ⟨before.2, link⟩)) cell.1 none) start
      (front ++ before :: rest) := by
  have distinct := chain_nodup chain
  induction front generalizing start with
  | nil =>
      simp only [List.nil_append, List.map_cons, List.nodup_cons, List.mem_cons, not_or]
        at distinct
      obtain ⟨⟨apart, beforeFresh⟩, cellFresh, _⟩ := distinct
      obtain ⟨starts, between, _, _, link', stored', follows⟩ := chain
      have sameLink : link' = link :=
        congrArg Cell.next (Option.some.inj (stored'.symm.trans stored))
      rw [sameLink] at follows
      refine ⟨starts, link, by simp [Function.update_of_ne apart], ?_⟩
      -- Neither write reaches the cells behind the unlinked one.
      refine chain_frame follows fun later member => ?_
      rw [Function.update_of_ne, Function.update_of_ne]
      · exact (apart_from beforeFresh member).symm
      · exact (apart_from cellFresh member).symm
  | cons first more ih =>
      obtain ⟨starts, between, kept, follows⟩ := chain
      rw [List.cons_append, List.map_cons, List.nodup_cons] at distinct
      have awayBefore : first.1 ≠ before.1 := apart_from distinct.1 (by simp)
      have awayCell : first.1 ≠ cell.1 := apart_from distinct.1 (by simp)
      refine ⟨starts, between, ?_, ih follows distinct.2⟩
      rw [Function.update_of_ne awayCell, Function.update_of_ne awayBefore]
      exact kept

end Chains

structure Fifo (Value : Type) where
  heap : Heap Value
  head : Option Ptr
  tail : Option Ptr

namespace Fifo
variable {Value : Type}

def empty : Fifo Value := ⟨fun _ => none, none, none⟩

/-- Append a freshly allocated cell:
`if (!tail) head = tail = n; else { tail->next = n; tail = n; }`. -/
def append (queue : Fifo Value) (fresh : Ptr) (value : Value) : Option (Fifo Value) :=
  let heap := Function.update queue.heap fresh (some ⟨value, none⟩)
  match queue.tail with
  | none => some ⟨heap, some fresh, some fresh⟩
  | some last =>
      match heap last with
      | none => none
      | some old =>
          some ⟨Function.update heap last (some ⟨old.value, some fresh⟩), queue.head, some fresh⟩

/-- Unlink and free the head: `head = n->next; if (!head) tail = NULL; free(n);`. -/
def dropHead (queue : Fifo Value) (first : Ptr) (cell : Cell Value) : Fifo Value :=
  { heap := Function.update queue.heap first none
    head := cell.next
    tail := if cell.next = none then none else queue.tail }

structure Holds (queue : Fifo Value) (cells : List (Ptr × Value)) : Prop where
  chain : Chain queue.heap queue.head cells
  tail : queue.tail = (cells.map Prod.fst).getLast?

theorem empty_holds : (empty : Fifo Value).Holds [] := ⟨rfl, rfl⟩

theorem Holds.head_none_iff {queue : Fifo Value} {cells : List (Ptr × Value)}
    (holds : queue.Holds cells) : queue.head = none ↔ cells = [] := by
  obtain ⟨chain, _⟩ := holds
  cases cells with
  | nil => simpa [Chain] using chain
  | cons cell rest => simp [chain.1]

theorem Holds.tail_none_iff {queue : Fifo Value} {cells : List (Ptr × Value)}
    (holds : queue.Holds cells) : queue.tail = none ↔ queue.head = none := by
  rw [holds.head_none_iff, holds.tail]
  simp

/-- Appending succeeds and adds one cell at the end. -/
theorem append_holds {queue : Fifo Value} {cells : List (Ptr × Value)}
    (holds : queue.Holds cells) {fresh : Ptr} (unused : queue.heap fresh = none)
    (value : Value) :
    ∃ after, queue.append fresh value = some after ∧ after.Holds (cells ++ [(fresh, value)]) := by
  obtain ⟨chain, tail⟩ := holds
  rcases List.eq_nil_or_concat cells with none | ⟨front, last, split⟩
  · subst none
    refine ⟨⟨Function.update queue.heap fresh (some ⟨value, none⟩), some fresh, some fresh⟩,
      by simp [append, tail], ⟨rfl, none, by simp, rfl⟩, rfl⟩
  · rw [List.concat_eq_append] at split
    subst split
    have wider := chain_update_fresh chain unused (some ⟨value, none⟩)
    obtain ⟨link, atLast⟩ := chain_stored wider last (by simp)
    have ended : queue.tail = some last.1 := by
      rw [tail]
      simp
    refine ⟨_, by simp only [append, ended, atLast]; rfl, ?_, by simp⟩
    exact chain_link_last wider (by simp) (fresh_not_on_chain chain unused)

theorem dropHead_holds {queue : Fifo Value} {first : Ptr} (cell : Cell Value)
    {rest : List (Ptr × Value)} (holds : queue.Holds ((first, cell.value) :: rest))
    (stored : queue.heap first = some cell) : (queue.dropHead first cell).Holds rest := by
  obtain ⟨chain, tail⟩ := holds
  have follows := chain_update_head chain stored none
  refine ⟨follows, ?_⟩
  cases rest with
  | nil =>
      have last : cell.next = none := follows
      simp [dropHead, last]
  | cons second more =>
      have linked : cell.next = some second.1 := follows.1
      simp only [dropHead, linked, reduceCtorEq, if_false, tail]
      simp [List.getLast?_cons]

/-- Rewriting the payload of the head in place. -/
theorem writeHead_holds {queue : Fifo Value} {first : Ptr} (cell : Cell Value)
    {rest : List (Ptr × Value)} (holds : queue.Holds ((first, cell.value) :: rest))
    (stored : queue.heap first = some cell) (value : Value) :
    ({ queue with
        heap := Function.update queue.heap first (some ⟨value, cell.next⟩) }).Holds
      ((first, value) :: rest) := by
  obtain ⟨chain, tail⟩ := holds
  have follows := chain_update_head chain stored (some ⟨value, cell.next⟩)
  exact ⟨⟨chain.1, cell.next, by simp, follows⟩, tail⟩

end Fifo

end Iperf.LinkedQueue
