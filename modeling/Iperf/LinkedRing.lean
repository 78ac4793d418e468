import Iperf.DoublyLinked

/-!
Rings of doubly linked nodes: the first node leads back to the last one, and the last
node leads nowhere. Whoever has the first node can append and remove in constant time.
-/

namespace Iperf.LinkedRing

open DoublyLinked

section Writes
variable {Value : Type} {heap : Heap Value} {f : Node Value → Node Value} {p q : Ptr}

def edited (heap : Heap Value) (p : Ptr) (f : Node Value → Node Value) : Heap Value :=
  fun q => if q = p then (heap q).map f else heap q

@[simp] theorem edited_same : edited heap p f p = (heap p).map f := if_pos rfl

theorem edited_other (other : q ≠ p) : edited heap p f q = heap q := if_neg other

theorem edited_none : edited heap p f q = none ↔ heap q = none := by
  unfold edited
  split <;> simp

theorem edited_congr {g : Node Value → Node Value}
    (same : ∀ node, heap p = some node → f node = g node) : edited heap p f = edited heap p g := by
  funext q
  unfold edited
  split
  · rename_i here
    subst here
    cases held : heap q with
    | none => rfl
    | some node => exact congrArg some (same node held)
  · rfl

end Writes

section Redirected
variable {Value : Type} {heap heap' : Heap Value} {cells : List (Ptr × Value)}
variable {prev start last stop : Option Ptr}

theorem seg_last (seg : Seg heap prev start cells last stop) (some_cell : cells ≠ []) :
    last = (cells.getLast some_cell).1 := by
  obtain ⟨front, cell, rfl⟩ := List.eq_nil_or_concat cells |>.resolve_left some_cell
  obtain ⟨_, _, _, _, _, _, _, ends⟩ := seg_append.mp (List.concat_eq_append ▸ seg)
  simpa using ends

theorem seg_first (seg : Seg heap prev start cells last stop) (some_cell : cells ≠ []) :
    start = (cells.head some_cell).1 := by
  cases cells with
  | nil => exact absurd rfl some_cell
  | cons cell rest => exact seg.1

/-- The last node is sent on to another one. -/
theorem seg_next (seg : Seg heap prev start cells (some p) stop)
    (some_cell : cells ≠ []) (distinct : (cells.map Prod.fst).Nodup) (x : Option Ptr) :
    Seg (edited heap p fun node => { node with next := x }) prev start cells (some p) x := by
  induction cells generalizing prev start with
  | nil => exact absurd rfl some_cell
  | cons cell rest ih =>
      obtain ⟨starts, link, stored, follows⟩ := seg
      rw [List.map_cons, List.nodup_cons] at distinct
      cases rest with
      | nil =>
          obtain ⟨-, ends⟩ := follows
          obtain rfl := Option.some.inj ends
          exact ⟨starts, x, by simp [stored], rfl, rfl⟩
      | cons second more =>
          have later : p ∈ (second :: more).map Prod.fst := by
            rw [Option.some.inj (seg_last follows (List.cons_ne_nil _ _))]
            exact List.mem_map_of_mem (List.getLast_mem _)
          have other : cell.1 ≠ p := fun same => distinct.1 (same ▸ later)
          exact ⟨starts, link, (edited_other other).trans stored,
            ih follows (List.cons_ne_nil _ _) distinct.2⟩

/-- The first node is given another predecessor. -/
theorem seg_prev (seg : Seg heap prev (some p) cells last stop)
    (some_cell : cells ≠ []) (distinct : (cells.map Prod.fst).Nodup) (x : Option Ptr) :
    Seg (edited heap p fun node => { node with prev := x }) x (some p) cells last stop := by
  cases cells with
  | nil => exact absurd rfl some_cell
  | cons cell rest =>
      obtain ⟨starts, link, stored, follows⟩ := seg
      obtain rfl := Option.some.inj starts
      rw [List.map_cons, List.nodup_cons] at distinct
      refine ⟨rfl, link, by simp [stored], seg_frame follows fun q member => ?_⟩
      exact edited_other fun same => distinct.1 (same ▸ member)

/-- Another value in one of the nodes. -/
theorem seg_value {front back : List (Ptr × Value)} {t : Ptr} {old value : Value}
    (seg : Seg heap prev start (front ++ (t, old) :: back) last stop)
    (wrote : heap' t = (heap t).map fun node => { node with value := value })
    (same : ∀ q ∈ (front ++ back).map Prod.fst, heap' q = heap q) :
    Seg heap' prev start (front ++ (t, value) :: back) last stop := by
  rw [List.map_append] at same
  obtain ⟨p, n, left, starts, link, stored, follows⟩ := seg_append.mp seg
  refine seg_append.mpr ⟨p, n, seg_frame left fun q member => ?_, starts, link, ?_,
    seg_frame follows fun q member => ?_⟩
  · exact same q (List.mem_append_left _ member)
  · rw [wrote, stored]
    rfl
  · exact same q (List.mem_append_right _ member)

end Redirected

section Rings
variable {Value : Type} {heap : Heap Value} {start : Option Ptr}
variable {cells front back : List (Ptr × Value)} {t : Ptr} {value : Value}

def Ringed (heap : Heap Value) (start : Option Ptr) (cells : List (Ptr × Value)) : Prop :=
  ∃ last, Seg heap last start cells last none

theorem Ringed.frame {heap' : Heap Value} (ring : Ringed heap start cells)
    (same : ∀ q ∈ cells.map Prod.fst, heap' q = heap q) : Ringed heap' start cells := by
  obtain ⟨last, seg⟩ := ring
  exact ⟨last, seg_frame seg same⟩

theorem Ringed.stored (ring : Ringed heap start cells) {q : Ptr} (member : q ∈ cells.map Prod.fst) :
    heap q ≠ none := by
  obtain ⟨last, seg⟩ := ring
  obtain ⟨cell, inside, rfl⟩ := List.mem_map.mp member
  obtain ⟨before, after, held⟩ := seg_stored seg inside
  simp [held]

theorem Ringed.store {heap' : Heap Value} {old : Value}
    (ring : Ringed heap start (front ++ (t, old) :: back))
    (wrote : heap' t = (heap t).map fun node => { node with value := value })
    (same : ∀ q ∈ (front ++ back).map Prod.fst, heap' q = heap q) :
    Ringed heap' start (front ++ (t, value) :: back) := by
  obtain ⟨last, seg⟩ := ring
  exact ⟨last, seg_value seg wrote same⟩

theorem ringed_nil (heap : Heap Value) : Ringed heap none [] := ⟨none, rfl, rfl⟩

/-- A node on its own is its own predecessor. -/
theorem ring_single {node : Node Value} (stored : heap t = some node) :
    Ringed (edited (edited heap t fun node => { node with prev := some t }) t
      fun node => { node with next := none }) (some t) [(t, node.value)] :=
  ⟨some t, rfl, none, by simp [stored], rfl, rfl⟩

/-- Appending: the node before the first one is the last one. -/
theorem ring_push {first : Ptr} {node : Node Value} (ring : Ringed heap (some first) cells)
    (distinct : (cells.map Prod.fst).Nodup) (fresh : t ∉ cells.map Prod.fst)
    (stored : heap t = some node) (ends : node.next = none) :
    ∃ last value next, heap first = some ⟨value, some last, next⟩ ∧
      last ∈ cells.map Prod.fst ∧ first ∈ cells.map Prod.fst ∧
      Ringed (edited (edited (edited heap last fun node => { node with next := some t }) t
        fun node => { node with prev := some last }) first
        fun node => { node with prev := some t }) (some first) (cells ++ [(t, node.value)]) := by
  obtain ⟨last, seg⟩ := ring
  have some_cell : cells ≠ [] := by
    rintro rfl
    cases seg.1
  have at_last := seg_last seg some_cell
  have at_first := Option.some.inj (seg_first seg some_cell)
  subst at_last
  have last_in : (cells.getLast some_cell).1 ∈ cells.map Prod.fst :=
    List.mem_map_of_mem (List.getLast_mem _)
  have first_in : first ∈ cells.map Prod.fst :=
    at_first ▸ List.mem_map_of_mem (List.head_mem _)
  obtain ⟨value, next, kept⟩ : ∃ value next,
      heap first = some ⟨value, some (cells.getLast some_cell).1, next⟩ := by
    cases cells with
    | nil => exact absurd rfl some_cell
    | cons cell rest =>
        obtain ⟨starts, link, held, -⟩ := seg
        obtain rfl := Option.some.inj starts
        exact ⟨_, _, held⟩
  have sent := seg_next seg some_cell distinct (some t)
  have other : (cells.getLast some_cell).1 ≠ t := fun same => fresh (same ▸ last_in)
  have joined : Seg (edited (edited heap (cells.getLast some_cell).1
      fun node => { node with next := some t }) t
      fun node => { node with prev := some (cells.getLast some_cell).1 })
      (some (cells.getLast some_cell).1) (some first) (cells ++ [(t, node.value)]) (some t) none := by
    refine seg_append.mpr ⟨_, _, seg_frame sent fun q member => ?_, rfl, none, ?_, rfl, rfl⟩
    · exact edited_other fun same => fresh (same ▸ member)
    · rw [edited_same, edited_other (Ne.symm other), stored]
      simp [ends]
  refine ⟨_, value, next, kept, last_in, first_in, some t, seg_prev joined (by simp) ?_ _⟩
  rw [List.map_append, List.nodup_append]
  refine ⟨distinct, by simp, ?_⟩
  rintro a member b (_ | ⟨_, ⟨⟩⟩) rfl
  exact fresh member

end Rings

end Iperf.LinkedRing
