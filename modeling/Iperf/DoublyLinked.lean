import Mathlib.Logic.Function.Basic
import Mathlib.Data.List.Basic
import Mathlib.Data.List.Nodup

/-!
Doubly linked nodes in a heap of addresses. `Seg` reads a list off the pointers
between two ends, checking both directions; a `DList` owns the head pointer.
The writes a program makes to such a list answer `none` on a dangling pointer.
-/

namespace Iperf.DoublyLinked

abbrev Ptr := Nat

structure Node (Value : Type) where
  value : Value
  prev : Option Ptr
  next : Option Ptr
  deriving DecidableEq, Repr

abbrev Heap (Value : Type) := Ptr → Option (Node Value)

section Segments
variable {Value : Type} {heap heap' : Heap Value}

/-- The nodes from `start` up to `stop`, the first preceded by `prev` and the
last, or `prev` when there is none, being `last`. -/
def Seg (heap : Heap Value) (prev start : Option Ptr) :
    List (Ptr × Value) → Option Ptr → Option Ptr → Prop
  | [], last, stop => start = stop ∧ last = prev
  | cell :: rest, last, stop =>
      start = some cell.1 ∧ ∃ link, heap cell.1 = some ⟨cell.2, prev, link⟩ ∧
        Seg heap (some cell.1) link rest last stop

/-- A segment only reads its own nodes. -/
theorem seg_frame {cells : List (Ptr × Value)} {prev start last stop : Option Ptr}
    (seg : Seg heap prev start cells last stop)
    (same : ∀ q ∈ cells.map Prod.fst, heap' q = heap q) : Seg heap' prev start cells last stop := by
  induction cells generalizing prev start with
  | nil => exact seg
  | cons cell rest ih =>
      obtain ⟨starts, link, stored, follows⟩ := seg
      refine ⟨starts, link, ?_, ih follows fun q member => same q (List.mem_cons_of_mem _ member)⟩
      rw [same cell.1 (by simp), stored]

theorem seg_append {front back : List (Ptr × Value)} {prev start last stop : Option Ptr} :
    Seg heap prev start (front ++ back) last stop ↔
      ∃ p n, Seg heap prev start front p n ∧ Seg heap p n back last stop := by
  induction front generalizing prev start with
  | nil =>
      constructor
      · exact fun seg => ⟨prev, start, ⟨rfl, rfl⟩, seg⟩
      · rintro ⟨p, n, ⟨rfl, rfl⟩, seg⟩
        exact seg
  | cons cell rest ih =>
      constructor
      · rintro ⟨starts, link, stored, follows⟩
        obtain ⟨p, n, left, right⟩ := ih.mp follows
        exact ⟨p, n, ⟨starts, link, stored, left⟩, right⟩
      · rintro ⟨p, n, ⟨starts, link, stored, left⟩, right⟩
        exact ⟨starts, link, stored, ih.mpr ⟨p, n, left, right⟩⟩

theorem seg_stored {cells : List (Ptr × Value)} {prev start last stop : Option Ptr}
    (seg : Seg heap prev start cells last stop) {cell : Ptr × Value} (member : cell ∈ cells) :
    ∃ before after, heap cell.1 = some ⟨cell.2, before, after⟩ := by
  induction cells generalizing prev start with
  | nil => simp at member
  | cons first rest ih =>
      obtain ⟨_, link, stored, follows⟩ := seg
      rcases List.mem_cons.mp member with same | later
      · rw [same]
        exact ⟨prev, link, stored⟩
      · exact ih follows later

/-- Between NULL and NULL both links lead to neighbours that lead back. -/
theorem seg_neighbours {cells : List (Ptr × Value)} {start last : Option Ptr}
    (seg : Seg heap none start cells last none) {t : Ptr} {node : Node Value}
    (member : t ∈ cells.map Prod.fst) (stored : heap t = some node) :
    (∀ n, node.next = some n → n ∈ cells.map Prod.fst ∧
      ∃ after, heap n = some after ∧ after.prev = some t) ∧
    (∀ p, node.prev = some p → p ∈ cells.map Prod.fst ∧
      ∃ before, heap p = some before ∧ before.next = some t) := by
  obtain ⟨cell, inside, rfl⟩ := List.mem_map.mp member
  obtain ⟨front, back, rfl⟩ := List.append_of_mem inside
  obtain ⟨p, _, left, rfl, n, kept, right⟩ := seg_append.mp seg
  obtain rfl := Option.some.inj (stored.symm.trans kept)
  constructor
  · intro next same
    cases back with
    | nil => cases same.symm.trans right.1
    | cons second rest =>
        obtain ⟨starts, link, follows, _⟩ := right
        obtain rfl := Option.some.inj (same.symm.trans starts)
        exact ⟨by simp, _, follows, rfl⟩
  · -- The predecessor is the last node in front, so the list splits from its end.
    intro prev same
    rcases List.eq_nil_or_concat front with none | ⟨more, second, split⟩
    · subst none
      cases same.symm.trans left.2
    · rw [List.concat_eq_append] at split
      subst split
      obtain ⟨_, _, _, rfl, link, before, stops, ends⟩ := seg_append.mp left
      obtain rfl := Option.some.inj (same.symm.trans ends)
      exact ⟨by simp, _, before, stops⟩

theorem seg_head_prev {cells : List (Ptr × Value)} {start last : Option Ptr}
    (seg : Seg heap none start cells last none) {t : Ptr} {node : Node Value}
    (head : start = some t) (stored : heap t = some node) : node.prev = none := by
  cases cells with
  | nil => cases head.symm.trans seg.1
  | cons cell rest =>
      obtain ⟨starts, link, kept, _⟩ := seg
      obtain rfl := Option.some.inj (head.symm.trans starts)
      obtain rfl := Option.some.inj (stored.symm.trans kept)
      rfl

end Segments

structure DList (Value : Type) where
  heap : Heap Value
  head : Option Ptr

namespace DList
variable {Value : Type}

/-- `p->next = x`. -/
def setNext (list : DList Value) (p : Ptr) (x : Option Ptr) : Option (DList Value) :=
  match list.heap p with
  | none => none
  | some node =>
      some { list with heap := Function.update list.heap p (some { node with next := x }) }

/-- `p->prev = x`. -/
def setPrev (list : DList Value) (p : Ptr) (x : Option Ptr) : Option (DList Value) :=
  match list.heap p with
  | none => none
  | some node =>
      some { list with heap := Function.update list.heap p (some { node with prev := x }) }

/-- `t->prev = prev; t->next = next`. -/
def setLinks (list : DList Value) (t : Ptr) (prev next : Option Ptr) : Option (DList Value) :=
  match list.heap t with
  | none => none
  | some node =>
      some { list with
        heap := Function.update list.heap t (some { node with prev := prev, next := next }) }

/-- `if (p == NULL) head = x; else p->next = x;`. -/
def setForward (list : DList Value) (p x : Option Ptr) : Option (DList Value) :=
  match p with
  | none => some { list with head := x }
  | some q => list.setNext q x

/-- `if (n != NULL) n->prev = x;`. -/
def setBackward (list : DList Value) (n x : Option Ptr) : Option (DList Value) :=
  match n with
  | none => some list
  | some q => list.setPrev q x

structure Holds (list : DList Value) (cells : List (Ptr × Value)) : Prop where
  linked : ∃ last, Seg list.heap none list.head cells last none
  distinct : (cells.map Prod.fst).Nodup

variable {list : DList Value}

theorem Holds.frame {cells : List (Ptr × Value)} (holds : list.Holds cells) {heap : Heap Value}
    (same : ∀ q ∈ cells.map Prod.fst, heap q = list.heap q) :
    Holds { list with heap := heap } cells := by
  obtain ⟨⟨last, seg⟩, distinct⟩ := holds
  exact ⟨⟨last, seg_frame seg same⟩, distinct⟩

theorem Holds.stored {cells : List (Ptr × Value)} (holds : list.Holds cells) {t : Ptr}
    (member : t ∈ cells.map Prod.fst) : list.heap t ≠ none := by
  obtain ⟨cell, inside, rfl⟩ := List.mem_map.mp member
  obtain ⟨last, seg⟩ := holds.linked
  obtain ⟨_, _, stored⟩ := seg_stored seg inside
  simp [stored]

/-- Redirecting the end of a front segment from `n` to `x`. -/
theorem setForward_seg {front : List (Ptr × Value)} {p n : Option Ptr}
    (seg : Seg list.heap none list.head front p n) (distinct : (front.map Prod.fst).Nodup)
    (x : Option Ptr) :
    ∃ after, list.setForward p x = some after ∧ Seg after.heap none after.head front p x ∧
      ∀ q ∉ front.map Prod.fst, after.heap q = list.heap q := by
  rcases List.eq_nil_or_concat front with none | ⟨before, cell, split⟩
  · subst none
    obtain ⟨_, rfl⟩ := seg
    exact ⟨_, rfl, ⟨rfl, rfl⟩, fun _ _ => rfl⟩
  · rw [List.concat_eq_append] at split
    subst split
    obtain ⟨q, link, left, starts, next, stored, stops, rfl⟩ := seg_append.mp seg
    rw [List.map_append, List.nodup_append] at distinct
    have apart : ∀ r ∈ before.map Prod.fst, r ≠ cell.1 :=
      fun r member => distinct.2.2 r member cell.1 (by simp)
    refine ⟨_, by simp only [setForward, setNext, stored]; rfl, ?_, ?_⟩
    · refine seg_append.mpr ⟨q, link, seg_frame left fun r member => ?_, starts, x, ?_, rfl, rfl⟩
      · exact Function.update_of_ne (apart r member) _ _
      · simp
    · intro r outside
      refine Function.update_of_ne (fun same => outside ?_) _ _
      simp [same]

/-- Redirecting the start of a back segment from `p` to `x`. -/
theorem setBackward_seg {back : List (Ptr × Value)} {p n last : Option Ptr}
    (seg : Seg list.heap p n back last none) (distinct : (back.map Prod.fst).Nodup)
    (x : Option Ptr) :
    ∃ after, list.setBackward n x = some after ∧ after.head = list.head ∧
      (∃ last', Seg after.heap x n back last' none) ∧
      ∀ q ∉ back.map Prod.fst, after.heap q = list.heap q := by
  cases back with
  | nil =>
      obtain ⟨rfl, _⟩ := seg
      exact ⟨list, rfl, rfl, ⟨x, rfl, rfl⟩, fun _ _ => rfl⟩
  | cons cell rest =>
      obtain ⟨rfl, link, stored, follows⟩ := seg
      rw [List.map_cons, List.nodup_cons] at distinct
      have writes : list.setBackward (some cell.1) x =
          some { list with heap := Function.update list.heap cell.1 (some ⟨cell.2, x, link⟩) } := by
        simp only [setBackward, setPrev, stored]
      refine ⟨_, writes, rfl, ⟨last, rfl, link, ?_, ?_⟩, ?_⟩
      · simp
      · refine seg_frame follows fun q member => Function.update_of_ne (fun same => ?_) _ _
        exact distinct.1 (same ▸ member)
      · intro q outside
        refine Function.update_of_ne (fun same => outside ?_) _ _
        simp [same]

def setValue (list : DList Value) (t : Ptr) (value : Value) : Option (DList Value) :=
  match list.heap t with
  | none => none
  | some node =>
      some { list with heap := Function.update list.heap t (some { node with value := value }) }

theorem setValue_holds {front back : List (Ptr × Value)} {t : Ptr} {old : Value}
    (holds : list.Holds (front ++ (t, old) :: back)) (value : Value) :
    ∃ after, list.setValue t value = some after ∧ after.Holds (front ++ (t, value) :: back) ∧
      ∀ q ≠ t, after.heap q = list.heap q := by
  obtain ⟨⟨last, seg⟩, distinct⟩ := holds
  obtain ⟨p, _, left, rfl, n, stored, right⟩ := seg_append.mp seg
  have apart := distinct
  simp only [List.map_append, List.map_cons, List.nodup_append, List.nodup_cons] at apart
  obtain ⟨_, ⟨backFresh, _⟩, apart⟩ := apart
  dsimp only at stored
  refine ⟨_, by simp only [setValue, stored]; rfl, ⟨⟨last, ?_⟩, ?_⟩, ?_⟩
  · refine seg_append.mpr ⟨p, some t, seg_frame left fun q member => ?_, rfl, n, ?_,
      seg_frame right fun q member => ?_⟩
    · exact Function.update_of_ne (apart q member t (by simp)) _ _
    · simp
    · exact Function.update_of_ne (fun same : q = t => backFresh (same ▸ member)) _ _
  · simpa using distinct
  · exact fun q other => Function.update_of_ne other _ _

/-- Unlinking a node: its neighbours, or the head, skip it. -/
def remove (list : DList Value) (t : Ptr) : Option (DList Value) :=
  match list.heap t with
  | none => none
  | some node =>
      (list.setForward node.prev node.next).bind fun skipped =>
        skipped.setBackward node.next node.prev

theorem remove_holds {front back : List (Ptr × Value)} {t : Ptr} {value : Value}
    (holds : list.Holds (front ++ (t, value) :: back)) :
    ∃ after, list.remove t = some after ∧ after.Holds (front ++ back) ∧
      ∀ q ∉ (front ++ back).map Prod.fst, after.heap q = list.heap q := by
  obtain ⟨⟨last, seg⟩, distinct⟩ := holds
  obtain ⟨p, _, left, rfl, n, stored, right⟩ := seg_append.mp seg
  simp only [List.map_append, List.map_cons, List.nodup_append, List.nodup_cons, List.mem_cons]
    at distinct
  obtain ⟨frontNodup, ⟨backFresh, backNodup⟩, apart⟩ := distinct
  dsimp only at stored right
  obtain ⟨skipped, forwards, front', frontFrame⟩ := setForward_seg left frontNodup n
  have backSame : ∀ q ∈ back.map Prod.fst, skipped.heap q = list.heap q := fun q member =>
    frontFrame q fun inFront => apart q inFront q (Or.inr member) rfl
  obtain ⟨after, backwards, head, ⟨last', back'⟩, backFrame⟩ :=
    setBackward_seg (seg_frame right backSame) backNodup p
  refine ⟨after, by simp [remove, stored, forwards, backwards], ⟨⟨last', ?_⟩, ?_⟩, ?_⟩
  · refine seg_append.mpr ⟨p, n, ?_, back'⟩
    rw [head]
    exact seg_frame front' fun q member =>
      backFrame q fun inBack => apart q member q (Or.inr inBack) rfl
  · rw [List.map_append, List.nodup_append]
    exact ⟨frontNodup, backNodup, fun a inFront b inBack => apart a inFront b (Or.inr inBack)⟩
  · intro q outside
    rw [List.map_append, List.mem_append, not_or] at outside
    rw [backFrame q outside.2, frontFrame q outside.1]

/-- Linking a node in between two neighbours, either of which may be missing. -/
def insert (list : DList Value) (t : Ptr) (prev next : Option Ptr) : Option (DList Value) :=
  (list.setForward prev (some t)).bind fun forward =>
    (forward.setLinks t prev next).bind fun linked => linked.setBackward next (some t)

theorem insert_holds {front back : List (Ptr × Value)} {t : Ptr} {node : Node Value}
    {p n last : Option Ptr} (left : Seg list.heap none list.head front p n)
    (right : Seg list.heap p n back last none)
    (distinct : ((front ++ back).map Prod.fst).Nodup) (stored : list.heap t = some node)
    (fresh : t ∉ (front ++ back).map Prod.fst) :
    ∃ after, list.insert t p n = some after ∧ after.Holds (front ++ (t, node.value) :: back) ∧
      ∀ q ∉ t :: (front ++ back).map Prod.fst, after.heap q = list.heap q := by
  rw [List.map_append, List.mem_append, not_or] at fresh
  rw [List.map_append, List.nodup_append] at distinct
  obtain ⟨frontNodup, backNodup, apart⟩ := distinct
  obtain ⟨forward, forwards, front', frontFrame⟩ := setForward_seg left frontNodup (some t)
  have atNode : forward.heap t = some node := (frontFrame t fresh.1).trans stored
  let linked : DList Value :=
    { forward with
      heap := Function.update forward.heap t (some { node with prev := p, next := n }) }
  have links : forward.setLinks t p n = some linked := by simp only [setLinks, atNode, linked]
  -- Three writes in the order of the program: forward link, own links, backward link.
  have untouched : ∀ q, q ≠ t → linked.heap q = forward.heap q :=
    fun q other => Function.update_of_ne other _ _
  have backSame : ∀ q ∈ back.map Prod.fst, linked.heap q = list.heap q := by
    intro q member
    rw [untouched q fun same => fresh.2 (same ▸ member),
      frontFrame q fun inFront => apart q inFront q member rfl]
  obtain ⟨after, backwards, head, ⟨last', back'⟩, backFrame⟩ :=
    setBackward_seg (seg_frame right backSame) backNodup (some t)
  have frontKept : ∀ q ∈ front.map Prod.fst, after.heap q = forward.heap q := by
    intro q member
    rw [backFrame q fun inBack => apart q member q inBack rfl,
      untouched q fun same => fresh.1 (same ▸ member)]
  refine ⟨after, by simp [insert, forwards, links, backwards], ⟨⟨last', ?_⟩, ?_⟩, ?_⟩
  · refine seg_append.mpr ⟨p, some t, ?_, rfl, n, ?_, back'⟩
    · rw [head]
      exact seg_frame front' frontKept
    · rw [backFrame t fresh.2]
      simp [linked]
  · simp only [List.map_append, List.map_cons, List.nodup_append, List.nodup_cons, List.mem_cons]
    refine ⟨frontNodup, ⟨fresh.2, backNodup⟩, fun a inFront b inBack => ?_⟩
    rcases inBack with same | inBack
    · exact fun equal => fresh.1 (same ▸ equal ▸ inFront)
    · exact apart a inFront b inBack
  · intro q outside
    simp only [List.mem_cons, List.map_append, List.mem_append, not_or] at outside
    rw [backFrame q outside.2.2, untouched q outside.1, frontFrame q outside.2.1]

/-- The values in the nodes, without the links. -/
def values (list : DList Value) (q : Ptr) : Option Value := (list.heap q).map Node.value

theorem values_update {t : Ptr} {node changed : Node Value} (stored : list.heap t = some node)
    (same : changed.value = node.value) :
    values { list with heap := Function.update list.heap t (some changed) } = list.values := by
  funext q
  by_cases here : q = t
  · subst here
    simp [values, stored, same]
  · simp [values, Function.update_of_ne here]

theorem setForward_values {p x : Option Ptr} {after : DList Value}
    (wrote : list.setForward p x = some after) : after.values = list.values := by
  cases p with
  | none =>
      obtain rfl := Option.some.inj wrote
      rfl
  | some q =>
      cases stored : list.heap q with
      | none => simp [setForward, setNext, stored] at wrote
      | some node =>
          simp only [setForward, setNext, stored, Option.some.injEq] at wrote
          subst wrote
          exact values_update stored rfl

theorem setBackward_values {n x : Option Ptr} {after : DList Value}
    (wrote : list.setBackward n x = some after) : after.values = list.values := by
  cases n with
  | none =>
      obtain rfl := Option.some.inj wrote
      rfl
  | some q =>
      cases stored : list.heap q with
      | none => simp [setBackward, setPrev, stored] at wrote
      | some node =>
          simp only [setBackward, setPrev, stored, Option.some.injEq] at wrote
          subst wrote
          exact values_update stored rfl

theorem setLinks_values {t : Ptr} {prev next : Option Ptr} {after : DList Value}
    (wrote : list.setLinks t prev next = some after) : after.values = list.values := by
  cases stored : list.heap t with
  | none => simp [setLinks, stored] at wrote
  | some node =>
      simp only [setLinks, stored, Option.some.injEq] at wrote
      subst wrote
      exact values_update stored rfl

/-- Linking a node writes links only. -/
theorem insert_values {t : Ptr} {prev next : Option Ptr} {after : DList Value}
    (inserted : list.insert t prev next = some after) : after.values = list.values := by
  obtain ⟨forward, forwards, rest⟩ := Option.bind_eq_some_iff.mp inserted
  obtain ⟨linked, links, backwards⟩ := Option.bind_eq_some_iff.mp rest
  rw [setBackward_values backwards, setLinks_values links, setForward_values forwards]

theorem remove_values {t : Ptr} {after : DList Value} (removed : list.remove t = some after) :
    after.values = list.values := by
  cases stored : list.heap t with
  | none => simp [remove, stored] at removed
  | some node =>
      simp only [remove, stored] at removed
      obtain ⟨skipped, forwards, backwards⟩ := Option.bind_eq_some_iff.mp removed
      rw [setBackward_values backwards, setForward_values forwards]

theorem setValue_values {t : Ptr} {value : Value} {after : DList Value}
    (wrote : list.setValue t value = some after) :
    after.values = Function.update list.values t (some value) := by
  cases stored : list.heap t with
  | none => simp [setValue, stored] at wrote
  | some node =>
      simp only [setValue, stored, Option.some.injEq] at wrote
      subst wrote
      funext q
      by_cases here : q = t
      · subst here
        simp [values]
      · simp [values, Function.update_of_ne here]

end DList

end Iperf.DoublyLinked
