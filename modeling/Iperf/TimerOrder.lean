import Mathlib.Data.List.Perm.Basic
import Iperf.Transition
import Iperf.Timers

/-!
The active timers stay a doubly linked list in firing order that holds exactly
the live timers, and the free list stays apart from it. `list_add` is shown to
be one insertion at the position its walk finds; every operation is then a
removal, an insertion, or both.
-/

namespace Iperf.TimerOrder

open DoublyLinked Timers Time Transition

abbrev Cells := List (Ptr × Timer)

/-- Neighbours fire in the order of their keys. -/
def Sorted (cells : Cells) : Prop :=
  cells.Pairwise fun earlier later => key earlier.2.time ≤ key later.2.time

/-- Nodes threaded through `next`. -/
def Threaded (heap : Heap Timer) : Option Ptr → List Ptr → Prop
  | start, [] => start = none
  | start, t :: rest => start = some t ∧ ∃ node, heap t = some node ∧ Threaded heap node.next rest

section Positions
variable {timers : DList Timer} {time : iperf_time}

/-- A place in the list: the neighbours `p` and `n` between `front` and `back`,
where everything in front is due no later and everything behind is due later. -/
structure Between (timers : DList Timer) (time : iperf_time) (p n : Option Ptr)
    (front back : Cells) : Prop where
  left : Seg timers.heap none timers.head front p n
  right : ∃ last, Seg timers.heap p n back last none
  before : ∀ cell ∈ front, key cell.2.time ≤ key time
  after : ∀ cell ∈ back, key time < key cell.2.time

/-- A timer that is due before the first of an ordered list is due before all. -/
theorem due_before_all {time : iperf_time} {cell : Ptr × Timer} {rest : Cells}
    (sorted : Sorted (cell :: rest)) (earlier : iperf_time_compare time cell.2.time < 0) :
    ∀ other ∈ cell :: rest, key time < key other.2.time := by
  have first := (compare_neg_iff _ _).mp earlier
  intro other member
  rcases List.mem_cons.mp member with same | later
  · rwa [same]
  · exact Nat.lt_of_lt_of_le first ((List.pairwise_cons.mp sorted).1 other later)

/-- The walk of `list_add`, with `passed` and the last compared node behind it. -/
theorem findStep_returns (time : iperf_time) (passed : Cells) (t2prev : Ptr × Timer) (rest : Cells)
    (n last : Option Ptr)
    (left : Seg timers.heap none timers.head (passed ++ [t2prev]) (some t2prev.1) n)
    (right : Seg timers.heap (some t2prev.1) n rest last none) (sorted : Sorted rest)
    (before : ∀ cell ∈ passed ++ [t2prev], key cell.2.time ≤ key time) :
    ∃ p m front back, Loop.Returns (findStep timers.heap time) (t2prev.1, n) (p, m) ∧
      passed ++ [t2prev] ++ rest = front ++ back ∧ Between timers time (some p) m front back := by
  induction rest generalizing passed t2prev n with
  | nil =>
      obtain ⟨rfl, _⟩ := right
      exact ⟨_, _, passed ++ [t2prev], [], Loop.returns_done rfl, rfl, left, ⟨last, rfl, ‹_›⟩,
        before, by simp⟩
  | cons cell rest ih =>
      obtain ⟨rfl, link, stored, follows⟩ := right
      by_cases earlier : iperf_time_compare time cell.2.time < 0
      · exact ⟨_, _, passed ++ [t2prev], cell :: rest,
          Loop.returns_done (by simp only [findStep, stored, earlier, if_true]), rfl, left,
          ⟨last, rfl, link, stored, follows⟩, before, due_before_all sorted earlier⟩
      · -- A timer with the same time counts as passed, so the new one goes behind it.
        have notEarlier := mt (compare_neg_iff _ _).mpr earlier
        have longer : Seg timers.heap none timers.head ((passed ++ [t2prev]) ++ [cell])
            (some cell.1) link :=
          seg_append.mpr ⟨_, _, left, rfl, link, stored, rfl, rfl⟩
        obtain ⟨p, m, front, back, returns, split, between⟩ :=
          ih (passed ++ [t2prev]) cell link longer follows (List.pairwise_cons.mp sorted).2 (by
            intro other member
            rcases List.mem_append.mp member with old | new
            · exact before other old
            · rw [List.mem_singleton.mp new]
              omega)
        refine ⟨p, m, front, back, Loop.returns_again ?_ returns, ?_, between⟩
        · simp only [findStep, stored, earlier, if_false]
        · rw [← split]
          simp

/-- Where `list_add` puts a timer with this time. -/
def position (fuel : Nat) (timers : DList Timer) (time : iperf_time) :
    Option (Option Ptr × Option Ptr) :=
  match timers.head with
  | none => some (none, none)
  | some first =>
      match timers.heap first with
      | none => none
      | some head =>
          if iperf_time_compare time head.value.time < 0 then some (none, some first)
          else (Loop.run (findStep timers.heap time) fuel (first, head.next)).map fun found =>
            (some found.1, found.2)

/-- The four cases of pointer writes are one insertion. -/
theorem list_add_insert (fuel : Nat) {t : Ptr} {node : Node Timer}
    (stored : timers.heap t = some node) :
    list_add fuel timers t = (position fuel timers node.value.time).bind fun place =>
      timers.insert t place.1 place.2 := by
  simp only [list_add, stored, position]
  cases head : timers.head with
  | none => simp [DList.insert, DList.setForward, DList.setBackward]
  | some first =>
      cases atFirst : timers.heap first with
      | none => simp [atFirst]
      | some start =>
          by_cases earlier : iperf_time_compare node.value.time start.value.time < 0
          · simp only [atFirst, earlier, if_true, Option.bind_some, DList.insert,
              DList.setForward, DList.setBackward, DList.setLinks, stored]
            simp only [DList.setPrev]
            split <;> rfl
          · simp only [atFirst, earlier, if_false]
            cases Loop.run (findStep timers.heap node.value.time) fuel (first, start.next) with
            | none => rfl
            | some found =>
                obtain ⟨t2prev, t2⟩ := found
                cases t2 <;> simp [DList.insert, DList.setForward, DList.setBackward]

theorem position_yields {cells : Cells} (holds : timers.Holds cells) (sorted : Sorted cells)
    (time : iperf_time) :
    ∃ place front back, Loop.Yields (fun fuel => position fuel timers time) place ∧
      cells = front ++ back ∧ Between timers time place.1 place.2 front back := by
  obtain ⟨last, seg⟩ := holds.linked
  cases cells with
  | nil =>
      have empty : timers.head = none := seg.1
      exact ⟨(none, none), [], [], by simpa [position, empty] using Loop.yields_some _, rfl,
        ⟨⟨empty, rfl⟩, ⟨none, rfl, rfl⟩, by simp, by simp⟩⟩
  | cons cell rest =>
      obtain ⟨starts, link, stored, follows⟩ := seg
      have ordered := (List.pairwise_cons.mp sorted).2
      by_cases earlier : iperf_time_compare time cell.2.time < 0
      · refine ⟨(none, some cell.1), [], cell :: rest, ?_, rfl, ⟨starts, rfl⟩,
          ⟨last, rfl, link, stored, follows⟩, by simp, due_before_all sorted earlier⟩
        simpa [position, starts, stored, earlier] using Loop.yields_some _
      · have notEarlier := mt (compare_neg_iff _ _).mpr earlier
        obtain ⟨p, n, front, back, returns, split, between⟩ :=
          findStep_returns time [] cell rest link last
            ⟨starts, link, stored, rfl, rfl⟩ follows ordered (by simpa using notEarlier)
        refine ⟨(some p, n), front, back, ?_, by simpa using split, between⟩
        simpa [position, starts, stored, earlier] using returns.yields.map fun found =>
          ((some found.1, found.2) : Option Ptr × Option Ptr)

end Positions

section Insertion
variable {timers : DList Timer} {cells : Cells}

theorem sorted_between {time : iperf_time} {front back : Cells} {cell : Ptr × Timer}
    (sorted : Sorted (front ++ back)) (timed : cell.2.time = time)
    (before : ∀ other ∈ front, key other.2.time ≤ key time)
    (after : ∀ other ∈ back, key time < key other.2.time) : Sorted (front ++ cell :: back) := by
  obtain ⟨frontSorted, backSorted, apart⟩ := List.pairwise_append.mp sorted
  refine List.pairwise_append.mpr ⟨frontSorted, List.pairwise_cons.mpr ⟨?_, backSorted⟩, ?_⟩
  · intro other member
    rw [timed]
    exact Nat.le_of_lt (after other member)
  · intro earlier inFront later member
    rcases List.mem_cons.mp member with same | inBack
    · rw [same, timed]
      exact before earlier inFront
    · exact apart earlier inFront later inBack

/-- `list_add` puts a timer into its place in the order and touches no other
node than those of the list. -/
theorem list_add_yields (holds : timers.Holds cells) (sorted : Sorted cells) {t : Ptr}
    {node : Node Timer} (stored : timers.heap t = some node) (fresh : t ∉ cells.map Prod.fst) :
    ∃ after front back, Loop.Yields (fun fuel => list_add fuel timers t) after ∧
      cells = front ++ back ∧ after.Holds (front ++ (t, node.value) :: back) ∧
      Sorted (front ++ (t, node.value) :: back) ∧
      (∀ cell ∈ front, key cell.2.time ≤ key node.value.time) ∧
      (∀ cell ∈ back, key node.value.time < key cell.2.time) ∧
      ∀ q ∉ t :: cells.map Prod.fst, after.heap q = timers.heap q := by
  obtain ⟨place, front, back, yields, rfl, between⟩ :=
    position_yields holds sorted node.value.time
  obtain ⟨last, right⟩ := between.right
  obtain ⟨after, inserted, linked, frame⟩ :=
    DList.insert_holds between.left right holds.distinct stored fresh
  refine ⟨after, front, back, ?_, rfl, linked,
    sorted_between sorted rfl between.before between.after, between.before, between.after, frame⟩
  simp only [list_add_insert _ stored]
  exact yields.bind inserted

end Insertion

section Operations
variable {globals : Globals} {cells : Cells} {frees : List Ptr}

theorem threaded_frame {heap heap' : Heap Timer} {start : Option Ptr} {frees : List Ptr}
    (threaded : Threaded heap start frees) (same : ∀ q ∈ frees, heap' q = heap q) :
    Threaded heap' start frees := by
  induction frees generalizing start with
  | nil => exact threaded
  | cons t rest ih =>
      obtain ⟨starts, node, stored, follows⟩ := threaded
      refine ⟨starts, node, ?_, ih follows fun q member => same q (List.mem_cons_of_mem _ member)⟩
      rw [same t List.mem_cons_self, stored]

/-- The active list and the free list of the module's two globals. -/
structure Wf (globals : Globals) (cells : Cells) (frees : List Ptr) : Prop where
  holds : globals.timers.Holds cells
  sorted : Sorted cells
  free : Threaded globals.timers.heap globals.free_timers frees
  freeNodup : frees.Nodup
  apart : ∀ t ∈ frees, t ∉ cells.map Prod.fst

/-- The cells of a list, with one more somewhere among them. -/
def Placed (cell : Ptr × Timer) (rest whole : Cells) : Prop :=
  ∃ front back, rest = front ++ back ∧ whole = front ++ cell :: back

theorem Placed.perm {cell : Ptr × Timer} {rest whole : Cells} (placed : Placed cell rest whole) :
    whole.Perm (cell :: rest) := by
  rcases placed with ⟨front, back, rfl, rfl⟩
  exact List.perm_middle

theorem Placed.mem_iff {cell other : Ptr × Timer} {rest whole : Cells}
    (placed : Placed cell rest whole) : other ∈ whole ↔ other = cell ∨ other ∈ rest := by
  rw [placed.perm.mem_iff, List.mem_cons]

theorem Placed.member {cell : Ptr × Timer} {rest whole : Cells} (placed : Placed cell rest whole) :
    cell ∈ whole :=
  placed.mem_iff.mpr (.inl rfl)

theorem Placed.forall_iff {P : Timer → Prop} {cell : Ptr × Timer} {rest whole : Cells}
    (placed : Placed cell rest whole) :
    (∀ other ∈ whole, P other.2) ↔ P cell.2 ∧ ∀ other ∈ rest, P other.2 := by
  constructor
  · intro all
    constructor
    · exact all cell placed.member
    · exact fun other member => all other (placed.mem_iff.mpr (.inr member))
  · rintro ⟨own, all⟩ other member
    rcases placed.mem_iff.mp member with rfl | inside
    · exact own
    · exact all other inside

theorem Placed.shape {t : Ptr} {timer : Timer} {rest whole : Cells}
    (placed : Placed (t, timer) rest whole) :
    (whole.map Prod.fst).Perm (t :: rest.map Prod.fst) :=
  placed.perm.map Prod.fst

/-- A filled node off both lists goes into the order of the active one. -/
theorem add_placed (wf : Wf globals cells frees) {t : Ptr} (fresh : t ∉ cells.map Prod.fst)
    (unfree : t ∉ frees) (timer : Timer) :
    ∃ after cells', Loop.Yields (fun fuel => list_add fuel (fill globals.timers t timer) t) after ∧
      Wf { globals with timers := after } cells' frees ∧ Placed (t, timer) cells cells' := by
  have other : ∀ q, q ≠ t → (fill globals.timers t timer).heap q = globals.timers.heap q :=
    fun q away => Function.update_of_ne away _ _
  have filled : (fill globals.timers t timer).Holds cells :=
    wf.holds.frame fun q member => other q fun same => fresh (same ▸ member)
  have stored : (fill globals.timers t timer).heap t =
      some ⟨timer, (globals.timers.heap t).bind Node.prev,
        (globals.timers.heap t).bind Node.next⟩ :=
    Function.update_self _ _ _
  obtain ⟨after, front, back, yields, rfl, linked, sorted, -, -, frame⟩ :=
    list_add_yields filled wf.sorted stored fresh
  have placed : Placed (t, timer) (front ++ back) (front ++ (t, timer) :: back) :=
    ⟨front, back, rfl, rfl⟩
  refine ⟨after, _, yields, ⟨linked, sorted, ?_, wf.freeNodup, ?_⟩, placed⟩
  · refine threaded_frame wf.free fun q member => ?_
    have away : q ≠ t := fun same => unfree (same ▸ member)
    rw [frame q (by simpa [away] using wf.apart q member), other q away]
  · intro q member
    rw [placed.shape.mem_iff, List.mem_cons, not_or]
    exact ⟨fun same => unfree (same ▸ member), wf.apart q member⟩

/-- The cells after `tmr_create`, which may have got no memory. -/
def Created (result : Option Ptr) (timer : Timer) (cells cells' : Cells) : Prop :=
  match result with
  | none => cells' = cells
  | some t => Placed (t, timer) cells cells'

theorem Created.shape {result : Option Ptr} {timer : Timer} {cells' : Cells}
    (created : Created result timer cells cells') :
    (cells'.map Prod.fst).Perm (result.toList ++ cells.map Prod.fst) := by
  cases result with
  | none =>
      rw [show cells' = cells from created]
      exact List.Perm.refl _
  | some t => exact Placed.shape created

theorem tmr_create_placed (wf : Wf globals cells frees) (malloc : Option Ptr)
    (fresh : ∀ t, malloc = some t → globals.timers.heap t = none) (now : iperf_time)
    (timer_proc client_data : Ptr) (usecs : Int64) (periodic : Bool) :
    ∃ result after cells' frees',
      Loop.Yields (fun fuel =>
        tmr_create fuel globals malloc now timer_proc client_data usecs periodic)
        (result, after) ∧
      Wf after cells' frees' ∧
      Created result
        ⟨timer_proc, client_data, usecs, periodic, iperf_time_add_usecs now usecs.toUInt64⟩
        cells cells' := by
  -- The first free node is reused; only an empty free list asks `malloc`.
  cases frees with
  | nil =>
      have exhausted : globals.free_timers = none := wf.free
      cases malloc with
      | none =>
          refine ⟨none, globals, cells, [], ?_, wf, rfl⟩
          simpa [tmr_create, takeNode, exhausted] using
            Loop.yields_some ((none, globals) : Option Ptr × Globals)
      | some t =>
          have absent : t ∉ cells.map Prod.fst :=
            fun member => wf.holds.stored member (fresh t rfl)
          obtain ⟨after, cells', yields, wf', placed⟩ := add_placed wf absent (by simp)
            ⟨timer_proc, client_data, usecs, periodic, iperf_time_add_usecs now usecs.toUInt64⟩
          refine ⟨some t, _, cells', [], ?_, wf', placed⟩
          have took : takeNode globals (some t) = some (some t, globals) := by
            simp [takeNode, exhausted]
          simp only [tmr_create, took]
          exact yields.map fun timers => (some t, { globals with timers := timers })
  | cons t rest =>
      obtain ⟨starts, node, stored, follows⟩ := wf.free
      obtain ⟨unfree, restNodup⟩ := List.nodup_cons.mp wf.freeNodup
      have taken : Wf { globals with free_timers := node.next } cells rest :=
        ⟨wf.holds, wf.sorted, follows, restNodup,
          fun q member => wf.apart q (List.mem_cons_of_mem _ member)⟩
      obtain ⟨after, cells', yields, wf', placed⟩ := add_placed taken (wf.apart t (by simp)) unfree
        ⟨timer_proc, client_data, usecs, periodic, iperf_time_add_usecs now usecs.toUInt64⟩
      refine ⟨some t, _, cells', rest, ?_, wf', placed⟩
      simpa [tmr_create, takeNode, starts, stored] using yields.map fun timers =>
        (some t, ({ timers := timers, free_timers := node.next } : Globals))

theorem tmr_create_yields (wf : Wf globals cells frees) (malloc : Option Ptr)
    (fresh : ∀ t, malloc = some t → globals.timers.heap t = none) (now : iperf_time)
    (timer_proc client_data : Ptr) (usecs : Int64) (periodic : Bool) :
    ∃ result after cells' frees',
      Loop.Yields (fun fuel =>
        tmr_create fuel globals malloc now timer_proc client_data usecs periodic)
        (result, after) ∧
      Wf after cells' frees' ∧
      (cells'.map Prod.fst).Perm (result.toList ++ cells.map Prod.fst) := by
  obtain ⟨result, after, cells', frees', yields, wf', created⟩ :=
    tmr_create_placed wf malloc fresh now timer_proc client_data usecs periodic
  exact ⟨result, after, cells', frees', yields, wf', created.shape⟩

theorem takeNode_timers {malloc node : Option Ptr} {after : Globals}
    (took : takeNode globals malloc = some (node, after)) : after.timers = globals.timers := by
  unfold takeNode at took
  split at took
  · cases took
    rfl
  · split at took
    · cases took
    · cases took
      rfl

/-- A new node was free before, or is the one that `malloc` returned. -/
theorem takeNode_source {malloc : Option Ptr} {t : Ptr} {after : Globals}
    (took : takeNode globals malloc = some (some t, after)) :
    malloc = some t ∨ globals.timers.heap t ≠ none := by
  unfold takeNode at took
  split at took
  · cases took
    exact Or.inl rfl
  · split at took
    · cases took
    · rename_i stored
      cases took
      exact Or.inr (by simp [stored])

theorem list_add_values {fuel : Nat} {timers after : DList Timer} {t : Ptr} {node : Node Timer}
    (stored : timers.heap t = some node) (added : list_add fuel timers t = some after) :
    after.values = timers.values := by
  rw [list_add_insert fuel stored] at added
  obtain ⟨place, _, inserted⟩ := Option.bind_eq_some_iff.mp added
  exact DList.insert_values inserted

/-- The new timer has the values of the call; all others keep theirs. -/
theorem tmr_create_values {fuel : Nat} {malloc : Option Ptr} {now : iperf_time}
    {timer_proc client_data : Ptr} {usecs : Int64} {periodic : Bool} {t : Ptr} {after : Globals}
    (created : tmr_create fuel globals malloc now timer_proc client_data usecs periodic =
      some (some t, after)) :
    (malloc = some t ∨ globals.timers.heap t ≠ none) ∧
      after.timers.values = Function.update globals.timers.values t
        (some ⟨timer_proc, client_data, usecs, periodic,
          iperf_time_add_usecs now usecs.toUInt64⟩) := by
  unfold tmr_create at created
  split at created
  · cases created
  · cases created
  · rename_i node taken took
    obtain ⟨timers, added, same⟩ := Option.map_eq_some_iff.mp created
    cases same
    have stored : ∃ kept, (fill taken.timers t ⟨timer_proc, client_data, usecs, periodic,
        iperf_time_add_usecs now usecs.toUInt64⟩).heap t = some kept ∧ kept.value =
        ⟨timer_proc, client_data, usecs, periodic, iperf_time_add_usecs now usecs.toUInt64⟩ :=
      ⟨_, Function.update_self _ _ _, rfl⟩
    obtain ⟨kept, filled, value⟩ := stored
    refine ⟨takeNode_source took, ?_⟩
    rw [list_add_values filled added, ← takeNode_timers took]
    funext q
    by_cases here : q = t
    · subst here
      simp [DList.values, filled, value]
    · simp [DList.values, fill, Function.update_of_ne here]

theorem tmr_create_wf (wf : Wf globals cells frees) {fuel : Nat} {malloc : Option Ptr}
    (fresh : ∀ t, malloc = some t → globals.timers.heap t = none) {now : iperf_time}
    {timer_proc client_data : Ptr} {usecs : Int64} {periodic : Bool} {result : Option Ptr}
    {after : Globals}
    (created : tmr_create fuel globals malloc now timer_proc client_data usecs periodic =
      some (result, after)) :
    ∃ cells' frees', Wf after cells' frees' ∧
      (cells'.map Prod.fst).Perm (result.toList ++ cells.map Prod.fst) := by
  obtain ⟨_, _, cells', frees', ⟨_, only⟩, wf', shape⟩ :=
    tmr_create_yields wf malloc fresh now timer_proc client_data usecs periodic
  obtain ⟨rfl, rfl⟩ := Prod.mk.inj (only _ _ created)
  exact ⟨cells', frees', wf', shape⟩

theorem split_cell {t : Ptr} (member : t ∈ cells.map Prod.fst) :
    ∃ front value back, cells = front ++ (t, value) :: back := by
  obtain ⟨⟨q, value⟩, inside, rfl⟩ := List.mem_map.mp member
  obtain ⟨front, back, split⟩ := List.append_of_mem inside
  exact ⟨front, value, back, split⟩

theorem split_fresh {front back : Cells} {t : Ptr} {value : Timer}
    (distinct : ((front ++ (t, value) :: back).map Prod.fst).Nodup) :
    t ∉ (front ++ back).map Prod.fst := by
  rw [List.map_append, List.map_cons, List.nodup_middle, List.nodup_cons] at distinct
  simpa using distinct.1

theorem split_outside {front back : Cells} {t q : Ptr} {value : Timer}
    (outside : q ∉ (front ++ (t, value) :: back).map Prod.fst) :
    q ≠ t ∧ q ∉ (front ++ back).map Prod.fst := by
  simp only [List.map_append, List.map_cons, List.mem_append, List.mem_cons, not_or] at outside ⊢
  exact ⟨outside.2.1, outside.1, outside.2.2⟩

theorem sorted_remove {front back : Cells} {cell : Ptr × Timer}
    (sorted : Sorted (front ++ cell :: back)) : Sorted (front ++ back) :=
  List.Pairwise.sublist (List.Sublist.append_left (List.sublist_cons_self _ _) _) sorted

theorem list_remove_yields {timers : DList Timer} {front back : Cells} {t : Ptr} {value : Timer}
    (holds : timers.Holds (front ++ (t, value) :: back)) :
    ∃ after prev next, list_remove timers t = some after ∧ after.Holds (front ++ back) ∧
      after.heap t = some ⟨value, prev, next⟩ ∧
      ∀ q ∉ (front ++ back).map Prod.fst, after.heap q = timers.heap q := by
  obtain ⟨last, seg⟩ := holds.linked
  obtain ⟨prev, next, stored⟩ := seg_stored seg (List.mem_append_right front List.mem_cons_self)
  obtain ⟨after, removed, linked, frame⟩ := DList.remove_holds holds
  exact ⟨after, prev, next, removed, linked,
    (frame t (split_fresh holds.distinct)).trans stored, frame⟩

/-- A live timer with a new firing time goes behind the timers that fire no later. -/
theorem retime_moves {front back : Cells} {t : Ptr} {value : Timer}
    (wf : Wf globals (front ++ (t, value) :: back) frees) (time : Timer → iperf_time) :
    ∃ after front' back', Loop.Yields (fun fuel => retime fuel globals t time) after ∧
      front ++ back = front' ++ back' ∧
      Wf after (front' ++ (t, { value with time := time value }) :: back') frees ∧
      (∀ cell ∈ front', key cell.2.time ≤ key (time value)) ∧
      ∀ cell ∈ back', key (time value) < key cell.2.time := by
  obtain ⟨last, seg⟩ := wf.holds.linked
  obtain ⟨prev, next, stored⟩ := seg_stored seg (List.mem_append_right front List.mem_cons_self)
  obtain ⟨timed, set, timedHolds, timedFrame⟩ :=
    DList.setValue_holds wf.holds { value with time := time value }
  obtain ⟨removed, prev', next', unlinked, rest, kept, removedFrame⟩ :=
    list_remove_yields timedHolds
  have absent := split_fresh wf.holds.distinct
  obtain ⟨after, front', back', yields, split, linked, sorted, before, behind, frame⟩ :=
    list_add_yields rest (sorted_remove wf.sorted) kept absent
  have left : Placed (t, value) (front ++ back) (front ++ (t, value) :: back) :=
    ⟨front, back, rfl, rfl⟩
  have placed : Placed (t, { value with time := time value }) (front ++ back)
      (front' ++ (t, { value with time := time value }) :: back') :=
    ⟨front', back', split, rfl⟩
  refine ⟨{ globals with timers := after }, front', back', ?_, split,
    ⟨linked, sorted, ?_, wf.freeNodup, ?_⟩, before, behind⟩
  · simp only [retime, stored, set, Option.bind_some, list_resort, unlinked]
    exact yields.map fun timers => { globals with timers := timers }
  · refine threaded_frame wf.free fun q inFree => ?_
    obtain ⟨away, off⟩ := split_outside (wf.apart q inFree)
    rw [frame q (by simpa [away] using off), removedFrame q off, timedFrame q away]
  · intro q inFree inCells
    exact wf.apart q inFree (left.shape.mem_iff.mpr (placed.shape.mem_iff.mp inCells))

/-- No timer is gained or lost. -/
theorem retime_placed (wf : Wf globals cells frees) {t : Ptr} (member : t ∈ cells.map Prod.fst)
    (time : Timer → iperf_time) :
    ∃ after cells' value rest, Loop.Yields (fun fuel => retime fuel globals t time) after ∧
      Wf after cells' frees ∧ Placed (t, value) rest cells ∧
      Placed (t, { value with time := time value }) rest cells' := by
  obtain ⟨front, value, back, rfl⟩ := split_cell member
  obtain ⟨after, front', back', yields, split, wf', -, -⟩ := retime_moves wf time
  exact ⟨after, _, value, _, yields, wf', ⟨front, back, rfl, rfl⟩, front', back', split, rfl⟩

theorem retime_yields (wf : Wf globals cells frees) {t : Ptr} (member : t ∈ cells.map Prod.fst)
    (time : Timer → iperf_time) :
    ∃ after cells', Loop.Yields (fun fuel => retime fuel globals t time) after ∧
      Wf after cells' frees ∧ (cells'.map Prod.fst).Perm (cells.map Prod.fst) := by
  obtain ⟨after, cells', value, rest, yields, wf', left, placed⟩ := retime_placed wf member time
  exact ⟨after, cells', yields, wf', placed.shape.trans left.shape.symm⟩

theorem tmr_cancel_removes {front back : Cells} {t : Ptr} {value : Timer}
    (wf : Wf globals (front ++ (t, value) :: back) frees) :
    ∃ after, tmr_cancel globals t = some after ∧ Wf after (front ++ back) (t :: frees) := by
  have unfree : t ∉ frees := fun inFree => wf.apart t inFree (by simp)
  obtain ⟨removed, prev, next, unlinked, rest, kept, frame⟩ := list_remove_yields wf.holds
  have absent := split_fresh wf.holds.distinct
  have cancelled : tmr_cancel globals t = some
      { timers :=
          { removed with
            heap := Function.update removed.heap t (some ⟨value, none, globals.free_timers⟩) }
        free_timers := some t } := by
    simp [tmr_cancel, unlinked, DList.setLinks, kept]
  refine ⟨_, cancelled, ⟨?_, sorted_remove wf.sorted, ?_, ?_, ?_⟩⟩
  · exact rest.frame fun q inside =>
      Function.update_of_ne (fun same : q = t => absent (same ▸ inside)) _ _
  · refine ⟨rfl, _, Function.update_self _ _ _, threaded_frame wf.free fun q inFree => ?_⟩
    obtain ⟨away, off⟩ := split_outside (wf.apart q inFree)
    exact (Function.update_of_ne away _ _).trans (frame q off)
  · exact List.nodup_cons.mpr ⟨unfree, wf.freeNodup⟩
  · intro q inFree
    rcases List.mem_cons.mp inFree with same | later
    · exact same ▸ absent
    · exact (split_outside (wf.apart q later)).2

theorem tmr_cancel_placed (wf : Wf globals cells frees) {t : Ptr}
    (member : t ∈ cells.map Prod.fst) :
    ∃ after cells' value, tmr_cancel globals t = some after ∧ Wf after cells' (t :: frees) ∧
      Placed (t, value) cells' cells := by
  obtain ⟨front, value, back, rfl⟩ := split_cell member
  obtain ⟨after, cancelled, wf'⟩ := tmr_cancel_removes wf
  exact ⟨after, front ++ back, value, cancelled, wf', front, back, rfl, rfl⟩

theorem tmr_cancel_wf (wf : Wf globals cells frees) {t : Ptr} (member : t ∈ cells.map Prod.fst) :
    ∃ after cells', tmr_cancel globals t = some after ∧ Wf after cells' (t :: frees) ∧
      (t :: cells'.map Prod.fst).Perm (cells.map Prod.fst) := by
  obtain ⟨after, cells', value, cancelled, wf', placed⟩ := tmr_cancel_placed wf member
  exact ⟨after, cells', cancelled, wf', placed.shape.symm⟩

end Operations

def liveStep : List Ptr → Event → List Ptr
  | live, .create result => result.toList ++ live
  | live, .cancel t => live.erase t
  | live, .expired t => live.erase t
  | live, _ => live

/-- The timers created and not yet cancelled or expired. -/
def live (past : List Event) : List Ptr := past.foldl liveStep []

theorem live_append (past : List Event) (event : Event) :
    live (past ++ [event]) = liveStep (live past) event := by
  simp [live]

/-- `tmr_run` only keeps hold of live timers, and never of one twice. -/
def Poised (active : List Ptr) : Phase → Prop
  | .idle => True
  | .walking _ t => ∀ q, t = some q → q ∈ active
  | .calling _ t next => t ∈ active ∧ ∀ q, next = some q → q ∈ active ∧ q ≠ t

theorem Poised.mono {active more : List Ptr} {phase : Phase} (poised : Poised active phase)
    (subset : ∀ q ∈ active, q ∈ more) : Poised more phase := by
  cases phase with
  | idle => trivial
  | walking now t => exact fun q same => subset q (poised q same)
  | calling now t next =>
      exact ⟨subset t poised.1, fun q same => ⟨subset q (poised.2 q same).1, (poised.2 q same).2⟩⟩

structure Tracks (past : List Event) (system : System) (cells : Cells) (frees : List Ptr) :
    Prop where
  wf : Wf system.globals cells frees
  exactly : (cells.map Prod.fst).Perm system.active
  active : system.active = live past
  poised : Poised system.active system.phase

theorem fresh_tracks : Tracks [] fresh [] [] where
  wf := ⟨⟨⟨none, rfl, rfl⟩, List.nodup_nil⟩, List.Pairwise.nil, rfl, List.nodup_nil, nofun⟩
  exactly := List.Perm.refl _
  active := rfl
  poised := trivial

section Steps
variable {past : List Event} {before after : System} {event : Event} {cells : Cells}
  {frees : List Ptr}

/-- The successor in the list is live and another timer. -/
theorem next_live (wf : Wf before.globals cells frees) {t : Ptr} {node : Node Timer}
    (member : t ∈ cells.map Prod.fst) (stored : before.globals.timers.heap t = some node)
    (n : Ptr) (same : node.next = some n) : n ∈ cells.map Prod.fst ∧ n ≠ t := by
  obtain ⟨last, seg⟩ := wf.holds.linked
  refine ⟨((seg_neighbours seg member stored).1 n same).1, ?_⟩
  obtain ⟨front, value, back, rfl⟩ := split_cell member
  obtain ⟨p, _, _, rfl, link, kept, right⟩ := seg_append.mp seg
  obtain rfl := Option.some.inj (stored.symm.trans kept)
  have absent := split_fresh wf.holds.distinct
  cases back with
  | nil => cases same.symm.trans right.1
  | cons second rest =>
      obtain rfl := Option.some.inj (same.symm.trans right.1)
      exact fun equal => absent (by simp [← equal])

theorem head_live (wf : Wf before.globals cells frees) (t : Ptr)
    (head : before.globals.timers.head = some t) : t ∈ cells.map Prod.fst := by
  obtain ⟨last, seg⟩ := wf.holds.linked
  cases cells with
  | nil => cases head.symm.trans seg.1
  | cons cell rest =>
      obtain rfl := Option.some.inj (head.symm.trans seg.1)
      simp

theorem cancel_exactly (wf : Wf before.globals cells frees)
    (exactly : (cells.map Prod.fst).Perm before.active) {t : Ptr} {globals : Globals}
    (member : t ∈ before.active) (returned : tmr_cancel before.globals t = some globals) :
    ∃ cells' frees', Wf globals cells' frees' ∧
      (cells'.map Prod.fst).Perm (before.active.erase t) := by
  obtain ⟨after, cells', cancelled, wf', shape⟩ := tmr_cancel_wf wf (exactly.mem_iff.mpr member)
  obtain rfl := Option.some.inj (returned.symm.trans cancelled)
  exact ⟨cells', t :: frees, wf', (List.cons_perm_iff_perm_erase.mp (shape.trans exactly)).2⟩

theorem step_tracks (tracks : Tracks past before cells frees) (step : Step before event after) :
    ∃ cells frees, Tracks (past ++ [event]) after cells frees := by
  obtain ⟨wf, exactly, active, poised⟩ := tracks
  have quiet : ∀ {event : Event}, (∀ live, liveStep live event = live) →
      before.active = live (past ++ [event]) := by
    intro event same
    rw [live_append, same, active]
  cases step with
  | create fuel malloc now timer_proc client_data usecs periodic accepts fresh returned =>
      obtain ⟨result, globals, cells', frees', yields, wf', shape⟩ :=
        tmr_create_yields wf malloc fresh now timer_proc client_data usecs periodic
      obtain ⟨rfl, rfl⟩ := Prod.mk.inj (yields.2 fuel _ returned)
      refine ⟨cells', frees', wf', shape.trans (exactly.append_left _), ?_, ?_⟩
      · rw [live_append, active]
        rfl
      · exact poised.mono fun q member => List.mem_append_right _ member
  | reset fuel now t accepts member returned =>
      obtain ⟨globals, cells', yields, wf', shape⟩ :=
        retime_yields wf (exactly.mem_iff.mpr member)
          fun timer => iperf_time_add_usecs now timer.usecs.toUInt64
      obtain rfl := yields.2 fuel _ returned
      exact ⟨cells', frees, wf', shape.trans exactly, quiet fun _ => rfl, poised⟩
  | cancel t idle member returned =>
      obtain ⟨cells', frees', wf', shape⟩ := cancel_exactly wf exactly member returned
      refine ⟨cells', frees', wf', shape, ?_, ?_⟩
      · rw [live_append, active]
        rfl
      · simp [idle, Poised]
  | runEnter now idle =>
      exact ⟨cells, frees, wf, exactly, quiet fun _ => rfl,
        fun t head => exactly.mem_iff.mp (head_live wf t head)⟩
  | runEnd ended => exact ⟨cells, frees, wf, exactly, quiet fun _ => rfl, trivial⟩
  | runBreak walking stored later =>
      exact ⟨cells, frees, wf, exactly, quiet fun _ => rfl, trivial⟩
  | call walking stored due =>
      rw [walking] at poised
      have member := poised _ rfl
      refine ⟨cells, frees, wf, exactly, quiet fun _ => rfl, member, fun q same => ?_⟩
      obtain ⟨inside, other⟩ := next_live wf (exactly.mem_iff.mpr member) stored q same
      exact ⟨exactly.mem_iff.mp inside, other⟩
  | rescheduled fuel calling stored periodic returned =>
      rw [calling] at poised
      obtain ⟨globals, cells', yields, wf', shape⟩ :=
        retime_yields wf (exactly.mem_iff.mpr poised.1)
          fun timer => iperf_time_add_usecs timer.time timer.usecs.toUInt64
      obtain rfl := yields.2 fuel _ returned
      exact ⟨cells', frees, wf', shape.trans exactly, quiet fun _ => rfl,
        fun q same => (poised.2 q same).1⟩
  | expired calling stored once returned =>
      -- `next` was read before the callback; it survives because it is not `t`.
      rw [calling] at poised
      obtain ⟨cells', frees', wf', shape⟩ := cancel_exactly wf exactly poised.1 returned
      refine ⟨cells', frees', wf', shape, ?_, fun q same => ?_⟩
      · rw [live_append, active]
        rfl
      · obtain ⟨member, other⟩ := poised.2 q same
        exact (List.mem_erase_of_ne other).mpr member

end Steps

/-- What the timer lists look like after any history. -/
structure TimerList (past : List Event) (system : System) (cells : Cells) (frees : List Ptr) :
    Prop where
  linked : ∃ last, Seg system.globals.timers.heap none system.globals.timers.head cells last none
  headPrev : ∀ t node, system.globals.timers.head = some t →
    system.globals.timers.heap t = some node → node.prev = none
  inverse : ∀ t ∈ live past, ∀ node, system.globals.timers.heap t = some node →
    (∀ n, node.next = some n →
      ∃ after, system.globals.timers.heap n = some after ∧ after.prev = some t) ∧
    (∀ p, node.prev = some p →
      ∃ before, system.globals.timers.heap p = some before ∧ before.next = some t)
  distinct : (cells.map Prod.fst).Nodup
  sorted : Sorted cells
  exactly : (cells.map Prod.fst).Perm (live past)
  free : Threaded system.globals.timers.heap system.globals.free_timers frees
  freeDistinct : frees.Nodup
  apart : ∀ t ∈ frees, t ∉ cells.map Prod.fst
  /-- No call dereferences a dangling pointer or loops forever in `list_add`. -/
  creates : ∀ malloc now timer_proc client_data usecs periodic,
    (∀ t, malloc = some t → system.globals.timers.heap t = none) →
    ∃ fuel result, tmr_create fuel system.globals malloc now timer_proc client_data usecs periodic =
      some result
  resets : ∀ t ∈ live past, ∀ now, ∃ fuel globals,
    tmr_reset fuel system.globals now t = some globals
  cancels : ∀ t ∈ live past, ∃ globals, tmr_cancel system.globals t = some globals
  runs : system.phase ≠ .idle → ∃ event after, Step system event after

/-- The events of the loop of `tmr_run` itself. -/
def Own : Event → Prop
  | .call _ | .rescheduled _ | .expired _ | .runLeave => True
  | _ => False

theorem Tracks.goes_on {past : List Event} {system : System} {cells : Cells} {frees : List Ptr}
    (tracks : Tracks past system cells frees) (inside : system.phase ≠ .idle) :
    ∃ event after, Step system event after ∧ Own event := by
  obtain ⟨wf, exactly, active, poised⟩ := tracks
  have stored : ∀ t ∈ system.active, ∃ node, system.globals.timers.heap t = some node :=
    fun t member => Option.ne_none_iff_exists'.mp (wf.holds.stored (exactly.mem_iff.mpr member))
  cases phase : system.phase with
  | idle => exact absurd phase inside
  | walking now t =>
      rw [phase] at poised
      cases t with
      | none => exact ⟨_, _, Step.runEnd phase, trivial⟩
      | some t =>
          obtain ⟨node, kept⟩ := stored t (poised t rfl)
          by_cases later : iperf_time_compare node.value.time now > 0
          · exact ⟨_, _, Step.runBreak phase kept later, trivial⟩
          · exact ⟨_, _, Step.call phase kept later, trivial⟩
  | calling now t next =>
      rw [phase] at poised
      obtain ⟨node, kept⟩ := stored t poised.1
      have member := exactly.mem_iff.mpr poised.1
      cases periodic : node.value.periodic with
      | true =>
          obtain ⟨globals, _, ⟨⟨fuel, returned⟩, _⟩, _⟩ := retime_yields wf member
            fun timer => iperf_time_add_usecs timer.time timer.usecs.toUInt64
          exact ⟨_, _, Step.rescheduled fuel phase kept periodic returned, trivial⟩
      | false =>
          obtain ⟨globals, _, returned, _⟩ := tmr_cancel_wf wf member
          exact ⟨_, _, Step.expired phase kept periodic returned, trivial⟩

theorem Tracks.runs {past : List Event} {system : System} {cells : Cells} {frees : List Ptr}
    (tracks : Tracks past system cells frees) (inside : system.phase ≠ .idle) :
    ∃ event after, Step system event after := by
  obtain ⟨event, after, step, _⟩ := tracks.goes_on inside
  exact ⟨event, after, step⟩

/-- The representation invariant of the timer lists, over every sequence of
calls and through every callback of `tmr_run`. -/
theorem timer_list_invariant (past : List Event) (system : System)
    (run : Run Step fresh past system) :
    ∃ cells frees, TimerList past system cells frees := by
  obtain ⟨cells, frees, tracks⟩ :=
    run.invariant (fun past system => ∃ cells frees, Tracks past system cells frees)
      ⟨[], [], fresh_tracks⟩ fun _ _ _ _ ⟨_, _, tracks⟩ step => step_tracks tracks step
  have runs := tracks.runs
  obtain ⟨wf, exactly, active, poised⟩ := tracks
  rw [active] at exactly
  obtain ⟨last, seg⟩ := wf.holds.linked
  refine ⟨cells, frees, ?_⟩
  constructor
  case linked => exact ⟨last, seg⟩
  case headPrev => exact fun t node head stored => seg_head_prev seg head stored
  case inverse =>
    intro t member node stored
    obtain ⟨next, prev⟩ := seg_neighbours seg (exactly.mem_iff.mpr member) stored
    exact ⟨fun n same => (next n same).2, fun p same => (prev p same).2⟩
  case distinct => exact wf.holds.distinct
  case sorted => exact wf.sorted
  case exactly => exact exactly
  case free => exact wf.free
  case freeDistinct => exact wf.freeNodup
  case apart => exact wf.apart
  case creates =>
    intro malloc now timer_proc client_data usecs periodic unused
    obtain ⟨result, globals, _, _, ⟨⟨fuel, returned⟩, _⟩, _⟩ :=
      tmr_create_yields wf malloc unused now timer_proc client_data usecs periodic
    exact ⟨fuel, _, returned⟩
  case resets =>
    intro t member now
    obtain ⟨globals, _, ⟨⟨fuel, returned⟩, _⟩, _⟩ :=
      retime_yields wf (exactly.mem_iff.mpr member)
        fun timer => iperf_time_add_usecs now timer.usecs.toUInt64
    exact ⟨fuel, globals, returned⟩
  case cancels =>
    intro t member
    obtain ⟨globals, _, returned, _⟩ := tmr_cancel_wf wf (exactly.mem_iff.mpr member)
    exact ⟨globals, returned⟩
  case runs => exact runs

/-- A periodic timer and a one-shot timer; the run expires the second, whose
callback resets the first. -/
theorem timer_list_sample :
    ∃ system cells frees, TimerList [.create (some 10), .create (some 11), .runEnter, .call 11,
      .reset 10, .expired 11, .runLeave] system cells frees := by
  have first := Run.next (.create (some 10)) (Run.start : Run Step fresh [] _)
    (Step.create 0 (some 10) ⟨5, 0⟩ 1 0 2000000 true (by trivial) (by rintro _ ⟨⟩; rfl) rfl)
  have second := Run.next (.create (some 11)) first
    (Step.create 0 (some 11) ⟨5, 0⟩ 2 0 1000000 false (by trivial) (by rintro _ ⟨⟩; rfl) rfl)
  have entered := Run.next .runEnter second (Step.runEnter ⟨6, 0⟩ rfl)
  have called := Run.next (.call 11) entered (Step.call rfl rfl (by decide))
  have reset := Run.next (.reset 10) called (Step.reset 2 ⟨6, 0⟩ 10 (by trivial) (by decide) rfl)
  have expired := Run.next (.expired 11) reset (Step.expired rfl rfl rfl rfl)
  have left := Run.next .runLeave expired (Step.runBreak rfl rfl (by decide))
  exact ⟨_, timer_list_invariant _ _ left⟩

end Iperf.TimerOrder
