import Iperf.TimerOrder

/-!
What each step does to the active timers, as a list of cells: one more cell, one
cell less, or one cell with a new time in a new place. The order of all the other
cells stays.
-/

namespace Iperf.TimerEffects

open DoublyLinked Timers TimerOrder Time Transition

/-- The cells before and after a step. -/
def Effect : Event → Cells → Cells → Prop
  | .create result, cells, cells' =>
      ∃ now timer, timer.time = iperf_time_add_usecs now timer.usecs.toUInt64 ∧
        Created result timer cells cells'
  | .reset t, cells, cells' =>
      ∃ now value rest, Placed (t, value) rest cells ∧
        Placed (t, { value with time := iperf_time_add_usecs now value.usecs.toUInt64 })
          rest cells'
  | .rescheduled t, cells, cells' =>
      ∃ value rest, value.periodic = true ∧ Placed (t, value) rest cells ∧
        Placed (t, { value with time := iperf_time_add_usecs value.time value.usecs.toUInt64 })
          rest cells'
  | .cancel t, cells, cells' => ∃ value, Placed (t, value) cells' cells
  | .expired t, cells, cells' =>
      ∃ value, value.periodic = false ∧ Placed (t, value) cells' cells
  | _, cells, cells' => cells' = cells

section Cells
variable {globals : Globals} {cells : Cells} {frees : List Ptr} {t : Ptr}

/-- What the cells say of a timer is what its node holds. -/
theorem cell_value (wf : Wf globals cells frees) {cell : Ptr × Timer} (member : cell ∈ cells) :
    ∃ node, globals.timers.heap cell.1 = some node ∧ node.value = cell.2 := by
  obtain ⟨last, seg⟩ := wf.holds.linked
  obtain ⟨prev, next, stored⟩ := seg_stored seg member
  exact ⟨_, stored, rfl⟩

theorem stored_value (wf : Wf globals cells frees) {node : Node Timer}
    (stored : globals.timers.heap t = some node) {value : Timer} (member : (t, value) ∈ cells) :
    node.value = value := by
  obtain ⟨found, kept, same⟩ := cell_value wf member
  obtain rfl := Option.some.inj (stored.symm.trans kept)
  exact same

/-- The next pointer leads to the cell behind. -/
theorem next_cell (wf : Wf globals cells frees) {node : Node Timer}
    (stored : globals.timers.heap t = some node) {front back : Cells} {value : Timer}
    (split : cells = front ++ (t, value) :: back) : node.next = (back.map Prod.fst).head? := by
  subst split
  obtain ⟨last, seg⟩ := wf.holds.linked
  obtain ⟨p, _, _, _, link, kept, right⟩ := seg_append.mp seg
  obtain rfl := Option.some.inj (stored.symm.trans kept)
  cases back with
  | nil => exact right.1
  | cons second rest => exact right.1

theorem head_cell (wf : Wf globals cells frees) :
    globals.timers.head = (cells.map Prod.fst).head? := by
  obtain ⟨last, seg⟩ := wf.holds.linked
  cases cells with
  | nil => exact seg.1
  | cons cell rest => exact seg.1

end Cells

section Steps
variable {past : List Event} {before after : System} {event : Event} {cells : Cells}
  {frees : List Ptr}

theorem reset_effect {globals after : Globals} {fuel : Nat} {now : iperf_time} {t : Ptr}
    (wf : Wf globals cells frees) (member : t ∈ cells.map Prod.fst)
    (returned : tmr_reset fuel globals now t = some after) :
    ∃ cells' value rest, Wf after cells' frees ∧ Placed (t, value) rest cells ∧
      Placed (t, { value with time := iperf_time_add_usecs now value.usecs.toUInt64 })
        rest cells' := by
  obtain ⟨globals', cells', value, rest, yields, wf', left, placed⟩ :=
    retime_placed wf member fun timer => iperf_time_add_usecs now timer.usecs.toUInt64
  obtain rfl := yields.2 fuel _ returned
  exact ⟨cells', value, rest, wf', left, placed⟩

theorem reschedule_effect {globals after : Globals} {fuel : Nat} {t : Ptr} {node : Node Timer}
    (wf : Wf globals cells frees) (member : t ∈ cells.map Prod.fst)
    (stored : globals.timers.heap t = some node)
    (returned : reschedule fuel globals t = some after) :
    ∃ cells' rest, Wf after cells' frees ∧ Placed (t, node.value) rest cells ∧
      Placed (t, { node.value with
        time := iperf_time_add_usecs node.value.time node.value.usecs.toUInt64 })
        rest cells' := by
  obtain ⟨globals', cells', value, rest, yields, wf', left, placed⟩ :=
    retime_placed wf member fun timer => iperf_time_add_usecs timer.time timer.usecs.toUInt64
  obtain rfl := yields.2 fuel _ returned
  obtain rfl := stored_value wf stored left.member
  exact ⟨cells', rest, wf', left, placed⟩

theorem cancel_effect {globals after : Globals} {t : Ptr} {node : Node Timer}
    (wf : Wf globals cells frees) (member : t ∈ cells.map Prod.fst)
    (stored : globals.timers.heap t = some node) (returned : tmr_cancel globals t = some after) :
    ∃ cells', Wf after cells' (t :: frees) ∧ Placed (t, node.value) cells' cells := by
  obtain ⟨globals', cells', value, cancelled, wf', placed⟩ := tmr_cancel_placed wf member
  obtain rfl := Option.some.inj (returned.symm.trans cancelled)
  obtain rfl := stored_value wf stored placed.member
  exact ⟨cells', wf', placed⟩

theorem seg_unique {heap : Heap Timer} {prev start last other : Option Ptr}
    {left right : Cells} (first : Seg heap prev start left last none)
    (second : Seg heap prev start right other none) : left = right := by
  induction left generalizing prev start right with
  | nil =>
      cases right with
      | nil => rfl
      | cons cell rest => cases first.1.symm.trans second.1
  | cons cell rest ih =>
      cases right with
      | nil => cases first.1.symm.trans second.1
      | cons found more =>
          obtain ⟨starts, link, stored, follows⟩ := first
          obtain ⟨also, link', stored', follows'⟩ := second
          have same : cell.1 = found.1 := Option.some.inj (starts.symm.trans also)
          rw [same] at stored follows
          obtain ⟨value, _, next⟩ := Node.mk.inj (Option.some.inj (stored.symm.trans stored'))
          subst next
          rw [ih follows follows', Prod.ext same value]

/-- The pointers of the module have one reading. -/
theorem cells_unique {globals : Globals} {left right : Cells} {frees others : List Ptr}
    (first : Wf globals left frees) (second : Wf globals right others) : left = right := by
  obtain ⟨_, first⟩ := first.holds.linked
  obtain ⟨_, second⟩ := second.holds.linked
  exact seg_unique first second

theorem step_effect (tracks : Tracks past before cells frees) (step : Step before event after) :
    ∃ cells' frees', Tracks (past ++ [event]) after cells' frees' ∧ Effect event cells cells' := by
  obtain ⟨cells', frees', reached⟩ := step_tracks tracks step
  refine ⟨cells', frees', reached, ?_⟩
  have wf := tracks.wf
  have member : ∀ t ∈ before.active, t ∈ cells.map Prod.fst :=
    fun t inside => tracks.exactly.mem_iff.mpr inside
  have unique : ∀ {other others}, Wf after.globals other others → other = cells' :=
    fun found => cells_unique found reached.wf
  cases step with
  | create fuel malloc now timer_proc client_data usecs periodic accepts fresh returned =>
      obtain ⟨result, globals, found, _, yields, wf', created⟩ :=
        tmr_create_placed wf malloc fresh now timer_proc client_data usecs periodic
      obtain ⟨rfl, rfl⟩ := Prod.mk.inj (yields.2 fuel _ returned)
      obtain rfl := unique wf'
      exact ⟨now, _, rfl, created⟩
  | reset fuel now t accepts live returned =>
      obtain ⟨found, value, rest, wf', left, placed⟩ := reset_effect wf (member t live) returned
      obtain rfl := unique wf'
      exact ⟨now, value, rest, left, placed⟩
  | cancel t idle live returned =>
      obtain ⟨node, stored⟩ := Option.ne_none_iff_exists'.mp (wf.holds.stored (member t live))
      obtain ⟨found, wf', placed⟩ := cancel_effect wf (member t live) stored returned
      obtain rfl := unique wf'
      exact ⟨_, placed⟩
  | runEnter now idle => exact (unique wf).symm
  | runEnd ended => exact (unique wf).symm
  | runBreak walking stored later => exact (unique wf).symm
  | call walking stored due => exact (unique wf).symm
  | rescheduled fuel calling stored periodic returned =>
      have poised := tracks.poised
      rw [calling] at poised
      obtain ⟨found, rest, wf', left, placed⟩ :=
        reschedule_effect wf (member _ poised.1) stored returned
      obtain rfl := unique wf'
      exact ⟨_, rest, periodic, left, placed⟩
  | expired calling stored once returned =>
      have poised := tracks.poised
      rw [calling] at poised
      obtain ⟨found, wf', placed⟩ := cancel_effect wf (member _ poised.1) stored returned
      obtain rfl := unique wf'
      exact ⟨_, once, placed⟩

end Steps

end Iperf.TimerEffects
