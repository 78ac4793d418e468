import Iperf.TimerEffects

/-!
Which timers a call of `tmr_run` fires. Beside the machine runs a watch on the
timers that were due on entry and that no callback has reset: each is to fire
before the call returns. The loop goes on with the `next` that it read before the
callback, which stays in place unless the callback resets that very timer.
-/

namespace Iperf.TimerFiring

open DoublyLinked Timers TimerOrder TimerEffects Time Transition

section Watching

/-- `waiting` are the timers due on entry that have not fired and were not reset,
`moved` those that the present callback has reset; `spared` says that no callback
of this call has put the saved `next` behind a waiting timer. -/
structure Watch where
  waiting : List Ptr := []
  moved : List Ptr := []
  spared : Bool := true

def time_of (globals : Globals) (t : Ptr) : Option iperf_time :=
  (globals.timers.heap t).map fun node => node.value.time

/-- The test of `tmr_run`. -/
def due (globals : Globals) (now : iperf_time) (t : Ptr) : Bool :=
  (time_of globals t).any fun time => ¬ iperf_time_compare time now > 0

def earlier (globals : Globals) (t other : Ptr) : Bool :=
  (time_of globals t).any fun time =>
    (time_of globals other).any fun later => iperf_time_compare time later < 0

/-- At the end of a callback: the saved `next` was not reset, or no waiting timer is
due before its new time. -/
def spares (watch : Watch) (system : System) : Bool :=
  match system.phase with
  | .calling _ _ (some next) =>
      next ∉ watch.moved ∨ ∀ t ∈ watch.waiting, earlier system.globals next t = true
  | _ => true

def watch_step (watch : Watch) (before : System) (event : Event) (after : System) : Watch :=
  match event, after.phase with
  | .runEnter, .walking now _ => { waiting := before.active.filter (due before.globals now) }
  | .call t, _ => { watch with waiting := watch.waiting.filter (· ≠ t), moved := [] }
  | .reset t, _ =>
      { watch with waiting := watch.waiting.filter (· ≠ t), moved := t :: watch.moved }
  | .rescheduled _, _ | .expired _, _ =>
      { watch with spared := watch.spared && spares watch before }
  | _, _ => watch

/-- A step of the machine under watch. -/
def WatchedStep (before : System × Watch) (event : Event) (after : System × Watch) : Prop :=
  Step before.1 event after.1 ∧ after.2 = watch_step before.2 before.1 event after.1

end Watching

section Positions

/-- `u` is the timer `c`, or behind it. -/
def From (timers : List Ptr) (c u : Ptr) : Prop := u = c ∨ List.Sublist [c, u] timers

theorem From.mono {timers more : List Ptr} {c u : Ptr} (behind : From timers c u)
    (sublist : List.Sublist timers more) : From more c u :=
  behind.imp id fun pair => pair.trans sublist

/-- The places of two timers do not depend on a third one. -/
theorem From.remove {front back : List Ptr} {t c u : Ptr}
    (behind : From (front ++ t :: back) c u) (cursor : c ≠ t) (other : u ≠ t) :
    From (front ++ back) c u := by
  rcases behind with same | pair
  · exact .inl same
  · have kept := pair.filter (· ≠ t)
    simp only [List.filter_append, List.filter_cons, cursor, other, ne_eq, not_false_iff,
      decide_true, if_true, not_true, decide_false, List.filter_nil, Bool.false_eq_true,
      if_false] at kept
    rw [← List.filter_append] at kept
    exact .inr (kept.trans List.filter_sublist)

theorem placed_sublist {cell : Ptr × Timer} {rest whole : Cells} (placed : Placed cell rest whole) :
    List.Sublist (rest.map Prod.fst) (whole.map Prod.fst) := by
  obtain ⟨front, back, rfl, rfl⟩ := placed
  exact ((List.sublist_cons_self _ _).append_left front).map Prod.fst

theorem placed_remove {t c u : Ptr} {timer : Timer} {rest whole : Cells}
    (placed : Placed (t, timer) rest whole) (behind : From (whole.map Prod.fst) c u)
    (cursor : c ≠ t) (other : u ≠ t) : From (rest.map Prod.fst) c u := by
  obtain ⟨front, back, rfl, rfl⟩ := placed
  rw [List.map_append, List.map_cons] at behind
  rw [List.map_append]
  exact behind.remove cursor other

theorem mem_behind {front back : List Ptr} {t u : Ptr}
    (pair : List.Sublist [t, u] (front ++ t :: back)) (distinct : (front ++ t :: back).Nodup) :
    u ∈ back := by
  induction front with
  | nil => exact List.singleton_sublist.mp (List.cons_sublist_cons.mp pair)
  | cons first front ih =>
      rw [List.cons_append, List.nodup_cons] at distinct
      rw [List.cons_append, List.sublist_cons_iff] at pair
      rcases pair with inside | ⟨_, same, _⟩
      · exact ih inside distinct.2
      · -- A list without repetitions has the timer in one place only.
        obtain ⟨rfl, _⟩ := List.cons.inj same
        exact absurd (List.mem_append_right front List.mem_cons_self) distinct.1

/-- What is behind a timer is its successor, or behind that. -/
theorem From.next {front back : List Ptr} {t u : Ptr}
    (behind : From (front ++ t :: back) t u) (distinct : (front ++ t :: back).Nodup)
    (other : u ≠ t) : ∃ next, back.head? = some next ∧ From (front ++ t :: back) next u := by
  rcases behind with same | pair
  · exact absurd same other
  · have member := mem_behind pair distinct
    cases back with
    | nil => exact absurd member List.not_mem_nil
    | cons next rest =>
        refine ⟨next, rfl, ?_⟩
        rcases List.mem_cons.mp member with same | later
        · exact .inl same
        · have tail : List.Sublist [next, u] (next :: rest) :=
            (List.singleton_sublist.mpr later).cons_cons next
          exact .inr (tail.trans ((List.sublist_cons_self t _).trans
            (List.sublist_append_right front _)))

/-- In an ordered list a timer that is due later is behind. -/
theorem from_earlier {cells : Cells} (sorted : Sorted cells) {c u : Ptr} {first second : Timer}
    (cursor : (c, first) ∈ cells) (other : (u, second) ∈ cells)
    (earlier : key first.time < key second.time) : From (cells.map Prod.fst) c u := by
  obtain ⟨front, back, rfl⟩ := List.append_of_mem cursor
  have parts := List.pairwise_append.mp sorted
  rcases List.mem_append.mp other with inFront | inBack
  · have ordered := parts.2.2 _ inFront _ List.mem_cons_self
    exact absurd earlier (Nat.not_lt.mpr ordered)
  · rcases List.mem_cons.mp inBack with same | behind
    · cases same
      exact absurd earlier (Nat.lt_irrefl _)
    · have member : u ∈ back.map Prod.fst := List.mem_map_of_mem behind
      rw [List.map_append, List.map_cons]
      apply Or.inr
      apply List.Sublist.trans _ (List.sublist_append_right _ _)
      exact (List.singleton_sublist.mpr member).cons_cons c

end Positions

section Invariant

/-- A timer of the list that is due. -/
def Due (cells : Cells) (now : iperf_time) (t : Ptr) : Prop :=
  ∃ timer, (t, timer) ∈ cells ∧ key timer.time ≤ key now

/-- While a call goes on, what waits is due, and the cursor has not passed it. -/
def Ahead (watch : Watch) (cells : Cells) : Phase → Prop
  | .idle => watch.spared = true → watch.waiting = []
  | .walking now t =>
      ∀ u ∈ watch.waiting, Due cells now u ∧
        (watch.spared = true → ∃ c, t = some c ∧ From (cells.map Prod.fst) c u)
  | .calling now t next =>
      ∀ u ∈ watch.waiting, u ≠ t ∧ Due cells now u ∧
        (watch.spared = true → ∃ n, next = some n ∧
          (n ∉ watch.moved → From (cells.map Prod.fst) n u))

theorem placed_due {t u : Ptr} {timer : Timer} {rest whole : Cells} {now : iperf_time}
    (placed : Placed (t, timer) rest whole) (other : u ≠ t) :
    Due whole now u ↔ Due rest now u := by
  unfold Due
  apply exists_congr
  intro value
  rw [placed.mem_iff]
  constructor
  · rintro ⟨same | inside, early⟩
    · exact absurd (congrArg Prod.fst same) other
    · exact ⟨inside, early⟩
  · rintro ⟨inside, early⟩
    exact ⟨.inr inside, early⟩

theorem placed_other {t u : Ptr} {timer value : Timer} {rest whole : Cells}
    (placed : Placed (t, timer) rest whole) (distinct : (whole.map Prod.fst).Nodup)
    (inside : (u, value) ∈ rest) : u ≠ t := by
  rintro rfl
  rw [placed.shape.nodup_iff, List.nodup_cons] at distinct
  exact distinct.1 (List.mem_map_of_mem inside)

theorem time_of_cell {globals : Globals} {cells : Cells} {frees : List Ptr}
    (wf : Wf globals cells frees) {t : Ptr} {timer : Timer} (member : (t, timer) ∈ cells) :
    time_of globals t = some timer.time := by
  obtain ⟨node, stored, value⟩ := cell_value wf member
  rw [time_of, stored, Option.map_some, value]

variable {past : List Event} {before after : System} {event : Event} {cells cells' : Cells}
  {frees frees' : List Ptr} {watch : Watch}

/-- A timer that a callback, or a caller outside, gives another time. -/
theorem reset_ahead {phase : Phase} {t : Ptr} {value moved : Timer} {rest : Cells}
    (accepts : phase.accepts) (ahead : Ahead watch cells phase)
    (left : Placed (t, value) rest cells) (placed : Placed (t, moved) rest cells') :
    Ahead { watch with waiting := watch.waiting.filter (· ≠ t), moved := t :: watch.moved }
      cells' phase := by
  cases phase with
  | idle =>
      intro spared
      rw [ahead spared]
      rfl
  | walking now t => exact accepts.elim
  | calling now running next =>
      -- The timer itself no longer waits, and the others keep their places.
      intro u member
      simp only [List.mem_filter, decide_eq_true_eq] at member
      obtain ⟨apart, due, cursor⟩ := ahead u member.1
      refine ⟨apart, (placed_due placed member.2).mpr ((placed_due left member.2).mp due), ?_⟩
      intro spared
      obtain ⟨n, same, behind⟩ := cursor spared
      refine ⟨n, same, fun kept => ?_⟩
      simp only [List.mem_cons, not_or] at kept
      exact (placed_remove left (behind kept.2) kept.1 member.2).mono (placed_sublist placed)

theorem create_ahead {phase : Phase} {result : Option Ptr} {timer : Timer}
    (wf : Wf after.globals cells' frees) (accepts : phase.accepts) (ahead : Ahead watch cells phase)
    (created : Created result timer cells cells') : Ahead watch cells' phase := by
  cases result with
  | none =>
      rw [show cells' = cells from created]
      exact ahead
  | some t =>
      cases phase with
      | idle => exact ahead
      | walking now t => exact accepts.elim
      | calling now running next =>
          intro u member
          obtain ⟨apart, due, cursor⟩ := ahead u member
          have other : u ≠ t := by
            obtain ⟨kept, inside, _⟩ := due
            exact placed_other created wf.holds.distinct inside
          refine ⟨apart, (placed_due created other).mpr due, fun spared => ?_⟩
          obtain ⟨n, same, behind⟩ := cursor spared
          exact ⟨n, same, fun kept => (behind kept).mono (placed_sublist created)⟩

theorem sorted_rest {cell : Ptr × Timer} {rest whole : Cells} (placed : Placed cell rest whole)
    (sorted : Sorted whole) : Sorted rest := by
  obtain ⟨front, back, rfl, rfl⟩ := placed
  exact sorted_remove sorted

theorem earlier_cells {globals : Globals} (wf : Wf globals cells frees) {t u : Ptr}
    {first second : Timer} (cursor : (t, first) ∈ cells) (other : (u, second) ∈ cells)
    (before : earlier globals t u = true) : key first.time < key second.time := by
  rw [earlier, time_of_cell wf cursor, time_of_cell wf other] at before
  exact (compare_neg_iff _ _).mp (by simpa using before)

/-- The end of a callback: the cursor goes on to the saved `next`. -/
theorem return_ahead (wf : Wf before.globals cells frees) {now : iperf_time} {t : Ptr}
    {next : Option Ptr} (calling : before.phase = .calling now t next)
    (live : ∀ q, next = some q → q ∈ cells.map Prod.fst ∧ q ≠ t)
    (ahead : Ahead watch cells before.phase) {value : Timer} {rest : Cells}
    (left : Placed (t, value) rest cells) (kept : ∀ cell ∈ rest, cell ∈ cells')
    (sublist : List.Sublist (rest.map Prod.fst) (cells'.map Prod.fst)) :
    Ahead { watch with spared := watch.spared && spares watch before } cells'
      (.walking now next) := by
  rw [calling] at ahead
  intro u member
  obtain ⟨other, due, cursor⟩ := ahead u member
  obtain ⟨timer, inside, early⟩ := (placed_due left other).mp due
  refine ⟨⟨timer, kept _ inside, early⟩, fun spared => ?_⟩
  rw [Bool.and_eq_true] at spared
  obtain ⟨n, same, behind⟩ := cursor spared.1
  obtain ⟨listed, apart⟩ := live n same
  refine ⟨n, same, From.mono ?_ sublist⟩
  by_cases reset : n ∈ watch.moved
  · -- The callback has put `next` elsewhere, but before all that is still to fire.
    have condition := spared.2
    simp only [spares, calling, same, reset, not_true, false_or, decide_eq_true_eq] at condition
    obtain ⟨⟨n, first⟩, cell, rfl⟩ := List.mem_map.mp listed
    have later := earlier_cells wf cell (left.mem_iff.mpr (.inr inside)) (condition u member)
    apply from_earlier (sorted_rest left wf.sorted) _ inside later
    rcases left.mem_iff.mp cell with same | remains
    · exact absurd (congrArg Prod.fst same) apart
    · exact remains
  · exact placed_remove left (behind reset) apart other

/-- A timer that is due is called; what waits is behind it. -/
theorem call_ahead (wf : Wf before.globals cells frees) {now : iperf_time} {t : Ptr}
    {node : Node Timer} (walking : before.phase = .walking now (some t))
    (listed : t ∈ cells.map Prod.fst) (stored : before.globals.timers.heap t = some node)
    (ahead : Ahead watch cells before.phase) :
    Ahead { watch with waiting := watch.waiting.filter (· ≠ t), moved := [] } cells
      (.calling now t node.next) := by
  rw [walking] at ahead
  intro u member
  simp only [List.mem_filter, decide_eq_true_eq] at member
  obtain ⟨due, cursor⟩ := ahead u member.1
  refine ⟨member.2, due, fun spared => ?_⟩
  obtain ⟨c, same, behind⟩ := cursor spared
  obtain rfl := Option.some.inj same
  obtain ⟨front, value, back, split⟩ := split_cell listed
  have distinct := wf.holds.distinct
  rw [next_cell wf stored split]
  simp only [split, List.map_append, List.map_cons] at behind distinct ⊢
  obtain ⟨next, head, after⟩ := behind.next distinct member.2
  exact ⟨next, head, fun _ => after⟩

/-- What is behind a timer is due no earlier. -/
theorem behind_later {globals : Globals} (wf : Wf globals cells frees) {t u : Ptr}
    {first second : Timer} (cursor : (t, first) ∈ cells) (other : (u, second) ∈ cells)
    (behind : From (cells.map Prod.fst) t u) : key first.time ≤ key second.time := by
  obtain ⟨node, stored, value⟩ := cell_value wf other
  rcases behind with same | pair
  · subst same
    have same := stored_value wf stored cursor
    rw [← same, value]
  · obtain ⟨front, back, rfl⟩ := List.append_of_mem cursor
    have distinct := wf.holds.distinct
    rw [List.map_append, List.map_cons] at distinct pair
    obtain ⟨⟨q, found⟩, inside, named⟩ := List.mem_map.mp (mem_behind pair distinct)
    dsimp only at named
    subst named
    have member := List.mem_append_right front (List.mem_cons_of_mem (t, first) inside)
    have same : found = second := (stored_value wf stored member).symm.trans value
    rw [same] at inside
    have parts := (List.pairwise_append.mp wf.sorted).2.1
    exact (List.pairwise_cons.mp parts).1 (q, second) inside

/-- A cursor that is not due has nothing behind it that is. -/
theorem break_ahead (wf : Wf before.globals cells frees) {now : iperf_time} {t : Ptr}
    {node : Node Timer} (walking : before.phase = .walking now (some t))
    (listed : t ∈ cells.map Prod.fst) (stored : before.globals.timers.heap t = some node)
    (later : iperf_time_compare node.value.time now > 0)
    (ahead : Ahead watch cells before.phase) : Ahead watch cells .idle := by
  rw [walking] at ahead
  intro spared
  apply List.eq_nil_iff_forall_not_mem.mpr
  intro u member
  obtain ⟨⟨timer, inside, early⟩, cursor⟩ := ahead u member
  obtain ⟨c, same, behind⟩ := cursor spared
  obtain rfl := Option.some.inj same
  obtain ⟨⟨t, first⟩, cell, rfl⟩ := List.mem_map.mp listed
  obtain rfl := stored_value wf stored cell
  have after := (compare_pos_iff _ _).mp later
  have ordered := behind_later wf cell inside behind
  exact absurd (Nat.lt_of_lt_of_le after ordered) (Nat.not_lt.mpr early)

/-- On entry everything is at the cursor or behind it. -/
theorem enter_ahead (wf : Wf before.globals cells frees) (now : iperf_time)
    (exactly : (cells.map Prod.fst).Perm before.active) :
    Ahead { waiting := before.active.filter (due before.globals now) } cells
      (.walking now before.globals.timers.head) := by
  intro u member
  obtain ⟨active, due⟩ := List.mem_filter.mp member
  obtain ⟨⟨u, timer⟩, inside, rfl⟩ := List.mem_map.mp (exactly.mem_iff.mpr active)
  rw [TimerFiring.due, time_of_cell wf inside] at due
  simp only [Option.any_some, decide_eq_true_eq] at due
  have early := mt (compare_pos_iff _ _).mpr due
  refine ⟨⟨timer, inside, Nat.not_lt.mp early⟩, fun _ => ?_⟩
  rw [head_cell wf]
  cases cells with
  | nil => exact absurd inside List.not_mem_nil
  | cons cell rest =>
      refine ⟨cell.1, rfl, ?_⟩
      rcases List.mem_cons.mp inside with same | later
      · exact .inl (congrArg Prod.fst same)
      · have place : (u, timer).1 ∈ rest.map Prod.fst := List.mem_map_of_mem later
        exact .inr ((List.singleton_sublist.mpr place).cons_cons cell.1)

theorem step_ahead (tracks : Tracks past before cells frees)
    (reached : Tracks (past ++ [event]) after cells' frees') (effect : Effect event cells cells')
    (step : Step before event after) (ahead : Ahead watch cells before.phase) :
    Ahead (watch_step watch before event after) cells' after.phase := by
  have wf := tracks.wf
  have listed : ∀ t ∈ before.active, t ∈ cells.map Prod.fst :=
    fun t inside => tracks.exactly.mem_iff.mpr inside
  have poised := tracks.poised
  cases step with
  | create fuel malloc now timer_proc client_data usecs periodic accepts fresh returned =>
      obtain ⟨_, _, _, created⟩ := effect
      exact create_ahead reached.wf accepts ahead created
  | reset fuel now t accepts live returned =>
      obtain ⟨_, value, rest, left, placed⟩ := effect
      exact reset_ahead accepts ahead left placed
  | cancel t idle live returned =>
      show Ahead watch cells' before.phase
      rw [idle] at ahead ⊢
      exact ahead
  | runEnter now idle =>
      rw [show cells' = cells from effect]
      exact enter_ahead wf now tracks.exactly
  | runEnd ended =>
      -- A cursor at the end of the list has nothing behind it.
      rw [ended] at ahead
      intro spared
      apply List.eq_nil_iff_forall_not_mem.mpr
      intro u member
      obtain ⟨c, same, _⟩ := (ahead u member).2 spared
      cases same
  | runBreak walking stored later =>
      rw [show cells' = cells from effect]
      rw [walking] at poised
      exact break_ahead wf walking (listed _ (poised _ rfl)) stored later ahead
  | call walking stored due =>
      rw [show cells' = cells from effect]
      rw [walking] at poised
      exact call_ahead wf walking (listed _ (poised _ rfl)) stored ahead
  | rescheduled fuel calling stored periodic returned =>
      obtain ⟨value, rest, _, left, placed⟩ := effect
      rw [calling] at poised
      apply return_ahead wf calling _ ahead left _ (placed_sublist placed)
      · exact fun q same => ⟨listed q (poised.2 q same).1, (poised.2 q same).2⟩
      · exact fun cell inside => placed.mem_iff.mpr (.inr inside)
  | expired calling stored once returned =>
      obtain ⟨value, _, left⟩ := effect
      rw [calling] at poised
      apply return_ahead wf calling _ ahead left _ (List.Sublist.refl _)
      · exact fun q same => ⟨listed q (poised.2 q same).1, (poised.2 q same).2⟩
      · exact fun cell inside => inside

end Invariant

section Once

/-- How often a timer was called since it was created. -/
def calls (t : Ptr) (past : List Event) : Nat :=
  past.foldl (fun count event =>
    if event = .create (some t) then 0 else if event = .call t then count + 1 else count) 0

theorem calls_append (t : Ptr) (past : List Event) (event : Event) :
    calls t (past ++ [event]) =
      if event = .create (some t) then 0
      else if event = .call t then calls t past + 1 else calls t past := by
  simp [calls]

def running (t : Ptr) : Phase → Nat
  | .calling _ c _ => if c = t then 1 else 0
  | _ => 0

/-- A one-shot timer of the list has not been called before the call that goes on. -/
def Once (past : List Event) (cells : Cells) (phase : Phase) : Prop :=
  ∀ cell ∈ cells, cell.2.periodic = false → calls cell.1 past = running cell.1 phase

variable {past : List Event} {before after : System} {event : Event} {cells cells' : Cells}
  {frees frees' : List Ptr}

theorem step_once (tracks : Tracks past before cells frees)
    (reached : Tracks (past ++ [event]) after cells' frees') (effect : Effect event cells cells')
    (step : Step before event after) (once : Once past cells before.phase) :
    Once (past ++ [event]) cells' after.phase := by
  have poised := tracks.poised
  have distinct := tracks.wf.holds.distinct
  have distinct' := reached.wf.holds.distinct
  rintro ⟨u, timer⟩ inside single
  rw [calls_append]
  cases step with
  | create fuel malloc now timer_proc client_data usecs periodic accepts fresh returned =>
      rename_i globals result
      obtain ⟨_, _, _, created⟩ := effect
      cases result with
      | none =>
          rw [show cells' = cells from created] at inside
          simpa using once (u, timer) inside single
      | some t =>
          rcases Placed.mem_iff created |>.mp inside with same | kept
          · -- The new timer is not the one whose callback creates it.
            obtain ⟨rfl, _⟩ := Prod.mk.inj same
            cases phase : before.phase with
            | idle => simp [running]
            | walking now t => simp [running]
            | calling now t next =>
                rw [phase] at poised
                obtain ⟨⟨c, value⟩, listed, rfl⟩ :=
                  List.mem_map.mp (tracks.exactly.mem_iff.mpr poised.1)
                have other := placed_other created distinct' listed
                simp [running, other]
          · have other := placed_other created distinct' kept
            simpa [other.symm] using once (u, timer) kept single
  | reset fuel now t accepts live returned =>
      obtain ⟨_, value, rest, left, placed⟩ := effect
      rcases placed.mem_iff.mp inside with same | kept
      · obtain ⟨rfl, rfl⟩ := Prod.mk.inj same
        simpa using once (u, value) left.member single
      · simpa using once (u, timer) (left.mem_iff.mpr (.inr kept)) single
  | cancel t idle live returned =>
      obtain ⟨value, placed⟩ := effect
      simpa using once (u, timer) (placed.mem_iff.mpr (.inr inside)) single
  | runEnter now idle =>
      rw [show cells' = cells from effect] at inside
      simpa [idle, running] using once (u, timer) inside single
  | runEnd ended =>
      rw [show cells' = cells from effect] at inside
      simpa [ended, running] using once (u, timer) inside single
  | runBreak walking stored later =>
      rw [show cells' = cells from effect] at inside
      simpa [walking, running] using once (u, timer) inside single
  | call walking stored due =>
      rename_i now t node
      rw [show cells' = cells from effect] at inside
      have before_call : calls u past = 0 := by
        simpa [walking, running] using once (u, timer) inside single
      by_cases same : t = u
      · simp [same, running, before_call]
      · simp [same, running, before_call]
  | rescheduled fuel calling stored periodic returned =>
      obtain ⟨value, rest, repeated, left, placed⟩ := effect
      rcases placed.mem_iff.mp inside with same | kept
      · obtain ⟨rfl, rfl⟩ := Prod.mk.inj same
        exact absurd repeated (by simpa using single)
      · have other := placed_other left distinct kept
        have before_return := once (u, timer) (left.mem_iff.mpr (.inr kept)) single
        simpa [calling, running, other.symm] using before_return
  | expired calling stored once_only returned =>
      obtain ⟨value, _, left⟩ := effect
      have other := placed_other left distinct inside
      have before_return := once (u, timer) (left.mem_iff.mpr (.inr inside)) single
      simpa [calling, running, other.symm] using before_return

end Once

section Nodes
variable {globals after : Globals} {fuel : Nat} {t : Ptr}

theorem list_resort_values {timers sorted : DList Timer}
    (returned : list_resort fuel timers t = some sorted) : sorted.values = timers.values := by
  obtain ⟨removed, unlinked, added⟩ := Option.bind_eq_some_iff.mp returned
  cases stored : removed.heap t with
  | none => simp [list_add, stored] at added
  | some node => rw [list_add_values stored added, DList.remove_values unlinked]

/-- Whether the timer in a node is periodic, be it on the active list or free. -/
def repeats (globals : Globals) (t : Ptr) : Option Bool :=
  (globals.timers.values t).map Timer.periodic

theorem retime_repeats {time : Timer → iperf_time}
    (returned : retime fuel globals t time = some after) : repeats after = repeats globals := by
  unfold retime at returned
  split at returned
  · cases returned
  · rename_i node stored
    obtain ⟨timed, wrote, rest⟩ := Option.bind_eq_some_iff.mp returned
    obtain ⟨sorted, resorted, rfl⟩ := Option.map_eq_some_iff.mp rest
    funext q
    unfold repeats
    rw [list_resort_values resorted, DList.setValue_values wrote]
    by_cases here : q = t
    · subst here
      simp [DList.values, stored]
    · rw [Function.update_of_ne here]

/-- A timer that is cancelled or has expired leaves its values in the node. -/
theorem tmr_cancel_repeats (returned : tmr_cancel globals t = some after) :
    repeats after = repeats globals := by
  obtain ⟨removed, unlinked, rest⟩ := Option.bind_eq_some_iff.mp returned
  obtain ⟨timers, linked, rfl⟩ := Option.map_eq_some_iff.mp rest
  funext q
  unfold repeats
  rw [DList.setLinks_values linked, DList.remove_values unlinked]

theorem tmr_create_timers {malloc : Option Ptr} {now : iperf_time} {timer_proc client_data : Ptr}
    {usecs : Int64} {periodic : Bool}
    (returned : tmr_create fuel globals malloc now timer_proc client_data usecs periodic =
      some (none, after)) : after.timers = globals.timers := by
  unfold tmr_create at returned
  split at returned
  · cases returned
  · rename_i taken took
    cases returned
    exact takeNode_timers took
  · obtain ⟨_, _, same⟩ := Option.map_eq_some_iff.mp returned
    cases same

/-- Only the creation of a timer says whether it is periodic. -/
theorem step_repeats {before after : System} {event : Event} (step : Step before event after)
    (other : event ≠ .create (some t)) :
    repeats after.globals t = repeats before.globals t := by
  cases step with
  | create fuel malloc now timer_proc client_data usecs periodic accepts fresh returned =>
      rename_i result
      cases result with
      | none => rw [repeats, repeats, tmr_create_timers returned]
      | some made =>
          have away : t ≠ made := fun same => other (by rw [same])
          rw [repeats, repeats, (tmr_create_values returned).2, Function.update_of_ne away]
  | reset fuel now reset accepts live returned => rw [retime_repeats returned]
  | cancel cancelled idle live returned => rw [tmr_cancel_repeats returned]
  | runEnter now idle => rfl
  | runEnd ended => rfl
  | runBreak walking stored later => rfl
  | call walking stored due => rfl
  | rescheduled fuel calling stored periodic returned => rw [retime_repeats returned]
  | expired calling stored once returned => rw [tmr_cancel_repeats returned]

end Nodes

section Runs

/-- What holds of the calls of `tmr_run` after a history. `once` is about every node that
a one-shot timer was last created in, whether the timer is still there or has expired. -/
structure Firing (past : List Event) (system : System) (watch : Watch) : Prop where
  due : watch.spared = true → system.phase = .idle → watch.waiting = []
  once : ∀ t node, system.globals.timers.heap t = some node → node.value.periodic = false →
    calls t past ≤ 1
  not_early : ∀ t after, Step system (.call t) after →
    ∃ now time, system.phase = .walking now (some t) ∧ time_of system.globals t = some time ∧
      key time ≤ key now

theorem called_due {system after : System} {t : Ptr} (step : Step system (.call t) after) :
    ∃ now time, system.phase = .walking now (some t) ∧ time_of system.globals t = some time ∧
      key time ≤ key now := by
  cases step with
  | call walking stored due =>
      refine ⟨_, _, walking, ?_, Nat.not_lt.mp (mt (compare_pos_iff _ _).mpr due)⟩
      rw [time_of, stored, Option.map_some]

/-- No one-shot timer, there or gone, has been called twice since it was created. -/
def Single (past : List Event) (globals : Globals) : Prop :=
  ∀ t, repeats globals t = some false → calls t past ≤ 1

/-- A call is the first one, as only timers of the list are called. -/
theorem step_single {past : List Event} {before after : System} {event : Event} {cells : Cells}
    {frees : List Ptr} (tracks : Tracks past before cells frees)
    (once : Once past cells before.phase) (single : Single past before.globals)
    (step : Step before event after) : Single (past ++ [event]) after.globals := by
  intro t marked
  rw [calls_append]
  by_cases created : event = .create (some t)
  · rw [if_pos created]
    exact Nat.zero_le 1
  rw [if_neg created]
  rw [step_repeats step created] at marked
  have kept := single t marked
  split
  · rename_i called
    subst called
    have poised := tracks.poised
    cases step with
    | call walking stored due =>
        rename_i now node
        rw [walking] at poised
        have listed := tracks.exactly.mem_iff.mpr (poised t rfl)
        obtain ⟨⟨t, timer⟩, inside, rfl⟩ := List.mem_map.mp listed
        rw [repeats, DList.values, stored, Option.map_some, Option.map_some, Option.some.injEq,
          stored_value tracks.wf stored inside] at marked
        have first : calls t past = 0 := by
          simpa [walking, running] using once (t, timer) inside marked
        rw [first]
  · exact kept

def Held (past : List Event) (state : System × Watch) : Prop :=
  ∃ cells frees, Tracks past state.1 cells frees ∧ Ahead state.2 cells state.1.phase ∧
    Once past cells state.1.phase ∧ Single past state.1.globals

theorem fresh_held : Held [] (fresh, {}) := by
  refine ⟨[], [], fresh_tracks, ?_, nofun, fun t marked => Nat.zero_le 1⟩
  intro spared
  rfl

theorem step_held {past : List Event} {before after : System × Watch} {event : Event}
    (held : Held past before) (step : WatchedStep before event after) :
    Held (past ++ [event]) after := by
  obtain ⟨cells, frees, tracks, ahead, once, single⟩ := held
  obtain ⟨moves, watched⟩ := step
  obtain ⟨cells', frees', reached, effect⟩ := step_effect tracks moves
  refine ⟨cells', frees', reached, ?_, step_once tracks reached effect moves once,
    step_single tracks once single moves⟩
  rw [watched]
  exact step_ahead tracks reached effect moves ahead

/-- In every call of `tmr_run` whose callbacks do not put the saved `next` behind a
timer that is still to fire, all that was due on entry and not reset has fired when
it returns. No one-shot timer is called twice in its life, and none is called early. -/
theorem tmr_run_fires_due (past : List Event) (system : System) (watch : Watch)
    (run : Run WatchedStep (fresh, {}) past (system, watch)) : Firing past system watch := by
  obtain ⟨cells, frees, tracks, ahead, once, single⟩ :=
    run.invariant Held fresh_held fun _ _ _ _ held step => step_held held step
  constructor
  · intro spared idle
    dsimp only at ahead
    rw [idle] at ahead
    exact ahead spared
  · intro t node stored marked
    apply single t
    rw [repeats, DList.values, stored, Option.map_some, Option.map_some, marked]
  · exact fun t after step => called_due step

theorem watched_next {past : List Event} {before after : System} {watch : Watch} {event : Event}
    (run : Run WatchedStep (fresh, {}) past (before, watch)) (step : Step before event after) :
    Run WatchedStep (fresh, {}) (past ++ [event])
      (after, watch_step watch before event after) :=
  run.next event ⟨step, rfl⟩

/-- The omit timer of a client resets the statistics' timer, on time. -/
theorem tmr_run_fires_omit :
    ∃ system watch, Firing [.create (some 2), .create (some 4), .runEnter, .call 4, .reset 2,
      .expired 4, .runLeave] system watch ∧ system.phase = .idle ∧ watch.spared = true := by
  have stats := watched_next Run.start
    (Step.create 5 (some 2) ⟨0, 0⟩ 2 0 2000000 true (by trivial) (by rintro _ ⟨⟩; rfl) rfl)
  have omits := watched_next stats
    (Step.create 5 (some 4) ⟨0, 0⟩ 4 0 1000000 false (by trivial) (by rintro _ ⟨⟩; rfl) rfl)
  have entered := watched_next omits (Step.runEnter ⟨1, 0⟩ rfl)
  have called := watched_next entered (Step.call rfl rfl (by decide))
  have restarted := watched_next called (Step.reset 5 ⟨1, 0⟩ 2 (by trivial) (by decide) rfl)
  have expired := watched_next restarted (Step.expired rfl rfl rfl rfl)
  have left := watched_next expired (Step.runBreak rfl rfl (by decide))
  exact ⟨_, _, tmr_run_fires_due _ _ _ left, rfl, by decide⟩

/-- A client with `-t 10 -O 1 -i 2` whose loop comes back after 12 seconds: the omit
timer resets the statistics' timer, which is the saved `next`, and the call returns
at it. The test's timer, due at 11 seconds, does not fire. -/
theorem tmr_run_skips :
    ¬ ∀ past system watch, Run WatchedStep (fresh, {}) past (system, watch) →
      system.phase = .idle → watch.waiting = [] := by
  intro all
  have test := watched_next Run.start
    (Step.create 5 (some 1) ⟨0, 0⟩ 1 0 11000000 false (by trivial) (by rintro _ ⟨⟩; rfl) rfl)
  have stats := watched_next test
    (Step.create 5 (some 2) ⟨0, 0⟩ 2 0 2000000 true (by trivial) (by rintro _ ⟨⟩; rfl) rfl)
  have reporter := watched_next stats
    (Step.create 5 (some 3) ⟨0, 0⟩ 3 0 2000000 true (by trivial) (by rintro _ ⟨⟩; rfl) rfl)
  have omits := watched_next reporter
    (Step.create 5 (some 4) ⟨0, 0⟩ 4 0 1000000 false (by trivial) (by rintro _ ⟨⟩; rfl) rfl)
  have entered := watched_next omits (Step.runEnter ⟨12, 0⟩ rfl)
  have called := watched_next entered (Step.call rfl rfl (by decide))
  have restarted := watched_next called (Step.reset 5 ⟨12, 0⟩ 2 (by trivial) (by decide) rfl)
  have again := watched_next restarted (Step.reset 5 ⟨12, 0⟩ 3 (by trivial) (by decide) rfl)
  have expired := watched_next again (Step.expired rfl rfl rfl rfl)
  have left := watched_next expired (Step.runBreak rfl rfl (by decide))
  exact absurd (all _ _ _ left rfl) (by decide)

end Runs

end Iperf.TimerFiring
