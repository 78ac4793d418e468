import Iperf.SelectTimeout
import Iperf.TimerEffects

/-!
`tmr_timeout` looks at the head of the list alone. Every time in the list is one
that `iperf_time_add_usecs` computed, with less than a second of microseconds, so
the order of the list is the order of the expiries.
-/

namespace Iperf.TimerTimeout

open DoublyLinked Timers TimerOrder TimerEffects Time Transition SelectTimeout

/-- All active timers have times of a clock. -/
def Normal (cells : Cells) : Prop := ∀ cell ∈ cells, Proper cell.2.time

theorem placed_normal {cell : Ptr × Timer} {rest whole : Cells} (placed : Placed cell rest whole) :
    Normal whole ↔ Proper cell.2.time ∧ Normal rest :=
  @Placed.forall_iff (fun timer => Proper timer.time) _ _ _ placed

/-- A new time is the result of an addition. -/
theorem effect_normal {event : Event} {cells cells' : Cells} (effect : Effect event cells cells')
    (normal : Normal cells) : Normal cells' := by
  cases event with
  | create result =>
      obtain ⟨now, timer, timed, created⟩ := effect
      cases result with
      | none =>
          rw [show cells' = cells from created]
          exact normal
      | some t =>
          apply (placed_normal created).mpr
          constructor
          · rw [timed]
            exact add_usecs_proper _ _
          · exact normal
  | reset t =>
      obtain ⟨now, value, rest, left, placed⟩ := effect
      exact (placed_normal placed).mpr ⟨add_usecs_proper _ _, ((placed_normal left).mp normal).2⟩
  | rescheduled t =>
      obtain ⟨value, rest, _, left, placed⟩ := effect
      exact (placed_normal placed).mpr ⟨add_usecs_proper _ _, ((placed_normal left).mp normal).2⟩
  | cancel t =>
      obtain ⟨value, placed⟩ := effect
      exact ((placed_normal placed).mp normal).2
  | expired t =>
      obtain ⟨value, _, placed⟩ := effect
      exact ((placed_normal placed).mp normal).2
  | runEnter =>
      rw [show cells' = cells from effect]
      exact normal
  | runLeave =>
      rw [show cells' = cells from effect]
      exact normal
  | call t =>
      rw [show cells' = cells from effect]
      exact normal

theorem run_normal {past : List Event} {system : System} (run : Run Step fresh past system) :
    ∃ cells frees, Tracks past system cells frees ∧ Normal cells := by
  apply run.invariant fun past system =>
    ∃ cells frees, Tracks past system cells frees ∧ Normal cells
  · exact ⟨[], [], fresh_tracks, nofun⟩
  · rintro past before event after ⟨cells, frees, tracks, normal⟩ step
    obtain ⟨cells', frees', tracks', effect⟩ := step_effect tracks step
    exact ⟨cells', frees', tracks', effect_normal effect normal⟩

/-- When a timer expires, in microseconds. -/
def expiry (globals : Globals) (t : Ptr) : Option Int :=
  (globals.timers.heap t).map fun node => micros node.value.time

/-- The earliest expiry among these timers. -/
def Earliest (globals : Globals) (timers : List Ptr) (t_min : Int) : Prop :=
  (∃ t ∈ timers, expiry globals t = some t_min) ∧
    ∀ t ∈ timers, ∃ time, expiry globals t = some time ∧ t_min ≤ time

theorem cell_expiry {globals : Globals} {cells : Cells} {frees : List Ptr}
    (wf : Wf globals cells frees) {cell : Ptr × Timer} (member : cell ∈ cells) :
    expiry globals cell.1 = some (micros cell.2.time) := by
  obtain ⟨node, stored, value⟩ := cell_value wf member
  rw [expiry, stored, Option.map_some, value]

/-- The head of the list has the earliest expiry. -/
theorem head_earliest {globals : Globals} {cell : Ptr × Timer} {rest : Cells} {frees : List Ptr}
    (wf : Wf globals (cell :: rest) frees) (normal : Normal (cell :: rest)) :
    Earliest globals ((cell :: rest).map Prod.fst) (micros cell.2.time) := by
  constructor
  · exact ⟨cell.1, List.mem_cons_self, cell_expiry wf List.mem_cons_self⟩
  · intro t member
    obtain ⟨other, inside, rfl⟩ := List.mem_map.mp member
    refine ⟨_, cell_expiry wf inside, ?_⟩
    rcases List.mem_cons.mp inside with rfl | later
    · exact Int.le_refl _
    · apply key_micros (normal cell List.mem_cons_self) (normal other inside)
      exact (List.pairwise_cons.mp wf.sorted).1 other later

/-- After every history `tmr_timeout` is the exact time to the earliest expiry. -/
theorem tmr_timeout_exact (past : List Event) (system : System)
    (run : Run Step fresh past system) (now : iperf_time) (clock : Proper now) :
    ∃ timeout, tmr_timeout system.globals now = some timeout ∧
      (timeout = none ↔ live past = []) ∧
      ∀ result, timeout = some result →
        0 ≤ result.tv_usec ∧ result.tv_usec < 1000000 ∧
          ∃ t_min, Earliest system.globals (live past) t_min ∧
            result.usecs = max 0 (t_min - micros now) := by
  obtain ⟨cells, frees, tracks, normal⟩ := run_normal run
  refine ⟨_, tmr_timeout_first tracks.wf clock normal, ?_⟩
  have exactly : (cells.map Prod.fst).Perm (live past) := tracks.active ▸ tracks.exactly
  cases cells with
  | nil =>
      have empty : live past = [] := exactly.symm.eq_nil
      simp [empty]
  | cons cell rest =>
      have some : live past ≠ [] := by
        intro empty
        rw [empty] at exactly
        exact absurd exactly.eq_nil (by simp)
      constructor
      · simp [some]
      · rintro result ⟨⟩
        refine ⟨?_, ?_, micros cell.2.time, ?_, usecs_timeval _⟩
        · unfold timeval_of
          dsimp only
          omega
        · unfold timeval_of
          dsimp only
          omega
        · have ⟨⟨t, member, expires⟩, all⟩ := head_earliest tracks.wf normal
          constructor
          · exact ⟨t, exactly.mem_iff.mp member, expires⟩
          · intro other inside
            exact all other (exactly.mem_iff.mpr inside)

/-- A timer of one second, 0.4 seconds after it was set. -/
theorem tmr_timeout_sample :
    ∃ (system : System) (timeout : Option timeval),
      tmr_timeout system.globals ⟨5, 400000⟩ = some timeout ∧
      (timeout = none ↔ live [.create (some 10)] = []) ∧
      ∀ result, timeout = some result →
        0 ≤ result.tv_usec ∧ result.tv_usec < 1000000 ∧
          ∃ t_min, Earliest system.globals (live [.create (some 10)]) t_min ∧
            result.usecs = max 0 (t_min - micros ⟨5, 400000⟩) := by
  have created := Run.next (.create (some 10)) (Run.start : Run Step fresh [] _)
    (Step.create 0 (some 10) ⟨5, 0⟩ 1 0 1000000 false (by trivial) (by rintro _ ⟨⟩; rfl) rfl)
  exact ⟨_, tmr_timeout_exact _ _ created ⟨5, 400000⟩ (by decide)⟩

end Iperf.TimerTimeout
