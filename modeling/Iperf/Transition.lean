/-!
Labelled transition systems. A run keeps the list of its events, oldest first,
so that an invariant can relate a state to everything that happened before it.
-/

namespace Iperf.Transition

universe u v
variable {State : Type u} {Event : Type v}

inductive Run (step : State → Event → State → Prop) (start : State) :
    List Event → State → Prop where
  | start : Run step start [] start
  | next {past : List Event} {before after : State} (event : Event) :
      Run step start past before → step before event after →
      Run step start (past ++ [event]) after

/-- The induction over runs: what holds at the start and is kept by every step
holds, together with the history, in every state that is reached. -/
theorem Run.invariant {step : State → Event → State → Prop} {start : State}
    (Inv : List Event → State → Prop) (initial : Inv [] start)
    (kept : ∀ past before event after, Inv past before → step before event after →
      Inv (past ++ [event]) after)
    {past : List Event} {state : State} (run : Run step start past state) : Inv past state := by
  induction run with
  | start => exact initial
  | next event _ moves ih => exact kept _ _ event _ ih moves

theorem Run.trans {step : State → Event → State → Prop} {start middle final : State}
    {first second : List Event} (run : Run step start first middle)
    (more : Run step middle second final) : Run step start (first ++ second) final := by
  induction more with
  | start => rwa [List.append_nil]
  | next event _ moves ih =>
      rw [← List.append_assoc]
      exact ih.next event moves

/-- Runs of bounded length end in a state without further steps. -/
theorem bounded_run_ends {step : State → Event → State → Prop} {start : State} {bound : Nat}
    (bounded : ∀ past state, Run step start past state → past.length ≤ bound) :
    ∃ past state, Run step start past state ∧ ∀ event after, ¬ step state event after := by
  apply Classical.byContradiction
  intro endless
  have longer : ∀ length, ∃ past state, Run step start past state ∧ past.length = length := by
    intro length
    induction length with
    | zero => exact ⟨[], start, .start, rfl⟩
    | succ length ih =>
        obtain ⟨past, state, run, counted⟩ := ih
        apply Classical.byContradiction
        intro ended
        refine endless ⟨past, state, run, fun event after moves => ?_⟩
        exact ended ⟨past ++ [event], after, run.next event moves, by simp [counted]⟩
  obtain ⟨past, state, run, counted⟩ := longer (bound + 1)
  have short := bounded past state run
  omega

/-- The steps that end in a state with a given property. -/
def Within (keeps : State → Prop) (step : State → Event → State → Prop) :
    State → Event → State → Prop :=
  fun before event after => step before event after ∧ keeps after

/-- Every event of a history meets a condition on the history before it. -/
def Each (ok : List Event → Event → Prop) (past : List Event) : Prop :=
  ∀ front event back, past = front ++ event :: back → ok front event

theorem each_nil (ok : List Event → Event → Prop) : Each ok [] := by
  intro front event back split
  simp at split

theorem each_append (ok : List Event → Event → Prop) (past : List Event) (event : Event) :
    Each ok (past ++ [event]) ↔ Each ok past ∧ ok past event := by
  constructor
  · intro each
    refine ⟨fun front earlier back split => ?_, each past event [] rfl⟩
    exact each front earlier (back ++ [event]) (by simp [split])
  · intro ⟨each, last⟩ front found back split
    rcases List.eq_nil_or_concat back with none | ⟨middle, final, shape⟩
    · subst none
      obtain ⟨same, single⟩ := List.append_inj' split rfl
      obtain rfl := List.head_eq_of_cons_eq single
      exact same ▸ last
    · rw [List.concat_eq_append] at shape
      subst shape
      have longer : past ++ [event] = (front ++ found :: middle) ++ [final] := by simp [split]
      exact each front found middle (List.append_inj' longer rfl).1

end Iperf.Transition
