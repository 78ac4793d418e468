/-!
Loops as iterated bodies. A body inspects its state and either stops with a
result, continues with the next state, or is stuck (`none`, an access through a
dangling pointer in the programs that use this). `run` is the executable form
with a budget; `Returns` says that some budget is enough, and the rules below
compose and invert it without mentioning budgets.
-/

namespace Iperf.Loop

universe u v
variable {State : Type u} {Result : Type v}

inductive Verdict (State : Type u) (Result : Type v) where
  | again (next : State)
  | done (result : Result)

abbrev Body (State : Type u) (Result : Type v) := State → Option (Verdict State Result)

def run (body : Body State Result) : Nat → State → Option Result
  | 0, _ => none
  | fuel + 1, state =>
      match body state with
      | none => none
      | some (.done result) => some result
      | some (.again next) => run body fuel next

def Returns (body : Body State Result) (state : State) (result : Result) : Prop :=
  ∃ fuel, run body fuel state = some result

theorem returns_done {body : Body State Result} {state : State} {result : Result}
    (stops : body state = some (.done result)) : Returns body state result :=
  ⟨1, by simp [run, stops]⟩

theorem returns_again {body : Body State Result} {state next : State} {result : Result}
    (continues : body state = some (.again next)) (rest : Returns body next result) :
    Returns body state result := by
  obtain ⟨fuel, finished⟩ := rest
  exact ⟨fuel + 1, by simp [run, continues, finished]⟩

theorem run_mono {body : Body State Result} {state : State} {result : Result} {fuel more : Nat}
    (finished : run body fuel state = some result) (enough : fuel ≤ more) :
    run body more state = some result := by
  induction fuel generalizing state more with
  | zero => simp [run] at finished
  | succ fuel ih =>
      cases more with
      | zero => omega
      | succ more =>
          simp only [run] at finished ⊢
          cases step : body state with
          | none => simp [step] at finished
          | some verdict =>
              cases verdict with
              | done value => simpa [step] using finished
              | again next =>
                  simp only [step] at finished ⊢
                  exact ih finished (Nat.le_of_succ_le_succ enough)

/-- What holds of every result the body stops with holds of the loop's result. -/
theorem run_result {body : Body State Result} {P : Result → Prop}
    (stops : ∀ state result, body state = some (.done result) → P result)
    {fuel : Nat} {state : State} {result : Result}
    (finished : run body fuel state = some result) : P result := by
  induction fuel generalizing state with
  | zero => cases finished
  | succ fuel ih =>
      simp only [run] at finished
      cases step : body state with
      | none => simp [step] at finished
      | some verdict =>
          cases verdict with
          | done value =>
              simp only [step, Option.some.injEq] at finished
              exact finished ▸ stops state value step
          | again next =>
              simp only [step] at finished
              exact ih finished

/-- A loop has one result, whatever the budgets were. -/
theorem Returns.unique {body : Body State Result} {state : State} {left right : Result}
    (first : Returns body state left) (second : Returns body state right) : left = right := by
  obtain ⟨fuel, finished⟩ := first
  obtain ⟨other, ended⟩ := second
  have raised := run_mono finished (Nat.le_max_left fuel other)
  have lifted := run_mono ended (Nat.le_max_right fuel other)
  rw [raised] at lifted
  exact Option.some.inj lifted

/-- A call with a budget that answers `result` when the budget is enough, and
never anything else. -/
def Yields (call : Nat → Option Result) (result : Result) : Prop :=
  (∃ fuel, call fuel = some result) ∧ ∀ fuel other, call fuel = some other → other = result

theorem yields_some (result : Result) : Yields (fun _ => some result) result :=
  ⟨⟨0, rfl⟩, fun _ _ same => (Option.some.inj same).symm⟩

theorem Returns.yields {body : Body State Result} {state : State} {result : Result}
    (returns : Returns body state result) : Yields (fun fuel => run body fuel state) result :=
  ⟨returns, fun fuel _ ran => Returns.unique ⟨fuel, ran⟩ returns⟩

theorem Yields.bind {Output : Type v} {call : Nat → Option Result} {result : Result}
    (yields : Yields call result) {next : Result → Option Output} {output : Output}
    (follows : next result = some output) : Yields (fun fuel => (call fuel).bind next) output := by
  obtain ⟨⟨fuel, ran⟩, only⟩ := yields
  refine ⟨⟨fuel, by simp [ran, follows]⟩, fun other found chained => ?_⟩
  obtain ⟨middle, called, ended⟩ := Option.bind_eq_some_iff.mp chained
  rw [only other middle called, follows] at ended
  exact (Option.some.inj ended).symm

theorem Yields.map {Output : Type v} {call : Nat → Option Result} {result : Result}
    (yields : Yields call result) (output : Result → Output) :
    Yields (fun fuel => (call fuel).map output) (output result) := by
  have follows : (some ∘ output) result = some (output result) := rfl
  simpa only [Option.map_eq_bind] using yields.bind follows

end Iperf.Loop
