/-!
Computations that may fail. A postcondition speaks about the result of one that
succeeds and about the error of one that fails.
-/

namespace Iperf.Outcome

universe u v w
variable {Error : Type w} {Result Next : Type v}

def Ends (good : Result → Prop) (bad : Error → Prop) : Except Error Result → Prop
  | .ok result => good result
  | .error error => bad error

@[simp] theorem ends_ok (good : Result → Prop) (bad : Error → Prop) (result : Result) :
    Ends good bad (.ok result) ↔ good result := Iff.rfl

@[simp] theorem ends_error (good : Result → Prop) (bad : Error → Prop) (error : Error) :
    Ends good bad (.error error) ↔ bad error := Iff.rfl

theorem Ends.bind {middle : Result → Prop} {good : Next → Prop} {bad : Error → Prop}
    {first : Except Error Result} {next : Result → Except Error Next}
    (start : Ends middle bad first) (rest : ∀ result, middle result → Ends good bad (next result)) :
    Ends good bad (first >>= next) := by
  cases first with
  | ok result => exact rest result start
  | error error => exact start

theorem Ends.imp {good weaker : Result → Prop} {bad worse : Error → Prop}
    {first : Except Error Result} (ends : Ends good bad first)
    (succeeds : ∀ result, good result → weaker result) (fails : ∀ error, bad error → worse error) :
    Ends weaker worse first := by
  cases first with
  | ok result => exact succeeds result ends
  | error error => exact fails error ends

/-- A result comes with the fact that it is one. -/
theorem Ends.traced {good : Result → Prop} {bad : Error → Prop} {first : Except Error Result}
    (ends : Ends good bad first) :
    Ends (fun result => good result ∧ first = .ok result) bad first := by
  cases first with
  | ok result => exact ⟨ends, rfl⟩
  | error error => exact ends

theorem Ends.along {good other : Result → Prop} {bad worse : Error → Prop}
    {first : Except Error Result} (ends : Ends good bad first) (too : Ends other worse first) :
    Ends (fun result => good result ∧ other result) bad first := by
  cases first with
  | ok result => exact ⟨ends, too⟩
  | error error => exact ends

theorem Ends.both {good other : Result → Prop} {bad worse : Error → Prop}
    {first : Except Error Result} (ends : Ends good bad first) (too : Ends other worse first) :
    Ends (fun result => good result ∧ other result) (fun error => bad error ∧ worse error)
      first := by
  cases first with
  | ok result => exact ⟨ends, too⟩
  | error error => exact ⟨ends, too⟩

theorem Ends.of_ok {good : Result → Prop} {bad : Error → Prop} {first : Except Error Result}
    {result : Result} (ends : Ends good bad first) (succeeds : first = .ok result) : good result := by
  subst succeeds
  exact ends

theorem Ends.of_error {good : Result → Prop} {bad : Error → Prop} {first : Except Error Result}
    {error : Error} (ends : Ends good bad first) (fails : first = .error error) : bad error := by
  subst fails
  exact ends

/-- The induction over a loop that stops at the first error. -/
theorem Ends.foldlM {State : Type u} {Item : Type v} {good : State → Prop} {bad : Error → Prop}
    {step : State → Item → Except Error State}
    (kept : ∀ state item, good state → Ends good bad (step state item)) {start : State}
    (begun : good start) (items : List Item) : Ends good bad (items.foldlM step start) := by
  induction items generalizing start with
  | nil => exact begun
  | cons item rest ih =>
      rw [List.foldlM_cons]
      apply Ends.bind (kept start item begun)
      intro next held
      exact ih held

end Iperf.Outcome
