/-!
Transfers in attempts. A number of units is to be taken over; each attempt takes some of
those that are left, takes none, or stops the transfer for a reason. A transfer that has
not been stopped when the attempts run out is still under way.
-/

namespace Iperf.Transfer

universe u
variable {Stop : Type u}

inductive Attempt (Stop : Type u) where
  | takes (units : Nat)
  | stops (why : Stop)
  deriving DecidableEq, Repr

inductive Ending (Stop : Type u) where
  | whole
  | nothing
  | stopped (why : Stop)
  deriving DecidableEq, Repr

/-- How much was taken in all, how the transfer ended, and the attempts behind it. -/
structure Transferred (Stop : Type u) where
  taken : Nat
  ending : Ending Stop
  rest : List (Attempt Stop)
  deriving DecidableEq, Repr

/-- The transfer of `left` units behind the `taken` ones. -/
def transfer : Nat → Nat → List (Attempt Stop) → Option (Transferred Stop)
  | taken, left, [] => if left = 0 then some ⟨taken, .whole, []⟩ else none
  | taken, left, attempt :: rest =>
      if left = 0 then some ⟨taken, .whole, attempt :: rest⟩
      else
        match attempt with
        | .takes units =>
            if min units left = 0 then some ⟨taken, .nothing, rest⟩
            else transfer (taken + min units left) (left - min units left) rest
        | .stops why => some ⟨taken, .stopped why, rest⟩

section Rules
variable {taken left : Nat} {attempts : List (Attempt Stop)} {done : Transferred Stop}

@[simp] theorem transfer_zero : transfer taken 0 attempts = some ⟨taken, .whole, attempts⟩ := by
  cases attempts <;> simp [transfer]

/-- A transfer takes what is left at the most, and the whole of it only when it ends so. -/
theorem transfer_bounds (ended : transfer taken left attempts = some done) :
    taken ≤ done.taken ∧ done.taken ≤ taken + left ∧
      (done.ending = .whole ↔ done.taken = taken + left) := by
  revert ended
  fun_induction transfer taken left attempts with
  | case1 => rintro ⟨⟩; simp
  | case2 => rintro ⟨⟩
  | case3 => rintro ⟨⟩; simp
  | case4 => rintro ⟨⟩; simp; omega
  | case5 taken left rest some units more ih =>
      intro ended
      rcases ih ended with ⟨grows, within, whole⟩
      rw [whole]
      omega
  | case6 => rintro ⟨⟩; simp; omega

/-- What is behind the transfer are attempts that it did not need. -/
theorem rest_suffix (ended : transfer taken left attempts = some done) :
    done.rest <:+ attempts := by
  revert ended
  fun_induction transfer taken left attempts with
  | case1 => rintro ⟨⟩; simp
  | case2 => rintro ⟨⟩
  | case3 => rintro ⟨⟩; simp
  | case4 => rintro ⟨⟩; simp
  | case5 taken left rest some units more ih =>
      intro ended
      exact (ih ended).trans (List.suffix_cons _ _)
  | case6 => rintro ⟨⟩; simp

/-- The reason is that of one of the attempts. -/
theorem stopped_mem {why : Stop} (ended : transfer taken left attempts = some done)
    (stopped : done.ending = .stopped why) : .stops why ∈ attempts := by
  revert ended
  fun_induction transfer taken left attempts with
  | case1 => rintro ⟨⟩; cases stopped
  | case2 => rintro ⟨⟩
  | case3 => rintro ⟨⟩; cases stopped
  | case4 => rintro ⟨⟩; cases stopped
  | case5 taken left rest some units more ih =>
      intro ended
      exact List.mem_cons_of_mem _ (ih ended)
  | case6 => rintro ⟨⟩; cases stopped; exact List.mem_cons_self

end Rules

end Iperf.Transfer
