import Mathlib.Data.Finset.Card
import Mathlib.Data.Finset.Lattice.Fold
import Mathlib.Order.Interval.Finset.Nat
import Mathlib.Tactic.Ring
import Mathlib.Tactic.Linarith

/-!
A constant-space account of a numbered packet stream. The ledger keeps the
largest number seen, a count of late arrivals and a running loss estimate that
is clamped at zero. The results bound the estimate against the set of numbers
that really arrived, for every order, every gap and every repetition.
-/

namespace Iperf.SequenceLedger

structure Ledger where
  highest : Nat
  lost : Nat
  late : Nat
  deriving DecidableEq, Repr

def empty : Ledger := ⟨0, 0, 0⟩

/-- A number beyond the largest one books its gap as lost; any other arrival is
late and takes one loss back while there is one. -/
def arrive (ledger : Ledger) (number : Nat) : Ledger :=
  if ledger.highest < number then
    { ledger with
      highest := number
      lost := ledger.lost + (number - 1 - ledger.highest) }
  else
    { ledger with
      lost := ledger.lost - 1
      late := ledger.late + 1 }

def arrivals : Ledger → List Nat → Ledger
  | ledger, [] => ledger
  | ledger, number :: rest => arrivals (arrive ledger number) rest

/-- The arrivals of `rest` that are not larger than some earlier arrival. -/
def lateArrivals : List Nat → List Nat → Nat
  | _, [] => 0
  | earlier, number :: rest =>
      (if ∃ prior ∈ earlier, number ≤ prior then 1 else 0) +
        lateArrivals (earlier ++ [number]) rest

def largest (numbers : List Nat) : Nat := numbers.foldr max 0

def missing (numbers : List Nat) : Nat :=
  largest numbers - numbers.toFinset.card

def duplicates (numbers : List Nat) : Nat :=
  numbers.length - numbers.toFinset.card

theorem le_largest (numbers : List Nat) (number : Nat) (member : number ∈ numbers) :
    number ≤ largest numbers := by
  induction numbers with
  | nil => simp at member
  | cons first rest ih =>
      simp only [largest, List.foldr_cons]
      rcases List.mem_cons.mp member with same | later
      · subst number
        exact Nat.le_max_left _ _
      · exact Nat.le_trans (ih later) (Nat.le_max_right _ _)

theorem largest_mem (numbers : List Nat) (positive : 0 < largest numbers) :
    largest numbers ∈ numbers := by
  induction numbers with
  | nil => simp [largest] at positive
  | cons first rest ih =>
      simp only [largest, List.foldr_cons] at positive ⊢
      rcases Nat.le_total first (rest.foldr max 0) with below | above
      · rw [Nat.max_eq_right below] at positive ⊢
        exact List.mem_cons_of_mem first (ih positive)
      · rw [Nat.max_eq_left above]
        exact List.mem_cons_self

theorem largest_append (numbers : List Nat) (number : Nat) :
    largest (numbers ++ [number]) = max (largest numbers) number := by
  induction numbers with
  | nil => simp [largest]
  | cons first rest ih =>
      simp only [largest, List.cons_append, List.foldr_cons] at ih ⊢
      rw [ih, Nat.max_assoc]

/-- Positive numbers up to the largest leave room for the missing ones. -/
theorem distinct_le_largest (numbers : List Nat)
    (positive : ∀ number ∈ numbers, 0 < number) :
    numbers.toFinset.card ≤ largest numbers := by
  have covered : numbers.toFinset ⊆ Finset.Icc 1 (largest numbers) := by
    intro number member
    have inList := List.mem_toFinset.mp member
    exact Finset.mem_Icc.mpr ⟨positive number inList, le_largest numbers number inList⟩
  simpa using Finset.card_le_card covered

theorem distinct_append_fresh (numbers : List Nat) (number : Nat)
    (fresh : number ∉ numbers) :
    (numbers ++ [number]).toFinset.card = numbers.toFinset.card + 1 := by
  rw [List.toFinset_append, Finset.union_comm]
  simpa using Finset.card_insert_of_notMem
    (show number ∉ numbers.toFinset by simpa using fresh)

theorem distinct_append_repeat (numbers : List Nat) (number : Nat)
    (seen : number ∈ numbers) :
    (numbers ++ [number]).toFinset.card = numbers.toFinset.card := by
  have same : (numbers ++ [number]).toFinset = numbers.toFinset := by
    ext candidate
    simp only [List.mem_toFinset, List.mem_append, List.mem_singleton]
    constructor
    · rintro (old | rfl)
      · exact old
      · exact seen
    · exact Or.inl
  rw [same]

/-- The late test of the ledger compares with the largest number only. -/
theorem late_iff (earlier : List Nat) (number : Nat) (positive : 0 < number) :
    (∃ prior ∈ earlier, number ≤ prior) ↔ number ≤ largest earlier := by
  constructor
  · rintro ⟨prior, member, above⟩
    exact Nat.le_trans above (le_largest earlier prior member)
  · intro above
    exact ⟨largest earlier, largest_mem earlier (Nat.lt_of_lt_of_le positive above), above⟩

/-- What the ledger says of the numbers received so far. -/
structure Accounts (received : List Nat) (ledger : Ledger) : Prop where
  highest : ledger.highest = largest received
  upper : ledger.lost ≤ missing received
  lower : missing received ≤ ledger.lost + duplicates received

theorem empty_accounts : Accounts [] empty :=
  ⟨rfl, Nat.le_refl _, Nat.le_refl _⟩

theorem arrive_accounts (received : List Nat) (ledger : Ledger) (number : Nat)
    (positive : ∀ prior ∈ received ++ [number], 0 < prior)
    (accounts : Accounts received ledger) :
    Accounts (received ++ [number]) (arrive ledger number) := by
  obtain ⟨highest, upper, lower⟩ := accounts
  have past : ∀ prior ∈ received, 0 < prior := fun prior member =>
    positive prior (List.mem_append_left _ member)
  have roomBefore := distinct_le_largest received past
  have roomAfter := distinct_le_largest (received ++ [number]) positive
  have cardLe : received.toFinset.card ≤ received.length := List.toFinset_card_le received
  have last := largest_append received number
  simp only [missing, duplicates] at upper lower
  by_cases forward : ledger.highest < number
  · have fresh : number ∉ received := by
      intro member
      have bound := le_largest received number member
      omega
    have grown := distinct_append_fresh received number fresh
    have top : largest (received ++ [number]) = number := by
      rw [last, ← highest]
      exact Nat.max_eq_right (Nat.le_of_lt forward)
    constructor
    · simp [arrive, forward, top]
    · simp only [arrive, forward, if_true, missing, top, grown]
      omega
    · simp only [arrive, forward, if_true, missing, duplicates, top, grown,
        List.length_append, List.length_singleton]
      omega
  · have top : largest (received ++ [number]) = largest received := by
      rw [last, ← highest]
      exact Nat.max_eq_left (Nat.le_of_not_lt forward)
    rw [top] at roomAfter
    -- A late arrival either fills a gap or repeats a number; only the first
    -- case lowers the missing count, both take one loss back.
    by_cases seen : number ∈ received
    · have grown := distinct_append_repeat received number seen
      constructor
      · simp only [arrive, forward, if_false, top]
        exact highest
      · simp only [arrive, forward, if_false, missing, top, grown]
        omega
      · simp only [arrive, forward, if_false, missing, duplicates, top, grown,
          List.length_append, List.length_singleton]
        omega
    · have grown := distinct_append_fresh received number seen
      rw [grown] at roomAfter
      constructor
      · simp only [arrive, forward, if_false, top]
        exact highest
      · simp only [arrive, forward, if_false, missing, top, grown]
        omega
      · simp only [arrive, forward, if_false, missing, duplicates, top, grown,
          List.length_append, List.length_singleton]
        omega

theorem arrivals_accounts (received rest : List Nat) (ledger : Ledger)
    (positive : ∀ number ∈ received ++ rest, 0 < number)
    (accounts : Accounts received ledger) :
    Accounts (received ++ rest) (arrivals ledger rest) := by
  induction rest generalizing received ledger with
  | nil => simpa [arrivals] using accounts
  | cons number rest ih =>
      have split : received ++ number :: rest = (received ++ [number]) ++ rest := by simp
      rw [split] at positive ⊢
      have here : ∀ prior ∈ received ++ [number], 0 < prior := fun prior member =>
        positive prior (List.mem_append_left _ member)
      exact ih (received ++ [number]) (arrive ledger number) positive
        (arrive_accounts received ledger number here accounts)

theorem arrivals_late (received rest : List Nat) (ledger : Ledger)
    (positive : ∀ number ∈ received ++ rest, 0 < number)
    (accounts : Accounts received ledger) :
    (arrivals ledger rest).late = ledger.late + lateArrivals received rest := by
  induction rest generalizing received ledger with
  | nil => simp [arrivals, lateArrivals]
  | cons number rest ih =>
      have split : received ++ number :: rest = (received ++ [number]) ++ rest := by simp
      have numberPositive : 0 < number := positive number (by simp)
      rw [split] at positive
      have here : ∀ prior ∈ received ++ [number], 0 < prior := fun prior member =>
        positive prior (List.mem_append_left _ member)
      have next := ih (received ++ [number]) (arrive ledger number) positive
        (arrive_accounts received ledger number here accounts)
      rw [arrivals, next, lateArrivals]
      have test := late_iff received number numberPositive
      rw [← accounts.highest] at test
      by_cases forward : ledger.highest < number
      · have early : ¬ ∃ prior ∈ received, number ≤ prior := by
          rw [test]
          omega
        simp [arrive, forward, early]
      · have behind : ∃ prior ∈ received, number ≤ prior := test.mpr (by omega)
        simp only [arrive, forward, if_false, if_pos behind]
        omega

theorem duplicates_of_nodup (numbers : List Nat) (distinct : numbers.Nodup) :
    duplicates numbers = 0 := by
  simp [duplicates, List.toFinset_card_of_nodup distinct]

/-- Without repetition the clamp never fires and the estimate is exact. -/
theorem lost_exact (received : List Nat) (ledger : Ledger)
    (accounts : Accounts received ledger) (distinct : received.Nodup) :
    ledger.lost = missing received := by
  have none := duplicates_of_nodup received distinct
  have upper := accounts.upper
  have lower := accounts.lower
  omega

end Iperf.SequenceLedger
