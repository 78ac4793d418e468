import Mathlib.Data.List.Pairwise
import Mathlib.Logic.Function.Basic

/-!
Stores with one value for each key, written by lists of assignments, and runs of
steps that may refuse. Two lists of assignments can trade places when they agree
on the keys that both write; a run can be permuted when its steps commute in pairs.
-/

namespace Iperf.KeyedWrites

section Writes

variable {Key : Type} [DecidableEq Key] {Value : Key → Type}

def write (store : (key : Key) → Value key) (entry : Sigma Value) : (key : Key) → Value key :=
  Function.update store entry.1 entry.2

def apply (store : (key : Key) → Value key) (entries : List (Sigma Value)) :
    (key : Key) → Value key :=
  entries.foldl write store

@[simp] theorem apply_nil (store : (key : Key) → Value key) : apply store [] = store := rfl

@[simp] theorem apply_cons (store : (key : Key) → Value key) (entry : Sigma Value)
    (entries : List (Sigma Value)) :
    apply store (entry :: entries) = apply (write store entry) entries := rfl

@[simp] theorem apply_append (store : (key : Key) → Value key) (first second : List (Sigma Value)) :
    apply store (first ++ second) = apply (apply store first) second :=
  List.foldl_append

@[simp] theorem write_same (store : (key : Key) → Value key) (key : Key) (value : Value key) :
    write store ⟨key, value⟩ key = value :=
  Function.update_self key value store

theorem write_other (store : (key : Key) → Value key) {entry : Sigma Value} {key : Key}
    (other : entry.1 ≠ key) : write store entry key = store key :=
  Function.update_of_ne other.symm entry.2 store

theorem apply_other {entries : List (Sigma Value)} {key : Key}
    (others : ∀ entry ∈ entries, entry.1 ≠ key) (store : (key : Key) → Value key) :
    apply store entries key = store key := by
  induction entries generalizing store with
  | nil => rfl
  | cons entry rest ih =>
      simp only [List.mem_cons, forall_eq_or_imp] at others
      rw [apply_cons, ih others.2 (write store entry), write_other store others.1]

/-- The value of a key depends on the store through that key alone. -/
theorem apply_congr {left right : (key : Key) → Value key} {key : Key}
    (same : left key = right key) (entries : List (Sigma Value)) :
    apply left entries key = apply right entries key := by
  induction entries generalizing left right with
  | nil => exact same
  | cons entry rest ih =>
      simp only [apply_cons]
      by_cases here : entry.1 = key
      · subst here
        exact ih ((write_same left entry.1 entry.2).trans (write_same right entry.1 entry.2).symm)
      · exact ih (by rw [write_other left here, write_other right here, same])

/-- A value stays when no other value is assigned to its key. -/
theorem apply_keeps {store : (key : Key) → Value key} {key : Key} {value : Value key}
    (stored : store key = value) {entries : List (Sigma Value)}
    (only : ∀ entry ∈ entries, entry.1 = key → entry = ⟨key, value⟩) :
    apply store entries key = value := by
  induction entries generalizing store with
  | nil => exact stored
  | cons entry rest ih =>
      simp only [List.mem_cons, forall_eq_or_imp] at only
      rw [apply_cons]
      by_cases here : entry.1 = key
      · rw [only.1 here]
        exact ih (write_same store key value) only.2
      · exact ih ((write_other store here).trans stored) only.2

theorem write_comm {first second : Sigma Value} (agree : first.1 = second.1 → first = second)
    (store : (key : Key) → Value key) :
    write (write store first) second = write (write store second) first := by
  by_cases same : first.1 = second.1
  · rw [agree same]
  · exact Function.update_comm same first.2 second.2 store

theorem apply_write {entry : Sigma Value} {entries : List (Sigma Value)}
    (agree : ∀ other ∈ entries, entry.1 = other.1 → entry = other)
    (store : (key : Key) → Value key) :
    apply (write store entry) entries = write (apply store entries) entry := by
  induction entries generalizing store with
  | nil => rfl
  | cons other rest ih =>
      simp only [List.mem_cons, forall_eq_or_imp] at agree
      simp only [apply_cons]
      rw [write_comm agree.1 store, ih agree.2 (write store other)]

/-- Assignments that agree wherever they meet can be made in either order. -/
theorem apply_comm {first second : List (Sigma Value)}
    (agree : ∀ left ∈ first, ∀ right ∈ second, left.1 = right.1 → left = right)
    (store : (key : Key) → Value key) :
    apply (apply store first) second = apply (apply store second) first := by
  induction first generalizing store with
  | nil => rfl
  | cons entry rest ih =>
      simp only [List.mem_cons, forall_eq_or_imp] at agree
      simp only [apply_cons]
      rw [ih agree.2 (write store entry), apply_write agree.1 store]

end Writes

section Runs

variable {State Item : Type} (step : State → Item → Option State)

def run (state : State) (items : List Item) : Option State :=
  items.foldl (fun reached item => reached.bind (step · item)) (some state)

def Commute (first second : Item) : Prop :=
  ∀ state, (step state first).bind (step · second) = (step state second).bind (step · first)

theorem commute_symm {first second : Item} (commute : Commute step first second) :
    Commute step second first :=
  fun state => (commute state).symm

/-- Steps that commute in pairs reach the same state in every order. -/
theorem run_perm {items others : List Item} (commute : items.Pairwise (Commute step))
    (perm : items.Perm others) (state : State) : run step state items = run step state others := by
  have symmetric : Std.Symm (Commute step) := ⟨fun _ _ => commute_symm step⟩
  have every := List.Pairwise.forall_of_forall (fun item _ _ => rfl) commute
  apply perm.foldl_eq'
  intro first hfirst second hsecond reached
  cases reached with
  | none => rfl
  | some state => exact every hfirst hsecond state

theorem foldl_none (items : List Item) :
    items.foldl (fun reached item => reached.bind (step · item)) none = none := by
  induction items with
  | nil => rfl
  | cons item rest ih => exact ih

@[simp] theorem run_nil (state : State) : run step state [] = some state := rfl

theorem run_cons (state : State) (item : Item) (items : List Item) :
    run step state (item :: items) = (step state item).bind (run step · items) := by
  simp only [run, List.foldl_cons, Option.bind_some]
  cases step state item with
  | none => exact foldl_none step items
  | some next => rfl

/-- What every accepted step preserves holds at the end of a run. -/
theorem run_preserves {Holds : State → Prop} {items : List Item}
    (preserved : ∀ item ∈ items, ∀ state next, Holds state → step state item = some next →
      Holds next)
    {state final : State} (start : Holds state) (accepted : run step state items = some final) :
    Holds final := by
  induction items generalizing state with
  | nil =>
      cases accepted
      exact start
  | cons item rest ih =>
      simp only [List.mem_cons, forall_eq_or_imp] at preserved
      rw [run_cons] at accepted
      obtain ⟨next, stepped, reaches⟩ := Option.bind_eq_some_iff.mp accepted
      exact ih preserved.2 (preserved.1 state next start stepped) reaches

theorem run_append (state : State) (first second : List Item) :
    run step state (first ++ second) = (run step state first).bind (run step · second) := by
  induction first generalizing state with
  | nil => rfl
  | cons item rest ih =>
      rw [List.cons_append, run_cons, run_cons]
      cases step state item with
      | none => rfl
      | some next => exact ih next

/-- What an item makes hold, and every later item preserves, holds at the end of a run. -/
theorem run_last {Holds : State → Prop} {before after : List Item} {item : Item}
    (makes : ∀ state next, step state item = some next → Holds next)
    (preserved : ∀ other ∈ after, ∀ state next, Holds state → step state other = some next →
      Holds next)
    {state final : State} (accepted : run step state (before ++ item :: after) = some final) :
    Holds final := by
  rw [run_append] at accepted
  obtain ⟨reached, -, accepted⟩ := Option.bind_eq_some_iff.mp accepted
  rw [run_cons] at accepted
  obtain ⟨next, stepped, reaches⟩ := Option.bind_eq_some_iff.mp accepted
  exact run_preserves step preserved (makes reached next stepped) reaches

/-- Every item of an accepted run is accepted somewhere. -/
theorem run_accepts {items : List Item} {state final : State}
    (accepted : run step state items = some final) {item : Item} (member : item ∈ items) :
    ∃ before next, step before item = some next := by
  induction items generalizing state with
  | nil => cases member
  | cons first rest ih =>
      rw [run_cons] at accepted
      obtain ⟨next, stepped, reaches⟩ := Option.bind_eq_some_iff.mp accepted
      rcases List.mem_cons.mp member with rfl | later
      · exact ⟨state, next, stepped⟩
      · exact ih reaches later

theorem toOption_foldlM {Error : Type} (attempt : State → Item → Except Error State)
    (state : State) (items : List Item) :
    (items.foldlM attempt state).toOption =
      run (fun state item => (attempt state item).toOption) state items := by
  induction items generalizing state with
  | nil => rfl
  | cons item rest ih =>
      rw [List.foldlM_cons, run_cons]
      cases attempt state item with
      | error refused => rfl
      | ok next => exact ih next

variable {Image : Type} (project : State → Image) (imageStep : Image → Item → Option Image)

/-- A run is projected step by step. -/
theorem run_project {items : List Item}
    (simulated : ∀ item ∈ items, ∀ state,
      (step state item).map project = imageStep (project state) item)
    (state : State) :
    (run step state items).map project = run imageStep (project state) items := by
  induction items generalizing state with
  | nil => rfl
  | cons item rest ih =>
      simp only [List.mem_cons, forall_eq_or_imp] at simulated
      rw [run_cons, run_cons, ← simulated.1 state]
      cases step state item with
      | none => rfl
      | some next => exact ih simulated.2 next

end Runs

end Iperf.KeyedWrites
