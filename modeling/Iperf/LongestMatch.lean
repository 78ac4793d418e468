import Mathlib.Data.List.Infix
import Mathlib.Tactic.TypeStar

/-!
Scanners that read a symbol at a time and stop where they cannot go on. Where every
state that is reached can still be completed, what they read is the longest sequence
that is a match or a prefix of one, and they succeed exactly when it is a match.
-/

namespace Iperf.LongestMatch

structure Reader (State Symbol Value : Type*) where
  start : State
  step : State → Symbol → Option State
  /-- What a sequence that ends here stands for, where it is a match. -/
  result : State → Option Value

variable {State Symbol Value : Type*} (reader : Reader State Symbol Value)

section Definitions

/-- The state behind a word that is read to its end. -/
def run (state : State) : List Symbol → Option State
  | [] => some state
  | symbol :: word => (reader.step state symbol).bind (run · word)

/-- Where the reader stops, and what is left there. -/
def munch (state : State) : List Symbol → State × List Symbol
  | [] => (state, [])
  | symbol :: input =>
      match reader.step state symbol with
      | none => (state, symbol :: input)
      | some next => munch next input

def scan (input : List Symbol) : Option (Value × List Symbol) :=
  let stop := munch reader reader.start input
  (reader.result stop.1).map fun value => (value, stop.2)

def Matches (word : List Symbol) (value : Value) : Prop :=
  ∃ state, run reader reader.start word = some state ∧ reader.result state = some value

/-- A match, or a prefix of one. -/
def Viable (word : List Symbol) : Prop := ∃ more value, Matches reader (word ++ more) value

/-- The longest sequence of the input that is a match, or a prefix of one. -/
structure Longest (input item : List Symbol) : Prop where
  taken : item <+: input
  viable : Viable reader item
  longest : ∀ other, other <+: input → Viable reader other → other.length ≤ item.length

/-- Whatever was read can be completed. -/
def Live : Prop :=
  ∀ word state, run reader reader.start word = some state →
    ∃ more final value, run reader state more = some final ∧ reader.result final = some value

end Definitions

section Runs
variable {reader} {state final : State} {word input rest : List Symbol} {value : Value}

theorem run_append (state : State) (word more : List Symbol) :
    run reader state (word ++ more) = (run reader state word).bind (run reader · more) := by
  induction word generalizing state with
  | nil => rfl
  | cons symbol word ih =>
      simp only [List.cons_append, run, Option.bind_assoc]
      exact congrArg _ (funext ih)

theorem run_snoc {symbol : Symbol} (reached : run reader state word = some final) :
    run reader state (word ++ [symbol]) = reader.step final symbol := by
  rw [run_append, reached, Option.bind_some]
  exact Option.bind_fun_some _

/-- What is read and what is left make up the input, and the first symbol left has no step. -/
theorem munch_spec (state : State) (input : List Symbol) :
    ∃ item, input = item ++ (munch reader state input).2 ∧
      run reader state item = some (munch reader state input).1 ∧
      ∀ symbol ∈ (munch reader state input).2.head?,
        reader.step (munch reader state input).1 symbol = none := by
  induction input generalizing state with
  | nil => exact ⟨[], rfl, rfl, by simp [munch]⟩
  | cons symbol input ih =>
      rw [munch]
      cases stepped : reader.step state symbol with
      | none => exact ⟨[], rfl, rfl, by simpa using stepped⟩
      | some next =>
          obtain ⟨item, whole, reached, stops⟩ := ih next
          refine ⟨symbol :: item, congrArg (symbol :: ·) whole, ?_, stops⟩
          rw [run, stepped]
          exact reached

theorem munch_of_run (reached : run reader state word = some final)
    (stops : ∀ symbol ∈ rest.head?, reader.step final symbol = none) :
    munch reader state (word ++ rest) = (final, rest) := by
  induction word generalizing state with
  | nil =>
      cases reached
      cases rest with
      | nil => rfl
      | cons symbol rest => simp [munch, stops symbol rfl]
  | cons symbol word ih =>
      obtain ⟨next, stepped, reached⟩ := Option.bind_eq_some_iff.mp reached
      simp only [List.cons_append, munch, stepped]
      exact ih reached

/-- A scan reads a match behind which there is no step. -/
theorem scan_iff : scan reader input = some (value, rest) ↔
    ∃ item final, input = item ++ rest ∧ run reader reader.start item = some final ∧
      reader.result final = some value ∧
        ∀ symbol ∈ rest.head?, reader.step final symbol = none := by
  constructor
  · intro scanned
    obtain ⟨found, finished, same⟩ := Option.map_eq_some_iff.mp scanned
    obtain ⟨rfl, rfl⟩ := Prod.mk.inj same
    obtain ⟨item, whole, reached, stops⟩ := munch_spec reader.start input
    exact ⟨item, _, whole, reached, finished, stops⟩
  · rintro ⟨item, final, rfl, reached, finished, stops⟩
    simp [scan, munch_of_run reached stops, finished]

end Runs

section Longest
variable {reader} {word input item rest : List Symbol} {value : Value}

theorem viable_iff (live : Live reader) :
    Viable reader word ↔ ∃ state, run reader reader.start word = some state := by
  constructor
  · rintro ⟨more, value, final, reached, -⟩
    rw [run_append] at reached
    obtain ⟨state, halfway, -⟩ := Option.bind_eq_some_iff.mp reached
    exact ⟨state, halfway⟩
  · rintro ⟨state, reached⟩
    obtain ⟨more, final, value, completed, finished⟩ := live word state reached
    refine ⟨more, value, final, ?_, finished⟩
    rw [run_append, reached]
    exact completed

/-- Of two prefixes of one input, one is a prefix of the other. -/
theorem longest_unique {other : List Symbol} (first : Longest reader input item)
    (second : Longest reader input other) : item = other := by
  have same : item.length = other.length :=
    Nat.le_antisymm (second.longest item first.taken first.viable)
      (first.longest other second.taken second.viable)
  exact (List.prefix_of_prefix_length_le first.taken second.taken same.le).eq_of_length same

/-- Where the reader stops, it has read the longest viable sequence. -/
theorem munch_longest (live : Live reader) (input : List Symbol) :
    ∃ item, input = item ++ (munch reader reader.start input).2 ∧
      run reader reader.start item = some (munch reader reader.start input).1 ∧
      Longest reader input item := by
  obtain ⟨item, whole, reached, stops⟩ := @munch_spec _ _ _ reader reader.start input
  refine ⟨item, whole, reached, ⟨_, whole.symm⟩, (viable_iff live).mpr ⟨_, reached⟩, ?_⟩
  intro other taken viable
  by_contra longer
  obtain ⟨state, other_reached⟩ := (viable_iff live).mp viable
  -- A longer one would have gone on with the first symbol that is left.
  obtain ⟨more, rfl⟩ := List.prefix_of_prefix_length_le ⟨_, whole.symm⟩ taken (by omega)
  cases more with
  | nil => simp at longer
  | cons symbol more =>
      obtain ⟨left, all⟩ := taken
      have same : item ++ (munch reader reader.start input).2 =
          item ++ symbol :: (more ++ left) := by
        rw [← whole, ← all, List.append_assoc, List.cons_append]
      have next := List.append_cancel_left same
      have stuck := stops symbol (by rw [next]; rfl)
      rw [run_append, reached, Option.bind_some, run, stuck] at other_reached
      cases other_reached

/-- A scan succeeds exactly when the longest viable sequence is a match. -/
theorem scan_longest_iff (live : Live reader) : scan reader input = some (value, rest) ↔
    ∃ item, Longest reader input item ∧ input = item ++ rest ∧ Matches reader item value := by
  obtain ⟨read, whole, reached, longest⟩ := munch_longest live input
  constructor
  · intro scanned
    obtain ⟨found, finished, same⟩ := Option.map_eq_some_iff.mp scanned
    obtain ⟨rfl, rfl⟩ := Prod.mk.inj same
    exact ⟨read, longest, whole, _, reached, finished⟩
  · rintro ⟨item, other, same, final, ended, finished⟩
    cases longest_unique longest other
    rw [reached] at ended
    have left : (munch reader reader.start input).2 = rest :=
      List.append_cancel_left (whole.symm.trans same)
    simp [scan, Option.some.inj ended, finished, left]

end Longest

end Iperf.LongestMatch
