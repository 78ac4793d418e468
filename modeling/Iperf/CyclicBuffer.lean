import Mathlib.Data.List.Rotate

/-!
Buffers that are written round and round. Read from the cell after the one that
was written last, the cells are the last values that went in, oldest first.
-/

namespace Iperf.CyclicBuffer

universe u
variable {Value : Type u} {cells : List Value} {index : Nat}

def next (size index : Nat) : Nat := if size ≤ index + 1 then 0 else index + 1

theorem next_lt {size : Nat} (nonempty : 0 < size) (index : Nat) : next size index < size := by
  unfold next
  split
  · exact nonempty
  · rename_i room
    exact Nat.not_le.mp room

/-- The cells from the oldest value to the newest, which is at `index`. -/
def view (cells : List Value) (index : Nat) : List Value :=
  cells.drop (index + 1) ++ cells.take (index + 1)

theorem view_perm (cells : List Value) (index : Nat) : (view cells index).Perm cells := by
  have swapped := @List.perm_append_comm _ (cells.drop (index + 1)) (cells.take (index + 1))
  rw [List.take_append_drop] at swapped
  exact swapped

theorem view_length (cells : List Value) (index : Nat) :
    (view cells index).length = cells.length :=
  (view_perm cells index).length_eq

/-- The oldest value makes way for the new one. -/
theorem view_store (within : index < cells.length) (value : Value) :
    view (cells.set (next cells.length index) value) (next cells.length index) =
      (view cells index).tail ++ [value] := by
  unfold next
  split
  · rename_i last
    have full : index + 1 = cells.length := by omega
    cases cells with
    | nil => simp at within
    | cons first rest => simp [view, full]
  · rename_i room
    have inside : index + 1 < cells.length := Nat.not_le.mp room
    have kept : cells.drop (index + 1) = cells[index + 1] :: cells.drop (index + 1 + 1) :=
      List.drop_eq_getElem_cons inside
    have written : (cells.set (index + 1) value).take (index + 1 + 1) =
        cells.take (index + 1) ++ [value] := by
      rw [List.take_succ_eq_append_getElem (by simpa using inside), List.getElem_set_self,
        List.take_set_of_le (Nat.le_refl _)]
    rw [view, view, kept, written, List.drop_set_of_lt (Nat.lt_succ_self _), List.cons_append,
      List.tail_cons, List.append_assoc]

/-- One value after the other, each in the cell after the last. -/
def store (buffer : List Value × Nat) (value : Value) : List Value × Nat :=
  let index := next buffer.1.length buffer.2
  (buffer.1.set index value, index)

theorem store_length (buffer : List Value × Nat) (values : List Value) :
    (values.foldl store buffer).1.length = buffer.1.length := by
  induction values generalizing buffer with
  | nil => rfl
  | cons value rest ih =>
      rw [List.foldl_cons, ih]
      simp [store]

theorem store_within {buffer : List Value × Nat} (within : buffer.2 < buffer.1.length)
    (values : List Value) :
    (values.foldl store buffer).2 < (values.foldl store buffer).1.length := by
  induction values generalizing buffer with
  | nil => exact within
  | cons value rest ih =>
      apply ih
      simp only [store, List.length_set]
      exact next_lt (Nat.lt_of_le_of_lt (Nat.zero_le _) within) _

/-- The buffer holds the last of the values before and of those that came in. -/
theorem view_stored {buffer : List Value × Nat} (within : buffer.2 < buffer.1.length)
    (values : List Value) :
    view (values.foldl store buffer).1 (values.foldl store buffer).2 =
      (view buffer.1 buffer.2 ++ values).drop values.length := by
  induction values generalizing buffer with
  | nil => simp
  | cons value rest ih =>
      have inside : (store buffer value).2 < (store buffer value).1.length :=
        @store_within _ _ within [value]
      have some_cell : view buffer.1 buffer.2 ≠ [] := by
        intro none
        have length := view_length buffer.1 buffer.2
        rw [none, List.length_nil] at length
        omega
      rw [List.foldl_cons, ih inside]
      obtain ⟨oldest, others, shape⟩ := List.exists_cons_of_ne_nil some_cell
      simp only [store]
      rw [view_store within, shape]
      simp

/-- Once it was written all round, the buffer holds the last values alone. -/
theorem view_last {buffer : List Value × Nat} (within : buffer.2 < buffer.1.length)
    {values : List Value} (round : buffer.1.length ≤ values.length) :
    view (values.foldl store buffer).1 (values.foldl store buffer).2 =
      values.drop (values.length - buffer.1.length) := by
  rw [view_stored within, List.drop_append, view_length]
  simp [List.drop_eq_nil_of_le, view_length, round]

end Iperf.CyclicBuffer
