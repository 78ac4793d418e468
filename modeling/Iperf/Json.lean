import Mathlib.Algebra.Order.Ring.Rat

/-!
The part of the vendored cJSON that the control connection uses. A number is
the double of `valuedouble`, as a rational; an overflowed one is a rational
beyond the range of `int64_t`, where `valueint` saturates in the same way.
-/

namespace Iperf.Json

inductive cJSON where
  | null
  | bool (value : Bool)
  | number (valuedouble : Rat)
  | string (valuestring : String)
  | array (items : List cJSON)
  | object (members : List (String × cJSON))

/-- The types that `iperf_cJSON_GetObjectItemType` is asked for; `cJSON_True`
stands for both booleans there. -/
inductive ItemType where
  | cJSON_True
  | cJSON_Number
  | cJSON_String
  deriving DecidableEq, Repr

def LLONG_MAX : Int := 2 ^ 63 - 1
def LLONG_MIN : Int := -2 ^ 63

/-- Saturated, and truncated towards zero. -/
def saturate (number : Rat) : Int :=
  -- the comparison converts LLONG_MAX to the double 2^63
  if (2 ^ 63 : Rat) ≤ number then LLONG_MAX
  else if number ≤ -2 ^ 63 then LLONG_MIN
  else number.num.tdiv number.den

def valueint : cJSON → Int
  | .number valuedouble => saturate valuedouble
  | .bool true => 1
  | _ => 0

/-- `case_insensitive_strcmp` compares these. -/
def folded (name : String) : List Char := name.toList.map Char.toLower

def cJSON_GetObjectItem (json : cJSON) (name : String) : Option cJSON :=
  match json with
  | .object members =>
      (members.find? fun member => folded member.1 == folded name).map Prod.snd
  | _ => none

def hasType : ItemType → cJSON → Bool
  | .cJSON_True, .bool _ => true
  | .cJSON_Number, .number _ => true
  | .cJSON_String, .string _ => true
  | _, _ => false

def iperf_cJSON_GetObjectItemType (json : cJSON) (name : String) (type : ItemType) : Option cJSON :=
  (cJSON_GetObjectItem json name).filter (hasType type)

def valuestring : cJSON → String
  | .string value => value
  | _ => ""

section Items
variable (json : cJSON) (name : String)

/-- The item of a key that must be a number, as `valueint`. -/
def number_item : Option Int :=
  (iperf_cJSON_GetObjectItemType json name .cJSON_Number).map valueint

def string_item : Option String :=
  (iperf_cJSON_GetObjectItemType json name .cJSON_String).map valuestring

/-- A key that must be a boolean is present; its value is not looked at. -/
def has_bool : Bool := (iperf_cJSON_GetObjectItemType json name .cJSON_True).isSome

def has_number : Bool := (iperf_cJSON_GetObjectItemType json name .cJSON_Number).isSome

end Items

section Doubles

/-- An unsigned integer converted to double: 53 bits, ties to even. -/
def to_double (value : Nat) : Nat :=
  if value < 2 ^ 53 then value
  else
    let unit := 2 ^ (Nat.log2 value - 52)
    let kept := value / unit
    let rest := value % unit
    if 2 * rest < unit ∨ (2 * rest = unit ∧ kept % 2 = 0) then kept * unit else (kept + 1) * unit

/-- An `int` as the number of an item. -/
def int_number (value : Int32) : cJSON := .number value.toInt

/-- An `iperf_size_t` as the number of an item. -/
def size_number (value : UInt64) : cJSON := .number (to_double value.toNat)

theorem saturate_int {value : Int} (low : LLONG_MIN < value) (high : value ≤ LLONG_MAX) :
    saturate (value : Rat) = value := by
  have below : ¬ (2 ^ 63 : Rat) ≤ (value : Rat) := by
    rw [not_le]
    have : value < 2 ^ 63 := by simp only [LLONG_MAX] at high; omega
    exact_mod_cast this
  have above : ¬ (value : Rat) ≤ -2 ^ 63 := by
    rw [not_le]
    have : -2 ^ 63 < value := by simp only [LLONG_MIN] at low; omega
    exact_mod_cast this
  simp [saturate, below, above]

@[simp] theorem valueint_int_number (value : Int32) :
    valueint (int_number value) = value.toInt := by
  have low := value.le_toInt
  have high := value.toInt_lt
  exact saturate_int (by simp only [LLONG_MIN]; omega) (by simp only [LLONG_MAX]; omega)

theorem valueint_size_number {value : UInt64} (exact_ : value.toNat < 2 ^ 53) :
    valueint (size_number value) = value.toNat := by
  have same : to_double value.toNat = value.toNat := if_pos exact_
  have here : valueint (size_number value) = saturate ((value.toNat : Int) : Rat) := by
    simp [valueint, size_number, same]
  rw [here]
  exact saturate_int (by simp only [LLONG_MIN]; omega) (by simp only [LLONG_MAX]; omega)

end Doubles

section Members

/-- The members of an object whose entries are written on their conditions. -/
def written (entries : List (String × Option cJSON)) : List (String × cJSON) :=
  entries.filterMap fun entry => entry.2.map (Prod.mk entry.1)

theorem find_written {entries : List (String × Option cJSON)} {name : String}
    {value : Option cJSON} (distinct : (entries.map fun entry => folded entry.1).Nodup)
    (entry : (name, value) ∈ entries) :
    ((written entries).find? fun member => folded member.1 == folded name).map Prod.snd =
      value := by
  induction entries with
  | nil => cases entry
  | cons first rest ih =>
      obtain ⟨fresh, others⟩ := List.nodup_cons.mp distinct
      rcases List.mem_cons.mp entry with same | later
      · subst same
        cases value with
        | some item => simp [written]
        | none =>
            have absent : (written rest).find? (fun member => folded member.1 == folded name) =
                none := by
              rw [List.find?_eq_none]
              intro member listed
              obtain ⟨source, found, shape⟩ := List.mem_filterMap.mp listed
              obtain ⟨item, _, rfl⟩ := Option.map_eq_some_iff.mp shape
              intro equal
              exact fresh (List.mem_map.mpr ⟨source, found, beq_iff_eq.mp equal⟩)
            simpa [written] using absent
      · have differs : folded first.1 ≠ folded name := fun equal =>
          fresh (List.mem_map.mpr ⟨(name, value), later, equal.symm⟩)
        have tail := ih others later
        cases shape : first.2 with
        | none => simpa [written, shape] using tail
        | some item =>
            simpa [written, shape, List.find?_cons, beq_eq_false_iff_ne.mpr differs] using tail

theorem get_written {entries : List (String × Option cJSON)} {name : String}
    {value : Option cJSON} (distinct : (entries.map fun entry => folded entry.1).Nodup)
    (entry : (name, value) ∈ entries) :
    cJSON_GetObjectItem (.object (written entries)) name = value :=
  find_written distinct entry

end Members

end Iperf.Json
