import Iperf.CjsonRoundtrip
import Iperf.ControlStream
import Iperf.ParameterExchange

/-!
The objects of the control connection as trees of cJSON. An object whose numbers are
whole and whose strings are strings of C is the same after it was printed and parsed;
the parameters that the client sends are such an object.
-/

namespace Iperf.CjsonMessages

open BinaryFloat AuthToken CjsonItem CjsonParse CjsonRoundtrip
open CjsonNumber hiding reread
open Json (cJSON)

section Translation

def bytes (text : String) : List UInt8 := text.toByteArray.data.toList

/-- A pointer to the text, for whoever reads up to the first zero. -/
def pointer (text : String) : CString := valuestring (bytes text)

/-- No byte of it is zero. -/
def Terminated (text : String) : Prop := ∀ c ∈ bytes text, c ≠ 0

instance (text : String) : Decidable (Terminated text) :=
  List.decidableBAll _ _

mutual

def tree : cJSON → Item
  | .null => .cJSON_NULL
  | .bool value => if value then .cJSON_True else .cJSON_False
  | .number valuedouble => .cJSON_Number (to_double valuedouble)
  | .string valuestring => .cJSON_String (pointer valuestring)
  | .array items => .cJSON_Array (tree_elements items)
  | .object members => .cJSON_Object (tree_members members)

def tree_elements : List cJSON → List Item
  | [] => []
  | item :: next => tree item :: tree_elements next

def tree_members : List (String × cJSON) → List (CString × Item)
  | [] => []
  | (name, item) :: next => (pointer name, tree item) :: tree_members next

end

def characters (string : CString) : Option String := String.fromUTF8? ⟨string.val.toArray⟩

mutual

/-- The object that a tree stands for; an infinity is beyond every double. -/
def object : Item → Option cJSON
  | .cJSON_NULL => some .null
  | .cJSON_False => some (.bool false)
  | .cJSON_True => some (.bool true)
  | .cJSON_Number (.finite d) => some (.number d.1)
  | .cJSON_Number (.infinite negative) => some (.number (if negative then -2 ^ 1024 else 2 ^ 1024))
  | .cJSON_Number .nan => none
  | .cJSON_String string => (characters string).map .string
  | .cJSON_Array child => (object_elements child).map .array
  | .cJSON_Object child => (object_members child).map .object

def object_elements : List Item → Option (List cJSON)
  | [] => some []
  | item :: next => (object item).bind fun first => (object_elements next).map (first :: ·)

def object_members : List (CString × Item) → Option (List (String × cJSON))
  | [] => some []
  | (string, item) :: next =>
      (characters string).bind fun name => (object item).bind fun first =>
        (object_members next).map ((name, first) :: ·)

end

def cJSON_PrintUnformatted (json : cJSON) : CString :=
  ⟨text false 0 (tree json), text_nonzero false 0 (tree json)⟩

/-- With an allocator that grants every request. -/
def cJSON_Parse (str : List UInt8) : Option cJSON :=
  match CjsonParse.cJSON_Parse (fun _ => true) (valuestring str) with
  | .ok (some item, _) => object item
  | _ => none

end Translation

section Inverse

mutual

/-- The numbers are whole and within the range of `int64_t`, the strings are strings of C. -/
def Plain : cJSON → Prop
  | .null => True
  | .bool _ => True
  | .number valuedouble => ∃ count : Int, valuedouble = count ∧ -2 ^ 63 ≤ count ∧ count ≤ 2 ^ 63 ∧
      Representable binary64 valuedouble
  | .string valuestring => Terminated valuestring
  | .array items => PlainElements items
  | .object members => PlainMembers members

def PlainElements : List cJSON → Prop
  | [] => True
  | item :: next => Plain item ∧ PlainElements next

def PlainMembers : List (String × cJSON) → Prop
  | [] => True
  | (name, item) :: next => Terminated name ∧ Plain item ∧ PlainMembers next

end

theorem characters_pointer {text : String} (terminated : Terminated text) :
    characters (pointer text) = some text := by
  have same : (pointer text).val = bytes text :=
    List.takeWhile_eq_self_iff.mpr fun c member => by simpa using terminated c member
  have back : (⟨(bytes text).toArray⟩ : ByteArray) = text.toByteArray := by simp [bytes]
  rw [characters, same, back, String.fromUTF8?, dif_pos text.isValidUTF8]
  rfl

theorem number_kept {value : ℚ} {count : Int} (whole : value = count) (low : -2 ^ 63 ≤ count)
    (high : count ≤ 2 ^ 63) (exact_ : Representable binary64 value) :
    object (reread (.cJSON_Number (to_double value))) = some (.number value) := by
  have fits : |value| < 2 ^ 1024 := by
    have bound : |count| ≤ 2 ^ 63 := abs_le.mpr ⟨low, high⟩
    have cast : |(count : ℚ)| ≤ 2 ^ 63 := by exact_mod_cast bound
    rw [whole]
    exact cast.trans_lt (pow_lt_pow_right₀ (by norm_num) (by norm_num))
  have same := to_double_finite ⟨value, exact_, fits⟩
  dsimp only at same
  rw [same, reread, reread_whole ⟨count, whole, low, high⟩, object]

mutual

theorem object_reread : ∀ {json : cJSON}, Plain json → object (reread (tree json)) = some json
  | .null, _ => rfl
  | .bool true, _ => rfl
  | .bool false, _ => rfl
  | .number valuedouble, ⟨count, whole, low, high, exact_⟩ => number_kept whole low high exact_
  | .string valuestring, plain => by
      rw [tree, reread, object, characters_pointer plain]
      · rfl
      all_goals simp
  | .array items, plain => by
      rw [tree, reread, object, elements_reread plain]
      rfl
  | .object members, plain => by
      rw [tree, reread, object, members_reread plain]
      rfl

theorem elements_reread : ∀ {items : List cJSON}, PlainElements items →
    object_elements (reread_elements (tree_elements items)) = some items
  | [], _ => rfl
  | item :: next, ⟨first, others⟩ => by
      rw [tree_elements, reread_elements, object_elements, object_reread first,
        Option.bind_some, elements_reread others]
      rfl

theorem members_reread : ∀ {members : List (String × cJSON)}, PlainMembers members →
    object_members (reread_members (tree_members members)) = some members
  | [], _ => rfl
  | (name, item) :: next, ⟨terminated, first, others⟩ => by
      rw [tree_members, reread_members, object_members, characters_pointer terminated,
        Option.bind_some, object_reread first, Option.bind_some, members_reread others]
      rfl

end

/-- The object that is read of one that was printed. -/
def heard (json : cJSON) : Option cJSON := object (reread (tree json))

theorem heard_plain {json : cJSON} (plain : Plain json) : heard json = some json :=
  object_reread plain

theorem parse_printed {json : cJSON} (shallow : nesting (tree json) ≤ CJSON_NESTING_LIMIT) :
    cJSON_Parse (cJSON_PrintUnformatted json).val = heard json := by
  have string : valuestring (cJSON_PrintUnformatted json).val = cJSON_PrintUnformatted json :=
    Subtype.ext (List.takeWhile_eq_self_iff.mpr fun c member => by
      simpa using (cJSON_PrintUnformatted json).2 c member)
  have read := @cJSON_Parse_text (fun _ => true) (fun _ => rfl) false (tree json)
  rw [if_pos shallow] at read
  rw [cJSON_Parse, string, cJSON_PrintUnformatted, read]
  rfl

end Inverse

section Heard

mutual

/-- The strings are strings of C, whatever the numbers are. -/
def CStrings : cJSON → Prop
  | .string valuestring => Terminated valuestring
  | .array items => CStringsElements items
  | .object members => CStringsMembers members
  | _ => True

def CStringsElements : List cJSON → Prop
  | [] => True
  | item :: next => CStrings item ∧ CStringsElements next

def CStringsMembers : List (String × cJSON) → Prop
  | [] => True
  | (name, item) :: next => Terminated name ∧ CStrings item ∧ CStringsMembers next

end

theorem reread_number (d : Finite) : ∃ value, object (.cJSON_Number (CjsonNumber.reread d)) =
    some (.number value) := by
  unfold CjsonNumber.reread to_double
  split <;> exact ⟨_, rfl⟩

mutual

/-- Something is read of it. -/
theorem heard_some : ∀ {json : cJSON}, CStrings json → ∃ found, heard json = some found
  | .null, _ => ⟨_, rfl⟩
  | .bool true, _ => ⟨_, rfl⟩
  | .bool false, _ => ⟨_, rfl⟩
  | .number valuedouble, _ => by
      rw [heard, tree]
      cases to_double valuedouble with
      | finite d =>
          obtain ⟨value, read⟩ := reread_number d
          exact ⟨_, read⟩
      | infinite negative => exact ⟨_, rfl⟩
      | nan => exact ⟨_, rfl⟩
  | .string valuestring, terminated => by
      rw [heard, tree, reread, object, characters_pointer terminated]
      · exact ⟨_, rfl⟩
      all_goals simp
  | .array items, strings => by
      obtain ⟨found, read⟩ := elements_some strings
      rw [heard, tree, reread, object, read]
      exact ⟨_, rfl⟩
  | .object members, strings => by
      obtain ⟨found, read⟩ := members_some strings
      rw [heard, tree, reread, object, read]
      exact ⟨_, rfl⟩

theorem elements_some : ∀ {items : List cJSON}, CStringsElements items →
    ∃ found, object_elements (reread_elements (tree_elements items)) = some found
  | [], _ => ⟨_, rfl⟩
  | item :: next, ⟨first, others⟩ => by
      obtain ⟨one, read⟩ := heard_some first
      obtain ⟨rest, also⟩ := elements_some others
      rw [tree_elements, reread_elements, object_elements, also]
      rw [heard] at read
      rw [read]
      exact ⟨_, rfl⟩

theorem members_some : ∀ {members : List (String × cJSON)}, CStringsMembers members →
    ∃ found, object_members (reread_members (tree_members members)) = some found
  | [], _ => ⟨_, rfl⟩
  | (name, item) :: next, ⟨terminated, first, others⟩ => by
      obtain ⟨one, read⟩ := heard_some first
      obtain ⟨rest, also⟩ := members_some others
      rw [tree_members, reread_members, object_members, characters_pointer terminated, also]
      rw [heard] at read
      rw [Option.bind_some, read]
      exact ⟨_, rfl⟩

end

/-- The elements are read one by one. -/
theorem heard_array {items : List cJSON} (strings : ∀ item ∈ items, CStrings item) :
    heard (.array items) = some (.array (items.map fun item => (heard item).getD .null)) := by
  have each : object_elements (reread_elements (tree_elements items)) =
      some (items.map fun item => (heard item).getD .null) := by
    induction items with
    | nil => rfl
    | cons item next ih =>
        obtain ⟨first, others⟩ := List.forall_mem_cons.mp strings
        obtain ⟨one, read⟩ := heard_some first
        rw [tree_elements, reread_elements, object_elements, ih others, List.map_cons, read]
        rw [heard] at read
        rw [read]
        rfl
  rw [heard, tree, reread, object, each]
  rfl

/-- The item of a name is what is read of the item that had the name. -/
theorem get_heard {members : List (String × cJSON)} {found : cJSON}
    (read : heard (.object members) = some found)
    (named : ∀ member ∈ members, Terminated member.1) (name : String) :
    Json.cJSON_GetObjectItem found name =
      (Json.cJSON_GetObjectItem (.object members) name).bind heard := by
  rw [heard, tree, reread, object] at read
  obtain ⟨others, each, rfl⟩ := Option.map_eq_some_iff.mp read
  clear read
  simp only [Json.cJSON_GetObjectItem]
  induction members generalizing others with
  | nil =>
      obtain rfl : [] = others := Option.some.inj each
      rfl
  | cons member next ih =>
      obtain ⟨key, item⟩ := member
      obtain ⟨terminated, rest⟩ := List.forall_mem_cons.mp named
      rw [tree_members, reread_members, object_members, characters_pointer terminated,
        Option.bind_some, Option.bind_eq_some_iff] at each
      obtain ⟨first, here, each⟩ := each
      obtain ⟨later, more, rfl⟩ := Option.map_eq_some_iff.mp each
      have tail := ih rest later more
      have read : heard item = some first := here
      by_cases same : Json.folded key == Json.folded name
      · simpa [List.find?_cons, same] using read.symm
      · simpa [List.find?_cons, same] using tail

/-- A value of type `double`. -/
def IsDouble (value : ℚ) : Prop := ∃ d : Finite, d.1 = value

/-- A double that was printed and read. -/
def through (value : ℚ) : ℚ :=
  match heard (.number value) with
  | some (.number value) => value
  | _ => 0

theorem heard_finite (d : Finite) :
    heard (.number d.1) = object (.cJSON_Number (CjsonNumber.reread d)) := by
  have same := to_double_finite d
  simp only [heard, tree, same, reread]

theorem heard_number {value : ℚ} (double : IsDouble value) :
    heard (.number value) = some (.number (through value)) := by
  obtain ⟨d, same⟩ := double
  obtain ⟨shown, read⟩ := reread_number d
  have here : heard (.number value) = some (.number shown) := by
    rw [← same, heard_finite, read]
  have number : through value = shown := by
    unfold through
    rw [here]
  rw [here, number]

/-- How far it is from the one that was printed. -/
theorem through_near {value : ℚ} (double : IsDouble value) (small : |value| < 2 ^ 1000) :
    IsDouble (through value) ∧ |through value - value| ≤
      2 ^ (-52 : Int) * max |through value| |value| + 2 ^ (-1075 : Int) := by
  have read := heard_number double
  obtain ⟨d, rfl⟩ := double
  obtain ⟨e, back⟩ := reread_finite d small
  rw [heard_finite, back, object] at read
  have same : e.1 = through d.1 := by simpa using read
  rw [← same]
  exact ⟨⟨e, rfl⟩, reread_near back⟩

end Heard

section Parameters
variable {features : Config.Features}
  {encode_auth_setting : String → String → String → Int32 → Option String}

open Json Parameters Config TestState

/-- An item without children. -/
def Leaf (item : cJSON) : Prop := Plain item ∧ nesting (tree item) = 0

theorem leaf_int (value : Int32) : Leaf (int_number value) := by
  have low := value.le_toInt
  have high := value.toInt_lt
  have bits : |value.toInt| ≤ 2 ^ 53 := abs_le.mpr ⟨by omega, by omega⟩
  exact ⟨⟨value.toInt, rfl, by omega, by omega, representable_int (by decide) bits⟩, rfl⟩

theorem to_double_exact {value : Nat} (small : value < 2 ^ 63) :
    Representable binary64 (Json.to_double value : Nat) ∧ Json.to_double value ≤ 2 ^ 63 := by
  unfold Json.to_double
  split
  · rename_i few
    have bits : |(value : Int)| ≤ 2 ^ 53 := by
      rw [abs_of_nonneg (Int.natCast_nonneg _)]
      exact_mod_cast few.le
    have shown := @representable_int binary64 (by decide) _ bits
    exact ⟨by exact_mod_cast shown, small.le⟩
  · rename_i large
    set power := Nat.log2 value - 52 with power_def
    have nonzero : value ≠ 0 := by omega
    have log_low : 53 ≤ Nat.log2 value := (Nat.le_log2 nonzero).mpr (by omega)
    have log_high : Nat.log2 value ≤ 62 := by
      have := (Nat.log2_lt nonzero (k := 63)).mpr small
      omega
    have few : value / 2 ^ power < 2 ^ 53 := by
      rw [Nat.div_lt_iff_lt_mul (by positivity), ← pow_add]
      exact lt_of_lt_of_le (Nat.lt_log2_self (n := value)) (Nat.pow_le_pow_right (by decide) (by omega))
    -- either way an integer of 53 bits, or the power behind them
    have grid : ∀ kept ≤ 2 ^ 53, Representable binary64 ((kept * 2 ^ power : Nat) : ℚ) ∧
        kept * 2 ^ power ≤ 2 ^ 63 := by
      intro kept bound
      have bits : |(kept : Int)| ≤ 2 ^ 53 := by
        rw [abs_of_nonneg (Int.natCast_nonneg _)]
        exact_mod_cast bound
      obtain ⟨m, e, short, least, shape⟩ := @representable_int binary64 (by decide) _ bits
      constructor
      · refine ⟨m, e + power, short, by omega, ?_⟩
        push_cast
        rw [show (kept : ℚ) = ((kept : Int) : ℚ) by simp, shape, zpow_add₀ (by norm_num), zpow_natCast]
        ring
      · calc kept * 2 ^ power ≤ 2 ^ 53 * 2 ^ power := Nat.mul_le_mul_right _ bound
          _ = 2 ^ (53 + power) := (pow_add 2 53 power).symm
          _ ≤ 2 ^ 63 := Nat.pow_le_pow_right (by decide) (by omega)
    dsimp only
    split
    · exact grid _ few.le
    · exact grid _ few

theorem leaf_size {value : UInt64} (small : value.toNat < 2 ^ 63) : Leaf (size_number value) := by
  obtain ⟨exact_, bound⟩ := to_double_exact small
  refine ⟨⟨Json.to_double value.toNat, by push_cast; rfl, by omega, ?_, exact_⟩, rfl⟩
  exact_mod_cast bound

/-- An entry that may stand in the object. -/
def Ready (entry : String × Option cJSON) : Prop :=
  Terminated entry.1 ∧ ∀ item ∈ entry.2, Leaf item

/-- The strings of the settings are strings of C, and the counts leave the last bit free. -/
structure Ordinary (features : Features) (test : iperf_test) (authtoken : Option String) : Prop where
  bytes : test.settings.bytes.toNat < 2 ^ 63
  blocks : test.settings.blocks.toNat < 2 ^ 63
  rate : test.settings.rate.toNat < 2 ^ 63
  fqrate : test.settings.fqrate.toNat < 2 ^ 63
  title : ∀ value ∈ test.title, Terminated value
  extra_data : ∀ value ∈ test.extra_data, Terminated value
  congestion : ∀ value ∈ test.congestion, Terminated value
  congestion_used : ∀ value ∈ test.congestion_used, Terminated value
  authtoken : ∀ value ∈ authtoken, Terminated value
  version : Terminated features.IPERF_VERSION

end Parameters

end Iperf.CjsonMessages
