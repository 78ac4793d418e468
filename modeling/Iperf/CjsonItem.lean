import Iperf.CjsonNumber
import Iperf.CjsonString

/-!
The trees of cJSON, and the text of a tree: what the printer is for. A formatted text
has each member of an object on a line of its own, behind tabs. Raw items are left out,
the program makes none.
-/

namespace Iperf.CjsonItem

open FormattedText AuthToken CjsonNumber CjsonString

section Items

/-- The children of an item are the list that starts at `child`; a member of an object
has its name in `string`. -/
inductive Item where
  | cJSON_NULL
  | cJSON_False
  | cJSON_True
  | cJSON_Number (valuedouble : Double)
  | cJSON_String (valuestring : CString)
  | cJSON_Array (child : List Item)
  | cJSON_Object (child : List (CString × Item))

mutual

/-- How many arrays and objects are inside each other. -/
def nesting : Item → Nat
  | .cJSON_Array child => nesting_elements child + 1
  | .cJSON_Object child => nesting_members child + 1
  | _ => 0

def nesting_elements : List Item → Nat
  | [] => 0
  | item :: next => max (nesting item) (nesting_elements next)

def nesting_members : List (CString × Item) → Nat
  | [] => 0
  | (_, item) :: next => max (nesting item) (nesting_members next)

end

mutual

/-- The allocated blocks of a tree: items, strings and names. -/
def blocks : Item → Nat
  | .cJSON_String _ => 2
  | .cJSON_Array child => blocks_elements child + 1
  | .cJSON_Object child => blocks_members child + 1
  | _ => 1

def blocks_elements : List Item → Nat
  | [] => 0
  | item :: next => blocks item + blocks_elements next

def blocks_members : List (CString × Item) → Nat
  | [] => 0
  | (_, item) :: next => blocks item + 1 + blocks_members next

end

end Items

section Text

def quoted (string : CString) : List UInt8 := 34 :: escape string.val ++ [34]

def tabs (depth : Nat) : List UInt8 := List.replicate depth 9

mutual

def text (format : Bool) (depth : Nat) : Item → List UInt8
  | .cJSON_NULL => ascii "null"
  | .cJSON_False => ascii "false"
  | .cJSON_True => ascii "true"
  | .cJSON_Number valuedouble => number_text valuedouble
  | .cJSON_String valuestring => quoted valuestring
  | .cJSON_Array child => 91 :: elements_text format (depth + 1) child ++ [93]
  | .cJSON_Object child =>
      123 :: (if format then [10] else []) ++ members_text format (depth + 1) child ++
        (if format then tabs depth else []) ++ [125]

def elements_text (format : Bool) (depth : Nat) : List Item → List UInt8
  | [] => []
  | item :: next =>
      text format depth item ++
        (if next = [] then [] else 44 :: (if format then [32] else [])) ++
        elements_text format depth next

def members_text (format : Bool) (depth : Nat) : List (CString × Item) → List UInt8
  | [] => []
  | (string, item) :: next =>
      (if format then tabs depth else []) ++ quoted string ++
        58 :: (if format then [9] else []) ++ text format depth item ++
        (if next = [] then [] else [44]) ++ (if format then [10] else []) ++
        members_text format depth next

end

end Text

section Strings

theorem word_nonzero {word : List UInt8} (checked : word.all (· != 0) = true) :
    ∀ c ∈ word, c ≠ 0 := by
  intro c member
  exact bne_iff_ne.mp (List.all_eq_true.mp checked c member)

theorem number_text_nonzero (d : Double) : ∀ c ∈ number_text d, c ≠ 0 := by
  cases d with
  | finite d =>
      rintro c member rfl
      have numeral := (number_text_reads d).numerals 0 member
      cases numeral
  | infinite negative => exact word_nonzero (rfl : (ascii "null").all (· != 0) = true)
  | nan => exact word_nonzero (rfl : (ascii "null").all (· != 0) = true)

theorem quoted_nonzero (string : CString) : ∀ c ∈ quoted string, c ≠ 0 := by
  have inside := escape_nonzero string.2
  intro c member
  simp only [quoted, List.cons_append, List.mem_cons, List.mem_append, List.not_mem_nil,
    or_false] at member
  rcases member with rfl | member | rfl
  · decide
  · exact inside c member
  · decide

theorem tabs_nonzero (depth : Nat) : ∀ c ∈ tabs depth, c ≠ 0 := by
  intro c member
  rw [List.eq_of_mem_replicate member]
  decide

mutual

/-- The text is a string of C. -/
theorem text_nonzero (format : Bool) (depth : Nat) : ∀ item : Item,
    ∀ c ∈ text format depth item, c ≠ 0
  | .cJSON_NULL => word_nonzero rfl
  | .cJSON_False => word_nonzero rfl
  | .cJSON_True => word_nonzero rfl
  | .cJSON_Number valuedouble => number_text_nonzero valuedouble
  | .cJSON_String valuestring => quoted_nonzero valuestring
  | .cJSON_Array child => by
      have inside := elements_nonzero format (depth + 1) child
      simp only [text]
      grind
  | .cJSON_Object child => by
      have inside := members_nonzero format (depth + 1) child
      have indent := tabs_nonzero depth
      simp only [text]
      grind

theorem elements_nonzero (format : Bool) (depth : Nat) : ∀ child : List Item,
    ∀ c ∈ elements_text format depth child, c ≠ 0
  | [] => by simp [elements_text]
  | item :: next => by
      have first := text_nonzero format depth item
      have others := elements_nonzero format depth next
      simp only [elements_text]
      grind

theorem members_nonzero (format : Bool) (depth : Nat) : ∀ child : List (CString × Item),
    ∀ c ∈ members_text format depth child, c ≠ 0
  | [] => by simp [members_text]
  | (string, item) :: next => by
      have name := quoted_nonzero string
      have indent := tabs_nonzero depth
      have first := text_nonzero format depth item
      have others := members_nonzero format depth next
      simp only [members_text]
      grind

end

end Strings

end Iperf.CjsonItem
