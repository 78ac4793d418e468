import Iperf.CjsonPrint
import Iperf.FloatText
import Iperf.LinkedRing

/-!
The items of cJSON in memory, and the functions that make, link and free them. An item
holds its children by the pointer to the first of them, which form a ring; it owns them
and its strings, except when it is a reference to another item. Keys that are constants
are left out, the program has none.
-/

namespace Iperf.CjsonHeap

open DoublyLinked LinkedRing
open AuthToken CjsonNumber CjsonItem
open FloatText (tolower)

section Memory

/-- `type` without its flags. -/
inductive Kind where
  | cJSON_False
  | cJSON_True
  | cJSON_NULL
  | cJSON_Number
  | cJSON_String
  | cJSON_Array
  | cJSON_Object
  deriving DecidableEq, Repr

/-- What is in an item besides `next` and `prev`; `valueint` is `CjsonNumber.valueint`. -/
structure Fields where
  child : Option Ptr
  type : Kind
  IsReference : Bool
  StringIsConst : Bool
  valuestring : Option Ptr
  valuedouble : Double
  string : Option Ptr

/-- `mallocs` counts the requests, so that the allocator may answer each in its own way, and
`refused` those that got no block. -/
structure Memory where
  items : Heap Fields
  strings : Ptr → Option CString
  mallocs : Nat
  refused : Nat

def Memory.refuse (m : Memory) : Memory :=
  { m with mallocs := m.mallocs + 1, refused := m.refused + 1 }

/-- An allocator gives a block that is not in use, or none. -/
structure Hooks where
  item : (m : Memory) → Option { p : Ptr // m.items p = none }
  string : (m : Memory) → Nat → Option { p : Ptr // m.strings p = none }

inductive Stop where
  | fault
  | unfinished
  deriving DecidableEq, Repr

def Memory.item (m : Memory) (p : Ptr) : Except Stop (Node Fields) :=
  match m.items p with
  | none => .error .fault
  | some item => .ok item

def Memory.write (m : Memory) (p : Ptr) (f : Node Fields → Node Fields) : Except Stop Memory :=
  match m.items p with
  | none => .error .fault
  | some _ => .ok { m with items := edited m.items p f }

def Memory.string (m : Memory) (p : Ptr) : Except Stop CString :=
  match m.strings p with
  | none => .error .fault
  | some string => .ok string

/-- `deallocate` of an item. -/
def Memory.free_item (m : Memory) (p : Ptr) : Except Stop Memory :=
  match m.items p with
  | none => .error .fault
  | some _ => .ok { m with items := fun q => if q = p then none else m.items q }

/-- `deallocate` of a string, unless the pointer is NULL. -/
def Memory.free_string (m : Memory) : Option Ptr → Except Stop Memory
  | none => .ok m
  | some p =>
      match m.strings p with
      | none => .error .fault
      | some _ => .ok { m with strings := fun q => if q = p then none else m.strings q }

end Memory

section Functions
variable (hooks : Hooks) (fuel : Nat) (m : Memory)

/-- `node` is what is written into the new item at once. -/
def cJSON_New_Item (node : Node Fields) : Memory × Option Ptr :=
  match hooks.item m with
  | none => (m.refuse, none)
  | some p =>
      ({ m with items := Function.update m.items p.1 (some node), mallocs := m.mallocs + 1 },
        some p.1)

def cJSON_strdup (string : CString) : Memory × Option Ptr :=
  match hooks.string m (string.val.length + 1) with
  | none => (m.refuse, none)
  | some p =>
      ({ m with
        strings := Function.update m.strings p.1 (some string), mallocs := m.mallocs + 1 }, some p.1)

/-- Without children there is nothing to delete below. The fields of an item are read again
after its children are gone. -/
def cJSON_Delete : Nat → Memory → Option Ptr → Except Stop Memory
  | 0, _, _ => .error .unfinished
  | _ + 1, m, none => .ok m
  | fuel + 1, m, some p => do
      let item ← m.item p
      let next := item.next
      let m ← (if item.value.IsReference then .ok m else cJSON_Delete fuel m item.value.child)
      let item ← m.item p
      let m ← (if item.value.IsReference then .ok m else m.free_string item.value.valuestring)
      let m ← (if item.value.StringIsConst then .ok m else m.free_string item.value.string)
      let m ← m.free_item p
      cJSON_Delete fuel m next

/-- What `memset` leaves, with a type. -/
def fields (type : Kind) (valuedouble : Double) (valuestring : Option Ptr) : Fields :=
  ⟨none, type, false, false, valuestring, valuedouble, none⟩

def zero : Double := to_double 0

def create (type : Kind) (valuedouble : Double) : Memory × Option Ptr :=
  cJSON_New_Item hooks m ⟨fields type valuedouble none, none, none⟩

def cJSON_CreateNull : Memory × Option Ptr := create hooks m .cJSON_NULL zero

def cJSON_CreateTrue : Memory × Option Ptr := create hooks m .cJSON_True zero

def cJSON_CreateFalse : Memory × Option Ptr := create hooks m .cJSON_False zero

def cJSON_CreateBool (boolean : Bool) : Memory × Option Ptr :=
  create hooks m (if boolean then .cJSON_True else .cJSON_False) zero

def cJSON_CreateNumber (num : Double) : Memory × Option Ptr := create hooks m .cJSON_Number num

def cJSON_CreateArray : Memory × Option Ptr := create hooks m .cJSON_Array zero

def cJSON_CreateObject : Memory × Option Ptr := create hooks m .cJSON_Object zero

def cJSON_CreateString (string : CString) : Except Stop (Memory × Option Ptr) :=
  match create hooks m .cJSON_String zero with
  | (m, none) => .ok (m, none)
  | (m, some item) =>
      match cJSON_strdup hooks m string with
      | (m, none) => do
          let m ← cJSON_Delete fuel m (some item)
          .ok (m, none)
      | (m, some valuestring) => do
          let m ← m.write item fun node =>
            { node with value := { node.value with valuestring := some valuestring } }
          .ok (m, some item)

def suffix_object (prev item : Ptr) : Except Stop Memory := do
  let m ← m.write prev fun node => { node with next := some item }
  m.write item fun node => { node with prev := some prev }

def create_reference (item : Option Ptr) : Except Stop (Memory × Option Ptr) :=
  match item with
  | none => .ok (m, none)
  | some item =>
      match hooks.item m with
      | none => .ok (m.refuse, none)
      | some _ => do
          let original ← m.item item
          .ok (cJSON_New_Item hooks m
            ⟨{ original.value with string := none, IsReference := true }, none, none⟩)

def add_item_to_array (array item : Option Ptr) : Except Stop (Memory × Bool) :=
  match array, item with
  | some array, some item =>
      if array = item then .ok (m, false)
      else do
        let list ← m.item array
        match list.value.child with
        | none => do
            let m ← m.write array fun node =>
              { node with value := { node.value with child := some item } }
            let m ← m.write item fun node => { node with prev := some item }
            let m ← m.write item fun node => { node with next := none }
            .ok (m, true)
        | some child => do
            let first ← m.item child
            match first.prev with
            | none => .ok (m, true)
            | some prev => do
                let m ← suffix_object m prev item
                let m ← m.write child fun node => { node with prev := some item }
                .ok (m, true)
  | _, _ => .ok (m, false)

def add_item_to_object (object : Option Ptr) (string : CString) (item : Option Ptr) :
    Except Stop (Memory × Bool) :=
  match object, item with
  | some object, some item =>
      if object = item then .ok (m, false)
      else
        match cJSON_strdup hooks m string with
        | (m, none) => .ok (m, false)
        | (m, some new_key) => do
            let node ← m.item item
            let m ← (if node.value.StringIsConst then .ok m else m.free_string node.value.string)
            let m ← m.write item fun node =>
              { node with value := { node.value with
                string := some new_key, StringIsConst := false } }
            add_item_to_array m (some object) (some item)
  | _, _ => .ok (m, false)

def cJSON_AddItemToArray (array item : Option Ptr) : Except Stop (Memory × Bool) :=
  add_item_to_array m array item

def cJSON_AddItemToObject (object : Option Ptr) (string : CString) (item : Option Ptr) :
    Except Stop (Memory × Bool) :=
  add_item_to_object hooks m object string item

def cJSON_AddItemReferenceToObject (object : Option Ptr) (string : CString)
    (item : Option Ptr) : Except Stop (Memory × Bool) :=
  match object with
  | none => .ok (m, false)
  | some object => do
      let (m, reference) ← create_reference hooks m item
      add_item_to_object hooks m (some object) string reference

/-- `cJSON_AddNumberToObject` and the others: an item that cannot be added is freed. -/
def add_to_object (object : Option Ptr) (name : CString) (created : Memory × Option Ptr) :
    Except Stop (Memory × Option Ptr) := do
  let (m, item) := created
  let (m, added) ← add_item_to_object hooks m object name item
  if added then .ok (m, item)
  else do
    let m ← cJSON_Delete fuel m item
    .ok (m, none)

def cJSON_AddTrueToObject (object : Option Ptr) (name : CString) :
    Except Stop (Memory × Option Ptr) :=
  add_to_object hooks fuel object name (cJSON_CreateTrue hooks m)

def cJSON_AddNumberToObject (object : Option Ptr) (name : CString) (number : Double) :
    Except Stop (Memory × Option Ptr) :=
  add_to_object hooks fuel object name (cJSON_CreateNumber hooks m number)

def cJSON_AddStringToObject (object : Option Ptr) (name string : CString) :
    Except Stop (Memory × Option Ptr) := do
  let created ← cJSON_CreateString hooks fuel m string
  add_to_object hooks fuel object name created

/-- `case_insensitive_strcmp` of the name and the key of an item, NULL or not. -/
def same_key (name : CString) : Option Ptr → Except Stop Bool
  | none => .ok false
  | some p => do
      let string ← m.string p
      .ok (name.val.map tolower == string.val.map tolower)

def get_object_item_loop (name : CString) : Nat → Option Ptr → Except Stop (Option Ptr)
  | 0, _ => .error .unfinished
  | _ + 1, none => .ok none
  | fuel + 1, some current_element => do
      let item ← m.item current_element
      let same ← same_key m name item.value.string
      if same then .ok (some current_element)
      else get_object_item_loop name fuel item.next

def cJSON_GetObjectItem (object : Option Ptr) (name : CString) : Except Stop (Option Ptr) :=
  match object with
  | none => .ok none
  | some object => do
      let list ← m.item object
      get_object_item_loop m name fuel list.value.child

def cJSON_DetachItemViaPointer (parent item : Option Ptr) :
    Except Stop (Memory × Option Ptr) :=
  match parent, item with
  | some parent, some item => do
      let list ← m.item parent
      let node ← m.item item
      let m ← (if list.value.child = some item then .ok m
        else
          match node.prev with
          | none => .error .fault
          | some prev => m.write prev fun before => { before with next := node.next })
      let m ← (match node.next with
        | none => .ok m
        | some next => m.write next fun after => { after with prev := node.prev })
      let m ← (if list.value.child = some item then
          m.write parent fun list => { list with value := { list.value with child := node.next } }
        else
          match node.next, list.value.child with
          | none, none => .error .fault
          | none, some child => m.write child fun first => { first with prev := node.prev }
          | some _, _ => .ok m)
      let m ← m.write item fun node => { node with prev := none, next := none }
      .ok (m, some item)
  | _, _ => .ok (m, none)

def cJSON_DetachItemFromObject (object : Option Ptr) (string : CString) :
    Except Stop (Memory × Option Ptr) := do
  let to_detach ← cJSON_GetObjectItem fuel m object string
  cJSON_DetachItemViaPointer m object to_detach

end Functions

end Iperf.CjsonHeap
