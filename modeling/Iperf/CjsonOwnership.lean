import Iperf.CjsonObjects
import Iperf.Transition

/-!
Programs that use cJSON: what they own, and what every call does to it. A program may move
or delete a tree of its own, and change or refer to items inside; then no call touches
memory that is not allocated, and everything that is allocated is in one of its trees, but
for the references that were made and could not be added.
-/

namespace Iperf.CjsonOwnership

open DoublyLinked
open AuthToken CjsonNumber CjsonItem CjsonHeap CjsonForest CjsonEdits CjsonObjects
open FormattedText (ascii)
open Transition (Run)

section Calls

/-- The calls. `create` stands for the functions that make an item of a type, `add` for
those that make one and add it to an object. -/
inductive Command where
  | create (type : Kind) (valuedouble : Double)
  | CreateString (string : CString)
  | AddItemToArray (array item : Option Ptr)
  | AddItemToObject (object : Option Ptr) (string : CString) (item : Option Ptr)
  | AddItemReferenceToObject (object : Option Ptr) (string : CString) (item : Option Ptr)
  | add (object : Option Ptr) (name : CString) (type : Kind) (valuedouble : Double)
  | AddStringToObject (object : Option Ptr) (name string : CString)
  | DetachItemFromObject (object : Option Ptr) (string : CString)
  | Delete (item : Option Ptr)

inductive Result where
  | item (p : Option Ptr)
  | added (success : Bool)
  | deleted

def Result.failed : Result → Bool
  | .item none | .added false => true
  | _ => false

def execute (hooks : Hooks) (fuel : Nat) (m : Memory) : Command → Except Stop (Memory × Result)
  | .create type valuedouble =>
      let (m, p) := create hooks m type valuedouble
      .ok (m, .item p)
  | .CreateString string => do
      let (m, p) ← cJSON_CreateString hooks fuel m string
      .ok (m, .item p)
  | .AddItemToArray array item => do
      let (m, success) ← cJSON_AddItemToArray m array item
      .ok (m, .added success)
  | .AddItemToObject object string item => do
      let (m, success) ← cJSON_AddItemToObject hooks m object string item
      .ok (m, .added success)
  | .AddItemReferenceToObject object string item => do
      let (m, success) ← cJSON_AddItemReferenceToObject hooks m object string item
      .ok (m, .added success)
  | .add object name type valuedouble => do
      let (m, p) ← add_to_object hooks fuel object name (create hooks m type valuedouble)
      .ok (m, .item p)
  | .AddStringToObject object name string => do
      let (m, p) ← cJSON_AddStringToObject hooks fuel m object name string
      .ok (m, .item p)
  | .DetachItemFromObject object string => do
      let (m, p) ← cJSON_DetachItemFromObject fuel m object string
      .ok (m, .item p)
  | .Delete item => do
      let m ← cJSON_Delete fuel m item
      .ok (m, .deleted)

/-- An item of one of the trees, at a place where it can get members. -/
def Holder (roots : List ItemTree) (p : Ptr) : Prop :=
  ∃ context label child rest,
    roots.Perm (plug context (.item label child) :: rest) ∧ p = label.address

/-- An item inside of one tree, and another tree. -/
def Joinable (roots : List ItemTree) (p q : Ptr) : Prop :=
  ∃ context label child t rest, roots.Perm (plug context (.item label child) :: t :: rest) ∧
    p = label.address ∧ q = t.address

/-- What a program may call. It gives away whole trees only, and deletes whole trees only. -/
def Permitted (roots : List ItemTree) : Command → Prop
  | .create _ _ | .CreateString _ => True
  | .AddItemToArray array item | .AddItemToObject array _ item =>
      ∀ p ∈ array, ∀ q ∈ item, Joinable roots p q
  | .AddItemReferenceToObject object _ item =>
      ∀ p ∈ object, Holder roots p ∧ ∀ q ∈ item, q ∈ items_all roots
  | .add object _ _ _ | .AddStringToObject object _ _ | .DetachItemFromObject object _ =>
      ∀ p ∈ object, Holder roots p
  | .Delete item => ∀ p ∈ item, ∃ t ∈ roots, p = t.address

/-- What a call does to the trees of the program, and what is lost to it. A call fails without
an argument that it needs, or when a request of its own is refused; then the trees stay as
they are. A reference for which there is no name is lost. -/
inductive Effect (m after : Memory) (roots : List ItemTree) :
    Command → Result → List ItemTree → List ItemTree → Prop where
  | created (type : Kind) (valuedouble : Double) (p : Ptr) :
      Effect m after roots (.create type valuedouble) (.item (some p))
        (.item ⟨p, type, valuedouble, none, none⟩ [] :: roots) []
  | created_string (string : CString) (p q : Ptr) :
      Effect m after roots (.CreateString string) (.item (some p))
        (.item ⟨p, .cJSON_String, zero, some (q, string), none⟩ [] :: roots) []
  | appended {context : List Frame} {label : Label} {child rest : List ItemTree} {t : ItemTree}
      (shape : roots.Perm (plug context (.item label child) :: t :: rest)) :
      Effect m after roots (.AddItemToArray (some label.address) (some t.address)) (.added true)
        (plug context (.item label (child ++ [t])) :: rest) []
  | named {context : List Frame} {label : Label} {child rest : List ItemTree} {t : ItemTree}
      (shape : roots.Perm (plug context (.item label child) :: t :: rest)) (string : CString)
      (p : Ptr) :
      Effect m after roots (.AddItemToObject (some label.address) string (some t.address)) (.added true)
        (plug context (.item label (child ++ [t.rename (p, string)])) :: rest) []
  | referred {context : List Frame} {label : Label} {child rest : List ItemTree} {item : Ptr}
      {original : Node Fields} (shape : roots.Perm (plug context (.item label child) :: rest))
      (stored : m.items item = some original) (string : CString) (r p : Ptr) :
      Effect m after roots (.AddItemReferenceToObject (some label.address) string (some item))
        (.added true)
        (plug context (.item label
          (child ++ [.reference r original.value (some (p, string))])) :: rest) []
  | lost (object : Ptr) {item : Ptr} {original : Node Fields}
      (stored : m.items item = some original) (string : CString) (r : Ptr)
      (refuses : m.refused < after.refused) :
      Effect m after roots (.AddItemReferenceToObject (some object) string (some item))
        (.added false) roots [.reference r original.value none]
  | added {context : List Frame} {label : Label} {child rest : List ItemTree}
      (shape : roots.Perm (plug context (.item label child) :: rest)) (name : CString)
      (type : Kind) (valuedouble : Double) (p q : Ptr) :
      Effect m after roots (.add (some label.address) name type valuedouble) (.item (some p))
        (plug context (.item label
          (child ++ [.item ⟨p, type, valuedouble, none, some (q, name)⟩ []])) :: rest) []
  | added_string {context : List Frame} {label : Label} {child rest : List ItemTree}
      (shape : roots.Perm (plug context (.item label child) :: rest)) (name string : CString)
      (p q r : Ptr) :
      Effect m after roots (.AddStringToObject (some label.address) name string) (.item (some p))
        (plug context (.item label (child ++
          [.item ⟨p, .cJSON_String, zero, some (q, string), some (r, name)⟩ []])) :: rest) []
  | detached {context : List Frame} {label : Label} {front back rest : List ItemTree}
      {t : ItemTree} (shape : roots.Perm (plug context (.item label (front ++ t :: back)) :: rest))
      (string : CString) (found : CjsonObjects.named string t)
      (first : ∀ s ∈ front, CjsonObjects.named string s = false) :
      Effect m after roots (.DetachItemFromObject (some label.address) string)
        (.item (some t.address)) (plug context (.item label (front ++ back)) :: t :: rest) []
  | deleted {t : ItemTree} {rest : List ItemTree} (shape : roots.Perm (t :: rest)) :
      Effect m after roots (.Delete (some t.address)) .deleted rest []
  | nothing : Effect m after roots (.Delete none) .deleted roots []
  | not_created (type : Kind) (valuedouble : Double) (refuses : m.refused < after.refused) :
      Effect m after roots (.create type valuedouble) (.item none) roots []
  | not_copied (string : CString) (refuses : m.refused < after.refused) :
      Effect m after roots (.CreateString string) (.item none) roots []
  | not_appended (array item : Option Ptr) (null : array = none ∨ item = none) :
      Effect m after roots (.AddItemToArray array item) (.added false) roots []
  | not_named (object : Option Ptr) (string : CString) (item : Option Ptr)
      (reason : object = none ∨ item = none ∨ m.refused < after.refused) :
      Effect m after roots (.AddItemToObject object string item) (.added false) roots []
  | not_referred (object : Option Ptr) (string : CString) (item : Option Ptr)
      (reason : object = none ∨ item = none ∨ m.refused < after.refused) :
      Effect m after roots (.AddItemReferenceToObject object string item) (.added false) roots []
  | not_added (object : Option Ptr) (name : CString) (type : Kind) (valuedouble : Double)
      (reason : object = none ∨ m.refused < after.refused) :
      Effect m after roots (.add object name type valuedouble) (.item none) roots []
  | not_added_string (object : Option Ptr) (name string : CString)
      (reason : object = none ∨ m.refused < after.refused) :
      Effect m after roots (.AddStringToObject object name string) (.item none) roots []
  | not_found {context : List Frame} {label : Label} {child rest : List ItemTree}
      (shape : roots.Perm (plug context (.item label child) :: rest)) (string : CString)
      (absent : ∀ s ∈ child, CjsonObjects.named string s = false) :
      Effect m after roots (.DetachItemFromObject (some label.address) string) (.item none) roots []
  | not_there (string : CString) :
      Effect m after roots (.DetachItemFromObject none string) (.item none) roots []

end Calls

section Effects
variable {m : Memory} {roots leaks : List ItemTree} {fuel : Nat}

/-- No list of children and no tree is longer than this. -/
def bound (roots : List ItemTree) : Nat := (items_all roots).length + 2

end Effects

section Losses
variable {m after : Memory} {roots leaks trees lost : List ItemTree} {command : Command}
variable {result : Result}

def Nameless (t : ItemTree) : Prop := ∃ r original, t = .reference r original none

/-- What is lost: references without a name, at these addresses. -/
structure Lost (addresses : Set Ptr) (leaks : List ItemTree) : Prop where
  places : ∀ p, p ∈ addresses ↔ p ∈ leaks.map ItemTree.address
  nameless : ∀ t ∈ leaks, Nameless t

/-- The items that a call which fails has made and left. -/
def left_by (m after : Memory) (result : Result) : Set Ptr :=
  {p | result.failed = true ∧ m.items p = none ∧ after.items p ≠ none}

end Losses

section Runs
variable {hooks : Hooks}

/-- A permitted call that comes to an end. The program does not have what was lost. -/
def Step (hooks : Hooks) (before : Memory × Set Ptr) (event : Command × Result)
    (after : Memory × Set Ptr) : Prop :=
  (∃ roots leaks, Forest before.1 (roots ++ leaks) ∧ Lost before.2 leaks ∧
      Permitted roots event.1) ∧
    (∃ enough, ∀ fuel, enough ≤ fuel →
      execute hooks fuel before.1 event.1 = .ok (after.1, event.2)) ∧
    after.2 = before.2 ∪ left_by before.1 after.1 event.2

def empty : Memory := ⟨fun _ => none, fun _ => none, 0, 0⟩

/-- Items and short strings are granted, with the number of the request for an address. -/
def counting (longest : Nat) : Hooks where
  item m := if free : m.items m.mallocs = none then some ⟨m.mallocs, free⟩ else none
  string m size := if free : m.strings m.mallocs = none ∧ size ≤ longest then
    some ⟨m.mallocs, free.1⟩ else none

theorem created_forest {m after : Memory} {roots : List ItemTree} {type : Kind}
    {valuedouble : Double} {p : Ptr} (forest : Forest m roots)
    (made : create hooks m type valuedouble = (after, some p)) :
    Forest after (.item ⟨p, type, valuedouble, none, none⟩ [] :: roots) := by
  rcases create_forest hooks forest type valuedouble with ⟨_, none, -⟩ | ⟨_, _, some, grown, -⟩
  · cases made.symm.trans none
  · cases made.symm.trans some
    exact grown

/-- The memory after a call, if it comes to an end. -/
def reached (fuel : Nat) (m : Memory) (command : Command) : Memory :=
  match execute (counting 4) fuel m command with
  | .ok (after, _) => after
  | .error _ => m

end Runs

end Iperf.CjsonOwnership
