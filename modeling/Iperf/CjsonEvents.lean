import Iperf.CjsonOwnership

/-!
Events of the JSON stream. An event refers to an item that stays where it is; it is printed
and deleted, and the item is not disturbed.
-/

namespace Iperf.CjsonEvents

open DoublyLinked LinkedRing
open AuthToken CjsonNumber CjsonItem CjsonHeap CjsonForest CjsonEdits CjsonObjects CjsonOwnership
open FormattedText (ascii)

section Reading

/-- What is printed for a string pointer; nothing is between the quotes for NULL. -/
def string_at (m : Memory) : Option Ptr → Except Stop CString
  | none => .ok ⟨[], by simp⟩
  | some p => m.string p

mutual

/-- The tree that the printer walks through, from an item on. -/
def item_at (m : Memory) : Nat → Ptr → Except Stop Item
  | 0, _ => .error .unfinished
  | fuel + 1, p => do
      let item ← m.item p
      match item.value.type with
      | .cJSON_NULL => .ok .cJSON_NULL
      | .cJSON_False => .ok .cJSON_False
      | .cJSON_True => .ok .cJSON_True
      | .cJSON_Number => .ok (.cJSON_Number item.value.valuedouble)
      | .cJSON_String => do
          let valuestring ← string_at m item.value.valuestring
          .ok (.cJSON_String valuestring)
      | .cJSON_Array => do
          let child ← elements_at m fuel item.value.child
          .ok (.cJSON_Array child)
      | .cJSON_Object => do
          let child ← members_at m fuel item.value.child
          .ok (.cJSON_Object child)

def elements_at (m : Memory) : Nat → Option Ptr → Except Stop (List Item)
  | 0, _ => .error .unfinished
  | _ + 1, none => .ok []
  | fuel + 1, some p => do
      let item ← item_at m fuel p
      let current ← m.item p
      let next ← elements_at m fuel current.next
      .ok (item :: next)

def members_at (m : Memory) : Nat → Option Ptr → Except Stop (List (CString × Item))
  | 0, _ => .error .unfinished
  | _ + 1, none => .ok []
  | fuel + 1, some p => do
      let current ← m.item p
      let string ← string_at m current.value.string
      let item ← item_at m fuel p
      let next ← members_at m fuel current.next
      .ok ((string, item) :: next)

end

end Reading

section Kept
variable {m m' : Memory}

/-- What is allocated stays as it is. -/
def Keeps_blocks (m m' : Memory) : Prop :=
  (∀ p node, m.items p = some node → m'.items p = some node) ∧
    ∀ p string, m.strings p = some string → m'.strings p = some string

theorem item_inv {p : Ptr} {node : Node Fields} (read : m.item p = .ok node) :
    m.items p = some node := by
  unfold Memory.item at read
  cases held : m.items p with
  | none => simp [held] at read
  | some item => simpa [held] using read

theorem string_at_kept (kept : Keeps_blocks m m') {p : Option Ptr} {string : CString}
    (read : string_at m p = .ok string) : string_at m' p = .ok string := by
  cases p with
  | none => exact read
  | some p =>
      simp only [string_at, Memory.string] at read ⊢
      cases held : m.strings p with
      | none => simp [held] at read
      | some s =>
          rw [held] at read
          rw [kept.2 p s held]
          exact read

theorem bind_ok {Value Next : Type} {first : Except Stop Value} {next : Value → Except Stop Next}
    {result : Next} (done : first >>= next = .ok result) :
    ∃ value, first = .ok value ∧ next value = .ok result := by
  cases first with
  | error stop => cases done
  | ok value => exact ⟨value, rfl, done⟩

/-- The walk reads the same where nothing is changed, and with a larger budget. -/
theorem walk_kept (kept : Keeps_blocks m m') (fuel more : Nat) (enough : fuel ≤ more) :
    (∀ p item, item_at m fuel p = .ok item → item_at m' more p = .ok item) ∧
      (∀ p child, elements_at m fuel p = .ok child → elements_at m' more p = .ok child) ∧
      ∀ p child, members_at m fuel p = .ok child → members_at m' more p = .ok child := by
  induction fuel generalizing more with
  | zero => simp [item_at, elements_at, members_at]
  | succ fuel ih =>
      obtain ⟨more, rfl⟩ : ∃ k, more = k + 1 := ⟨more - 1, by omega⟩
      obtain ⟨items, elements, members⟩ := ih more (by omega)
      refine ⟨fun p item read => ?_, fun p child read => ?_, fun p child read => ?_⟩
      · rw [item_at] at read ⊢
        obtain ⟨node, stored, read⟩ := bind_ok read
        rw [item_ok (kept.1 p node (item_inv stored))]
        simp only [bind, Except.bind]
        cases type : node.value.type with
        | cJSON_NULL | cJSON_False | cJSON_True | cJSON_Number => simpa [type] using read
        | cJSON_String =>
            simp only [type] at read
            obtain ⟨string, found, read⟩ := bind_ok read
            simp only [string_at_kept kept found]
            exact read
        | cJSON_Array =>
            simp only [type] at read
            obtain ⟨child, found, read⟩ := bind_ok read
            simp only [elements _ _ found]
            exact read
        | cJSON_Object =>
            simp only [type] at read
            obtain ⟨child, found, read⟩ := bind_ok read
            simp only [members _ _ found]
            exact read
      · cases p with
        | none => exact read
        | some p =>
            rw [elements_at] at read ⊢
            obtain ⟨item, found, read⟩ := bind_ok read
            obtain ⟨node, stored, read⟩ := bind_ok read
            obtain ⟨next, later, read⟩ := bind_ok read
            simp only [items _ _ found, item_ok (kept.1 p node (item_inv stored)),
              elements _ _ later, bind, Except.bind]
            exact read
      · cases p with
        | none => exact read
        | some p =>
            rw [members_at] at read ⊢
            obtain ⟨node, stored, read⟩ := bind_ok read
            obtain ⟨string, name, read⟩ := bind_ok read
            obtain ⟨item, found, read⟩ := bind_ok read
            obtain ⟨next, later, read⟩ := bind_ok read
            simp only [item_ok (kept.1 p node (item_inv stored)), string_at_kept kept name,
              items _ _ found, members _ _ later, bind, Except.bind]
            exact read

/-- From an item on, the printer finds this tree. -/
def Shows (m : Memory) (fuel : Nat) (p : Ptr) (item : Item) : Prop := item_at m fuel p = .ok item

theorem shows_kept (kept : Keeps_blocks m m') {p : Ptr} {item : Item} {fuel more : Nat}
    (shows : Shows m fuel p item) (enough : fuel ≤ more) : Shows m' more p item :=
  (walk_kept kept fuel more enough).1 p item shows

/-- An item with the fields of another one that matter to the printer shows the same. -/
theorem shows_alike {p q : Ptr} {node other : Node Fields} {item : Item} {fuel : Nat}
    (shows : Shows m fuel p item) (stored : m.items p = some node) (held : m.items q = some other)
    (type : other.value.type = node.value.type) (child : other.value.child = node.value.child)
    (valuestring : other.value.valuestring = node.value.valuestring)
    (valuedouble : other.value.valuedouble = node.value.valuedouble) : Shows m fuel q item := by
  unfold Shows at shows ⊢
  cases fuel with
  | zero => simp [item_at] at shows
  | succ fuel =>
      rw [item_at, item_ok stored] at shows
      rw [item_at, item_ok held]
      simpa only [bind, Except.bind, type, child, valuestring, valuedouble] using shows

end Kept

section Objects
variable {m : Memory} {label : Label} {child rest : List ItemTree} {context : List Frame}

/-- A member with this name that shows this tree. -/
def Member (m : Memory) (fuel : Nat) (t : ItemTree) (value : CString × Item) : Prop :=
  (∃ p, t.name = some (p, value.1)) ∧ Shows m fuel t.address value.2

theorem keeps_refl (m : Memory) : Keeps_blocks m m := ⟨fun _ _ held => held, fun _ _ held => held⟩

theorem members_show {ts : List ItemTree} {values : List (CString × Item)} {fuel : Nat}
    {prev start last : Option Ptr} (linked : Seg m.items prev start (ts.map ItemTree.cell) last none)
    (below : Inside_all m ts) (members : List.Forall₂ (Member m fuel) ts values) :
    members_at m (fuel + ts.length + 1) start = .ok values := by
  induction members generalizing prev start with
  | nil =>
      obtain ⟨rfl, -⟩ := linked
      rfl
  | cons first others ih =>
      rename_i t value ts values
      obtain ⟨rfl, link, stored, follows⟩ := linked
      obtain ⟨inside, later⟩ := below
      obtain ⟨⟨q, name⟩, read⟩ := first
      have rest := ih follows later
      have held : m.items t.address = some ⟨t.fields, prev, link⟩ := stored
      have string : string_at m t.fields.string = .ok value.1 := by
        rw [(fields_string t).1, name]
        simp [string_at, Memory.string, inside_name inside _ name]
      have item : item_at m (fuel + ts.length + 1) t.address = .ok value.2 :=
        shows_kept (keeps_refl m) read (by omega)
      show members_at m (fuel + ts.length + 1 + 1) (some t.address) = _
      rw [members_at]
      simp only [item_ok held, string, item, rest, bind, Except.bind]

/-- An object shows its members. -/
theorem object_shows {fuel : Nat}
    (forest : Forest m (plug context (.item label child) :: rest))
    (type : label.type = .cJSON_Object) {values : List (CString × Item)}
    (members : List.Forall₂ (Member m fuel) child values) :
    Shows m (fuel + child.length + 2) label.address (.cJSON_Object values) := by
  have inside := forest.inside _ List.mem_cons_self
  obtain ⟨prev, next, stored⟩ := plug_stored inside (forest.root _ List.mem_cons_self)
  obtain ⟨-, -, ⟨last, seg⟩, below⟩ := plug_below inside
  have read := members_show seg below members
  show item_at m (fuel + child.length + 1 + 1) label.address = _
  rw [item_at, item_ok (show m.items label.address = _ from stored)]
  simp only [ItemTree.fields, type, bind, Except.bind, read]

/-- The children of an item are in memory. -/
theorem child_stored (forest : Forest m (plug context (.item label child) :: rest)) {t : ItemTree}
    (member : t ∈ child) :
    (∃ prev next, m.items t.address = some ⟨t.fields, prev, next⟩) ∧ Inside m t := by
  obtain ⟨-, -, ⟨last, seg⟩, below⟩ := plug_below (forest.inside _ List.mem_cons_self)
  exact ⟨seg_stored seg (List.mem_map_of_mem member), (inside_all_iff child).mp below t member⟩

theorem string_member (forest : Forest m (plug context (.item label child) :: rest))
    {p q r : Ptr} {name string : CString} {valuedouble : Double}
    (member : .item ⟨p, .cJSON_String, valuedouble, some (q, string), some (r, name)⟩ [] ∈ child)
    (fuel : Nat) :
    Member m (fuel + 1) (.item ⟨p, .cJSON_String, valuedouble, some (q, string), some (r, name)⟩ [])
      (name, .cJSON_String string) := by
  obtain ⟨⟨prev, next, stored⟩, kept, -⟩ := child_stored forest member
  refine ⟨⟨r, rfl⟩, ?_⟩
  unfold Shows
  rw [item_at, item_ok stored]
  simp [ItemTree.fields, bind, Except.bind, string_at, Memory.string, kept _ rfl]

theorem reference_member (forest : Forest m (plug context (.item label child) :: rest))
    {p r q : Ptr} {node : Node Fields} {name : CString} {item : Item} {fuel : Nat}
    (member : .reference r node.value (some (q, name)) ∈ child) (stored : m.items p = some node)
    (shows : Shows m fuel p item) :
    Member m fuel (.reference r node.value (some (q, name))) (name, item) := by
  obtain ⟨⟨prev, next, held⟩, -⟩ := child_stored forest member
  exact ⟨⟨q, rfl⟩, shows_alike shows stored held rfl rfl rfl rfl⟩

end Objects

section Events
variable (hooks : Hooks) (printer : CjsonPrint.Hooks) (fuel : Nat) (m : Memory)

def event_key : CString := ⟨ascii "event", word_nonzero rfl⟩

def data_key : CString := ⟨ascii "data", word_nonzero rfl⟩

/-- The result is the return value and what is written to the output. -/
def JSONStream_Output (event_name : CString) (obj : Option Ptr) :
    Except Stop (Memory × Int × Option (List UInt8)) :=
  match cJSON_CreateObject hooks m with
  | (m, none) => .ok (m, -1, none)
  | (m, some event) => do
      let (m, _) ← cJSON_AddStringToObject hooks fuel m (some event) event_key event_name
      let (m, _) ← cJSON_AddItemReferenceToObject hooks m (some event) data_key obj
      let item ← item_at m fuel event
      match CjsonPrint.print printer item false with
      | .error _ => .error .fault
      | .ok ⟨none, _, _⟩ => .ok (m, -1, none)
      | .ok ⟨some str, _, _⟩ => do
          let m ← cJSON_Delete fuel m (some event)
          .ok (m, 0, some str)

end Events

section Undisturbed
variable {hooks : Hooks} {printer : CjsonPrint.Hooks} {fuel : Nat} {m : Memory}
variable {roots : List ItemTree} {event_name : CString} {obj : Ptr} {item : Item}

/-- What the event is for. -/
def event_members (event_name : CString) (item : Item) : List (CString × Item) :=
  [(event_key, .cJSON_String event_name), (data_key, item)]

theorem forest_keeps (front : List ItemTree) {after : Memory} (forest : Forest m roots)
    (forest' : Forest after (front ++ roots)) : Keeps_blocks m after := by
  have kept := forest_kept [] front forest forest'
  refine ⟨fun p node held => ?_, fun p string held => ?_⟩
  · rw [← kept.1 p ((forest.owned p).mp (by simp [held]))]
    exact held
  · rw [← kept.2 p ((forest.strings_owned p).mp (by simp [held]))]
    exact held

/-- The event as it is printed: with the members there was memory for. -/
theorem event_built (hooks : Hooks) (event_name : CString) {label : Label}
    (forest : Forest m (.item label [] :: roots)) (type : label.type = .cJSON_Object)
    {original : Memory} (before : Forest original roots) {shown : Nat}
    (shows : Shows original shown obj item) (enough : 1 < fuel) :
    ∃ named result built success lost child values,
      cJSON_AddStringToObject hooks fuel m (some label.address) event_key event_name =
        .ok (named, result) ∧
      cJSON_AddItemReferenceToObject hooks named (some label.address) data_key (some obj) =
        .ok (built, success) ∧
      Forest built (.item label child :: (lost ++ roots)) ∧ (items_all child).length ≤ 2 ∧
      values.Sublist (event_members event_name item) ∧
      Shows built (shown + 5) label.address (.cJSON_Object values) ∧
      m.refused ≤ built.refused ∧
      (built.refused = m.refused → lost = [] ∧ values = event_members event_name item) := by
  obtain ⟨node, stored⟩ : ∃ node, original.items obj = some node := by
    cases shown with
    | zero => simp [Shows, item_at] at shows
    | succ shown =>
        rw [Shows, item_at] at shows
        obtain ⟨node, read, -⟩ := bind_ok shows
        exact ⟨node, item_inv read⟩
  obtain ⟨named, result, strings, added, grown, string⟩ := cJSON_AddStringToObject_forest hooks
    event_key event_name (show Forest m (plug [] (.item label []) :: roots) from forest) enough
  rw [List.nil_append] at grown
  have held := (forest_keeps [_] before grown).1 obj node stored
  obtain ⟨built, success, referred, outcome⟩ := cJSON_AddItemReferenceToObject_forest hooks
    data_key grown held
  have few : (items_all strings).length ≤ 1 ∧ strings.length ≤ 1 := by
    rcases string with ⟨rfl, -⟩ | ⟨p, q, r, -, rfl, -⟩ <;> simp [items_all, items]
  have asked : m.refused ≤ named.refused := by
    rcases string with ⟨-, -, refuses⟩ | ⟨p, q, r, -, -, granted⟩
    · exact refuses.le
    · exact granted.ge
  -- The first member shows the name of the event, if it is there.
  have name_shows : ∀ (now : Memory) (child rest : List ItemTree),
      Forest now (plug [] (.item label (strings ++ child)) :: rest) →
      ∃ values, List.Forall₂ (Member now (shown + 1)) strings values ∧
        values.Sublist [(event_key, .cJSON_String event_name)] ∧
        (named.refused = m.refused → values = [(event_key, .cJSON_String event_name)]) := by
    intro now child rest forest
    rcases string with ⟨rfl, -, refuses⟩ | ⟨p, q, r, -, rfl, -⟩
    · exact ⟨[], .nil, List.nil_sublist _, fun granted => absurd refuses granted.le.not_gt⟩
    · exact ⟨_, .cons (string_member forest (by simp) shown) .nil, .refl _, fun _ => rfl⟩
  have whole : ∀ (m : Memory) (child rest : List ItemTree) (values : List (CString × Item)),
      Forest m (plug [] (.item label child) :: rest) → child.length ≤ 2 →
      List.Forall₂ (Member m (shown + 1)) child values →
      Shows m (shown + 5) label.address (.cJSON_Object values) := by
    intro m child rest values forest short members
    exact shows_kept (keeps_refl m) (object_shows forest type members) (by omega)
  -- Without the second member.
  have without_data : ∀ lost, Forest built (plug [] (.item label strings) :: (lost ++ roots)) →
      named.refused < built.refused → ∃ lost child values, Forest built (.item label child :: (lost ++ roots)) ∧
        (items_all child).length ≤ 2 ∧ values.Sublist (event_members event_name item) ∧
        Shows built (shown + 5) label.address (.cJSON_Object values) ∧
        m.refused ≤ built.refused ∧
        (built.refused = m.refused → lost = [] ∧ values = event_members event_name item) := by
    intro lost kept refuses
    obtain ⟨values, members, sub, -⟩ := name_shows built [] _ (by rwa [List.append_nil])
    exact ⟨lost, strings, values, kept, by omega, sub.trans (List.sublist_append_left _ [_]),
      whole built strings _ values kept (by omega) members, by omega, fun granted => by omega⟩
  cases success with
  | false =>
      obtain ⟨refuses, kept | ⟨r, kept⟩⟩ := outcome
      · obtain ⟨lost, child, values, rest⟩ := without_data [] kept refuses
        exact ⟨named, result, built, false, lost, child, values, added, referred, rest⟩
      · obtain ⟨lost, child, values, rest⟩ := without_data [.reference r node.value none]
          (kept.perm (.swap _ _ _)) refuses
        exact ⟨named, result, built, false, lost, child, values, added, referred, rest⟩
  | true =>
      obtain ⟨r, p, joined, same⟩ := outcome
      obtain ⟨values, members, sub, full⟩ := name_shows built _ _ joined
      have data := reference_member joined (List.mem_append_right _ List.mem_cons_self)
        ((forest_keeps [_] before joined).1 obj node stored)
        (shows_kept (forest_keeps [_] before joined) shows (Nat.le_succ shown))
      refine ⟨named, result, built, true, [], _, values ++ [(data_key, item)], added, referred, joined,
        ?_, sub.append (.refl _), ?_, by omega, fun granted => ⟨rfl, ?_⟩⟩
      · rw [items_all_append, List.length_append]
        simp only [items_all, items, List.append_nil, List.length_singleton]
        omega
      · refine whole built _ _ _ joined (by simp; omega) ?_
        exact List.rel_append members (.cons data .nil)
      · rw [full (same.symm.trans granted)]
        rfl

theorem members_text_shorter {some_members members : List (CString × Item)}
    (sub : some_members.Sublist members) (depth : Nat) :
    (members_text false depth some_members).length ≤ (members_text false depth members).length := by
  induction sub with
  | slnil => exact Nat.le_refl _
  | cons member _ ih =>
      simp only [members_text, List.length_append]
      omega
  | cons_cons member sub ih =>
      rename_i shorter longer
      have comma : shorter ≠ [] → longer ≠ [] := by
        rintro some_member rfl
        exact some_member (List.sublist_nil.mp sub)
      simp only [members_text, List.length_append, List.length_cons]
      by_cases last : shorter = []
      · simp only [last, if_true, List.length_nil]
        simp only [last] at ih
        omega
      · simp only [last, comma last, if_false]
        omega

/-- The items in memory stay as they are. What is written has the members there was memory
for, and if no request of the call is refused it has both, and nothing more is allocated. -/
theorem JSONStream_Output_undisturbed (hooks : Hooks) (printer : CjsonPrint.Hooks)
    (event_name : CString) {shown : Nat} (forest : Forest m roots)
    (shows : Shows m shown obj item) (enough : shown + 5 ≤ fuel)
    (small : (text false 0 (.cJSON_Object (event_members event_name item))).length + 2 < 2 ^ 63) :
    ∃ after code output lost,
      JSONStream_Output hooks printer fuel m event_name (some obj) = .ok (after, code, output) ∧
      Forest after (lost ++ roots) ∧
      (∀ bytes ∈ output, code = 0 ∧ ∃ members,
        members.Sublist (event_members event_name item) ∧
          bytes = text false 0 (.cJSON_Object members) ++ [0]) ∧
      (after.refused = m.refused →
        (∀ printed, CjsonPrint.print printer (.cJSON_Object (event_members event_name item))
          false = .ok printed → CjsonPrint.Granted printer printed.requests) →
        output = some (text false 0 (.cJSON_Object (event_members event_name item)) ++ [0]) ∧
          after.items = m.items ∧ after.strings = m.strings) := by
  rcases create_forest hooks forest .cJSON_Object zero with
    ⟨made, none, kept, refuses⟩ | ⟨made, event, some, grown, same⟩
  · refine ⟨made, -1, Option.none, [], ?_, kept, by simp, fun granted => by omega⟩
    rw [JSONStream_Output, cJSON_CreateObject, none]
  obtain ⟨named, result, built, success, lost, child, values, added, referred, joined, few, sub,
    showing, asked, full⟩ := event_built hooks event_name grown rfl forest shows
      (show 1 < fuel by omega)
  have read : item_at built fuel event = .ok (.cJSON_Object values) :=
    shows_kept (keeps_refl built) showing enough
  have shorter : (text false 0 (.cJSON_Object values)).length + 2 < 2 ^ 63 := by
    have length := members_text_shorter sub (0 + 1)
    simp only [text, List.length_append, List.length_cons] at small ⊢
    omega
  have outcome : (∃ requests, CjsonPrint.print printer (.cJSON_Object values) false =
        .ok ⟨Option.some (text false 0 (.cJSON_Object values) ++ [0]), requests, 1⟩) ∨
      ∃ requests, CjsonPrint.print printer (.cJSON_Object values) false =
        .ok ⟨Option.none, requests, 0⟩ ∧ ¬ CjsonPrint.Granted printer requests := by
    rcases CjsonPrint.print_text printer (.cJSON_Object values) false shorter with
      printed | ⟨refused, first⟩ | ⟨requests, refused, last⟩
    · exact .inl printed
    · exact .inr ⟨[], refused, fun granted => granted.1 first⟩
    · exact .inr ⟨requests, refused, fun granted => granted.not_last last⟩
  rcases outcome with ⟨requests, printed⟩ | ⟨requests, refused, not_granted⟩
  · have deletable : Forest built (.item ⟨event, .cJSON_Object, zero, Option.none, Option.none⟩
        child :: (lost ++ roots)) := joined
    obtain ⟨after, deleted, kept, left⟩ := cJSON_Delete_root deletable
      (show (items (.item _ child)).length < fuel by simp only [items, List.length_cons]; omega)
    refine ⟨after, 0, Option.some (text false 0 (.cJSON_Object values) ++ [0]), lost, ?_, kept, ?_, ?_⟩
    · rw [JSONStream_Output, cJSON_CreateObject, some]
      simp only [added, referred, read, printed, bind, Except.bind]
      rw [show cJSON_Delete fuel built (Option.some event) = .ok after from deleted]
    · rintro bytes ⟨⟩
      exact ⟨rfl, values, sub, rfl⟩
    · intro granted _
      obtain ⟨rfl, rfl⟩ := full (by omega)
      obtain ⟨same, same_strings⟩ := forest_unique kept forest
      exact ⟨rfl, same, same_strings⟩
  · -- The event is not deleted when it was not printed.
    refine ⟨built, -1, Option.none,
      .item ⟨event, .cJSON_Object, zero, Option.none, Option.none⟩ child :: lost, ?_, joined,
      by simp, fun granted asks => ?_⟩
    · rw [JSONStream_Output, cJSON_CreateObject, some]
      simp only [added, referred, read, refused, bind, Except.bind]
    · obtain ⟨-, rfl⟩ := full (granted.trans same.symm)
      exact absurd (asks _ refused) not_granted

theorem JSONStream_Output_array :
    let made := (create (counting 8) empty .cJSON_Array zero).1
    ∃ after code, JSONStream_Output (counting 8) CjsonPrint.granting 8 made event_key (some 0) =
        .ok (after, code,
          some (text false 0 (.cJSON_Object (event_members event_key (.cJSON_Array []))) ++ [0])) ∧
      after.items = made.items := by
  intro made
  have forest : Forest made [.item ⟨0, .cJSON_Array, zero, none, none⟩ []] :=
    created_forest (forest_nil 0 0)
      (rfl : create (counting 8) empty .cJSON_Array zero = (made, some 0))
  obtain ⟨after, code, output, lost, runs, -, -, full⟩ := JSONStream_Output_undisturbed (counting 8)
    CjsonPrint.granting event_key forest (show Shows made 2 0 (.cJSON_Array []) from rfl)
    (show 2 + 5 ≤ 8 by decide) (by decide +kernel)
  have none_refused : (JSONStream_Output (counting 8) CjsonPrint.granting 8 made event_key
      (some 0)).toOption.map (fun written => written.1.refused) = some 0 := by decide +kernel
  rw [runs] at none_refused
  obtain ⟨rfl, same, -⟩ := full (Option.some.inj none_refused) fun printed _ =>
    ⟨Option.some_ne_none _, fun _ _ _ _ => Option.some_ne_none _⟩
  exact ⟨after, code, runs, same⟩

end Undisturbed

end Iperf.CjsonEvents
