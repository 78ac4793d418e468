import Iperf.CjsonEdits

/-!
Members of objects in memory: their names, references to other items, and the search for a
name.
-/

namespace Iperf.CjsonObjects

open DoublyLinked LinkedRing
open AuthToken CjsonNumber CjsonItem CjsonHeap CjsonForest CjsonEdits
open FloatText (tolower)

section Strings
variable {m : Memory} {rest : List ItemTree} {t : ItemTree} {hooks : Hooks} {fuel : Nat}

/-- A copy of a string, in a block that no tree has. -/
theorem cJSON_strdup_cases (hooks : Hooks) (m : Memory) (string : CString) :
    cJSON_strdup hooks m string = (m.refuse, none) ∨
      ∃ p, m.strings p = none ∧ cJSON_strdup hooks m string =
        ({ m with strings := Function.update m.strings p (some string),
                  mallocs := m.mallocs + 1 }, some p) := by
  unfold cJSON_strdup
  cases given : hooks.string m (string.val.length + 1) with
  | none => exact .inl rfl
  | some p => exact .inr ⟨p.1, p.2, rfl⟩

theorem cJSON_CreateString_forest (hooks : Hooks) (forest : Forest m rest) (string : CString)
    (enough : 1 < fuel) :
    (∃ after, cJSON_CreateString hooks fuel m string = .ok (after, none) ∧ Forest after rest ∧
        m.refused < after.refused) ∨
      ∃ after p q, cJSON_CreateString hooks fuel m string = .ok (after, some p) ∧
        Forest after (.item ⟨p, .cJSON_String, zero, some (q, string), none⟩ [] :: rest) ∧
        after.refused = m.refused := by
  unfold cJSON_CreateString
  rcases create_forest hooks forest .cJSON_String zero with
    ⟨made, none, kept⟩ | ⟨made, p, some, grown, granted⟩
  · exact .inl ⟨made, by rw [none], kept⟩
  rw [some]
  rcases cJSON_strdup_cases hooks made string with refused | ⟨q, fresh, copied⟩
  · obtain ⟨after, deleted, kept, same⟩ := cJSON_Delete_root (forest_refuse grown)
      (by simpa [items, items_all] using enough)
    have more : after.refused = made.refused + 1 := same
    refine .inl ⟨after, ?_, kept, by omega⟩
    dsimp only
    rw [refused]
    simp only [bind, Except.bind]
    rw [show cJSON_Delete fuel made.refuse (Option.some p) = .ok after from deleted]
  · have stored := grown.root _ List.mem_cons_self
    let after : Memory := ⟨edited made.items p fun node =>
      { node with value := { node.value with valuestring := Option.some q } },
      Function.update made.strings q (Option.some string), made.mallocs + 1, made.refused⟩
    have outside : q ∉ texts_all rest := by
      intro member
      exact (grown.strings_owned q).mpr member fresh
    refine .inr ⟨after, p, q, ?_, ?_, granted⟩
    · dsimp only
      rw [copied]
      simp only [bind, Except.bind]
      rw [write_ok _ (by rw [show made.items p = _ from stored]; exact Option.some_ne_none _)]
    · have new_texts : texts_all (.item ⟨p, .cJSON_String, zero, Option.some (q, string), Option.none⟩ [] ::
          rest) = q :: texts_all rest := rfl
      refine forest_relabelled grown rfl rfl ?_ ?_ (fun r => ?_) ?_ fun r member => ?_
      · rw [new_texts]
        exact List.nodup_cons.mpr ⟨outside, grown.strings_apart⟩
      · -- Only `valuestring` differs from the fields that are there.
        refine edited_congr fun node held => ?_
        obtain rfl := Option.some.inj (held.symm.trans stored)
        rfl
      · rw [new_texts, List.mem_cons]
        by_cases here : r = q
        · simp [after, here]
        · rw [show after.strings r = made.strings r from Function.update_of_ne here _ _]
          exact (grown.strings_owned r).trans (or_iff_right here).symm
      · refine ⟨?_, keeps_none, ringed_nil _, trivial⟩
        rintro s ⟨⟩
        exact Function.update_self ..
      · exact Function.update_of_ne (fun here : r = q => outside (here ▸ member)) _ _

end Strings

section Members
variable {m : Memory} {rest child : List ItemTree} {t : ItemTree} {label : Label}
variable {context : List Frame} {hooks : Hooks} {fuel : Nat} {string : CString}

/-- The strings of a tree besides its name. -/
def other_texts : ItemTree → List Ptr
  | .item label child => place label.valuestring ++ texts_all child
  | .reference _ _ _ => []

theorem texts_name (t : ItemTree) : (texts t).Perm (place t.name ++ other_texts t) := by
  cases t with
  | item label child =>
      simp only [texts, ItemTree.name, other_texts, ← List.append_assoc]
      exact List.perm_append_comm.append_right _
  | reference address original string =>
      simp only [texts, ItemTree.name, other_texts, List.append_nil]
      exact .refl _

theorem rename_name (name : Ptr × CString) (t : ItemTree) : (t.rename name).name = some name := by
  cases t <;> rfl

theorem rename_other (name : Ptr × CString) (t : ItemTree) :
    other_texts (t.rename name) = other_texts t := by
  cases t <;> rfl

theorem rename_address (name : Ptr × CString) (t : ItemTree) :
    (t.rename name).address = t.address := by
  cases t <;> rfl

theorem rename_items (name : Ptr × CString) (t : ItemTree) :
    items (t.rename name) = items t := by
  cases t <;> rfl

theorem rename_fields (name : Ptr × CString) (t : ItemTree) :
    (t.rename name).fields = { t.fields with string := some name.1, StringIsConst := false } := by
  cases t <;> rfl

theorem fields_string (t : ItemTree) :
    t.fields.string = t.name.map Prod.fst ∧ t.fields.StringIsConst = false := by
  cases t <;> exact ⟨rfl, rfl⟩

theorem inside_name (inside : Inside m t) : Keeps m t.name := by
  cases t with
  | item label child => exact inside.2.1
  | reference address original string => exact inside

/-- A tree under another name, when its other strings are where they were. -/
theorem rename_inside {m' : Memory} (inside : Inside m t) (name : Ptr × CString)
    (named : m'.strings name.1 = some name.2) (apart : (items t).Nodup)
    (same : ∀ q, q ≠ t.address → m'.items q = m.items q)
    (same_strings : ∀ q ∈ other_texts t, m'.strings q = m.strings q) :
    Inside m' (t.rename name) := by
  have kept : Keeps m' (some name) := by
    rintro s ⟨⟩
    exact named
  cases t with
  | reference address original string => exact kept
  | item label child =>
      obtain ⟨valuestring, -, ring, below⟩ := inside
      rw [items, List.nodup_cons] at apart
      simp only [other_texts, List.mem_append] at same_strings
      have unwritten : ∀ q ∈ items_all child, m'.items q = m.items q := fun q member =>
        same q fun here => apart.1 ((show q = label.address from here) ▸ member)
      exact ⟨keeps_frame valuestring fun q member => same_strings q (.inl member), kept,
        ring.frame fun q member => unwritten q ((cells_items child).subset member),
        inside_all_frame child below unwritten fun q member => same_strings q (.inr member)⟩

/-- A root gets a name, and its old name is freed. -/
theorem forest_renamed (string : CString) (forest : Forest m (t :: rest)) {p : Ptr} (fresh : m.strings p = none)
    (mallocs refused : Nat) :
    Forest ⟨edited m.items t.address fun node => { node with value :=
        { node.value with string := some p, StringIsConst := false } },
      fun q => if q ∈ place t.name then none else if q = p then some string else m.strings q,
      mallocs, refused⟩ (t.rename (p, string) :: rest) := by
  have stored := forest.root t List.mem_cons_self
  have inside := forest.inside t List.mem_cons_self
  have outside : p ∉ texts_all (t :: rest) := fun member =>
    (forest.strings_owned p).mpr member fresh
  have items_apart := forest.apart
  have split := (texts_name t).append_right (texts_all rest)
  have apart := split.nodup_iff.mp forest.strings_apart
  have member_iff : ∀ q, q ∈ texts_all (t :: rest) ↔
      q ∈ place t.name ∨ q ∈ other_texts t ∨ q ∈ texts_all rest := by
    intro q
    rw [texts_all, split.mem_iff]
    simp only [List.mem_append, or_assoc]
  have renamed : (texts_all (t.rename (p, string) :: rest)).Perm
      (p :: (other_texts t ++ texts_all rest)) := by
    have shape := (texts_name (t.rename (p, string))).append_right (texts_all rest)
    rw [rename_name, rename_other] at shape
    exact shape
  rw [List.append_assoc, List.nodup_append] at apart
  obtain ⟨-, others_apart, across⟩ := apart
  have not_name : ∀ q ∈ other_texts t ++ texts_all rest, q ∉ place t.name :=
    fun q member name => across q name q member rfl
  have not_p : ∀ q ∈ other_texts t ++ texts_all rest, q ≠ p := by
    rintro q member rfl
    exact outside ((member_iff q).mpr (.inr (List.mem_append.mp member)))
  simp only [items_all, List.nodup_append] at items_apart
  refine forest_relabelled forest (rename_address _ t) (rename_items _ t) ?_ ?_ (fun q => ?_) ?_
    fun q member => ?_
  · refine renamed.nodup_iff.mpr (List.nodup_cons.mpr ⟨?_, others_apart⟩)
    exact fun member => not_p p member rfl
  · refine edited_congr fun node held => ?_
    obtain rfl := Option.some.inj (held.symm.trans stored)
    simp only [rename_fields]
  · rw [renamed.mem_iff, List.mem_cons, List.mem_append]
    have held := (forest.strings_owned q).trans (member_iff q)
    by_cases name : q ∈ place t.name
    · have not_other : q ∉ other_texts t ++ texts_all rest := fun member => not_name q member name
      rw [List.mem_append] at not_other
      have not_new : q ≠ p := by
        rintro rfl
        exact outside ((member_iff q).mpr (.inl name))
      simp [name, not_other, not_new]
    · by_cases new : q = p
      · subst new
        simp [name]
      · simp only [if_neg name, new, false_or]
        exact held.trans (or_iff_right name)
  · refine rename_inside inside _ ?_ items_apart.1 (fun q other => edited_other other) fun q member => ?_
    · have not_old : p ∉ place t.name := fun name => outside ((member_iff p).mpr (.inl name))
      simp [not_old]
    · have among := List.mem_append_left (texts_all rest) member
      simp only [if_neg (not_name q among), if_neg (not_p q among)]
  · have among := List.mem_append_right (other_texts t) member
    simp only [if_neg (not_name q among), if_neg (not_p q among)]

/-- The root becomes a member, unless there is no memory for its name. -/
theorem add_item_to_object_forest (hooks : Hooks) (string : CString)
    (forest : Forest m (plug context (.item label child) :: t :: rest)) :
    (∃ after, add_item_to_object hooks m (some label.address) string (some t.address) =
        .ok (after, false) ∧ Forest after (plug context (.item label child) :: t :: rest) ∧
        m.refused < after.refused) ∨
      ∃ after p, add_item_to_object hooks m (some label.address) string (some t.address) =
        .ok (after, true) ∧
        Forest after (plug context (.item label (child ++ [t.rename (p, string)])) :: rest) ∧
        after.refused = m.refused := by
  obtain ⟨-, stored, other, -⟩ := list_and_root forest
  rw [add_item_to_object, if_neg other]
  rcases cJSON_strdup_cases hooks m string with refused | ⟨p, fresh, copied⟩
  · rw [refused]
    exact .inl ⟨_, rfl, forest_refuse forest, Nat.lt_succ_self _⟩
  rw [copied]
  have swapped := forest.perm (.swap t _ rest)
  have named := forest_renamed string swapped fresh (m.mallocs + 1) m.refused
  obtain ⟨after, added, grown, granted⟩ := add_item_to_array_forest (t := t.rename (p, string))
    (named.perm (.swap _ _ rest))
  refine .inr ⟨after, p, ?_, grown, granted⟩
  rw [rename_address] at added
  obtain ⟨name, not_const⟩ := fields_string t
  -- The old name is freed, the new one is not it.
  have old : Keeps ⟨m.items, Function.update m.strings p (some string), m.mallocs + 1, m.refused⟩
      t.name := by
    intro s old
    have kept := inside_name (forest.inside t (by simp)) s old
    refine (Function.update_of_ne ?_ _ _).trans kept
    rintro here
    rw [here, fresh] at kept
    cases kept
  have freed := free_string_place old
  simp only [item_ok (show Memory.items ⟨m.items, _, m.mallocs + 1, _⟩ t.address = _ from stored),
    bind, Except.bind, not_const, Bool.false_eq_true, if_false, name]
  rw [freed]
  dsimp only [without]
  rw [write_ok _ (by simp [stored])]
  simpa only [List.not_mem_nil, if_false, Function.update_apply] using added

/-- What becomes of a new tree that is to be a member: it is one, or it is left to the caller. -/
theorem add_created_forest (hooks : Hooks) (string : CString)
    (forest : Forest m (t :: plug context (.item label child) :: rest)) :
    (∃ after, add_item_to_object hooks m (some label.address) string (some t.address) =
        .ok (after, false) ∧ Forest after (t :: plug context (.item label child) :: rest) ∧
        m.refused < after.refused) ∨
      ∃ after p, add_item_to_object hooks m (some label.address) string (some t.address) =
        .ok (after, true) ∧
        Forest after (plug context (.item label (child ++ [t.rename (p, string)])) :: rest) ∧
        after.refused = m.refused := by
  rcases add_item_to_object_forest hooks string (forest.perm (.swap _ _ rest)) with
    ⟨after, refused, kept, refuses⟩ | added
  · exact .inl ⟨after, refused, kept.perm (.swap _ _ rest), refuses⟩
  · exact .inr added

theorem add_nothing (hooks : Hooks) (m : Memory) (object : Option Ptr) (string : CString) :
    add_item_to_object hooks m object string none = .ok (m, false) := by
  cases object <;> rfl

theorem add_to_object_unmade (hooks : Hooks) (object : Option Ptr) (name : CString) (m : Memory)
    (some_fuel : 0 < fuel) : add_to_object hooks fuel object name (m, none) = .ok (m, none) := by
  obtain ⟨fuel, rfl⟩ : ∃ k, fuel = k + 1 := ⟨fuel - 1, by omega⟩
  simp only [add_to_object, add_nothing, cJSON_Delete, bind, Except.bind, Bool.false_eq_true,
    if_false]

/-- A new item is added, or there is nothing more in memory than before. -/
theorem add_to_object_made (hooks : Hooks) (name : CString)
    (forest : Forest m (t :: plug context (.item label child) :: rest))
    (enough : (items t).length < fuel) :
    (∃ after, add_to_object hooks fuel (some label.address) name (m, some t.address) =
        .ok (after, none) ∧ Forest after (plug context (.item label child) :: rest) ∧
        m.refused < after.refused) ∨
      ∃ after p, add_to_object hooks fuel (some label.address) name (m, some t.address) =
        .ok (after, some t.address) ∧
        Forest after (plug context (.item label (child ++ [t.rename (p, name)])) :: rest) ∧
        after.refused = m.refused := by
  rcases add_created_forest hooks name forest with
    ⟨refused, failed, kept, refuses⟩ | ⟨added, p, success, joined⟩
  · obtain ⟨final, deleted, left, same⟩ := cJSON_Delete_root kept enough
    refine .inl ⟨final, ?_, left, by omega⟩
    simp only [add_to_object, failed, bind, Except.bind, Bool.false_eq_true, if_false, deleted]
  · refine .inr ⟨added, p, ?_, joined⟩
    simp only [add_to_object, success, bind, Except.bind, if_true]

end Members

section Contents
variable {m m' : Memory} {roots : List ItemTree}

mutual

theorem below_stored : ∀ t : ItemTree, Inside m t → ∀ p ∈ items t, p ≠ t.address →
    ∃ (s : ItemTree) (prev next : Option Ptr), m.items p = some ⟨s.fields, prev, next⟩
  | .reference address original string, _, p, member, other => by
      simp only [items, List.mem_singleton] at member
      exact absurd member other
  | .item label child, ⟨_, _, ⟨last, seg⟩, below⟩, p, member, other => by
      refine list_stored child (fun t inside => ?_) below p ?_
      · exact seg_stored seg (List.mem_map_of_mem inside)
      · exact (List.mem_cons.mp member).resolve_left other

theorem list_stored : ∀ ts : List ItemTree,
    (∀ t ∈ ts, ∃ prev next, m.items t.address = some ⟨t.fields, prev, next⟩) → Inside_all m ts →
    ∀ p ∈ items_all ts,
      ∃ (s : ItemTree) (prev next : Option Ptr), m.items p = some ⟨s.fields, prev, next⟩
  | [], _, _, p, member => by simp [items_all] at member
  | t :: next, stored, ⟨first, others⟩, p, member => by
      rcases List.mem_append.mp member with here | later
      · by_cases own : p = t.address
        · obtain ⟨prev, next, held⟩ := stored t List.mem_cons_self
          exact ⟨t, prev, next, own ▸ held⟩
        · exact below_stored t first p here own
      · exact list_stored next (fun s inside => stored s (List.mem_cons_of_mem _ inside)) others p later

end

/-- Whatever is in memory is an item of one of the trees. -/
theorem forest_stored (forest : Forest m roots) {p : Ptr} {node : Node Fields}
    (stored : m.items p = some node) : ∃ t : ItemTree, node.value = t.fields := by
  have member := (forest.owned p).mp (by simp [stored])
  obtain ⟨t, prev, next, held⟩ := list_stored roots
    (fun t inside => ⟨none, none, forest.root t inside⟩)
    ((inside_all_iff roots).mpr forest.inside) p member
  exact ⟨t, congrArg Node.value (Option.some.inj (stored.symm.trans held))⟩

theorem keeps_unique {string : Option (Ptr × CString)} (kept : Keeps m string)
    (kept' : Keeps m' string) : ∀ p ∈ place string, m.strings p = m'.strings p := by
  intro p member
  cases string with
  | none => simp [place] at member
  | some s =>
      obtain rfl : p = s.1 := by simpa [place] using member
      rw [kept s rfl, kept' s rfl]

theorem seg_unique {heap heap' : Heap Fields} {cells : List (Ptr × Fields)}
    {prev prev' start start' last last' : Option Ptr}
    (seg : Seg heap prev start cells last none) (seg' : Seg heap' prev' start' cells last' none)
    (same : prev = prev') : ∀ p ∈ cells.map Prod.fst, heap p = heap' p := by
  subst same
  induction cells generalizing prev start start' with
  | nil => simp
  | cons cell rest ih =>
      obtain ⟨rfl, link, stored, follows⟩ := seg
      obtain ⟨rfl, link', stored', follows'⟩ := seg'
      have links : link = link' := by
        cases rest with
        | nil => exact follows.1.trans follows'.1.symm
        | cons second more => exact follows.1.trans follows'.1.symm
      intro p member
      rcases List.mem_cons.mp member with rfl | later
      · rw [stored, stored', links]
      · exact ih follows follows' p later

theorem ringed_unique {heap heap' : Heap Fields} {cells : List (Ptr × Fields)}
    {start start' : Option Ptr} (ring : Ringed heap start cells) (ring' : Ringed heap' start' cells) :
    ∀ p ∈ cells.map Prod.fst, heap p = heap' p := by
  obtain ⟨last, seg⟩ := ring
  obtain ⟨last', seg'⟩ := ring'
  by_cases none : cells = []
  · simp [none]
  · exact seg_unique seg seg' ((seg_last seg none).trans (seg_last seg' none).symm)

mutual

theorem below_unique : ∀ t : ItemTree, Inside m t → Inside m' t →
    (∀ p ∈ items t, p ≠ t.address → m.items p = m'.items p) ∧
      ∀ p ∈ texts t, m.strings p = m'.strings p
  | .reference address original string, kept, kept' => by
      refine ⟨fun p member other => ?_, keeps_unique kept kept'⟩
      simp only [items, List.mem_singleton] at member
      exact absurd member other
  | .item label child, ⟨valuestring, string, ring, below⟩, ⟨valuestring', string', ring', below'⟩ => by
      have inner := list_unique child (fun p member => ringed_unique ring ring' p (by
        rwa [cells_addresses])) below below'
      refine ⟨fun p member other => ?_, fun p member => ?_⟩
      · exact inner.1 p ((List.mem_cons.mp member).resolve_left other)
      · simp only [texts, List.mem_append] at member
        rcases member with (first | second) | later
        · exact keeps_unique valuestring valuestring' p first
        · exact keeps_unique string string' p second
        · exact inner.2 p later

theorem list_unique : ∀ ts : List ItemTree,
    (∀ p ∈ ts.map ItemTree.address, m.items p = m'.items p) → Inside_all m ts →
    Inside_all m' ts →
    (∀ p ∈ items_all ts, m.items p = m'.items p) ∧ ∀ p ∈ texts_all ts, m.strings p = m'.strings p
  | [], _, _, _ => by simp [items_all, texts_all]
  | t :: next, roots, ⟨first, others⟩, ⟨first', others'⟩ => by
      have own := below_unique t first first'
      have later := list_unique next (fun p member => roots p (List.mem_cons_of_mem _ member))
        others others'
      refine ⟨fun p member => ?_, fun p member => ?_⟩
      · rcases List.mem_append.mp member with here | below
        · by_cases root : p = t.address
          · exact roots p (root ▸ List.mem_cons_self)
          · exact own.1 p here root
        · exact later.1 p below
      · rcases List.mem_append.mp member with here | below
        · exact own.2 p here
        · exact later.2 p below

end

/-- Trees that are there before and after are the same blocks with the same contents. -/
theorem forest_kept (before after : List ItemTree) (forest : Forest m (before ++ roots))
    (forest' : Forest m' (after ++ roots)) :
    (∀ p ∈ items_all roots, m.items p = m'.items p) ∧
      ∀ p ∈ texts_all roots, m.strings p = m'.strings p := by
  refine list_unique roots (fun p member => ?_) ((inside_all_iff roots).mpr fun t member =>
    forest.inside t (List.mem_append_right _ member)) ((inside_all_iff roots).mpr fun t member =>
    forest'.inside t (List.mem_append_right _ member))
  obtain ⟨t, inside, rfl⟩ := List.mem_map.mp member
  rw [forest.root t (List.mem_append_right _ inside), forest'.root t (List.mem_append_right _ inside)]

/-- Two memories with the same trees are the same. -/
theorem forest_unique (forest : Forest m roots) (forest' : Forest m' roots) :
    m.items = m'.items ∧ m.strings = m'.strings := by
  have kept := forest_kept [] [] forest forest'
  refine ⟨funext fun p => ?_, funext fun p => ?_⟩
  · by_cases member : p ∈ items_all roots
    · exact kept.1 p member
    · have gone := mt (forest.owned p).mp member
      have gone' := mt (forest'.owned p).mp member
      rw [not_not.mp gone, not_not.mp gone']
  · by_cases member : p ∈ texts_all roots
    · exact kept.2 p member
    · have gone := mt (forest.strings_owned p).mp member
      have gone' := mt (forest'.strings_owned p).mp member
      rw [not_not.mp gone, not_not.mp gone']

end Contents

section References
variable {m : Memory} {rest child : List ItemTree} {label : Label} {context : List Frame}
variable {fuel : Nat}

/-- A reference becomes a member. For want of memory it may not be made at all, or made and
lost. -/
theorem cJSON_AddItemReferenceToObject_forest (hooks : Hooks) (string : CString) {item : Ptr}
    {original : Node Fields} (forest : Forest m (plug context (.item label child) :: rest))
    (stored : m.items item = some original) :
    ∃ after added, cJSON_AddItemReferenceToObject hooks m (some label.address) string (some item) =
        .ok (after, added) ∧
      if added then
        ∃ r p, Forest after (plug context (.item label
          (child ++ [.reference r original.value (some (p, string))])) :: rest) ∧
          after.refused = m.refused
      else
        m.refused < after.refused ∧ (Forest after (plug context (.item label child) :: rest) ∨
          ∃ r, Forest after
            (.reference r original.value none :: plug context (.item label child) :: rest)) := by
  obtain ⟨t, same⟩ := forest_stored forest stored
  have not_const : original.value.StringIsConst = false := same ▸ (fields_string t).2
  simp only [cJSON_AddItemReferenceToObject, create_reference, cJSON_New_Item]
  cases given : hooks.item m with
  | none =>
      simp only [bind, Except.bind, add_nothing]
      exact ⟨_, false, rfl, Nat.lt_succ_self _, .inl (forest_refuse forest)⟩
  | some r =>
      have grown : Forest { m with
          items := Function.update m.items r.1
            (some ⟨{ original.value with string := none, IsReference := true }, none, none⟩)
          mallocs := m.mallocs + 1 }
          (.reference r.1 original.value none :: plug context (.item label child) :: rest) := by
        refine forest_grown (m := m) forest r.2 rfl rfl ?_ rfl keeps_none
        simp only [ItemTree.fields, ItemTree.address, Option.map_none, ← not_const]
      simp only [item_ok stored, bind, Except.bind]
      rcases add_created_forest hooks string grown with
        ⟨after, failed, kept, refuses⟩ | ⟨after, p, success, joined⟩
      · exact ⟨after, false, failed, refuses, .inr ⟨r.1, kept⟩⟩
      · exact ⟨after, true, success, r.1, p, joined⟩

/-- A string becomes a member, or there is nothing more in memory than before. -/
theorem cJSON_AddStringToObject_forest (hooks : Hooks) (name string : CString)
    (forest : Forest m (plug context (.item label child) :: rest)) (enough : 1 < fuel) :
    ∃ after result added, cJSON_AddStringToObject hooks fuel m (some label.address) name string =
        .ok (after, result) ∧
      Forest after (plug context (.item label (child ++ added)) :: rest) ∧
      (added = [] ∧ result = none ∧ m.refused < after.refused ∨ ∃ p q r, result = some p ∧
        added = [.item ⟨p, .cJSON_String, zero, some (q, string), some (r, name)⟩ []] ∧
        after.refused = m.refused) := by
  rcases cJSON_CreateString_forest hooks forest string enough with
    ⟨made, unmade, kept, refuses⟩ | ⟨made, p, q, fresh, grown, granted⟩
  · refine ⟨made, none, [], ?_, by rwa [List.append_nil], .inl ⟨rfl, rfl, refuses⟩⟩
    simp only [cJSON_AddStringToObject, unmade, bind, Except.bind,
      add_to_object_unmade hooks _ name made (Nat.lt_of_succ_lt enough)]
  · have small : (items (.item ⟨p, .cJSON_String, zero, some (q, string), none⟩ [])).length < fuel :=
      enough
    rcases add_to_object_made hooks name grown small with
      ⟨after, refused, kept, refuses⟩ | ⟨after, r, added, joined, same⟩
    · refine ⟨after, none, [], ?_, by rwa [List.append_nil], .inl ⟨rfl, rfl, by omega⟩⟩
      simp only [cJSON_AddStringToObject, fresh, bind, Except.bind]
      exact refused
    · refine ⟨after, some p, _, ?_, joined, .inr ⟨p, q, r, rfl, rfl, by omega⟩⟩
      simp only [cJSON_AddStringToObject, fresh, bind, Except.bind]
      exact added

end References

section Search
variable {m : Memory} {rest child : List ItemTree} {label : Label} {context : List Frame}
variable {fuel : Nat} {name : CString}

/-- An item with this name, in upper or lower case. -/
def named (name : CString) (t : ItemTree) : Bool :=
  t.name.elim false fun s => name.val.map tolower == s.2.val.map tolower

end Search

end Iperf.CjsonObjects
