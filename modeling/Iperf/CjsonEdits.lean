import Iperf.CjsonForest

/-!
What the functions that make, link and unlink items of cJSON do to the trees in memory.
-/

namespace Iperf.CjsonEdits

open DoublyLinked LinkedRing
open AuthToken CjsonNumber CjsonItem CjsonHeap CjsonForest
open FloatText (tolower)

section Siblings
variable {m m' : Memory} {label : Label} {child child' rest : List ItemTree}
variable {context : List Frame}

/-- Siblings whose links alone were written keep what is below them. -/
theorem children_frame {ts : List ItemTree} (below : Inside_all m ts) (apart : (items_all ts).Nodup)
    (same : ∀ q ∈ items_all ts, q ∉ ts.map ItemTree.address → m'.items q = m.items q)
    (same_strings : ∀ q ∈ texts_all ts, m'.strings q = m.strings q) : Inside_all m' ts := by
  induction ts with
  | nil => trivial
  | cons t next ih =>
      obtain ⟨first, others⟩ := below
      simp only [items_all, texts_all, List.nodup_append, List.mem_append, List.map_cons,
        List.mem_cons, not_or] at apart same same_strings
      obtain ⟨own, next_apart, across⟩ := apart
      refine ⟨?_, ih others next_apart (fun q member other => ?_)
        fun q member => same_strings q (.inr member)⟩
      · cases t with
        | reference address original string =>
            exact keeps_frame first fun q member => same_strings q (.inl member)
        | item label child =>
            obtain ⟨valuestring, string, ring, inner⟩ := first
            rw [items, List.nodup_cons] at own
            -- Below `t` there is neither `t` itself nor one of its siblings.
            have kept : ∀ q ∈ items_all child, m'.items q = m.items q := by
              intro q member
              have inside : q ∈ items (.item label child) := List.mem_cons_of_mem _ member
              refine same q (.inl inside) ⟨fun here => ?_, fun sibling => ?_⟩
              · exact own.1 ((show q = label.address from here) ▸ member)
              · obtain ⟨other, among, rfl⟩ := List.mem_map.mp sibling
                exact across _ inside _ (items_subset among (address_items other)) rfl
            simp only [texts, List.mem_append] at same_strings
            exact ⟨keeps_frame valuestring fun q member => same_strings q (.inl (.inl (.inl member))),
              keeps_frame string fun q member => same_strings q (.inl (.inl (.inr member))),
              ring.frame fun q member => kept q ((cells_items child).subset member),
              inside_all_frame child inner kept fun q member => same_strings q (.inl (.inr member))⟩
      · exact same q (.inr member) ⟨fun here => across _ (address_items t) q member here.symm, other⟩

theorem plug_below {s : ItemTree} (inside : Inside m (plug context s)) : Inside m s := by
  induction context with
  | nil => exact inside
  | cons frame context ih =>
      obtain ⟨-, -, -, children⟩ := inside
      rw [inside_all_iff] at children
      exact ih (children _ (by simp))

theorem plug_stored {s : ItemTree} {prev next : Option Ptr} (inside : Inside m (plug context s))
    (stored : m.items (plug context s).address = some ⟨(plug context s).fields, prev, next⟩) :
    ∃ prev next, m.items s.address = some ⟨s.fields, prev, next⟩ := by
  induction context generalizing prev next with
  | nil => exact ⟨prev, next, stored⟩
  | cons frame context ih =>
      obtain ⟨-, -, ⟨last, seg⟩, children⟩ := inside
      rw [inside_all_iff] at children
      have member : (plug context s).cell ∈
          (frame.before ++ plug context s :: frame.after).map ItemTree.cell :=
        List.mem_map_of_mem (by simp)
      obtain ⟨before, after, held⟩ := seg_stored seg member
      exact ih (children _ (by simp)) held

/-- Moving whole siblings in or out of a list, with writes to nothing but their links and
the pointer to the first of them. -/
theorem forest_siblings (more more' : List ItemTree)
    (forest : Forest m (plug context (.item label child) :: (more ++ rest)))
    (moved : (child' ++ more').Perm (child ++ more))
    (stored : ∀ p, m'.items p = none ↔ m.items p = none) (strings : m'.strings = m.strings)
    (wrote : m'.items label.address = (m.items label.address).map fun node =>
      { node with value := (ItemTree.item label child').fields })
    (linked : Ringed m'.items (child'.head?.map ItemTree.address) (child'.map ItemTree.cell))
    (others : ∀ t ∈ more', m'.items t.address = some ⟨t.fields, none, none⟩)
    (same : ∀ p, p ≠ label.address → p ∉ (child ++ more).map ItemTree.address →
      m'.items p = m.items p) :
    Forest m' (plug context (.item label child') :: (more' ++ rest)) := by
  have below := plug_below (forest.inside _ List.mem_cons_self)
  obtain ⟨valuestring, string, -, children⟩ := below
  have apart := (plug_items_all context (.item label child) more rest).nodup_iff.mp forest.apart
  rw [List.nodup_append] at apart
  obtain ⟨-, apart, -⟩ := apart
  rw [items, List.cons_append, List.nodup_cons, ← items_all_append] at apart
  have all_below : Inside_all m (child ++ more) := by
    rw [inside_all_iff] at children ⊢
    intro t member
    rcases List.mem_append.mp member with inner | root
    · exact children t inner
    · exact forest.inside t (by simp [root])
  have all_kept : Inside_all m' (child ++ more) := by
    refine children_frame all_below apart.2 (fun q member other => same q ?_ other) fun q _ => ?_
    · exact fun here => apart.1 (here ▸ member)
    · rw [strings]
  rw [inside_all_iff] at all_kept
  have kept : ∀ t ∈ child' ++ more', Inside m' t := fun t member =>
    all_kept t (moved.mem_iff.mp member)
  refine forest_replug forest rfl ?_ ?_ stored (fun p => by rw [strings]) wrote ?_ ?_ ?_
    fun p _ => by rw [strings]
  · rw [items, items, List.cons_append, List.cons_append, ← items_all_append, ← items_all_append,
      items_all_flatMap, items_all_flatMap]
    exact (moved.flatMap_right items).cons _
  · simp only [texts, List.append_assoc]
    refine .append_left _ (.append_left _ ?_)
    rw [← texts_all_append, ← texts_all_append, texts_all_flatMap, texts_all_flatMap]
    exact moved.flatMap_right texts
  · refine ⟨fun s here => by rw [strings]; exact valuestring s here,
      fun s here => by rw [strings]; exact string s here, linked, ?_⟩
    rw [inside_all_iff]
    exact fun t member => kept t (List.mem_append_left _ member)
  · exact fun t member => ⟨others t member, kept t (List.mem_append_right _ member)⟩
  · intro p outside
    rw [items, List.cons_append, ← items_all_append, List.mem_cons, not_or] at outside
    refine same p outside.1 fun sibling => outside.2 ?_
    obtain ⟨t, member, rfl⟩ := List.mem_map.mp sibling
    exact items_subset member (address_items t)

end Siblings

section Linking
variable {m : Memory} {label : Label} {child rest : List ItemTree} {t : ItemTree}
variable {context : List Frame}

theorem item_ok {p : Ptr} {node : Node Fields} (stored : m.items p = some node) :
    m.item p = .ok node := by
  simp [Memory.item, stored]

theorem write_ok {p : Ptr} (f : Node Fields → Node Fields) (stored : m.items p ≠ none) :
    m.write p f = .ok { m with items := edited m.items p f } := by
  cases held : m.items p with
  | none => exact absurd held stored
  | some node => simp [Memory.write, held]

/-- What the list of an item and a root have in memory. -/
theorem list_and_root (forest : Forest m (plug context (.item label child) :: t :: rest)) :
    (∃ prev next, m.items label.address = some ⟨(ItemTree.item label child).fields, prev, next⟩) ∧
      m.items t.address = some ⟨t.fields, none, none⟩ ∧ label.address ≠ t.address ∧
      ((child.map ItemTree.cell).map Prod.fst).Nodup ∧
      (∀ q ∈ (child.map ItemTree.cell).map Prod.fst, q ≠ label.address ∧ q ≠ t.address) := by
  have apart := (plug_items_all context (.item label child) [t] rest).nodup_iff.mp forest.apart
  rw [List.nodup_append] at apart
  obtain ⟨-, apart, -⟩ := apart
  simp only [items, items_all, List.append_nil, List.cons_append, List.nodup_cons,
    List.nodup_append, List.mem_append, not_or] at apart
  obtain ⟨⟨not_child, not_t⟩, child_apart, -, across⟩ := apart
  refine ⟨plug_stored (forest.inside _ List.mem_cons_self) (forest.root _ List.mem_cons_self),
    forest.root t (by simp), fun same => not_t (same ▸ address_items t),
    child_apart.sublist (cells_items child), fun q member => ?_⟩
  have inside := (cells_items child).subset member
  exact ⟨fun same => not_child (same ▸ inside), fun same => across q inside _ (address_items t) same⟩

theorem cells_addresses (ts : List ItemTree) :
    (ts.map ItemTree.cell).map Prod.fst = ts.map ItemTree.address := by
  rw [List.map_map]
  rfl

/-- A root becomes the last child. -/
theorem add_item_to_array_forest
    (forest : Forest m (plug context (.item label child) :: t :: rest)) :
    ∃ after, add_item_to_array m (some label.address) (some t.address) = .ok (after, true) ∧
      Forest after (plug context (.item label (child ++ [t])) :: rest) ∧
      after.refused = m.refused := by
  obtain ⟨⟨prev, next, held⟩, stored, other, distinct, outside⟩ := list_and_root forest
  obtain ⟨-, -, ring, -⟩ := plug_below (forest.inside _ List.mem_cons_self)
  rw [cells_addresses] at distinct outside
  have moved : (child ++ [t] ++ []).Perm (child ++ [t]) := by rw [List.append_nil]
  cases child with
  | nil =>
      let items := edited (edited (edited m.items label.address fun node =>
        { node with value := { node.value with child := some t.address } }) t.address
        fun node => { node with prev := some t.address }) t.address fun node =>
        { node with next := none }
      refine ⟨{ m with items := items }, ?_, ?_, rfl⟩
      · rw [add_item_to_array, if_neg other, item_ok held]
        simp only [ItemTree.fields, List.head?_nil, Option.map_none, bind, Except.bind]
        rw [write_ok _ (by simp [held])]
        dsimp only
        rw [write_ok _ (by simp [edited_none, stored])]
        dsimp only
        rw [write_ok _ (by simp [edited_none, stored])]
      · have ring_t : Ringed items (some t.address) [t.cell] :=
          ring_single ((edited_other (Ne.symm other)).trans stored)
        refine forest_siblings [t] [] forest moved
          (fun p => by simp only [items, edited_none]) rfl ?_ ring_t (by simp) ?_
        · simp only [items]
          rw [edited_other other, edited_other other, edited_same, held]
          rfl
        · intro p not_list not_t
          have apart : p ≠ t.address := fun same => not_t (by simp [same])
          simp only [items]
          rw [edited_other apart, edited_other apart, edited_other not_list]
  | cons c others =>
      obtain ⟨last, value, after, kept, last_in, first_in, linked⟩ := ring_push ring
        (by rwa [cells_addresses]) (by rw [cells_addresses]; exact fun here => (outside _ here).2 rfl)
        stored rfl
      have last_stored := ring.stored last_in
      rw [cells_addresses] at last_in first_in
      obtain ⟨last_list, last_t⟩ := outside last last_in
      obtain ⟨first_list, first_t⟩ := outside c.address first_in
      let items := edited (edited (edited m.items last fun node =>
        { node with next := some t.address }) t.address fun node =>
        { node with prev := some last }) c.address fun node => { node with prev := some t.address }
      refine ⟨{ m with items := items }, ?_, ?_, rfl⟩
      · rw [add_item_to_array, if_neg other, item_ok held]
        simp only [ItemTree.fields, List.head?_cons, Option.map_some, bind, Except.bind]
        rw [item_ok kept]
        dsimp only
        rw [suffix_object, write_ok _ last_stored]
        simp only [bind, Except.bind]
        rw [write_ok _ (by simp [edited_none, stored])]
        dsimp only
        rw [write_ok _ (by simp [edited_none, kept])]
      · refine forest_siblings [t] [] forest moved
          (fun p => by simp only [items, edited_none]) rfl ?_ ?_ (by simp) ?_
        · simp only [items]
          rw [edited_other (Ne.symm first_list), edited_other other, edited_other (Ne.symm last_list),
            held]
          rfl
        · simpa [ItemTree.cell] using linked
        · intro p not_list not_sibling
          simp only [List.map_append, List.mem_append, not_or] at not_sibling
          have not_t : p ≠ t.address := fun same => not_sibling.2 (by simp [same])
          simp only [items]
          rw [edited_other fun same => not_sibling.1 (by rw [same]; exact first_in),
            edited_other not_t, edited_other fun same => not_sibling.1 (by rw [same]; exact last_in)]

end Linking

section Unlinking
variable {m : Memory} {label : Label} {front back rest : List ItemTree} {t : ItemTree}
variable {context : List Frame}

end Unlinking

section Making
variable {m m' : Memory} {rest : List ItemTree} {t t' : ItemTree} {hooks : Hooks}

/-- A block for a new tree of one item. -/
theorem forest_grown (forest : Forest m rest) (fresh : m.items t.address = none)
    (one : items t = [t.address]) (bare : texts t = [])
    (wrote : m'.items = Function.update m.items t.address (some ⟨t.fields, none, none⟩))
    (strings : m'.strings = m.strings) (inside : Inside m' t) : Forest m' (t :: rest) := by
  have outside : t.address ∉ items_all rest := fun member => (forest.owned _).mpr member fresh
  have kept : ∀ q ∈ items_all rest, m'.items q = m.items q := by
    intro q member
    rw [wrote]
    exact Function.update_of_ne (fun same => outside (by rw [← same]; exact member)) _ _
  refine ⟨?_, ?_, fun q => ?_, fun q => ?_, fun other member => ?_, fun other member => ?_⟩
  · simp only [items_all, one, List.singleton_append, List.nodup_cons]
    exact ⟨outside, forest.apart⟩
  · simpa only [texts_all, bare, List.nil_append] using forest.strings_apart
  · rw [items_all, one, List.singleton_append, List.mem_cons, ← forest.owned q, wrote]
    by_cases here : q = t.address
    · simp [here]
    · simp [here]
  · rw [texts_all, bare, List.nil_append, strings]
    exact forest.strings_owned q
  · rcases List.mem_cons.mp member with rfl | later
    · rw [wrote]
      exact Function.update_self ..
    · rw [kept _ (items_subset later (address_items other))]
      exact forest.root other later
  · rcases List.mem_cons.mp member with rfl | later
    · exact inside
    · exact inside_frame other (forest.inside other later)
        (fun q below => kept q (items_subset later below)) fun q _ => by rw [strings]

theorem forest_refuse (forest : Forest m rest) : Forest m.refuse rest :=
  ⟨forest.apart, forest.strings_apart, forest.owned, forest.strings_owned, forest.root,
    fun t member => inside_frame t (forest.inside t member) (fun _ _ => rfl) fun _ _ => rfl⟩

theorem create_forest (hooks : Hooks) (forest : Forest m rest) (type : Kind)
    (valuedouble : Double) :
    (∃ after, create hooks m type valuedouble = (after, none) ∧ Forest after rest ∧
        m.refused < after.refused) ∨
      ∃ after p, create hooks m type valuedouble = (after, some p) ∧
        Forest after (.item ⟨p, type, valuedouble, none, none⟩ [] :: rest) ∧
        after.refused = m.refused := by
  unfold create cJSON_New_Item
  cases given : hooks.item m with
  | none => exact .inl ⟨_, rfl, forest_refuse forest, Nat.lt_succ_self _⟩
  | some p =>
      refine .inr ⟨_, p.1, rfl, ?_, rfl⟩
      exact forest_grown (t := .item ⟨p.1, type, valuedouble, none, none⟩ []) forest p.2 rfl rfl rfl
        rfl ⟨keeps_none, keeps_none, ringed_nil _, trivial⟩

/-- A root whose own strings are exchanged. -/
theorem forest_relabelled (forest : Forest m (t :: rest)) (address : t'.address = t.address)
    (same_items : items t' = items t) (apart : (texts_all (t' :: rest)).Nodup)
    (wrote : m'.items = edited m.items t.address fun node => { node with value := t'.fields })
    (owned : ∀ q, m'.strings q ≠ none ↔ q ∈ texts_all (t' :: rest))
    (inside : Inside m' t') (same : ∀ q ∈ texts_all rest, m'.strings q = m.strings q) :
    Forest m' (t' :: rest) := by
  have items_apart := forest.apart
  simp only [items_all, List.nodup_append] at items_apart
  have kept : ∀ q ∈ items_all rest, m'.items q = m.items q := by
    intro q member
    rw [wrote]
    exact edited_other fun here => items_apart.2.2 _ (address_items t) q member here.symm
  refine ⟨?_, apart, fun q => ?_, owned, fun other member => ?_, fun other member => ?_⟩
  · rw [items_all, same_items]
    exact forest.apart
  · rw [items_all, same_items, wrote, ne_eq, edited_none]
    exact forest.owned q
  · rcases List.mem_cons.mp member with rfl | later
    · rw [address, wrote, edited_same, forest.root t List.mem_cons_self]
      rfl
    · rw [kept _ (items_subset later (address_items other))]
      exact forest.root other (List.mem_cons_of_mem _ later)
  · rcases List.mem_cons.mp member with rfl | later
    · exact inside
    · exact inside_frame other (forest.inside other (List.mem_cons_of_mem _ later))
        (fun q below => kept q (items_subset later below))
        fun q below => same q (texts_subset later below)

end Making

end Iperf.CjsonEdits
