import Iperf.CjsonHeap
import Mathlib.Data.List.Perm.Basic
import Mathlib.Data.List.Nodup

/-!
What the memory of cJSON holds: trees that share nothing, and nothing else. The functions
that link, unlink and free items keep this, and do to the trees what they are for.
-/

namespace Iperf.CjsonForest

open DoublyLinked LinkedRing
open AuthToken CjsonNumber CjsonItem CjsonHeap

section Trees

/-- An item without its children, with the strings it owns. -/
structure Label where
  address : Ptr
  type : Kind
  valuedouble : Double
  valuestring : Option (Ptr × CString)
  string : Option (Ptr × CString)

/-- A reference has the fields of another item, and a name of its own. -/
inductive ItemTree where
  | item (label : Label) (child : List ItemTree)
  | reference (address : Ptr) (original : Fields) (string : Option (Ptr × CString))

namespace ItemTree

def address : ItemTree → Ptr
  | item label _ => label.address
  | reference address _ _ => address

def fields : ItemTree → Fields
  | item label child =>
      ⟨child.head?.map address, label.type, false, false, label.valuestring.map Prod.fst,
        label.valuedouble, label.string.map Prod.fst⟩
  | reference _ original string =>
      { original with
        IsReference := true, StringIsConst := false, string := string.map Prod.fst }

def cell (t : ItemTree) : Ptr × Fields := (t.address, t.fields)

/-- The name that an item gets as a member of an object. -/
def rename (string : Ptr × CString) : ItemTree → ItemTree
  | item label child => item { label with string := some string } child
  | reference address original _ => reference address original (some string)

def name : ItemTree → Option (Ptr × CString)
  | item label _ => label.string
  | reference _ _ string => string

end ItemTree

def place (string : Option (Ptr × CString)) : List Ptr := (string.map Prod.fst).toList

mutual

def items : ItemTree → List Ptr
  | .item label child => label.address :: items_all child
  | .reference address _ _ => [address]

def items_all : List ItemTree → List Ptr
  | [] => []
  | t :: next => items t ++ items_all next

end

mutual

def texts : ItemTree → List Ptr
  | .item label child => place label.valuestring ++ place label.string ++ texts_all child
  | .reference _ _ string => place string

def texts_all : List ItemTree → List Ptr
  | [] => []
  | t :: next => texts t ++ texts_all next

end

def Keeps (m : Memory) (string : Option (Ptr × CString)) : Prop :=
  ∀ s ∈ string, m.strings s.1 = some s.2

mutual

/-- What is below an item is in memory: its strings, the ring of its children and theirs. -/
def Inside (m : Memory) : ItemTree → Prop
  | .item label child =>
      Keeps m label.valuestring ∧ Keeps m label.string ∧
        Ringed m.items (child.head?.map ItemTree.address) (child.map ItemTree.cell) ∧ Inside_all m child
  | .reference _ _ string => Keeps m string

def Inside_all (m : Memory) : List ItemTree → Prop
  | [] => True
  | t :: next => Inside m t ∧ Inside_all m next

end

/-- Every block in memory belongs to one of the trees, and to one place in it. -/
structure Forest (m : Memory) (roots : List ItemTree) : Prop where
  apart : (items_all roots).Nodup
  strings_apart : (texts_all roots).Nodup
  owned : ∀ p, m.items p ≠ none ↔ p ∈ items_all roots
  strings_owned : ∀ p, m.strings p ≠ none ↔ p ∈ texts_all roots
  root : ∀ t ∈ roots, m.items t.address = some ⟨t.fields, none, none⟩
  inside : ∀ t ∈ roots, Inside m t

end Trees

section Lists
variable {m m' : Memory}

theorem items_all_flatMap (ts : List ItemTree) : items_all ts = ts.flatMap items := by
  induction ts with
  | nil => rfl
  | cons t next ih => rw [items_all, ih, List.flatMap_cons]

theorem texts_all_flatMap (ts : List ItemTree) : texts_all ts = ts.flatMap texts := by
  induction ts with
  | nil => rfl
  | cons t next ih => rw [texts_all, ih, List.flatMap_cons]

theorem inside_all_iff (ts : List ItemTree) : Inside_all m ts ↔ ∀ t ∈ ts, Inside m t := by
  induction ts with
  | nil => simp [Inside_all]
  | cons t next ih => rw [Inside_all, ih, List.forall_mem_cons]

@[simp] theorem items_all_append (front back : List ItemTree) :
    items_all (front ++ back) = items_all front ++ items_all back := by
  simp only [items_all_flatMap, List.flatMap_append]

@[simp] theorem texts_all_append (front back : List ItemTree) :
    texts_all (front ++ back) = texts_all front ++ texts_all back := by
  simp only [texts_all_flatMap, List.flatMap_append]

theorem address_items (t : ItemTree) : t.address ∈ items t := by
  cases t <;> simp [items, ItemTree.address]

theorem items_subset {t : ItemTree} {ts : List ItemTree} (member : t ∈ ts) {q : Ptr} (below : q ∈ items t) :
    q ∈ items_all ts := by
  rw [items_all_flatMap]
  exact List.mem_flatMap.mpr ⟨t, member, below⟩

theorem texts_subset {t : ItemTree} {ts : List ItemTree} (member : t ∈ ts) {q : Ptr} (below : q ∈ texts t) :
    q ∈ texts_all ts := by
  rw [texts_all_flatMap]
  exact List.mem_flatMap.mpr ⟨t, member, below⟩

theorem cells_items (ts : List ItemTree) :
    ((ts.map ItemTree.cell).map Prod.fst).Sublist (items_all ts) := by
  induction ts with
  | nil => exact List.Sublist.slnil
  | cons t next ih =>
      rw [items_all, List.map_cons, List.map_cons, ← List.singleton_append]
      exact (List.singleton_sublist.mpr (address_items t)).append ih

theorem keeps_none : Keeps m none := by
  simp [Keeps]

theorem keeps_frame {string : Option (Ptr × CString)} (kept : Keeps m string)
    (same : ∀ q ∈ place string, m'.strings q = m.strings q) : Keeps m' string := by
  rintro s ⟨⟩
  exact (same s.1 (by simp [place])).trans (kept s rfl)

mutual

theorem inside_frame : ∀ t : ItemTree, Inside m t → (∀ q ∈ items t, m'.items q = m.items q) →
    (∀ q ∈ texts t, m'.strings q = m.strings q) → Inside m' t
  | .item label child, ⟨valuestring, string, ring, below⟩, same, same_strings => by
      simp only [items, texts, List.mem_cons, List.mem_append] at same same_strings
      refine ⟨keeps_frame valuestring fun q member => same_strings q (.inl (.inl member)),
        keeps_frame string fun q member => same_strings q (.inl (.inr member)),
        ring.frame fun q member => same q (.inr ((cells_items child).subset member)),
        inside_all_frame child below (fun q member => same q (.inr member))
          fun q member => same_strings q (.inr member)⟩
  | .reference address original string, kept, _, same_strings => keeps_frame kept same_strings

theorem inside_all_frame : ∀ ts : List ItemTree, Inside_all m ts →
    (∀ q ∈ items_all ts, m'.items q = m.items q) →
    (∀ q ∈ texts_all ts, m'.strings q = m.strings q) → Inside_all m' ts
  | [], _, _, _ => trivial
  | t :: next, ⟨first, others⟩, same, same_strings => by
      simp only [items_all, texts_all, List.mem_append] at same same_strings
      exact ⟨inside_frame t first (fun q member => same q (.inl member))
          fun q member => same_strings q (.inl member),
        inside_all_frame next others (fun q member => same q (.inr member))
          fun q member => same_strings q (.inr member)⟩

end

theorem Forest.perm {roots others : List ItemTree} (forest : Forest m roots)
    (same : roots.Perm others) : Forest m others := by
  have same_items : (items_all roots).Perm (items_all others) := by
    simpa only [items_all_flatMap] using same.flatMap_right items
  have same_texts : (texts_all roots).Perm (texts_all others) := by
    simpa only [texts_all_flatMap] using same.flatMap_right texts
  exact ⟨same_items.nodup_iff.mp forest.apart, same_texts.nodup_iff.mp forest.strings_apart,
    fun p => (forest.owned p).trans same_items.mem_iff,
    fun p => (forest.strings_owned p).trans same_texts.mem_iff,
    fun t member => forest.root t (same.mem_iff.mpr member),
    fun t member => forest.inside t (same.mem_iff.mpr member)⟩

theorem forest_nil (mallocs refused : Nat) :
    Forest ⟨fun _ => none, fun _ => none, mallocs, refused⟩ [] :=
  ⟨List.nodup_nil, List.nodup_nil, by simp [items_all], by simp [texts_all], by simp, by simp⟩

end Lists

section Deletion
variable {m : Memory}

/-- The memory after these blocks are freed. -/
def without (m : Memory) (gone gone_strings : List Ptr) : Memory :=
  { m with
    items := fun p => if p ∈ gone then none else m.items p
    strings := fun p => if p ∈ gone_strings then none else m.strings p }

theorem without_items (gone gone_strings : List Ptr) {p : Ptr} (kept : p ∉ gone) :
    (without m gone gone_strings).items p = m.items p := if_neg kept

theorem without_strings (gone gone_strings : List Ptr) {p : Ptr} (kept : p ∉ gone_strings) :
    (without m gone gone_strings).strings p = m.strings p := if_neg kept

theorem without_nil : without m [] [] = m := by
  simp [without]

theorem without_without (gone more gone_strings more_strings : List Ptr) :
    without (without m gone gone_strings) more more_strings =
      without m (gone ++ more) (gone_strings ++ more_strings) := by
  simp only [without, List.mem_append, Memory.mk.injEq]
  refine ⟨funext fun p => ?_, funext fun p => ?_, trivial, trivial⟩ <;> grind

theorem without_congr {gone other gone_strings other_strings : List Ptr}
    (same : ∀ p, p ∈ gone ↔ p ∈ other) (same_strings : ∀ p, p ∈ gone_strings ↔ p ∈ other_strings) :
    without m gone gone_strings = without m other other_strings := by
  simp only [without, same, same_strings]

theorem free_string_place {string : Option (Ptr × CString)} (kept : Keeps m string) :
    m.free_string (string.map Prod.fst) = .ok (without m [] (place string)) := by
  cases string with
  | none => simp [Memory.free_string, place, without]
  | some s => simp [Memory.free_string, place, without, kept s rfl]

theorem free_item_place {p : Ptr} {node : Node Fields} (stored : m.items p = some node) :
    m.free_item p = .ok (without m [p] []) := by
  simp [Memory.free_item, without, stored]

theorem delete_step {fuel : Nat} {p : Ptr} {node : Node Fields} {childless unnamed bare rest : Memory}
    (stored : m.items p = some node)
    (children : (if node.value.IsReference then .ok m
      else cJSON_Delete fuel m node.value.child) = .ok childless)
    (again : childless.items p = some node)
    (valuestring : (if node.value.IsReference then .ok childless
      else childless.free_string node.value.valuestring) = .ok bare)
    (string : (if node.value.StringIsConst then .ok bare
      else bare.free_string node.value.string) = .ok unnamed)
    (freed : unnamed.free_item p = .ok rest) :
    cJSON_Delete (fuel + 1) m (some p) = cJSON_Delete fuel rest node.next := by
  rw [cJSON_Delete]
  simp only [Memory.item, stored, bind, Except.bind, children, again, valuestring, string, freed]

/-- Deleting a list of siblings frees what is below them, and nothing else. -/
theorem delete_list (fuel : Nat) {ts : List ItemTree} {prev start last : Option Ptr}
    (linked : Seg m.items prev start (ts.map ItemTree.cell) last none) (below : Inside_all m ts)
    (apart : (items_all ts).Nodup) (strings_apart : (texts_all ts).Nodup)
    (enough : (items_all ts).length < fuel) :
    cJSON_Delete fuel m start = .ok (without m (items_all ts) (texts_all ts)) := by
  induction fuel generalizing m ts prev start last with
  | zero => omega
  | succ fuel ih =>
      cases ts with
      | nil =>
          obtain ⟨rfl, -⟩ := linked
          simp [cJSON_Delete, items_all, texts_all, without_nil]
      | cons t next =>
          obtain ⟨rfl, link, stored, follows⟩ := linked
          obtain ⟨first, others⟩ := below
          simp only [items_all, List.nodup_append] at apart
          simp only [texts_all, List.nodup_append] at strings_apart
          simp only [items_all, List.length_append] at enough
          obtain ⟨t_apart, next_apart, across⟩ := apart
          obtain ⟨t_strings, next_strings, across_strings⟩ := strings_apart
          -- What is left after `t` is gone.
          have rest : cJSON_Delete fuel (without m (items t) (texts t)) link =
              .ok (without m (items_all (t :: next)) (texts_all (t :: next))) := by
            have kept : ∀ q ∈ items_all next, (without m (items t) (texts t)).items q = m.items q :=
              fun q member => without_items _ _ fun before => across q before q member rfl
            have kept_strings : ∀ q ∈ texts_all next,
                (without m (items t) (texts t)).strings q = m.strings q :=
              fun q member => without_strings _ _ fun before => across_strings q before q member rfl
            rw [ih (seg_frame follows fun q member => kept q ((cells_items next).subset member))
              (inside_all_frame next others kept kept_strings) next_apart next_strings, without_without]
            · rfl
            · have one := List.length_pos_of_mem (address_items t)
              omega
          cases t with
          | reference address original string =>
              have freed := free_item_place ((without_items _ _ List.not_mem_nil).trans stored :
                (without m [] (place string)).items address = _)
              rw [delete_step stored rfl stored rfl (free_string_place first) freed, ← rest,
                without_without]
              congr 1
              exact without_congr (by simp [items]) (by simp [texts])
          | item label child =>
              obtain ⟨valuestring, string, ⟨last', ring⟩, inner⟩ := first
              simp only [items, List.nodup_cons, List.length_cons] at t_apart enough
              simp only [texts, List.nodup_append] at t_strings
              obtain ⟨⟨-, -, names_apart⟩, child_strings, inner_apart⟩ := t_strings
              -- The children go first, then the strings, then the item.
              have children := ih ring inner t_apart.2 child_strings (by omega)
              have again : (without m (items_all child) (texts_all child)).items label.address =
                  some ⟨(ItemTree.item label child).fields, prev, link⟩ :=
                (without_items _ _ t_apart.1).trans stored
              have bare := free_string_place (keeps_frame valuestring fun q member =>
                without_strings (m := m) (items_all child) _
                  fun below => inner_apart q (List.mem_append_left _ member) q below rfl)
              have unnamed := free_string_place (keeps_frame string fun q member =>
                without_strings (m := m) (items_all child ++ [])
                  (texts_all child ++ place label.valuestring) fun gone => by
                    rcases List.mem_append.mp gone with below | before
                    · exact inner_apart q (List.mem_append_right _ member) q below rfl
                    · exact names_apart q before q member rfl)
              rw [without_without] at bare
              rw [without_without] at unnamed
              have freed := free_item_place ((without_items (m := m)
                (items_all child ++ [] ++ []) (texts_all child ++
                  place label.valuestring ++ place label.string) (by rw [List.append_nil, List.append_nil]; exact t_apart.1)).trans stored)
              rw [delete_step stored children again bare unnamed freed, ← rest, without_without]
              congr 1
              refine without_congr (fun p => ?_) fun p => ?_
              · simp only [items, List.append_nil, List.mem_append, List.mem_cons,
                  List.not_mem_nil, or_false]
                exact or_comm
              · simp only [texts, List.append_nil, List.mem_append]
                tauto

/-- A tree on its own is deleted as a whole; the others stay what they were. -/
theorem cJSON_Delete_root {t : ItemTree} {roots : List ItemTree} {fuel : Nat}
    (forest : Forest m (t :: roots)) (enough : (items t).length < fuel) :
    ∃ after, cJSON_Delete fuel m (some t.address) = .ok after ∧ Forest after roots ∧
      after.refused = m.refused := by
  have apart := forest.apart
  have strings_apart := forest.strings_apart
  simp only [items_all, List.nodup_append] at apart
  simp only [texts_all, List.nodup_append] at strings_apart
  have alone : Seg m.items none (some t.address) ([t].map ItemTree.cell) (some t.address) none :=
    ⟨rfl, none, forest.root t List.mem_cons_self, rfl, rfl⟩
  have deleted := delete_list fuel alone ⟨forest.inside t List.mem_cons_self, trivial⟩
    (by simpa [items_all] using apart.1) (by simpa [texts_all] using strings_apart.1)
    (by simpa [items_all] using enough)
  simp only [items_all, texts_all, List.append_nil] at deleted
  have kept : ∀ q ∈ items_all roots, q ∉ items t := fun q member gone =>
    apart.2.2 q gone q member rfl
  have kept_strings : ∀ q ∈ texts_all roots, q ∉ texts t := fun q member gone =>
    strings_apart.2.2 q gone q member rfl
  refine ⟨_, deleted, ⟨apart.2.1, strings_apart.2.1, fun p => ?_, fun p => ?_, ?_, ?_⟩, rfl⟩
  · have held := forest.owned p
    simp only [items_all, List.mem_append] at held
    by_cases gone : p ∈ items t
    · simp only [without, if_pos gone, ne_eq, not_true_eq_false, false_iff]
      exact fun member => kept p member gone
    · rw [without_items _ _ gone, held]
      exact or_iff_right gone
  · have held := forest.strings_owned p
    simp only [texts_all, List.mem_append] at held
    by_cases gone : p ∈ texts t
    · simp only [without, if_pos gone, ne_eq, not_true_eq_false, false_iff]
      exact fun member => kept_strings p member gone
    · rw [without_strings _ _ gone, held]
      exact or_iff_right gone
  · intro other member
    rw [without_items _ _, forest.root other (List.mem_cons_of_mem _ member)]
    exact kept _ (items_subset member (address_items other))
  · intro other member
    exact inside_frame other (forest.inside other (List.mem_cons_of_mem _ member))
      (fun q below => without_items _ _ (kept q (items_subset member below)))
      fun q below => without_strings _ _ (kept_strings q (texts_subset member below))

end Deletion

section Contexts
variable {m m' : Memory} {s s' : ItemTree}

/-- An item with a gap among its children. -/
structure Frame where
  label : Label
  before : List ItemTree
  after : List ItemTree

/-- The tree that has `s` at a place inside, the outermost item first. -/
def plug : List Frame → ItemTree → ItemTree
  | [], s => s
  | frame :: context, s =>
      .item frame.label (frame.before ++ plug context s :: frame.after)

def frame_items (frame : Frame) : List Ptr :=
  frame.label.address :: (items_all frame.before ++ items_all frame.after)

def frame_texts (frame : Frame) : List Ptr :=
  place frame.label.valuestring ++ place frame.label.string ++
    (texts_all frame.before ++ texts_all frame.after)

theorem plug_items (context : List Frame) (s : ItemTree) :
    (items (plug context s)).Perm (context.flatMap frame_items ++ items s) := by
  induction context with
  | nil => exact .refl _
  | cons frame context ih =>
      simp only [plug, items, items_all_append, items_all, List.flatMap_cons, frame_items,
        List.cons_append, List.append_assoc]
      refine .cons _ (.append_left _ ?_)
      exact List.perm_append_comm.trans (.append_left _ ih)

theorem plug_texts (context : List Frame) (s : ItemTree) :
    (texts (plug context s)).Perm (context.flatMap frame_texts ++ texts s) := by
  induction context with
  | nil => exact .refl _
  | cons frame context ih =>
      simp only [plug, texts, texts_all_append, texts_all, List.flatMap_cons, frame_texts,
        List.append_assoc]
      refine .append_left _ (.append_left _ (.append_left _ ?_))
      exact List.perm_append_comm.trans (.append_left _ ih)

theorem plug_items_all (context : List Frame) (s : ItemTree) (more rest : List ItemTree) :
    (items_all (plug context s :: (more ++ rest))).Perm
      ((context.flatMap frame_items ++ items_all rest) ++ (items s ++ items_all more)) := by
  simp only [items_all, items_all_append]
  refine ((plug_items context s).append_right _).trans ?_
  simp only [List.append_assoc]
  refine .append_left _ ?_
  simpa only [List.append_assoc] using
    (List.perm_append_comm : ((items s ++ items_all more) ++ items_all rest).Perm _)

theorem plug_texts_all (context : List Frame) (s : ItemTree) (more rest : List ItemTree) :
    (texts_all (plug context s :: (more ++ rest))).Perm
      ((context.flatMap frame_texts ++ texts_all rest) ++ (texts s ++ texts_all more)) := by
  simp only [texts_all, texts_all_append]
  refine ((plug_texts context s).append_right _).trans ?_
  simp only [List.append_assoc]
  refine .append_left _ ?_
  simpa only [List.append_assoc] using
    (List.perm_append_comm : ((texts s ++ texts_all more) ++ texts_all rest).Perm _)

theorem plug_address (context : List Frame) (address : s'.address = s.address) :
    (plug context s').address = (plug context s).address := by
  cases context with
  | nil => exact address
  | cons frame context => rfl

theorem plug_first (context : List Frame) (before after : List ItemTree)
    (address : s'.address = s.address) :
    (before ++ plug context s' :: after).head?.map ItemTree.address =
      (before ++ plug context s :: after).head?.map ItemTree.address := by
  cases before with
  | nil => exact congrArg some (plug_address context address)
  | cons t next => rfl

theorem plug_fields (frame : Frame) (context : List Frame) (address : s'.address = s.address) :
    (plug (frame :: context) s').fields = (plug (frame :: context) s).fields := by
  simp only [plug, ItemTree.fields, plug_first context frame.before frame.after address]

/-- The node of the inner tree gets the fields of the new one. -/
theorem plug_wrote {context : List Frame} {prev next : Option Ptr}
    (stored : m.items (plug context s).address = some ⟨(plug context s).fields, prev, next⟩)
    (address : s'.address = s.address)
    (wrote : m'.items s.address =
      (m.items s.address).map fun node => { node with value := s'.fields })
    (same : ∀ p ∈ context.flatMap frame_items, m'.items p = m.items p) :
    m'.items (plug context s).address = some ⟨(plug context s').fields, prev, next⟩ := by
  cases context with
  | nil =>
      rw [plug] at stored
      rw [plug, wrote, stored]
      rfl
  | cons frame context =>
      rw [plug_fields frame context address, ← stored]
      exact same _ (by simp [plug, ItemTree.address, frame_items])

/-- Changing a tree inside of another one. -/
theorem plug_inside {context : List Frame} (inside : Inside m (plug context s))
    (address : s'.address = s.address)
    (wrote : m'.items s.address =
      (m.items s.address).map fun node => { node with value := s'.fields })
    (below : Inside m' s')
    (same : ∀ p ∈ context.flatMap frame_items, m'.items p = m.items p)
    (same_strings : ∀ p ∈ context.flatMap frame_texts, m'.strings p = m.strings p) :
    Inside m' (plug context s') := by
  induction context with
  | nil => exact below
  | cons frame context ih =>
      obtain ⟨valuestring, string, ring, children⟩ := inside
      simp only [List.flatMap_cons, frame_items, List.mem_append, List.mem_cons] at same
      simp only [List.flatMap_cons, frame_texts, List.mem_append] at same_strings
      rw [inside_all_iff] at children
      have inner := ih (children _ (by simp)) (fun p member => same p (.inr member))
        fun p member => same_strings p (.inr member)
      rw [List.map_append, List.map_cons] at ring
      obtain ⟨last, seg⟩ := ring
      obtain ⟨prev, next, stored⟩ := seg_stored seg (List.mem_append_right _ List.mem_cons_self)
      have changed := plug_wrote stored address wrote fun p member => same p (.inr member)
      have own : Ringed m.items _ (frame.before.map ItemTree.cell ++
          ((plug context s).address, (plug context s).fields) :: frame.after.map ItemTree.cell) :=
        ⟨last, seg⟩
      have linked : Ringed m'.items _ (frame.before.map ItemTree.cell ++
          ((plug context s).address, (plug context s').fields) :: frame.after.map ItemTree.cell) :=
        Ringed.store own
          (changed.trans (by rw [show m.items (plug context s).address = _ from stored]; rfl))
          fun q member => by
            rw [List.map_append, List.mem_append] at member
            rcases member with front | back
            · exact same q (.inl (.inr (.inl ((cells_items _).subset front))))
            · exact same q (.inl (.inr (.inr ((cells_items _).subset back))))
      refine ⟨keeps_frame valuestring fun q member => same_strings q (.inl (.inl (.inl member))),
        keeps_frame string fun q member => same_strings q (.inl (.inl (.inr member))), ?_, ?_⟩
      · rw [plug_first context frame.before frame.after address]
        simpa only [List.map_append, List.map_cons, ItemTree.cell, plug_address context address]
          using linked
      · rw [inside_all_iff]
        intro t member
        rcases List.mem_append.mp member with front | middle
        · exact inside_frame t (children t (List.mem_append_left _ front))
            (fun q below => same q (.inl (.inr (.inl (items_subset front below)))))
            fun q below => same_strings q (.inl (.inr (.inl (texts_subset front below))))
        · rcases List.mem_cons.mp middle with rfl | back
          · exact inner
          · exact inside_frame t (children t (by simp [back]))
              (fun q below => same q (.inl (.inr (.inr (items_subset back below)))))
              fun q below => same_strings q (.inl (.inr (.inr (texts_subset back below))))

/-- The trees in `more` are moved into or out of the place in the first tree. -/
theorem forest_replug {context : List Frame} {more more' rest : List ItemTree}
    (forest : Forest m (plug context s :: (more ++ rest))) (address : s'.address = s.address)
    (moved : (items s' ++ items_all more').Perm (items s ++ items_all more))
    (moved_texts : (texts s' ++ texts_all more').Perm (texts s ++ texts_all more))
    (stored : ∀ p, m'.items p = none ↔ m.items p = none)
    (stored_strings : ∀ p, m'.strings p = none ↔ m.strings p = none)
    (wrote : m'.items s.address =
      (m.items s.address).map fun node => { node with value := s'.fields })
    (below : Inside m' s')
    (others : ∀ t ∈ more', m'.items t.address = some ⟨t.fields, none, none⟩ ∧ Inside m' t)
    (same : ∀ p ∉ items s ++ items_all more, m'.items p = m.items p)
    (same_strings : ∀ p ∉ texts s ++ texts_all more, m'.strings p = m.strings p) :
    Forest m' (plug context s' :: (more' ++ rest)) := by
  have before := plug_items_all context s more rest
  have before_texts := plug_texts_all context s more rest
  have after := ((plug_items_all context s' more' rest).trans (moved.append_left _)).trans before.symm
  have after_texts :=
    ((plug_texts_all context s' more' rest).trans (moved_texts.append_left _)).trans before_texts.symm
  have apart := before.nodup_iff.mp forest.apart
  have strings_apart := before_texts.nodup_iff.mp forest.strings_apart
  rw [List.nodup_append] at apart strings_apart
  have outside : ∀ p ∈ context.flatMap frame_items ++ items_all rest, m'.items p = m.items p :=
    fun p member => same p fun gone => apart.2.2 p member p gone rfl
  have outside_strings : ∀ p ∈ context.flatMap frame_texts ++ texts_all rest,
      m'.strings p = m.strings p :=
    fun p member => same_strings p fun gone => strings_apart.2.2 p member p gone rfl
  refine ⟨after.nodup_iff.mpr forest.apart, after_texts.nodup_iff.mpr forest.strings_apart,
    fun p => ?_, fun p => ?_, fun t member => ?_, fun t member => ?_⟩
  · rw [ne_eq, stored p, after.mem_iff]
    exact forest.owned p
  · rw [ne_eq, stored_strings p, after_texts.mem_iff]
    exact forest.strings_owned p
  · rcases List.mem_cons.mp member with rfl | member
    · rw [plug_address context address]
      exact plug_wrote (forest.root _ List.mem_cons_self) address wrote fun p inner =>
        outside p (List.mem_append_left _ inner)
    · rcases List.mem_append.mp member with moved | kept
      · exact (others t moved).1
      · rw [outside _ (List.mem_append_right _ (items_subset kept (address_items t)))]
        exact forest.root t (by simp [kept])
  · rcases List.mem_cons.mp member with rfl | member
    · exact plug_inside (forest.inside _ List.mem_cons_self) address wrote below
        (fun p inner => outside p (List.mem_append_left _ inner))
        fun p inner => outside_strings p (List.mem_append_left _ inner)
    · rcases List.mem_append.mp member with moved | kept
      · exact (others t moved).2
      · exact inside_frame t (forest.inside t (by simp [kept]))
          (fun q below => outside q (List.mem_append_right _ (items_subset kept below)))
          fun q below => outside_strings q (List.mem_append_right _ (texts_subset kept below))

end Contexts

end Iperf.CjsonForest
