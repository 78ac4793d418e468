import Mathlib.Algebra.GroupWithZero.Nat
import Mathlib.Data.List.Perm.Basic
import Mathlib.Data.List.Nodup
import Iperf.Transition
import Iperf.QuicContext

/-!
Who holds a stream context. A context moves from the accept queue or a running
connect into the id map, and from there to one `iperf_stream`; `Owns` accounts
for every context ever allocated and for every id ever handed out, over the
whole history.
-/

namespace Iperf.QuicOwnership

open LinkedQueue QuicContext Transition

abbrev Waiting := List (Ptr × Ptr)
abbrev Entries := List (Ptr × quic_stream_map)

section Histories

def createdBy : Event → List Ptr
  | .peerStreamStarted sc => [sc]
  | .connectOpen sc => [sc]
  | _ => []

def arrivedBy : Event → List Ptr
  | .peerStreamStarted sc => [sc]
  | _ => []

def acceptedBy : Event → List (Int32 × Ptr)
  | .accept (some given) => [given]
  | _ => []

def handedBy : Event → List (Int32 × Ptr)
  | .accept (some given) => [given]
  | .connect id sc => [(id, sc)]
  | _ => []

def foundBy : Event → List (Ptr × Int32 × Ptr)
  | .lookup sp id (some sc) => [(sp, id, sc)]
  | _ => []

def attachedBy : Event → List (Ptr × Ptr)
  | .attach sp sc => [(sp, sc)]
  | _ => []

def created (past : List Event) : List Ptr := past.flatMap createdBy

def arrived (past : List Event) : List Ptr := past.flatMap arrivedBy

def accepted (past : List Event) : List (Int32 × Ptr) := past.flatMap acceptedBy

/-- Every id returned by accept or connect, with the context it was given to. -/
def handed (past : List Event) : List (Int32 × Ptr) := past.flatMap handedBy

/-- Every successful lookup: the stream, the id and the context taken out. -/
def found (past : List Event) : List (Ptr × Int32 × Ptr) := past.flatMap foundBy

def attachments (past : List Event) : List (Ptr × Ptr) := past.flatMap attachedBy

@[simp] theorem created_append (past : List Event) (event : Event) :
    created (past ++ [event]) = created past ++ createdBy event := by
  simp [created]

@[simp] theorem arrived_append (past : List Event) (event : Event) :
    arrived (past ++ [event]) = arrived past ++ arrivedBy event := by
  simp [arrived]

@[simp] theorem accepted_append (past : List Event) (event : Event) :
    accepted (past ++ [event]) = accepted past ++ acceptedBy event := by
  simp [accepted]

@[simp] theorem handed_append (past : List Event) (event : Event) :
    handed (past ++ [event]) = handed past ++ handedBy event := by
  simp [handed]

@[simp] theorem found_append (past : List Event) (event : Event) :
    found (past ++ [event]) = found past ++ foundBy event := by
  simp [found]

@[simp] theorem attachments_append (past : List Event) (event : Event) :
    attachments (past ++ [event]) = attachments past ++ attachedBy event := by
  simp [attachments]

/-- Contexts in a local variable of the call that is running. -/
def held : Main → List Ptr
  | .connecting sc => [sc]
  | .attaching _ sc => [sc]
  | _ => []

def attaching : Main → List (Ptr × Ptr)
  | .attaching sp sc => [(sp, sc)]
  | _ => []

def given (entries : Entries) : List (Int32 × Ptr) :=
  entries.map fun entry => (entry.2.id, entry.2.sc)

end Histories

section Lookup
variable {ctx : iperf_quic_context}

/-- How a lookup ends: the first entry with the id is unlinked, or there is none. -/
inductive Taken (ctx : iperf_quic_context) (id : Int32) (entries : Entries) :
    Option Ptr × iperf_quic_context → Prop where
  | found {front back : Entries} {c sc : Ptr} {nodes : Heap quic_stream_map} {map : Option Ptr} :
      entries = front ++ (c, ⟨id, sc⟩) :: back → Chain nodes map (front ++ back) →
      Taken ctx id entries (some sc, { ctx with nodes := nodes, map := map })
  | missing : (∀ entry ∈ entries, entry.2.id ≠ id) → Taken ctx id entries (none, ctx)

/-- The search with `front` behind it: `prev` is its last node and `cur` the
first node still to be compared. -/
theorem takeStep_returns (id : Int32) (front rest : Entries)
    (chain : Chain ctx.nodes ctx.map (front ++ rest))
    (passed : ∀ entry ∈ front, entry.2.id ≠ id) :
    ∃ outcome, Loop.Returns (takeStep ctx id)
        ((front.map Prod.fst).getLast?, (rest.map Prod.fst).head?) outcome ∧
      Taken ctx id (front ++ rest) outcome := by
  induction rest generalizing front with
  | nil => exact ⟨_, Loop.returns_done rfl, .missing (by simpa using passed)⟩
  | cons entry rest ih =>
      obtain ⟨c, value⟩ := entry
      obtain ⟨link, stored, follows⟩ := chain_after chain
      dsimp only at stored
      by_cases match_id : value.id = id
      · obtain ⟨id', sc⟩ := value
        obtain rfl : id' = id := match_id
        -- `prev` is NULL exactly when nothing was passed; then the map itself moves on.
        rcases List.eq_nil_or_concat front with none | ⟨before, p, split⟩
        · subst none
          refine ⟨_, Loop.returns_done (by simp [takeStep, stored]; rfl), ?_⟩
          exact Taken.found (List.nil_append _).symm (chain_update_head chain stored none)
        · rw [List.concat_eq_append] at split
          subst split
          have linked : Chain ctx.nodes ctx.map (before ++ p :: (c, ⟨id', sc⟩) :: rest) := by
            simpa using chain
          obtain ⟨link', atPrev, _⟩ := chain_after linked
          refine ⟨_, Loop.returns_done (by simp [takeStep, stored, atPrev]; rfl), ?_⟩
          apply Taken.found rfl
          simpa using chain_unlink linked stored
      · obtain ⟨outcome, returns, taken⟩ := ih (front ++ [(c, value)]) (by simpa using chain) (by
          intro entry member
          rcases List.mem_append.mp member with earlier | last
          · exact passed entry earlier
          · rw [List.mem_singleton.mp last]
            exact match_id)
        refine ⟨outcome, Loop.returns_again ?_ returns, by simpa using taken⟩
        rw [← chain_start follows]
        simp [takeStep, stored, match_id]

theorem map_take_yields {entries : Entries} (id : Int32)
    (chain : Chain ctx.nodes ctx.map entries) :
    ∃ outcome, Loop.Yields (fun fuel => map_take fuel ctx id) outcome ∧
      Taken ctx id entries outcome := by
  obtain ⟨outcome, returns, taken⟩ := takeStep_returns id [] entries chain (by simp)
  rw [← chain_start chain] at returns
  exact ⟨outcome, returns.yields, taken⟩

theorem map_take_taken {entries : Entries} {fuel : Nat} {id : Int32}
    {outcome : Option Ptr × iperf_quic_context} (chain : Chain ctx.nodes ctx.map entries)
    (took : map_take fuel ctx id = some outcome) : Taken ctx id entries outcome := by
  obtain ⟨result, yields, taken⟩ := map_take_yields id chain
  rw [yields.2 fuel outcome took]
  exact taken

end Lookup

/-- The account of contexts and ids after a history. -/
structure Owns (past : List Event) (system : System) (waiting : Waiting) (entries : Entries) :
    Prop where
  queue : system.ctx.accept.Holds waiting
  map : Chain system.ctx.nodes system.ctx.map entries
  contexts : system.contexts = created past
  distinct : (created past).Nodup
  located : (waiting.map Prod.snd ++ (given entries).map Prod.snd ++
    (attachments past).map Prod.snd ++ held system.main).Perm (created past)
  order : arrived past = (accepted past).map Prod.snd ++ waiting.map Prod.snd
  next : system.ctx.next_id = Int32.ofNat (handed past).length
  ids : (handed past).map Prod.fst =
    (List.range (handed past).length).map fun k => Int32.ofNat (k + 1)
  placed : (given entries ++ (found past).map Prod.snd).Perm (handed past)
  follows : (found past).map (fun taken => (taken.1, taken.2.2)) =
    attachments past ++ attaching system.main
  data : ∀ sp sc, system.data sp = some sc ↔ (sp, sc) ∈ attachments past
  single : ((attachments past ++ attaching system.main).map Prod.fst).Nodup

theorem fresh_owns : Owns [] fresh [] [] where
  queue := Fifo.empty_holds
  map := rfl
  contexts := rfl
  distinct := List.nodup_nil
  located := List.Perm.refl _
  order := rfl
  next := rfl
  ids := rfl
  placed := List.Perm.refl _
  follows := rfl
  data := by simp [fresh, attachments]
  single := List.nodup_nil

section Steps
variable {past : List Event} {before after : System} {waiting : Waiting} {entries : Entries}

/-- Steps that move no context and give out no id. -/
theorem Owns.frame (owns : Owns past before waiting entries) (event : Event)
    (quiet : createdBy event = [] ∧ arrivedBy event = [] ∧ acceptedBy event = [] ∧
      handedBy event = [] ∧ foundBy event = [] ∧ attachedBy event = [])
    (queue : after.ctx.accept = before.ctx.accept) (nodes : after.ctx.nodes = before.ctx.nodes)
    (map : after.ctx.map = before.ctx.map) (next : after.ctx.next_id = before.ctx.next_id)
    (contexts : after.contexts = before.contexts) (data : after.data = before.data)
    (holds : held after.main = held before.main)
    (attaches : attaching after.main = attaching before.main) :
    Owns (past ++ [event]) after waiting entries := by
  obtain ⟨created, arrived, accepted, handed, found, attached⟩ := quiet
  constructor
  · rw [queue]
    exact owns.queue
  · rw [nodes, map]
    exact owns.map
  · simpa [contexts, created] using owns.contexts
  · simpa [created] using owns.distinct
  · simpa [created, attached, holds] using owns.located
  · simpa [arrived, accepted] using owns.order
  · simpa [next, handed] using owns.next
  · simpa [handed] using owns.ids
  · simpa [handed, found] using owns.placed
  · simpa [found, attached, attaches] using owns.follows
  · simpa [data, attached] using owns.data
  · simpa [attached, attaches] using owns.single

attribute [simp] createdBy arrivedBy acceptedBy handedBy foundBy attachedBy held attaching

theorem peerStreamStarted_owns (owns : Owns past before waiting entries) {capacity : Nat}
    {sc node : Ptr} {ctx : iperf_quic_context} (fresh : sc ∉ before.contexts)
    (unused : before.ctx.accept.heap node = none)
    (queued : accept_enq capacity before.ctx node sc = some ctx) :
    Owns (past ++ [.peerStreamStarted sc])
      { before with ctx := ctx, contexts := before.contexts ++ [sc] }
      (waiting ++ [(node, sc)]) entries := by
  obtain ⟨holds, same⟩ := accept_enq_waiting owns.queue unused queued
  rw [owns.contexts] at fresh
  constructor
  · exact holds
  · rw [same]
    exact owns.map
  · simp [owns.contexts]
  · rw [created_append, createdBy, ← List.concat_eq_append, List.nodup_concat]
    exact ⟨fresh, owns.distinct⟩
  · -- The four places are counted, since the new context joins in the middle.
    refine List.perm_iff_count.mpr fun context => ?_
    have located := List.perm_iff_count.mp owns.located context
    simp only [List.map_append, List.map_cons, List.map_nil, attachments_append, created_append,
      createdBy, attachedBy, List.count_append, List.append_nil] at located ⊢
    omega
  · simp [owns.order]
  · rw [same]
    simpa using owns.next
  · simpa using owns.ids
  · simpa using owns.placed
  · simpa using owns.follows
  · simpa using owns.data
  · simpa using owns.single

/-- A context that gets the next id: the map grows by its entry, whatever it
was held by before. -/
theorem identify_owns (owns : Owns past before waiting entries) (ctx : iperf_quic_context)
    (node sc : Ptr) (unused : before.ctx.nodes node = none) (nodes : ctx.nodes = before.ctx.nodes)
    (map : ctx.map = before.ctx.map) (next : ctx.next_id = before.ctx.next_id)
    (event : Event) (hands : handedBy event = [((identify ctx node sc).1, sc)])
    (finds : foundBy event = []) :
    Chain (identify ctx node sc).2.nodes (identify ctx node sc).2.map
        ((node, ⟨(identify ctx node sc).1, sc⟩) :: entries) ∧
      (identify ctx node sc).2.next_id = Int32.ofNat (handed (past ++ [event])).length ∧
      ((handed (past ++ [event])).map Prod.fst =
        (List.range (handed (past ++ [event])).length).map fun k => Int32.ofNat (k + 1)) ∧
      (given ((node, ⟨(identify ctx node sc).1, sc⟩) :: entries) ++
        (found (past ++ [event])).map Prod.snd).Perm (handed (past ++ [event])) := by
  have numbered : (identify ctx node sc).1 = Int32.ofNat ((handed past).length + 1) := by
    simp [identify, next, owns.next]
  refine ⟨?_, ?_, ?_, ?_⟩
  · have grown := chain_push owns.map unused (⟨(identify ctx node sc).1, sc⟩ : quic_stream_map)
    rw [← nodes, ← map] at grown
    exact grown
  · rw [handed_append, hands, List.length_append, List.length_singleton, ← numbered]
    rfl
  · rw [handed_append, hands, List.length_append, List.length_singleton, List.range_succ,
      List.map_append, List.map_append, owns.ids, numbered]
    rfl
  · refine List.perm_iff_count.mpr fun pair => ?_
    have placed := List.perm_iff_count.mp owns.placed pair
    simp only [given, List.map_cons, List.count_cons, List.cons_append, List.count_append,
      found_append, finds, handed_append, hands, List.append_nil, List.count_nil] at placed ⊢
    omega

theorem accept_owns (owns : Owns past before waiting entries) {ctx : iperf_quic_context}
    {node : Ptr} {result : Option (Int32 × Ptr)} (unused : before.ctx.nodes node = none)
    (accepting : before.main = .accepting)
    (locked : acceptLocked before.ctx node = some (result, ctx)) :
    ∃ waiting entries,
      Owns (past ++ [.accept result]) { before with ctx := ctx, main := .idle }
        waiting entries := by
  rcases accept_deq_waiting owns.queue with ⟨none, empty⟩ | ⟨n, sc, rest, queue, split, holds, deq⟩
  · simp only [acceptLocked, empty, Option.some.injEq, Prod.mk.injEq] at locked
    obtain ⟨rfl, rfl⟩ := locked
    exact ⟨waiting, entries, owns.frame _ ⟨rfl, rfl, rfl, rfl, rfl, rfl⟩ rfl rfl rfl rfl rfl rfl
      (by simp [accepting]) (by simp [accepting])⟩
  · simp only [acceptLocked, deq, Option.some.injEq, Prod.mk.injEq] at locked
    obtain ⟨rfl, rfl⟩ := locked
    obtain ⟨map, next, ids, placed⟩ :=
      identify_owns owns { before.ctx with accept := queue } node sc unused rfl rfl rfl
        (.accept (some ((identify { before.ctx with accept := queue } node sc).1, sc))) rfl rfl
    subst split
    refine ⟨rest, _ :: entries, holds, map, by simpa using owns.contexts,
      by simpa using owns.distinct, ?_, ?_, next, ids, placed, ?_, by simpa using owns.data, ?_⟩
    · refine List.perm_iff_count.mpr fun context => ?_
      have located := List.perm_iff_count.mp owns.located context
      simp only [accepting, given, held, List.map_cons, List.cons_append, List.count_cons,
        List.count_append, created_append, createdBy, attachments_append, attachedBy,
        List.append_nil] at located ⊢
      omega
    · simpa using owns.order
    · simpa [accepting] using owns.follows
    · simpa [accepting] using owns.single

theorem connectOpen_owns (owns : Owns past before waiting entries) {sc : Ptr}
    (fresh : sc ∉ before.contexts) (idle : before.main = .idle) :
    Owns (past ++ [.connectOpen sc])
      { before with contexts := before.contexts ++ [sc], main := .connecting sc }
      waiting entries := by
  rw [owns.contexts] at fresh
  refine ⟨owns.queue, owns.map, by simp [owns.contexts], ?_, ?_, by simpa using owns.order,
    by simpa using owns.next, by simpa using owns.ids, by simpa using owns.placed, ?_,
    by simpa using owns.data, ?_⟩
  · rw [created_append, createdBy, ← List.concat_eq_append, List.nodup_concat]
    exact ⟨fresh, owns.distinct⟩
  · have located := owns.located.append_right [sc]
    simpa [idle] using located
  · simpa [idle] using owns.follows
  · simpa [idle] using owns.single

theorem connect_owns (owns : Owns past before waiting entries) {node sc : Ptr}
    (unused : before.ctx.nodes node = none) (connecting : before.main = .connecting sc) :
    Owns (past ++ [.connect (identify before.ctx node sc).1 sc])
      { before with ctx := (identify before.ctx node sc).2, main := .idle }
      waiting ((node, ⟨(identify before.ctx node sc).1, sc⟩) :: entries) := by
  obtain ⟨map, next, ids, placed⟩ := identify_owns owns before.ctx node sc unused rfl rfl rfl
    (.connect (identify before.ctx node sc).1 sc) rfl rfl
  refine ⟨owns.queue, map, by simpa using owns.contexts, by simpa using owns.distinct, ?_,
    by simpa using owns.order, next, ids, placed, ?_, by simpa using owns.data, ?_⟩
  · refine List.perm_iff_count.mpr fun context => ?_
    have located := List.perm_iff_count.mp owns.located context
    simp only [connecting, given, held, List.map_cons, List.count_cons, List.count_nil,
      List.count_append, created_append, createdBy, attachments_append, attachedBy,
      List.append_nil] at located ⊢
    omega
  · simpa [connecting] using owns.follows
  · simpa [connecting] using owns.single

theorem lookup_owns (owns : Owns past before waiting entries) {fuel : Nat} {sp : Ptr}
    {id : Int32} {result : Option Ptr} {ctx : iperf_quic_context} (idle : before.main = .idle)
    (unattached : before.data sp = none)
    (took : map_take fuel before.ctx id = some (result, ctx)) :
    ∃ entries,
      Owns (past ++ [.lookup sp id result])
        { before with ctx := ctx, main := afterLookup sp result } waiting entries := by
  cases map_take_taken owns.map took with
  | missing absent =>
      exact ⟨entries, owns.frame _ ⟨rfl, rfl, rfl, rfl, rfl, rfl⟩ rfl rfl rfl rfl rfl rfl
        (by simp [afterLookup, idle]) (by simp [afterLookup, idle])⟩
  | @found front back c sc nodes map split chain =>
      subst split
      -- The stream has no context yet, so this attachment will be its first.
      have unseen : ∀ sc', (sp, sc') ∉ attachments past := by
        intro sc' member
        rw [(owns.data sp sc').mpr member] at unattached
        cases unattached
      refine ⟨front ++ back, owns.queue, chain, by simpa using owns.contexts,
        by simpa using owns.distinct, ?_, by simpa using owns.order, by simpa using owns.next,
        by simpa using owns.ids, ?_, ?_, by simpa using owns.data, ?_⟩
      · refine List.perm_iff_count.mpr fun context => ?_
        have located := List.perm_iff_count.mp owns.located context
        simp only [idle, given, held, afterLookup, List.map_append, List.map_cons, List.count_cons,
          List.count_nil, List.count_append, created_append, createdBy, attachments_append,
          attachedBy, List.append_nil] at located ⊢
        omega
      · refine List.perm_iff_count.mpr fun pair => ?_
        have placed := List.perm_iff_count.mp owns.placed pair
        simp only [given, List.map_append, List.map_cons, List.map_nil, List.count_cons,
          List.count_nil, List.count_append, handed_append, handedBy, found_append, foundBy,
          List.append_nil] at placed ⊢
        omega
      · simpa [idle, afterLookup] using owns.follows
      · have single := owns.single
        simp only [idle, attaching, List.append_nil] at single
        simp only [attachments_append, attachedBy, List.append_nil, afterLookup, attaching,
          List.map_append, List.map_cons, List.map_nil]
        rw [← List.concat_eq_append, List.nodup_concat]
        refine ⟨fun member => ?_, single⟩
        obtain ⟨pair, present, same⟩ := List.mem_map.mp member
        exact unseen pair.2 (same ▸ present)

theorem attach_owns (owns : Owns past before waiting entries) {sp sc : Ptr}
    (attaches : before.main = .attaching sp sc) :
    Owns (past ++ [.attach sp sc])
      { before with data := Function.update before.data sp (some sc), main := .idle }
      waiting entries := by
  have single := owns.single
  rw [attaches, attaching, List.map_append, List.map_cons, List.map_nil, ← List.concat_eq_append,
    List.nodup_concat] at single
  obtain ⟨unseen, distinct⟩ := single
  refine ⟨owns.queue, owns.map, by simpa using owns.contexts, by simpa using owns.distinct,
    ?_, by simpa using owns.order, by simpa using owns.next, by simpa using owns.ids,
    by simpa using owns.placed, ?_, ?_, ?_⟩
  · simpa [attaches] using owns.located
  · simpa [attaches] using owns.follows
  · intro stream context
    by_cases same : stream = sp
    · subst same
      have absent : (stream, context) ∉ attachments past :=
        fun member => unseen (List.mem_map.mpr ⟨(stream, context), member, rfl⟩)
      simp [absent, eq_comm]
    · simp [same, owns.data stream context]
  · simpa [attaches] using owns.single

theorem step_owns {capacity : Nat} {event : Event} (owns : Owns past before waiting entries)
    (step : Step capacity before event after) :
    ∃ waiting entries, Owns (past ++ [event]) after waiting entries := by
  cases step with
  | peerStreamStarted sc node fresh unused queued =>
      exact ⟨_, _, peerStreamStarted_owns owns fresh unused queued⟩
  | acceptRead idle =>
      exact ⟨_, _, owns.frame _ ⟨rfl, rfl, rfl, rfl, rfl, rfl⟩ rfl rfl rfl rfl rfl rfl
        (by simp [idle]) (by simp [idle])⟩
  | accept node unused accepting locked => exact accept_owns owns unused accepting locked
  | connectOpen sc fresh idle => exact ⟨_, _, connectOpen_owns owns fresh idle⟩
  | connect node unused connecting => exact ⟨_, _, connect_owns owns unused connecting⟩
  | lookup fuel sp id idle unattached took =>
      obtain ⟨entries, after⟩ := lookup_owns owns idle unattached took
      exact ⟨_, entries, after⟩
  | attach attaching => exact ⟨_, _, attach_owns owns attaching⟩
  | closeListener idle =>
      exact ⟨_, _, owns.frame _ ⟨rfl, rfl, rfl, rfl, rfl, rfl⟩ rfl rfl rfl rfl rfl rfl rfl rfl⟩

end Steps

section Results
variable {past : List Event} {system : System} {waiting : Waiting} {entries : Entries}

theorem handed_le_created (owns : Owns past system waiting entries) :
    (handed past).length ≤ (created past).length := by
  have located := owns.located.length_eq
  have placed := owns.placed.length_eq
  have follows := congrArg List.length owns.follows
  have local_le : (attaching system.main).length ≤ (held system.main).length := by
    cases system.main <;> simp
  simp only [List.length_append, List.length_map] at located placed follows
  omega

/-- Below 2^31 contexts the counter does not wrap: ids are positive and distinct. -/
theorem handed_ids (owns : Owns past system waiting entries)
    (few : (created past).length < 2 ^ 31) :
    (∀ pair ∈ handed past, 0 < pair.1.toInt) ∧ ((handed past).map Prod.fst).Nodup := by
  have atMost := handed_le_created owns
  -- Below the bound the 32-bit counter and the natural number are the same.
  have value : ∀ k < (handed past).length, (Int32.ofNat (k + 1)).toInt = k + 1 := by
    intro k below
    rw [Int32.toInt_ofNat_of_lt (by omega)]
    rfl
  constructor
  · intro pair member
    have numbered := List.mem_map_of_mem (f := Prod.fst) member
    rw [owns.ids] at numbered
    obtain ⟨k, below, same⟩ := List.mem_map.mp numbered
    rw [← same, value k (List.mem_range.mp below)]
    omega
  · rw [owns.ids]
    refine List.Nodup.map_on ?_ List.nodup_range
    intro j jBelow k kBelow same
    have equal := congrArg Int32.toInt same
    rw [value j (List.mem_range.mp jBelow), value k (List.mem_range.mp kBelow)] at equal
    omega

theorem given_or_found (owns : Owns past system waiting entries) (pair : Int32 × Ptr) :
    pair ∈ handed past ↔ pair ∈ given entries ∨ ∃ sp, (sp, pair) ∈ found past := by
  rw [← owns.placed.mem_iff, List.mem_append]
  simp

/-- A lookup takes the context that was given the id, once. -/
theorem lookup_result (owns : Owns past system waiting entries)
    (few : (created past).length < 2 ^ 31) {fuel : Nat} {id : Int32} {result : Option Ptr}
    {ctx : iperf_quic_context} (took : map_take fuel system.ctx id = some (result, ctx))
    (sc : Ptr) :
    result = some sc ↔ (id, sc) ∈ handed past ∧ ∀ sp sc', (sp, id, sc') ∉ found past := by
  have distinct := (handed_ids owns few).2
  have unique : ∀ left right, (id, left) ∈ handed past → (id, right) ∈ handed past →
      left = right := by
    intro left right first second
    exact congrArg Prod.snd (List.inj_on_of_nodup_map distinct first second rfl)
  -- An id still in the map was never found, or it would have been given twice.
  have once : ∀ sp left right, (id, left) ∈ given entries → (sp, id, right) ∉ found past := by
    intro sp left right stored taken
    have apart := (owns.placed.map Prod.fst).nodup_iff.mpr distinct
    rw [List.map_append, List.nodup_append] at apart
    exact apart.2.2 id (List.mem_map_of_mem stored) id
      (List.mem_map_of_mem (List.mem_map_of_mem taken)) rfl
  cases map_take_taken owns.map took with
  | missing absent =>
      refine ⟨(nomatch ·), fun ⟨known, untaken⟩ => ?_⟩
      rcases (given_or_found owns (id, sc)).mp known with stored | ⟨sp, taken⟩
      · obtain ⟨entry, member, same⟩ := List.mem_map.mp stored
        exact absurd (congrArg Prod.fst same) (absent entry member)
      · exact absurd taken (untaken sp sc)
  | @found front back c context nodes map split chain =>
      have stored : (id, context) ∈ given entries := by
        simp [split, given]
      have known := (given_or_found owns (id, context)).mpr (Or.inl stored)
      constructor
      · intro same
        obtain rfl := Option.some.inj same
        exact ⟨known, fun sp sc' => once sp context sc' stored⟩
      · intro ⟨member, _⟩
        rw [unique context sc known member]

/-- The main thread never gets stuck: inside accept the locked block ends, and a
lookup with any id returns. -/
theorem main_advances (owns : Owns past system waiting entries) (capacity : Nat) :
    (∀ node, system.main = .accepting → system.ctx.nodes node = none →
      ∃ result after, Step capacity system (.accept result) after) ∧
    (∀ sp id, system.main = .idle → system.data sp = none →
      ∃ result after, Step capacity system (.lookup sp id result) after) := by
  constructor
  · intro node accepting unused
    rcases accept_deq_waiting owns.queue with ⟨_, empty⟩ | ⟨n, sc, rest, queue, _, _, deq⟩
    · exact ⟨none, _, Step.accept node unused accepting (by rw [acceptLocked, empty])⟩
    · exact ⟨_, _, Step.accept node unused accepting (by rw [acceptLocked, deq])⟩
  · intro sp id idle unattached
    obtain ⟨⟨result, ctx⟩, ⟨⟨fuel, took⟩, _⟩, _⟩ := map_take_yields id owns.map
    exact ⟨result, _, Step.lookup fuel sp id idle unattached took⟩

/-- An accept fails exactly on an empty queue. -/
theorem accept_result (owns : Owns past system waiting entries) {capacity : Nat}
    {result : Option (Int32 × Ptr)} {after : System}
    (step : Step capacity system (.accept result) after) : result = none ↔ waiting = [] := by
  cases step with
  | accept node unused accepting locked =>
      rcases accept_deq_waiting owns.queue with ⟨none, empty⟩ | ⟨n, sc, rest, queue, split, _, deq⟩
      · simp only [acceptLocked, empty, Option.some.injEq, Prod.mk.injEq] at locked
        simp [none, ← locked.1]
      · simp only [acceptLocked, deq, Option.some.injEq, Prod.mk.injEq] at locked
        simp [split, ← locked.1]

end Results

/-- What every interleaving keeps, `waiting` being the accept queue and
`entries` the id map. -/
structure Ownership (capacity : Nat) (past : List Event) (system : System) (waiting : Waiting)
    (entries : Entries) : Prop where
  queue : Chain system.ctx.accept.heap system.ctx.accept.head waiting
  tail : system.ctx.accept.tail = (waiting.map Prod.fst).getLast?
  tail_none : system.ctx.accept.tail = none ↔ system.ctx.accept.head = none
  map : Chain system.ctx.nodes system.ctx.map entries
  distinct : (created past).Nodup
  /-- Every context is in one place; only a running call holds one in a local. -/
  located : (waiting.map Prod.snd ++ (given entries).map Prod.snd ++
    (attachments past).map Prod.snd ++ held system.main).Perm (created past)
  data : ∀ sp sc, system.data sp = some sc ↔ (sp, sc) ∈ attachments past
  single : ((attachments past).map Prod.fst).Nodup
  positive : ∀ pair ∈ handed past, 0 < pair.1.toInt
  identified : ((handed past).map Prod.fst).Nodup
  /-- Peer streams leave the queue in arrival order, and none is skipped. -/
  order : arrived past = (accepted past).map Prod.snd ++ waiting.map Prod.snd
  accepts : ∀ result after, Step capacity system (.accept result) after →
    (result = none ↔ waiting = [])
  /-- A lookup finds the context that was given the id, unless it was taken before. -/
  lookups : ∀ sp id result after, Step capacity system (.lookup sp id result) after → ∀ sc,
    result = some sc ↔ (id, sc) ∈ handed past ∧ ∀ sp' sc', (sp', id, sc') ∉ found past
  attaches : (found past).map (fun taken => (taken.1, taken.2.2)) =
    attachments past ++ attaching system.main
  acceptEnds : ∀ node, system.main = .accepting → system.ctx.nodes node = none →
    ∃ result after, Step capacity system (.accept result) after
  lookupEnds : ∀ sp id, system.main = .idle → system.data sp = none →
    ∃ result after, Step capacity system (.lookup sp id result) after

/-- Ownership and identity of stream contexts, over every interleaving of peer
streams with the calls of the main thread. -/
theorem stream_ownership (capacity : Nat) (past : List Event) (system : System)
    (run : Run (Step capacity) fresh past system) (few : (created past).length < 2 ^ 31) :
    ∃ waiting entries, Ownership capacity past system waiting entries := by
  obtain ⟨waiting, entries, owns⟩ :=
    run.invariant (fun past system => ∃ waiting entries, Owns past system waiting entries)
      ⟨[], [], fresh_owns⟩ fun past before event after ⟨_, _, owns⟩ step => step_owns owns step
  obtain ⟨positive, identified⟩ := handed_ids owns few
  obtain ⟨acceptEnds, lookupEnds⟩ := main_advances owns capacity
  have single := owns.single
  rw [List.map_append, List.nodup_append] at single
  refine ⟨waiting, entries, ?_⟩
  constructor
  case queue => exact owns.queue.chain
  case tail => exact owns.queue.tail
  case tail_none => exact owns.queue.tail_none_iff
  case map => exact owns.map
  case distinct => exact owns.distinct
  case located => exact owns.located
  case data => exact owns.data
  case single => exact single.1
  case positive => exact positive
  case identified => exact identified
  case order => exact owns.order
  case accepts => exact fun result after step => accept_result owns step
  case lookups =>
    intro sp id result after step
    cases step with
    | lookup fuel _ _ idle unattached took => exact lookup_result owns few took
  case attaches => exact owns.follows
  case acceptEnds => exact acceptEnds
  case lookupEnds => exact lookupEnds

/-- One peer stream is accepted as id 1 and attached. -/
theorem stream_ownership_sample :
    ∃ system waiting entries, Ownership 4096
      [.peerStreamStarted 7, .acceptRead, .accept (some (1, 7)), .lookup 3 1 (some 7), .attach 3 7]
      system waiting entries := by
  have started := Run.next _ (Run.start : Run (Step 4096) fresh [] _)
    (Step.peerStreamStarted 7 20 (by decide) rfl rfl)
  have read := Run.next _ started (Step.acceptRead rfl)
  have accepted := Run.next (.accept (some (1, 7))) read (Step.accept 30 rfl rfl rfl)
  have found := Run.next (.lookup 3 1 (some 7)) accepted (Step.lookup 2 3 1 rfl rfl rfl)
  have attached := Run.next _ found (Step.attach rfl)
  exact ⟨_, stream_ownership 4096 _ _ attached (by decide)⟩

end Iperf.QuicOwnership
