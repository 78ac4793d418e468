import Mathlib.Data.List.Nodup
import Iperf.Transition
import Iperf.QuicHandles

/-!
Which runs use a stream handle after it was closed. Every context in reach is
allocated and held in one place (`Located`), and what the code itself closes has
no holder left (`Handled`). Two closes leave one: that of the SHUTDOWN_COMPLETE
callback, which keeps the handle in `sc->stream`, and that of a cleanup beside
the stream's own sender. A run without such a step (`Careful`) uses no handle
after its close.
-/

namespace Iperf.QuicLifecycle

open LinkedQueue QuicHandles Transition

section Definitions

/-- Calls that pass a stream handle: the callback and a refused open pass the
handle they were given. -/
def touches : Event → Option HQUIC
  | .streamSend h | .streamShutdown h | .streamClose h => some h
  | .shutdownComplete h false | .openRefused h => some h
  | _ => none

def closes : Event → Option HQUIC
  | .streamClose h | .openRefused h | .shutdownComplete h false => some h
  | _ => none

/-- No handle is passed to MsQuic after it was closed. -/
def WellUsed : List Event → Prop :=
  Each fun front event => ∀ h, touches event = some h → ∀ earlier ∈ front, closes earlier ≠ some h

def Holds (scs : Ptr → Option iperf_quic_stream_ctx) (sc : Ptr) (h : HQUIC) : Prop :=
  ∃ stream, scs sc = some stream ∧ stream.stream = some h

def queued : Option iperf_quic_context → List Ptr
  | none => []
  | some ctx => ctx.map.map Prod.snd ++ ctx.ahead

/-- The context in a local variable of the main thread; during a cleanup it is
still the one of its stream. -/
def held : Main → List Ptr
  | .opened sc | .started sc | .attaching _ sc => [sc]
  | .closing _ sc .connectFailed | .closing _ sc (.walk _) => [sc]
  | _ => []

def places (system : System) : List Ptr :=
  queued system.quic_ctx ++ held system.main ++ system.streams.map Prod.snd

/-- The local variable `sc` of a sender inside `iperf_quic_send`. -/
def context : Thread → Option Ptr
  | .absent | .ready => none
  | .entered sc | .slotted sc | .loaded sc _ => some sc

/-- Before the step: a callback closes no handle that a context in reach still
holds, and from the StreamClose of a stream's cleanup on (from its start, when
the test has no QUIC context left) the sender is not inside `iperf_quic_send`. -/
def Careful (system : System) : Event → Prop
  | .shutdownComplete h false => ∀ sc ∈ places system, ¬ Holds system.scs sc h
  | .cleanup sp => system.quic_ctx = none → context (system.threads sp) = none
  | .streamClose _ => ∀ sc sp, system.main = .closing .toClose sc (.cleanup sp) →
      context (system.threads sp) = none
  | .sendEnter sp => ∀ sc, system.main ≠ .closing .inClose sc (.cleanup sp)
  | _ => True

def CarefulStep (before : System) (event : Event) (after : System) : Prop :=
  Step before event after ∧ Careful before event

/-- The streams of the test, their sender threads and the calls about them. -/
structure Attached (streams : List (Ptr × Ptr)) (threads : Ptr → Thread) (main : Main) : Prop where
  keys : (streams.map Prod.fst).Nodup
  attaching : ∀ sp sc, main = .attaching sp sc → sp ∉ streams.map Prod.fst
  cleaning : ∀ stage sc sp, main = .closing stage sc (.cleanup sp) →
    (sp, sc) ∈ streams ∧ (stage = .inClose → context (threads sp) = none)
  working : ∀ sp sc, context (threads sp) = some sc → (sp, sc) ∈ streams

/-- Every context in reach is allocated, with its handle, and in one place. -/
structure Located (system : System) : Prop where
  distinct : (places system).Nodup
  live : ∀ sc ∈ places system, ∃ h, Holds system.scs sc h

/-- Contexts do not share handles, and a closed handle is held in reach by nobody
but the call that is closing it. -/
structure Handled (past : List Event) (system : System) : Prop where
  injective : ∀ sc sc' h, Holds system.scs sc h → Holds system.scs sc' h → sc = sc'
  known : ∀ sc h, Holds system.scs sc h → system.handles h ≠ none
  closed : ∀ event ∈ past, ∀ h, closes event = some h →
    ∃ handle, system.handles h = some handle ∧ handle.closed = true
  retired : ∀ event ∈ past, ∀ h, closes event = some h → ∀ sc ∈ places system,
    Holds system.scs sc h → ∃ after, system.main = .closing .inClose sc after

end Definitions

section Attachments
variable {before after : System} {event : Event}

/-- A main thread that neither attaches nor cleans up asks nothing of the streams. -/
def Neutral (main : Main) : Prop :=
  (∀ sp sc, main ≠ .attaching sp sc) ∧ ∀ stage sc sp, main ≠ .closing stage sc (.cleanup sp)

theorem Attached.turn {streams : List (Ptr × Ptr)} {threads : Ptr → Thread} {main main' : Main}
    (attached : Attached streams threads main) (neutral : Neutral main') :
    Attached streams threads main' :=
  ⟨attached.keys, fun sp sc same => absurd same (neutral.1 sp sc),
    fun stage sc sp same => absurd same (neutral.2 stage sc sp), attached.working⟩

/-- A sender changes phase; it is outside where a cleanup is past its StreamClose. -/
theorem Attached.setThread {streams : List (Ptr × Ptr)} {threads : Ptr → Thread} {main : Main}
    (attached : Attached streams threads main) {sp : Ptr} {thread : Thread}
    (free : context thread = none ∨ context (threads sp) ≠ none ∨
      ∀ sc, main ≠ .closing .inClose sc (.cleanup sp))
    (work : ∀ sc, context thread = some sc → (sp, sc) ∈ streams) :
    Attached streams (Function.update threads sp thread) main := by
  refine ⟨attached.keys, attached.attaching, ?_, ?_⟩
  · intro stage sc cleaned closing
    obtain ⟨member, outside⟩ := attached.cleaning stage sc cleaned closing
    refine ⟨member, fun last => ?_⟩
    by_cases same : cleaned = sp
    · subst same
      rw [Function.update_self]
      rcases free with out | inside | elsewhere
      · exact out
      · exact absurd (outside last) inside
      · exact absurd (last ▸ closing) (elsewhere sc)
    · rw [Function.update_of_ne same]
      exact outside last
  · intro other sc inside
    by_cases same : other = sp
    · subst same
      rw [Function.update_self] at inside
      exact work sc inside
    · rw [Function.update_of_ne same] at inside
      exact attached.working other sc inside

/-- A sender already inside stays with its context. -/
theorem Attached.stay {streams : List (Ptr × Ptr)} {threads : Ptr → Thread} {main : Main}
    (attached : Attached streams threads main) {sp sc : Ptr} {thread : Thread}
    (inside : context (threads sp) = some sc) (same : context thread = some sc) :
    Attached streams (Function.update threads sp thread) main := by
  apply attached.setThread (Or.inr (Or.inl (by simp [inside])))
  intro context' found
  obtain rfl := Option.some.inj (same.symm.trans found)
  exact attached.working sp _ inside

theorem Attached.add {streams : List (Ptr × Ptr)} {threads : Ptr → Thread} {sp sc : Ptr}
    (attached : Attached streams threads (.attaching sp sc)) :
    Attached ((sp, sc) :: streams) threads .idle := by
  refine ⟨?_, by simp, by simp, ?_⟩
  · rw [List.map_cons, List.nodup_cons]
    exact ⟨attached.attaching sp sc rfl, attached.keys⟩
  · exact fun other context inside =>
      List.mem_cons_of_mem _ (attached.working other context inside)

theorem Attached.remove {streams : List (Ptr × Ptr)} {threads : Ptr → Thread} {main : Main}
    (attached : Attached streams threads main) {sp : Ptr} (outside : context (threads sp) = none) :
    Attached (streams.filter fun stream => stream.1 ≠ sp) threads .idle := by
  refine ⟨?_, by simp, by simp, ?_⟩
  · exact List.Nodup.sublist (List.Sublist.map _ List.filter_sublist) attached.keys
  · intro other sc inside
    refine List.mem_filter.mpr ⟨attached.working other sc inside, ?_⟩
    have apart : other ≠ sp := by
      intro same
      rw [same, outside] at inside
      cases inside
    simpa using apart

theorem Attached.release (system : System)
    (attached : Attached system.streams system.threads system.main) (sc : Ptr) (next : After)
    (outside : ∀ sp, next = .cleanup sp → context (system.threads sp) = none) :
    Attached (release system sc next).streams (release system sc next).threads
      (release system sc next).main := by
  cases next with
  | connectFailed => exact attached.turn ⟨by simp [QuicHandles.release, atStep], by
      simp [QuicHandles.release, atStep]⟩
  | cleanup sp => exact attached.remove (outside sp rfl)
  | walk last =>
      apply attached.turn
      cases last <;> exact ⟨by simp [QuicHandles.release, atStep], by
        simp [QuicHandles.release, atStep]⟩

theorem Attached.starts {streams : List (Ptr × Ptr)} {threads : Ptr → Thread} {main : Main}
    (attached : Attached streams threads main) (sc : Ptr) (next : After)
    (ofStream : ∀ sp, next = .cleanup sp → (sp, sc) ∈ streams) :
    Attached streams threads (.closing .toShutdown sc next) := by
  refine ⟨attached.keys, nofun, ?_, attached.working⟩
  intro stage context sp same
  obtain ⟨rfl, rfl, last⟩ := Main.closing.inj same
  exact ⟨ofStream sp last, nofun⟩

end Attachments

section Holders
variable {system : System} {sc sc' : Ptr} {h h' : HQUIC}

/-- Callbacks and the throttle leave `sc->stream` alone. -/
theorem holds_update {scs : Ptr → Option iperf_quic_stream_ctx} (changed : Ptr)
    {change : iperf_quic_stream_ctx → iperf_quic_stream_ctx}
    (same : ∀ stream, (change stream).stream = stream.stream) :
    Holds (Function.update scs changed ((scs changed).map change)) sc h ↔ Holds scs sc h := by
  unfold Holds
  by_cases here : sc = changed
  · subst here
    simp only [Function.update_self, Option.map_eq_some_iff]
    constructor
    · rintro ⟨_, ⟨stream, stored, rfl⟩, reads⟩
      exact ⟨stream, stored, (same stream) ▸ reads⟩
    · rintro ⟨stream, stored, reads⟩
      exact ⟨_, ⟨stream, stored, rfl⟩, (same stream).trans reads⟩
  · simp [Function.update_of_ne here]

theorem holds_newContext (started : Bool) :
    Holds (newContext system sc h started).scs sc' h' ↔
      (sc' = sc ∧ h' = h) ∨ (sc' ≠ sc ∧ Holds system.scs sc' h') := by
  unfold Holds newContext
  by_cases here : sc' = sc
  · subst here
    simp [eq_comm]
  · simp [here]

theorem holds_release (after : After) :
    Holds (release system sc after).scs sc' h' ↔ sc' ≠ sc ∧ Holds system.scs sc' h' := by
  unfold Holds release
  by_cases here : sc' = sc
  · subst here
    simp
  · simp [here]

end Holders

section Locations
variable {before after : System} {event : Event}

/-- The context that a step makes. -/
def made : Event → Option Ptr
  | .peerStreamStarted sc _ | .streamOpen sc _ => some sc
  | _ => none

theorem held_single {main : Main} {sc : Ptr} (mine : sc ∈ held main) : held main = [sc] := by
  unfold held at mine ⊢
  split <;> simp_all

theorem held_atStep (next : After) : held (atStep next) = [] := by
  cases next with
  | walk last => cases last <;> rfl
  | _ => rfl

theorem count_removed (streams : List (Ptr × Ptr)) (sp sc other : Ptr)
    (member : (sp, sc) ∈ streams) :
    ((streams.filter fun stream => stream.1 ≠ sp).map Prod.snd).count other +
      [sc].count other ≤ (streams.map Prod.snd).count other := by
  induction streams with
  | nil => simp at member
  | cons stream rest ih =>
      have fewer : ((rest.filter fun stream => stream.1 ≠ sp).map Prod.snd).count other ≤
          (rest.map Prod.snd).count other :=
        (List.filter_sublist.map Prod.snd).count_le other
      simp only [List.filter_cons, List.map_cons, List.count_cons, List.count_nil] at ih ⊢
      rcases List.mem_cons.mp member with same | later
      · subst same
        simp only [ne_eq, not_true_eq_false, decide_false, Bool.false_eq_true, if_false] at fewer ⊢
        omega
      · have tail := ih later
        split
        · simp only [List.map_cons, List.count_cons]
          omega
        · omega

/-- The context of a free is in the hands of the main thread, or is the one of
the stream being cleaned up; its place goes with it. -/
theorem Located.release (located : Located before) {sc : Ptr} {next : After}
    (inHand : (∀ sp, next ≠ .cleanup sp) → sc ∈ held before.main)
    (ofStream : ∀ sp, next = .cleanup sp → (sp, sc) ∈ before.streams) :
    ∀ other ∈ places (release before sc next), ∀ h, Holds before.scs other h →
      Holds (release before sc next).scs other h := by
  -- Places are counted with multiplicity; the freed context loses the one it had.
  have once := List.nodup_iff_count_le_one.mp located.distinct
  have fewer : ∀ other, (places (QuicHandles.release before sc next)).count other +
      [sc].count other ≤ (places before).count other := by
    intro other
    cases next with
    | cleanup sp =>
        have smaller := count_removed before.streams sp sc other (ofStream sp rfl)
        simp only [places, QuicHandles.release, atStep, held, List.count_append, List.count_nil]
        omega
    | connectFailed =>
        have mine := held_single (inHand nofun)
        simp only [places, QuicHandles.release, held_atStep, mine, List.count_append,
          List.count_nil]
        omega
    | walk last =>
        have mine := held_single (inHand nofun)
        have dropped : (queued (QuicHandles.release before sc (.walk last)).quic_ctx).count other ≤
            (queued before.quic_ctx).count other := by
          cases last with
          | false => exact Nat.le_refl _
          | true => cases ctx : before.quic_ctx <;> simp [QuicHandles.release, ctx, queued]
        simp only [places, held_atStep, mine, List.count_append, QuicHandles.release,
          List.count_nil] at dropped ⊢
        omega
  intro other member h holds
  refine (holds_release next).mpr ⟨fun same => ?_, holds⟩
  have gone := fewer other
  have single := once other
  have present := List.count_pos_iff.mpr member
  rw [same, List.count_singleton_self] at gone
  rw [same] at present single
  omega

/-- A context in reach is never closed through NULL: its close starts the calls. -/
theorem closeContext_starts {system : System} {sc : Ptr} {stream : iperf_quic_stream_ctx}
    (located : Located system) (member : sc ∈ places system)
    (stored : system.scs sc = some stream) (base : System) (next : After) :
    closeContext base stream.stream sc next =
      { base with main := .closing .toShutdown sc next } := by
  obtain ⟨h, holder, kept, reads⟩ := located.live sc member
  obtain rfl := Option.some.inj (stored.symm.trans kept)
  rw [reads]
  rfl

theorem closeContext_threads (system : System) (stream : Option HQUIC) (sc : Ptr) (next : After) :
    (closeContext system stream sc next).threads = system.threads := by
  cases stream with
  | none => rfl
  | some h => rfl

theorem release_fewer (system : System) (sc other : Ptr) (next : After) :
    (places (QuicHandles.release system sc next)).count other ≤ (places system).count other := by
  have streams : ∀ sp, ((system.streams.filter fun stream => stream.1 ≠ sp).map Prod.snd).count
      other ≤ (system.streams.map Prod.snd).count other := fun sp =>
    (List.filter_sublist.map Prod.snd).count_le other
  cases next with
  | connectFailed =>
      simp only [places, QuicHandles.release, held_atStep, List.count_append, List.count_nil]
      omega
  | cleanup sp =>
      have smaller := streams sp
      simp only [places, QuicHandles.release, held_atStep, List.count_append, List.count_nil]
      omega
  | walk last =>
      have dropped : (queued (QuicHandles.release system sc (.walk last)).quic_ctx).count other ≤
          (queued system.quic_ctx).count other := by
        cases last with
        | false => exact Nat.le_refl _
        | true => cases ctx : system.quic_ctx <;> simp [QuicHandles.release, ctx, queued]
      simp only [places, held_atStep, List.count_append, QuicHandles.release, List.count_nil]
        at dropped ⊢
      omega

/-- A step keeps contexts in reach or lets go of them; it adds only the one it
makes. -/
theorem step_fewer (located : Located before) (step : Step before event after) (other : Ptr) :
    (places after).count other ≤
      (places before).count other + (made event).toList.count other := by
  cases step with
  | ctxInit idle none => simp [places, queued, none, made]
  | peerStreamStarted sc h queues live unused fresh =>
      cases queues <;>
        simp only [places, newContext, live, queued, made, Option.toList_some, if_true,
          List.count_append, Bool.false_eq_true, if_false] <;> omega
  | streamOpen sc h idle live unused fresh =>
      simp only [places, newContext, idle, held, made, Option.toList_some, List.count_append,
        List.count_nil]
      omega
  | streamStart h opened stored reads known => simp [places, setHandle, opened, held]
  | streamStartFailed opened stored =>
      rw [closeContext_starts located (by simp [places, opened, held]) stored]
      simp [places, opened, held]
  | connect mapped started live =>
      cases mapped <;>
        simp only [places, live, queued, identify, started, held, List.count_append, List.map_cons,
          List.count_cons, List.count_nil, if_true, Bool.false_eq_true, if_false] <;> omega
  | accept mapped idle live waiting =>
      cases mapped <;>
        simp only [places, live, queued, identify, waiting, List.count_append, List.map_cons,
          List.count_cons, if_true, Bool.false_eq_true, if_false] <;> omega
  | lookup sp id idle live found first unattached =>
      simp only [places, live, queued, found, idle, held, List.count_append, List.map_append,
        List.map_cons, List.count_cons, List.count_nil]
      omega
  | attach attaching =>
      simp only [places, attaching, held, List.count_append, List.map_cons, List.count_cons,
        List.count_nil]
      omega
  | cleanup sp idle member stored =>
      split
      · exact Nat.le_trans (release_fewer before _ other _) (Nat.le_add_right _ _)
      · -- The stream keeps its context in `sp->data` until the close has returned.
        have here := List.mem_map_of_mem (f := Prod.snd) member
        rw [closeContext_starts located (by simp [places, here]) stored]
        simp [places, idle, held]
  | freeTest idle live => simp [places, idle, held]
  | walkMap walking live node stored =>
      rw [closeContext_starts located (by simp [places, live, queued, node]) stored]
      simp only [places, live, queued, node, walking, held, List.count_append, List.map_cons,
        List.count_cons, List.count_nil]
      omega
  | walkAccept walking live mapped node stored =>
      rw [closeContext_starts located (by simp [places, live, queued, node]) stored]
      simp only [places, live, queued, node, walking, held, List.count_append, List.count_cons,
        List.count_nil]
      omega
  | walkEnd walking live mapped queues => simp [places, walking, held]
  | @streamShutdown sc next stream h closing stored reads =>
      cases next <;> simp [places, closing, held]
  | @streamClose sc next stream h handle closing stored reads known =>
      cases next <;> simp [places, setHandle, closing, held]
  | @closeReturn sc next stream h handle closing stored reads known =>
      refine Nat.le_trans (release_fewer _ sc other next) (Nat.le_add_right _ _)
  | freeEnd finishing =>
      simp only [places, queued, finishing, held, List.count_append, List.count_nil]
      omega
  | _ => exact Nat.le_add_right _ _

theorem step_stays (located : Located before) (step : Step before event after) {sc : Ptr}
    (member : sc ∈ places after) (old : made event ≠ some sc) : sc ∈ places before := by
  have positive := Nat.lt_of_lt_of_le (List.count_pos_iff.mpr member) (step_fewer located step sc)
  have none : (made event).toList.count sc = 0 := by
    cases making : made event with
    | none => rfl
    | some new =>
        rw [making] at old
        have apart : new ≠ sc := fun same => old (congrArg some same)
        simp [apart]
  rw [none] at positive
  exact List.count_pos_iff.mp positive

theorem step_reach (located : Located before) (step : Step before event after)
    (none : made event = none) : ∀ sc ∈ places after, sc ∈ places before :=
  fun _ member => step_stays located step member (by simp [none])

/-- A context that stays in reach keeps its handle. -/
theorem step_kept (located : Located before)
    (attached : Attached before.streams before.threads before.main)
    (step : Step before event after) :
    ∀ sc ∈ places after, ∀ h, Holds before.scs sc h → Holds after.scs sc h := by
  have away : ∀ {sc other : Ptr} {h' : HQUIC}, before.scs sc = none → Holds before.scs other h' →
      other ≠ sc := by
    rintro sc other h' unused ⟨stream, stored, _⟩ rfl
    rw [unused] at stored
    cases stored
  cases step with
  | peerStreamStarted sc h queues live unused fresh =>
      exact fun other _ h' holds =>
        (holds_newContext true).mpr (Or.inr ⟨away unused holds, holds⟩)
  | streamOpen sc h idle live unused fresh =>
      exact fun other _ h' holds =>
        (holds_newContext false).mpr (Or.inr ⟨away unused holds, holds⟩)
  | sendComplete | peerSendShutdown | sendSlot | shutdownClosing | shutdownInClose =>
      refine fun _ _ _ holds => (holds_update _ ?_).mpr holds
      exact fun _ => rfl
  | streamStartFailed opened stored =>
      rw [closeContext_starts located (by simp [places, opened, held]) stored]
      exact fun _ _ _ holds => holds
  | cleanup sp idle member stored =>
      split
      · exact located.release (fun other => absurd rfl (other sp)) fun other same =>
          After.cleanup.inj same ▸ member
      · have here := List.mem_map_of_mem (f := Prod.snd) member
        rw [closeContext_starts located (by simp [places, here]) stored]
        exact fun _ _ _ holds => holds
  | walkMap walking live node stored =>
      rw [closeContext_starts located (by simp [places, live, queued, node]) stored]
      exact fun _ _ _ holds => holds
  | walkAccept walking live mapped node stored =>
      rw [closeContext_starts located (by simp [places, live, queued, node]) stored]
      exact fun _ _ _ holds => holds
  | @closeReturn sc next stream h handle closing stored reads known =>
      have kept : Located (setHandle before h { handle with returned := true }) :=
        ⟨located.distinct, located.live⟩
      refine kept.release (fun other => ?_) fun sp same => ?_
      · cases next with
        | cleanup sp => exact absurd rfl (other sp)
        | _ => simp [setHandle, closing, held]
      · exact (attached.cleaning _ _ sp (same ▸ closing)).1
  | _ => exact fun _ _ _ holds => holds

theorem step_made {sc : Ptr} (step : Step before event after) (mine : made event = some sc) :
    before.scs sc = none ∧ ∃ h, Holds after.scs sc h := by
  cases step with
  | peerStreamStarted new h queues live unused fresh =>
      obtain rfl := Option.some.inj mine
      exact ⟨unused, h, (holds_newContext true).mpr (Or.inl ⟨rfl, rfl⟩)⟩
  | streamOpen new h idle live unused fresh =>
      obtain rfl := Option.some.inj mine
      exact ⟨unused, h, (holds_newContext false).mpr (Or.inl ⟨rfl, rfl⟩)⟩
  | _ => cases mine

theorem step_located (located : Located before)
    (attached : Attached before.streams before.threads before.main)
    (step : Step before event after) : Located after := by
  have once := List.nodup_iff_count_le_one.mp located.distinct
  have fewer := step_fewer located step
  -- The context that is made was in no place before.
  have absent : ∀ sc, made event = some sc → (places before).count sc = 0 := by
    intro sc mine
    refine List.count_eq_zero_of_not_mem fun member => ?_
    obtain ⟨_, stream, stored, _⟩ := located.live sc member
    rw [(step_made step mine).1] at stored
    cases stored
  constructor
  · refine List.nodup_iff_count_le_one.mpr fun other => Nat.le_trans (fewer other) ?_
    cases making : made event with
    | none => simpa using once other
    | some sc =>
        by_cases same : other = sc
        · subst same
          simp [absent other making]
        · simpa [List.count_singleton, Ne.symm same] using once other
  · intro other member
    by_cases mine : made event = some other
    · exact (step_made step mine).2
    · obtain ⟨h, holds⟩ := located.live other (step_stays located step member mine)
      exact ⟨h, step_kept located attached step other member h holds⟩

theorem step_attached (attached : Attached before.streams before.threads before.main)
    (located : Located before) (step : Step before event after) (careful : Careful before event) :
    Attached after.streams after.threads after.main := by
  cases step with
  | streamOpen | streamStart | connect | freeTest | walkEnd | freeEnd =>
      exact attached.turn ⟨nofun, nofun⟩
  | accept | openRefused | ctxInit | peerStreamStarted | receive | sendComplete
  | peerSendShutdown | shutdownClosing | shutdownInClose => exact attached
  | streamStartFailed opened stored =>
      rw [closeContext_starts located (by simp [places, opened, held]) stored]
      exact attached.starts _ _ nofun
  | lookup sp id idle live found first unattached =>
      refine ⟨attached.keys, ?_, nofun, attached.working⟩
      intro stream sc same
      obtain ⟨rfl, rfl⟩ := same
      exact unattached
  | attach attaching =>
      rw [attaching] at attached
      exact attached.add
  | spawn sp idle member absent => exact attached.setThread (Or.inl rfl) nofun
  | join sp idle ready => exact attached.setThread (Or.inl rfl) nofun
  | sendEnter sp ready member live =>
      apply attached.setThread (Or.inr (Or.inr careful))
      intro sc same
      obtain rfl := Option.some.inj same
      exact member
  | sendLeave | streamSend => exact attached.setThread (Or.inl rfl) nofun
  | sendSlot sp entered stored runs room => exact attached.stay (by rw [entered]; rfl) rfl
  | sendSlotFreed sp entered freed => exact attached.stay (by rw [entered]; rfl) rfl
  | sendLoad sp slotted stored reads => exact attached.stay (by rw [slotted]; rfl) rfl
  | sendLoadFreed sp h slotted freed => exact attached.stay (by rw [slotted]; rfl) rfl
  | cleanup sp idle member stored =>
      split
      · rename_i gone
        exact attached.release _ _ _ fun other same => After.cleanup.inj same ▸ careful gone
      · have here := List.mem_map_of_mem (f := Prod.snd) member
        rw [closeContext_starts located (by simp [places, here]) stored]
        exact attached.starts _ _ fun other same => After.cleanup.inj same ▸ member
  | walkMap walking live node stored =>
      rw [closeContext_starts located (by simp [places, live, queued, node]) stored]
      exact attached.starts _ _ nofun
  | walkAccept walking live mapped node stored =>
      rw [closeContext_starts located (by simp [places, live, queued, node]) stored]
      exact attached.starts _ _ nofun
  | streamShutdown closing stored reads =>
      refine ⟨attached.keys, nofun, ?_, attached.working⟩
      intro stage sc sp same
      obtain ⟨rfl, rfl, rfl⟩ := Main.closing.inj same
      exact ⟨(attached.cleaning _ _ _ closing).1, nofun⟩
  | streamClose closing stored reads known =>
      refine ⟨attached.keys, nofun, ?_, attached.working⟩
      intro stage sc sp same
      obtain ⟨rfl, rfl, rfl⟩ := Main.closing.inj same
      exact ⟨(attached.cleaning _ _ _ closing).1, fun _ => careful _ _ closing⟩
  | closeReturn closing stored reads known =>
      refine attached.release (setHandle before _ _) _ _ fun sp same => ?_
      exact (attached.cleaning _ _ sp (same ▸ closing)).2 rfl

end Locations

section Handles
variable {past : List Event} {before after : System} {event : Event}

/-- A step that makes no context keeps the account if what it closes is closed,
and what it or the running close retires has no other holder in reach. -/
theorem Handled.frame (handled : Handled past before)
    (reach : ∀ sc ∈ places after, sc ∈ places before)
    (holds : ∀ sc h, Holds after.scs sc h → Holds before.scs sc h)
    (handles : ∀ h handle, before.handles h = some handle →
      ∃ handle', after.handles h = some handle' ∧ (handle.closed = true → handle'.closed = true))
    (main : ∀ sc next, before.main = .closing .inClose sc next →
      (∀ h, ¬ Holds after.scs sc h) ∨ ∃ next', after.main = .closing .inClose sc next')
    (last : ∀ h, closes event = some h →
      (∃ handle, after.handles h = some handle ∧ handle.closed = true) ∧
      ∀ sc ∈ places after, Holds after.scs sc h → ∃ next, after.main = .closing .inClose sc next) :
    Handled (past ++ [event]) after := by
  constructor
  · exact fun sc sc' h left right =>
      handled.injective sc sc' h (holds sc h left) (holds sc' h right)
  · intro sc h holder
    cases known : before.handles h with
    | none => exact absurd known (handled.known sc h (holds sc h holder))
    | some handle =>
        obtain ⟨handle', stored, _⟩ := handles h handle known
        simp [stored]
  · intro earlier member h closing
    rcases List.mem_append.mp member with before | now
    · obtain ⟨handle, known, closed⟩ := handled.closed earlier before h closing
      obtain ⟨handle', stored, keeps⟩ := handles h handle known
      exact ⟨handle', stored, keeps closed⟩
    · rw [List.mem_singleton.mp now] at closing
      exact (last h closing).1
  · intro earlier member h closing sc here holder
    rcases List.mem_append.mp member with before | now
    · obtain ⟨next, running⟩ :=
        handled.retired earlier before h closing sc (reach sc here) (holds sc h holder)
      rcases main sc next running with gone | still
      · exact absurd holder (gone h)
      · exact still
    · rw [List.mem_singleton.mp now] at closing
      exact (last h closing).2 sc here holder

theorem handles_same {handles : HQUIC → Option Handle} (h : HQUIC) (handle : Handle)
    (known : handles h = some handle) :
    ∃ handle', handles h = some handle' ∧ (handle.closed = true → handle'.closed = true) :=
  ⟨handle, known, id⟩

theorem setHandle_self (system : System) (h : HQUIC) (handle : Handle) :
    (setHandle system h handle).handles h = some handle :=
  Function.update_self _ _ _

theorem setHandle_grows {system : System} {h : HQUIC} {handle : Handle}
    (closed : ∀ old, system.handles h = some old → old.closed = true → handle.closed = true)
    (other : HQUIC) (old : Handle) (known : system.handles other = some old) :
    ∃ handle', (setHandle system h handle).handles other = some handle' ∧
      (old.closed = true → handle'.closed = true) := by
  by_cases same : other = h
  · subst same
    exact ⟨handle, by simp [setHandle], closed old known⟩
  · exact ⟨old, by simp [setHandle, Function.update_of_ne same, known], id⟩

theorem Handled.grow (handled : Handled past before) {sc : Ptr} {h : HQUIC} (started : Bool)
    (fresh : before.handles h = none) (none : closes event = none)
    (reach : ∀ other ∈ places after, other ∈ places before ∨ other = sc)
    (main : ∀ context next, before.main = .closing .inClose context next →
      after.main = .closing .inClose context next)
    (scs : after.scs = (newContext before sc h started).scs)
    (handles : after.handles = (newContext before sc h started).handles) :
    Handled (past ++ [event]) after := by
  have apart : ∀ other h', Holds before.scs other h' → h' ≠ h := by
    intro other h' holder same
    exact handled.known other h' holder (same ▸ fresh)
  constructor
  · intro left right h' first second
    rw [scs] at first second
    rcases (holds_newContext started).mp first with ⟨rfl, rfl⟩ | ⟨_, old⟩
    · rcases (holds_newContext started).mp second with ⟨rfl, _⟩ | ⟨_, old'⟩
      · rfl
      · exact absurd rfl (apart _ _ old')
    · rcases (holds_newContext started).mp second with ⟨rfl, rfl⟩ | ⟨_, old'⟩
      · exact absurd rfl (apart _ _ old)
      · exact handled.injective left right h' old old'
  · intro other h' holder
    rw [scs] at holder
    rw [handles]
    rcases (holds_newContext started).mp holder with ⟨_, rfl⟩ | ⟨_, old⟩
    · simp [newContext]
    · simpa [newContext, Function.update_of_ne (apart other h' old)]
        using handled.known other h' old
  · intro earlier member h' closing
    rcases List.mem_append.mp member with before | now
    · obtain ⟨handle, known, closed⟩ := handled.closed earlier before h' closing
      have distinct : h' ≠ h := by
        intro same
        rw [same, fresh] at known
        cases known
      exact ⟨handle, by simpa [handles, newContext, Function.update_of_ne distinct] using known,
        closed⟩
    · rw [List.mem_singleton.mp now, none] at closing
      cases closing
  · intro earlier member h' closing other here holder
    rcases List.mem_append.mp member with past | now
    · rw [scs] at holder
      rcases (holds_newContext started).mp holder with ⟨_, rfl⟩ | ⟨new, old⟩
      · obtain ⟨handle, known, _⟩ := handled.closed earlier past h' closing
        rw [fresh] at known
        cases known
      · have there := (reach other here).resolve_right new
        obtain ⟨next, running⟩ := handled.retired earlier past h' closing other there old
        exact ⟨next, main other next running⟩
    · rw [List.mem_singleton.mp now, none] at closing
      cases closing

/-- Steps that leave handles and contexts as they are and close nothing. -/
theorem Handled.turn (handled : Handled past before)
    (reach : ∀ sc ∈ places after, sc ∈ places before)
    (holds : ∀ sc h, Holds after.scs sc h → Holds before.scs sc h)
    (handles : after.handles = before.handles)
    (main : ∀ sc next, before.main = .closing .inClose sc next →
      after.main = .closing .inClose sc next)
    (none : closes event = none) : Handled (past ++ [event]) after := by
  refine handled.frame reach holds ?_ (fun sc next same => Or.inr ⟨next, main sc next same⟩) ?_
  · rw [handles]
    exact handles_same
  · exact fun h same => absurd (none.symm.trans same) nofun

theorem step_handled (handled : Handled past before) (located : Located before)
    (step : Step before event after) (careful : Careful before event) :
    Handled (past ++ [event]) after := by
  -- Away from a running close there is no exception to carry over.
  have elsewhere : ∀ {main : Main}, before.main = main →
      (∀ sc next, main ≠ .closing .inClose sc next) →
      ∀ {P : Ptr → After → Prop} sc next, before.main = .closing .inClose sc next → P sc next := by
    intro main here apart P sc next closing
    exact absurd (here.symm.trans closing) (apart sc next)
  have reach := step_reach located step
  have grown : ∀ other ∈ places after, ∀ sc, made event = some sc →
      other ∈ places before ∨ other = sc := by
    intro other here sc making
    by_cases same : sc = other
    · exact Or.inr same.symm
    · exact Or.inl (step_stays located step here (by simp [making, same]))
  cases step with
  | ctxInit idle | accept mapped idle | lookup sp id idle | freeTest idle =>
      exact handled.turn (reach rfl) (fun _ _ holds => holds) rfl (elsewhere idle nofun) rfl
  | peerStreamStarted sc h queues live unused fresh =>
      exact handled.grow true fresh rfl (fun other here => grown other here sc rfl)
        (fun _ _ same => same) rfl rfl
  | receive | spawn | join | sendEnter | sendLeave | sendSlotFreed | sendLoad | sendLoadFreed
  | streamSend =>
      exact handled.turn (reach rfl) (fun _ _ holds => holds) rfl (fun _ _ same => same) rfl
  | sendComplete | peerSendShutdown | sendSlot =>
      refine handled.turn (reach rfl) (fun _ _ holds => (holds_update _ ?_).mp holds) rfl
        (fun _ _ same => same) rfl
      exact fun _ => rfl
  | @shutdownClosing handle h known started once unclosed =>
      have kept : ∀ sc h', Holds (onContext before handle.context fun sc =>
          { sc with fin := true }).scs sc h' → Holds before.scs sc h' := by
        refine fun _ _ holds => (holds_update _ ?_).mp holds
        exact fun _ => rfl
      refine handled.frame (reach rfl) kept (setHandle_grows fun _ _ _ => rfl)
        (fun _ next same => Or.inr ⟨next, same⟩) fun h' same => ?_
      obtain rfl := Option.some.inj same
      exact ⟨⟨_, setHandle_self _ _ _, rfl⟩, fun sc here holder =>
        absurd (kept sc _ holder) (careful sc (reach rfl sc here))⟩
  | @shutdownInClose handle h known started once closed delivers =>
      refine handled.frame (reach rfl) (fun _ _ holds => (holds_update _ ?_).mp holds)
        (setHandle_grows fun _ _ _ => closed) (fun _ next same => Or.inr ⟨next, same⟩) nofun
      exact fun _ => rfl
  | streamOpen sc h idle live unused fresh =>
      exact handled.grow false fresh rfl (fun other here => grown other here sc rfl)
        (elsewhere idle nofun) rfl rfl
  | openRefused h idle live fresh =>
      refine handled.frame (reach rfl) (fun _ _ holds => holds) (setHandle_grows fun _ _ _ => rfl)
        (fun _ next same => Or.inr ⟨next, same⟩) fun h' same => ?_
      -- The handle was new, so no context can hold it.
      obtain rfl := Option.some.inj same
      exact ⟨⟨_, setHandle_self _ _ _, rfl⟩, fun sc _ holder =>
        absurd fresh (handled.known sc _ holder)⟩
  | @streamStart sc stream handle h opened stored reads known =>
      refine handled.frame (reach rfl) (fun _ _ holds => holds)
        (setHandle_grows fun old same closed => ?_) (elsewhere opened nofun) nofun
      obtain rfl := Option.some.inj (known.symm.trans same)
      exact closed
  | streamStartFailed opened stored =>
      rw [closeContext_starts located (by simp [places, opened, held]) stored] at reach ⊢
      exact handled.turn (reach rfl) (fun _ _ holds => holds) rfl (elsewhere opened nofun) rfl
  | connect mapped started =>
      exact handled.turn (reach rfl) (fun _ _ holds => holds) rfl (elsewhere started nofun) rfl
  | attach attaching =>
      exact handled.turn (reach rfl) (fun _ _ holds => holds) rfl (elsewhere attaching nofun) rfl
  | cleanup sp idle member stored =>
      split at reach
      · rename_i gone
        rw [if_pos gone]
        exact handled.turn (reach rfl) (fun _ _ holds => ((holds_release _).mp holds).2) rfl
          (elsewhere idle nofun) rfl
      · rename_i live
        have here := List.mem_map_of_mem (f := Prod.snd) member
        rw [if_neg live]
        rw [closeContext_starts located (by simp [places, here]) stored] at reach ⊢
        exact handled.turn (reach rfl) (fun _ _ holds => holds) rfl (elsewhere idle nofun) rfl
  | walkMap walking live node stored =>
      rw [closeContext_starts located (by simp [places, live, queued, node]) stored] at reach ⊢
      exact handled.turn (reach rfl) (fun _ _ holds => holds) rfl (elsewhere walking nofun) rfl
  | walkAccept walking live mapped node stored =>
      rw [closeContext_starts located (by simp [places, live, queued, node]) stored] at reach ⊢
      exact handled.turn (reach rfl) (fun _ _ holds => holds) rfl (elsewhere walking nofun) rfl
  | walkEnd walking =>
      exact handled.turn (reach rfl) (fun _ _ holds => holds) rfl (elsewhere walking nofun) rfl
  | streamShutdown closing =>
      exact handled.turn (reach rfl) (fun _ _ holds => holds) rfl (elsewhere closing nofun) rfl
  | @streamClose sc next stream h handle closing stored reads known =>
      refine handled.frame (reach rfl) (fun _ _ holds => holds) (setHandle_grows fun _ _ _ => rfl)
        (elsewhere closing nofun) fun h' same => ?_
      -- The only holder is the context that is being closed.
      obtain rfl := Option.some.inj same
      refine ⟨⟨_, setHandle_self _ _ _, rfl⟩, fun other _ holder => ?_⟩
      obtain rfl := handled.injective other sc _ holder ⟨stream, stored, reads⟩
      exact ⟨next, rfl⟩
  | @closeReturn sc next stream h handle closing stored reads known =>
      refine handled.frame (reach rfl) (fun _ _ holds => ((holds_release next).mp holds).2)
        (setHandle_grows fun old same closed => ?_) ?_ nofun
      · obtain rfl := Option.some.inj (known.symm.trans same)
        exact closed
      · intro other next' running
        obtain ⟨_, rfl, _⟩ := Main.closing.inj (closing.symm.trans running)
        exact Or.inl fun h' holder => ((holds_release next).mp holder).1 rfl
  | freeEnd finishing =>
      exact handled.turn (reach rfl) (fun _ _ holds => holds) rfl (elsewhere finishing nofun) rfl

end Handles

section Use
variable {past : List Event} {before after : System} {event : Event}

/-- A context in reach, outside its own close, has an open handle. -/
theorem Handled.open_of_holder (handled : Handled past before) {sc : Ptr} {h : HQUIC}
    (here : sc ∈ places before) (holder : Holds before.scs sc h)
    (outside : ∀ next, before.main ≠ .closing .inClose sc next) :
    ∀ earlier ∈ past, closes earlier ≠ some h := by
  intro earlier member closing
  obtain ⟨next, running⟩ := handled.retired earlier member h closing sc here holder
  exact outside next running

/-- A sender inside `iperf_quic_send` works on a context that is not being closed. -/
theorem sender_outside (located : Located before)
    (attached : Attached before.streams before.threads before.main) {sp sc : Ptr}
    (inside : context (before.threads sp) = some sc) (next : After) :
    before.main ≠ .closing .inClose sc next := by
  intro closing
  have member := List.mem_map_of_mem (f := Prod.snd) (attached.working sp sc inside)
  have distinct := located.distinct
  rw [places, List.nodup_append] at distinct
  cases next with
  | cleanup cleaned =>
      -- The same context means the same stream, whose sender is outside.
      obtain ⟨cleaning, outside⟩ := attached.cleaning _ _ cleaned closing
      have same := List.inj_on_of_nodup_map distinct.2.1 cleaning
        (attached.working sp sc inside) rfl
      rw [(Prod.mk.inj same).1, inside] at outside
      cases outside rfl
  | _ =>
      refine distinct.2.2 sc (List.mem_append_right _ ?_) sc member rfl
      simp [closing, held]

/-- The context that the main thread is closing is in reach. -/
theorem closing_reach (attached : Attached before.streams before.threads before.main) {sc : Ptr}
    {stage : Stage} {next : After} (closing : before.main = .closing stage sc next) :
    sc ∈ places before := by
  cases next with
  | cleanup sp =>
      have here := List.mem_map_of_mem (f := Prod.snd) (attached.cleaning _ _ sp closing).1
      simp [places, here]
  | _ => simp [places, closing, held]

/-- What a sender has read from its context is still there. -/
def Loaded (system : System) : Prop :=
  ∀ sp sc h, system.threads sp = .loaded sc h → Holds system.scs sc h

/-- What a step passes to MsQuic is open. -/
theorem step_used (handled : Handled past before) (located : Located before)
    (attached : Attached before.streams before.threads before.main) (loaded : Loaded before)
    (step : Step before event after) (h : HQUIC) (uses : touches event = some h) :
    ∀ earlier ∈ past, closes earlier ≠ some h := by
  cases step with
  | @streamSend sp sc h' sends =>
      obtain rfl := Option.some.inj uses
      have inside : context (before.threads sp) = some sc := by rw [sends]; rfl
      have here := List.mem_map_of_mem (f := Prod.snd) (attached.working sp sc inside)
      exact handled.open_of_holder (by simp [places, here]) (loaded sp sc _ sends)
        (sender_outside located attached inside)
  | streamShutdown closing stored reads =>
      obtain rfl := Option.some.inj uses
      exact handled.open_of_holder (closing_reach attached closing) ⟨_, stored, reads⟩
        (by simp [closing])
  | streamClose closing stored reads known =>
      obtain rfl := Option.some.inj uses
      exact handled.open_of_holder (closing_reach attached closing) ⟨_, stored, reads⟩
        (by simp [closing])
  | shutdownClosing h' known started once unclosed =>
      obtain rfl := Option.some.inj uses
      intro earlier member closing
      obtain ⟨handle, same, closed⟩ := handled.closed earlier member _ closing
      obtain rfl := Option.some.inj (known.symm.trans same)
      rw [unclosed] at closed
      cases closed
  | openRefused h' idle live fresh =>
      obtain rfl := Option.some.inj uses
      intro earlier member closing
      obtain ⟨handle, same, _⟩ := handled.closed earlier member _ closing
      rw [fresh] at same
      cases same
  | _ => cases uses

theorem loaded_update {threads : Ptr → Thread} {changed sp sc : Ptr} {thread : Thread} {h : HQUIC}
    (now : Function.update threads changed thread sp = .loaded sc h) :
    thread = .loaded sc h ∨ threads sp = .loaded sc h := by
  by_cases same : sp = changed
  · rw [same, Function.update_self] at now
    exact Or.inl now
  · rw [Function.update_of_ne same] at now
    exact Or.inr now

theorem step_loaded (loaded : Loaded before) (located : Located before)
    (attached : Attached before.streams before.threads before.main)
    (works : Attached after.streams after.threads after.main) (step : Step before event after) :
    Loaded after := by
  intro sp sc h now
  have here : sc ∈ places after := by
    have member := List.mem_map_of_mem (f := Prod.snd) (works.working sp sc (by rw [now]; rfl))
    simp [places, member]
  have stays (same : before.threads sp = .loaded sc h) : Holds after.scs sc h :=
    step_kept located attached step sc here h (loaded sp sc h same)
  cases step with
  | spawn | join | sendEnter | sendLeave | sendSlot | sendSlotFreed | streamSend =>
      exact stays ((loaded_update now).resolve_left nofun)
  | sendLoad changed slotted stored reads =>
      rcases loaded_update now with mine | same
      · obtain ⟨rfl, rfl⟩ := Thread.loaded.inj mine
        exact ⟨_, stored, reads⟩
      · exact stays same
  | @sendLoadFreed held changed read slotted freed =>
      -- The context of a sender inside is in reach, so it has not been freed.
      have member := List.mem_map_of_mem (f := Prod.snd)
        (attached.working changed held (by rw [slotted]; rfl))
      obtain ⟨_, stream, stored, _⟩ := located.live held (by simp [places, member])
      rw [freed] at stored
      cases stored
  | streamStartFailed | walkMap | walkAccept =>
      rw [closeContext_threads] at now
      exact stays now
  | cleanup =>
      split at now
      · exact stays now
      · rw [closeContext_threads] at now
        exact stays now
  | _ => exact stays now

structure Tracks (past : List Event) (system : System) : Prop where
  attached : Attached system.streams system.threads system.main
  located : Located system
  handled : Handled past system
  loaded : Loaded system
  used : WellUsed past

theorem fresh_tracks : Tracks [] fresh where
  attached := ⟨List.nodup_nil, nofun, nofun, nofun⟩
  located := ⟨List.nodup_nil, nofun⟩
  handled := ⟨nofun, nofun, nofun, nofun⟩
  loaded := nofun
  used := each_nil _

theorem step_tracks (tracks : Tracks past before) (moves : CarefulStep before event after) :
    Tracks (past ++ [event]) after := by
  obtain ⟨attached, located, handled, loaded, used⟩ := tracks
  obtain ⟨step, careful⟩ := moves
  have works := step_attached attached located step careful
  refine ⟨works, step_located located attached step, step_handled handled located step careful,
    step_loaded loaded located attached works step, ?_⟩
  rw [WellUsed, each_append]
  exact ⟨used, fun h uses => step_used handled located attached loaded step h uses⟩

end Use

/-- In every careful run, no handle is passed to MsQuic after it was closed. -/
theorem handle_use (past : List Event) (system : System)
    (run : Run CarefulStep fresh past system) : WellUsed past :=
  (run.invariant Tracks fresh_tracks fun _ _ _ _ tracks moves => step_tracks tracks moves).used

/-- A client's stream sends a block and is cleaned up after its sender left;
SHUTDOWN_COMPLETE comes inside the StreamClose. -/
theorem handle_use_sample :
    WellUsed [.ctxInit, .streamOpen 7 1, .streamStart 1, .connect, .lookup 5 1, .attach, .spawn 5,
      .sendEnter 5, .sendSlot 5, .sendLoad 5, .streamSend 1, .cleanup 5, .streamShutdown 1,
      .streamClose 1, .shutdownComplete 1 true, .closeReturn] := by
  have ready := Run.next _ (Run.start : Run CarefulStep fresh [] _) ⟨.ctxInit rfl rfl, trivial⟩
  have opened := Run.next _ ready ⟨.streamOpen 7 1 rfl nofun rfl rfl, trivial⟩
  have started := Run.next _ opened ⟨.streamStart 1 rfl rfl rfl rfl, trivial⟩
  have connected := Run.next _ started ⟨.connect true rfl rfl, trivial⟩
  have found := Run.next _ connected
    ⟨@Step.lookup _ 7 [] [] _ 5 1 rfl rfl rfl nofun List.not_mem_nil, trivial⟩
  have attached := Run.next _ found ⟨.attach rfl, trivial⟩
  have spawned := Run.next _ attached
    ⟨.spawn 5 rfl (List.mem_singleton.mpr rfl) rfl, trivial⟩
  have entered := Run.next _ spawned
    ⟨@Step.sendEnter _ 7 5 rfl (List.mem_singleton.mpr rfl) nofun, nofun⟩
  have slotted := Run.next _ entered ⟨.sendSlot 5 rfl rfl rfl (by decide), trivial⟩
  have loaded := Run.next _ slotted ⟨.sendLoad 5 rfl rfl rfl, trivial⟩
  have sent := Run.next _ loaded ⟨@Step.streamSend _ 5 7 1 rfl, trivial⟩
  have cleaning := Run.next _ sent
    ⟨@Step.cleanup _ 7 _ 5 rfl (List.mem_singleton.mpr rfl) rfl, nofun⟩
  have shut := Run.next _ cleaning ⟨.streamShutdown rfl rfl rfl, trivial⟩
  have closing := Run.next _ shut ⟨.streamClose rfl rfl rfl rfl, ?_⟩
  have completed := Run.next _ closing ⟨.shutdownInClose 1 rfl rfl rfl rfl rfl, trivial⟩
  have freed := Run.next _ completed ⟨.closeReturn rfl rfl rfl rfl, trivial⟩
  · exact handle_use _ _ freed
  · intro sc sp same
    obtain ⟨_, _, last⟩ := Main.closing.inj same
    rw [← After.cleanup.inj last]
    rfl

/-- Either close leaves a user. The peer goes away while its stream is queued:
the callback closes the handle, and the teardown passes it to StreamClose again.
Or the server ends a client's test early: the cleanup closes the handle between
the sender's read of `sc->stream` and its StreamSend. -/
theorem handle_use_counterexample :
    (∃ past system, Run Step fresh past system ∧ (∀ sp, .spawn sp ∉ past) ∧ ¬ WellUsed past) ∧
    ∃ past system, Run Step fresh past system ∧ (∀ h, .shutdownComplete h false ∉ past) ∧
      ¬ WellUsed past := by
  constructor
  · have ready := Run.next _ (Run.start : Run Step fresh [] _) (.ctxInit rfl rfl)
    have started := Run.next _ ready (.peerStreamStarted 7 1 true rfl rfl rfl)
    have gone := Run.next _ started (.shutdownClosing 1 rfl rfl rfl rfl)
    have freeing := Run.next _ gone (.freeTest rfl nofun)
    have walked := Run.next _ freeing (.walkAccept rfl rfl rfl rfl rfl)
    have shut := Run.next _ walked (.streamShutdown rfl rfl rfl)
    have closed := Run.next _ shut (.streamClose rfl rfl rfl rfl)
    refine ⟨_, _, closed, by simp, fun used => ?_⟩
    exact used [.ctxInit, .peerStreamStarted 7 1, .shutdownComplete 1 false, .freeTest, .walk,
      .streamShutdown 1] (.streamClose 1) [] rfl 1 rfl (.shutdownComplete 1 false) (by simp) rfl
  · have ready := Run.next _ (Run.start : Run Step fresh [] _) (.ctxInit rfl rfl)
    have opened := Run.next _ ready (.streamOpen 7 1 rfl nofun rfl rfl)
    have started := Run.next _ opened (.streamStart 1 rfl rfl rfl rfl)
    have connected := Run.next _ started (.connect true rfl rfl)
    have found := Run.next _ connected
      (@Step.lookup _ 7 [] [] _ 5 1 rfl rfl rfl nofun List.not_mem_nil)
    have attached := Run.next _ found (.attach rfl)
    have spawned := Run.next _ attached (.spawn 5 rfl (List.mem_singleton.mpr rfl) rfl)
    have entered := Run.next _ spawned
      (@Step.sendEnter _ 7 5 rfl (List.mem_singleton.mpr rfl) nofun)
    have slotted := Run.next _ entered (.sendSlot 5 rfl rfl rfl (by decide))
    have loaded := Run.next _ slotted (.sendLoad 5 rfl rfl rfl)
    have cleaning := Run.next _ loaded
      (@Step.cleanup _ 7 _ 5 rfl (List.mem_singleton.mpr rfl) rfl)
    have shut := Run.next _ cleaning (.streamShutdown rfl rfl rfl)
    have closed := Run.next _ shut (.streamClose rfl rfl rfl rfl)
    have sent := Run.next _ closed (@Step.streamSend _ 5 7 1 rfl)
    refine ⟨_, _, sent, by simp, fun used => ?_⟩
    exact used [.ctxInit, .streamOpen 7 1, .streamStart 1, .connect, .lookup 5 1, .attach, .spawn 5,
      .sendEnter 5, .sendSlot 5, .sendLoad 5, .cleanup 5, .streamShutdown 1, .streamClose 1]
      (.streamSend 1) [] rfl 1 rfl (.streamClose 1) (by simp) rfl

end Iperf.QuicLifecycle
