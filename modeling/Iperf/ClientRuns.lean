import Iperf.ClientHoldings

/-!
The runs of a client whose threads can be cancelled and joined. At the return every
thread has been joined, every socket and list has been given back, except for what the
last theorem names.
-/

namespace Iperf.ClientRuns

open TestState Config DescriptorLedger Outcome Transition ClientSockets ClientLoop ClientHoldings

/-- `pthread_cancel` and `pthread_join` work. -/
def Reliable (event : Pass) : Prop :=
  ∀ thr, event.cancelled thr ≠ .failure ∧ event.joined thr = .success

/-- `iperf_new_stream` succeeds, and the connect functions stop at no buffer and no reply. -/
def SmoothPass (event : Pass) : Prop :=
  ∀ sender i, Smooth (event.making sender i).connecting ∧ (event.making sender i).created = none

section Stops
variable {client : Client} {event : Pass}

def stopped (sp : Stream) : Stream := { sp with done := true, thread_created := false }

theorem stop_thread_reliable (reliable : Reliable event) (sp : Stream) :
    stop_thread client event sp =
      (stopped sp, if sp.thread_created then [thread client sp] else [], none) := by
  obtain ⟨cancelled, joined⟩ := reliable sp.thr
  cases created : sp.thread_created with
  | false => simp [stop_thread, stopped, created]
  | true => simp [stop_thread, stopped, created, cancelled, joined, ended_thread, thread, descriptor]

theorem stop_threads_reliable (reliable : Reliable event) (senders : Bool)
    (streams : List Stream) :
    stop_threads client event senders streams =
      (streams.map fun sp => if sp.sender = senders then stopped sp else sp,
        (streams.filter fun sp => (sp.sender = senders : Bool) && sp.thread_created).map
          (thread client), none) := by
  induction streams with
  | nil => rfl
  | cons sp rest ih =>
      rw [stop_threads, ih, stop_thread_reliable reliable]
      by_cases turn : sp.sender = senders
      · cases created : sp.thread_created <;> simp [turn, created]
      · simp [turn]

theorem stop_all_reliable (reliable : Reliable event) (streams : List Stream) :
    stop_all client event streams =
      (streams.map fun sp => if ! sp.done then stopped sp else sp,
        (streams.filter fun sp => ! sp.done && sp.thread_created).map (thread client)) := by
  induction streams with
  | nil => rfl
  | cons sp rest ih =>
      rw [stop_all, ih]
      obtain ⟨-, joined⟩ := reliable sp.thr
      cases done : sp.done with
      | true => simp [done]
      | false =>
          cases created : sp.thread_created <;>
            simp [done, created, stopped, ended_thread, joined]

/-- Streams without threads gain the threads that could be created. -/
theorem spawn_threads {streams : List Stream} (answers : List (Option Nat))
    (idle : ∀ sp ∈ streams, sp.thread_created = false) :
    ((spawn client streams answers).1.filter (·.thread_created)).map (thread client) =
      (spawn client streams answers).2.1 := by
  induction streams generalizing answers with
  | nil => rfl
  | cons sp rest ih =>
      have none_first := idle sp List.mem_cons_self
      have none_rest := fun other inside => idle other (List.mem_cons_of_mem _ inside)
      have all_idle : (sp :: rest).filter (·.thread_created) = [] :=
        List.filter_eq_nil_iff.mpr fun other inside => by simp [idle other inside]
      cases answers with
      | nil => simp [spawn, all_idle]
      | cons answer answers =>
          cases answer with
          | none => simp [spawn, all_idle]
          | some thr => simp [spawn, ih answers none_rest]

/-- What the threads leave of the streams. -/
theorem spawn_same (streams : List Stream) (answers : List (Option Nat)) :
    (spawn client streams answers).1.map (fun sp => (sp.socket, sp.sender, sp.done)) =
      streams.map fun sp => (sp.socket, sp.sender, sp.done) := by
  induction streams generalizing answers with
  | nil => rfl
  | cons sp rest ih =>
      cases answers with
      | nil => rfl
      | cons answer answers =>
          cases answer with
          | none => rfl
          | some thr => simp [spawn, ih]

end Stops

section Owned
variable (client : Client)

def threads : List Resource := (client.streams.filter (·.thread_created)).map (thread client)

def sockets : List Resource :=
  client.streams.flatMap fun sp => stream_socket client.test.protocol sp.socket

def control : List Resource :=
  if 0 ≤ client.test.ctrl_sck then [.descriptor client.test.ctrl_sck] else []

/-- What a client holds in its loop. -/
def holdings : List Resource := threads client ++ (sockets client ++ control client)

/-- The control connection, where `IPERF_DONE` could not be sent. -/
def left : List Resource :=
  if client.test.state = IPERF_DONE ∧ .sent IPERF_DONE ∉ client.history then control client else []

/-- The sockets, where it was the server that sent `IPERF_DONE`. -/
def unclosed : List Resource :=
  if .received IPERF_DONE ∈ client.history then sockets client else []

/-- Such streams alone have no thread behind a cleanup. -/
structure Careful : Prop where
  idle : ∀ sp ∈ client.streams, sp.done → sp.thread_created = false
  undone : .sent IPERF_DONE ∉ client.history
  unreceived : .received IPERF_DONE ∉ client.history

structure Steady : Prop extends Careful client where
  early : client.startup → ∀ sp ∈ client.streams, sp.done = false ∧ sp.thread_created = false
  announced : .sent TEST_END ∈ client.history → client.startup = false ∧
    ∀ sp ∈ client.streams, sp.sender → sp.thread_created = false
  hidden : .received DISPLAY_RESULTS ∉ client.history
  number : 0 ≤ client.test.ctrl_sck
  going : client.test.state ≠ IPERF_DONE

/-- In the loop, while the test goes on. -/
structure Running : Prop extends Steady client where
  holds : Holds client.history (holdings client)

/-- In the loop, with its condition false. -/
structure Over : Prop where
  state : client.test.state = IPERF_DONE
  idle : ∀ sp ∈ client.streams, sp.done → sp.thread_created = false
  announced : .sent TEST_END ∈ client.history →
    ∀ sp ∈ client.streams, sp.sender → sp.thread_created = false
  holds : Holds client.history (threads client ++ (unclosed client ++ left client))

/-- Before a cleanup; `smooth` says that nothing was stranded. -/
structure Failing (smooth : Prop) : Prop extends Careful client where
  strands : Strands smooth (holdings client) client

end Owned

section Views
variable {before after : Client} {smooth : Prop}

theorem view_mem {happening : Happening} (same : view after = view before)
    (other : resources [happening] = []) :
    happening ∈ after.history ↔ happening ∈ before.history := by
  simp only [view, Prod.mk.injEq] at same
  have kept := congrArg (happening ∈ ·) same.2.2.2.2.2.2
  simpa [other] using kept

theorem holdings_view (same : view after = view before) : holdings after = holdings before := by
  simp only [view, Prod.mk.injEq] at same
  obtain ⟨streams, -, -, -, protocol, ctrl_sck, -⟩ := same
  have described : thread after = thread before := by
    funext sp
    rw [thread, thread, descriptor, descriptor, protocol]
  rw [holdings, holdings, threads, threads, sockets, sockets, control, control, streams, protocol,
    ctrl_sck, described]

theorem Careful.of_view (careful : Careful before) (same : view after = view before) :
    Careful after := by
  have fields := same
  simp only [view, Prod.mk.injEq] at fields
  constructor
  · rw [fields.1]
    exact careful.idle
  · rw [view_mem same rfl]
    exact careful.undone
  · rw [view_mem same rfl]
    exact careful.unreceived

theorem Steady.of_view (steady : Steady before) (same : view after = view before) :
    Steady after := by
  have fields := same
  simp only [view, Prod.mk.injEq] at fields
  obtain ⟨streams, startup, -, state, -, ctrl_sck, -⟩ := fields
  constructor
  · exact steady.toCareful.of_view same
  · rw [startup, streams]
    exact steady.early
  · rw [view_mem same rfl, startup, streams]
    exact steady.announced
  · rw [view_mem same rfl]
    exact steady.hidden
  · rw [ctrl_sck]
    exact steady.number
  · rw [state]
    exact steady.going

/-- Nothing of what the loop looks at has changed, and no resource either. -/
def Alike (before after : Client) : Prop :=
  view after = view before ∧ after.history = before.history

theorem Running.alike (running : Running before) (alike : Alike before after) : Running after := by
  constructor
  · exact running.toSteady.of_view alike.1
  · rw [holdings_view alike.1, alike.2]
    exact running.holds

theorem Failing.alike (failing : Failing before smooth) (alike : Alike before after) :
    Failing after smooth := by
  constructor
  · exact failing.toCareful.of_view alike.1
  · obtain ⟨orphans, holds, facts⟩ := failing.strands
    rw [holdings_view alike.1]
    exact ⟨orphans, by rw [alike.2]; exact holds, facts⟩

theorem Running.fails (running : Running before) : Failing before smooth :=
  ⟨running.toCareful, strands_nothing running.holds⟩

theorem alike_failed (client : Client) (errno : ClientErrno) : Alike client (failed client errno) :=
  ⟨rfl, rfl⟩

theorem Running.fails_with (running : Running before) (errno : ClientErrno) :
    Failing (failed before errno) smooth :=
  running.fails.alike (alike_failed _ errno)

theorem holdings_covered (client : Client) : Covered (holdings client) := by
  intro fd sender thr running
  have inside : .thread (some fd) sender thr ∈ threads client := by
    rcases List.mem_append.mp running with inside | other
    · exact inside
    · simp [sockets, control, stream_socket] at other
  obtain ⟨sp, member, same⟩ := List.mem_map.mp inside
  simp only [thread, descriptor, Resource.thread.injEq] at same
  have tcp : client.test.protocol ≠ .Pquic := fun quic => by simp [quic] at same
  simp only [tcp, if_false, Option.some.injEq] at same
  refine List.mem_append_right _ (List.mem_append_left _ ?_)
  refine List.mem_flatMap.mpr ⟨sp, (List.mem_filter.mp member).1, ?_⟩
  simp [stream_socket, tcp, same.1]

end Views

section Lists
variable {client : Client} {history : List Happening} {owned : List Resource}

/-- What is in a history and is not its last event was there before. -/
theorem mem_before {happening last : Happening} (inside : happening ∈ history ++ [last])
    (differs : happening ≠ last) : happening ∈ history := by
  rcases List.mem_append.mp inside with old | new
  · exact old
  · exact absurd (List.mem_singleton.mp new) differs

theorem opened_all {acquired : List Resource} (holds : Holds history owned) :
    Holds (history ++ acquired.map fun held => .resource (.opened held)) (acquired ++ owned) := by
  induction acquired generalizing history owned with
  | nil => simpa using holds
  | cons first rest ih =>
      rw [List.map_cons, List.append_cons]
      exact (ih holds.opened).perm List.perm_middle

theorem joined_all {released : List Resource} (holds : Holds history (released ++ owned))
    (joined : ∀ held ∈ released, ∃ fd sender thr, held = .thread fd sender thr) :
    Holds (history ++ released.map fun held => .resource (.closed held)) owned := by
  induction released generalizing history with
  | nil => simpa using holds
  | cons first rest ih =>
      obtain ⟨fd, sender, thr, rfl⟩ := joined first List.mem_cons_self
      rw [List.map_cons, List.append_cons]
      exact ih (Holds.joined holds) fun held inside => joined held (List.mem_cons_of_mem _ inside)

/-- Descriptors may go when no thread is left, or once the results are displayed. -/
def Free (history : List Happening) (owned : List Resource) : Prop :=
  .received DISPLAY_RESULTS ∈ history ∨ ∀ fd sender thr, .thread fd sender thr ∉ owned

theorem Holds.free {fd : Int32} (holds : Holds history (.descriptor fd :: owned))
    (free : Free history owned) :
    Holds (history ++ [.resource (.closed (.descriptor fd))]) owned := by
  rcases free with displayed | idle
  · exact holds.close_displayed displayed
  · exact holds.close fun fd sender thr inside => absurd inside (idle (some fd) sender thr)

theorem quic_sockets (streams : List Stream) :
    (streams.flatMap fun sp => stream_socket .Pquic sp.socket) = [] :=
  List.flatMap_eq_nil_iff.mpr fun _ _ => rfl

theorem plain_sockets {protocol : Protocol} (other : protocol ≠ .Pquic) (streams : List Stream) :
    (streams.flatMap fun sp => stream_socket protocol sp.socket) =
      streams.map fun sp => .descriptor sp.socket := by
  induction streams with
  | nil => rfl
  | cons sp rest ih =>
      rw [List.flatMap_cons, ih, stream_socket, if_neg other]
      rfl

theorem Free.mono {later : List Happening} {others : List Resource} (free : Free history owned)
    (kept : ∀ happening ∈ history, happening ∈ later)
    (same : ∀ fd sender thr, .thread fd sender thr ∈ others → .thread fd sender thr ∈ owned) :
    Free later others := by
  rcases free with displayed | idle
  · exact .inl (kept _ displayed)
  · exact .inr fun fd sender thr inside => idle fd sender thr (same fd sender thr inside)

theorem closed_descriptors {fds : List Int32} (free : Free history owned)
    (holds : Holds history (fds.map .descriptor ++ owned)) :
    Holds (history ++ (fds.map .descriptor).map fun held => .resource (.closed held)) owned := by
  induction fds generalizing history with
  | nil => simpa using holds
  | cons fd rest ih =>
      simp only [List.map_cons, List.cons_append] at holds ih ⊢
      rw [List.append_cons]
      apply ih
      · exact free.mono (fun _ inside => List.mem_append_left _ inside) fun _ _ _ inside => inside
      · apply Holds.free holds
        apply free.mono fun _ inside => inside
        intro fd sender thr inside
        simpa using inside

theorem closed_sockets {streams : List Stream} {protocol : Protocol} (free : Free history owned)
    (holds : Holds history
      ((streams.flatMap fun sp => stream_socket protocol sp.socket) ++ owned)) :
    Holds (history ++ (streams.flatMap fun sp => stream_socket protocol sp.socket).map
      fun held => .resource (.closed held)) owned := by
  by_cases quic : protocol = .Pquic
  · subst quic
    rw [quic_sockets] at holds ⊢
    simpa using holds
  · have numbers : (streams.map fun sp => Resource.descriptor sp.socket) =
        (streams.map (·.socket)).map .descriptor := by simp
    rw [plain_sockets quic, numbers] at holds ⊢
    exact closed_descriptors free holds

theorem close_streams_eq (client : Client) :
    close_streams client =
      { client with
        history := client.history ++ (sockets client).map fun held => .resource (.closed held) } := by
  have folds : ∀ (streams : List Stream) (client : Client),
      streams.foldl (fun client sp => close client sp.socket) client =
        { client with
          history := client.history ++ streams.map fun sp =>
            .resource (.closed (.descriptor sp.socket)) } := by
    intro streams
    induction streams with
    | nil => simp
    | cons sp rest ih =>
        intro client
        rw [List.foldl_cons, ih]
        simp [close, closed, happens]
  by_cases quic : client.test.protocol = .Pquic
  · simp [close_streams, sockets, quic, quic_sockets]
  · rw [sockets, plain_sockets quic]
    simp [close_streams, quic, folds]

/-- Closing a list of streams' threads: those that go and those that stay. -/
theorem stopped_threads (chosen : Stream → Bool) (streams : List Stream) :
    ((streams.filter fun sp => chosen sp && sp.thread_created).map (thread client) ++
      ((streams.map fun sp => if chosen sp then stopped sp else sp).filter
        (·.thread_created)).map (thread client)).Perm
      ((streams.filter (·.thread_created)).map (thread client)) := by
  induction streams with
  | nil => exact List.Perm.refl _
  | cons sp rest ih =>
      cases created : sp.thread_created <;> cases turn : chosen sp
      · simpa [created, turn] using ih
      · simpa [created, turn, stopped] using ih
      · simp only [List.filter_cons, created, turn, List.map_cons, Bool.false_and, if_true,
          if_false, Bool.false_eq_true]
        exact List.perm_middle.trans (ih.cons _)
      · simpa [created, turn, stopped] using ih.cons (thread client sp)

end Lists

section Halt
variable {client : Client} {event : Pass}

/-- The threads of the chosen streams have been joined. -/
def halt (client : Client) (chosen : Stream → Bool) : Client :=
  joins client (client.streams.map fun sp => if chosen sp then stopped sp else sp)
    ((client.streams.filter fun sp => chosen sp && sp.thread_created).map (thread client))

theorem cancel_threads_reliable (reliable : Reliable event) (senders : Bool) :
    cancel_threads client event senders = .ok (halt client fun sp => sp.sender = senders) := by
  simp [cancel_threads, stop_threads_reliable reliable, halt]

theorem halt_holds {rest : List Resource} (chosen : Stream → Bool)
    (holds : Holds client.history (threads client ++ rest)) :
    Holds (halt client chosen).history (threads (halt client chosen) ++ rest) := by
  have split := @stopped_threads client chosen client.streams
  have kept := holds.perm (split.symm.append_right rest)
  rw [List.append_assoc] at kept
  apply joined_all kept
  intro held inside
  obtain ⟨sp, -, rfl⟩ := List.mem_map.mp inside
  exact ⟨_, _, _, rfl⟩

theorem halt_sockets (chosen : Stream → Bool) :
    sockets (halt client chosen) = sockets client := by
  simp only [sockets, halt, joins, List.flatMap_map]
  congr 1
  funext sp
  split <;> rfl

theorem halt_said (chosen : Stream → Bool) (happening : Happening)
    (other : ∀ entry, happening ≠ .resource entry) :
    happening ∈ (halt client chosen).history ↔ happening ∈ client.history := by
  simp only [halt, joins, List.mem_append, List.mem_map, or_iff_left_iff_imp]
  rintro ⟨held, -, same⟩
  exact absurd same.symm (other _)

theorem halt_idle (chosen : Stream → Bool)
    (idle : ∀ sp ∈ client.streams, sp.done → sp.thread_created = false) :
    ∀ sp ∈ (halt client chosen).streams, sp.done → sp.thread_created = false := by
  intro sp inside
  obtain ⟨old, member, rfl⟩ := List.mem_map.mp inside
  split
  · exact fun _ => rfl
  · exact idle old member

/-- A stream that still has a thread was not chosen. -/
theorem halt_running (chosen : Stream → Bool) {sp : Stream}
    (inside : sp ∈ (halt client chosen).streams) (created : sp.thread_created = true) :
    sp ∈ client.streams ∧ chosen sp = false := by
  obtain ⟨old, member, rfl⟩ := List.mem_map.mp inside
  cases turn : chosen old with
  | true => simp [turn, stopped] at created
  | false => simpa [turn] using member

end Halt

section Moves
variable {build : Build} {client before after : Client} {event : Pass} {smooth : Prop}

theorem Alike.trans {first second third : Client} (one : Alike first second)
    (two : Alike second third) : Alike first third :=
  ⟨two.1.trans one.1, two.2.trans one.2⟩

theorem Strands.imp {stronger : Prop} {owned : List Resource} (strands : Strands smooth owned client)
    (implies : stronger → smooth) : Strands stronger owned client := by
  obtain ⟨orphans, holds, few, other, none⟩ := strands
  exact ⟨orphans, holds, few, other, fun strong => none (implies strong)⟩

/-- An event that is no resource, nor one that the loop watches for. -/
theorem Running.happens {happening : Happening} (running : Running client)
    (other : resources [happening] = []) (unsent : ∀ state, happening ≠ .sent state)
    (undone : happening ≠ .received IPERF_DONE)
    (hidden : happening ≠ .received DISPLAY_RESULTS) :
    Running (ClientSockets.happens client happening) := by
  have holds : Holds (client.history ++ [happening]) (holdings client) :=
    running.holds.happens other (fun _ => running.undone) fun same => absurd same (unsent _)
  exact
    { idle := running.idle
      undone := fun inside => running.undone (mem_before inside (unsent _).symm)
      unreceived := fun inside => running.unreceived (mem_before inside undone.symm)
      early := running.early
      announced := fun inside => running.announced (mem_before inside (unsent _).symm)
      hidden := fun inside => running.hidden (mem_before inside hidden.symm)
      number := running.number
      going := running.going
      holds := holds }

theorem Running.set_state {state : StateByte} (running : Running client)
    (going : state ≠ IPERF_DONE) : Running (iperf_set_test_state client state) :=
  { running with going := going }

theorem attempt_runs {happening : Happening} (running : Running client)
    (error : Option ClientErrno) (plain : happening = .parameters ∨ happening = .results) :
    Ends Running (Failing · smooth) (attempt client error happening) := by
  cases error with
  | some errno => exact running.fails_with errno
  | none => rcases plain with rfl | rfl <;> exact running.happens rfl nofun nofun nofun

theorem create_client_timers_alike (client : Client) (event : Pass) :
    Ends (Alike client) (Alike client) (create_client_timers client event) := by
  unfold create_client_timers
  dsimp only
  split
  · split <;> split <;> exact ⟨rfl, rfl⟩
  · split <;> exact ⟨rfl, rfl⟩

theorem create_client_omit_timer_alike (client : Client) (event : Pass) :
    Ends (Alike client) (Alike client) (create_client_omit_timer client event) := by
  unfold create_client_omit_timer
  split
  · exact ⟨rfl, rfl⟩
  · dsimp only
    split <;> exact ⟨rfl, rfl⟩

theorem start_test_alike (client : Client) (event : Pass) :
    Ends (Alike client) (Alike client) (start_test client event) := by
  unfold start_test
  split
  · exact ⟨rfl, rfl⟩
  apply Ends.bind (create_client_timers_alike client event)
  intro timed alike
  apply Ends.bind ((create_client_omit_timer_alike timed event).imp (fun _ good => alike.trans good)
    fun _ bad => alike.trans bad)
  intro omitted again
  split
  · exact again.trans (alike_failed _ _)
  · exact again

/-- A stream that has just been made has no thread. -/
theorem Running.grown {s : Int32} {sp : Stream} (running : Running client)
    (holds : Holds after.history (stream_socket client.test.protocol s ++ holdings client))
    (same : view after = view client) (socket : sp.socket = s) (done : sp.done = false)
    (created : sp.thread_created = false) :
    Running { after with streams := after.streams ++ [sp] } := by
  have steady := running.toSteady.of_view same
  have inside : ∀ other ∈ after.streams ++ [sp], other ∈ after.streams ∨ other = sp := by
    simp
  refine ⟨⟨⟨?_, steady.undone, steady.unreceived⟩, ?_, ?_, steady.hidden, steady.number,
    steady.going⟩, ?_⟩
  · intro other member ended
    rcases inside other member with old | rfl
    · exact steady.idle other old ended
    · exact created
  · intro starting other member
    rcases inside other member with old | rfl
    · exact steady.early starting other old
    · exact ⟨done, created⟩
  · intro announced
    obtain ⟨started, senders⟩ := steady.announced announced
    refine ⟨started, fun other member sends => ?_⟩
    rcases inside other member with old | rfl
    · exact senders other old sends
    · exact created
  · rw [← holdings_view same, ← view_protocol same] at holds
    apply holds.perm
    have grown : holdings { after with streams := after.streams ++ [sp] } =
        threads after ++ ((sockets after ++ stream_socket after.test.protocol s) ++
          control after) := by
      have same_thread : thread { after with streams := after.streams ++ [sp] } = thread after := rfl
      simp [holdings, threads, sockets, control, created, socket, same_thread]
    rw [grown, holdings]
    apply List.perm_iff_count.mpr
    intro held
    simp only [List.count_append]
    omega

/-- The algorithm is set on a socket that is held, and only on one of TCP. -/
theorem set_congestion_holds {s : Int32} (answers : Making) (running : Running client)
    (holds : Holds after.history (stream_socket client.test.protocol s ++ holdings client))
    (same : view after = view client) :
    Ends (fun set => set.history = after.history ∧ view set = view client)
      (Failing · smooth) (set_congestion after s answers) := by
  unfold set_congestion
  split
  · exact ⟨rfl, same⟩
  rename_i tcp
  have tcp : client.test.protocol = .Ptcp := by
    rw [← view_protocol same]
    exact Decidable.not_not.mp tcp
  split
  · have shut : Holds (close after s).history (holdings client) := by
      rw [tcp] at holds
      exact Holds.close holds (holdings_covered client)
    have shown : view (failed (close after s) .IESETCONGESTION) = view client := by simpa using same
    refine ⟨running.toCareful.of_view shown, ?_⟩
    rw [holdings_view shown]
    exact strands_nothing shut
  · exact ⟨rfl, same⟩

theorem create_stream_runs (running : Running client) (sender : Bool) (i : Nat) (answers : Making)
    (well : smooth → Smooth answers.connecting ∧ answers.created = none) :
    Ends Running (Failing · smooth) (create_stream build client sender i answers) := by
  unfold create_stream
  apply Ends.bind ((connect_connects answers.connecting (holdings_covered client)
    running.holds).imp (fun _ good => good) fun failed bad => ?_)
  · rintro ⟨s, connected⟩ ⟨holds, same⟩
    apply Ends.bind (set_congestion_holds answers running holds same)
    rintro set ⟨history, kept⟩
    rw [← history] at holds
    unfold iperf_new_stream
    split
    · -- the socket is in no stream yet
      rename_i errno refused
      refine ⟨running.toCareful.of_view kept, ?_⟩
      have shown : holdings (failed set errno) = holdings client := holdings_view kept
      rw [shown]
      refine ⟨_, holds, ?_, ?_, fun strong => ?_⟩
      · unfold stream_socket
        split <;> simp
      · intro fd sends thr inside
        unfold stream_socket at inside
        split at inside <;> simp at inside
      · rw [(well strong).2] at refused
        cases refused
    · exact running.grown holds kept rfl rfl rfl
  · refine ⟨running.toCareful.of_view bad.2, ?_⟩
    rw [holdings_view bad.2]
    exact Strands.imp bad.1 fun strong => (well strong).1

theorem create_from_runs (running : Running client) (sender : Bool) (answers : Nat → Making)
    (well : smooth → ∀ i, Smooth (answers i).connecting ∧ (answers i).created = none)
    (count i : Nat) :
    Ends Running (Failing · smooth) (create_from build sender answers count i client) := by
  induction count generalizing i client with
  | zero => exact running
  | succ count ih =>
      apply Ends.bind (create_stream_runs running sender i (answers i) fun strong => well strong i)
      exact fun created made => ih made (i + 1)

theorem create_all_runs (running : Running client) (well : smooth → SmoothPass event) :
    Ends Running (Failing · smooth) (create_all build client event) := by
  have either : ∀ client sender, Running client → Ends Running (Failing · smooth)
      (iperf_create_streams build client sender (event.making sender)) :=
    fun client sender made => create_from_runs made sender _ (fun strong => well strong sender) _ 0
  unfold create_all
  split
  · exact Ends.bind (either client true running) fun created made => either created false made
  · exact either client true running
  · exact either client false running

theorem threads_none (idle : ∀ sp ∈ client.streams, sp.thread_created = false) :
    threads client = [] := by
  rw [threads, List.filter_eq_nil_iff.mpr fun sp inside => by simp [idle sp inside]]
  rfl

section Spawning
variable (answers : List (Option Nat))

theorem spawned_undone (early : ∀ sp ∈ client.streams, sp.done = false) :
    ∀ sp ∈ (create_threads client answers).1.streams, sp.done = false := by
  intro sp inside
  have shown := List.mem_map_of_mem (f := fun sp : Stream => (sp.socket, sp.sender, sp.done)) inside
  rw [show List.map _ (create_threads client answers).1.streams = _ from
    @spawn_same client client.streams answers] at shown
  obtain ⟨old, member, fields⟩ := List.mem_map.mp shown
  simp only [Prod.mk.injEq] at fields
  exact fields.2.2 ▸ early old member

theorem spawned_said {happening : Happening} (other : ∀ entry, happening ≠ .resource entry)
    (inside : happening ∈ (create_threads client answers).1.history) :
    happening ∈ client.history := by
  rcases List.mem_append.mp inside with old | new
  · exact old
  · obtain ⟨held, -, is⟩ := List.mem_map.mp new
    exact absurd is.symm (other _)

theorem spawned_sockets : sockets (create_threads client answers).1 = sockets client := by
  have numbers := congrArg (List.map Prod.fst) (@spawn_same client client.streams answers)
  simp only [List.map_map] at numbers
  have through : ∀ streams : List Stream,
      (streams.flatMap fun sp => stream_socket client.test.protocol sp.socket) =
        (streams.map (·.socket)).flatMap (stream_socket client.test.protocol) := by
    intro streams
    rw [List.flatMap_map]
  simp only [sockets, create_threads]
  rw [through, through]
  exact congrArg _ numbers

/-- The threads come on top of what was held, as none was running. -/
theorem spawned_holds (idle : ∀ sp ∈ client.streams, sp.thread_created = false)
    (holds : Holds client.history (holdings client)) :
    Holds (create_threads client answers).1.history
      (holdings (create_threads client answers).1) := by
  have threads_are : threads (create_threads client answers).1 =
      (spawn client client.streams answers).2.1 := @spawn_threads client _ answers idle
  rw [holdings, threads_none idle, List.nil_append] at holds
  rw [holdings, spawned_sockets, threads_are]
  exact @opened_all _ _ (spawn client client.streams answers).2.1 holds

end Spawning

theorem start_threads_runs (running : Running client) :
    Ends (fun after => Running after ∧ after.startup = false) (Failing · smooth)
      (start_threads client event) := by
  unfold start_threads
  split
  · rename_i started
    exact ⟨running, by simpa using started⟩
  rename_i starting
  have starting : client.startup = true := by simpa using starting
  have early := running.early starting
  have begun : Running { client with startup := false } :=
    { running with
      early := nofun
      announced := fun inside => ⟨rfl, (running.announced inside).2⟩ }
  dsimp only
  split
  · exact begun.fails_with _
  have created : Running (create_threads { client with startup := false } event.spawned).1 := by
    have said : ∀ {happening : Happening}, (∀ entry, happening ≠ .resource entry) →
        happening ∈ (create_threads { client with startup := false } event.spawned).1.history →
          happening ∈ client.history :=
      fun other inside => @spawned_said { client with startup := false } event.spawned _ other inside
    refine ⟨⟨⟨?_, ?_, ?_⟩, nofun, ?_, ?_, running.number, running.going⟩, ?_⟩
    · intro sp inside ended
      rw [@spawned_undone { client with startup := false } event.spawned
        (fun sp inside => (early sp inside).1) sp inside] at ended
      cases ended
    · exact fun inside => running.undone (said nofun inside)
    · exact fun inside => running.unreceived (said nofun inside)
    · -- the end of a test that has not begun was not announced
      intro inside
      have started := (running.announced (said nofun inside)).1
      rw [starting] at started
      cases started
    · exact fun inside => running.hidden (said nofun inside)
    · exact spawned_holds _ (fun sp inside => (early sp inside).2) begun.holds
  split
  · exact created.fails_with _
  split
  · exact created.fails_with _
  · exact ⟨created, rfl⟩

/-- The threads that were chosen are gone; the others run on. -/
theorem Running.halted (running : Running client) (started : client.startup = false)
    (chosen : Stream → Bool) : Running (halt client chosen) := by
  have said : ∀ {happening : Happening}, (∀ entry, happening ≠ .resource entry) →
      happening ∈ (halt client chosen).history → happening ∈ client.history :=
    fun other => (halt_said chosen _ other).mp
  refine ⟨⟨⟨halt_idle chosen running.idle, ?_, ?_⟩, ?_, ?_, ?_, running.number, running.going⟩, ?_⟩
  · exact fun inside => running.undone (said nofun inside)
  · exact fun inside => running.unreceived (said nofun inside)
  · intro starting
    have both : client.startup = true := starting
    rw [started] at both
    cases both
  · intro inside
    refine ⟨started, fun sp member sends => ?_⟩
    rw [← Bool.not_eq_true]
    intro created
    have old := (halt_running chosen member created).1
    have idle := (running.announced (said nofun inside)).2 sp old sends
    rw [idle] at created
    cases created
  · exact fun inside => running.hidden (said nofun inside)
  · rw [holdings, halt_sockets]
    exact halt_holds chosen running.holds

/-- `TEST_END` is sent with no sending thread left. -/
theorem Running.announces (running : Running client) (started : client.startup = false)
    (quiet : ∀ sp ∈ client.streams, sp.sender = true → sp.thread_created = false) :
    Running (ClientSockets.happens client (.sent TEST_END)) := by
  have unheld : ∀ fd thr, .thread fd true thr ∉ holdings client := by
    intro fd thr inside
    rcases List.mem_append.mp inside with thread | other
    · obtain ⟨sp, member, same⟩ := List.mem_map.mp thread
      obtain ⟨member, created⟩ := List.mem_filter.mp member
      simp only [ClientLoop.thread, Resource.thread.injEq] at same
      rw [quiet sp member same.2.1] at created
      cases created
    · simp [sockets, control, stream_socket] at other
  have holds := @Holds.happens _ _ (.sent TEST_END) running.holds rfl (fun _ => running.undone)
    fun _ => unheld
  exact
    { idle := running.idle
      undone := fun inside => running.undone (mem_before inside (by decide))
      unreceived := fun inside => running.unreceived (mem_before inside (by simp))
      early := running.early
      announced := fun _ => ⟨started, quiet⟩
      hidden := fun inside => running.hidden (mem_before inside (by simp))
      number := running.number
      going := running.going
      holds := holds }

theorem end_test_runs (reliable : Reliable event) (running : Running client)
    (started : client.startup = false) :
    Ends Running (Failing · smooth) (end_test client event) := by
  unfold end_test
  split
  · rw [cancel_threads_reliable reliable]
    have halted := running.halted started fun sp => sp.sender = true
    have quiet : ∀ sp ∈ (halt client fun sp => sp.sender = true).streams,
        sp.sender = true → sp.thread_created = false := by
      intro sp inside sends
      rw [← Bool.not_eq_true]
      intro created
      have not_chosen := (halt_running _ inside created).2
      simp [sends] at not_chosen
    have counted : Running (ClientSockets.happens
        { halt client (fun sp => sp.sender = true) with
          test := { (halt client fun sp => sp.sender = true).test with done := 1 } } .statistics) :=
      Running.happens (halted.alike ⟨rfl, rfl⟩) rfl nofun nofun nofun
    have ending := @Running.set_state _ TEST_END counted (by decide)
    show Ends Running (Failing · smooth) (iperf_set_send_state _ TEST_END event.ended)
    unfold iperf_set_send_state
    rw [if_pos counted.number]
    dsimp only
    split
    · exact ending.announces started quiet
    · exact ending.fails_with _
  · exact running

end Moves

section Ending
variable {build : Build} {client : Client} {event : Pass} {smooth : Prop} {rest : List Resource}

/-- What `iperf_client_end` does, with the four parts of what it leaves in the history. -/
theorem client_end_eq (client : Client) (written : Bool) :
    iperf_client_end client written =
      { client with
        test :=
          if 0 < client.test.state ∧ 0 ≤ client.test.ctrl_sck then
            { client.test with state := IPERF_DONE }
          else client.test
        i_errno :=
          if 0 < client.test.state ∧ 0 ≤ client.test.ctrl_sck ∧ ¬ written then some .IESENDMESSAGE
          else client.i_errno
        history := client.history ++
          ((sockets client).map fun held => .resource (.closed held)) ++
          [.report client.test.state] ++
          ((if 0 < client.test.state ∧ 0 ≤ client.test.ctrl_sck ∧ written then
            [.sent IPERF_DONE] else []) ++
          if 0 ≤ client.test.ctrl_sck ∧ (¬ 0 < client.test.state ∨ written) then
            [.resource (.closed (.descriptor client.test.ctrl_sck))] else []) } := by
  by_cases positive : 0 < client.test.state <;> by_cases number : 0 ≤ client.test.ctrl_sck <;>
    cases written <;>
    simp [iperf_client_end, close_streams_eq, iperf_set_send_state, iperf_set_test_state,
      happens, close, closed, failed, positive, number]

/-- Membership in what `iperf_client_end` leaves. -/
theorem client_end_mem (client : Client) (written : Bool) (happening : Happening)
    (other : ∀ entry, happening ≠ .resource entry) (unreported : ∀ state, happening ≠ .report state)
    (unsent : happening ≠ .sent IPERF_DONE) :
    happening ∈ (iperf_client_end client written).history ↔ happening ∈ client.history := by
  rw [client_end_eq]
  simp only [List.mem_append, List.mem_map, List.mem_singleton, unreported, or_false]
  constructor
  · rintro ((old | ⟨held, -, same⟩) | sent | shut)
    · exact old
    · exact absurd same.symm (other _)
    · split at sent
      · exact absurd (List.mem_singleton.mp sent) unsent
      · cases sent
    · split at shut
      · exact absurd (List.mem_singleton.mp shut) (other _)
      · cases shut
  · exact fun old => .inl (.inl old)

theorem client_end_holds (client : Client) (rest : List Resource) (free : Free client.history rest)
    (undone : .sent IPERF_DONE ∉ client.history)
    (holds : Holds client.history (rest ++ (sockets client ++ control client))) (written : Bool) :
    Holds (iperf_client_end client written).history
      (rest ++ left (iperf_client_end client written)) := by
  have spare : ∀ fd sender thr, .thread fd sender thr ∉ control client := by
    intro fd sender thr inside
    simp [control] at inside
  have both : Free client.history (control client ++ rest) := by
    rcases free with displayed | idle
    · exact .inl displayed
    · right
      intro fd sender thr inside
      rcases List.mem_append.mp inside with own | other
      · exact spare fd sender thr own
      · exact idle fd sender thr other
  -- the sockets are what `closed_sockets` takes off the front
  have order : (rest ++ (sockets client ++ control client)).Perm
      (sockets client ++ (control client ++ rest)) := by
    apply List.perm_iff_count.mpr
    intro held
    simp only [List.count_append]
    omega
  have shut : Holds (client.history ++ (sockets client).map fun held => .resource (.closed held))
      (control client ++ rest) := closed_sockets both (holds.perm order)
  have reported : Holds (client.history ++
      ((sockets client).map fun held => .resource (.closed held)) ++
      [.report client.test.state]) (control client ++ rest) :=
    shut.happens rfl (fun spoken => absurd spoken Bool.false_ne_true) nofun
  have unsent : .sent IPERF_DONE ∉ client.history ++
      ((sockets client).map fun held => .resource (.closed held)) ++
      [.report client.test.state] := by
    simpa using undone
  have freed : ∀ history, Free history rest → Free (history ++ [.sent IPERF_DONE]) rest := by
    rintro history (displayed | idle)
    · exact .inl (List.mem_append_left _ displayed)
    · exact .inr idle
  have still : Free (client.history ++
      ((sockets client).map fun held => .resource (.closed held)) ++
      [.report client.test.state]) rest := by
    rcases free with displayed | idle
    · exact .inl (List.mem_append_left _ (List.mem_append_left _ displayed))
    · exact .inr idle
  rw [client_end_eq]
  by_cases number : 0 ≤ client.test.ctrl_sck
  · have held : control client = [.descriptor client.test.ctrl_sck] := if_pos number
    rw [held] at reported
    by_cases positive : 0 < client.test.state
    · cases written with
      | true =>
          have sent := @Holds.happens _ _ (.sent IPERF_DONE) reported rfl (fun _ => unsent)
            fun same => absurd same (by decide)
          have gone := Holds.free sent (freed _ still)
          simpa [left, positive, number] using gone
      | false =>
          -- a failed write returns before the control connection is closed
          have kept := reported.perm List.perm_append_comm
          simpa [left, control, positive, number, undone] using kept
    · have gone := Holds.free reported still
      have other : client.test.state ≠ IPERF_DONE := fun same => positive (by rw [same]; decide)
      simpa [left, positive, number, other] using gone
  · have none_held : control client = [] := if_neg number
    rw [none_held, List.nil_append] at reported
    simpa [left, control, number] using reported

/-- The results are displayed, and the sockets closed, with the receiving threads there. -/
theorem display_over (running : Running client) (written : Bool) :
    Over (iperf_client_end (happens (iperf_set_test_state client DISPLAY_RESULTS)
      (.received DISPLAY_RESULTS)) written) := by
  have unsaid : .sent IPERF_DONE ∉ client.history ++ [.received DISPLAY_RESULTS] :=
    fun inside => running.undone (mem_before inside (by simp))
  have holds : Holds (client.history ++ [.received DISPLAY_RESULTS]) (holdings client) :=
    running.holds.happens rfl (fun spoken => absurd spoken Bool.false_ne_true) nofun
  have shut := client_end_holds
    (happens (iperf_set_test_state client DISPLAY_RESULTS) (.received DISPLAY_RESULTS))
    (threads client) (.inl (List.mem_append_right _ (List.mem_singleton.mpr rfl)))
    unsaid holds written
  have kept := client_end_mem
    (happens (iperf_set_test_state client DISPLAY_RESULTS) (.received DISPLAY_RESULTS)) written
  have ended := client_end_eq
    (happens (iperf_set_test_state client DISPLAY_RESULTS) (.received DISPLAY_RESULTS)) written
  have streams : (iperf_client_end (happens (iperf_set_test_state client DISPLAY_RESULTS)
      (.received DISPLAY_RESULTS)) written).streams = client.streams := by
    rw [ended]
    rfl
  have positive : (0 : StateByte) < DISPLAY_RESULTS := by decide
  refine ⟨?_, ?_, ?_, ?_⟩
  · rw [ended]
    exact congrArg iperf_test.state (if_pos ⟨positive, running.number⟩)
  · rw [streams]
    exact running.idle
  · intro announced
    rw [streams]
    have before := (kept (.sent TEST_END) nofun nofun (by decide)).mp announced
    exact (running.announced (mem_before before (by simp))).2
  · have unread : .received IPERF_DONE ∉ (iperf_client_end (happens
        (iperf_set_test_state client DISPLAY_RESULTS) (.received DISPLAY_RESULTS))
          written).history := by
      rw [kept (.received IPERF_DONE) nofun nofun nofun]
      exact fun inside => running.unreceived (mem_before inside (by decide))
    have threads_same : threads (iperf_client_end (happens (iperf_set_test_state client
        DISPLAY_RESULTS) (.received DISPLAY_RESULTS)) written) = threads client := by
      rw [ended]
      simp only [threads]
      apply congrArg (List.map · _)
      funext sp
      simp only [ClientLoop.thread, descriptor]
      split <;> rfl
    rw [threads_same, unclosed, if_neg unread]
    exact shut

/-- The server's own `IPERF_DONE` ends the loop with everything still held. -/
theorem done_over (running : Running client) :
    Over (happens (iperf_set_test_state client IPERF_DONE) (.received IPERF_DONE)) := by
  have holds : Holds (client.history ++ [.received IPERF_DONE]) (holdings client) :=
    running.holds.happens rfl (fun spoken => absurd spoken Bool.false_ne_true) nofun
  have unsaid : .sent IPERF_DONE ∉ client.history ++ [.received IPERF_DONE] :=
    fun inside => running.undone (mem_before inside (by simp))
  have held : unclosed (happens (iperf_set_test_state client IPERF_DONE)
      (.received IPERF_DONE)) = sockets client :=
    if_pos (List.mem_append_right _ (List.mem_singleton.mpr rfl))
  have kept : left (happens (iperf_set_test_state client IPERF_DONE)
      (.received IPERF_DONE)) = control client := if_pos ⟨rfl, unsaid⟩
  refine ⟨rfl, running.idle, fun announced => ?_, ?_⟩
  · exact (running.announced (mem_before announced (by simp))).2
  · rw [held, kept]
    exact holds

theorem message_runs (running : Running client) (well : smooth → SmoothPass event) :
    Ends (fun after => Running after ∨ Over after) (Failing · smooth)
      (iperf_handle_message_client build client event) := by
  unfold iperf_handle_message_client
  split
  · exact running.fails_with _
  · exact running.fails_with _
  rename_i state _
  -- only these two messages end the loop; the others leave a running client
  have here : state ≠ IPERF_DONE → state ≠ DISPLAY_RESULTS →
      Running (happens (iperf_set_test_state client state) (.received state)) :=
    fun going hidden => (running.set_state going).happens rfl nofun
      (fun same => going (Happening.received.inj same))
      fun same => hidden (Happening.received.inj same)
  have on_ok : ∀ {result : Except Client Client}, Ends Running (Failing · smooth) result →
      Ends (fun after => Running after ∨ Over after) (Failing · smooth) result :=
    fun ends => ends.imp (fun _ good => .inl good) fun _ bad => bad
  dsimp only
  split
  · rename_i is
    subst is
    exact on_ok (attempt_runs (here (by decide) (by decide)) _ (.inl rfl))
  split
  · rename_i is
    subst is
    exact on_ok (create_all_runs (here (by decide) (by decide)) well)
  split
  · rename_i is
    subst is
    have going := here (by decide) (by decide)
    exact (start_test_alike _ event).imp (fun _ alike => .inl (going.alike alike))
      fun _ alike => going.fails.alike alike
  split
  · rename_i is
    subst is
    exact .inl (here (by decide) (by decide))
  split
  · rename_i is
    subst is
    exact on_ok (attempt_runs (here (by decide) (by decide)) _ (.inr rfl))
  split
  · rename_i is
    subst is
    exact .inr (display_over running event.done)
  split
  · rename_i is
    subst is
    exact .inr (done_over running)
  split
  · rename_i is
    subst is
    -- `SERVER_TERMINATE` reports under the state `DISPLAY_RESULTS` and puts its own back
    have going := here (by decide) (by decide)
    have refused := going.alike (alike_failed _ .IESERVERTERM)
    exact (@Running.happens _ (.report DISPLAY_RESULTS) refused rfl nofun nofun nofun).fails
  split
  · rename_i is
    subst is
    exact (here (by decide) (by decide)).fails_with _
  split
  · rename_i is
    subst is
    have going := here (by decide) (by decide)
    show Failing (server_error _ event) smooth
    unfold server_error
    split
    · exact going.fails_with _
    · split <;> exact going.fails_with _
  · rename_i not_displayed not_done _ _ _
    exact (here not_done not_displayed).fails_with _

theorem run_test_runs (reliable : Reliable event) (running : Running client) :
    Ends Running (Failing · smooth) (run_test client event) := by
  unfold run_test
  split
  · exact running
  apply Ends.bind (start_threads_runs running)
  rintro started ⟨going, begun⟩
  exact end_test_runs reliable (going.alike ⟨rfl, rfl⟩) begun

/-- What has ended runs no test. -/
theorem run_test_over (ended : Over client) : run_test client event = .ok client := by
  unfold run_test
  rw [if_pos]
  rw [ended.state]
  decide

theorem round_runs (reliable : Reliable event) (running : Running client)
    (well : smooth → SmoothPass event) :
    Ends (fun after => Running after ∨ Over after) (Failing · smooth)
      (ClientLoop.round build client event) := by
  have goes_on : Ends (fun after => Running after ∨ Over after) (Failing · smooth)
      (run_test client event) :=
    (run_test_runs reliable running).imp (fun _ good => .inl good) fun _ bad => bad
  unfold ClientLoop.round
  split
  · exact running.fails_with _
  · exact goes_on
  · split
    · exact running.fails_with _
    · exact goes_on
  · split
    · apply Ends.bind (message_runs running well)
      rintro handled (going | ended)
      · exact (run_test_runs reliable going).imp (fun _ good => .inl good) fun _ bad => bad
      · rw [run_test_over ended]
        exact .inr ended
    · exact goes_on

end Ending

section Returns
variable {build : Build} {client : Client} {event : Pass} {smooth : Prop}

/-- What is left at the return: at most one orphan, the threads that were not joined, the
sockets where the server sent `IPERF_DONE`, and the control connection where the client could
not. Only threads that send are left, and only where the client never came to `TEST_END`. -/
structure Settled (smooth : Prop) (code : Int32) (after : Client) : Prop where
  holds : ∃ orphans, Holds after.history
      (orphans ++ (threads after ++ (unclosed after ++ left after))) ∧
    orphans.length ≤ 1 ∧ (smooth ∨ code = 0 → orphans = [])
  running : ∀ sp ∈ after.streams, sp.thread_created →
    sp.sender ∧ .sent TEST_END ∉ after.history

theorem halt_left (chosen : Stream → Bool) : left (halt client chosen) = left client := by
  have said := @halt_said client chosen (.sent IPERF_DONE) nofun
  simp only [left, said]
  rfl

theorem halt_unclosed (chosen : Stream → Bool) :
    unclosed (halt client chosen) = unclosed client := by
  have said := @halt_said client chosen (.received IPERF_DONE) nofun
  simp only [unclosed, said, halt_sockets]

theorem cleanup_settled (reliable : Reliable event) (failing : Failing client smooth) :
    ∃ after, cleanup_and_fail client event = .returned (-1) after ∧ Settled smooth (-1) after := by
  obtain ⟨orphans, holds, few, other, none⟩ := failing.strands
  have order : (orphans ++ holdings client).Perm
      (threads client ++ (orphans ++ (sockets client ++ control client))) := by
    apply List.perm_iff_count.mpr
    intro held
    simp only [holdings, List.count_append]
    omega
  have halted := halt_holds (fun sp => ! sp.done) (holds.perm order)
  -- the streams that are done have no thread, so none is left behind
  have idle : ∀ sp ∈ (halt client fun sp => ! sp.done).streams, sp.thread_created = false := by
    intro sp inside
    rw [← Bool.not_eq_true]
    intro created
    obtain ⟨old, done⟩ := halt_running _ inside created
    rw [failing.idle sp old (by simpa using done)] at created
    cases created
  rw [threads_none idle, List.nil_append] at halted
  have unsaid : .sent IPERF_DONE ∉ (halt client fun sp => ! sp.done).history :=
    fun inside => failing.undone ((halt_said _ (.sent IPERF_DONE) nofun).mp inside)
  have shut := client_end_holds _ orphans (.inr other) unsaid
    (show Holds _ (orphans ++ (sockets (halt client fun sp => ! sp.done) ++ _)) from
      (@halt_sockets client fun sp => ! sp.done).symm ▸ halted) event.done
  have streams : (iperf_client_end (halt client fun sp => ! sp.done) event.done).streams =
      (halt client fun sp => ! sp.done).streams := by
    rw [client_end_eq]
  have none_after : threads (iperf_client_end (halt client fun sp => ! sp.done) event.done) = [] :=
    threads_none fun sp inside => idle sp (streams ▸ inside)
  have unread : .received IPERF_DONE ∉
      (iperf_client_end (halt client fun sp => ! sp.done) event.done).history := by
    rw [client_end_mem _ _ (.received IPERF_DONE) nofun nofun nofun,
      halt_said _ (.received IPERF_DONE) nofun]
    exact failing.unreceived
  refine ⟨iperf_client_end (halt client fun sp => ! sp.done) event.done, ?_,
    ⟨orphans, ?_, few, ?_⟩, ?_⟩
  · unfold cleanup_and_fail
    rw [stop_all_reliable reliable]
    rfl
  · rw [none_after, unclosed, if_neg unread]
    exact shut
  · rintro (strong | success)
    · exact none strong
    · exact absurd success (by decide)
  · intro sp inside created
    rw [idle sp (streams ▸ inside)] at created
    cases created

/-- The receiving threads are joined behind the loop. -/
theorem finish_settled (reliable : Reliable event) (ended : Over client) :
    ∃ code after, finish client event = .returned code after ∧ Settled smooth code after := by
  unfold finish
  rw [cancel_threads_reliable reliable]
  refine ⟨_, _, rfl, ⟨[], ?_, Nat.zero_le _, fun _ => rfl⟩, ?_⟩
  · rw [halt_unclosed, halt_left]
    exact halt_holds _ ended.holds
  · intro sp inside created
    obtain ⟨old, not_chosen⟩ := halt_running _ inside created
    refine ⟨by simpa using not_chosen, fun announced => ?_⟩
    have sends : sp.sender = true := by simpa using not_chosen
    rw [ended.announced ((halt_said _ (.sent TEST_END) nofun).mp announced) sp old sends] at created
    cases created

inductive Fate (smooth : Prop) : Status → Prop where
  | running {client : Client} (running : Running client) : Fate smooth (.loop client)
  | ended {client : Client} (ended : Over client) : Fate smooth (.loop client)
  | settled {code : Int32} {after : Client} (settled : Settled smooth code after) :
      Fate smooth (.returned code after)

theorem cleanup_fate (reliable : Reliable event) (failing : Failing client smooth) :
    Fate smooth (cleanup_and_fail client event) := by
  obtain ⟨after, returned, settled⟩ := cleanup_settled reliable failing
  rw [returned]
  exact .settled settled

theorem turn_fate {status : Status} (reliable : Reliable event)
    (well : smooth → SmoothPass event) (fate : Fate smooth status) :
    Fate smooth (turn build status event) := by
  cases fate with
  | settled settled => exact .settled settled
  | @ended client ended =>
      show Fate smooth (ClientLoop.pass build client event)
      -- the loop ends at this pass, and what it reads goes to the calls behind it
      rw [ClientLoop.pass, if_pos ended.state]
      obtain ⟨code, after, returned, settled⟩ := @finish_settled _ _ smooth reliable ended
      rw [returned]
      exact .settled settled
  | @running client running =>
      show Fate smooth (ClientLoop.pass build client event)
      rw [ClientLoop.pass, if_neg running.going]
      have ends := @round_runs build _ _ _ reliable running well
      split
      · rename_i after result
        rw [result] at ends
        rcases ends with running | ended
        · exact .running running
        · exact .ended ended
      · rename_i after result
        rw [result] at ends
        exact cleanup_fate reliable ends

theorem turns_fate {events : List Pass} {status : Status}
    (reliable : ∀ event ∈ events, Reliable event)
    (well : smooth → ∀ event ∈ events, SmoothPass event) (fate : Fate smooth status) :
    Fate smooth (events.foldl (turn build) status) := by
  -- on the passes to come: what the earlier ones left is all the later ones see
  induction events generalizing status with
  | nil => exact fate
  | cons event rest ih =>
      rw [List.foldl_cons]
      apply ih (fun other inside => reliable other (List.mem_cons_of_mem _ inside))
        (fun strong other inside => well strong other (List.mem_cons_of_mem _ inside))
      exact turn_fate (reliable event List.mem_cons_self)
        (fun strong => well strong event List.mem_cons_self) fate

section Begin
variable {calling : Calling}

/-- A client that has done nothing yet. -/
structure Fresh (client : Client) : Prop where
  streams : client.streams = []
  startup : client.startup = true
  history : client.history = []
  unconnected : client.test.ctrl_sck < 0
  going : client.test.state ≠ IPERF_DONE

/-- Nothing but resources is in the history of a connection that was dialled. -/
theorem dialled_said {before after : Client} (none_before : before.history = [])
    (same : view after = view before) {happening : Happening}
    (other : resources [happening] = []) : happening ∉ after.history := by
  rw [view_mem same other, none_before]
  exact List.not_mem_nil

/-- Behind the dialling `iperf_connect` changes neither the streams nor the history. -/
theorem dialled_careful {before dialled after : Client} (fresh : Fresh before)
    (same : view dialled = view before) (streams : after.streams = [])
    (history : after.history = dialled.history) : Careful after where
  idle := fun sp inside => absurd inside (by simp [streams])
  undone := history ▸ dialled_said fresh.history same rfl
  unreceived := history ▸ dialled_said fresh.history same rfl

theorem holds_alone (streams : client.streams = [])
    (holds : Holds client.history (control client)) : Holds client.history (holdings client) := by
  simpa [holdings, threads, sockets, streams] using holds

theorem connect_runs (fresh : Fresh client) :
    Ends Running (Failing · smooth) (iperf_connect build client calling) := by
  have cookie : Fresh { client with test := { client.test with cookie := calling.cookie } } :=
    ⟨fresh.streams, fresh.startup, fresh.history, fresh.unconnected, fresh.going⟩
  have made := @netdial_holds build
    { client with test := { client.test with cookie := calling.cookie } } [] 0
    calling.kernel calling.connected (fun _ _ _ inside => nomatch inside)
    (show Holds client.history [] from fresh.history ▸ holds_nil)
  unfold iperf_connect dial_control
  dsimp only
  rw [if_pos fresh.unconnected]
  cases dialled : netdial build
      { client with test := { client.test with cookie := calling.cookie } } 0
      calling.kernel calling.connected with
  | error after =>
      rw [dialled] at made
      obtain ⟨holds, same⟩ := made
      have fields := same
      simp only [view, Prod.mk.injEq] at fields
      have streams : after.streams = [] := fields.1.trans fresh.streams
      exact ⟨dialled_careful cookie same streams rfl, strands_nothing (holds_alone streams holds)⟩
  | ok result =>
      obtain ⟨s, after⟩ := result
      rw [dialled] at made
      obtain ⟨number, holds, same⟩ := made
      have fields := same
      simp only [view, Prod.mk.injEq] at fields
      have streams : after.streams = [] := fields.1.trans fresh.streams
      have none_there : ∀ sp, sp ∉ after.streams := by simp [streams]
      dsimp only at number holds same ⊢
      split
      · -- a call on the connection failed, and it is left to the cleanup
        refine ⟨dialled_careful cookie same streams rfl,
          strands_nothing (holds_alone streams ?_)⟩
        simpa [control, failed, number] using holds
      · refine ⟨⟨dialled_careful cookie same streams rfl,
          fun _ sp inside => absurd inside (none_there sp),
          fun inside => absurd inside (dialled_said cookie.history same rfl),
          dialled_said cookie.history same rfl, number, ?_⟩, ?_⟩
        · exact fun done => fresh.going (fields.2.2.2.1.symm.trans done)
        · apply @holds_alone { after with
            test := Arguments.iperf_connect after.test calling.cookie s calling.mss } streams
          simpa [control, number, Arguments.iperf_connect] using holds

theorem run_client_fate {first : Pass} {events : List Pass} (fresh : Fresh client)
    (reliable : ∀ event ∈ first :: events, Reliable event) :
    Fate (∀ event ∈ events, SmoothPass event)
      (iperf_run_client build client calling first events) := by
  apply turns_fate (fun event inside => reliable event (List.mem_cons_of_mem _ inside))
    fun strong => strong
  have ends := @connect_runs build client (∀ event ∈ events, SmoothPass event) calling fresh
  unfold begin_client
  split
  · rename_i after result
    rw [result] at ends
    exact .running ends
  · rename_i after result
    rw [result] at ends
    exact cleanup_fate (reliable first List.mem_cons_self) ends

/-- In every run, whatever the system, the server and the threads do. -/
theorem run_client_ordered {first : Pass} {events : List Pass} (fresh : Fresh client)
    (reliable : ∀ event ∈ first :: events, Reliable event)
    (lawful : Lawful
      (resources (iperf_run_client build client calling first events).client.history)) :
    Each Ordered (iperf_run_client build client calling first events).client.history := by
  have fate := @run_client_fate build client calling first events fresh reliable
  generalize iperf_run_client build client calling first events = status at fate lawful ⊢
  cases fate with
  | running running => exact (running.holds lawful).2
  | ended ended => exact (ended.holds lawful).2
  | settled settled =>
      obtain ⟨orphans, holds, -⟩ := settled.holds
      exact (holds lawful).2

/-- What has been given back at the return, and what has not. -/
theorem run_client_accounts {first : Pass} {events : List Pass} {code : Int32} {after : Client}
    (fresh : Fresh client) (reliable : ∀ event ∈ first :: events, Reliable event)
    (returned : iperf_run_client build client calling first events = .returned code after)
    (lawful : Lawful (resources after.history)) :
    (∃ orphans, Accounts after.history
        (orphans ++ (threads after ++ (unclosed after ++ left after))) ∧ orphans.length ≤ 1 ∧
      ((∀ event ∈ events, SmoothPass event) ∨ code = 0 → orphans = [])) ∧
    ∀ sp ∈ after.streams, sp.thread_created → sp.sender ∧ .sent TEST_END ∉ after.history := by
  have fate := @run_client_fate build client calling first events fresh reliable
  rw [returned] at fate
  cases fate with
  | settled settled =>
      obtain ⟨orphans, holds, few, none⟩ := settled.holds
      exact ⟨⟨orphans, (holds lawful).1, few, none⟩, settled.running⟩

end Begin

end Returns

section Samples

def answers_sample (server_res : Nat) (socket : Int32) : Kernel :=
  { local_res := none, server_res := some server_res, family := .AF_INET, socket := socket
    device_bound := true, bound := true }

def calling_sample : Calling :=
  { cookie := List.replicate 36 97 ++ [0], kernel := answers_sample 1 3, connected := true
    no_delay := true, keepalive := none, user_timeout := true, greeted := true, mss := none }

def connecting_sample : Connecting :=
  { kernel := answers_sample 2 4, no_delay := true, mss := true, rcvbuf := true, sndbuf := true
    user_timeout := true, flowlabel := true, initmsg := true, first_bound := true
    others_found := true, bindx := true
    disable_fragments := true, sndbuf_actual := some 8192, rcvbuf_actual := some 8192
    connected := true, cookie_sent := true, buffercheck := 0, rechecked := 0, buffers := .IESETBUF
    written := true, datagrams := [some UDP_CONNECT_REPLY], stream_id := 0 }

/-- A pass with nothing to read in which all calls succeed; the others name what comes. -/
def pass_sample : Pass :=
  { selected := .interrupted, byte := .closed, parameters := none, results := none
    making := fun _ _ =>
      { connecting := connecting_sample, congestion_set := true, algorithm := some "cubic"
        created := none }
    initialized := true, timed := true, scheduled := true, omit_timed := true, send_timed := true
    errno := none, errno_complete := true, attr_init := true, attr_destroy := true
    spawned := [some 7], file_ended := false, due := 0, omit_due := 0, bytes_sent := 0
    bytes_received := 0, blocks_sent := 0, blocks_received := 0, cancelled := fun _ => .success
    joined := fun _ => .success, ended := true, done := true, finished := true }

def told (state : StateByte) : Pass :=
  { pass_sample with selected := .ready true, byte := .received state }

def test_sample : iperf_test :=
  { mode := .SENDER, ctrl_sck := -1, num_streams := 1, duration := 10 }

def choices_sample : Choices :=
  { bind_address := false, bind_dev := false, bind_port := 0, snd_timeout := 0, num_ostreams := 0
    xbind_addrs := 0 }

def build_sample : Build :=
  { HAVE_SO_BINDTODEVICE := true, HAVE_TCP_USER_TIMEOUT := true, HAVE_TCP_KEEPALIVE := true
    HAVE_FLOWLABEL := true, HAVE_SCTP_H := false }

/-- A test with one stream, from the connection to the results. -/
def passes_sample : List Pass :=
  [told PARAM_EXCHANGE, told CREATE_STREAMS, told TEST_START, told TEST_RUNNING,
    { pass_sample with due := 1 }, told EXCHANGE_RESULTS, told DISPLAY_RESULTS, pass_sample]

def run_sample : Status :=
  iperf_run_client build_sample (new_client test_sample choices_sample) calling_sample pass_sample
    passes_sample

theorem passes_reliable : ∀ event ∈ pass_sample :: passes_sample, Reliable event := by
  have same : ∀ event ∈ pass_sample :: passes_sample,
      event.cancelled = (fun _ => .success) ∧ event.joined = fun _ => .success := by
    simp [passes_sample, told, pass_sample]
  intro event inside thr
  obtain ⟨cancelled, joined⟩ := same event inside
  rw [cancelled, joined]
  exact ⟨by simp, rfl⟩

theorem run_log : resources run_sample.client.history =
    [.opened (.addresses 1), .opened (.descriptor 3), .closed (.addresses 1),
      .opened (.addresses 2), .opened (.descriptor 4), .closed (.addresses 2),
      .opened (.thread (some 4) true 7), .closed (.thread (some 4) true 7),
      .closed (.descriptor 4), .closed (.descriptor 3)] := by
  decide +kernel

theorem run_lawful : Lawful (resources run_sample.client.history) := by
  have lawful : Lawful (([] : List (Entry Resource)) ++ [.opened (.addresses 1)] ++
      [.opened (.descriptor 3)] ++ [.closed (.addresses 1)] ++ [.opened (.addresses 2)] ++
      [.opened (.descriptor 4)] ++ [.closed (.addresses 2)] ++
      [.opened (.thread (some 4) true 7)] ++ [.closed (.thread (some 4) true 7)] ++
      [.closed (.descriptor 4)] ++ [.closed (.descriptor 3)]) := by
    simp only [lawful_opened, lawful_closed]
    exact ⟨⟨⟨⟨⟨each_nil _, by decide⟩, by decide⟩, by decide⟩, by decide⟩, by decide⟩
  rw [run_log]
  exact lawful

theorem client_fresh : Fresh (new_client test_sample choices_sample) :=
  ⟨rfl, rfl, rfl, by decide, by decide⟩

theorem run_client_ordered_sample : Each Ordered run_sample.client.history :=
  run_client_ordered client_fresh passes_reliable run_lawful

theorem run_client_accounts_sample :
    (∃ orphans, Accounts run_sample.client.history
        (orphans ++ (threads run_sample.client ++
          (unclosed run_sample.client ++ left run_sample.client))) ∧ orphans.length ≤ 1 ∧
      ((∀ event ∈ passes_sample, SmoothPass event) ∨ (0 : Int32) = 0 → orphans = [])) ∧
    ∀ sp ∈ run_sample.client.streams, sp.thread_created →
      sp.sender ∧ .sent TEST_END ∉ run_sample.client.history :=
  run_client_accounts client_fresh passes_reliable
    (show run_sample = .returned 0 run_sample.client by decide +kernel) run_lawful

end Samples

end Iperf.ClientRuns
