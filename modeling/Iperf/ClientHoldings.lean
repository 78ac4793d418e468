import Iperf.ClientLoop

/-!
What a client holds after each of its calls, and the order in which things may happen:
no descriptor is closed under a running thread before the results are displayed, the
end of the test is announced only when no thread sends, and nothing is said after
`IPERF_DONE`.
-/

namespace Iperf.ClientHoldings

open TestState Config DescriptorLedger Outcome Transition ClientSockets ClientLoop

section History
variable {history : List Happening} {owned others : List Resource}

@[simp] theorem resources_append (front back : List Happening) :
    resources (front ++ back) = resources front ++ resources back :=
  List.filterMap_append

@[simp] theorem resources_entry (entry : Entry Resource) :
    resources [.resource entry] = [entry] := rfl

/-- What goes over the control connection. -/
def speaks : Happening → Bool
  | .sent _ | .parameters | .results => true
  | _ => false

theorem resource_silent (entry : Entry Resource) : ¬ speaks (.resource entry) :=
  Bool.false_ne_true

/-- Only what is held is given back, but for a socket that `iperf_sctp_bindx` closed just
before. -/
def Given (front : List Happening) (happening : Happening) : Prop :=
  ∀ resource, resources [happening] = [.closed resource] →
    isOpen (resources front) resource = true ∨
      ∃ before s list, resource = .descriptor s ∧
        front = before ++ [.bindx_closed s, .resource (.closed (.addresses list))]

structure Ordered (front : List Happening) (happening : Happening) : Prop where
  closed : ∀ fd, resources [happening] = [.closed (.descriptor fd)] → ∀ sender thr,
    isOpen (resources front) (.thread (some fd) sender thr) = true →
      .received DISPLAY_RESULTS ∈ front
  ended : happening = .sent TEST_END → ∀ fd thr,
    isOpen (resources front) (.thread fd true thr) = false
  said : speaks happening → .sent IPERF_DONE ∉ front

/-- Exactly these are held, and what was given back was held. -/
structure Accounts (history : List Happening) (owned : List Resource) : Prop where
  held : Held (resources history) owned
  given : Each Given history

/-- This is held, and everything happened in order, in a history in which the system gives
out nothing twice. -/
def Holds (history : List Happening) (owned : List Resource) : Prop :=
  Lawful (resources history) → Accounts history owned ∧ Each Ordered history

/-- Threads work on descriptors that are held. -/
def Covered (owned : List Resource) : Prop :=
  ∀ fd sender thr, .thread (some fd) sender thr ∈ owned → .descriptor fd ∈ owned

theorem Covered.cons {resource : Resource} (covered : Covered owned)
    (other : ∀ fd sender thr, resource ≠ .thread fd sender thr) : Covered (resource :: owned) := by
  intro fd sender thr running
  rcases List.mem_cons.mp running with same | inside
  · exact absurd same.symm (other (some fd) sender thr)
  · exact List.mem_cons_of_mem _ (covered fd sender thr inside)

theorem holds_nil : Holds [] [] := fun _ => ⟨⟨held_nil, each_nil _⟩, each_nil _⟩

theorem Holds.perm (holds : Holds history owned) (same : owned.Perm others) :
    Holds history others := fun lawful =>
  ⟨⟨(holds lawful).1.held.perm same, (holds lawful).1.given⟩, (holds lawful).2⟩

theorem Holds.opened {resource : Resource} (holds : Holds history owned) :
    Holds (history ++ [.resource (.opened resource)]) (resource :: owned) := by
  intro lawful
  rw [resources_append, resources_entry] at lawful
  obtain ⟨before, fresh⟩ := lawful_opened.mp lawful
  obtain ⟨accounts, each⟩ := holds before
  refine ⟨⟨?_, (each_append _ _ _).mpr ⟨accounts.given, nofun⟩⟩,
    (each_append _ _ _).mpr ⟨each, nofun, nofun, fun spoken => absurd spoken (resource_silent _)⟩⟩
  rw [resources_append, resources_entry]
  exact accounts.held.opened fresh

/-- The rule for whatever gives a resource back. -/
theorem Holds.closed_by {happening : Happening} {resource : Resource}
    (holds : Holds history (resource :: owned))
    (closes : resources [happening] = [.closed resource]) (silent : ¬ speaks happening)
    (ordered : ∀ fd, resource = .descriptor fd → Held (resources history) (resource :: owned) →
      ∀ sender thr, .thread (some fd) sender thr ∈ owned → .received DISPLAY_RESULTS ∈ history) :
    Holds (history ++ [happening]) owned := by
  intro lawful
  rw [resources_append, closes] at lawful
  obtain ⟨accounts, each⟩ := holds (lawful_closed.mp lawful)
  refine ⟨⟨?_, (each_append _ _ _).mpr ⟨accounts.given, ?_⟩⟩,
    (each_append _ _ _).mpr ⟨each, ?_, ?_, fun spoken => absurd spoken silent⟩⟩
  · rw [resources_append, closes]
    exact accounts.held.closed
  · intro other same
    obtain rfl : resource = other := by simpa [closes] using same
    exact .inl ((accounts.held.holds resource).mpr List.mem_cons_self)
  · intro fd same sender thr running
    obtain rfl : resource = .descriptor fd := by simpa [closes] using same
    rcases List.mem_cons.mp ((accounts.held.holds _).mp running) with thread | inside
    · cases thread
    · exact ordered fd rfl accounts.held sender thr inside
  · rintro rfl
    exact absurd rfl silent

theorem Holds.closed {resource : Resource} (holds : Holds history (resource :: owned))
    (ordered : ∀ fd, resource = .descriptor fd → Held (resources history) (resource :: owned) →
      ∀ sender thr, .thread (some fd) sender thr ∈ owned → .received DISPLAY_RESULTS ∈ history) :
    Holds (history ++ [.resource (.closed resource)]) owned :=
  holds.closed_by rfl (resource_silent _) ordered

theorem Holds.freed {list : Nat} (holds : Holds history (.addresses list :: owned)) :
    Holds (history ++ [.resource (.closed (.addresses list))]) owned :=
  holds.closed fun _ same => nomatch same

theorem Holds.joined {fd : Option Int32} {sender : Bool} {thr : Nat}
    (holds : Holds history (.thread fd sender thr :: owned)) :
    Holds (history ++ [.resource (.closed (.thread fd sender thr))]) owned :=
  holds.closed fun _ same => nomatch same

/-- A thread on the descriptor would hold it once more. -/
theorem Holds.close_by {happening : Happening} {fd : Int32}
    (holds : Holds history (.descriptor fd :: owned)) (covered : Covered owned)
    (closes : resources [happening] = [.closed (.descriptor fd)]) (silent : ¬ speaks happening) :
    Holds (history ++ [happening]) owned := by
  apply holds.closed_by closes silent
  rintro _ ⟨⟩ held sender thr running
  exact absurd (covered fd sender thr running) (List.nodup_cons.mp held.distinct).1

theorem Holds.close {fd : Int32} (holds : Holds history (.descriptor fd :: owned))
    (covered : Covered owned) :
    Holds (history ++ [.resource (.closed (.descriptor fd))]) owned :=
  holds.close_by covered rfl (resource_silent _)

/-- The socket is closed once more. Nothing else is it, and no thread works on it. -/
theorem Holds.close_again {fd : Int32} {list : Nat} (holds : Holds history
      (.descriptor fd :: .addresses list :: owned)) (covered : Covered owned) :
    Holds (history ++ [.bindx_closed fd] ++ [.resource (.closed (.addresses list))] ++
      [.resource (.closed (.descriptor fd))]) owned := by
  intro lawful
  have shut : Holds (history ++ [.bindx_closed fd]) (.addresses list :: owned) :=
    holds.close_by (covered.cons (by simp)) rfl Bool.false_ne_true
  rw [resources_append, resources_entry, lawful_closed] at lawful
  have before : Lawful (resources history) := by
    rw [resources_append, resources_entry, lawful_closed, resources_append] at lawful
    exact lawful_closed.mp lawful
  have absent : .descriptor fd ∉ owned := fun member =>
    (List.nodup_cons.mp (holds before).1.held.distinct).1 (List.mem_cons_of_mem _ member)
  obtain ⟨accounts, each⟩ := shut.freed lawful
  refine ⟨⟨?_, (each_append _ _ _).mpr ⟨accounts.given, ?_⟩⟩, (each_append _ _ _).mpr
    ⟨each, ?_, nofun, fun spoken => absurd spoken (resource_silent _)⟩⟩
  · rw [resources_append, resources_entry]
    exact accounts.held.closed_again absent
  · rintro resource same
    obtain rfl : Resource.descriptor fd = resource := by simpa using same
    exact .inr ⟨history, fd, list, rfl, by simp⟩
  · intro other same sender thr running
    obtain rfl : fd = other := by simpa using same
    exact absurd (covered fd sender thr ((accounts.held.holds _).mp running)) absent

theorem Holds.close_displayed {fd : Int32} (holds : Holds history (.descriptor fd :: owned))
    (displayed : .received DISPLAY_RESULTS ∈ history) :
    Holds (history ++ [.resource (.closed (.descriptor fd))]) owned :=
  holds.closed fun _ _ _ _ _ _ => displayed

/-- Whatever is no resource, with what it needs. -/
theorem Holds.happens {happening : Happening} (holds : Holds history owned)
    (other : resources [happening] = [])
    (said : speaks happening → .sent IPERF_DONE ∉ history)
    (quiet : happening = .sent TEST_END → ∀ fd thr, .thread fd true thr ∉ owned) :
    Holds (history ++ [happening]) owned := by
  intro lawful
  rw [resources_append, other, List.append_nil] at lawful
  obtain ⟨accounts, each⟩ := holds lawful
  have unclosed : ∀ resource, resources [happening] ≠ [.closed resource] := by simp [other]
  refine ⟨⟨?_, (each_append _ _ _).mpr ⟨accounts.given, fun resource closes =>
    absurd closes (unclosed resource)⟩⟩, (each_append _ _ _).mpr ⟨each, fun fd closes =>
    absurd closes (unclosed _), fun same fd thr => ?_, said⟩⟩
  · rw [resources_append, other, List.append_nil]
    exact accounts.held
  · rw [← Bool.not_eq_true]
    exact fun running => quiet same fd thr ((accounts.held.holds _).mp running)

end History

/-- What the loop looks at: everything but the errors, the settings and the resources. -/
def view (client : Client) :=
  (client.streams, client.startup, client.choices, client.test.state, client.test.protocol,
    client.test.ctrl_sck, client.history.filter fun happening => resources [happening] = [])

section View
variable (client : Client)

@[simp] theorem view_opened (resource : Resource) : view (opened client resource) = view client := by
  simp [view, opened, happens, resources]

@[simp] theorem view_closed (resource : Resource) : view (closed client resource) = view client := by
  simp [view, closed, happens, resources]

@[simp] theorem view_close (s : Int32) : view (close client s) = view client :=
  view_closed client _

@[simp] theorem view_freeaddrinfo (list : Option Nat) :
    view (freeaddrinfo client list) = view client := by
  cases list with
  | none => rfl
  | some list => exact view_closed client _

@[simp] theorem view_look_up (list : Option Nat) : view (look_up client list) = view client := by
  cases list with
  | none => rfl
  | some list => exact view_opened client _

@[simp] theorem view_failed (errno : ClientErrno) : view (failed client errno) = view client := rfl

end View

theorem view_choices {before after : Client} (same : view after = view before) :
    after.choices = before.choices := by
  simp only [view, Prod.mk.injEq] at same
  exact same.2.2.1

section Sockets
variable {build : Build} {client : Client} {owned : List Resource} {local_port : Int32}

/-- What a list of `getaddrinfo` counts for. -/
def listed (list : Option Nat) : List Resource := (list.map .addresses).toList

theorem listed_covered (covered : Covered owned) (list : Option Nat) :
    Covered (listed list ++ owned) := by
  cases list with
  | none => exact covered
  | some list => exact covered.cons (by simp)

theorem look_up_holds (holds : Holds client.history owned) (list : Option Nat) :
    Holds (look_up client list).history (listed list ++ owned) := by
  cases list with
  | none => exact holds
  | some list => exact holds.opened

theorem freeaddrinfo_holds {list : Option Nat}
    (holds : Holds client.history (listed list ++ owned)) :
    Holds (freeaddrinfo client list).history owned := by
  cases list with
  | none => exact holds
  | some list => exact holds.freed

/-- The own addresses go while what was looked up later stays. -/
theorem freeaddrinfo_behind (front : List Resource) {list : Option Nat}
    (holds : Holds client.history (front ++ (listed list ++ owned))) :
    Holds (freeaddrinfo client list).history (front ++ owned) := by
  apply freeaddrinfo_holds
  apply holds.perm
  rw [← List.append_assoc, ← List.append_assoc]
  exact List.perm_append_comm.append_right owned

/-- A failed dial closes the socket and frees both lists. -/
theorem abandon_holds {s : Int32} {list : Option Nat} {server_res : Nat} (covered : Covered owned)
    (holds : Holds client.history
      (.descriptor s :: .addresses server_res :: (listed list ++ owned))) :
    Holds (freeaddrinfo (freeaddrinfo (close client s) list) (some server_res)).history owned := by
  have shut : Holds (close client s).history (.addresses server_res :: (listed list ++ owned)) :=
    holds.close ((listed_covered covered list).cons (by simp))
  have freed : Holds (freeaddrinfo (close client s) list).history
      (.addresses server_res :: owned) :=
    freeaddrinfo_behind [.addresses server_res] shut
  exact @freeaddrinfo_holds _ _ (some server_res) freed

theorem release_holds {s : Int32} {server_res : Nat} (covered : Covered owned)
    (holds : Holds client.history (.descriptor s :: .addresses server_res :: owned)) :
    Holds (freeaddrinfo (close client s) (some server_res)).history owned :=
  @abandon_holds _ _ s none server_res covered holds

theorem keep_holds {s : Int32} {server_res : Nat}
    (holds : Holds client.history (.descriptor s :: .addresses server_res :: owned)) :
    Holds (freeaddrinfo client (some server_res)).history (.descriptor s :: owned) :=
  @freeaddrinfo_behind _ _ [.descriptor s] (some server_res) holds

theorem create_socket_holds (kernel : Kernel) (covered : Covered owned)
    (holds : Holds client.history owned) :
    Ends (fun made => Holds made.2.history (.descriptor made.1.1 :: .addresses made.1.2 :: owned))
      (fun client => Holds client.history owned) (create_socket build client local_port kernel) := by
  unfold create_socket
  split
  · exact holds
  have looked := look_up_holds holds (own_addresses client kernel)
  dsimp only
  split
  · exact freeaddrinfo_holds looked
  rename_i server_res _
  have both : Holds (ClientSockets.opened (look_up client (own_addresses client kernel))
      (.addresses server_res)).history
      (.addresses server_res :: (listed (own_addresses client kernel) ++ owned)) := looked.opened
  split
  · exact @freeaddrinfo_holds _ _ (some server_res) (freeaddrinfo_behind [_] both)
  have all := @Holds.opened _ _ (.descriptor kernel.socket) both
  split
  · exact abandon_holds covered all
  split
  · split
    · exact freeaddrinfo_behind [_, _] all
    · exact abandon_holds covered all
  · -- nothing was looked up for the own side
    rename_i named
    have same : view (ClientSockets.opened (ClientSockets.opened (look_up client
        (own_addresses client kernel)) (.addresses server_res)) (.descriptor kernel.socket)) =
          view client := by simp
    rw [view_choices same] at named
    have none_own : own_addresses client kernel = none := if_neg named
    rw [none_own] at all ⊢
    split
    · exact release_holds covered all
    · exact all

theorem create_socket_kept (kernel : Kernel) :
    Ends (fun made => 0 ≤ made.1.1 ∧ view made.2 = view client)
      (fun after => view after = view client) (create_socket build client local_port kernel) := by
  unfold create_socket
  split
  · rfl
  dsimp only
  split
  · simp
  split
  · simp
  rename_i number
  have number : 0 ≤ kernel.socket := Int32.not_lt.mp number
  split
  · simp
  split
  · split
    · simpa using number
    · simp
  · split
    · simp
    · simpa using number

theorem netdial_holds (kernel : Kernel) (connected : Bool) (covered : Covered owned)
    (holds : Holds client.history owned) :
    Ends (fun made => 0 ≤ made.1 ∧ Holds made.2.history (.descriptor made.1 :: owned) ∧
        view made.2 = view client)
      (fun after => Holds after.history owned ∧ view after = view client)
      (netdial build client local_port kernel connected) := by
  apply Ends.bind ((create_socket_holds kernel covered holds).both (create_socket_kept kernel))
  rintro ⟨⟨s, server_res⟩, dialled⟩ ⟨made, number, same⟩
  dsimp only at made number same ⊢
  split
  · exact ⟨number, keep_holds made, by simpa using same⟩
  · exact ⟨release_holds covered made, by simpa using same⟩

/-- The socket buffers are as asked for, and the server's first datagram is its reply. -/
structure Smooth (answers : Connecting) : Prop where
  checked : 0 ≤ answers.buffercheck ∧ 0 ≤ answers.rechecked
  set : answers.rcvbuf ∧ answers.sndbuf
  written : answers.written
  replied : ∃ datagram rest, answers.datagrams = some datagram :: rest ∧
    is_reply (recv UDP_CONNECT_MSG datagram)

/-- At most one socket or list is left behind, and none where all went well. -/
def Strands (smooth : Prop) (owned : List Resource) (client : Client) : Prop :=
  ∃ orphans, Holds client.history (orphans ++ owned) ∧ orphans.length ≤ 1 ∧
    (∀ fd sender thr, .thread fd sender thr ∉ orphans) ∧ (smooth → orphans = [])

theorem strands_nothing {smooth : Prop} (holds : Holds client.history owned) :
    Strands smooth owned client :=
  ⟨[], holds, Nat.zero_le _, by simp, fun _ => rfl⟩

theorem strands_one {smooth : Prop} {orphan : Resource}
    (holds : Holds client.history (orphan :: owned))
    (other : ∀ fd sender thr, orphan ≠ .thread fd sender thr) (rough : ¬ smooth) :
    Strands smooth owned client :=
  ⟨[orphan], holds, Nat.le_refl _, by simp [fun fd sender thr => (other fd sender thr).symm],
    fun well => absurd well rough⟩

/-- A connect function that succeeds adds its socket to what is held. -/
def Connects (smooth : Prop) (client : Client) (owned : List Resource) :
    Except Client (Int32 × Client) → Prop :=
  Ends (fun made => 0 ≤ made.1 ∧ Holds made.2.history (.descriptor made.1 :: owned) ∧
      view made.2 = view client)
    (fun after => Strands smooth owned after ∧ view after = view client)

theorem iperf_tcp_connect_connects (answers : Connecting) (covered : Covered owned)
    (holds : Holds client.history owned) :
    Connects (Smooth answers) client owned
      (iperf_tcp_connect build client local_port answers) := by
  have made := (@create_socket_holds build _ _ local_port answers.kernel covered
    holds).both (create_socket_kept answers.kernel)
  unfold iperf_tcp_connect
  split
  · rename_i dialled
    rw [dialled] at made
    exact ⟨strands_nothing made.1, made.2⟩
  · rename_i s server_res after dialled
    rw [dialled] at made
    obtain ⟨both, number, same⟩ := made
    split
    · exact ⟨strands_nothing (release_holds covered both), by simpa using same⟩
    · have kept := keep_holds both
      dsimp only
      split
      · exact ⟨number, kept, by simpa using same⟩
      · exact ⟨strands_nothing (kept.close covered), by simpa using same⟩

theorem check_buffers_history (answers : Connecting) :
    Ends (fun after => after.history = client.history ∧ view after = view client)
      (fun after => after.history = client.history ∧ view after = view client ∧ ¬ Smooth answers)
      (check_buffers client answers) := by
  unfold check_buffers
  split
  · rename_i small
    exact ⟨rfl, rfl, fun smooth => absurd small (Int32.not_lt.mpr smooth.checked.1)⟩
  split
  · dsimp only
    split
    · rename_i small
      exact ⟨by simp [failed], by simp [view, failed],
        fun smooth => absurd small (Int32.not_lt.mpr smooth.checked.2)⟩
    · exact ⟨rfl, by simp [view]⟩
  · exact ⟨rfl, rfl⟩

theorem iperf_udp_connect_connects (answers : Connecting) (covered : Covered owned)
    (holds : Holds client.history owned) :
    Connects (Smooth answers) client owned
      (iperf_udp_connect build client local_port answers) := by
  have made := @netdial_holds build _ _ local_port answers.kernel answers.connected
    covered holds
  unfold iperf_udp_connect
  split
  · rename_i dialled
    rw [dialled] at made
    exact ⟨strands_nothing made.1, made.2⟩
  · rename_i s dialled_client dialled
    rw [dialled] at made
    obtain ⟨number, both, same⟩ := made
    -- the socket is not closed again on any of these paths
    have left : ∀ after : Client, after.history = dialled_client.history → ¬ Smooth answers →
        Strands (Smooth answers) owned after := fun after history rough =>
      strands_one (history ▸ both) (by simp) rough
    apply Ends.bind ((check_buffers_history answers).imp (fun _ good => good)
      fun after bad => ⟨left after bad.1 bad.2.2, bad.2.1.trans same⟩)
    rintro after ⟨history, kept⟩
    split
    · rename_i unwritten
      exact ⟨left _ history fun smooth => unwritten smooth.written, kept.trans same⟩
    split
    · exact ⟨number, history ▸ both, kept.trans same⟩
    · rename_i unheard
      refine ⟨left _ history fun smooth => unheard ?_, kept.trans same⟩
      obtain ⟨datagram, rest, arrived, reply⟩ := smooth.replied
      rw [arrived, wait_for_reply]
      simp [reply]

/-- The socket is as it was, or closed. -/
theorem iperf_sctp_bindx_ends {s : Int32} (answers : Connecting) :
    Ends (fun after => after = client)
      (fun after => view after = view client ∧
        (after.history = client.history ∨ after.history = client.history ++ [.bindx_closed s]))
      (iperf_sctp_bindx client s answers) := by
  unfold iperf_sctp_bindx
  split
  · rfl
  split
  · exact ⟨rfl, .inl rfl⟩
  split
  · rfl
  split
  · exact ⟨rfl, .inl rfl⟩
  split
  · exact ⟨by simp [view, failed, happens, resources], .inr rfl⟩
  · rfl

theorem sctp_options_connects {s : Int32} {server_res : Nat} (answers : Connecting)
    {smooth : Prop} {before : Client} (covered : Covered owned) (number : 0 ≤ s)
    (holds : Holds client.history (.descriptor s :: .addresses server_res :: owned))
    (same : view client = view before) :
    Connects smooth before owned (sctp_options client s server_res answers) := by
  unfold sctp_options
  split
  · exact ⟨strands_nothing (release_holds covered holds), by simpa using same⟩
  have bound := @iperf_sctp_bindx_ends client s answers
  split
  · rename_i after refused
    rw [refused] at bound
    refine ⟨strands_nothing ?_, by simpa using bound.1.trans same⟩
    rcases bound.2 with kept | shut
    · exact (@keep_holds after _ _ _ (kept ▸ holds)).close covered
    · have again := holds.close_again covered
      rwa [← shut] at again
  · rename_i after accepted
    rw [accepted] at bound
    obtain rfl : after = client := bound
    split
    · exact ⟨strands_nothing (release_holds covered holds), by simpa using same⟩
    · exact ⟨number, keep_holds holds, by simpa using same⟩

/-- With `-B`, a buffer size that cannot be set leaves the list of the own addresses. -/
theorem iperf_sctp_connect_connects (answers : Connecting) (covered : Covered owned)
    (holds : Holds client.history owned) :
    Connects (Smooth answers) client owned
      (iperf_sctp_connect build client local_port answers) := by
  unfold iperf_sctp_connect
  split
  · exact ⟨strands_nothing holds, rfl⟩
  dsimp only
  split
  · exact ⟨strands_nothing holds, rfl⟩
  have looked := look_up_holds holds (own_addresses client answers.kernel)
  split
  · exact ⟨strands_nothing (freeaddrinfo_holds looked), by simp⟩
  rename_i server_res _
  have both : Holds (ClientSockets.opened (look_up client (own_addresses client answers.kernel))
      (.addresses server_res)).history
      (.addresses server_res :: (listed (own_addresses client answers.kernel) ++ owned)) :=
    looked.opened
  split
  · exact ⟨strands_nothing (@freeaddrinfo_holds _ _ (some server_res)
      (freeaddrinfo_behind [_] both)), by simp⟩
  rename_i number
  have number : 0 ≤ answers.kernel.socket := Int32.not_lt.mp number
  have all : Holds (ClientSockets.opened (ClientSockets.opened (look_up client
      (own_addresses client answers.kernel)) (.addresses server_res))
        (.descriptor answers.kernel.socket)).history
      (.descriptor answers.kernel.socket :: .addresses server_res ::
        (listed (own_addresses client answers.kernel) ++ owned)) := both.opened
  have same : view (ClientSockets.opened (ClientSockets.opened (look_up client
      (own_addresses client answers.kernel)) (.addresses server_res))
        (.descriptor answers.kernel.socket)) = view client := by simp
  split
  · -- the socket and the server's addresses go back; the own list, if there is one, does not
    rename_i refused
    refine ⟨?_, by simp⟩
    have left := release_holds (listed_covered covered _) all
    cases own : own_addresses client answers.kernel with
    | none =>
        rw [own] at left
        exact strands_nothing left
    | some list =>
        rw [own] at left
        exact strands_one left (by simp) fun smooth => refused.2 smooth.set
  split
  · exact ⟨strands_nothing (abandon_holds covered all), by simp⟩
  split
  · split
    · exact sctp_options_connects answers covered number (freeaddrinfo_behind [_, _] all) (by simp)
    · exact ⟨strands_nothing (abandon_holds covered all), by simp⟩
  · -- nothing was looked up for the own side
    rename_i named
    rw [view_choices same] at named
    have none_own : own_addresses client answers.kernel = none := if_neg named
    rw [none_own] at all ⊢
    split
    · exact ⟨strands_nothing (release_holds covered all), by simp⟩
    split
    · exact ⟨strands_nothing (release_holds covered all), by simp⟩
    · exact sctp_options_connects answers covered number all (by simp)

/-- The socket of a stream; behind a QUIC stream there is none. -/
def stream_socket (protocol : Protocol) (s : Int32) : List Resource :=
  if protocol = .Pquic then [] else [.descriptor s]

theorem view_protocol {before after : Client} (same : view after = view before) :
    after.test.protocol = before.test.protocol := by
  simp only [view, Prod.mk.injEq] at same
  exact same.2.2.2.2.1

theorem connect_connects (answers : Connecting) (covered : Covered owned)
    (holds : Holds client.history owned) :
    Ends (fun made => Holds made.2.history (stream_socket client.test.protocol made.1 ++ owned) ∧
        view made.2 = view client)
      (fun after => Strands (Smooth answers) owned after ∧ view after = view client)
      (connect build client local_port answers) := by
  unfold connect
  cases protocol : client.test.protocol with
  | Ptcp =>
      exact (iperf_tcp_connect_connects answers covered holds).imp (fun _ good => good.2)
        fun _ bad => bad
  | Pudp =>
      exact (iperf_udp_connect_connects answers covered holds).imp (fun _ good => good.2)
        fun _ bad => bad
  | Psctp =>
      exact (iperf_sctp_connect_connects answers covered holds).imp (fun _ good => good.2)
        fun _ bad => bad
  | Pquic =>
      dsimp only [iperf_quic_connect]
      split
      · exact ⟨strands_nothing holds, rfl⟩
      · exact ⟨holds, rfl⟩

end Sockets

end Iperf.ClientHoldings
