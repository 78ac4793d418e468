import Iperf.DescriptorLedger
import Iperf.TestState

/-!
What `iperf_new_stream` acquires and gives back on each way out. The answers of the system
are inputs; the log has the resources in the order in which they are taken and released.
-/

namespace Iperf.NewStream

open DescriptorLedger TestState

section Code

inductive Errno where
  | IENONE
  | IECREATESTREAM
  | IEFILE
  | IEINITSTREAM
  | IESETDONTFRAGMENT
  deriving DecidableEq, Repr

inductive Resource where
  | block (address : Nat)
  | fd (fd : Nat)
  | mapping (address : Nat)
  | stream_ctx (sc : Nat)
  deriving DecidableEq, Repr

/-- `diskfile_fd` is −1 for `none`. Without `-F` the calls go straight to the protocol. -/
structure iperf_stream where
  sp : Nat
  result : Nat
  buffer_fd : Nat
  buffer : Nat
  socket : Int32
  sender : Bool
  pending_size : Int32
  data : Option Nat
  diskfile_fd : Option Nat
  id : Int32
  deriving DecidableEq, Repr

/-- `quic_ctx` is the map of the context, with ids and stream contexts. -/
structure iperf_test where
  protocol : Protocol
  blksize : Int32
  tmp_template : Option String
  diskfile_name : Option String
  repeating_payload : Bool
  dont_fragment : Bool
  quic_ctx : Option (List (Int32 × Nat))
  streams : List iperf_stream
  i_errno : Errno
  deriving DecidableEq, Repr

/-- What the calls answer. `readentropy` is false when `/dev/urandom` fails, which ends the
process. -/
structure System where
  getenv : String → Option String
  malloc_stream : Option Nat
  malloc_result : Option Nat
  mkstemp : List UInt8 → Option Nat
  unlink : Bool
  ftruncate : Bool
  mmap : Option Nat
  open_ : String → Bool → Option Nat
  readentropy : Bool
  getsockname : Bool
  getpeername : Bool
  getsockdomain_inet : Bool
  setsockopt : Bool
  HAVE_DONT_FRAGMENT : Bool

/-- `sp` is what is returned. -/
structure Made where
  sp : Option iperf_stream
  test : iperf_test
  log : List (Entry Resource)

variable (system : System)

/-- The bytes that `snprintf` leaves of the name. -/
def template (test : iperf_test) : List UInt8 :=
  let text :=
    match test.tmp_template with
    | some tmp_template => tmp_template
    | none =>
        let tempdir := ((system.getenv "TMPDIR").or (system.getenv "TEMP")).or (system.getenv "TMP")
        tempdir.getD "/tmp" ++ "/iperf3.XXXXXX"
  text.toUTF8.data.toList.take 1023

/-- A way out with NULL. -/
def give_up (test : iperf_test) (log : List (Entry Resource)) (released : List Resource) : Made :=
  ⟨none, test, log ++ released.map .closed⟩

/-- `map_take` on the list that the map is. -/
def map_take (map : List (Int32 × Nat)) (id : Int32) : Option (Nat × List (Int32 × Nat)) :=
  match map with
  | [] => none
  | entry :: rest =>
      if entry.1 = id then some (entry.2, rest)
      else (map_take rest id).map fun found => (found.1, entry :: found.2)

def iperf_quic_attach_stream (test : iperf_test) (stream_id : Int32) : Option (Nat × iperf_test) :=
  match test.quic_ctx with
  | none => none
  | some map =>
      (map_take map stream_id).map fun found => (found.1, { test with quic_ctx := some found.2 })

/-- The result is −1 for an error. -/
def iperf_init_stream (test : iperf_test) : Except Errno Unit :=
  if test.protocol = .Pquic then .ok ()
  else if ¬ system.getsockname then .error .IEINITSTREAM
  else if ¬ system.getpeername then .error .IEINITSTREAM
  else if system.HAVE_DONT_FRAGMENT ∧ test.protocol = .Pudp ∧ system.getsockdomain_inet ∧
      test.dont_fragment ∧ ¬ system.setsockopt then .error .IESETDONTFRAGMENT
  else .ok ()

/-- The first stream has id 1, a later one counts from 2. -/
def iperf_add_stream (test : iperf_test) (sp : iperf_stream) : iperf_stream × iperf_test :=
  let sp :=
    { sp with
      id := if test.streams.isEmpty then 1 else Int32.ofNat (2 + test.streams.length) }
  (sp, { test with streams := test.streams ++ [sp] })

/-- The payload does not need the file when it repeats or is empty. -/
def payload (test : iperf_test) : Bool :=
  test.repeating_payload ∨ test.blksize = 0 ∨ system.readentropy

/-- From the payload on. `none` is the end of the process. -/
def initialize_stream (test : iperf_test) (sp : iperf_stream) (log : List (Entry Resource)) :
    Option Made :=
  if ¬ payload system test then none
  else
    match iperf_init_stream system test with
    | .error errno =>
        some (give_up { test with i_errno := errno } log
          [.fd sp.buffer_fd, .mapping sp.buffer, .block sp.result, .block sp.sp])
    | .ok () =>
        let added := iperf_add_stream test sp
        some ⟨some added.1, added.2, log⟩

/-- The part for `-F`. -/
def open_diskfile (test : iperf_test) (sp : iperf_stream) (log : List (Entry Resource)) :
    Option Made :=
  match test.diskfile_name with
  | none => initialize_stream system test { sp with diskfile_fd := none } log
  | some diskfile_name =>
      match system.open_ diskfile_name sp.sender with
      | none =>
          some (give_up { test with i_errno := .IEFILE } log
            [.mapping sp.buffer, .block sp.result, .block sp.sp])
      | some fd =>
          initialize_stream system test { sp with diskfile_fd := some fd }
            (log ++ [.opened (.fd fd)])

def attach (test : iperf_test) (sp : iperf_stream) (log : List (Entry Resource)) : Option Made :=
  if test.protocol = .Pquic then
    match iperf_quic_attach_stream test sp.socket with
    | none =>
        some (give_up test log
          [.fd sp.buffer_fd, .mapping sp.buffer, .block sp.result, .block sp.sp])
    | some (sc, test) =>
        open_diskfile system test { sp with data := some sc } (log ++ [.opened (.stream_ctx sc)])
  else open_diskfile system test sp log

/-- The buffer and its file. -/
def make_buffer (test : iperf_test) (sp result : Nat) (s : Int32) (sender : Bool)
    (log : List (Entry Resource)) : Option Made :=
  let failed := { test with i_errno := .IECREATESTREAM }
  match system.mkstemp (template system test) with
  | none => some (give_up failed log [.block result, .block sp])
  | some buffer_fd =>
      let log := log ++ [.opened (.fd buffer_fd)]
      if ¬ system.unlink then some (give_up failed log [.block result, .block sp])
      else if ¬ system.ftruncate then some (give_up failed log [.block result, .block sp])
      else
        match system.mmap with
        | none => some (give_up failed log [.block result, .block sp])
        | some buffer =>
            attach system test ⟨sp, result, buffer_fd, buffer, s, sender, 0, none, some 0, 0⟩
              (log ++ [.opened (.mapping buffer)])

def iperf_new_stream (test : iperf_test) (s : Int32) (sender : Bool) : Option Made :=
  let failed := { test with i_errno := .IECREATESTREAM }
  match system.malloc_stream with
  | none => some (give_up failed [] [])
  | some sp =>
      match system.malloc_result with
      | none => some (give_up failed [.opened (.block sp)] [.block sp])
      | some result =>
          make_buffer system test sp result s sender [.opened (.block sp), .opened (.block result)]

/-- What `iperf_free_stream` releases. -/
def iperf_free_stream (test : iperf_test) (sp : iperf_stream) : List Resource :=
  (if test.protocol = .Pquic then sp.data.toList.map .stream_ctx else []) ++
    [.mapping sp.buffer, .fd sp.buffer_fd] ++ sp.diskfile_fd.toList.map .fd ++
    [.block sp.result, .block sp.sp]

end Code

section Property

def contexts (test : iperf_test) : List (Int32 × Nat) := test.quic_ctx.getD []

/-- A call that returns NULL has released once what it acquired and nothing else, has left
the contexts that it did not take in the map, and has left the streams. -/
structure Nothing (test : iperf_test) (made : Made) : Prop where
  sound : Sound made.log
  once : ClosedOnce made.log
  contexts : ∀ entry ∈ contexts test,
    entry ∈ NewStream.contexts made.test ∨ .opened (.stream_ctx entry.2) ∈ made.log
  streams : made.test.streams = test.streams

inductive Call where
  | malloc_stream
  | malloc_result
  | mkstemp
  | unlink
  | ftruncate
  | mmap
  | attach
  | open_
  | init
  deriving DecidableEq, Repr

variable (system : System) (test : iperf_test) (s : Int32) (sender : Bool)

/-- The calls that can fail, in their order, and whether they succeed. -/
def calls : List (Call × Bool) :=
  [(.malloc_stream, system.malloc_stream.isSome), (.malloc_result, system.malloc_result.isSome),
    (.mkstemp, (system.mkstemp (template system test)).isSome), (.unlink, system.unlink),
    (.ftruncate, system.ftruncate), (.mmap, system.mmap.isSome),
    (.attach, test.protocol ≠ .Pquic ∨ (iperf_quic_attach_stream test s).isSome),
    (.open_, test.diskfile_name.all fun name => (system.open_ name sender).isSome),
    (.init, (iperf_init_stream system test).isOk)]

def first_failure : Option Call :=
  ((calls system test s sender).find? fun call => ! call.2).map Prod.fst

/-- The ways out whose releases are complete. -/
def Complete (test : iperf_test) : Option Call → Prop
  | some .unlink => False
  | some .ftruncate => False
  | some .mmap => False
  | some .open_ => False
  | some .init => test.diskfile_name = none
  | _ => True

end Property

section Exits
variable {system : System} {test : iperf_test} {s : Int32} {sender : Bool} {made : Made}
  {sp : iperf_stream} {acquired : List Resource}

/-- A way out: what was acquired is released exactly when the list of the way is complete. -/
structure Exit (test : iperf_test) (complete : Prop) (made : Made)
    (acquired released : List Resource) : Prop where
  log : made.log = acquired.map .opened ++ released.map .closed
  streams : made.test.streams = test.streams
  contexts : ∀ entry ∈ contexts test,
    entry ∈ NewStream.contexts made.test ∨ .opened (.stream_ctx entry.2) ∈ made.log
  releases : released.Perm acquired ↔ complete

theorem exit_nothing {complete : Prop} {released : List Resource}
    (exit : Exit test complete made acquired released) (lawful : Lawful made.log) :
    Nothing test made ↔ complete := by
  rw [exit.log] at lawful
  have accounts := opened_closed_iff lawful
  rw [← exit.log] at accounts
  constructor
  · intro nothing
    exact exit.releases.mp (accounts.mp ⟨nothing.sound, nothing.once⟩)
  · intro complete
    rcases accounts.mpr (exit.releases.mpr complete) with ⟨sound, once⟩
    exact ⟨sound, once, exit.contexts, exit.streams⟩

/-- What every stream has in hand from `mmap` on. -/
def in_hand (sp : iperf_stream) : List Resource :=
  [.block sp.sp, .block sp.result, .fd sp.buffer_fd, .mapping sp.buffer]

def blocks_and_buffer (sp : iperf_stream) : List Resource :=
  [.fd sp.buffer_fd, .mapping sp.buffer, .block sp.result, .block sp.sp]

theorem releases_in_hand (sp : iperf_stream) (more : List Resource) :
    (blocks_and_buffer sp).Perm (in_hand sp ++ more) ↔ more = [] := by
  constructor
  · intro perm
    have length := perm.length_eq
    simp only [blocks_and_buffer, in_hand, List.length_cons, List.length_nil, List.length_append]
      at length
    exact List.eq_nil_of_length_eq_zero (by omega)
  · rintro rfl
    have turned : (blocks_and_buffer sp).Perm (in_hand sp).reverse :=
      List.Perm.swap _ _ [Resource.block sp.result, Resource.block sp.sp]
    rw [List.append_nil]
    exact turned.trans (in_hand sp).reverse_perm

/-- A list that is too short releases less than was acquired. -/
theorem not_perm_of_shorter {released : List Resource}
    (shorter : released.length < acquired.length) :
    released.Perm acquired ↔ False := by
  constructor
  · intro perm
    have length := perm.length_eq
    omega
  · exact False.elim

variable {origin : iperf_test}

/-- A context that has left the map has been acquired. -/
def Kept (origin test : iperf_test) (acquired : List Resource) : Prop :=
  ∀ entry ∈ contexts origin, entry ∈ contexts test ∨ .stream_ctx entry.2 ∈ acquired

theorem give_up_exit (test : iperf_test) {complete : Prop} {released : List Resource}
    (streams : test.streams = origin.streams) (kept : Kept origin test acquired)
    (releases : released.Perm acquired ↔ complete) :
    Exit origin complete (give_up test (acquired.map .opened) released) acquired released := by
  constructor
  · rfl
  · exact streams
  · intro entry member
    rcases kept entry member with still | taken
    · exact .inl still
    · apply Or.inr
      rw [give_up, List.mem_append, List.mem_map]
      exact .inl ⟨_, taken, rfl⟩
  · exact releases

theorem initialize_exit (sp : iperf_stream) {more : List Resource}
    (streams : test.streams = origin.streams) (kept : Kept origin test (in_hand sp ++ more))
    (returned : initialize_stream system test sp ((in_hand sp ++ more).map .opened) = some made)
    (null : made.sp = none) :
    (iperf_init_stream system test).isOk = false ∧
      Exit origin (more = []) made (in_hand sp ++ more) (blocks_and_buffer sp) := by
  simp only [initialize_stream] at returned
  split at returned
  · cases returned
  · cases init : iperf_init_stream system test with
    | ok =>
        rw [init] at returned
        cases returned
        cases null
    | error errno =>
        rw [init] at returned
        cases returned
        have exit := give_up_exit { test with i_errno := errno } streams kept
          (releases_in_hand sp more)
        exact ⟨rfl, exit⟩

/-- Without the descriptor of the buffer a list is too short. -/
theorem exit_without_buffer (test : iperf_test) (sp : iperf_stream) (more : List Resource)
    (streams : test.streams = origin.streams) (kept : Kept origin test (in_hand sp ++ more)) :
    Exit origin False (give_up test ((in_hand sp ++ more).map .opened)
      [.mapping sp.buffer, .block sp.result, .block sp.sp]) (in_hand sp ++ more)
      [.mapping sp.buffer, .block sp.result, .block sp.sp] := by
  apply give_up_exit test streams kept
  apply not_perm_of_shorter
  simp [in_hand]

/-- What is opened for `-F` is not released when the stream cannot be initialized. -/
theorem open_exit {more : List Resource} (streams : test.streams = origin.streams)
    (kept : Kept origin test (in_hand sp ++ more))
    (returned : open_diskfile system test sp ((in_hand sp ++ more).map .opened) = some made)
    (null : made.sp = none) :
    let opens := test.diskfile_name.all fun name => (system.open_ name sp.sender).isSome
    (opens = false ∧ ∃ acquired released, Exit origin False made acquired released) ∨
      (opens = true ∧ (iperf_init_stream system test).isOk = false ∧ ∃ acquired released,
        Exit origin (more = [] ∧ test.diskfile_name = none) made acquired released) := by
  cases named : test.diskfile_name with
  | none =>
      simp only [open_diskfile, named] at returned
      rcases initialize_exit { sp with diskfile_fd := none } streams kept returned null with
        ⟨fails, exit⟩
      simp only [and_true]
      exact .inr ⟨rfl, fails, _, _, exit⟩
  | some diskfile_name =>
      cases opened : system.open_ diskfile_name sp.sender with
      | none =>
          simp only [open_diskfile, named, opened] at returned
          cases returned
          exact .inl ⟨by simp [opened], _, _, exit_without_buffer _ sp more streams kept⟩
      | some fd =>
          have log : (in_hand sp ++ more).map Entry.opened ++ [.opened (Resource.fd fd)] =
              (in_hand { sp with diskfile_fd := some fd } ++
                (more ++ [Resource.fd fd])).map .opened := by
            simp [in_hand]
          have kept_more : Kept origin test
              (in_hand { sp with diskfile_fd := some fd } ++ (more ++ [.fd fd])) := by
            intro entry member
            rcases kept entry member with still | taken
            · exact .inl still
            · rw [← List.append_assoc]
              exact .inr (List.mem_append_left _ taken)
          simp only [open_diskfile, named, opened, log] at returned
          rcases initialize_exit { sp with diskfile_fd := some fd } streams kept_more returned null
            with ⟨fails, exit⟩
          have leaks : more ++ [Resource.fd fd] = [] ↔
              more = [] ∧ some diskfile_name = none := by simp
          rw [leaks] at exit
          exact .inr ⟨by simp [opened], fails, _, _, exit⟩

theorem map_take_kept {map rest : List (Int32 × Nat)} {id : Int32} {sc : Nat}
    (took : map_take map id = some (sc, rest)) :
    ∀ entry ∈ map, entry ∈ rest ∨ entry.2 = sc := by
  induction map generalizing rest with
  | nil => cases took
  | cons first others ih =>
      simp only [map_take] at took
      split at took
      · cases took
        intro entry member
        rcases List.mem_cons.mp member with same | other
        · exact .inr (same ▸ rfl)
        · exact .inl other
      · simp only [Option.map_eq_some_iff, Prod.mk.injEq] at took
        rcases took with ⟨⟨found, left⟩, inside, rfl, rfl⟩
        intro entry member
        rcases List.mem_cons.mp member with same | other
        · exact .inl (same ▸ List.mem_cons_self)
        · rcases ih inside entry other with still | taken
          · exact .inl (List.mem_cons_of_mem _ still)
          · exact .inr taken

theorem attach_found {id : Int32} {sc : Nat} {after : iperf_test}
    (attached : iperf_quic_attach_stream test id = some (sc, after)) :
    ∃ rest, after = { test with quic_ctx := some rest } ∧
      ∀ entry ∈ contexts test, entry ∈ rest ∨ entry.2 = sc := by
  simp only [iperf_quic_attach_stream] at attached
  split at attached
  · cases attached
  · rename_i map ctx
    simp only [Option.map_eq_some_iff, Prod.mk.injEq] at attached
    rcases attached with ⟨⟨found, rest⟩, took, rfl, rfl⟩
    refine ⟨rest, rfl, ?_⟩
    intro entry member
    simp only [contexts, ctx, Option.getD_some] at member
    exact map_take_kept took entry member

/-- Over QUIC the stream context is in hand as well, but there nothing is initialized. -/
theorem attach_exit (sp : iperf_stream)
    (returned : attach system test sp ((in_hand sp).map .opened) = some made)
    (null : made.sp = none) :
    let attaches := test.protocol ≠ .Pquic ∨ (iperf_quic_attach_stream test sp.socket).isSome
    let opens := test.diskfile_name.all fun name => (system.open_ name sp.sender).isSome
    (¬ attaches ∧ ∃ acquired released, Exit test True made acquired released) ∨
      (attaches ∧ opens = false ∧ ∃ acquired released, Exit test False made acquired released) ∨
      (attaches ∧ opens = true ∧ (iperf_init_stream system test).isOk = false ∧
        ∃ acquired released, Exit test (test.diskfile_name = none) made acquired released) := by
  intro attaches opens
  have start : Kept test test (in_hand sp ++ []) := fun _ member => .inl member
  by_cases quic : test.protocol = .Pquic
  · cases attached : iperf_quic_attach_stream test sp.socket with
    | none =>
        simp only [attach, if_pos quic, attached] at returned
        cases returned
        have exit := give_up_exit test rfl start (releases_in_hand sp [])
        rw [List.append_nil] at exit
        have misses : ¬ attaches := by simp [attaches, quic, attached]
        have complete : ([] : List Resource) = [] ↔ True := iff_of_true rfl trivial
        rw [complete] at exit
        exact .inl ⟨misses, _, _, exit⟩
    | some found =>
        rcases found with ⟨sc, after⟩
        simp only [attach, if_pos quic, attached] at returned
        rcases attach_found attached with ⟨rest, rfl, kept⟩
        have runs : attaches := by simp [attaches, attached]
        have log : (in_hand sp).map Entry.opened ++ [.opened (.stream_ctx sc)] =
            (in_hand { sp with data := some sc } ++ [Resource.stream_ctx sc]).map .opened := by
          simp [in_hand]
        rw [log] at returned
        have kept_more : Kept test { test with quic_ctx := some rest }
            (in_hand { sp with data := some sc } ++ [.stream_ctx sc]) := by
          intro entry member
          rcases kept entry member with still | taken
          · exact .inl still
          · rw [taken]
            exact .inr (by simp)
        have streams : { test with quic_ctx := some rest }.streams = test.streams := rfl
        rcases open_exit streams kept_more returned null with
          ⟨fails, exits⟩ | ⟨succeeds, init, exits⟩
        · exact .inr (.inl ⟨runs, fails, exits⟩)
        · simp [iperf_init_stream, quic, Except.isOk, Except.toBool] at init
  · have runs : attaches := .inl quic
    simp only [attach, if_neg quic] at returned
    rw [← List.append_nil (in_hand sp)] at returned
    rcases open_exit rfl start returned null with ⟨fails, exits⟩ | ⟨succeeds, init, exits⟩
    · exact .inr (.inl ⟨runs, fails, exits⟩)
    · simp only [true_and] at exits
      exact .inr (.inr ⟨runs, succeeds, init, exits⟩)

theorem early_exit (test : iperf_test) {complete : Prop} (acquired released : List Resource)
    (releases : released.Perm acquired ↔ complete) :
    Exit test complete (give_up { test with i_errno := .IECREATESTREAM } (acquired.map .opened)
      released) acquired released := by
  have start : Kept test { test with i_errno := .IECREATESTREAM } acquired :=
    fun _ member => .inl member
  exact give_up_exit _ rfl start releases

/-- The descriptor of the buffer is lost between `mkstemp` and `mmap`. -/
theorem lost_buffer_exit (test : iperf_test) (sp result buffer_fd : Nat) :
    Exit test False (give_up { test with i_errno := .IECREATESTREAM }
      [.opened (.block sp), .opened (.block result), .opened (.fd buffer_fd)]
      [.block result, .block sp]) [.block sp, .block result, .fd buffer_fd]
      [.block result, .block sp] :=
  early_exit test [.block sp, .block result, .fd buffer_fd] [.block result, .block sp]
    (not_perm_of_shorter (by simp))

theorem attached_exit {sp result buffer_fd buffer : Nat} (stream : system.malloc_stream = some sp)
    (result_block : system.malloc_result = some result)
    (file : system.mkstemp (template system test) = some buffer_fd)
    (unlinked : system.unlink = true) (truncated : system.ftruncate = true)
    (mapped : system.mmap = some buffer)
    (returned : attach system test
      ⟨sp, result, buffer_fd, buffer, s, sender, 0, none, some 0, 0⟩
      [.opened (.block sp), .opened (.block result), .opened (.fd buffer_fd),
        .opened (.mapping buffer)] = some made)
    (null : made.sp = none) : ∃ acquired released,
      Exit test (Complete test (first_failure system test s sender)) made acquired released := by
  have first : first_failure system test s sender =
      (((calls system test s sender).drop 6).find? fun call => ! call.2).map Prod.fst := by
    simp [first_failure, calls, stream, result_block, file, unlinked, truncated, mapped]
  rw [first]
  rcases attach_exit ⟨sp, result, buffer_fd, buffer, s, sender, 0, none, some 0, 0⟩ returned null
    with ⟨misses, exits⟩ | ⟨attaches, fails, exits⟩ | ⟨attaches, opens, init, exits⟩
  · have failed : ((calls system test s sender).drop 6).find? (fun call => ! call.2) =
        some (.attach, false) := by
      simp [calls, misses]
    rw [failed]
    exact exits
  · have failed : ((calls system test s sender).drop 6).find? (fun call => ! call.2) =
        some (.open_, false) := by
      simp [calls, attaches, fails]
    rw [failed]
    exact exits
  · have failed : ((calls system test s sender).drop 6).find? (fun call => ! call.2) =
        some (.init, false) := by
      simp [calls, attaches, opens, init]
    rw [failed]
    exact exits

theorem buffer_exit {sp result : Nat} (stream : system.malloc_stream = some sp)
    (result_block : system.malloc_result = some result)
    (returned : make_buffer system test sp result s sender
      [.opened (.block sp), .opened (.block result)] = some made)
    (null : made.sp = none) : ∃ acquired released,
      Exit test (Complete test (first_failure system test s sender)) made acquired released := by
  simp only [make_buffer] at returned
  cases file : system.mkstemp (template system test) with
  | none =>
      simp only [file] at returned
      cases returned
      have complete : Complete test (first_failure system test s sender) := by
        simp [first_failure, calls, stream, result_block, file, Complete]
      exact ⟨_, _, early_exit test [.block sp, .block result] [.block result, .block sp]
        (iff_of_true (List.Perm.swap _ _ []) complete)⟩
  | some buffer_fd =>
      simp only [file] at returned
      have lost := lost_buffer_exit test sp result buffer_fd
      by_cases unlinked : system.unlink = true
      · by_cases truncated : system.ftruncate = true
        · cases mapped : system.mmap with
          | none =>
              simp only [unlinked, truncated, mapped] at returned
              cases returned
              have complete : Complete test (first_failure system test s sender) = False := by
                simp [first_failure, calls, stream, result_block, file, unlinked, truncated, mapped,
                  Complete]
              rw [complete]
              exact ⟨_, _, lost⟩
          | some buffer =>
              simp only [unlinked, truncated, mapped] at returned
              exact attached_exit stream result_block file unlinked truncated mapped returned null
        · simp only [unlinked, truncated] at returned
          cases returned
          have complete : Complete test (first_failure system test s sender) = False := by
            simp [first_failure, calls, stream, result_block, file, unlinked, truncated, Complete]
          rw [complete]
          exact ⟨_, _, lost⟩
      · simp only [unlinked] at returned
        cases returned
        have complete : Complete test (first_failure system test s sender) = False := by
          simp [first_failure, calls, stream, result_block, file, unlinked, Complete]
        rw [complete]
        exact ⟨_, _, lost⟩

theorem new_stream_exit (returned : iperf_new_stream system test s sender = some made)
    (null : made.sp = none) : ∃ acquired released,
      Exit test (Complete test (first_failure system test s sender)) made acquired released := by
  simp only [iperf_new_stream] at returned
  cases stream : system.malloc_stream with
  | none =>
      simp only [stream] at returned
      cases returned
      have complete : Complete test (first_failure system test s sender) := by
        simp [first_failure, calls, stream, Complete]
      exact ⟨_, _, early_exit test [] [] (iff_of_true (List.Perm.refl _) complete)⟩
  | some sp =>
      simp only [stream] at returned
      cases result : system.malloc_result with
      | none =>
          simp only [result] at returned
          cases returned
          have complete : Complete test (first_failure system test s sender) := by
            simp [first_failure, calls, stream, result, Complete]
          exact ⟨_, _, early_exit test [.block sp] [.block sp]
            (iff_of_true (List.Perm.refl _) complete)⟩
      | some result_block =>
          simp only [result] at returned
          exact buffer_exit stream result returned null

end Exits

section Results
variable {system : System} {test : iperf_test} {s : Int32} {sender : Bool} {made : Made}

/-- A call that returns NULL has released everything exactly when the call that failed is not
one between `mkstemp` and `mmap`, not the opening of the file of `-F`, and not the
initialization of a stream with such a file. -/
theorem new_stream_all_or_nothing_iff
    (returned : iperf_new_stream system test s sender = some made) (null : made.sp = none)
    (lawful : Lawful made.log) :
    Nothing test made ↔ Complete test (first_failure system test s sender) := by
  rcases new_stream_exit returned null with ⟨acquired, released, exit⟩
  exact exit_nothing exit lawful

theorem initialize_makes {sp new : iperf_stream} {log : List (Entry Resource)}
    (returned : initialize_stream system test sp log = some made) (some_ : made.sp = some new) :
    (∃ id, new = { sp with id := id }) ∧ made.log = log ∧
      made.test.protocol = test.protocol := by
  simp only [initialize_stream] at returned
  split at returned
  · cases returned
  · split at returned
    · cases returned
      cases some_
    · cases returned
      cases some_
      exact ⟨⟨_, rfl⟩, rfl, rfl⟩

theorem open_makes {sp new : iperf_stream} {log : List (Entry Resource)}
    (returned : open_diskfile system test sp log = some made) (some_ : made.sp = some new) :
    (∃ fd id, new = { sp with diskfile_fd := fd, id := id } ∧
      made.log = log ++ (fd.toList.map Resource.fd).map .opened) ∧
      made.test.protocol = test.protocol := by
  simp only [open_diskfile] at returned
  split at returned
  · rcases initialize_makes returned some_ with ⟨⟨id, made_⟩, same, protocol⟩
    exact ⟨⟨none, id, made_, by simpa using same⟩, protocol⟩
  · split at returned
    · cases returned
      cases some_
    · rename_i fd _
      rcases initialize_makes returned some_ with ⟨⟨id, made_⟩, same, protocol⟩
      exact ⟨⟨some fd, id, made_, same⟩, protocol⟩

/-- What a stream acquires is what `iperf_free_stream` releases. -/
theorem frees_in_hand (sp : iperf_stream) (ctx disk : List Resource) :
    (ctx ++ [Resource.mapping sp.buffer, .fd sp.buffer_fd] ++ disk ++
      [Resource.block sp.result, .block sp.sp]).Perm (in_hand sp ++ ctx ++ disk) := by
  apply List.perm_iff_count.mpr
  intro resource
  simp only [in_hand, List.count_append, List.count_cons, List.count_nil]
  omega

theorem attach_makes {sp new : iperf_stream}
    (returned : attach system test sp ((in_hand sp).map .opened) = some made)
    (some_ : made.sp = some new) : ∃ acquired, made.log = acquired.map .opened ∧
      (iperf_free_stream made.test new).Perm acquired := by
  simp only [attach] at returned
  split at returned
  · rename_i quic
    split at returned
    · cases returned
      cases some_
    · rename_i sc after attached
      rcases attach_found attached with ⟨rest, rfl, _⟩
      rcases open_makes returned some_ with ⟨⟨fd, id, rfl, log⟩, protocol⟩
      refine ⟨in_hand sp ++ [.stream_ctx sc] ++ fd.toList.map .fd, by simpa using log, ?_⟩
      have frees := frees_in_hand sp [.stream_ctx sc] (fd.toList.map .fd)
      simpa [iperf_free_stream, protocol, quic] using frees
  · rename_i other
    rcases open_makes returned some_ with ⟨⟨fd, id, rfl, log⟩, protocol⟩
    refine ⟨in_hand sp ++ [] ++ fd.toList.map .fd, by simpa using log, ?_⟩
    have frees := frees_in_hand sp [] (fd.toList.map .fd)
    simpa [iperf_free_stream, protocol, other] using frees

/-- A stream that is made and freed gives everything back once. -/
theorem new_stream_freed {sp : iperf_stream}
    (returned : iperf_new_stream system test s sender = some made) (some_ : made.sp = some sp)
    (lawful : Lawful (made.log ++ (iperf_free_stream made.test sp).map .closed)) :
    Sound (made.log ++ (iperf_free_stream made.test sp).map .closed) ∧
      ClosedOnce (made.log ++ (iperf_free_stream made.test sp).map .closed) := by
  have acquires : ∃ acquired, made.log = acquired.map .opened ∧
      (iperf_free_stream made.test sp).Perm acquired := by
    simp only [iperf_new_stream, make_buffer] at returned
    split at returned
    · cases returned
      cases some_
    · split at returned
      · cases returned
        cases some_
      · split at returned
        · cases returned
          cases some_
        · split at returned
          · cases returned
            cases some_
          · split at returned
            · cases returned
              cases some_
            · split at returned
              · cases returned
                cases some_
              · exact attach_makes returned some_
  rcases acquires with ⟨acquired, log, perm⟩
  rw [log] at lawful ⊢
  exact (opened_closed_iff lawful).mpr perm

/-- Every call succeeds, but for those that a test takes out. -/
def working : System where
  getenv _ := none
  malloc_stream := some 1
  malloc_result := some 2
  mkstemp _ := some 3
  unlink := true
  ftruncate := true
  mmap := some 4
  open_ _ _ := some 5
  readentropy := true
  getsockname := true
  getpeername := true
  getsockdomain_inet := true
  setsockopt := true
  HAVE_DONT_FRAGMENT := true

def tcp_test : iperf_test := ⟨.Ptcp, 131072, none, none, false, false, none, [], .IENONE⟩

/-- The socket is not connected: everything is released. -/
theorem new_stream_all_or_nothing_init :
    Nothing tcp_test (give_up { tcp_test with i_errno := .IEINITSTREAM }
      [.opened (.block 1), .opened (.block 2), .opened (.fd 3), .opened (.mapping 4)]
      [.fd 3, .mapping 4, .block 2, .block 1]) := by
  have returned : iperf_new_stream { working with getpeername := false } tcp_test 6 true =
      some (give_up { tcp_test with i_errno := .IEINITSTREAM }
        [.opened (.block 1), .opened (.block 2), .opened (.fd 3), .opened (.mapping 4)]
        [.fd 3, .mapping 4, .block 2, .block 1]) := rfl
  have distinct : [Resource.block 1, .block 2, .fd 3, .mapping 4].Nodup := by decide
  exact (new_stream_all_or_nothing_iff returned rfl (lawful_opened_closed distinct)).mpr rfl

/-- The file of `-F` is missing: the descriptor of the buffer stays open. -/
theorem missing_diskfile_leaks : ∃ test made,
    iperf_new_stream { working with open_ := fun _ _ => none } test 6 true = some made ∧
      made.sp = none ∧ Lawful made.log ∧ ¬ Nothing test made := by
  have returned : iperf_new_stream { working with open_ := fun _ _ => none }
      { tcp_test with diskfile_name := some "missing" } 6 true =
      some (give_up { tcp_test with diskfile_name := some "missing", i_errno := .IEFILE }
        [.opened (.block 1), .opened (.block 2), .opened (.fd 3), .opened (.mapping 4)]
        [.mapping 4, .block 2, .block 1]) := rfl
  have distinct : [Resource.block 1, .block 2, .fd 3, .mapping 4].Nodup := by decide
  have lawful := @lawful_opened_closed _ _ _ [Resource.mapping 4, .block 2, .block 1] distinct
  rcases new_stream_exit returned rfl with ⟨acquired, released, exit⟩
  exact ⟨_, _, returned, rfl, lawful, fun nothing => (exit_nothing exit lawful).mp nothing⟩

end Results

end Iperf.NewStream
