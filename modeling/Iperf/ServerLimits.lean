import Iperf.ServerConfig

/-!
The limits of `iperf_parse_arguments` on the server's side of the exchange.
`get_parameters` checks none of them, so the configuration keeps them exactly
when the message does, number by number after its narrowing to an `int`.
-/

namespace Iperf.ServerLimits

open TestState Json Config Parameters Arguments ServerRound ServerReset ServerConfig

/-- What `iperf_parse_arguments` lets a client set. -/
structure Limits (test : iperf_test) : Prop where
  num_streams : 1 ≤ test.num_streams ∧ test.num_streams ≤ MAX_STREAMS
  duration : 0 ≤ test.duration ∧ test.duration ≤ MAX_TIME
  omitted : 0 ≤ test.omit ∧ test.omit ≤ MAX_OMIT_TIME
  blksize : test.protocol ≠ .Pudp →
    1 ≤ test.settings.blksize ∧ test.settings.blksize ≤ MAX_BLOCKSIZE
  udp_blksize : test.protocol = .Pudp →
    MIN_UDP_BLOCKSIZE ≤ test.settings.blksize ∧ test.settings.blksize ≤ MAX_UDP_BLOCKSIZE
  burst : 0 ≤ test.settings.burst ∧ test.settings.burst ≤ MAX_BURST
  mss : test.settings.mss ≤ MAX_MSS
  socket_bufsize : test.settings.socket_bufsize ≤ MAX_TCP_BUFFER
  tos : 0 ≤ test.settings.tos ∧ test.settings.tos ≤ 255

section Message
variable (features : Features) (j : cJSON)

/-- The number under a key is good after its narrowing; an absent one is. -/
def Admits (name : String) (good : Int32 → Prop) : Prop :=
  ∀ value, number_item j name = some value → good (.ofInt value)

/-- The last of the protocol keys that this server supports is "udp". -/
def asks_udp : Bool :=
  has_bool j "udp" && !has_bool j "quic" && !(features.HAVE_SCTP_H && has_bool j "sctp")

/-- A message whose numbers are within the limits. A UDP test also has to name
its block size, since the default is one for streams. -/
structure InRange : Prop where
  parallel : Admits j "parallel" fun streams => 1 ≤ streams ∧ streams ≤ MAX_STREAMS
  time : Admits j "time" fun seconds => 0 ≤ seconds ∧ seconds ≤ MAX_TIME
  omitted : Admits j "omit" fun seconds => 0 ≤ seconds ∧ seconds ≤ MAX_OMIT_TIME
  len : asks_udp features j = false →
    Admits j "len" fun blksize => 1 ≤ blksize ∧ blksize ≤ MAX_BLOCKSIZE
  udp_len : asks_udp features j = true → number_item j "len" ≠ none ∧
    Admits j "len" fun blksize => MIN_UDP_BLOCKSIZE ≤ blksize ∧ blksize ≤ MAX_UDP_BLOCKSIZE
  burst : Admits j "burst" fun burst => 0 ≤ burst ∧ burst ≤ MAX_BURST
  mss : Admits j "MSS" fun mss => mss ≤ MAX_MSS
  window : Admits j "window" fun bufsize => bufsize ≤ MAX_TCP_BUFFER
  tos : Admits j "TOS" fun tos => 0 ≤ tos ∧ tos ≤ 255

variable {features j}

/-- A field that starts from a good value is good when the message is. -/
theorem read_int_good {name : String} {field : Int32} {good : Int32 → Prop} (start : good field) :
    good (read_int j name field) ↔ Admits j name good := by
  unfold Admits read_int
  cases number_item j name with
  | none => simpa using start
  | some value => simp

/-- A field that starts from a bad value is good when the message sets it so. -/
theorem read_int_set {name : String} {field : Int32} {good : Int32 → Prop} (start : ¬ good field) :
    good (read_int j name field) ↔ number_item j name ≠ none ∧ Admits j name good := by
  unfold Admits read_int
  cases number_item j name with
  | none => simpa using start
  | some value => simp

end Message

section Exchange
variable {features : Features} {test : iperf_test} {j : cJSON}

theorem choose_udp {asked : Prop} [Decidable asked] :
    (if asked then set_protocol features test .Pudp else test).protocol = .Pudp ↔
      asked ∨ test.protocol = .Pudp := by
  by_cases asks : asked
  · simp [asks, set_protocol, protocols, check_sender_has_retransmits]
  · simp [asks]

theorem choose_other {asked : Prop} [Decidable asked] {prot_id : Protocol}
    (other : prot_id ≠ .Pudp) :
    (if asked then set_protocol features test prot_id else test).protocol = .Pudp ↔
      ¬ (asked ∧ prot_id ∈ protocols features) ∧ test.protocol = .Pudp := by
  by_cases asks : asked
  · by_cases listed : prot_id ∈ protocols features
    · simp [asks, listed, set_protocol, check_sender_has_retransmits, other]
    · simp [asks, listed, set_protocol]
  · simp [asks]

theorem choose_diskfile {asked : Prop} [Decidable asked] (prot_id : Protocol) :
    (if asked then set_protocol features test prot_id else test).diskfile_name =
      test.diskfile_name := by
  unfold set_protocol
  split
  · split <;> rfl
  · rfl

/-- The keys are read in turn, so a later one that is supported wins. -/
theorem read_protocol_udp (streaming : test.protocol ≠ .Pudp)
    (nofile : has_bool j "udp" → test.diskfile_name = none) :
    (read_protocol features j test).protocol = .Pudp ↔ asks_udp features j = true := by
  have plain : has_bool j "udp" = true ∧ test.diskfile_name = none ↔ has_bool j "udp" = true :=
    ⟨And.left, fun asked => ⟨asked, nofile asked⟩⟩
  have sctp : Protocol.Psctp ∈ protocols features ↔ features.HAVE_SCTP_H := by simp [protocols]
  have quic : Protocol.Pquic ∈ protocols features := by simp [protocols]
  simp only [read_protocol, choose_diskfile]
  rw [choose_other (by decide), choose_other (by decide), choose_udp, choose_other (by decide),
    plain, sctp]
  simp only [asks_udp, quic, streaming, and_true, and_false, or_false, Bool.and_eq_true,
    Bool.not_eq_true', Bool.and_eq_false_iff, not_and, Bool.not_eq_true]
  grind

/-- The fields that the limits speak of, as an accepted message leaves them. -/
structure Reads (features : Features) (j : cJSON) (after : iperf_test) : Prop where
  num_streams : after.num_streams = read_int j "parallel" 1
  duration : after.duration = read_int j "time" DURATION
  omitted : after.omit = read_int j "omit" OMIT
  blksize : after.settings.blksize = read_int j "len" DEFAULT_TCP_BLKSIZE
  burst : after.settings.burst = read_int j "burst" 0
  mss : after.settings.mss = read_int j "MSS" 0
  socket_bufsize : after.settings.socket_bufsize = read_int j "window" 0
  tos : after.settings.tos = read_int j "TOS" 0
  udp : after.protocol = .Pudp ↔ asks_udp features j = true

theorem get_parameters_reads (base : Base test)
    (accepted : (get_parameters features test (some j)).1 = none) :
    Reads features j (get_parameters features test (some j)).2 := by
  obtain ⟨protocol, _, _, _, _, after⟩ := read_parameters_sets features j test
  have kept := read_parameters_protocol features j test
  have streaming : test.protocol ≠ .Pudp := by
    rcases base.streaming with tcp | quic
    · simp [tcp]
    · simp [quic]
  obtain ⟨made, _, nofile⟩ := accepted_message accepted
  rw [made]
  constructor
  case udp => rw [kept]; exact read_protocol_udp streaming nofile
  case num_streams => rw [after, ← base.num_streams]; rfl
  case duration => rw [after, ← base.duration]; rfl
  case omitted => rw [after, ← base.omitted]; rfl
  case blksize => rw [after, ← base.blksize]; rfl
  case burst => rw [after, ← base.burst]; rfl
  case mss => rw [after, ← base.mss]; rfl
  case socket_bufsize => rw [after, ← base.socket_bufsize]; rfl
  case tos => rw [after, ← base.tos]; rfl

theorem reads_limits {after : iperf_test} (reads : Reads features j after) :
    Limits after ↔ InRange features j := by
  have streams := @read_int_good j "parallel" 1
    (fun streams => 1 ≤ streams ∧ streams ≤ MAX_STREAMS) (by decide)
  have time := @read_int_good j "time" DURATION
    (fun seconds => 0 ≤ seconds ∧ seconds ≤ MAX_TIME) (by decide)
  have omitted := @read_int_good j "omit" OMIT
    (fun seconds => 0 ≤ seconds ∧ seconds ≤ MAX_OMIT_TIME) (by decide)
  have blksize := @read_int_good j "len" DEFAULT_TCP_BLKSIZE
    (fun blksize => 1 ≤ blksize ∧ blksize ≤ MAX_BLOCKSIZE) (by decide)
  have udp_blksize := @read_int_set j "len" DEFAULT_TCP_BLKSIZE
    (fun blksize => MIN_UDP_BLOCKSIZE ≤ blksize ∧ blksize ≤ MAX_UDP_BLOCKSIZE) (by decide)
  have burst := @read_int_good j "burst" 0
    (fun burst => 0 ≤ burst ∧ burst ≤ MAX_BURST) (by decide)
  have mss := @read_int_good j "MSS" 0 (fun mss => mss ≤ MAX_MSS) (by decide)
  have window := @read_int_good j "window" 0 (fun bufsize => bufsize ≤ MAX_TCP_BUFFER) (by decide)
  have tos := @read_int_good j "TOS" 0 (fun tos => 0 ≤ tos ∧ tos ≤ 255) (by decide)
  rw [← reads.num_streams] at streams
  rw [← reads.duration] at time
  rw [← reads.omitted] at omitted
  rw [← reads.blksize] at blksize udp_blksize
  rw [← reads.burst] at burst
  rw [← reads.mss] at mss
  rw [← reads.socket_bufsize] at window
  rw [← reads.tos] at tos
  have other : after.protocol ≠ .Pudp ↔ asks_udp features j = false := by
    rw [ne_eq, reads.udp, Bool.not_eq_true]
  constructor
  · intro limits
    exact ⟨streams.mp limits.num_streams, time.mp limits.duration, omitted.mp limits.omitted,
      fun asked => blksize.mp (limits.blksize (other.mpr asked)),
      fun asked => udp_blksize.mp (limits.udp_blksize (reads.udp.mpr asked)),
      burst.mp limits.burst, mss.mp limits.mss, window.mp limits.socket_bufsize,
      tos.mp limits.tos⟩
  · intro range
    exact ⟨streams.mpr range.parallel, time.mpr range.time, omitted.mpr range.omitted,
      fun same => blksize.mpr (range.len (other.mp same)),
      fun same => udp_blksize.mpr (range.udp_len (reads.udp.mp same)),
      burst.mpr range.burst, mss.mpr range.mss, window.mpr range.window, tos.mpr range.tos⟩

/-- The server's configuration is within the limits after an accepted message
if and only if the numbers of the message are: none of them is checked. -/
theorem parameters_in_range {environment : Environment} {options : List Opt}
    {initial : iperf_test}
    (parses : iperf_parse_arguments features environment (iperf_defaults features) options =
      .ok initial) (role : initial.role = .s) (rounds : List Round)
    (accepted : (get_parameters features (serve features initial rounds) (some j)).1 = none) :
    Limits (get_parameters features (serve features initial rounds) (some j)).2 ↔
      InRange features j :=
  reads_limits (get_parameters_reads (serve_base parses role rounds) accepted)

/-- What every client writes. -/
theorem parameters_in_range_sample :
    Limits (get_parameters sample_features (serve sample_features sample_server [])
        (some (.object plain_members))).2 ↔
      InRange sample_features (.object plain_members) := by
  have parses : iperf_parse_arguments sample_features sample_environment
    (iperf_defaults sample_features) [.s] = .ok sample_server := rfl
  exact parameters_in_range parses rfl [] (by decide +kernel)

/-- A client that asks for 129 streams. -/
theorem parameters_in_range_counterexample :
    let j := cJSON.object [("tcp", .bool true), ("parallel", int_number 129)]
    iperf_parse_arguments sample_features sample_environment (iperf_defaults sample_features)
        [.s] = .ok sample_server ∧
      (get_parameters sample_features sample_server (some j)).1 = none ∧
      ¬ Limits (get_parameters sample_features sample_server (some j)).2 := by
  refine ⟨rfl, by decide +kernel, fun limits => ?_⟩
  have streams := limits.num_streams.2
  revert streams
  decide +kernel

end Exchange

end Iperf.ServerLimits
