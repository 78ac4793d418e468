import Iperf.StreamResults

/-!
The sent bytes of a summary, `bytes_sent - bytes_sent_omit`, against the bytes
that were counted after the omit phase or that the peer reported for it.
-/

namespace Iperf.SentBytes

open TestState Json Config StreamResults

section Tally

/-- The bytes that a stream's worker counted before the last reset and since. -/
structure Tally where
  omitted : Nat := 0
  since : Nat := 0

def tally (id : Int32) (events : List Event) : Tally :=
  events.foldl (fun tally event =>
    match event with
    | .sent stream bytes _ =>
        if stream = id then { tally with since := tally.since + bytes.toNat } else tally
    | .reset => { omitted := tally.omitted + tally.since, since := 0 }
    | _ => tally) {}

theorem tally_append (id : Int32) (events : List Event) (event : Event) :
    tally id (events ++ [event]) =
      match event with
      | .sent stream bytes _ =>
          if stream = id then
            { tally id events with since := (tally id events).since + bytes.toNat }
          else tally id events
      | .reset => { omitted := (tally id events).omitted + (tally id events).since, since := 0 }
      | _ => tally id events := by
  simp only [tally, List.foldl_append, List.foldl_cons, List.foldl_nil]

theorem after_append (events : List Event) (event : Event) (sp : iperf_stream) :
    after (events ++ [event]) sp = count event (after events sp) := by
  simp [after]

/-- The counters of a stream that sends are the tally, in 64 bits. -/
theorem after_tally (events : List Event) {sp : iperf_stream} (sender : sp.sender = true)
    (sent : sp.result.bytes_sent = 0) (omitted : sp.result.bytes_sent_omit = 0) :
    (after events sp).result.bytes_sent =
        UInt64.ofNat ((tally sp.id events).omitted + (tally sp.id events).since) ∧
      (after events sp).result.bytes_sent_omit = UInt64.ofNat (tally sp.id events).omitted := by
  induction events using List.reverseRecOn with
  | nil => exact ⟨sent, omitted⟩
  | append_singleton events event ih =>
      obtain ⟨total, before⟩ := ih
      rw [after_append, tally_append]
      cases event with
      | sent stream bytes packets =>
          by_cases same : sp.id = stream
          · subst same
            simp [count, sender, total, before, ← Nat.add_assoc]
          · simp [count, same, Ne.symm same, total, before]
      | received stream bytes packets errors jitter =>
          simp [count, sender, total, before]
      | retransmitted stream retrans =>
          simp only [count]
          split
          · exact ⟨total, before⟩
          · exact ⟨total, before⟩
      | reset => exact ⟨total, total⟩

end Tally

section Reported
variable (test : iperf_test)

/-- The bytes of the last item for an id. -/
def reported (items : List cJSON) (id : Int32) : Option UInt64 :=
  items.foldl (fun last j_stream =>
    match read_report j_stream with
    | none => last
    | some report => if id = report.sid then some report.bytes_transferred else last) none

/-- The peer's number stands in for the sent bytes: of a stream that receives,
and of every stream of a QUIC client. -/
def replaces (sender : Bool) : Bool := ! sender || (test.protocol = .Pquic ∧ test.role = .c)

theorem apply_report_sent (report : Report) (sp : iperf_stream) :
    (apply_report test report sp).sender = sp.sender ∧
      (apply_report test report sp).result.bytes_sent_omit = sp.result.bytes_sent_omit ∧
      (apply_report test report sp).result.bytes_sent =
        if replaces test sp.sender then report.bytes_transferred else sp.result.bytes_sent := by
  cases sender : sp.sender with
  | false => simp [apply_report, apply_to_receiver, replaces, sender]
  | true => simp [apply_report, apply_to_sender, replaces, sender]

theorem received_sent (items : List cJSON) (sp : iperf_stream) :
    (received test items sp).id = sp.id ∧ (received test items sp).sender = sp.sender ∧
      (received test items sp).result.bytes_sent_omit = sp.result.bytes_sent_omit ∧
      (received test items sp).result.bytes_sent =
        if replaces test sp.sender then (reported items sp.id).getD sp.result.bytes_sent
        else sp.result.bytes_sent := by
  induction items using List.reverseRecOn with
  | nil => simp [received, reported]
  | append_singleton items j_stream ih =>
      obtain ⟨id, sender, omitted, sent⟩ := ih
      have next : received test (items ++ [j_stream]) sp =
          receive test j_stream (received test items sp) := by simp [received]
      have last : reported (items ++ [j_stream]) sp.id =
          match read_report j_stream with
          | none => reported items sp.id
          | some report =>
              if sp.id = report.sid then some report.bytes_transferred
              else reported items sp.id := by
        simp only [reported, List.foldl_append, List.foldl_cons, List.foldl_nil]
      rw [next, last, receive, id]
      cases read_report j_stream with
      | none => exact ⟨id, sender, omitted, sent⟩
      | some report =>
          by_cases same : sp.id = report.sid
          · obtain ⟨sender', omitted', sent'⟩ :=
              apply_report_sent test report (received test items sp)
            simp only [if_pos same, apply_report_id]
            refine ⟨id, sender'.trans sender, omitted'.trans omitted, ?_⟩
            rw [sent', sender, sent]
            split <;> rfl
          · simp only [if_neg same]
            exact ⟨id, sender, omitted, sent⟩

/-- The bytes that the printed difference should be: those of the peer's report where
they stand in, and else those that the stream itself counted after the omit phase. -/
def attributed (events : List Event) (items : List cJSON) (sp : iperf_stream) : Nat :=
  let own := if sp.sender then (tally sp.id events).since else 0
  if replaces test sp.sender then ((reported items sp.id).map UInt64.toNat).getD own else own

/-- What `iperf_print_results` subtracts is no more than what it subtracts from, and the
difference is the number of bytes attributed to the time after the omit phase. -/
def Printed (events : List Event) (items : List cJSON) (sp : iperf_stream) : Prop :=
  sp.result.bytes_sent_omit ≤ sp.result.bytes_sent ∧
    (sp.result.bytes_sent - sp.result.bytes_sent_omit).toNat = attributed test events items sp

/-- A sender whose total the peer's number replaces has sent nothing in the omit phase;
the total of any other one does not wrap after the reset. -/
def Fits (events : List Event) (items : List cJSON) (sp : iperf_stream) : Prop :=
  sp.sender = true →
    if replaces test true ∧ (reported items sp.id).isSome then
      (tally sp.id events).omitted % 2 ^ 64 = 0
    else (tally sp.id events).omitted % 2 ^ 64 + (tally sp.id events).since < 2 ^ 64

instance (events : List Event) (items : List cJSON) (sp : iperf_stream) :
    Decidable (Printed test events items sp) :=
  inferInstanceAs (Decidable (_ ∧ _))

instance (events : List Event) (items : List cJSON) (sp : iperf_stream) :
    Decidable (Fits test events items sp) :=
  inferInstanceAs (Decidable (_ → _))

end Reported

section Difference

theorem own_difference (omitted since : Nat) :
    (UInt64.ofNat omitted ≤ UInt64.ofNat (omitted + since) ∧
      (UInt64.ofNat (omitted + since) - UInt64.ofNat omitted).toNat = since) ↔
      omitted % 2 ^ 64 + since < 2 ^ 64 := by
  rw [UInt64.le_iff_toNat_le, UInt64.toNat_sub, UInt64.toNat_ofNat', UInt64.toNat_ofNat']
  omega

theorem replaced_difference (omitted : Nat) (bytes : UInt64) :
    (UInt64.ofNat omitted ≤ bytes ∧ (bytes - UInt64.ofNat omitted).toNat = bytes.toNat) ↔
      omitted % 2 ^ 64 = 0 := by
  have bounded := bytes.toNat_lt
  rw [UInt64.le_iff_toNat_le, UInt64.toNat_sub, UInt64.toNat_ofNat']
  omega

end Difference

/-- The printed difference is right if and only if the peer's number, where it stands
in for the sent bytes, meets no bytes that the stream counted in the omit phase. -/
theorem sent_bytes_printed (own : Endpoint) (events : List Event) (j : Option cJSON)
    (sp : iperf_stream) (listed : sp ∈ (get_results (tested own events) j).2.streams) :
    Printed own.test events (j_streams j) sp ↔ Fits own.test events (j_streams j) sp := by
  rw [get_results_streams _ _ (tested_distinct own events)] at listed
  obtain ⟨counted_sp, found, rfl⟩ := List.mem_map.mp listed
  rw [tested_streams] at found
  obtain ⟨entry, _, rfl⟩ := List.mem_map.mp found
  obtain ⟨id, direction, omitted, sent⟩ :=
    received_sent own.test (j_streams j)
      (after events { id := stream_id entry.2, sender := entry.1 })
  simp only [after_id, after_sender] at id direction omitted sent
  simp only [Printed, Fits, attributed, tested, id, direction, omitted, sent]
  cases entry_sender : entry.1 with
  | false =>
      -- a receiver's own counters are zero, so the report is printed as it is
      have unsent : Unsent (after events { id := stream_id entry.2, sender := false }) :=
        after_keeps events count_unsent fun _ => ⟨rfl, rfl⟩
      obtain ⟨none, none_omitted⟩ := unsent (after_sender events _)
      cases reported (j_streams j) (stream_id entry.2) <;> simp [replaces, none, none_omitted]
  | true =>
      obtain ⟨total, before⟩ :=
        @after_tally events { id := stream_id entry.2, sender := true } rfl rfl rfl
      simp only [total, before, true_implies, if_true]
      cases stands_in : replaces own.test true with
      | false => simpa using own_difference _ _
      | true =>
          cases report : reported (j_streams j) (stream_id entry.2) with
          | none => simpa using own_difference _ _
          | some bytes => simpa using replaced_difference _ bytes

section Samples

def quic_client : Endpoint :=
  { test := { role := .c, protocol := .Pquic, mode := .SENDER, num_streams := 1 }, streams := [] }

/-- A server's results for one stream of which it has received 400 bytes. -/
def sample_results : cJSON :=
  .object
    [("cpu_util_total", .number 0), ("cpu_util_user", .number 0), ("cpu_util_system", .number 0),
      ("sender_has_retransmits", .number 0),
      ("streams", .array
        [.object
          [("id", .number 1), ("bytes", .number 400), ("retransmits", .number (-1)),
            ("jitter", .number 0), ("errors", .number 0), ("packets", .number 0)]])]

theorem sent_bytes_printed_sample :
    ∃ sp ∈ (get_results (tested quic_client [.sent 1 500 1]) (some sample_results)).2.streams,
      Printed quic_client.test [.sent 1 500 1] (j_streams (some sample_results)) sp := by
  have fits : ∀ sp ∈ (get_results (tested quic_client [.sent 1 500 1])
      (some sample_results)).2.streams,
      Fits quic_client.test [.sent 1 500 1] (j_streams (some sample_results)) sp := by
    decide +kernel
  have one : (get_results (tested quic_client [.sent 1 500 1])
      (some sample_results)).2.streams ≠ [] := by decide +kernel
  obtain ⟨sp, listed⟩ := List.exists_mem_of_ne_nil _ one
  exact ⟨sp, listed, (sent_bytes_printed _ _ _ sp listed).mpr (fits sp listed)⟩

/-- The client has counted 1000 bytes in the omit phase and 500 after it, of which
the server reports 400. -/
theorem sent_bytes_printed_counterexample :
    ¬ ∀ (own : Endpoint) (events : List Event) (j : Option cJSON) (sp : iperf_stream),
      (get_results (tested own events) j).1 = none →
      sp ∈ (get_results (tested own events) j).2.streams →
      Printed own.test events (j_streams j) sp := by
  intro claimed
  have completed : (get_results (tested quic_client [.sent 1 1000 1, .reset, .sent 1 500 2])
      (some sample_results)).1 = none := by decide +kernel
  have printed := fun sp => claimed quic_client _ _ sp completed
  exact absurd printed (by decide +kernel)

end Samples

end Iperf.SentBytes
