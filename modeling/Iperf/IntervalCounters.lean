import Mathlib.Data.UInt
import Iperf.Transition

/-!
The byte counters of one stream under its two threads. The worker adds to the
total and then to the interval's counter; `iperf_stats_callback` samples the
interval's counter and clears it some steps later, and `iperf_reset_stats`
starts a new account in between two of its own steps.
-/

namespace Iperf.IntervalCounters

open Transition

/-- The atomics of `iperf_stream_result`, and `bytes_transferred` of each of its
`interval_results`. -/
structure iperf_stream_result where
  bytes_received : UInt64
  bytes_sent : UInt64
  bytes_received_this_interval : UInt64
  bytes_sent_this_interval : UInt64
  bytes_sent_omit : UInt64
  interval_results : List UInt64

section Result
variable (sender : Bool) (rp : iperf_stream_result)

def total : UInt64 := if sender then rp.bytes_sent else rp.bytes_received

def this_interval : UInt64 :=
  if sender then rp.bytes_sent_this_interval else rp.bytes_received_this_interval

/-- What the last reset took off the total; a receiver's total itself is cleared. -/
def base : UInt64 := if sender then rp.bytes_sent_omit else 0

def add_total (r : UInt64) : iperf_stream_result :=
  if sender then { rp with bytes_sent := rp.bytes_sent + r }
  else { rp with bytes_received := rp.bytes_received + r }

def add_this_interval (r : UInt64) : iperf_stream_result :=
  if sender then { rp with bytes_sent_this_interval := rp.bytes_sent_this_interval + r }
  else { rp with bytes_received_this_interval := rp.bytes_received_this_interval + r }

@[simp] theorem total_add_total (r : UInt64) :
    total sender (add_total sender rp r) = total sender rp + r := by
  cases sender <;> rfl

@[simp] theorem this_interval_add_total (r : UInt64) :
    this_interval sender (add_total sender rp r) = this_interval sender rp := by
  cases sender <;> rfl

@[simp] theorem base_add_total (r : UInt64) :
    base sender (add_total sender rp r) = base sender rp := by
  cases sender <;> rfl

@[simp] theorem total_add_this_interval (r : UInt64) :
    total sender (add_this_interval sender rp r) = total sender rp := by
  cases sender <;> rfl

@[simp] theorem this_interval_add_this_interval (r : UInt64) :
    this_interval sender (add_this_interval sender rp r) = this_interval sender rp + r := by
  cases sender <;> rfl

@[simp] theorem base_add_this_interval (r : UInt64) :
    base sender (add_this_interval sender rp r) = base sender rp := by
  cases sender <;> rfl

end Result

/-- The worker in `iperf_tcp_send` or `iperf_tcp_recv`. -/
inductive Worker where
  | idle
  /-- `r` is in the total and not yet in the interval's counter -/
  | adding (r : UInt64)

/-- Where the main thread is, after which of its loads and stores. -/
inductive Main where
  | idle
  /-- `iperf_stats_callback`, with `temp.bytes_transferred` -/
  | sampled (bytes_transferred : UInt64)
  | totalling (bytes_transferred sent : UInt64)
  | totalled (bytes_transferred : UInt64)
  | recorded
  | clearing
  /-- `iperf_reset_stats`, with the total it is about to store -/
  | loaded (bytes_sent : UInt64)
  | omitted
  | zeroed
  | halfway

structure Stream where
  result : iperf_stream_result
  worker : Worker
  main : Main
  total_interval_bytes_transferred : UInt64

inductive Event where
  | add_total (r : UInt64)
  | add_this_interval
  | sample
  | read_sent
  | read_received
  | add_to_interval_list (bytes_transferred : UInt64)
  | clear_received
  | clear_sent
  | load_sent
  | store_omit
  | zero_received
  | reset_received
  | reset_sent

section Step
variable (sender : Bool)

/-- One atomic access of either thread. -/
inductive Step : Stream → Event → Stream → Prop where
  | add_total {stream : Stream} (r : UInt64) (idle : stream.worker = .idle) :
      Step stream (.add_total r)
        { stream with result := add_total sender stream.result r, worker := .adding r }
  | add_this_interval {stream : Stream} {r : UInt64} (adding : stream.worker = .adding r) :
      Step stream .add_this_interval
        { stream with result := add_this_interval sender stream.result r, worker := .idle }
  | sample {stream : Stream} (idle : stream.main = .idle) :
      Step stream .sample { stream with main := .sampled (this_interval sender stream.result) }
  | read_sent {stream : Stream} {bytes : UInt64} (sampled : stream.main = .sampled bytes) :
      Step stream .read_sent
        { stream with main := .totalling bytes stream.result.bytes_sent_this_interval }
  | read_received {stream : Stream} {bytes sent : UInt64}
      (totalling : stream.main = .totalling bytes sent) :
      Step stream .read_received
        { stream with
          total_interval_bytes_transferred := stream.total_interval_bytes_transferred +
            (sent + stream.result.bytes_received_this_interval)
          main := .totalled bytes }
  | add_to_interval_list {stream : Stream} {bytes : UInt64}
      (totalled : stream.main = .totalled bytes) :
      Step stream (.add_to_interval_list bytes)
        { stream with
          result.interval_results := stream.result.interval_results ++ [bytes]
          main := .recorded }
  | clear_received {stream : Stream} (recorded : stream.main = .recorded) :
      Step stream .clear_received
        { stream with result.bytes_received_this_interval := 0, main := .clearing }
  | clear_sent {stream : Stream} (clearing : stream.main = .clearing) :
      Step stream .clear_sent
        { stream with result.bytes_sent_this_interval := 0, main := .idle }
  | load_sent {stream : Stream} (idle : stream.main = .idle) :
      Step stream .load_sent { stream with main := .loaded stream.result.bytes_sent }
  | store_omit {stream : Stream} {bytes : UInt64} (loaded : stream.main = .loaded bytes) :
      Step stream .store_omit
        { stream with result.bytes_sent_omit := bytes, main := .omitted }
  | zero_received {stream : Stream} (omitted : stream.main = .omitted) :
      Step stream .zero_received
        { stream with result.bytes_received := 0, main := .zeroed }
  | reset_received {stream : Stream} (zeroed : stream.main = .zeroed) :
      Step stream .reset_received
        { stream with result.bytes_received_this_interval := 0, main := .halfway }
  | reset_sent {stream : Stream} (halfway : stream.main = .halfway) :
      Step stream .reset_sent
        { stream with result.bytes_sent_this_interval := 0, main := .idle }

/-- The callback has sampled the stream's counter and not cleared it yet. -/
def sampling : Main → Bool
  | .sampled _ | .totalling _ _ | .totalled _ | .recorded => true
  | .clearing => sender
  | _ => false

/-- The base of a reset that has not cleared the stream's counter yet. -/
def rebasing (stream : Stream) : Option UInt64 :=
  match stream.main with
  | .loaded bytes => if sender then some bytes else none
  | .omitted => if sender then some (base sender stream.result) else none
  | .zeroed => some (base sender stream.result)
  | .halfway => if sender then some (base sender stream.result) else none
  | _ => none

/-- The reset's store that clears the stream's own counter. -/
def resets : Event → Bool
  | .reset_received => ! sender
  | .reset_sent => sender
  | _ => false

/-- No update of the worker is cut in two: its addition to the interval's counter
does not fall between a sample and the store that clears it, and a reset finds
both of its additions on the same side of the new account. -/
def Clean (stream : Stream) (event : Event) : Prop :=
  ∀ r, stream.worker = .adding r → r ≠ 0 →
    (event = .add_this_interval → sampling sender stream.main = false ∧
      ∀ start ∈ rebasing sender stream, total sender stream.result = start) ∧
    (resets sender event = true →
      ∀ start ∈ rebasing sender stream, total sender stream.result ≠ start)

def CleanStep (before : Stream) (event : Event) (after : Stream) : Prop :=
  Step sender before event after ∧ Clean sender before event

end Step

/-- `bytes_transferred` of the records made since the last reset. -/
def since_reset : List Event → List UInt64 :=
  List.foldl (fun records event =>
    match event with
    | .add_to_interval_list bytes => records ++ [bytes]
    | .load_sent => []
    | _ => records) []

def fresh : Stream :=
  { result :=
      { bytes_received := 0, bytes_sent := 0, bytes_received_this_interval := 0
        bytes_sent_this_interval := 0, bytes_sent_omit := 0, interval_results := [] }
    worker := .idle
    main := .idle
    total_interval_bytes_transferred := 0 }

@[simp] theorem since_reset_append (past : List Event) (event : Event) :
    since_reset (past ++ [event]) =
      match event with
      | .add_to_interval_list bytes => since_reset past ++ [bytes]
      | .load_sent => []
      | _ => since_reset past := by
  simp only [since_reset, List.foldl_append, List.foldl_cons, List.foldl_nil]

theorem sum_append (records : List UInt64) (bytes : UInt64) :
    (records ++ [bytes]).sum = records.sum + bytes := by
  induction records with
  | nil => simp
  | cons first rest ih => simp only [List.cons_append, List.sum_cons, ih, UInt64.add_assoc]

section Invariant
variable {sender : Bool}

/-- What the worker has added to the total only. -/
def pending : Worker → UInt64
  | .idle => 0
  | .adding r => r

/-- `counted` bytes are in the records or in the interval's counter. -/
def Accounts (sender : Bool) (stream : Stream) (counted : UInt64) : Prop :=
  counted + pending stream.worker = total sender stream.result - base sender stream.result

/-- The total has moved by no more than the open update since `start` was taken. -/
def Since (sender : Bool) (stream : Stream) (start : UInt64) : Prop :=
  total sender stream.result = start ∨
    total sender stream.result = start + pending stream.worker

def Inv (sender : Bool) (past : List Event) (stream : Stream) : Prop :=
  match stream.main with
  | .idle =>
      Accounts sender stream ((since_reset past).sum + this_interval sender stream.result)
  | .sampled bytes | .totalling bytes _ | .totalled bytes =>
      Accounts sender stream ((since_reset past).sum + this_interval sender stream.result) ∧
        this_interval sender stream.result = bytes
  | .recorded => Accounts sender stream (since_reset past).sum
  | .clearing =>
      Accounts sender stream ((since_reset past).sum +
        if sender then 0 else this_interval sender stream.result)
  | .loaded bytes => since_reset past = [] ∧ (sender = true → Since sender stream bytes)
  | .omitted =>
      since_reset past = [] ∧ (sender = true → Since sender stream (base sender stream.result))
  | .zeroed => since_reset past = [] ∧ Since sender stream (base sender stream.result)
  | .halfway =>
      since_reset past = [] ∧
        if sender then Since sender stream (base sender stream.result)
        else Accounts sender stream (this_interval sender stream.result)

variable {past : List Event} {before : Stream}

theorem Accounts.counted_total {counted : UInt64} (accounts : Accounts sender before counted)
    (idle : before.worker = .idle) (r : UInt64) :
    Accounts sender
      { before with result := add_total sender before.result r, worker := .adding r } counted := by
  simp only [Accounts, idle, pending, total_add_total, base_add_total] at accounts ⊢
  grind

theorem Accounts.counted_interval {counted r : UInt64} (accounts : Accounts sender before counted)
    (adding : before.worker = .adding r) :
    Accounts sender
      { before with result := add_this_interval sender before.result r, worker := .idle }
      (counted + r) := by
  simp only [Accounts, adding, pending, total_add_this_interval, base_add_this_interval]
    at accounts ⊢
  grind

theorem Since.counted_total {start : UInt64} (since : Since sender before start)
    (idle : before.worker = .idle) (r : UInt64) :
    Since sender
      { before with result := add_total sender before.result r, worker := .adding r } start := by
  apply Or.inr
  simp only [Since, idle, pending, total_add_total] at since ⊢
  grind

theorem Since.counted_interval {start r : UInt64} (since : Since sender before start)
    (adding : before.worker = .adding r)
    (uncut : r ≠ 0 → total sender before.result = start) :
    Since sender
      { before with result := add_this_interval sender before.result r, worker := .idle }
      start := by
  apply Or.inl
  by_cases none : r = 0
  · simp only [Since, adding, pending, none, total_add_this_interval] at since ⊢
    grind
  · exact (total_add_this_interval sender before.result r).trans (uncut none)

/-- The account that starts at `start` is balanced once the interval's counter is cleared. -/
theorem Since.cleared {start : UInt64} (since : Since sender before start)
    (uncut : ∀ r, before.worker = .adding r → r ≠ 0 → total sender before.result ≠ start) :
    pending before.worker = total sender before.result - start := by
  rcases since with unmoved | moved
  · cases worker : before.worker with
    | idle => simp [pending, unmoved]
    | adding r =>
        have none : r = 0 := Classical.byContradiction fun some => uncut r worker some unmoved
        simp [pending, unmoved, none]
  · grind

theorem add_total_inv (inv : Inv sender past before) (idle : before.worker = .idle) (r : UInt64) :
    Inv sender (past ++ [.add_total r])
      { before with result := add_total sender before.result r, worker := .adding r } := by
  simp only [Inv, since_reset_append, this_interval_add_total, base_add_total] at inv ⊢
  cases main : before.main with
  | idle | recorded | clearing =>
      simp only [main] at inv ⊢
      exact inv.counted_total idle r
  | sampled bytes | totalling bytes sent | totalled bytes =>
      simp only [main] at inv ⊢
      exact ⟨inv.1.counted_total idle r, inv.2⟩
  | loaded bytes | omitted =>
      simp only [main] at inv ⊢
      exact ⟨inv.1, fun sends => (inv.2 sends).counted_total idle r⟩
  | zeroed =>
      simp only [main] at inv ⊢
      exact ⟨inv.1, inv.2.counted_total idle r⟩
  | halfway =>
      simp only [main] at inv ⊢
      cases sender with
      | true => exact ⟨inv.1, inv.2.counted_total idle r⟩
      | false => exact ⟨inv.1, inv.2.counted_total idle r⟩

theorem add_this_interval_inv {r : UInt64} (inv : Inv sender past before)
    (adding : before.worker = .adding r) (clean : Clean sender before .add_this_interval) :
    Inv sender (past ++ [.add_this_interval])
      { before with result := add_this_interval sender before.result r, worker := .idle } := by
  have unsampled : sampling sender before.main = true → r = 0 := by
    intro sampled
    apply Classical.byContradiction
    intro some
    simp [((clean r adding some).1 rfl).1] at sampled
  have uncut : ∀ start ∈ rebasing sender before, r ≠ 0 → total sender before.result = start :=
    fun start rebased some => ((clean r adding some).1 rfl).2 start rebased
  simp only [Inv, since_reset_append, this_interval_add_this_interval, base_add_this_interval]
    at inv ⊢
  cases main : before.main with
  | idle =>
      simp only [main] at inv ⊢
      rw [← UInt64.add_assoc]
      exact inv.counted_interval adding
  | sampled bytes | totalling bytes sent | totalled bytes =>
      simp only [main] at inv ⊢
      have none := unsampled (by simp [sampling, main])
      rw [← UInt64.add_assoc]
      exact ⟨inv.1.counted_interval adding, by simpa [none] using inv.2⟩
  | recorded =>
      simp only [main] at inv ⊢
      have counted := inv.counted_interval adding
      rw [unsampled (by simp [sampling, main]), UInt64.add_zero] at counted
      rw [unsampled (by simp [sampling, main])]
      exact counted
  | clearing =>
      simp only [main] at inv ⊢
      have counted := inv.counted_interval adding
      cases sender with
      | true =>
          rw [unsampled (by simp [sampling, main])] at counted ⊢
          simp only [if_true, UInt64.add_zero] at counted ⊢
          exact counted
      | false =>
          rw [UInt64.add_assoc] at counted
          exact counted
  | loaded bytes =>
      simp only [main] at inv ⊢
      refine ⟨inv.1, fun sends => ?_⟩
      exact (inv.2 sends).counted_interval adding (uncut _ (by simp [rebasing, main, sends]))
  | omitted =>
      simp only [main] at inv ⊢
      refine ⟨inv.1, fun sends => ?_⟩
      exact (inv.2 sends).counted_interval adding (uncut _ (by simp [rebasing, main, sends]))
  | zeroed =>
      simp only [main] at inv ⊢
      exact ⟨inv.1, inv.2.counted_interval adding (uncut _ (by simp [rebasing, main]))⟩
  | halfway =>
      simp only [main] at inv ⊢
      cases sender with
      | true =>
          exact ⟨inv.1, inv.2.counted_interval adding (uncut _ (by simp [rebasing, main]))⟩
      | false => exact ⟨inv.1, inv.2.counted_interval adding⟩

/-- The store that clears the stream's own counter balances a reset. -/
theorem Since.accounts {event : Event} (since : Since sender before (base sender before.result))
    (rebased : base sender before.result ∈ rebasing sender before)
    (cleared : resets sender event = true) (clean : Clean sender before event) :
    Accounts sender before 0 := by
  rw [Accounts, UInt64.zero_add]
  exact since.cleared fun r adding some => (clean r adding some).2 cleared _ rebased

theorem step_inv {event : Event} {after : Stream} (inv : Inv sender past before)
    (step : Step sender before event after) (clean : Clean sender before event) :
    Inv sender (past ++ [event]) after := by
  cases step with
  | add_total r idle => exact add_total_inv inv idle r
  | add_this_interval adding => exact add_this_interval_inv inv adding clean
  | sample idle =>
      simp only [Inv, idle, since_reset_append] at inv ⊢
      exact ⟨inv, trivial⟩
  | read_sent sampled =>
      simp only [Inv, sampled, since_reset_append] at inv ⊢
      exact inv
  | read_received totalling =>
      simp only [Inv, totalling, since_reset_append] at inv ⊢
      exact inv
  | add_to_interval_list totalled =>
      simp only [Inv, totalled, since_reset_append, sum_append] at inv ⊢
      rw [← inv.2]
      exact inv.1
  | clear_received recorded =>
      simp only [Inv, recorded, since_reset_append] at inv ⊢
      cases sender <;> simpa [Accounts, this_interval, total, base] using inv
  | clear_sent clearing =>
      simp only [Inv, clearing, since_reset_append] at inv ⊢
      cases sender <;> simpa [Accounts, this_interval, total, base] using inv
  | load_sent idle =>
      simp only [Inv, since_reset_append, true_and]
      rintro rfl
      exact Or.inl rfl
  | store_omit loaded =>
      simp only [Inv, loaded, since_reset_append] at inv ⊢
      refine ⟨inv.1, ?_⟩
      rintro rfl
      exact inv.2 rfl
  | zero_received omitted =>
      simp only [Inv, omitted, since_reset_append] at inv ⊢
      refine ⟨inv.1, ?_⟩
      cases sender with
      | true => exact inv.2 rfl
      | false => exact Or.inl rfl
  | reset_received zeroed =>
      simp only [Inv, zeroed, since_reset_append] at inv ⊢
      refine ⟨inv.1, ?_⟩
      cases sender with
      | true => exact inv.2
      | false => exact inv.2.accounts (by simp [rebasing, zeroed]) rfl clean
  | reset_sent halfway =>
      simp only [Inv, halfway, since_reset_append] at inv ⊢
      rw [inv.1, List.sum_nil, UInt64.zero_add]
      cases sender with
      | true => exact inv.2.accounts (by simp [rebasing, halfway]) rfl clean
      | false => exact inv.2

end Invariant

/-- As long as no update is cut in two, the interval reports lose no bytes. -/
theorem interval_records_total (sender : Bool) (past : List Event) (stream : Stream)
    (run : Run (CleanStep sender) fresh past stream)
    (worker : stream.worker = .idle) (main : stream.main = .idle) :
    (since_reset past).sum + this_interval sender stream.result =
      if sender then stream.result.bytes_sent - stream.result.bytes_sent_omit
      else stream.result.bytes_received := by
  have inv := run.invariant (Inv sender) (by cases sender <;> rfl)
    fun past before event after inv step => step_inv inv step.1 step.2
  simp only [Inv, main, Accounts, worker, pending, UInt64.add_zero] at inv
  rw [inv]
  cases sender <;> simp [total, base]

/-- The second update is in the total while the callback runs, and reaches the
interval's counter after it. -/
theorem interval_records_total_sample :
    ∃ (past : List Event) (stream : Stream),
      since_reset past = [5] ∧ stream.result.bytes_sent = 8 ∧
      (since_reset past).sum + this_interval true stream.result =
        stream.result.bytes_sent - stream.result.bytes_sent_omit := by
  have outside : ∀ {stream : Stream} {event : Event}, stream.main = .idle →
      Clean true stream event := by
    intro stream event idle r _ _
    simp [sampling, rebasing, idle]
  have apart : ∀ {stream : Stream} {event : Event}, event ≠ .add_this_interval →
      resets true event = false → Clean true stream event := by
    intro stream event other keeps r _ _
    simp [other, keeps]
  have first := Run.next (.add_total 5) (Run.start : Run (CleanStep true) fresh [] _)
    ⟨.add_total 5 rfl, outside rfl⟩
  have counted := Run.next .add_this_interval first ⟨.add_this_interval rfl, outside rfl⟩
  have sampled := Run.next .sample counted ⟨.sample rfl, outside rfl⟩
  have second := Run.next (.add_total 3) sampled ⟨.add_total 3 rfl, apart (by simp) rfl⟩
  have sent := Run.next .read_sent second ⟨.read_sent rfl, apart (by simp) rfl⟩
  have received := Run.next .read_received sent ⟨.read_received rfl, apart (by simp) rfl⟩
  have recorded := Run.next (.add_to_interval_list 5) received
    ⟨.add_to_interval_list rfl, apart (by simp) rfl⟩
  have clearing := Run.next .clear_received recorded ⟨.clear_received rfl, apart (by simp) rfl⟩
  have cleared := Run.next .clear_sent clearing ⟨.clear_sent rfl, apart (by simp) rfl⟩
  have last := Run.next .add_this_interval cleared ⟨.add_this_interval rfl, outside rfl⟩
  exact ⟨_, _, rfl, rfl, interval_records_total true _ _ last rfl rfl⟩

/-- The second update reaches the interval's counter after the sample and before
the store that clears it. -/
theorem interval_records_total_counterexample :
    ¬ ∀ (sender : Bool) (past : List Event) (stream : Stream),
      Run (Step sender) fresh past stream → stream.worker = .idle → stream.main = .idle →
      (since_reset past).sum + this_interval sender stream.result =
        if sender then stream.result.bytes_sent - stream.result.bytes_sent_omit
        else stream.result.bytes_received := by
  intro claimed
  have first := Run.next (.add_total 5) (Run.start : Run (Step true) fresh [] _)
    (.add_total 5 rfl)
  have counted := Run.next .add_this_interval first (.add_this_interval rfl)
  have sampled := Run.next .sample counted (.sample rfl)
  have sent := Run.next .read_sent sampled (.read_sent rfl)
  have received := Run.next .read_received sent (.read_received rfl)
  have second := Run.next (.add_total 3) received (.add_total 3 rfl)
  have late := Run.next .add_this_interval second (.add_this_interval rfl)
  have recorded := Run.next (.add_to_interval_list 5) late (.add_to_interval_list rfl)
  have clearing := Run.next .clear_received recorded (.clear_received rfl)
  have cleared := Run.next .clear_sent clearing (.clear_sent rfl)
  have equal := claimed true _ _ cleared rfl rfl
  exact absurd equal (by decide)

end Iperf.IntervalCounters
