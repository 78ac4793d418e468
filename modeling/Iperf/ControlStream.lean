import Iperf.MachineWords
import Iperf.AuthToken
import Iperf.Parameters
import Iperf.Time

/-!
State bytes and JSON frames on the control connection. The connection is a stream of
bytes that is cut into reads by the network; `Nrecv` goes on reading until it has what it
was asked for, or gives up.
-/

namespace Iperf.ControlStream

open Json Time Parameters
open AuthToken (CString)

section Reading

inductive Errno where
  | EINTR
  | EAGAIN
  | hard
  deriving DecidableEq, Repr

/-- One pass of the loop: what the `select` before it returns, how the read fails, if it
does, how many bytes are at hand for it besides the first, and the clock after it. -/
structure Arrival where
  ready : Int
  error : Option Errno
  cut : Nat
  now : iperf_time
  deriving DecidableEq, Repr

/-- For each read of the program its passes. -/
abbrev Network := Nat → Nat → Arrival

/-- What was sent and not yet read, and the number of reads so far. -/
structure Socket where
  pending : List UInt8
  reads : Nat
  deriving DecidableEq, Repr

structure Progress where
  nleft : Nat
  buf : List UInt8
  ftimeout : iperf_time
  pending : List UInt8
  deriving DecidableEq, Repr

def NET_HARDERROR : Int32 := -2

/-- What `read` copies. -/
def take (arrival : Arrival) (progress : Progress) : Progress :=
  let r := min (arrival.cut + 1) (min progress.nleft progress.pending.length)
  { progress with
    nleft := progress.nleft - r
    buf := progress.buf ++ progress.pending.take r
    pending := progress.pending.drop r }

/-- The deadline is set at the first check. -/
def deadline (arrival : Arrival) (progress : Progress) : iperf_time :=
  if progress.ftimeout.secs = 0 then iperf_time_add_usecs arrival.now 30000000
  else progress.ftimeout

/-- The number of bytes read, as an `int`. -/
def result (count : Nat) (progress : Progress) : Int32 :=
  (UInt64.ofNat (count - progress.nleft)).toUInt32.toInt32

/-- The first argument bounds the passes: each reads something or is the last. -/
def Nrecv_loop (arrivals : Nat → Arrival) (count : Nat) : Nat → Nat → Progress → Int32 × Progress
  | 0, _, progress => (result count progress, progress)
  | more + 1, pass, progress =>
      if progress.nleft = 0 then (result count progress, progress)
      else
        match (arrivals pass).error with
        | some .hard => (NET_HARDERROR, progress)
        | some _ => (result count progress, progress)
        | none =>
            if progress.pending = [] then (result count progress, progress)
            else
              let read := take (arrivals pass) progress
              if read.nleft = 0 then Nrecv_loop arrivals count more (pass + 1) read
              else
                let ftimeout := deadline (arrivals pass) progress
                let read := { read with ftimeout := ftimeout }
                if iperf_time_compare ftimeout (arrivals pass).now < 0 then
                  (result count read, read)
                else if (arrivals (pass + 1)).ready < 0 then (NET_HARDERROR, read)
                else if (arrivals (pass + 1)).ready = 0 then (result count read, read)
                else Nrecv_loop arrivals count more (pass + 1) read

/-- The value, what is in the buffer, and the socket after it. -/
def Nread (network : Network) (socket : Socket) (count : Nat) : Int32 × List UInt8 × Socket :=
  let arrivals := network socket.reads
  if (arrivals 0).ready < 0 then (NET_HARDERROR, [], { socket with reads := socket.reads + 1 })
  else if (arrivals 0).ready = 0 then (0, [], { socket with reads := socket.reads + 1 })
  else
    let (rc, progress) := Nrecv_loop arrivals count count 0 ⟨count, [], ⟨0, 0⟩, socket.pending⟩
    (rc, progress.buf, ⟨progress.pending, socket.reads + 1⟩)

/-- The client reads the state with `read`, the server with `Nread`. -/
def read_state (network : Network) (plain : Bool) (socket : Socket) : Option UInt8 × Socket :=
  if plain then
    if (network socket.reads 0).error ≠ none then (none, { socket with reads := socket.reads + 1 })
    else (socket.pending.head?, ⟨socket.pending.tail, socket.reads + 1⟩)
  else
    let (rc, buf, socket) := Nread network socket 1
    if rc ≤ 0 then (none, socket) else (buf.head?, socket)

def JSON_read (cJSON_Parse : List UInt8 → Option cJSON) (network : Network) (max_size : Int32)
    (socket : Socket) : Option cJSON × Socket :=
  let (rc, nsize, socket) := Nread network socket 4
  if rc = 4 then
    let hsize := UInt32.ofNat (ntohl nsize)
    if hsize > 0 ∧ (max_size = 0 ∨ hsize ≤ max_size.toUInt32) then
      let strsize := hsize + 1
      if strsize ≠ 0 then
        let (rc, str, socket) := Nread network socket hsize.toNat
        if rc ≥ 0 ∧ rc.toUInt32 = hsize then (cJSON_Parse (str.takeWhile (· ≠ 0)), socket)
        else (none, socket)
      else (none, socket)
    else (none, socket)
  else (none, socket)

end Reading

section Exchange

/-- What is put on the stream, with how it is read at the other end. -/
inductive Item where
  | state (plain : Bool) (byte : UInt8)
  | frame (json : cJSON) (max_size : Int32)

inductive Got where
  | state (byte : Option UInt8)
  | frame (json : Option cJSON)

variable (cJSON_PrintUnformatted : cJSON → CString) (cJSON_Parse : List UInt8 → Option cJSON)
  (network : Network)

def len (json : cJSON) : Nat := (cJSON_PrintUnformatted json).val.length

def put : Item → List UInt8
  | .state _ byte => [byte]
  | .frame json _ => JSON_write (fun json => (cJSON_PrintUnformatted json).val) json

def get : Item → Socket → Got × Socket
  | .state plain _, socket =>
      let (byte, socket) := read_state network plain socket
      (.state byte, socket)
  | .frame _ max_size, socket =>
      let (json, socket) := JSON_read cJSON_Parse network max_size socket
      (.frame json, socket)

/-- The reader asks for the items in the order in which they were put. -/
def get_all : List Item → Socket → List Got × Socket
  | [], socket => ([], socket)
  | item :: items, socket =>
      let (got, socket) := get cJSON_Parse network item socket
      let (rest, socket) := get_all items socket
      (got :: rest, socket)

/-- What an item should give. -/
def whole : Item → Got
  | .state _ byte => .state (some byte)
  | .frame json _ =>
      .frame (if 0 < len cJSON_PrintUnformatted json then some json else none)

/-- The frame is longer than the reader allows. -/
def Refused : Item → Prop
  | .state _ _ => False
  | .frame json max_size =>
      max_size ≠ 0 ∧ max_size.toInt < len cJSON_PrintUnformatted json

/-- A limit is a size, and the length fits the `int` that `Nrecv` returns. -/
def Fits : Item → Prop
  | .state _ _ => True
  | .frame json max_size =>
      0 ≤ max_size.toInt ∧ len cJSON_PrintUnformatted json < 2 ^ 31

/-- What is printed is parsed back. -/
def Inverse : Item → Prop
  | .state _ _ => True
  | .frame json _ => cJSON_Parse (cJSON_PrintUnformatted json).val = some json

/-- Every select finds something, no read fails, and none is later than the deadline that
a pass before it sets. -/
structure Timely (network : Network) : Prop where
  ready : ∀ read pass, 0 < (network read pass).ready
  no_error : ∀ read pass, (network read pass).error = none
  in_time : ∀ read early late, early ≤ late →
    ¬ iperf_time_compare (iperf_time_add_usecs (network read early).now 30000000)
      (network read late).now < 0

end Exchange

section Whole
variable {network : Network}

/-- A deadline that was set by a pass so far. -/
def SetBy (arrivals : Nat → Arrival) (pass : Nat) (ftimeout : iperf_time) : Prop :=
  ftimeout.secs = 0 ∨
    ∃ early ≤ pass, ftimeout = iperf_time_add_usecs (arrivals early).now 30000000

theorem deadline_set {arrivals : Nat → Arrival} {pass : Nat} {progress : Progress}
    (before : SetBy arrivals pass progress.ftimeout) :
    ∃ early ≤ pass,
      deadline (arrivals pass) progress = iperf_time_add_usecs (arrivals early).now 30000000 := by
  unfold deadline
  split
  · exact ⟨pass, le_refl pass, rfl⟩
  · rename_i set
    exact before.resolve_left set

/-- However it is cut, what is there is read. -/
theorem Nrecv_loop_all (timely : Timely network) (read count more pass : Nat)
    (progress : Progress) (enough : progress.nleft ≤ more)
    (there : progress.nleft ≤ progress.pending.length)
    (before : SetBy (network read) pass progress.ftimeout) :
    (Nrecv_loop (network read) count more pass progress).1 = result count ⟨0, [], ⟨0, 0⟩, []⟩ ∧
      (Nrecv_loop (network read) count more pass progress).2.buf =
        progress.buf ++ progress.pending.take progress.nleft ∧
      (Nrecv_loop (network read) count more pass progress).2.pending =
        progress.pending.drop progress.nleft := by
  induction more generalizing pass progress with
  | zero =>
      have nothing : progress.nleft = 0 := by omega
      simp [Nrecv_loop, result, nothing]
  | succ more ih =>
      by_cases nothing : progress.nleft = 0
      · simp [Nrecv_loop, result, nothing]
      have some_pending : progress.pending ≠ [] := by
        rintro none
        simp [none] at there
        omega
      -- The pass takes at least one byte, and no more than are left.
      obtain ⟨r, amount⟩ : ∃ r, r = min ((network read pass).cut + 1)
        (min progress.nleft progress.pending.length) := ⟨_, rfl⟩
      have least : 1 ≤ r := by omega
      have most : r ≤ progress.nleft := by omega
      have taken : take (network read pass) progress =
          { progress with
            nleft := progress.nleft - r
            buf := progress.buf ++ progress.pending.take r
            pending := progress.pending.drop r } := by
        rw [take, ← amount]
      have joined : progress.pending.take progress.nleft =
          progress.pending.take r ++ (progress.pending.drop r).take (progress.nleft - r) := by
        rw [← List.take_add]
        congr 1
        omega
      have dropped : (progress.pending.drop r).drop (progress.nleft - r) =
          progress.pending.drop progress.nleft := by
        rw [List.drop_drop]
        congr 1
        omega
      have rest : progress.nleft - r ≤ (progress.pending.drop r).length := by
        rw [List.length_drop]
        omega
      -- Whatever the deadline is, the passes behind this one read the rest.
      have goes_on : ∀ ftimeout, SetBy (network read) (pass + 1) ftimeout →
          let next := Nrecv_loop (network read) count more (pass + 1)
            { progress with
              nleft := progress.nleft - r
              buf := progress.buf ++ progress.pending.take r
              ftimeout := ftimeout
              pending := progress.pending.drop r }
          next.1 = result count ⟨0, [], ⟨0, 0⟩, []⟩ ∧
            next.2.buf = progress.buf ++ progress.pending.take progress.nleft ∧
            next.2.pending = progress.pending.drop progress.nleft := by
        intro ftimeout set
        obtain ⟨rc, buf, pending⟩ := ih (pass + 1)
          { progress with
            nleft := progress.nleft - r
            buf := progress.buf ++ progress.pending.take r
            ftimeout := ftimeout
            pending := progress.pending.drop r } (by dsimp only; omega) rest set
        refine ⟨rc, ?_, ?_⟩
        · rw [buf, joined, List.append_assoc]
        · rw [pending, dropped]
      rw [Nrecv_loop, if_neg nothing, timely.no_error read pass]
      dsimp only
      rw [if_neg some_pending, taken]
      dsimp only
      obtain ⟨early, passed, set⟩ := deadline_set before
      split
      · apply goes_on progress.ftimeout
        exact before.imp_right fun ⟨early, passed, set⟩ => ⟨early, Nat.le_succ_of_le passed, set⟩
      · have ready := timely.ready read (pass + 1)
        rw [set, if_neg (timely.in_time read early pass passed), if_neg (by omega),
          if_neg (by omega)]
        apply goes_on
        exact .inr ⟨early, Nat.le_succ_of_le passed, rfl⟩

theorem Nread_all (timely : Timely network) (socket : Socket) (count : Nat)
    (there : count ≤ socket.pending.length) :
    Nread network socket count =
      ((UInt64.ofNat count).toUInt32.toInt32, socket.pending.take count,
        ⟨socket.pending.drop count, socket.reads + 1⟩) := by
  have ready := timely.ready socket.reads 0
  obtain ⟨rc, buf, pending⟩ := Nrecv_loop_all timely socket.reads count count 0
    ⟨count, [], ⟨0, 0⟩, socket.pending⟩ (le_refl count) there (.inl rfl)
  rw [Nread, if_neg (by omega), if_neg (by omega)]
  dsimp only
  rw [rc, buf, pending]
  rfl

end Whole

section Items
variable {cJSON_PrintUnformatted : cJSON → CString} {cJSON_Parse : List UInt8 → Option cJSON}
  {network : Network}

/-- A limit is compared as an unsigned word. -/
theorem limit_le {max_size : Int32} {length : Nat} (limit : 0 ≤ max_size.toInt)
    (short : length < 2 ^ 31) :
    UInt32.ofNat length ≤ max_size.toUInt32 ↔ (length : Int) ≤ max_size.toInt := by
  rw [UInt32.le_iff_toNat_le, UInt32.toNat_ofNat', MachineWords.unsigned32_toNat limit]
  omega

/-- The length of the text comes back from `Nrecv` as it was asked for. -/
theorem result_length {length : Nat} (short : length < 2 ^ 31) :
    0 ≤ (UInt64.ofNat length).toUInt32.toInt32 ∧
      (UInt64.ofNat length).toUInt32.toInt32.toUInt32 = UInt32.ofNat length := by
  have word : (UInt64.ofNat length).toUInt32 = UInt32.ofNat length := by
    apply UInt32.toNat_inj.mp
    rw [UInt64.toNat_toUInt32, UInt64.toNat_ofNat', UInt32.toNat_ofNat']
    omega
  rw [word, UInt32.toUInt32_toInt32]
  refine ⟨?_, rfl⟩
  rw [Int32.le_iff_toInt_le]
  have signed : (UInt32.ofNat length).toInt32.toInt = (UInt32.ofNat length).toNat := by
    apply BitVec.toInt_eq_toNat_of_lt
    change 2 * (UInt32.ofNat length).toNat < 2 ^ 32
    rw [UInt32.toNat_ofNat']
    omega
  rw [signed]
  exact Int.natCast_nonneg _

theorem header_read (timely : Timely network) {json : cJSON} {max_size : Int32} {tail : List UInt8}
    {socket : Socket} (fits : Fits cJSON_PrintUnformatted (.frame json max_size))
    (waiting : socket.pending = put cJSON_PrintUnformatted (.frame json max_size) ++ tail) :
    ∃ nsize, Nread network socket 4 =
        (4, nsize, ⟨(cJSON_PrintUnformatted json).val ++ tail, socket.reads + 1⟩) ∧
      UInt32.ofNat (ntohl nsize) = UInt32.ofNat (len cJSON_PrintUnformatted json) := by
  have short := fits.2
  have same : (cJSON_PrintUnformatted json).val.length % 2 ^ 32 =
      len cJSON_PrintUnformatted json := by
    unfold len at short ⊢
    omega
  have header : (htonl (len cJSON_PrintUnformatted json)).length = 4 := rfl
  have pending : socket.pending = htonl (len cJSON_PrintUnformatted json) ++
      ((cJSON_PrintUnformatted json).val ++ tail) := by
    rw [waiting, put, JSON_write, same, List.append_assoc]
  refine ⟨htonl (len cJSON_PrintUnformatted json), ?_, ?_⟩
  · rw [Nread_all timely socket 4 (by rw [pending, List.length_append]; omega), pending,
      List.take_left' header, List.drop_left' header]
    rfl
  · rw [ntohl_htonl (by omega)]

/-- The length of a text that is short enough, as the word that is sent. -/
theorem size_word {length : Nat} (short : length < 2 ^ 31) :
    (UInt32.ofNat length).toNat = length ∧ (UInt32.ofNat length > 0 ↔ 0 < length) ∧
      UInt32.ofNat length + 1 ≠ 0 := by
  have word : (UInt32.ofNat length).toNat = length := by
    rw [UInt32.toNat_ofNat']
    omega
  refine ⟨word, ?_, ?_⟩
  · rw [gt_iff_lt, UInt32.lt_iff_toNat_lt, word]
    rfl
  · intro wrapped
    have := congrArg UInt32.toNat wrapped
    rw [UInt32.toNat_add, word, UInt32.toNat_one, UInt32.toNat_zero] at this
    omega

/-- There is no zero in a text before its end. -/
theorem whole_text (text : CString) : text.val.takeWhile (· ≠ 0) = text.val := by
  rw [List.takeWhile_eq_self_iff]
  intro c member
  simpa using text.property c member

/-- Of a frame within the limit the text is parsed, and nothing else is read. -/
theorem JSON_read_text (timely : Timely network) {json : cJSON} {max_size : Int32}
    {tail : List UInt8} {socket : Socket}
    (fits : Fits cJSON_PrintUnformatted (.frame json max_size))
    (allowed : ¬ Refused cJSON_PrintUnformatted (.frame json max_size))
    (waiting : socket.pending = put cJSON_PrintUnformatted (.frame json max_size) ++ tail) :
    (JSON_read cJSON_Parse network max_size socket).1 =
        (if 0 < len cJSON_PrintUnformatted json then cJSON_Parse (cJSON_PrintUnformatted json).val
        else none) ∧
      (JSON_read cJSON_Parse network max_size socket).2.pending = tail := by
  obtain ⟨nsize, read, size⟩ := header_read timely fits waiting
  obtain ⟨limit, short⟩ := fits
  obtain ⟨word, positive, strsize⟩ := size_word short
  have within : max_size = 0 ∨
      UInt32.ofNat (len cJSON_PrintUnformatted json) ≤ max_size.toUInt32 := by
    rw [limit_le limit short]
    by_contra none
    simp only [not_or, not_le] at none
    exact allowed none
  rw [JSON_read, read]
  dsimp only
  rw [if_pos rfl, size]
  by_cases empty : 0 < len cJSON_PrintUnformatted json
  · obtain ⟨counted, unsigned⟩ := result_length short
    rw [if_pos ⟨positive.mpr empty, within⟩, if_pos strsize, word,
      Nread_all timely _ _ (by
        rw [List.length_append]
        exact Nat.le_add_right _ _)]
    dsimp only
    rw [if_pos ⟨counted, unsigned⟩, if_pos empty, len, List.take_left' rfl, List.drop_left' rfl,
      whole_text]
    exact ⟨rfl, rfl⟩
  · have nothing : (cJSON_PrintUnformatted json).val = [] := by
      apply List.length_eq_zero_iff.mp
      unfold len at empty
      omega
    rw [if_neg fun both => empty (positive.mp both.1), if_neg empty, nothing]
    exact ⟨rfl, rfl⟩

/-- What is printed and parsed back is the object. -/
theorem JSON_read_frame (timely : Timely network) {json : cJSON}
    (inverse : cJSON_Parse (cJSON_PrintUnformatted json).val = some json)
    {max_size : Int32} {tail : List UInt8} {socket : Socket}
    (fits : Fits cJSON_PrintUnformatted (.frame json max_size))
    (allowed : ¬ Refused cJSON_PrintUnformatted (.frame json max_size))
    (waiting : socket.pending = put cJSON_PrintUnformatted (.frame json max_size) ++ tail) :
    (JSON_read cJSON_Parse network max_size socket).1 =
        (if 0 < len cJSON_PrintUnformatted json then some json else none) ∧
      (JSON_read cJSON_Parse network max_size socket).2.pending = tail := by
  rw [← inverse]
  exact JSON_read_text timely fits allowed waiting

/-- Of a frame beyond the limit the length is read, and no more. -/
theorem JSON_read_refused (timely : Timely network) {json : cJSON} {max_size : Int32}
    {tail : List UInt8} {socket : Socket}
    (fits : Fits cJSON_PrintUnformatted (.frame json max_size))
    (refused : Refused cJSON_PrintUnformatted (.frame json max_size))
    (waiting : socket.pending = put cJSON_PrintUnformatted (.frame json max_size) ++ tail) :
    (JSON_read cJSON_Parse network max_size socket).1 = none ∧
      (JSON_read cJSON_Parse network max_size socket).2.pending =
        (cJSON_PrintUnformatted json).val ++ tail := by
  obtain ⟨nsize, read, size⟩ := header_read timely fits waiting
  obtain ⟨limit, short⟩ := fits
  obtain ⟨some_limit, longer⟩ := refused
  have beyond : ¬ UInt32.ofNat (len cJSON_PrintUnformatted json) ≤ max_size.toUInt32 := by
    rw [limit_le limit short]
    omega
  rw [JSON_read, read]
  dsimp only
  rw [if_pos rfl, size, if_neg (by
    rintro ⟨-, unlimited | within⟩
    · exact some_limit unlimited
    · exact beyond within)]
  exact ⟨rfl, rfl⟩

theorem read_state_byte (timely : Timely network) (plain : Bool) {byte : UInt8}
    {tail : List UInt8} {socket : Socket} (waiting : socket.pending = byte :: tail) :
    (read_state network plain socket).1 = some byte ∧
      (read_state network plain socket).2.pending = tail := by
  cases plain with
  | true =>
      have no_error := timely.no_error socket.reads 0
      simp [read_state, no_error, waiting]
  | false =>
      have read := Nread_all timely socket 1 (by simp [waiting])
      have one : ¬ (UInt64.ofNat 1).toUInt32.toInt32 ≤ 0 := by decide
      simp only [read_state, Bool.false_eq_true, if_false, read, if_neg one, waiting]
      exact ⟨rfl, rfl⟩

/-- One item, when its frame is not refused. -/
theorem get_whole (timely : Timely network) {item : Item} {tail : List UInt8} {socket : Socket}
    (inverse : Inverse cJSON_PrintUnformatted cJSON_Parse item)
    (fits : Fits cJSON_PrintUnformatted item) (allowed : ¬ Refused cJSON_PrintUnformatted item)
    (waiting : socket.pending = put cJSON_PrintUnformatted item ++ tail) :
    (get cJSON_Parse network item socket).1 = whole cJSON_PrintUnformatted item ∧
      (get cJSON_Parse network item socket).2.pending = tail := by
  cases item with
  | state plain byte =>
      obtain ⟨value, left⟩ := read_state_byte timely plain waiting
      exact ⟨congrArg Got.state value, left⟩
  | frame json max_size =>
      obtain ⟨value, left⟩ := JSON_read_frame timely inverse fits allowed waiting
      exact ⟨congrArg Got.frame value, left⟩

theorem get_all_whole (timely : Timely network) (items : List Item) (tail : List UInt8)
    (socket : Socket) (inverse : ∀ item ∈ items, Inverse cJSON_PrintUnformatted cJSON_Parse item)
    (fits : ∀ item ∈ items, Fits cJSON_PrintUnformatted item)
    (allowed : ∀ item ∈ items, ¬ Refused cJSON_PrintUnformatted item)
    (waiting : socket.pending = items.flatMap (put cJSON_PrintUnformatted) ++ tail) :
    (get_all cJSON_Parse network items socket).1 = items.map (whole cJSON_PrintUnformatted) ∧
      (get_all cJSON_Parse network items socket).2.pending = tail := by
  induction items generalizing socket with
  | nil => exact ⟨rfl, waiting⟩
  | cons item items ih =>
      rw [List.flatMap_cons, List.append_assoc] at waiting
      obtain ⟨value, left⟩ := get_whole timely (inverse item (by simp)) (fits item (by simp))
        (allowed item (by simp)) waiting
      obtain ⟨values, last⟩ := ih (get cJSON_Parse network item socket).2
        (fun item member => inverse item (by simp [member]))
        (fun item member => fits item (by simp [member]))
        (fun item member => allowed item (by simp [member])) left
      simp only [get_all, List.map_cons]
      rw [value, values]
      exact ⟨rfl, last⟩

theorem get_all_append (front back : List Item) (socket : Socket) :
    get_all cJSON_Parse network (front ++ back) socket =
      ((get_all cJSON_Parse network front socket).1 ++
          (get_all cJSON_Parse network back (get_all cJSON_Parse network front socket).2).1,
        (get_all cJSON_Parse network back (get_all cJSON_Parse network front socket).2).2) := by
  induction front generalizing socket with
  | nil => rfl
  | cons item front ih =>
      simp only [List.cons_append, get_all]
      rw [ih]

theorem put_length {json : cJSON} {max_size : Int32} :
    (put cJSON_PrintUnformatted (.frame json max_size)).length =
      4 + len cJSON_PrintUnformatted json := by
  rw [put, JSON_write, List.length_append]
  rfl

/-- Up to a frame that the reader refuses, every item is read as it was put, and exactly its
bytes are. Of the refused frame the length alone is read. -/
theorem exchange_exact (cJSON_PrintUnformatted : cJSON → CString)
    (cJSON_Parse : List UInt8 → Option cJSON) (network : Network) (timely : Timely network)
    (items : List Item) (inverse : ∀ item ∈ items, Inverse cJSON_PrintUnformatted cJSON_Parse item)
    (fits : ∀ item ∈ items, Fits cJSON_PrintUnformatted item)
    (allowed : ∀ item ∈ items, ¬ Refused cJSON_PrintUnformatted item) :
    (∀ tail reads,
        (get_all cJSON_Parse network items
            ⟨items.flatMap (put cJSON_PrintUnformatted) ++ tail, reads⟩).1 =
          items.map (whole cJSON_PrintUnformatted) ∧
        (get_all cJSON_Parse network items
            ⟨items.flatMap (put cJSON_PrintUnformatted) ++ tail, reads⟩).2.pending = tail) ∧
      (∀ json max_size, .frame json max_size ∈ items →
        (put cJSON_PrintUnformatted (.frame json max_size)).length =
          4 + len cJSON_PrintUnformatted json) ∧
      ∀ json max_size, Fits cJSON_PrintUnformatted (.frame json max_size) →
        Refused cJSON_PrintUnformatted (.frame json max_size) → ∀ tail reads,
          (get_all cJSON_Parse network (items ++ [.frame json max_size])
              ⟨items.flatMap (put cJSON_PrintUnformatted) ++
                (put cJSON_PrintUnformatted (.frame json max_size) ++ tail), reads⟩).1 =
            items.map (whole cJSON_PrintUnformatted) ++ [.frame none] ∧
          (get_all cJSON_Parse network (items ++ [.frame json max_size])
              ⟨items.flatMap (put cJSON_PrintUnformatted) ++
                (put cJSON_PrintUnformatted (.frame json max_size) ++ tail), reads⟩).2.pending =
            (cJSON_PrintUnformatted json).val ++ tail := by
  refine ⟨?_, ?_, ?_⟩
  · intro tail reads
    exact get_all_whole timely items tail _ inverse fits allowed rfl
  · rintro json max_size -
    exact put_length
  · intro json max_size short refused tail reads
    obtain ⟨values, left⟩ := get_all_whole timely items
      (put cJSON_PrintUnformatted (.frame json max_size) ++ tail)
      ⟨items.flatMap (put cJSON_PrintUnformatted) ++
        (put cJSON_PrintUnformatted (.frame json max_size) ++ tail), reads⟩ inverse fits allowed rfl
    obtain ⟨none_read, text⟩ := @JSON_read_refused cJSON_PrintUnformatted cJSON_Parse network timely
      json max_size tail _ short refused left
    rw [get_all_append]
    dsimp only
    rw [values]
    simp only [get_all, get]
    rw [none_read]
    exact ⟨rfl, text⟩

end Items

section Samples

def null_text : CString := ⟨FormattedText.ascii "null", by decide +kernel⟩

def parse_null (text : List UInt8) : Option cJSON :=
  if text = null_text.val then some .null else none

/-- One byte at a time. -/
def bytewise : Network := fun _ _ => ⟨1, none, 0, ⟨1, 0⟩⟩

theorem bytewise_timely : Timely bytewise := by
  constructor
  · intro read pass
    exact Int.one_pos
  · intro read pass
    rfl
  · intro read early late ordered
    have later : ¬ iperf_time_compare (iperf_time_add_usecs ⟨1, 0⟩ 30000000) ⟨1, 0⟩ < 0 := by decide
    exact later

/-- Three items with one more byte behind them. -/
theorem exchange_exact_null :
    (get_all parse_null bytewise [.state true 9, .frame .null 0, .state false 2]
        ⟨[.state true 9, .frame .null 0, .state false 2].flatMap (put fun _ => null_text) ++ [4],
          0⟩).1 = [.state (some 9), .frame (some .null), .state (some 2)] ∧
      (get_all parse_null bytewise [.state true 9, .frame .null 0, .state false 2]
        ⟨[.state true 9, .frame .null 0, .state false 2].flatMap (put fun _ => null_text) ++ [4],
          0⟩).2.pending = [4] := by
  apply (exchange_exact (fun _ => null_text) parse_null bytewise bytewise_timely _ ?_ ?_ ?_).1 [4] 0
  · rintro item (_ | ⟨_, _ | ⟨_, _ | ⟨_, ⟨⟩⟩⟩⟩)
    · trivial
    · exact if_pos rfl
    · trivial
  · rintro item (_ | ⟨_, _ | ⟨_, _ | ⟨_, ⟨⟩⟩⟩⟩)
    · trivial
    · exact ⟨by decide, by decide⟩
    · trivial
  · rintro item (_ | ⟨_, _ | ⟨_, _ | ⟨_, ⟨⟩⟩⟩⟩) refused
    · exact refused
    · exact refused.1 rfl
    · exact refused

/-- Behind a frame of four bytes for a reader that allows two, the state is read from the
text of the frame. -/
theorem exchange_refused :
    (get_all parse_null bytewise [.frame .null 2, .state false 5]
        ⟨[.frame .null 2, .state false 5].flatMap (put fun _ => null_text), 0⟩).1 ≠
      [.frame none, .state (some 5)] := by
  have got : (get_all parse_null bytewise [.frame .null 2, .state false 5]
      ⟨[.frame .null 2, .state false 5].flatMap (put fun _ => null_text), 0⟩).1 =
        [.frame none, .state (some 110)] := rfl
  rw [got]
  simp

end Samples

end Iperf.ControlStream
