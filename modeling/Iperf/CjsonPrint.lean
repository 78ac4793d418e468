import Iperf.CjsonItem
import Iperf.Outcome

/-!
The printer of cJSON. It writes to one buffer, which grows when there is no place left,
and finds the end of what it wrote by `strlen`. What it prints is the text of the tree;
it never writes or reads outside the buffer, and it gives up for want of memory only,
when nothing stays allocated.
-/

namespace Iperf.CjsonPrint

open FormattedText (ascii)
open Outcome AuthToken CjsonNumber CjsonString CjsonItem

section Buffer

/-- The allocator. It gives the bytes of a block, for `realloc` those behind the old ones;
`realloc` is asked with the number of the request. -/
structure Hooks where
  allocate : Nat → Option (Nat → UInt8)
  reallocate : Nat → Nat → Option (Nat → UInt8)

/-- `requests` has the sizes that `reallocate` was asked for, `live` counts the blocks that
are not freed. -/
structure printbuffer where
  buffer : Option (Nat → UInt8)
  length : Nat
  offset : Nat
  depth : Nat
  noalloc : Bool
  format : Bool
  requests : List Nat
  live : Int

inductive Stop where
  | refused (p : printbuffer)
  | fault

def SIZE_MAX : Nat := 2 ^ 64 - 1

def ensure (hooks : Hooks) (p : printbuffer) (needed : Nat) : Except Stop printbuffer :=
  match p.buffer with
  | none => .error (.refused p)
  | some bytes =>
      if p.length > 0 ∧ p.offset ≥ p.length then .error (.refused p)
      else
        let needed := (needed + p.offset + 1) % (SIZE_MAX + 1)
        if needed ≤ p.length then .ok p
        else if p.noalloc then .error (.refused p)
        else
          let newsize := if needed > SIZE_MAX / 2 then SIZE_MAX else needed * 2
          match hooks.reallocate p.requests.length newsize with
          | none =>
              .error (.refused { p with
                buffer := none, length := 0, requests := p.requests ++ [newsize]
                live := p.live - 1 })
          | some fresh =>
              .ok { p with
                buffer := some fun i => if i < p.length then bytes i else fresh i
                length := newsize
                requests := p.requests ++ [newsize] }

/-- Bytes are stored from `place` on. -/
def write (p : printbuffer) (place : Nat) (stored : List UInt8) : Except Stop printbuffer :=
  match p.buffer with
  | none => .error .fault
  | some bytes =>
      if place + stored.length ≤ p.length then
        .ok { p with buffer := some fun i =>
          if place ≤ i ∧ i < place + stored.length then stored.getD (i - place) 0 else bytes i }
      else .error .fault

/-- At most `room` bytes are read. -/
def strlen (bytes : Nat → UInt8) : Nat → Nat → Option Nat
  | 0, _ => none
  | room + 1, place =>
      if bytes place = 0 then some 0 else (strlen bytes room (place + 1)).map (· + 1)

def update_offset (p : printbuffer) : Except Stop printbuffer :=
  match p.buffer with
  | none => .ok p
  | some bytes =>
      match strlen bytes (p.length - p.offset) p.offset with
      | none => .error .fault
      | some length => .ok { p with offset := p.offset + length }

end Buffer

section Printer
variable (hooks : Hooks)

/-- Make place, write there, and go on behind `shown`. -/
def append (p : printbuffer) (needed : Nat) (shown after : List UInt8) :
    Except Stop printbuffer := do
  let p ← ensure hooks p needed
  let p ← write p p.offset (shown ++ after)
  return { p with offset := p.offset + shown.length }

/-- Make place and write a string there. -/
def put (p : printbuffer) (needed : Nat) (shown : List UInt8) : Except Stop printbuffer := do
  let p ← ensure hooks p needed
  write p p.offset (shown ++ [0])

def print_number (d : Double) (p : printbuffer) : Except Stop printbuffer :=
  match CjsonNumber.print_number d with
  | none => .error (.refused p)
  | some number_buffer => append hooks p (number_buffer.length + 1) number_buffer [0]

/-- The loop that escapes. `sprintf` ends the sequence of a control character with a byte
that the next character replaces. -/
def copy_escaped (p : printbuffer) (output_pointer : Nat) :
    List UInt8 → Except Stop printbuffer
  | [] => .ok p
  | c :: rest =>
      if c > 31 ∧ c ≠ 34 ∧ c ≠ 92 then do
        let p ← write p output_pointer [c]
        copy_escaped p (output_pointer + 1) rest
      else do
        let p ← write p output_pointer [92]
        match letter c with
        | some after => do
            let p ← write p (output_pointer + 1) [after]
            copy_escaped p (output_pointer + 2) rest
        | none => do
            let p ← write p (output_pointer + 1) (u04x c ++ [0])
            copy_escaped p (output_pointer + 6) rest

def print_string_ptr (input : CString) (p : printbuffer) : Except Stop printbuffer := do
  let escape_characters := (input.val.map escape_characters).sum
  let output_length := input.val.length + escape_characters
  let p ← ensure hooks p (output_length + 3)
  let output := p.offset
  let p ← write p output [34]
  let p ← (if escape_characters = 0 then write p (output + 1) input.val
    else copy_escaped p (output + 1) input.val)
  let p ← write p (output + output_length + 1) [34]
  write p (output + output_length + 2) [0]

mutual

def print_value (p : printbuffer) : Item → Except Stop printbuffer
  | .cJSON_NULL => put hooks p 5 (ascii "null")
  | .cJSON_False => put hooks p 6 (ascii "false")
  | .cJSON_True => put hooks p 5 (ascii "true")
  | .cJSON_Number valuedouble => print_number hooks valuedouble p
  | .cJSON_String valuestring => print_string_ptr hooks valuestring p
  | .cJSON_Array child => do
      let p ← append hooks p 1 [91] []
      let p ← print_elements { p with depth := p.depth + 1 } child
      let p ← put hooks p 2 [93]
      return { p with depth := p.depth - 1 }
  | .cJSON_Object child => do
      let p ← append hooks p ((if p.format then 2 else 1) + 1)
        (123 :: if p.format then [10] else []) []
      let p ← print_members { p with depth := p.depth + 1 } child
      let p ← put hooks p (if p.format then p.depth + 1 else 2)
        ((if p.format then tabs (p.depth - 1) else []) ++ [125])
      return { p with depth := p.depth - 1 }

/-- The loop of `print_array`. -/
def print_elements (p : printbuffer) : List Item → Except Stop printbuffer
  | [] => .ok p
  | current_element :: next => do
      let p ← print_value p current_element
      let p ← update_offset p
      let p ← (if next = [] then .ok p else
        append hooks p ((if p.format then 2 else 1) + 1)
          (44 :: if p.format then [32] else []) [0])
      print_elements p next

/-- The loop of `print_object`. -/
def print_members (p : printbuffer) : List (CString × Item) → Except Stop printbuffer
  | [] => .ok p
  | (string, current_item) :: next => do
      let p ← (if p.format then append hooks p p.depth (tabs p.depth) [] else .ok p)
      let p ← print_string_ptr hooks string p
      let p ← update_offset p
      let p ← append hooks p (if p.format then 2 else 1) (58 :: if p.format then [9] else []) []
      let p ← print_value p current_item
      let p ← update_offset p
      let p ← append hooks p ((if p.format then 1 else 0) + (if next = [] then 0 else 1) + 1)
        ((if next = [] then [] else [44]) ++ (if p.format then [10] else [])) [0]
      print_members p next

end

/-- The memory that the caller gets, the requests besides the first one, and the number of
blocks that are left allocated. -/
structure Printed where
  printed : Option (List UInt8)
  requests : List Nat
  live : Int
  deriving DecidableEq

def print (item : Item) (format : Bool) : Except Stop Printed :=
  match hooks.allocate 256 with
  | none => .ok ⟨none, [], 0⟩
  | some bytes =>
      let buffer : printbuffer := ⟨some bytes, 256, 0, 0, false, format, [], 1⟩
      match print_value hooks buffer item >>= update_offset with
      | .error .fault => .error .fault
      | .error (.refused p) =>
          .ok ⟨none, p.requests, if p.buffer.isSome then p.live - 1 else p.live⟩
      | .ok p =>
          let requests := p.requests ++ [p.offset + 1]
          match p.buffer, hooks.reallocate p.requests.length (p.offset + 1) with
          | some bytes, some fresh =>
              .ok ⟨some ((List.range (p.offset + 1)).map fun i =>
                if i < p.length then bytes i else fresh i), requests, p.live⟩
          | some _, none => .ok ⟨none, requests, p.live - 1⟩
          | none, _ => .error .fault

end Printer

section Memory
variable {hooks : Hooks} {p : printbuffer} {front bytes : List UInt8} {total : Nat}

/-- The buffer is allocated and starts with these bytes. -/
def Begins (p : printbuffer) (bytes : List UInt8) : Prop :=
  ∃ content, p.buffer = some content ∧ bytes.length ≤ p.length ∧
    ∀ i (inside : i < bytes.length), content i = bytes[i]

theorem Begins.take (begins : Begins p (front ++ bytes)) : Begins p front := by
  obtain ⟨content, buffer, fits, stored⟩ := begins
  rw [List.length_append] at fits
  refine ⟨content, buffer, by omega, fun i inside => ?_⟩
  rw [stored i (by rw [List.length_append]; omega), List.getElem_append_left inside]

theorem write_begins (bytes : List UInt8) (begins : Begins p front) (fits : front.length + bytes.length ≤ p.length) :
    ∃ content, write p front.length bytes = .ok { p with buffer := some content } ∧
      Begins { p with buffer := some content } (front ++ bytes) := by
  obtain ⟨content, buffer, -, stored⟩ := begins
  refine ⟨_, by rw [write, buffer]; exact if_pos fits, ?_⟩
  refine ⟨_, rfl, by rw [List.length_append]; exact fits, fun i inside => ?_⟩
  rw [List.length_append] at inside
  by_cases before : i < front.length
  · rw [if_neg (by omega), stored i before, List.getElem_append_left before]
  · rw [if_pos (by omega), List.getElem_append_right (by omega),
      List.getD_eq_getElem?_getD, List.getElem?_eq_getElem (by omega), Option.getD_some]

/-- The state between two texts: `front` is printed. -/
structure Holds (format : Bool) (depth : Nat) (p : printbuffer) (front : List UInt8) : Prop where
  begins : Begins p front
  offset : p.offset = front.length
  room : front.length < p.length
  format : p.format = format
  depth : p.depth = depth
  noalloc : p.noalloc = false
  live : p.live = 1

/-- The state behind `print_value`: the text stands there as a string, and the offset is
somewhere in it. -/
structure Shows (format : Bool) (depth : Nat) (p : printbuffer) (front text : List UInt8) :
    Prop where
  begins : Begins p (front ++ text ++ [0])
  low : front.length ≤ p.offset
  high : p.offset ≤ front.length + text.length
  format : p.format = format
  depth : p.depth = depth
  noalloc : p.noalloc = false
  live : p.live = 1

/-- The last request was not granted, which was for twice the size of the text at most. -/
def LastRefused (hooks : Hooks) (total : Nat) (requests : List Nat) : Prop :=
  ∃ made size, requests = made ++ [size] ∧ hooks.reallocate made.length size = none ∧
    size ≤ 2 * (total + 2)

/-- None of the requests that the printer made is refused. -/
def Granted (hooks : Hooks) (requests : List Nat) : Prop :=
  hooks.allocate 256 ≠ none ∧ ∀ made size later, requests = made ++ size :: later →
    hooks.reallocate made.length size ≠ none

theorem Granted.not_last {hooks : Hooks} {total : Nat} {requests : List Nat}
    (granted : Granted hooks requests) : ¬ LastRefused hooks total requests := by
  rintro ⟨made, size, rfl, refused, -⟩
  exact granted.2 made size [] rfl refused

/-- The printer gives up when a request is not granted. The buffer is freed then. -/
def Refused (hooks : Hooks) (total : Nat) : Stop → Prop
  | .refused p => p.buffer = none ∧ p.live = 0 ∧ LastRefused hooks total p.requests
  | .fault => False

end Memory

section Steps
variable {hooks : Hooks} {p : printbuffer} {front shown after : List UInt8} {total needed : Nat}
  {format : Bool} {depth : Nat}

theorem ensure_holds (holds : Holds format depth p front)
    (enough : front.length + needed ≤ total + 1) (small : total + 2 < 2 ^ 63) :
    Ends (fun q => Holds format depth q front ∧ front.length + needed < q.length)
      (Refused hooks total) (ensure hooks p needed) := by
  obtain ⟨⟨content, buffer, fits, stored⟩, offset, room, shape, depth, noalloc, live⟩ := holds
  have wraps : (needed + front.length + 1) % (SIZE_MAX + 1) = needed + front.length + 1 :=
    Nat.mod_eq_of_lt (by simp only [SIZE_MAX]; omega)
  unfold ensure
  rw [buffer]
  dsimp only
  rw [offset, if_neg (by omega), wraps]
  split
  · exact ⟨⟨⟨content, buffer, fits, stored⟩, offset, room, shape, depth, noalloc, live⟩, by omega⟩
  · rename_i short
    rw [noalloc, if_neg (by decide), if_neg (by simp only [SIZE_MAX]; omega)]
    split
    · rename_i refused
      exact ⟨rfl, by simp [live], _, _, rfl, refused, by omega⟩
    · refine ⟨⟨⟨_, rfl, by dsimp only; omega, fun i inside => ?_⟩, rfl, by dsimp only; omega,
        shape, depth, rfl, live⟩, by dsimp only; omega⟩
      rw [if_pos (by omega)]
      exact stored i inside

theorem append_holds (holds : Holds format depth p front) (placed : shown.length ≤ needed)
    (fits : shown.length + after.length ≤ needed + 1)
    (enough : front.length + needed ≤ total + 1) (small : total + 2 < 2 ^ 63) :
    Ends (fun q => Holds format depth q (front ++ shown) ∧ Begins q (front ++ shown ++ after))
      (Refused hooks total) (append hooks p needed shown after) := by
  apply Ends.bind (ensure_holds holds enough small)
  rintro q ⟨ready, room⟩
  have space : front.length + (shown ++ after).length ≤ q.length := by
    rw [List.length_append]
    omega
  obtain ⟨content, written, begins⟩ := write_begins _ ready.begins space
  rw [ready.offset, written]
  rw [← List.append_assoc] at begins
  exact ⟨⟨begins.take, by simp [ready.offset], by simp; omega, ready.format, ready.depth,
    ready.noalloc, ready.live⟩, begins⟩

theorem put_shows (holds : Holds format depth p front) (fits : shown.length ≤ needed)
    (enough : front.length + needed ≤ total + 1) (small : total + 2 < 2 ^ 63) :
    Ends (fun q => Shows format depth q front shown) (Refused hooks total)
      (put hooks p needed shown) := by
  apply Ends.bind (ensure_holds holds enough small)
  rintro q ⟨ready, room⟩
  have space : front.length + (shown ++ [0]).length ≤ q.length := by
    rw [List.length_append, List.length_singleton]
    omega
  obtain ⟨content, written, begins⟩ := write_begins _ ready.begins space
  rw [ready.offset, written]
  rw [← List.append_assoc] at begins
  exact ⟨begins, ready.offset.ge, by simp [ready.offset], ready.format, ready.depth,
    ready.noalloc, ready.live⟩

theorem strlen_text {content : Nat → UInt8} {text : List UInt8} {place room : Nat}
    (stored : ∀ i (inside : i < text.length), content (place + i) = text[i])
    (ended : content (place + text.length) = 0) (nonzero : ∀ c ∈ text, c ≠ 0)
    (fits : text.length < room) : strlen content room place = some text.length := by
  induction text generalizing place room with
  | nil =>
      obtain ⟨room, rfl⟩ := Nat.exists_eq_succ_of_ne_zero (by omega : room ≠ 0)
      exact if_pos ended
  | cons c text ih =>
      obtain ⟨room, rfl⟩ := Nat.exists_eq_succ_of_ne_zero (by omega : room ≠ 0)
      have first : content place ≠ 0 := by
        have same : content place = c := stored 0 (by simp)
        rw [same]
        exact nonzero c (by simp)
      have others := @ih (place + 1) room
        (fun i inside => by
          have := stored (i + 1) (by simpa using inside)
          rwa [show place + (i + 1) = place + 1 + i by omega] at this)
        (by rwa [List.length_cons, show place + (text.length + 1) = place + 1 + text.length by omega]
          at ended)
        (fun c member => nonzero c (by simp [member])) (by simp at fits; omega)
      rw [strlen, if_neg first, others]
      rfl

theorem update_offset_holds {text : List UInt8} {bad : Stop → Prop}
    (shows : Shows format depth p front text) (nonzero : ∀ c ∈ text, c ≠ 0) :
    Ends (fun q => Holds format depth q (front ++ text) ∧ Begins q (front ++ text ++ [0])) bad
      (update_offset p) := by
  obtain ⟨⟨content, buffer, fits, stored⟩, low, high, shape, deep, noalloc, live⟩ := shows
  simp only [List.length_append, List.length_singleton] at fits stored
  obtain ⟨seen, place⟩ := Nat.exists_eq_add_of_le low
  have seen_part : seen ≤ text.length := by omega
  -- what is left of the text behind the offset
  have found : strlen content (p.length - p.offset) p.offset = some (text.length - seen) := by
    rw [← List.length_drop]
    apply strlen_text
    · intro i inside
      rw [List.length_drop] at inside
      rw [stored (p.offset + i) (by omega), List.getElem_drop]
      rw [List.getElem_append_left (by simp; omega), List.getElem_append_right (by omega)]
      congr 1
      omega
    · rw [List.length_drop, stored _ (by omega), List.getElem_append_right (by simp; omega)]
      simp
    · exact fun c member => nonzero c (List.mem_of_mem_drop member)
    · rw [List.length_drop]
      omega
  unfold update_offset
  rw [buffer]
  dsimp only
  rw [found]
  have begins : Begins { p with buffer := some content, offset := p.offset + (text.length - seen) }
      (front ++ text ++ [0]) := by
    refine ⟨content, rfl, ?_, fun i inside => stored i ?_⟩
    · rw [List.length_append, List.length_append]
      exact fits
    · rwa [List.length_append, List.length_append] at inside
  refine ⟨⟨begins.take, ?_, ?_, shape, deep, noalloc, live⟩, begins⟩
  · rw [List.length_append]
    dsimp only
    omega
  · rw [List.length_append]
    dsimp only
    omega

theorem copy_escaped_begins (text : List UInt8) (begins : Begins p front)
    (fits : front.length + (escape text).length < p.length) :
    ∃ content, copy_escaped p front.length text = .ok { p with buffer := some content } ∧
      Begins { p with buffer := some content } (front ++ escape text) := by
  induction text generalizing p front with
  | nil =>
      obtain ⟨content, buffer, inside⟩ := begins
      refine ⟨content, by rw [copy_escaped, ← buffer], content, rfl, ?_⟩
      simpa [escape] using inside
  | cons c text ih =>
      rw [escape_cons, List.length_append] at fits
      rw [escape_cons, ← List.append_assoc]
      -- the other characters, behind the sequence of this one
      have go : ∀ {content : Nat → UInt8} {sequence : List UInt8} (after : List UInt8),
          escaped c = sequence →
          Begins { p with buffer := some content } (front ++ sequence ++ after) →
          ∃ content', copy_escaped { p with buffer := some content }
              (front.length + sequence.length) text = .ok { p with buffer := some content' } ∧
            Begins { p with buffer := some content' } (front ++ escaped c ++ escape text) := by
        rintro content sequence after rfl begun
        have others := ih begun.take (by rw [List.length_append]; dsimp only; omega)
        rwa [List.length_append] at others
      by_cases plain : c > 31 ∧ c ≠ 34 ∧ c ≠ 92
      · have shape : escaped c = [c] := if_pos plain
        rw [shape, List.length_singleton] at fits
        obtain ⟨content, written, begun⟩ := write_begins [c] begins (by simp; omega)
        rw [copy_escaped, if_pos plain, written]
        exact go [] shape (by simpa using begun)
      · cases short : letter c with
        | some after =>
            have shape : escaped c = [92, after] := by simp [escaped, plain, short]
            rw [shape] at fits
            simp only [List.length_cons, List.length_nil] at fits
            obtain ⟨content, written, begun⟩ := write_begins [92] begins (by simp; omega)
            obtain ⟨content', written', begun'⟩ := write_begins [after] begun
              (by simp; omega)
            rw [List.length_append, List.length_singleton] at written'
            rw [copy_escaped, if_neg plain, written, short]
            dsimp only [bind, Except.bind]
            rw [written']
            exact go [] shape (by simpa using begun')
        | none =>
            have shape : escaped c = 92 :: u04x c := by simp [escaped, plain, short]
            rw [shape] at fits
            simp only [u04x, List.length_cons, List.length_nil] at fits
            obtain ⟨content, written, begun⟩ := write_begins [92] begins (by simp; omega)
            -- `sprintf` also writes the byte behind the sequence
            obtain ⟨content', written', begun'⟩ := write_begins (u04x c ++ [0]) begun
              (by simp [u04x]; omega)
            rw [List.length_append, List.length_singleton] at written'
            rw [copy_escaped, if_neg plain, written, short]
            dsimp only [bind, Except.bind]
            rw [written']
            exact go [0] shape (by simpa using begun')

theorem print_string_ptr_shows (string : CString) (holds : Holds format depth p front)
    (enough : front.length + (quoted string).length ≤ total) (small : total + 2 < 2 ^ 63) :
    Ends (fun q => Shows format depth q front (quoted string)) (Refused hooks total)
      (print_string_ptr hooks string p) := by
  have length := escape_length string.val
  have width : (quoted string).length = (escape string.val).length + 2 := by simp [quoted]
  unfold print_string_ptr
  refine Ends.bind (ensure_holds holds (by omega) small) ?_
  rintro q ⟨ready, room⟩
  obtain ⟨start, written, opened⟩ := write_begins [34] ready.begins (by simp; omega)
  dsimp only [bind, Except.bind]
  rw [ready.offset, written]
  dsimp only
  -- either loop leaves the escaped characters
  obtain ⟨middle, copied, inside⟩ : ∃ content,
      (if (string.val.map escape_characters).sum = 0 then
        write { q with buffer := some start } (front.length + 1) string.val
      else copy_escaped { q with buffer := some start } (front.length + 1) string.val) =
        .ok { q with buffer := some content } ∧
      Begins { q with buffer := some content } (front ++ [34] ++ escape string.val) := by
    have place : (front ++ [34]).length = front.length + 1 := by simp
    rw [← place]
    split
    · rename_i plain
      rw [escape_plain plain]
      exact write_begins _ opened (by rw [place]; dsimp only; omega)
    · exact copy_escaped_begins string.val opened (by rw [place]; dsimp only; omega)
  rw [copied]
  dsimp only
  obtain ⟨quoted_content, quote, closed⟩ := write_begins [34] inside (by simp; omega)
  obtain ⟨final, last, ended⟩ := write_begins [0] closed (by simp; omega)
  simp only [List.length_append, List.length_singleton] at quote last
  rw [show front.length + (string.val.length + (string.val.map escape_characters).sum) + 1 =
    front.length + 1 + (escape string.val).length by omega, quote]
  dsimp only
  rw [show front.length + (string.val.length + (string.val.map escape_characters).sum) + 2 =
    front.length + 1 + (escape string.val).length + 1 by omega, last]
  refine ⟨?_, ready.offset.ge, by rw [width]; simp [ready.offset], ready.format, ready.depth,
    ready.noalloc, ready.live⟩
  simpa [quoted] using ended

theorem print_number_shows (d : Double) (holds : Holds format depth p front)
    (enough : front.length + (number_text d).length ≤ total) (small : total + 2 < 2 ^ 63) :
    Ends (fun q => Shows format depth q front (number_text d)) (Refused hooks total)
      (print_number hooks d p) := by
  rw [print_number, print_number_text]
  refine (append_holds holds (by omega) (by simp) (by omega) small).imp ?_
    fun stop refused => refused
  rintro q ⟨ready, begins⟩
  exact ⟨begins, by simp [ready.offset], by simp [ready.offset], ready.format, ready.depth,
    ready.noalloc, ready.live⟩

end Steps

section Trees
variable {hooks : Hooks} {p : printbuffer} {front shown : List UInt8} {total : Nat}
  {format : Bool} {depth : Nat}

theorem Holds.deeper (holds : Holds format depth p front) :
    Holds format (depth + 1) { p with depth := p.depth + 1 } front :=
  ⟨holds.begins, holds.offset, holds.room, holds.format, congrArg (· + 1) holds.depth,
    holds.noalloc, holds.live⟩

/-- The bracket that closes a list belongs to the text of the list. -/
theorem Shows.close {last : List UInt8} (shows : Shows format (depth + 1) p (front ++ shown) last) :
    Shows format depth { p with depth := p.depth - 1 } front (shown ++ last) := by
  obtain ⟨begins, low, high, shape, deep, noalloc, live⟩ := shows
  rw [List.length_append] at low high
  rw [List.append_assoc front] at begins
  exact ⟨begins, by dsimp only; omega, by rw [List.length_append]; dsimp only; omega, shape,
    by rw [deep]; rfl, noalloc, live⟩

mutual

theorem print_value_shows (small : total + 2 < 2 ^ 63) : ∀ (item : Item) {p : printbuffer}
    {front : List UInt8} {depth : Nat}, Holds format depth p front →
    front.length + (text format depth item).length ≤ total →
    Ends (fun q => Shows format depth q front (text format depth item)) (Refused hooks total)
      (print_value hooks p item)
  | .cJSON_NULL, p, front, depth, holds, enough => by
      simp only [text] at enough ⊢
      exact put_shows holds (by decide) (by simp [ascii] at enough; omega) small
  | .cJSON_False, p, front, depth, holds, enough => by
      simp only [text] at enough ⊢
      exact put_shows holds (by decide) (by simp [ascii] at enough; omega) small
  | .cJSON_True, p, front, depth, holds, enough => by
      simp only [text] at enough ⊢
      exact put_shows holds (by decide) (by simp [ascii] at enough; omega) small
  | .cJSON_Number valuedouble, p, front, depth, holds, enough => by
      simp only [text] at enough ⊢
      exact print_number_shows valuedouble holds enough small
  | .cJSON_String valuestring, p, front, depth, holds, enough => by
      simp only [text] at enough ⊢
      exact print_string_ptr_shows valuestring holds enough small
  | .cJSON_Array child, p, front, depth, holds, enough => by
      simp only [text, List.length_append, List.length_cons, List.length_nil] at enough ⊢
      rw [print_value]
      refine Ends.bind (append_holds holds (by simp) (by simp) (by omega) small) ?_
      rintro q ⟨opened, -⟩
      apply Ends.bind (print_elements_holds small child opened.deeper (by simp; omega))
      intro r listed
      refine Ends.bind (put_shows listed (by simp) (by simp; omega) small) ?_
      intro s closed
      rw [List.append_assoc] at closed
      exact closed.close
  | .cJSON_Object child, p, front, depth, holds, enough => by
      simp only [text, List.length_append, List.length_cons, List.length_nil] at enough ⊢
      rw [print_value, holds.format]
      have newline : (if format then [10] else ([] : List UInt8)).length =
          if format then 1 else 0 := by split <;> rfl
      refine Ends.bind (append_holds holds (by rw [List.length_cons]; grind)
        (by simp; grind) (by grind) small) ?_
      rintro q ⟨opened, -⟩
      apply Ends.bind (print_members_holds small child opened.deeper (by simp; omega))
      intro r listed
      rw [listed.format, listed.depth]
      refine Ends.bind (put_shows listed ?_ ?_ small) ?_
      · cases format <;> simp [tabs]
      · cases format <;> simp [tabs] at enough ⊢ <;> omega
      · intro s closed
        rw [List.append_assoc front] at closed
        have whole := closed.close
        simp only [List.append_assoc, Nat.add_sub_cancel] at whole ⊢
        exact whole

theorem print_elements_holds (small : total + 2 < 2 ^ 63) : ∀ (child : List Item) {p : printbuffer}
    {front : List UInt8} {depth : Nat}, Holds format depth p front →
    front.length + (elements_text format depth child).length ≤ total →
    Ends (fun q => Holds format depth q (front ++ elements_text format depth child))
      (Refused hooks total) (print_elements hooks p child)
  | [], p, front, depth, holds, enough => by
      simpa [elements_text, print_elements] using holds
  | item :: next, p, front, depth, holds, enough => by
      simp only [elements_text, List.length_append] at enough ⊢
      rw [print_elements]
      apply Ends.bind (print_value_shows small item holds (by omega))
      intro q shows
      apply Ends.bind (update_offset_holds shows (text_nonzero format depth item))
      rintro r ⟨printed, -⟩
      have separated : Ends (fun s => Holds format depth s (front ++ text format depth item ++
          if next = [] then [] else 44 :: if format then [32] else [])) (Refused hooks total)
          (if next = [] then .ok r else append hooks r ((if r.format then 2 else 1) + 1)
            (44 :: if r.format then [32] else []) [0]) := by
        by_cases last : next = []
        · simpa [last] using printed
        · rw [if_neg last, if_neg last, printed.format]
          rw [if_neg last] at enough
          refine (append_holds printed ?_ ?_ ?_ small).imp (fun s both => both.1)
            fun stop refused => refused
          · cases format <;> simp
          · cases format <;> simp
          · cases format <;> simp at enough ⊢ <;> omega
      apply Ends.bind separated
      intro s ready
      have others := print_elements_holds small next ready (by simp only [List.length_append]; omega)
      simpa only [List.append_assoc] using others

theorem print_members_holds (small : total + 2 < 2 ^ 63) : ∀ (child : List (CString × Item))
    {p : printbuffer} {front : List UInt8} {depth : Nat}, Holds format depth p front →
    front.length + (members_text format depth child).length ≤ total →
    Ends (fun q => Holds format depth q (front ++ members_text format depth child))
      (Refused hooks total) (print_members hooks p child)
  | [], p, front, depth, holds, enough => by
      simpa [members_text, print_members] using holds
  | (string, item) :: next, p, front, depth, holds, enough => by
      simp only [members_text, List.length_append, List.length_cons] at enough ⊢
      rw [print_members, holds.format]
      have indented : Ends (fun q => Holds format depth q
          (front ++ if format then tabs depth else [])) (Refused hooks total)
          (if format then append hooks p p.depth (tabs p.depth) [] else .ok p) := by
        cases format with
        | false => simpa using holds
        | true =>
            rw [if_pos rfl] at enough
            rw [if_pos rfl, if_pos rfl, holds.depth]
            refine (append_holds holds (by simp [tabs]) (by simp [tabs])
              (by simp [tabs] at enough; omega) small).imp (fun q both => both.1)
              fun stop refused => refused
      apply Ends.bind indented
      intro q line
      refine Ends.bind (print_string_ptr_shows string line
        (by simp only [List.length_append]; omega) small) ?_
      intro q shows
      apply Ends.bind (update_offset_holds shows (quoted_nonzero string))
      rintro q ⟨named, -⟩
      rw [named.format]
      refine Ends.bind (append_holds named
        (by cases format <;> simp) (by cases format <;> simp)
        (by cases format <;> simp at enough ⊢ <;> omega) small) ?_
      rintro q ⟨colon, -⟩
      apply Ends.bind (print_value_shows small item colon
        (by simp only [List.length_append, List.length_cons]; omega))
      intro q shows
      apply Ends.bind (update_offset_holds shows (text_nonzero format depth item))
      rintro q ⟨printed, -⟩
      rw [printed.format]
      refine Ends.bind (append_holds printed
        (by cases format <;> by_cases last : next = [] <;> simp [last])
        (by cases format <;> by_cases last : next = [] <;> simp [last])
        (by cases format <;> by_cases last : next = [] <;> simp [last] at enough ⊢ <;> omega) small) ?_
      rintro q ⟨ready, -⟩
      have others := print_members_holds small next ready (by
        simp only [List.length_append, List.length_cons]
        omega)
      simpa only [List.append_assoc] using others

end

end Trees

section Whole
variable {hooks : Hooks}

/-- The text is printed, or the allocator refused the first request, or the last one that the
printer made. -/
theorem print_text (hooks : Hooks) (item : Item) (format : Bool)
    (small : (text format 0 item).length + 2 < 2 ^ 63) :
    (∃ requests, print hooks item format = .ok ⟨some (text format 0 item ++ [0]), requests, 1⟩) ∨
      (print hooks item format = .ok ⟨none, [], 0⟩ ∧ hooks.allocate 256 = none) ∨
      ∃ requests, print hooks item format = .ok ⟨none, requests, 0⟩ ∧
        LastRefused hooks (text format 0 item).length requests := by
  unfold print
  cases allocated : hooks.allocate 256 with
  | none => exact .inr (.inl ⟨rfl, rfl⟩)
  | some bytes =>
      have start : Holds format 0 ⟨some bytes, 256, 0, 0, false, format, [], 1⟩ [] :=
        ⟨⟨bytes, rfl, by simp, by simp⟩, rfl, by simp, rfl, rfl, rfl, rfl⟩
      have printed : Ends (fun q => Holds format 0 q ([] ++ text format 0 item) ∧
          Begins q ([] ++ text format 0 item ++ [0])) (Refused hooks (text format 0 item).length)
          (print_value hooks ⟨some bytes, 256, 0, 0, false, format, [], 1⟩ item >>=
            update_offset) := by
        apply Ends.bind (print_value_shows small item start (by simp))
        intro q shows
        exact update_offset_holds shows (text_nonzero format 0 item)
      dsimp only
      cases ended : print_value hooks ⟨some bytes, 256, 0, 0, false, format, [], 1⟩ item >>=
          update_offset with
      | error stop =>
          have refused := printed.of_error ended
          cases stop with
          | fault => exact refused.elim
          | refused p =>
              obtain ⟨freed, none_live, last⟩ := refused
              refine .inr (.inr ⟨p.requests, ?_, last⟩)
              simp [freed, none_live]
      | ok p =>
          obtain ⟨holds, content, buffer, fits, stored⟩ := printed.of_ok ended
          have place : p.offset = (text format 0 item).length := by simpa using holds.offset
          dsimp only
          rw [buffer]
          cases granted : hooks.reallocate p.requests.length (p.offset + 1) with
          | none =>
              refine .inr (.inr ⟨_, ?_, p.requests, p.offset + 1, rfl, granted, by omega⟩)
              simp [holds.live]
          | some fresh =>
              refine .inl ⟨p.requests ++ [p.offset + 1], ?_⟩
              dsimp only
              rw [holds.live]
              congr 3
              apply List.ext_getElem
              · simp [place]
              · intro i inside shorter
                rw [List.length_map, List.length_range] at inside
                simp only [List.nil_append, List.length_append, List.length_singleton] at fits stored
                rw [List.getElem_map, List.getElem_range, if_pos (by omega), stored i (by omega)]

def granting : Hooks := ⟨fun _ => some fun _ => 1, fun _ _ => some fun _ => 1⟩

theorem print_text_array :
    ∃ requests, print granting (.cJSON_Array [.cJSON_NULL, .cJSON_True]) true =
      .ok ⟨some (ascii "[null, true]" ++ [0]), requests, 1⟩ := by
  have printed := print_text granting (.cJSON_Array [.cJSON_NULL, .cJSON_True]) true (by decide)
  refine printed.resolve_right ?_
  rintro (⟨-, none_allocated⟩ | ⟨requests, -, made, size, -, refused, -⟩)
  · cases none_allocated
  · cases refused

end Whole

end Iperf.CjsonPrint
