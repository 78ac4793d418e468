import Iperf.CjsonItem
import Iperf.Outcome

/-!
The parser of cJSON. It goes over the bytes of a string with the one that ends it. On
every string and whatever the allocator does, it comes to an end, reads and writes
inside its memory only, and frees what it allocated when it gives up. The error position
is left out.
-/

namespace Iperf.CjsonParse

open FormattedText (ascii isdigit)
open GeneralFormat (numeral strtod_shorter Stops)
open Outcome AuthToken CjsonNumber CjsonString CjsonItem

section Buffer

/-- `requests` counts the calls of the allocator, `live` the blocks that are not freed. -/
structure parse_buffer where
  content : List UInt8
  offset : Nat
  depth : Nat
  requests : Nat
  live : Int

/-- A refusal comes with the blocks that are left. `unfinished` is no outcome of the
program: the bounds of the recursion and of the loops do not run out. -/
inductive Stop where
  | refused (live : Int)
  | fault
  | unfinished

def CJSON_NESTING_LIMIT : Nat := 1000

def parse_buffer.advance (b : parse_buffer) (count : Nat) : parse_buffer :=
  { b with offset := b.offset + count }

def parse_buffer.remaining (b : parse_buffer) : List UInt8 := b.content.drop b.offset

/-- The byte at the offset can be accessed, and is `c`. -/
def looks_at (b : parse_buffer) (c : UInt8) : Bool := b.content[b.offset]? = some c

/-- `strncmp` behind `can_read`. -/
def reads (b : parse_buffer) (literal : List UInt8) : Bool := literal.isPrefixOf b.remaining

/-- The byte at the offset, read without a test. -/
def byte (b : parse_buffer) : Except Stop UInt8 :=
  match b.content[b.offset]? with
  | some c => .ok c
  | none => .error .fault

def buffer_skip_whitespace (b : parse_buffer) : parse_buffer :=
  if b.offset ≥ b.content.length then b
  else
    let offset := b.offset + (b.remaining.takeWhile (· ≤ 32)).length
    { b with offset := if offset = b.content.length then offset - 1 else offset }

def skip_utf8_bom (b : parse_buffer) : parse_buffer :=
  if b.offset + 4 < b.content.length ∧ reads b [0xEF, 0xBB, 0xBF] then b.advance 3 else b

/-- On failure the blocks of a list that was begun are freed. -/
def release {α : Type} (freed : Nat) : Except Stop α → Except Stop α
  | .error (.refused live) => .error (.refused (live - freed))
  | other => other

end Buffer

section Parser
variable (granted : Nat → Bool)

/-- Whether a request is granted depends on its number. -/
def allocate (b : parse_buffer) : Except Stop parse_buffer :=
  if granted b.requests then .ok { b with requests := b.requests + 1, live := b.live + 1 }
  else .error (.refused b.live)

/-- The string that the output holds. -/
def valuestring (output : List UInt8) : CString :=
  ⟨output.takeWhile (· ≠ 0), fun _ member => by simpa using List.mem_takeWhile_imp member⟩

def parse_string (b : parse_buffer) : Except Stop (CString × parse_buffer) := do
  let first ← byte b
  if first ≠ 34 then .error (.refused b.live)
  else
    let input := (b.advance 1).remaining
    match string_end input with
    | none => .error (.refused b.live)
    | some (length, skipped_bytes) => do
        let b ← allocate granted b
        let (output, complete) := unescape 0 (input.take length)
        -- the byte that ends the output is written behind a complete one
        if allocation_length length skipped_bytes + 1 < output.length + complete.toNat then
          .error .fault
        else if complete then .ok (valuestring output, b.advance (length + 2))
        else .error (.refused (b.live - 1))

/-- The loop of `parse_array`, from the byte before an element. `head` is the list so far. -/
def parse_elements (parse_value : parse_buffer → Except Stop (Item × parse_buffer)) :
    Nat → List Item → parse_buffer → Except Stop (List Item × parse_buffer)
  | 0, _, _ => .error .unfinished
  | rounds + 1, head, b => do
      let b ← release (blocks_elements head) (allocate granted b)
      let b := buffer_skip_whitespace (b.advance 1)
      let (current_item, b) ← release (blocks_elements head + 1) (parse_value b)
      let b := buffer_skip_whitespace b
      let head := head ++ [current_item]
      if looks_at b 44 then parse_elements parse_value rounds head b
      else if looks_at b 93 then .ok (head, b)
      else .error (.refused (b.live - blocks_elements head))

def parse_array (parse_value : parse_buffer → Except Stop (Item × parse_buffer))
    (b : parse_buffer) : Except Stop (Item × parse_buffer) :=
  if b.depth ≥ CJSON_NESTING_LIMIT then .error (.refused b.live)
  else do
    let b := { b with depth := b.depth + 1 }
    let first ← byte b
    if first ≠ 91 then .error (.refused b.live)
    else
      let b := buffer_skip_whitespace (b.advance 1)
      if looks_at b 93 then
        .ok (.cJSON_Array [], { b.advance 1 with depth := b.depth - 1 })
      else if b.offset ≥ b.content.length then .error (.refused b.live)
      else do
        let (head, b) ← parse_elements granted parse_value b.content.length []
          { b with offset := b.offset - 1 }
        .ok (.cJSON_Array head, { b.advance 1 with depth := b.depth - 1 })

/-- The loop of `parse_object`. -/
def parse_members (parse_value : parse_buffer → Except Stop (Item × parse_buffer)) :
    Nat → List (CString × Item) → parse_buffer →
      Except Stop (List (CString × Item) × parse_buffer)
  | 0, _, _ => .error .unfinished
  | rounds + 1, head, b => do
      let b ← release (blocks_members head) (allocate granted b)
      let b := buffer_skip_whitespace (b.advance 1)
      let (string, b) ← release (blocks_members head + 1) (parse_string granted b)
      let b := buffer_skip_whitespace b
      if ¬ looks_at b 58 then .error (.refused (b.live - (blocks_members head + 2 : Nat)))
      else do
        let b := buffer_skip_whitespace (b.advance 1)
        let (current_item, b) ← release (blocks_members head + 2) (parse_value b)
        let b := buffer_skip_whitespace b
        let head := head ++ [(string, current_item)]
        if looks_at b 44 then parse_members parse_value rounds head b
        else if looks_at b 125 then .ok (head, b)
        else .error (.refused (b.live - blocks_members head))

def parse_object (parse_value : parse_buffer → Except Stop (Item × parse_buffer))
    (b : parse_buffer) : Except Stop (Item × parse_buffer) :=
  if b.depth ≥ CJSON_NESTING_LIMIT then .error (.refused b.live)
  else
    let b := { b with depth := b.depth + 1 }
    if ¬ looks_at b 123 then .error (.refused b.live)
    else
      let b := buffer_skip_whitespace (b.advance 1)
      if looks_at b 125 then
        .ok (.cJSON_Object [], { b.advance 1 with depth := b.depth - 1 })
      else if b.offset ≥ b.content.length then .error (.refused b.live)
      else do
        let (head, b) ← parse_members granted parse_value b.content.length []
          { b with offset := b.offset - 1 }
        .ok (.cJSON_Object head, { b.advance 1 with depth := b.depth - 1 })

/-- The recursion goes through `parse_array` and `parse_object`, which count the depth. -/
def parse_value : Nat → parse_buffer → Except Stop (Item × parse_buffer)
  | 0, _ => .error .unfinished
  | levels + 1, b =>
      if reads b (ascii "null") then .ok (.cJSON_NULL, b.advance 4)
      else if reads b (ascii "false") then .ok (.cJSON_False, b.advance 5)
      else if reads b (ascii "true") then .ok (.cJSON_True, b.advance 4)
      else if looks_at b 34 then do
        let (string, b) ← parse_string granted b
        .ok (.cJSON_String string, b)
      else if looks_at b 45 ∨ b.content[b.offset]?.any isdigit then
        match parse_number b.remaining with
        | none => .error (.refused b.live)
        | some (number, count) => .ok (.cJSON_Number number, b.advance count)
      else if looks_at b 91 then parse_array granted (parse_value levels) b
      else if looks_at b 123 then parse_object granted (parse_value levels) b
      else .error (.refused b.live)

/-- What is returned, and the blocks that are left allocated. `content` is what `value`
points to, `buffer_length` bytes. -/
def cJSON_ParseWithLengthOpts (content : List UInt8) (require_null_terminated : Bool) :
    Except Stop (Option Item × Int) :=
  if content = [] then .ok (none, 0)
  else
    match allocate granted ⟨content, 0, 0, 0, 0⟩ with
    | .error _ => .ok (none, 0)
    | .ok b =>
        match parse_value granted (CJSON_NESTING_LIMIT + 1)
            (buffer_skip_whitespace (skip_utf8_bom b)) with
        | .error (.refused live) => .ok (none, live - 1)
        | .error stop => .error stop
        | .ok (item, b) =>
            if require_null_terminated ∧ ¬ looks_at (buffer_skip_whitespace b) 0 then
              .ok (none, b.live - blocks item)
            else .ok (some item, b.live)

def cJSON_Parse (value : CString) : Except Stop (Option Item × Int) :=
  cJSON_ParseWithLengthOpts granted (value.val ++ [0]) false

end Parser

section Safety
variable {granted : Nat → Bool} {b : parse_buffer}

/-- The content is a string with the byte that ends it, and the offset is in it. -/
structure Within (b : parse_buffer) : Prop where
  ended : ∃ string, b.content = string ++ [0] ∧ ∀ c ∈ string, c ≠ 0
  inside : b.offset < b.content.length

/-- Behind a byte that is not the last one there is another. -/
theorem Within.next (within : Within b) {c : UInt8} {place : Nat}
    (found : b.content[place]? = some c) (nonzero : c ≠ 0) : place + 1 < b.content.length := by
  obtain ⟨string, shape, -⟩ := within.ended
  obtain ⟨inside, same⟩ := List.getElem?_eq_some_iff.mp found
  rw [shape, List.length_append, List.length_singleton] at inside ⊢
  by_contra last
  have place_last : place = string.length := by omega
  subst place_last
  apply nonzero
  rw [← same]
  simp [shape]

theorem Within.moved (within : Within b) (place depth requests : Nat) (live : Int)
    (inside : place < b.content.length) : Within ⟨b.content, place, depth, requests, live⟩ :=
  ⟨within.ended, inside⟩

theorem skip_spec (within : Within b) : ∃ offset,
    buffer_skip_whitespace b = { b with offset := offset } ∧ b.offset ≤ offset ∧
      offset < b.content.length := by
  have inside := within.inside
  have few : (b.remaining.takeWhile (· ≤ 32)).length ≤ b.content.length - b.offset := by
    have := (List.takeWhile_prefix (l := b.remaining) (· ≤ 32)).length_le
    rwa [parse_buffer.remaining, List.length_drop] at this
  refine ⟨_, by rw [buffer_skip_whitespace, if_neg (by omega)], ?_, ?_⟩
  all_goals split <;> omega

/-- A text was read, and `cost` blocks are allocated for it. -/
structure Consumed (b b' : parse_buffer) (cost : Int) : Prop where
  content : b'.content = b.content
  depth : b'.depth = b.depth
  offset : b.offset < b'.offset
  inside : b'.offset < b.content.length
  live : b'.live = b.live + cost

theorem Consumed.within {b' : parse_buffer} {cost : Int} (within : Within b)
    (consumed : Consumed b b' cost) : Within b' :=
  ⟨by rw [consumed.content]; exact within.ended, by rw [consumed.content]; exact consumed.inside⟩

theorem release_ends {α : Type} {good : α → Prop} {live : Int} (freed : Nat)
    {first : Except Stop α} (ends : Ends good (· = .refused live) first) :
    Ends good (· = .refused (live - freed)) (release freed first) := by
  cases first with
  | ok result => exact ends
  | error stop =>
      cases ends
      rfl

theorem allocate_spec (granted : Nat → Bool) (b : parse_buffer) :
    Ends (fun b' => b' = { b with requests := b.requests + 1, live := b.live + 1 })
      (· = .refused b.live) (allocate granted b) := by
  unfold allocate
  split
  · exact rfl
  · exact rfl

theorem reads_consumed (within : Within b) (literal : List UInt8) (read : reads b literal)
    (some_byte : 0 < literal.length) (nonzero : ∀ c ∈ literal, c ≠ 0) :
    Consumed b (b.advance literal.length) 0 := by
  have shape : literal <+: b.remaining := List.isPrefixOf_iff_prefix.mp read
  obtain ⟨rest, shape⟩ := shape
  have last : b.content[b.offset + (literal.length - 1)]? = some (literal[literal.length - 1]) := by
    rw [← List.getElem?_drop, ← parse_buffer.remaining, ← shape,
      List.getElem?_append_left (by omega), List.getElem?_eq_getElem]
  have inside := within.next last (nonzero _ (List.getElem_mem _))
  exact ⟨rfl, rfl, by simp only [parse_buffer.advance]; omega,
    by simp only [parse_buffer.advance]; omega, by simp [parse_buffer.advance]⟩

theorem parse_string_spec (granted : Nat → Bool) (within : Within b) :
    Ends (fun result => Consumed b result.2 1) (· = .refused b.live) (parse_string granted b) := by
  have inside := within.inside
  unfold parse_string byte
  rw [List.getElem?_eq_getElem inside]
  dsimp only [bind, Except.bind]
  split
  · exact rfl
  · rename_i quote
    split
    · exact rfl
    · rename_i length skipped_bytes found
      apply Ends.bind (allocate_spec granted b)
      rintro b' rfl
      have fits := unescape_fits found
      obtain ⟨stop, -⟩ := string_end_shape found
      rw [parse_buffer.remaining, List.getElem?_drop] at stop
      have more := within.next stop (by decide)
      dsimp only
      rw [if_neg (by have : ∀ complete : Bool, complete.toNat ≤ 1 := by decide
                     have := this (unescape 0 ((b.advance 1).remaining.take length)).2
                     omega)]
      split
      · refine ⟨rfl, rfl, ?_, ?_, rfl⟩
        all_goals
          simp only [parse_buffer.advance] at more ⊢
          omega
      · simp

theorem parse_number_consumed (within : Within b) {number : Double} {count : Nat}
    (read : parse_number b.remaining = some (number, count)) :
    Consumed b (b.advance count) 0 := by
  obtain ⟨⟨value, rest⟩, scanned, same⟩ := Option.map_eq_some_iff.mp read
  obtain ⟨-, rfl⟩ := Prod.mk.inj same
  have shorter := strtod_shorter scanned
  have copied : number_c_string b.remaining <+: b.remaining :=
    (List.take_prefix _ _).trans (List.takeWhile_prefix _)
  set text := number_c_string b.remaining with text_def
  have numeral_last : numeral text[text.length - 1] := by
    have member : text[text.length - 1] ∈ b.remaining.takeWhile numeral :=
      List.mem_of_mem_take (List.getElem_mem _)
    exact List.mem_takeWhile_imp member
  obtain ⟨after, shape⟩ := copied
  have last : b.content[b.offset + (text.length - 1)]? = some text[text.length - 1] := by
    rw [← List.getElem?_drop, ← parse_buffer.remaining, ← shape,
      List.getElem?_append_left (by omega), List.getElem?_eq_getElem]
  have inside := within.next last (by
    intro zero
    rw [zero] at numeral_last
    cases numeral_last)
  dsimp only at shorter ⊢
  exact ⟨rfl, rfl, by simp only [parse_buffer.advance]; omega,
    by simp only [parse_buffer.advance]; omega, by simp [parse_buffer.advance]⟩

theorem blocks_elements_append (head : List Item) (item : Item) :
    blocks_elements (head ++ [item]) = blocks_elements head + blocks item := by
  induction head with
  | nil => simp [blocks_elements]
  | cons first head ih => simp [blocks_elements, ih, Nat.add_assoc]

theorem nesting_elements_append (head : List Item) (item : Item) :
    nesting_elements (head ++ [item]) = max (nesting_elements head) (nesting item) := by
  induction head with
  | nil => simp [nesting_elements]
  | cons first head ih => simp [nesting_elements, ih, max_assoc]

theorem blocks_members_append (head : List (CString × Item)) (string : CString) (item : Item) :
    blocks_members (head ++ [(string, item)]) = blocks_members head + (blocks item + 1) := by
  induction head with
  | nil => simp [blocks_members]
  | cons first head ih => simp [blocks_members, ih, Nat.add_assoc]

theorem nesting_members_append (head : List (CString × Item)) (string : CString) (item : Item) :
    nesting_members (head ++ [(string, item)]) = max (nesting_members head) (nesting item) := by
  induction head with
  | nil => simp [nesting_members]
  | cons first head ih => simp [nesting_members, ih, max_assoc]

/-- What a parser of values does: it reads a tree that is not nested too deeply, or gives
up and leaves nothing allocated. -/
def Parses (depth : Nat) (parse : parse_buffer → Except Stop (Item × parse_buffer)) : Prop :=
  ∀ b, Within b → b.depth = depth →
    Ends (fun result => Consumed b result.2 (blocks result.1 - 1 : Int) ∧
        depth + nesting result.1 ≤ CJSON_NESTING_LIMIT)
      (· = .refused b.live) (parse b)

variable {depth : Nat} {parse : parse_buffer → Except Stop (Item × parse_buffer)}

theorem parse_elements_spec (granted : Nat → Bool) (parses : Parses depth parse) (rounds : Nat)
    (head : List Item) {b : parse_buffer} (within : Within b) (deep : b.depth = depth)
    (more : b.offset + 1 < b.content.length) (enough : b.content.length ≤ b.offset + 1 + rounds)
    (shallow : depth + nesting_elements head ≤ CJSON_NESTING_LIMIT) :
    Ends (fun result => Consumed b result.2 (blocks_elements result.1 - blocks_elements head : Int) ∧
        depth + nesting_elements result.1 ≤ CJSON_NESTING_LIMIT ∧ looks_at result.2 93)
      (· = .refused (b.live - blocks_elements head))
      (parse_elements granted parse rounds head b) := by
  induction rounds generalizing head b with
  | zero => omega
  | succ rounds ih =>
      rw [parse_elements]
      apply Ends.bind (release_ends _ (allocate_spec granted b))
      rintro b' rfl
      obtain ⟨start, skipped, low, high⟩ := skip_spec (b := parse_buffer.advance
        { b with requests := b.requests + 1, live := b.live + 1 } 1) (within.moved _ _ _ _ more)
      dsimp only [parse_buffer.advance] at skipped low high ⊢
      rw [skipped]
      have value := parses _ (within.moved start b.depth (b.requests + 1) (b.live + 1) high) deep
      refine Ends.bind ((release_ends (blocks_elements head + 1) value).imp
        (fun _ good => good) fun stop same => ?_) ?_
      · rw [same]
        push_cast
        congr 1
        ring
      rintro ⟨item, b₂⟩ ⟨consumed, nested⟩
      have within₂ := consumed.within (within.moved _ _ _ _ high)
      obtain ⟨place, skipped₂, low₂, high₂⟩ := skip_spec within₂
      obtain ⟨content, deep₂, further, inside, live⟩ := consumed
      dsimp only at content deep₂ further inside live nested skipped₂ low₂ high₂ ⊢
      rw [skipped₂]
      have grown := blocks_elements_append head item
      have held : depth + nesting_elements (head ++ [item]) ≤ CJSON_NESTING_LIMIT := by
        rw [nesting_elements_append]
        omega
      split
      · rename_i comma
        have found : b₂.content[place]? = some 44 := by simpa [looks_at] using comma
        have more₂ := within₂.next found (by decide)
        rw [content] at more₂
        have others := ih (head ++ [item]) (b := { b₂ with offset := place }) (within₂.moved _ _ _ _ high₂)
          (by rw [← deep]; exact deep₂) (by rw [content]; exact more₂)
          (by dsimp only; rw [content]; omega) held
        refine others.imp ?_ fun stop same => ?_
        · rintro ⟨result, b₃⟩ ⟨⟨content₃, deep₃, further₃, inside₃, live₃⟩, rest⟩
          dsimp only at content₃ deep₃ further₃ inside₃ live₃
          refine ⟨⟨by rw [content₃, content], by rw [deep₃, deep₂], by dsimp only; omega,
            by rw [content] at inside₃; exact inside₃, ?_⟩, rest⟩
          rw [live₃, live, grown]
          push_cast
          ring
        · rw [same, live, grown]
          push_cast
          congr 1
          ring
      · split
        · rename_i bracket
          refine ⟨⟨content, deep₂, by dsimp only; omega, by rw [← content]; exact high₂, ?_⟩, held,
            bracket⟩
          dsimp only
          rw [live, grown]
          push_cast
          ring
        · rw [Outcome.ends_error, live, grown]
          push_cast
          congr 1
          ring

theorem parse_members_spec (granted : Nat → Bool) (parses : Parses depth parse) (rounds : Nat)
    (head : List (CString × Item)) {b : parse_buffer} (within : Within b) (deep : b.depth = depth)
    (more : b.offset + 1 < b.content.length) (enough : b.content.length ≤ b.offset + 1 + rounds)
    (shallow : depth + nesting_members head ≤ CJSON_NESTING_LIMIT) :
    Ends (fun result => Consumed b result.2 (blocks_members result.1 - blocks_members head : Int) ∧
        depth + nesting_members result.1 ≤ CJSON_NESTING_LIMIT ∧ looks_at result.2 125)
      (· = .refused (b.live - blocks_members head))
      (parse_members granted parse rounds head b) := by
  induction rounds generalizing head b with
  | zero => omega
  | succ rounds ih =>
      rw [parse_members]
      apply Ends.bind (release_ends _ (allocate_spec granted b))
      rintro b' rfl
      obtain ⟨start, skipped, low, high⟩ := skip_spec (b := parse_buffer.advance
        { b with requests := b.requests + 1, live := b.live + 1 } 1) (within.moved _ _ _ _ more)
      dsimp only [parse_buffer.advance] at skipped low high ⊢
      rw [skipped]
      have name := parse_string_spec granted (within.moved start b.depth (b.requests + 1)
        (b.live + 1) high)
      refine Ends.bind ((release_ends (blocks_members head + 1) name).imp
        (fun _ good => good) fun stop same => ?_) ?_
      · rw [same]
        push_cast
        congr 1
        ring
      rintro ⟨string, b₁⟩ consumed
      have within₁ := consumed.within (within.moved _ _ _ _ high)
      obtain ⟨colon, skipped₁, low₁, high₁⟩ := skip_spec within₁
      obtain ⟨content₁, deep₁, further₁, inside₁, live₁⟩ := consumed
      dsimp only at content₁ deep₁ further₁ inside₁ live₁ skipped₁ low₁ high₁ ⊢
      rw [skipped₁]
      split
      · rw [Outcome.ends_error, live₁]
        push_cast
        congr 1
        ring
      rename_i separator
      have found₁ : b₁.content[colon]? = some 58 := by simpa [looks_at] using separator
      have more₁ := within₁.next found₁ (by decide)
      obtain ⟨first, skipped₃, low₃, high₃⟩ := skip_spec (b := parse_buffer.advance
        { b₁ with offset := colon } 1) (within₁.moved _ _ _ _ more₁)
      dsimp only [parse_buffer.advance] at skipped₃ low₃ high₃ ⊢
      rw [skipped₃]
      have value := parses _ (within₁.moved first b₁.depth b₁.requests b₁.live high₃) (deep₁.trans deep)
      refine Ends.bind ((release_ends (blocks_members head + 2) value).imp
        (fun _ good => good) fun stop same => ?_) ?_
      · rw [same, live₁]
        push_cast
        congr 1
        ring
      rintro ⟨item, b₂⟩ ⟨consumed, nested⟩
      have within₂ := consumed.within (within₁.moved _ _ _ _ high₃)
      obtain ⟨place, skipped₂, low₂, high₂⟩ := skip_spec within₂
      obtain ⟨content, deep₂, further, inside, live⟩ := consumed
      dsimp only at content deep₂ further inside live nested skipped₂ low₂ high₂ ⊢
      rw [skipped₂]
      have grown := blocks_members_append head string item
      have held : depth + nesting_members (head ++ [(string, item)]) ≤ CJSON_NESTING_LIMIT := by
        rw [nesting_members_append]
        omega
      have same_content : b₂.content = b.content := content.trans content₁
      split
      · rename_i comma
        have found : b₂.content[place]? = some 44 := by simpa [looks_at] using comma
        have more₂ := within₂.next found (by decide)
        rw [same_content] at more₂
        have others := ih (head ++ [(string, item)]) (b := { b₂ with offset := place })
          (within₂.moved _ _ _ _ high₂) ((deep₂.trans deep₁).trans deep)
          (by rw [same_content]; exact more₂)
          (by dsimp only; rw [same_content]; omega) held
        refine others.imp ?_ fun stop same => ?_
        · rintro ⟨result, b₃⟩ ⟨⟨content₃, deep₃, further₃, inside₃, live₃⟩, rest⟩
          dsimp only at content₃ deep₃ further₃ inside₃ live₃
          refine ⟨⟨content₃.trans same_content, deep₃.trans (deep₂.trans deep₁),
            by dsimp only; omega, by rw [same_content] at inside₃; exact inside₃, ?_⟩, rest⟩
          rw [live₃, live, live₁, grown]
          push_cast
          ring
        · rw [same, live, live₁, grown]
          push_cast
          congr 1
          ring
      · split
        · rename_i bracket
          refine ⟨⟨same_content, deep₂.trans deep₁, by dsimp only; omega,
            by rw [← same_content]; exact high₂, ?_⟩, held, bracket⟩
          dsimp only
          rw [live, live₁, grown]
          push_cast
          ring
        · rw [Outcome.ends_error, live, live₁, grown]
          push_cast
          congr 1
          ring

theorem parse_array_spec (granted : Nat → Bool) (parses : Parses (depth + 1) parse) :
    ∀ b, Within b → b.depth = depth → looks_at b 91 →
      Ends (fun result => Consumed b result.2 (blocks result.1 - 1 : Int) ∧
          depth + nesting result.1 ≤ CJSON_NESTING_LIMIT)
        (· = .refused b.live) (parse_array granted parse b) := by
  rintro b within rfl bracket
  have found : b.content[b.offset]? = some 91 := by simpa [looks_at] using bracket
  have more := within.next found (by decide)
  unfold parse_array
  split
  · exact rfl
  rename_i shallow
  obtain ⟨start, skipped, low, high⟩ := skip_spec (b := parse_buffer.advance
    { b with depth := b.depth + 1 } 1) (within.moved _ _ _ _ more)
  dsimp only [parse_buffer.advance] at skipped low high
  have first : Ends (· = 91) (· = Stop.refused b.live) (byte { b with depth := b.depth + 1 }) := by
    simp [byte, found]
  apply Ends.bind first
  rintro _ rfl
  simp only [ne_eq, not_true, if_false, parse_buffer.advance, skipped]
  split
  · rename_i closed
    have last : b.content[start]? = some 93 := by simpa [looks_at] using closed
    have after := within.next last (by decide)
    refine ⟨⟨rfl, rfl, ?_, after, ?_⟩, ?_⟩
    · dsimp only
      omega
    · simp [blocks, blocks_elements]
    · simp only [nesting, nesting_elements]
      omega
  · rw [if_neg (by omega)]
    have listed := parse_elements_spec granted parses b.content.length []
      (b := { b with offset := start - 1, depth := b.depth + 1 })
      (within.moved _ _ _ _ (by omega)) rfl (by dsimp only; omega) (by dsimp only; omega)
      (by simp only [nesting_elements]; omega)
    refine Ends.bind (listed.imp (fun _ good => good)
      fun stop same => by simpa [blocks_elements] using same) ?_
    rintro ⟨head, b'⟩ ⟨⟨content, deep, further, inside, live⟩, nested, closed⟩
    dsimp only at content deep further inside live nested closed ⊢
    have last : b'.content[b'.offset]? = some 93 := by simpa [looks_at] using closed
    rw [content] at last
    have after := within.next last (by decide)
    refine ⟨⟨content, by rw [deep]; rfl, ?_, after, ?_⟩, ?_⟩
    · dsimp only
      omega
    · dsimp only
      rw [live, blocks]
      simp [blocks_elements]
    · simp only [nesting]
      omega

theorem parse_object_spec (granted : Nat → Bool) (parses : Parses (depth + 1) parse) :
    ∀ b, Within b → b.depth = depth → looks_at b 123 →
      Ends (fun result => Consumed b result.2 (blocks result.1 - 1 : Int) ∧
          depth + nesting result.1 ≤ CJSON_NESTING_LIMIT)
        (· = .refused b.live) (parse_object granted parse b) := by
  rintro b within rfl bracket
  have found : b.content[b.offset]? = some 123 := by simpa [looks_at] using bracket
  have more := within.next found (by decide)
  have first : looks_at { b with depth := b.depth + 1 } 123 = true := bracket
  unfold parse_object
  split
  · exact rfl
  rename_i shallow
  obtain ⟨start, skipped, low, high⟩ := skip_spec (b := parse_buffer.advance
    { b with depth := b.depth + 1 } 1) (within.moved _ _ _ _ more)
  dsimp only [parse_buffer.advance] at skipped low high
  simp only [first, not_true, if_false, parse_buffer.advance, skipped]
  split
  · rename_i closed
    have last : b.content[start]? = some 125 := by simpa [looks_at] using closed
    have after := within.next last (by decide)
    refine ⟨⟨rfl, rfl, ?_, after, ?_⟩, ?_⟩
    · dsimp only
      omega
    · simp [blocks, blocks_members]
    · simp only [nesting, nesting_members]
      omega
  · rw [if_neg (by omega)]
    have listed := parse_members_spec granted parses b.content.length []
      (b := { b with offset := start - 1, depth := b.depth + 1 })
      (within.moved _ _ _ _ (by omega)) rfl (by dsimp only; omega) (by dsimp only; omega)
      (by simp only [nesting_members]; omega)
    refine Ends.bind (listed.imp (fun _ good => good)
      fun stop same => by simpa [blocks_members] using same) ?_
    rintro ⟨head, b'⟩ ⟨⟨content, deep, further, inside, live⟩, nested, closed⟩
    dsimp only at content deep further inside live nested closed ⊢
    have last : b'.content[b'.offset]? = some 125 := by simpa [looks_at] using closed
    rw [content] at last
    have after := within.next last (by decide)
    refine ⟨⟨content, by rw [deep]; rfl, ?_, after, ?_⟩, ?_⟩
    · dsimp only
      omega
    · dsimp only
      rw [live, blocks]
      simp [blocks_members]
    · simp only [nesting]
      omega

/-- The limit of the nesting ends the recursion. -/
theorem parse_value_spec (granted : Nat → Bool) (levels depth : Nat)
    (enough : CJSON_NESTING_LIMIT + 1 ≤ depth + levels) (low : depth ≤ CJSON_NESTING_LIMIT) :
    Parses depth (parse_value granted levels) := by
  induction levels generalizing depth with
  | zero => omega
  | succ levels ih =>
      rintro b within rfl
      have leaf : ∀ {b' : parse_buffer} {item : Item}, blocks item = 1 → nesting item = 0 →
          Consumed b b' 0 → Consumed b b' (blocks item - 1 : Int) ∧
            b.depth + nesting item ≤ CJSON_NESTING_LIMIT := by
        intro b' item one flat consumed
        rw [one, flat]
        exact ⟨consumed, low⟩
      unfold parse_value
      split
      · rename_i read
        exact leaf rfl rfl
          (reads_consumed within (ascii "null") read (by decide) (word_nonzero rfl))
      split
      · rename_i read
        exact leaf rfl rfl
          (reads_consumed within (ascii "false") read (by decide) (word_nonzero rfl))
      split
      · rename_i read
        exact leaf rfl rfl
          (reads_consumed within (ascii "true") read (by decide) (word_nonzero rfl))
      split
      · apply Ends.bind (parse_string_spec granted within)
        rintro ⟨string, b'⟩ consumed
        exact ⟨consumed, by simpa [nesting] using low⟩
      split
      · split
        · exact rfl
        · rename_i number count read
          exact leaf rfl rfl (parse_number_consumed within read)
      split
      · rename_i bracket
        have limit : b.depth < CJSON_NESTING_LIMIT ∨ b.depth = CJSON_NESTING_LIMIT := by omega
        rcases limit with below | full
        · exact parse_array_spec granted (ih _ (by omega) (by omega)) b within rfl bracket
        · rw [parse_array, if_pos (by omega)]
          exact rfl
      split
      · rename_i bracket
        have limit : b.depth < CJSON_NESTING_LIMIT ∨ b.depth = CJSON_NESTING_LIMIT := by omega
        rcases limit with below | full
        · exact parse_object_spec granted (ih _ (by omega) (by omega)) b within rfl bracket
        · rw [parse_object, if_pos (by omega)]
          exact rfl
      · exact rfl

theorem skip_bom_within (within : Within b) : Within (skip_utf8_bom b) ∧
    (skip_utf8_bom b).depth = b.depth ∧ (skip_utf8_bom b).live = b.live := by
  unfold skip_utf8_bom
  split
  · rename_i marked
    exact ⟨⟨within.ended, lt_trans (by simp [parse_buffer.advance]) marked.1⟩, rfl, rfl⟩
  · exact ⟨within, rfl, rfl⟩

/-- Whatever the string and whatever the allocator grants: the parser comes to an end and
stays inside its memory; what is left allocated is the tree that it returns, and that
tree is not nested too deeply. -/
theorem cJSON_Parse_safe (granted : Nat → Bool) (value : CString) :
    (∃ item, cJSON_Parse granted value = .ok (some item, blocks item) ∧
      nesting item ≤ CJSON_NESTING_LIMIT) ∨ cJSON_Parse granted value = .ok (none, 0) := by
  unfold cJSON_Parse cJSON_ParseWithLengthOpts
  rw [if_neg (by simp)]
  have allocated := allocate_spec granted ⟨value.val ++ [0], 0, 0, 0, 0⟩
  cases first : allocate granted ⟨value.val ++ [0], 0, 0, 0, 0⟩ with
  | error stop => exact .inr rfl
  | ok b =>
      have same := allocated.of_ok first
      have within : Within b := by
        rw [same]
        exact ⟨⟨value.val, rfl, value.2⟩, by simp⟩
      obtain ⟨within₁, deep₁, live₁⟩ := skip_bom_within within
      obtain ⟨offset, skipped, -, high⟩ := skip_spec within₁
      have parsed := parse_value_spec granted (CJSON_NESTING_LIMIT + 1) 0 (by omega)
        (by decide) { skip_utf8_bom b with offset := offset } (within₁.moved _ _ _ _ high)
        (by rw [deep₁, same])
      dsimp only
      rw [skipped]
      cases ended : parse_value granted (CJSON_NESTING_LIMIT + 1)
          { skip_utf8_bom b with offset := offset } with
      | ok result =>
          obtain ⟨⟨-, -, -, -, live⟩, shallow⟩ := parsed.of_ok ended
          refine .inl ⟨result.1, ?_, by omega⟩
          dsimp only at live ⊢
          rw [if_neg (by simp), live, live₁, same]
          congr 2
          dsimp only
          omega
      | error stop =>
          have refused := parsed.of_error ended
          right
          rw [refused]
          dsimp only
          rw [live₁, same]
          rfl

end Safety

end Iperf.CjsonParse
