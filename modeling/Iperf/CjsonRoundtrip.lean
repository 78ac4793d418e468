import Iperf.CjsonParse
import Iperf.CjsonPrint

/-!
What cJSON prints, it parses: the same tree, with the numbers that are read back and
null for a number that is none. Only a tree that is nested too deeply is not read back.
-/

namespace Iperf.CjsonRoundtrip

open FormattedText (ascii isdigit)
open GeneralFormat (numeral Stops)
open Outcome AuthToken CjsonNumber CjsonString CjsonItem CjsonParse

section Trees

mutual

/-- The tree that is read back. -/
def reread : Item → Item
  | .cJSON_Number (.finite d) => .cJSON_Number (CjsonNumber.reread d)
  | .cJSON_Number _ => .cJSON_NULL
  | .cJSON_Array child => .cJSON_Array (reread_elements child)
  | .cJSON_Object child => .cJSON_Object (reread_members child)
  | item => item

def reread_elements : List Item → List Item
  | [] => []
  | item :: next => reread item :: reread_elements next

def reread_members : List (CString × Item) → List (CString × Item)
  | [] => []
  | (string, item) :: next => (string, reread item) :: reread_members next

end

/-- No value starts with whitespace, with a bracket that closes or with a byte order mark. -/
theorem text_start (format : Bool) (depth : Nat) (item : Item) :
    ∃ c rest, text format depth item = c :: rest ∧ ¬ c ≤ 32 ∧ c ≠ 93 ∧ c ≠ 125 ∧ c ≠ 239 := by
  cases item with
  | cJSON_NULL => exact ⟨110, _, rfl, by decide, by decide, by decide, by decide⟩
  | cJSON_False => exact ⟨102, _, rfl, by decide, by decide, by decide, by decide⟩
  | cJSON_True => exact ⟨116, _, rfl, by decide, by decide, by decide, by decide⟩
  | cJSON_Number valuedouble =>
      cases valuedouble with
      | finite d =>
          obtain ⟨first, rest, shape, start⟩ := (number_text_reads d).start
          refine ⟨first, rest, by simpa only [text] using shape, ?_⟩
          rcases start with digit | rfl
          · simp only [isdigit, decide_eq_true_eq, UInt8.le_iff_toNat_le] at digit
            have bounds : (48 : UInt8).toNat = 48 ∧ (57 : UInt8).toNat = 57 ∧
                (32 : UInt8).toNat = 32 := ⟨rfl, rfl, rfl⟩
            refine ⟨by rw [UInt8.le_iff_toNat_le]; omega, ?_, ?_, ?_⟩
            all_goals
              rintro rfl
              revert digit
              decide
          · decide
      | infinite negative => exact ⟨110, _, rfl, by decide, by decide, by decide, by decide⟩
      | nan => exact ⟨110, _, rfl, by decide, by decide, by decide, by decide⟩
  | cJSON_String valuestring => exact ⟨34, _, rfl, by decide, by decide, by decide, by decide⟩
  | cJSON_Array child => exact ⟨91, _, rfl, by decide, by decide, by decide, by decide⟩
  | cJSON_Object child => exact ⟨123, _, rfl, by decide, by decide, by decide, by decide⟩

theorem elements_text_length (format : Bool) (depth : Nat) (child : List Item) :
    child.length ≤ (elements_text format depth child).length := by
  induction child with
  | nil => simp
  | cons item next ih =>
      obtain ⟨c, rest, shape, -⟩ := text_start format depth item
      simp only [elements_text, shape, List.length_append, List.length_cons]
      omega

theorem members_text_length (format : Bool) (depth : Nat) (child : List (CString × Item)) :
    child.length ≤ (members_text format depth child).length := by
  induction child with
  | nil => simp
  | cons member next ih =>
      simp only [members_text, quoted, List.length_append, List.length_cons]
      omega

end Trees

section Reading
variable {granted : Nat → Bool} {b b' : parse_buffer} {rest : List UInt8}

/-- The parser stands before `rest`, in the same content and at the same depth. -/
structure Before (b b' : parse_buffer) (rest : List UInt8) : Prop where
  content : b'.content = b.content
  depth : b'.depth = b.depth
  remaining : b'.remaining = rest

theorem remaining_advance (front : List UInt8) (shape : b.remaining = front ++ rest) :
    (b.advance front.length).remaining = rest := by
  have : (b.advance front.length).remaining = b.remaining.drop front.length := by
    simp [parse_buffer.remaining, parse_buffer.advance]
  rw [this, shape, List.drop_left]

theorem advance_before (front : List UInt8) (shape : b.remaining = front ++ rest) :
    Before b (b.advance front.length) rest :=
  ⟨rfl, rfl, remaining_advance front shape⟩

theorem looks_at_remaining (c : UInt8) : looks_at b c = decide (b.remaining.head? = some c) := by
  rw [looks_at, parse_buffer.remaining, List.head?_drop]

theorem byte_remaining {c : UInt8} (shape : b.remaining = c :: rest) : byte b = .ok c := by
  have found : b.content[b.offset]? = some c := by
    rw [← List.head?_drop, ← parse_buffer.remaining, shape]
    rfl
  simp [byte, found]

def white (c : UInt8) : Bool := c ≤ 32

theorem skip_before {c : UInt8} (shape : b.remaining.dropWhile white = c :: rest) :
    Before b (buffer_skip_whitespace b) (c :: rest) ∧
      b.offset ≤ (buffer_skip_whitespace b).offset := by
  have whole := List.takeWhile_append_dropWhile (p := white) (l := b.remaining)
  have length := congrArg List.length whole
  rw [shape, List.length_append, List.length_cons, parse_buffer.remaining, List.length_drop] at length
  have moved : buffer_skip_whitespace b = b.advance (b.remaining.takeWhile white).length := by
    unfold buffer_skip_whitespace
    rw [if_neg (by omega)]
    dsimp only
    rw [if_neg (by
      have : (b.remaining.takeWhile fun c => decide (c ≤ 32)) = b.remaining.takeWhile white := rfl
      rw [this, parse_buffer.remaining]
      omega)]
    rfl
  rw [moved]
  refine ⟨advance_before _ ?_, Nat.le_add_right _ _⟩
  rw [← shape, whole]

theorem skip_nothing {c : UInt8} (shape : b.remaining = c :: rest) (black : ¬ c ≤ 32) :
    Before b (buffer_skip_whitespace b) (c :: rest) :=
  (skip_before (by rw [shape, List.dropWhile_cons_of_neg (by simpa [white] using black)])).1

theorem drop_white {blank : List UInt8} {c : UInt8} (blanks : ∀ c ∈ blank, white c)
    (black : ¬ c ≤ 32) : (blank ++ c :: rest).dropWhile white = c :: rest := by
  rw [List.dropWhile_append_of_pos blanks, List.dropWhile_cons_of_neg (by simpa [white] using black)]

/-- Whitespace does not go on with a numeral. -/
theorem stops_skipped {back tail : List UInt8} {after : UInt8}
    (shape : back.dropWhile white = after :: tail) (closes : numeral after = false) : Stops back := by
  intro first found
  cases back with
  | nil => cases found
  | cons c back =>
      obtain rfl : c = first := by simpa using found
      by_cases blank : white c
      · simp only [white, decide_eq_true_eq, UInt8.le_iff_toNat_le] at blank
        have bounds : (32 : UInt8).toNat = 32 ∧ (48 : UInt8).toNat = 48 := ⟨rfl, rfl⟩
        have small : ∀ n ≤ 32, numeral (UInt8.ofNat n) = false := by decide
        have := small c.toNat (by omega)
        rwa [UInt8.ofNat_toNat] at this
      · rw [List.dropWhile_cons_of_neg blank] at shape
        rwa [(List.cons.inj shape).1]

theorem allocate_granted (all : ∀ n, granted n) (b : parse_buffer) :
    allocate granted b = .ok { b with requests := b.requests + 1, live := b.live + 1 } :=
  if_pos (all _)

theorem parse_string_quoted (all : ∀ n, granted n) (string : CString)
    (shape : b.remaining = quoted string ++ rest) :
    Ends (fun result => result.1 = string ∧ Before b result.2 rest) (fun _ => False)
      (parse_string granted b) := by
  have opened : b.remaining = 34 :: (escape string.val ++ 34 :: rest) := by
    simpa [quoted] using shape
  have input : (b.advance 1).remaining = escape string.val ++ 34 :: rest :=
    remaining_advance [34] opened
  obtain ⟨skipped_bytes, found⟩ := string_end_escape string.val rest
  have fits := unescape_fits found
  have taken : (escape string.val ++ 34 :: rest).take (escape string.val).length =
      escape string.val := List.take_left
  have same : valuestring string.val = string :=
    Subtype.ext (List.takeWhile_eq_self_iff.mpr fun c member => by simpa using string.2 c member)
  rw [taken, unescape_escape] at fits
  dsimp only at fits
  simp only [parse_string, byte_remaining opened, input, found, allocate_granted all, taken,
    unescape_escape, bind, Except.bind, ne_eq, not_true, if_false]
  rw [if_neg (by simp only [Bool.toNat_true]; omega)]
  refine ⟨same, rfl, rfl, ?_⟩
  have width : (quoted string).length = (escape string.val).length + 2 := by simp [quoted]
  rw [← width]
  exact remaining_advance _ shape

/-- One byte back, from where the parser has gone on. -/
theorem step_back {c : UInt8} (shape : b.remaining = c :: rest) (moved : 0 < b.offset) :
    (parse_buffer.advance { b with offset := b.offset - 1 } 1).remaining = c :: rest ∧
      ¬ b.offset ≥ b.content.length := by
  constructor
  · rw [← shape, parse_buffer.advance, parse_buffer.remaining, parse_buffer.remaining]
    dsimp only
    rw [Nat.sub_add_cancel moved]
  · intro outside
    have length := congrArg List.length shape
    rw [parse_buffer.remaining, List.length_drop, List.length_cons] at length
    omega

theorem reads_other {c : UInt8} (shape : b.remaining = c :: rest) (l : UInt8) (literal : List UInt8)
    (differs : c ≠ l) : reads b (l :: literal) = false := by
  simp [reads, shape, List.isPrefixOf, differs.symm]

theorem reads_literal (literal : List UInt8) (shape : b.remaining = literal ++ rest) :
    reads b literal = true := by
  rw [reads, shape]
  simp

/-- A byte that begins none of the three words. -/
theorem reads_no_word {c : UInt8} (shape : b.remaining = c :: rest)
    (other : c ≠ 110 ∧ c ≠ 102 ∧ c ≠ 116) :
    reads b (ascii "null") = false ∧ reads b (ascii "false") = false ∧
      reads b (ascii "true") = false :=
  ⟨reads_other shape 110 _ other.1, reads_other shape 102 _ other.2.1,
    reads_other shape 116 _ other.2.2⟩

theorem parse_value_null (granted : Nat → Bool) (levels : Nat)
    (shape : b.remaining = ascii "null" ++ rest) :
    Ends (fun result => result.1 = .cJSON_NULL ∧ Before b result.2 rest) (fun _ => False)
      (parse_value granted (levels + 1) b) := by
  rw [parse_value, if_pos (reads_literal _ shape)]
  exact ⟨rfl, advance_before (ascii "null") shape⟩

theorem parse_value_number (granted : Nat → Bool) (levels : Nat) (d : Finite)
    (shape : b.remaining = number_text (.finite d) ++ rest) (stops : Stops rest) :
    Ends (fun result => result.1 = .cJSON_Number (CjsonNumber.reread d) ∧ Before b result.2 rest)
      (fun _ => False) (parse_value granted (levels + 1) b) := by
  obtain ⟨first, others, text, start⟩ := (number_text_reads d).start
  have opened : b.remaining = first :: (others ++ rest) := by rw [shape, text, List.cons_append]
  have found : b.content[b.offset]? = some first := by
    rw [← List.head?_drop, ← parse_buffer.remaining, opened]
    rfl
  have other : (first ≠ 110 ∧ first ≠ 102 ∧ first ≠ 116) ∧ first ≠ 34 := by
    rcases start with digit | rfl
    · refine ⟨⟨?_, ?_, ?_⟩, ?_⟩
      all_goals
        rintro rfl
        exact absurd digit (by decide)
    · decide
  obtain ⟨no_null, no_false, no_true⟩ := reads_no_word opened other.1
  rw [parse_value, if_neg (by simp [no_null]), if_neg (by simp [no_false]),
    if_neg (by simp [no_true]), if_neg (by simp [looks_at, found, other.2]),
    if_pos (by simpa [looks_at, found, or_comm] using start), shape,
    parse_print_number d stops]
  exact ⟨rfl, advance_before _ shape⟩

theorem stops_brackets {c : UInt8} (closes : c = 44 ∨ c = 93 ∨ c = 125 ∨ c = 10 ∨ c = 0)
    (rest : List UInt8) : Stops (c :: rest) := by
  intro first same
  obtain rfl : c = first := by simpa using same
  rcases closes with rfl | rfl | rfl | rfl | rfl <;> decide

theorem release_deep {α : Type} {good : α → Prop} {deep : Prop} (freed : Nat)
    {first : Except Stop α} (ends : Ends good (fun _ => deep) first) :
    Ends good (fun _ => deep) (release freed first) := by
  cases first with
  | ok result => exact ends
  | error stop => cases stop <;> exact ends

mutual

/-- Everything but a tree that is nested too deeply is read back. -/
theorem parse_value_text (all : ∀ n, granted n) (format : Bool) : ∀ (item : Item)
    (depth levels : Nat) {b : parse_buffer} {rest : List UInt8}, b.remaining = text format depth item ++ rest →
    Stops rest → b.depth ≤ CJSON_NESTING_LIMIT → CJSON_NESTING_LIMIT + 1 ≤ b.depth + levels →
    Ends (fun result => result.1 = reread item ∧ Before b result.2 rest ∧
        b.depth + nesting item ≤ CJSON_NESTING_LIMIT)
      (fun _ => CJSON_NESTING_LIMIT < b.depth + nesting item) (parse_value granted levels b)
  | item, depth, 0, b, rest, shape, stops, low, enough => by omega
  | .cJSON_NULL, depth, levels + 1, b, rest, shape, stops, low, enough =>
      (parse_value_null granted levels (by simpa only [text] using shape)).imp
        (fun result read => ⟨read.1, read.2, low⟩) fun stop => False.elim
  | .cJSON_False, depth, levels + 1, b, rest, shape, stops, low, enough => by
      simp only [text] at shape
      have no_null : reads b (ascii "null") = false :=
        reads_other (c := 102) shape 110 _ (by decide)
      rw [parse_value, if_neg (by simp [no_null]), if_pos (reads_literal _ shape)]
      exact ⟨rfl, advance_before (ascii "false") shape, low⟩
  | .cJSON_True, depth, levels + 1, b, rest, shape, stops, low, enough => by
      simp only [text] at shape
      have no_null : reads b (ascii "null") = false :=
        reads_other (c := 116) shape 110 _ (by decide)
      have no_false : reads b (ascii "false") = false :=
        reads_other (c := 116) shape 102 _ (by decide)
      rw [parse_value, if_neg (by simp [no_null]), if_neg (by simp [no_false]),
        if_pos (reads_literal _ shape)]
      exact ⟨rfl, advance_before (ascii "true") shape, low⟩
  | .cJSON_Number (.finite d), depth, levels + 1, b, rest, shape, stops, low, enough =>
      (parse_value_number granted levels d (by simpa only [text] using shape) stops).imp
        (fun result read => ⟨read.1, read.2, low⟩) fun stop => False.elim
  | .cJSON_Number (.infinite negative), depth, levels + 1, b, rest, shape, stops, low, enough =>
      (parse_value_null granted levels (by simpa only [text, number_text] using shape)).imp
        (fun result read => ⟨read.1, read.2, low⟩) fun stop => False.elim
  | .cJSON_Number .nan, depth, levels + 1, b, rest, shape, stops, low, enough =>
      (parse_value_null granted levels (by simpa only [text, number_text] using shape)).imp
        (fun result read => ⟨read.1, read.2, low⟩) fun stop => False.elim
  | .cJSON_String string, depth, levels + 1, b, rest, shape, stops, low, enough => by
      simp only [text] at shape
      have opened : b.remaining = 34 :: (escape string.val ++ 34 :: rest) := by
        simpa [quoted] using shape
      obtain ⟨no_null, no_false, no_true⟩ := reads_no_word opened (by decide)
      rw [parse_value, if_neg (by simp [no_null]), if_neg (by simp [no_false]),
        if_neg (by simp [no_true]), if_pos (by simp [looks_at_remaining, opened])]
      refine Ends.bind ((parse_string_quoted all string shape).imp (fun _ read => read)
        fun stop => False.elim) ?_
      rintro ⟨read, b'⟩ ⟨rfl, before⟩
      exact ⟨rfl, before, low⟩
  | .cJSON_Array child, depth, levels + 1, b, rest, shape, stops, low, enough => by
      have opened : b.remaining = 91 :: (elements_text format (depth + 1) child ++ 93 :: rest) := by
        simpa [text] using shape
      obtain ⟨no_null, no_false, no_true⟩ := reads_no_word opened (by decide)
      have digit : b.content[b.offset]? = some 91 := by
        rw [← List.head?_drop, ← parse_buffer.remaining, opened]
        rfl
      rw [parse_value, if_neg (by simp [no_null]), if_neg (by simp [no_false]),
        if_neg (by simp [no_true]), if_neg (by simp [looks_at, digit]),
        if_neg (by simp only [looks_at, digit]; decide), if_pos (by simp [looks_at, digit]),
        parse_array, nesting]
      by_cases deepest : b.depth ≥ CJSON_NESTING_LIMIT
      · rw [if_pos deepest, ends_error]
        omega
      rw [if_neg deepest]
      have first : Ends (· = 91) (fun _ => CJSON_NESTING_LIMIT < b.depth + (nesting_elements child + 1))
          (byte { b with depth := b.depth + 1 }) := by
        rw [show byte { b with depth := b.depth + 1 } = .ok 91 from byte_remaining opened]
        exact rfl
      have behind : (parse_buffer.advance { b with depth := b.depth + 1 } 1).remaining =
          elements_text format (depth + 1) child ++ 93 :: rest := remaining_advance [91] opened
      apply Ends.bind first
      rintro _ rfl
      dsimp only
      rw [if_neg (by decide)]
      cases child with
      | nil =>
          obtain ⟨content, deep, remaining⟩ := skip_nothing behind (by decide)
          rw [if_pos (by simp [looks_at_remaining, remaining])]
          refine ⟨rfl, ⟨content, ?_, remaining_advance [93] remaining⟩, ?_⟩
          · dsimp only
            rw [deep]
            rfl
          · simp only [nesting_elements]
            omega
      | cons item next =>
          obtain ⟨c, others, first_shape, black, no_bracket, -⟩ := text_start format (depth + 1) item
          have start : ∃ tail, elements_text format (depth + 1) (item :: next) ++ 93 :: rest =
              c :: tail := ⟨_, by rw [elements_text, first_shape]; rfl⟩
          obtain ⟨tail, start⟩ := start
          have unskipped : (elements_text format (depth + 1) (item :: next) ++ 93 :: rest).dropWhile
              white = elements_text format (depth + 1) (item :: next) ++ 93 :: rest := by
            rw [start]
            exact List.dropWhile_cons_of_neg (by simpa [white] using black)
          obtain ⟨⟨content, deep, remaining⟩, further⟩ := skip_before (b := parse_buffer.advance
            { b with depth := b.depth + 1 } 1) (by rw [behind, unskipped, start])
          generalize buffer_skip_whitespace (parse_buffer.advance
            { b with depth := b.depth + 1 } 1) = b₁ at content deep remaining further ⊢
          dsimp only [parse_buffer.advance] at content deep further
          obtain ⟨back, inside⟩ := step_back remaining (by omega)
          rw [if_neg (by simpa [looks_at_remaining, remaining] using no_bracket), if_neg inside]
          have room : (item :: next).length ≤ b₁.content.length := by
            have long := elements_text_length format (depth + 1) (item :: next)
            have part : b₁.remaining.length ≤ b₁.content.length := by
              rw [parse_buffer.remaining, List.length_drop]
              omega
            rw [remaining, ← start, List.length_append, List.length_cons] at part
            omega
          have listed := parse_elements_text all format (item :: next) (depth + 1) levels
            b₁.content.length [] (b := { b₁ with offset := b₁.offset - 1 }) (by simp)
            (by rw [back, ← start, unskipped]) room
            (by dsimp only; omega) (by dsimp only; omega)
          refine Ends.bind (listed.imp (fun _ good => good)
            fun stop deeper => by dsimp only at deeper; omega) ?_
          rintro ⟨read, b₂⟩ ⟨rfl, ⟨content₂, deep₂, remaining₂⟩, shallow⟩
          dsimp only at content₂ deep₂ remaining₂ shallow
          refine ⟨rfl, ⟨content₂.trans content, ?_, remaining_advance [93] remaining₂⟩, by omega⟩
          dsimp only
          rw [deep₂, deep]
          rfl
  | .cJSON_Object child, depth, levels + 1, b, rest, shape, stops, low, enough => by
      set blank := if format then tabs depth else [] with blank_def
      have blanks : ∀ c ∈ blank, white c := by
        intro c member
        cases format with
        | false => simp [blank_def] at member
        | true =>
            rw [List.eq_of_mem_replicate member]
            decide
      have opened : b.remaining = 123 :: ((if format then [10] else []) ++
          (members_text format (depth + 1) child ++ (blank ++ 125 :: rest))) := by
        simpa [text] using shape
      have found : b.content[b.offset]? = some 123 := by
        rw [← List.head?_drop, ← parse_buffer.remaining, opened]
        rfl
      obtain ⟨no_null, no_false, no_true⟩ := reads_no_word opened (by decide)
      rw [parse_value, if_neg (by simp [no_null]), if_neg (by simp [no_false]),
        if_neg (by simp [no_true]), if_neg (by simp [looks_at, found]),
        if_neg (by simp only [looks_at, found]; decide), if_neg (by simp [looks_at, found]),
        if_pos (by simp [looks_at, found]), parse_object, nesting]
      by_cases deepest : b.depth ≥ CJSON_NESTING_LIMIT
      · rw [if_pos deepest, ends_error]
        omega
      rw [if_neg deepest]
      have first : looks_at { b with depth := b.depth + 1 } 123 = true := by simp [looks_at, found]
      have behind : (parse_buffer.advance { b with depth := b.depth + 1 } 1).remaining.dropWhile
          white = (members_text format (depth + 1) child ++ (blank ++ 125 :: rest)).dropWhile
            white := by
        rw [show (parse_buffer.advance { b with depth := b.depth + 1 } 1).remaining = _ from
          remaining_advance [123] opened]
        exact List.dropWhile_append_of_pos (by cases format <;> decide +kernel)
      dsimp only
      rw [if_neg (by simp [first])]
      cases child with
      | nil =>
          rw [members_text, List.nil_append, drop_white blanks (by decide)] at behind
          obtain ⟨⟨content, deep, remaining⟩, -⟩ := skip_before behind
          rw [if_pos (by simp [looks_at_remaining, remaining])]
          refine ⟨rfl, ⟨content, ?_, remaining_advance [125] remaining⟩, ?_⟩
          · dsimp only
            rw [deep]
            rfl
          · simp only [nesting_members]
            omega
      | cons member next =>
          have start : ∃ tail, (members_text format (depth + 1) (member :: next) ++
              (blank ++ 125 :: rest)).dropWhile white = 34 :: tail := by
            simp only [members_text, quoted, List.append_assoc, List.cons_append]
            refine ⟨_, drop_white (fun c listed => ?_) (by decide)⟩
            cases format with
            | false => simp at listed
            | true =>
                rw [List.eq_of_mem_replicate listed]
                decide
          obtain ⟨tail, start⟩ := start
          obtain ⟨⟨content, deep, remaining⟩, further⟩ := skip_before (behind.trans start)
          generalize buffer_skip_whitespace (parse_buffer.advance
            { b with depth := b.depth + 1 } 1) = b₁ at content deep remaining further ⊢
          dsimp only [parse_buffer.advance] at content deep further
          obtain ⟨back, inside⟩ := step_back remaining (by omega)
          rw [if_neg (by simp [looks_at_remaining, remaining]), if_neg inside]
          have room : (member :: next).length ≤ b₁.content.length := by
            have long := members_text_length format (depth + 1) (member :: next)
            have part : b.remaining.length ≤ b.content.length := by
              rw [parse_buffer.remaining, List.length_drop]
              omega
            rw [opened] at part
            simp only [List.length_append, List.length_cons] at part long ⊢
            rw [content]
            omega
          have listed := parse_members_text all format (member :: next) (depth + 1) levels
            b₁.content.length [] (b := { b₁ with offset := b₁.offset - 1 }) (by simp) blanks
            (by rw [back, start]; exact List.dropWhile_cons_of_neg (by decide)) room (by dsimp only; omega) (by dsimp only; omega)
          refine Ends.bind (listed.imp (fun _ good => good)
            fun stop deeper => by dsimp only at deeper; omega) ?_
          rintro ⟨read, b₂⟩ ⟨rfl, ⟨content₂, deep₂, remaining₂⟩, shallow⟩
          dsimp only at content₂ deep₂ remaining₂ shallow
          refine ⟨rfl, ⟨content₂.trans content, ?_, remaining_advance [125] remaining₂⟩, by omega⟩
          dsimp only
          rw [deep₂, deep]
          rfl

theorem parse_elements_text (all : ∀ n, granted n) (format : Bool) : ∀ (child : List Item)
    (depth levels rounds : Nat) (head : List Item) {b : parse_buffer} {rest : List UInt8},
    child ≠ [] →
    (b.advance 1).remaining.dropWhile white = elements_text format depth child ++ 93 :: rest →
    child.length ≤ rounds → b.depth ≤ CJSON_NESTING_LIMIT →
    CJSON_NESTING_LIMIT + 1 ≤ b.depth + levels →
    Ends (fun result => result.1 = head ++ reread_elements child ∧ Before b result.2 (93 :: rest) ∧
        b.depth + nesting_elements child ≤ CJSON_NESTING_LIMIT)
      (fun _ => CJSON_NESTING_LIMIT < b.depth + nesting_elements child)
      (parse_elements granted (parse_value granted levels) rounds head b)
  | [], depth, levels, rounds, head, b, rest, some_item, shape, enough, low, levels_left => by
      contradiction
  | item :: next, depth, levels, 0, head, b, rest, some_item, shape, enough, low, levels_left => by
      simp at enough
  | item :: next, depth, levels, rounds + 1, head, b, rest, some_item, shape, enough, low,
      levels_left => by
      rw [parse_elements, allocate_granted all]
      obtain ⟨c, others, text_shape, black, -⟩ := text_start format depth item
      set back := (if next = [] then [] else 44 :: if format then [32] else []) ++
        (elements_text format depth next ++ 93 :: rest) with back_def
      have start : (b.advance 1).remaining.dropWhile white = c :: (others ++ back) := by
        rw [← List.cons_append, ← text_shape, back_def]
        simpa [elements_text] using shape
      obtain ⟨⟨content, deep, remaining⟩, -⟩ := skip_before (b := parse_buffer.advance
        { b with requests := b.requests + 1, live := b.live + 1 } 1) start
      rw [← List.cons_append, ← text_shape] at remaining
      have same : b.depth = (buffer_skip_whitespace (parse_buffer.advance
        { b with requests := b.requests + 1, live := b.live + 1 } 1)).depth := deep.symm
      -- what follows the element
      obtain ⟨after, tail, back_shape, separator⟩ : ∃ after tail, back = after :: tail ∧
          (next = [] ∧ after = 93 ∧ tail = rest ∨ next ≠ [] ∧ after = 44 ∧
            tail.dropWhile white = elements_text format depth next ++ 93 :: rest) := by
        cases next with
        | nil => exact ⟨93, rest, by simp [back_def, elements_text], .inl ⟨rfl, rfl, rfl⟩⟩
        | cons second next =>
            obtain ⟨c, others, shape, black, -⟩ := text_start format depth second
            refine ⟨44, _, by rw [back_def, if_neg (by simp)]; rfl, .inr ⟨by simp, rfl, ?_⟩⟩
            rw [elements_text, shape, List.cons_append, List.cons_append, List.cons_append]
            exact drop_white (by cases format <;> decide +kernel) black
      have value := parse_value_text all format item depth levels remaining
        (by rw [back_shape]; exact stops_brackets (by tauto) tail) (by omega) (by omega)
      rw [← same] at value
      dsimp only [release, bind, Except.bind]
      refine Ends.bind (release_deep (blocks_elements head + 1) (value.imp
        (fun _ good => good) fun stop deeper => ?_)) ?_
      · simp only [nesting_elements]
        omega
      rintro ⟨read, b₂⟩ ⟨rfl, ⟨content₂, deep₂, remaining₂⟩, shallow⟩
      dsimp only at content₂ deep₂ remaining₂ ⊢
      rw [back_shape] at remaining₂
      obtain ⟨content₃, deep₃, remaining₃⟩ := skip_nothing remaining₂ (by
        rcases separator with ⟨-, rfl, -⟩ | ⟨-, rfl, -⟩ <;> decide)
      rcases separator with ⟨rfl, rfl, rfl⟩ | ⟨more, rfl, blank⟩
      · rw [if_neg (by simp [looks_at_remaining, remaining₃]),
          if_pos (by simp [looks_at_remaining, remaining₃])]
        refine ⟨by simp [reread_elements], ⟨?_, ?_, remaining₃⟩, ?_⟩
        · rw [content₃, content₂, content]
          rfl
        · rw [deep₃, deep₂, deep]
          rfl
        · simp only [nesting_elements]
          omega
      · rw [if_pos (by simp [looks_at_remaining, remaining₃])]
        have depth₃ := (deep₃.trans deep₂).trans same.symm
        have ahead : ((buffer_skip_whitespace b₂).advance 1).remaining = tail :=
          remaining_advance [44] remaining₃
        have others := parse_elements_text all format next depth levels rounds
          (head ++ [reread item]) (b := buffer_skip_whitespace b₂) more
          (by rw [ahead]; exact blank)
          (by simpa using enough) (by rw [depth₃]; exact low) (by rw [depth₃]; exact levels_left)
        rw [depth₃] at others
        refine others.imp ?_ fun stop deeper => ?_
        · rintro result ⟨listed, ⟨content₄, deep₄, remaining₄⟩, nested⟩
          refine ⟨by rw [listed]; simp [reread_elements], ⟨?_, ?_, remaining₄⟩, ?_⟩
          · rw [content₄, content₃, content₂, content]
            rfl
          · rw [deep₄, depth₃]
          · simp only [nesting_elements]
            omega
        · simp only [nesting_elements]
          omega

theorem parse_members_text (all : ∀ n, granted n) (format : Bool) :
    ∀ (child : List (CString × Item)) (depth levels rounds : Nat) (head : List (CString × Item))
    {b : parse_buffer} {blank rest : List UInt8}, child ≠ [] → (∀ c ∈ blank, white c) →
    (b.advance 1).remaining.dropWhile white =
      (members_text format depth child ++ (blank ++ 125 :: rest)).dropWhile white →
    child.length ≤ rounds → b.depth ≤ CJSON_NESTING_LIMIT →
    CJSON_NESTING_LIMIT + 1 ≤ b.depth + levels →
    Ends (fun result => result.1 = head ++ reread_members child ∧ Before b result.2 (125 :: rest) ∧
        b.depth + nesting_members child ≤ CJSON_NESTING_LIMIT)
      (fun _ => CJSON_NESTING_LIMIT < b.depth + nesting_members child)
      (parse_members granted (parse_value granted levels) rounds head b)
  | [], depth, levels, rounds, head, b, blank, rest, some_item, blanks, shape, enough, low,
      levels_left => by
      contradiction
  | (string, item) :: next, depth, levels, 0, head, b, blank, rest, some_item, blanks, shape, enough,
      low, levels_left => by
      simp at enough
  | (string, item) :: next, depth, levels, rounds + 1, head, b, blank, rest, some_item, blanks, shape,
      enough, low, levels_left => by
      rw [parse_members, allocate_granted all]
      set back := (if next = [] then [] else [44]) ++ ((if format then [10] else []) ++
        (members_text format depth next ++ (blank ++ 125 :: rest))) with back_def
      set space := if format then [(9 : UInt8)] else [] with space_def
      have start : (b.advance 1).remaining.dropWhile white =
          34 :: (escape string.val ++ [34] ++ 58 :: (space ++ (text format depth item ++ back))) := by
        rw [shape, members_text]
        simp only [List.append_assoc, quoted, List.cons_append]
        exact drop_white (by
          split
          · intro c member
            rw [List.eq_of_mem_replicate member]
            decide
          · simp) (by decide)
      obtain ⟨⟨content, deep, remaining⟩, -⟩ := skip_before (b := parse_buffer.advance
        { b with requests := b.requests + 1, live := b.live + 1 } 1) start
      have same : b.depth = (buffer_skip_whitespace (parse_buffer.advance
        { b with requests := b.requests + 1, live := b.live + 1 } 1)).depth := deep.symm
      dsimp only [release, bind, Except.bind]
      generalize buffer_skip_whitespace (parse_buffer.advance
        { b with requests := b.requests + 1, live := b.live + 1 } 1) = b₁ at content remaining same ⊢
      -- the name, and the colon behind it
      have name := @parse_string_quoted granted b₁ (58 :: (space ++
        (text format depth item ++ back))) all string (by rw [remaining]; simp [quoted])
      refine Ends.bind (release_deep (blocks_members head + 1) (name.imp
        (fun _ good => good) fun stop => False.elim)) ?_
      rintro ⟨named, b₂⟩ ⟨rfl, ⟨content₂, deep₂, remaining₂⟩⟩
      dsimp only at content₂ deep₂ remaining₂ ⊢
      obtain ⟨content₃, deep₃, remaining₃⟩ := skip_nothing remaining₂ (by decide)
      rw [if_neg (by simp [looks_at_remaining, remaining₃])]
      obtain ⟨c, others, text_shape, black, -⟩ := text_start format depth item
      have behind : ((buffer_skip_whitespace b₂).advance 1).remaining.dropWhile white =
          c :: (others ++ back) := by
        rw [show ((buffer_skip_whitespace b₂).advance 1).remaining = _ from
          remaining_advance [58] remaining₃, text_shape]
        exact drop_white (by rw [space_def]; cases format <;> decide +kernel) black
      obtain ⟨⟨content₄, deep₄, remaining₄⟩, -⟩ := skip_before behind
      rw [← List.cons_append, ← text_shape] at remaining₄
      have depth₄ := (deep₄.trans (deep₃.trans deep₂)).trans same.symm
      -- what follows the value
      obtain ⟨after, tail, back_shape, separator⟩ : ∃ after tail,
          back.dropWhile white = after :: tail ∧ (next = [] ∧ after = 125 ∧ tail = rest ∨
            next ≠ [] ∧ after = 44 ∧ tail.dropWhile white =
              (members_text format depth next ++ (blank ++ 125 :: rest)).dropWhile white) := by
        have newline : ∀ c ∈ (if format then [10] else ([] : List UInt8)), white c := by
          cases format <;> decide +kernel
        cases next with
        | nil =>
            refine ⟨125, rest, ?_, .inl ⟨rfl, rfl, rfl⟩⟩
            rw [back_def, if_pos rfl, members_text, List.nil_append, List.nil_append,
              ← List.append_assoc]
            refine drop_white (fun c member => ?_) (by decide)
            exact (List.mem_append.mp member).elim (newline c) (blanks c)
        | cons second next =>
            refine ⟨44, _, by rw [back_def, if_neg (by simp)]; rfl, .inr ⟨by simp, rfl, ?_⟩⟩
            exact List.dropWhile_append_of_pos newline
      have stops : Stops back :=
        stops_skipped back_shape (by rcases separator with ⟨-, rfl, -⟩ | ⟨-, rfl, -⟩ <;> decide)
      have value := parse_value_text all format item depth levels remaining₄
        stops (by omega) (by omega)
      rw [depth₄] at value
      refine Ends.bind (release_deep (blocks_members head + 2) (value.imp
        (fun _ good => good) fun stop deeper => ?_)) ?_
      · simp only [nesting_members]
        omega
      rintro ⟨read, b₅⟩ ⟨rfl, ⟨content₅, deep₅, remaining₅⟩, shallow⟩
      dsimp only at content₅ deep₅ remaining₅ ⊢
      obtain ⟨⟨content₆, deep₆, remaining₆⟩, -⟩ := skip_before (by rw [remaining₅, back_shape])
      have depth₆ := (deep₆.trans deep₅).trans depth₄
      have content_same : (buffer_skip_whitespace b₅).content = b.content := by
        rw [content₆, content₅, content₄]
        exact (content₃.trans content₂).trans content
      rcases separator with ⟨rfl, rfl, rfl⟩ | ⟨more, rfl, following⟩
      · rw [if_neg (by simp [looks_at_remaining, remaining₆]),
          if_pos (by simp [looks_at_remaining, remaining₆])]
        refine ⟨by simp [reread_members], ⟨content_same, depth₆, remaining₆⟩, ?_⟩
        simp only [nesting_members]
        omega
      · rw [if_pos (by simp [looks_at_remaining, remaining₆])]
        have ahead : ((buffer_skip_whitespace b₅).advance 1).remaining = tail :=
          remaining_advance [44] remaining₆
        have others := parse_members_text all format next depth levels rounds
          (head ++ [(named, reread item)]) (b := buffer_skip_whitespace b₅) more blanks
          (by rw [ahead]; exact following)
          (by simpa using enough) (by rw [depth₆]; exact low) (by rw [depth₆]; exact levels_left)
        rw [depth₆] at others
        refine others.imp ?_ fun stop deeper => ?_
        · rintro result ⟨listed, ⟨content₇, deep₇, remaining₇⟩, nested⟩
          refine ⟨by rw [listed]; simp [reread_members], ⟨content₇.trans content_same,
            deep₇.trans depth₆, remaining₇⟩, ?_⟩
          simp only [nesting_members]
          omega
        · simp only [nesting_members]
          omega

end

/-- A printed tree is read back, unless it is nested too deeply. -/
theorem cJSON_Parse_text (all : ∀ n, granted n) (format : Bool) (item : Item) :
    cJSON_Parse granted ⟨text format 0 item, text_nonzero format 0 item⟩ =
      if nesting item ≤ CJSON_NESTING_LIMIT then
        .ok (some (reread item), blocks (reread item))
      else .ok (none, 0) := by
  obtain ⟨c, others, shape, black, -, -, mark⟩ := text_start format 0 item
  have opened : (parse_buffer.remaining ⟨text format 0 item ++ [0], 0, 0, 1, 1⟩) =
      c :: (others ++ [0]) := by
    simp [parse_buffer.remaining, shape]
  have unmarked : skip_utf8_bom ⟨text format 0 item ++ [0], 0, 0, 1, 1⟩ =
      ⟨text format 0 item ++ [0], 0, 0, 1, 1⟩ := by
    rw [skip_utf8_bom, reads_other opened 0xEF _ mark, if_neg (by simp)]
  obtain ⟨content, deep, remaining⟩ := skip_nothing opened black
  rw [← List.cons_append, ← shape] at remaining
  have read := parse_value_text all format item 0 (CJSON_NESTING_LIMIT + 1)
    remaining (stops_brackets (by decide) []) (by rw [deep]; simp) (by omega)
  rw [deep] at read
  have safe := cJSON_Parse_safe granted ⟨text format 0 item, text_nonzero format 0 item⟩
  unfold cJSON_Parse cJSON_ParseWithLengthOpts at safe ⊢
  rw [if_neg (by simp), allocate_granted all] at safe ⊢
  dsimp only at safe ⊢
  simp only [Nat.zero_add, Int.zero_add, unmarked] at safe ⊢
  cases ended : parse_value granted (CJSON_NESTING_LIMIT + 1)
      (buffer_skip_whitespace ⟨text format 0 item ++ [0], 0, 0, 1, 1⟩) with
  | ok result =>
      obtain ⟨same, -, shallow⟩ := read.of_ok ended
      rw [if_pos (by simpa using shallow)]
      rw [ended] at safe
      rcases safe with ⟨found, returned, -⟩ | returned
      · simp only [Bool.false_eq_true, false_and, if_false, Except.ok.injEq, Prod.mk.injEq,
          Option.some.injEq] at returned ⊢
        obtain ⟨rfl, live⟩ := returned
        exact ⟨same, by rw [live, same]⟩
      · simp at returned
  | error stop =>
      have deeper := read.of_error ended
      rw [if_neg (by simpa using deeper)]
      rw [ended] at safe
      cases stop with
      | refused live =>
          rcases safe with ⟨found, returned, -⟩ | returned
          · simp at returned
          · exact returned
      | fault => simp at safe
      | unfinished => simp at safe

theorem cJSON_Parse_text_array :
    cJSON_Parse (fun _ => true) ⟨ascii "[null, []]", word_nonzero rfl⟩ =
      .ok (some (.cJSON_Array [.cJSON_NULL, .cJSON_Array []]), 3) :=
  (@cJSON_Parse_text (fun _ => true) (fun _ => rfl) true
    (.cJSON_Array [.cJSON_NULL, .cJSON_Array []])).trans (if_pos (by decide))

end Reading

end Iperf.CjsonRoundtrip
