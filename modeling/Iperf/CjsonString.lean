import Iperf.AuthToken
import Mathlib.Tactic.Ring

/-!
The strings of cJSON. The printer escapes quotes, backslashes and control characters;
the parser measures the literal first, allocates for it, and goes over it again. The
second pass may read the literal otherwise than the first one: an invalid `\u` takes
six characters whatever they are.
-/

namespace Iperf.CjsonString

open FormattedText AuthToken

section Printing

def hex_digit (value : Nat) : UInt8 := UInt8.ofNat (if value < 10 then 48 + value else 87 + value)

/-- What `sprintf` writes for `u%04x`, up to the byte that ends it. -/
def u04x (c : UInt8) : List UInt8 :=
  [117, 48, 48, hex_digit (c.toNat / 16), hex_digit (c.toNat % 16)]

/-- The letter behind the backslash, where the escape sequence has one. -/
def letter (c : UInt8) : Option UInt8 :=
  if c = 92 then some 92
  else if c = 34 then some 34
  else if c = 8 then some 98
  else if c = 12 then some 102
  else if c = 10 then some 110
  else if c = 13 then some 114
  else if c = 9 then some 116
  else none

/-- A character of the string, as it stands between the quotes. -/
def escaped (c : UInt8) : List UInt8 :=
  if c > 31 ∧ c ≠ 34 ∧ c ≠ 92 then [c]
  else
    match letter c with
    | some after => [92, after]
    | none => 92 :: u04x c

def escape (text : List UInt8) : List UInt8 := text.flatMap escaped

/-- How many characters the escape sequence of `c` adds. -/
def escape_characters (c : UInt8) : Nat :=
  if (letter c).isSome then 1 else if c < 32 then 5 else 0

end Printing

section Parsing

def hex_value (c : UInt8) : Option Nat :=
  if 48 ≤ c ∧ c ≤ 57 then some (c.toNat - 48)
  else if 65 ≤ c ∧ c ≤ 70 then some (10 + c.toNat - 65)
  else if 97 ≤ c ∧ c ≤ 102 then some (10 + c.toNat - 97)
  else none

/-- Of the first four bytes; any other digit makes it zero. -/
def parse_hex4 (input : List UInt8) : Nat :=
  ((input.take 4).foldlM (fun h c => (hex_value c).map (h * 16 + ·)) 0).getD 0

/-- The last bytes of a sequence, six bits in each. -/
def continuation : Nat → Nat → List UInt8
  | 0, _ => []
  | count + 1, codepoint =>
      continuation count (codepoint >>> 6) ++ [UInt8.ofNat ((codepoint ||| 0x80) &&& 0xBF)]

def utf8 (codepoint : Nat) : List UInt8 :=
  if codepoint < 0x80 then [UInt8.ofNat (codepoint &&& 0x7F)]
  else if codepoint < 0x800 then
    UInt8.ofNat ((codepoint >>> 6 ||| 0xC0) &&& 0xFF) :: continuation 1 codepoint
  else if codepoint < 0x10000 then
    UInt8.ofNat ((codepoint >>> 12 ||| 0xE0) &&& 0xFF) :: continuation 2 codepoint
  else
    UInt8.ofNat ((codepoint >>> 18 ||| 0xF0) &&& 0xFF) :: continuation 3 codepoint

/-- On the bytes of the literal behind the backslash: what is written, and how many bytes
the sequence takes, with the backslash. -/
def utf16_literal_to_utf8 (input : List UInt8) : Option (List UInt8 × Nat) :=
  if input.length < 5 then none
  else
    let first_code := parse_hex4 (input.drop 1)
    if 0xDC00 ≤ first_code ∧ first_code ≤ 0xDFFF then none
    else if 0xD800 ≤ first_code ∧ first_code ≤ 0xDBFF then
      if input.length < 11 then none
      else if (input.drop 5).take 2 ≠ [92, 117] then none
      else
        let second_code := parse_hex4 (input.drop 7)
        if second_code < 0xDC00 ∨ second_code > 0xDFFF then none
        else
          some (utf8 (0x10000 + ((first_code &&& 0x3FF) <<< 10 ||| second_code &&& 0x3FF)), 12)
    else some (utf8 first_code, 6)

/-- The bytes of the literal behind a backslash. Behind the last one stands the quote. -/
def escape_sequence (input : List UInt8) : Option (List UInt8 × Nat) :=
  let c := input.headD 34
  if c = 98 then some ([8], 2)
  else if c = 102 then some ([12], 2)
  else if c = 110 then some ([10], 2)
  else if c = 114 then some ([13], 2)
  else if c = 116 then some ([9], 2)
  else if c = 34 ∨ c = 92 ∨ c = 47 then some ([c], 2)
  else if c = 117 then utf16_literal_to_utf8 input
  else none

/-- What is written to the output, and whether the whole literal was read. The number
counts the bytes that an escape sequence has taken already. -/
def unescape : Nat → List UInt8 → List UInt8 × Bool
  | _, [] => ([], true)
  | taken + 1, _ :: rest => unescape taken rest
  | 0, c :: rest =>
      if c ≠ 92 then (c :: (unescape 0 rest).1, (unescape 0 rest).2)
      else
        match escape_sequence rest with
        | none => ([], false)
        | some (bytes, sequence_length) =>
            (bytes ++ (unescape (sequence_length - 1) rest).1,
              (unescape (sequence_length - 1) rest).2)

/-- From the byte behind the first quote: the length of the literal, and the bytes of it
that are skipped. -/
def string_end : List UInt8 → Option (Nat × Nat)
  | [] => none
  | c :: rest =>
      if c = 34 then some (0, 0)
      else if c = 92 then
        match rest with
        | [] => none
        | _ :: rest => (string_end rest).map fun found => (found.1 + 2, found.2 + 1)
      else (string_end rest).map fun found => (found.1 + 1, found.2)

/-- The size of the output; `length` is that of the literal without its first quote. -/
def allocation_length (length skipped_bytes : Nat) : Nat := length + 1 - skipped_bytes

end Parsing

section Length
variable {input : List UInt8}

/-- The escape sequences of a literal, when an odd character is behind a backslash. -/
def escapes : Bool → List UInt8 → Nat
  | _, [] => 0
  | true, _ :: rest => escapes false rest
  | false, c :: rest => if c = 92 then escapes true rest + 1 else escapes false rest

theorem escapes_one (behind : Bool) (c : UInt8) (rest : List UInt8) :
    ∃ next, escapes behind (c :: rest) ≤ escapes next rest + 1 := by
  cases behind with
  | true => exact ⟨false, by simp [escapes]⟩
  | false =>
      by_cases escape : c = 92
      · exact ⟨true, by simp [escapes, escape]⟩
      · exact ⟨false, by simp [escapes, escape]⟩

/-- Two bytes hold one escape sequence at most. -/
theorem escapes_two (behind : Bool) (a b : UInt8) (rest : List UInt8) :
    ∃ next, escapes behind (a :: b :: rest) ≤ escapes next rest + 1 := by
  cases behind with
  | true => exact escapes_one false b rest
  | false =>
      by_cases escape : a = 92
      · exact ⟨false, by simp [escapes, escape]⟩
      · obtain ⟨next, bound⟩ := escapes_one false b rest
        exact ⟨next, by simpa [escapes, escape] using bound⟩

theorem escapes_drop (input : List UInt8) (behind : Bool) (pairs : Nat)
    (enough : 2 * pairs ≤ input.length) :
    ∃ next, escapes behind input ≤ escapes next (input.drop (2 * pairs)) + pairs := by
  induction pairs generalizing input behind with
  | zero => exact ⟨behind, by simp⟩
  | succ pairs ih =>
      match input, enough with
      | a :: b :: rest, enough =>
          obtain ⟨middle, first⟩ := escapes_two behind a b rest
          obtain ⟨next, others⟩ := ih rest middle (by simp at enough; omega)
          refine ⟨next, ?_⟩
          rw [show 2 * (pairs + 1) = 2 * pairs + 1 + 1 by ring, List.drop_succ_cons,
            List.drop_succ_cons]
          omega

theorem continuation_length (count codepoint : Nat) :
    (continuation count codepoint).length = count := by
  induction count generalizing codepoint with
  | zero => rfl
  | succ count ih => simp [continuation, ih]

theorem utf8_length (codepoint : Nat) : (utf8 codepoint).length ≤ 4 ∧
    (codepoint < 0x10000 → (utf8 codepoint).length ≤ 3) := by
  unfold utf8
  split
  · simp
  · split
    · simp [continuation_length]
    · split
      · simp [continuation_length]
      · simp only [List.length_cons, continuation_length]
        omega

theorem hex_value_small {c : UInt8} {digit : Nat} (read : hex_value c = some digit) :
    digit < 16 := by
  simp only [hex_value, UInt8.le_iff_toNat_le] at read
  have constants : (48 : UInt8).toNat = 48 ∧ (57 : UInt8).toNat = 57 ∧ (65 : UInt8).toNat = 65 ∧
      (70 : UInt8).toNat = 70 ∧ (97 : UInt8).toNat = 97 ∧ (102 : UInt8).toNat = 102 :=
    ⟨rfl, rfl, rfl, rfl, rfl, rfl⟩
  grind

theorem hex_fold_small {digits : List UInt8} {start value : Nat}
    (read : digits.foldlM (fun h c => (hex_value c).map (h * 16 + ·)) start = some value) :
    value < (start + 1) * 16 ^ digits.length := by
  induction digits generalizing start with
  | nil =>
      have : start = value := by simpa using read
      simp [this]
  | cons c rest ih =>
      rw [List.foldlM_cons] at read
      cases digit : hex_value c with
      | none => simp [digit] at read
      | some d =>
          simp only [digit, Option.map_some, Option.bind_eq_bind, Option.bind_some] at read
          have small := hex_value_small digit
          calc value < (start * 16 + d + 1) * 16 ^ rest.length := ih read
            _ ≤ ((start + 1) * 16) * 16 ^ rest.length := Nat.mul_le_mul_right _ (by omega)
            _ = (start + 1) * 16 ^ (c :: rest).length := by rw [List.length_cons, pow_succ]; ring

theorem parse_hex4_small (input : List UInt8) : parse_hex4 input < 0x10000 := by
  unfold parse_hex4
  cases read : (input.take 4).foldlM (fun h c => (hex_value c).map (h * 16 + ·)) 0 with
  | none => decide
  | some value =>
      have small := hex_fold_small read
      have few : 16 ^ (input.take 4).length ≤ 16 ^ 4 :=
        Nat.pow_le_pow_right (by decide) (by simp)
      simp only [Option.getD_some]
      omega

theorem utf16_length {bytes : List UInt8} {taken : Nat}
    (read : utf16_literal_to_utf8 input = some (bytes, taken)) :
    ∃ pairs, taken = 2 * pairs ∧ bytes.length ≤ pairs ∧ 0 < pairs ∧ taken ≤ input.length + 1 := by
  unfold utf16_literal_to_utf8 at read
  split at read
  · cases read
  rename_i first
  dsimp only at read
  split at read
  · cases read
  split at read
  · split at read
    · cases read
    rename_i second
    split at read
    · cases read
    split at read
    · cases read
    cases read
    have written := (utf8_length
      (0x10000 + ((parse_hex4 (input.drop 1) &&& 0x3FF) <<< 10 |||
        parse_hex4 (input.drop 7) &&& 0x3FF))).1
    exact ⟨6, rfl, by omega, by decide, by omega⟩
  · cases read
    have written := (utf8_length (parse_hex4 (input.drop 1))).2 (parse_hex4_small _)
    exact ⟨3, rfl, written, by decide, by omega⟩

/-- A sequence writes half of the bytes that it takes at most. It ends in the literal, but
for a backslash that is the last byte of it. -/
theorem escape_sequence_length {bytes : List UInt8} {taken : Nat}
    (read : escape_sequence input = some (bytes, taken)) :
    ∃ pairs, taken = 2 * pairs ∧ bytes.length ≤ pairs ∧ 0 < pairs ∧
      (taken ≤ input.length + 1 ∨ (input = [] ∧ taken = 2)) := by
  have pair : ∀ c : UInt8, some ([c], 2) = some (bytes, taken) →
      ∃ pairs, taken = 2 * pairs ∧ bytes.length ≤ pairs ∧ 0 < pairs ∧
        (taken ≤ input.length + 1 ∨ (input = [] ∧ taken = 2)) := by
    intro c same
    cases same
    refine ⟨1, rfl, le_refl _, by decide, ?_⟩
    cases input with
    | nil => exact .inr ⟨rfl, rfl⟩
    | cons c rest => exact .inl (by simp)
  unfold escape_sequence at read
  dsimp only at read
  repeat' split at read
  all_goals first
    | exact pair _ read
    | exact absurd read (by simp)
    | skip
  obtain ⟨pairs, even, few, positive, within⟩ := utf16_length read
  exact ⟨pairs, even, few, positive, .inl within⟩

theorem escapes_length (behind : Bool) (input : List UInt8) :
    escapes behind input ≤ input.length := by
  induction input generalizing behind with
  | nil => simp [escapes]
  | cons c rest ih =>
      obtain ⟨next, step⟩ := escapes_one behind c rest
      have others := ih next
      rw [List.length_cons]
      omega

/-- Whatever the literal holds, its output fits in the memory for it. -/
theorem unescape_length (taken : Nat) (behind : Bool) (input : List UInt8) :
    (unescape taken input).1.length + escapes behind (input.drop taken) ≤
      (input.drop taken).length + 1 := by
  induction input generalizing taken behind with
  | nil => simp [unescape, escapes]
  | cons c rest ih =>
      cases taken with
      | succ taken => exact ih taken behind
      | zero =>
          rw [List.drop_zero]
          by_cases plain : c ≠ 92
          · obtain ⟨next, counted⟩ : ∃ next, escapes behind (c :: rest) = escapes next rest := by
              cases behind with
              | true => exact ⟨false, rfl⟩
              | false => exact ⟨false, by simp [escapes, plain]⟩
            have others := ih 0 next
            rw [List.drop_zero] at others
            simp only [unescape, if_pos plain, counted, List.length_cons]
            omega
          · simp only [unescape, if_neg plain]
            cases read : escape_sequence rest with
            | none =>
                have bound := escapes_length behind (c :: rest)
                simp only [List.length_nil]
                omega
            | some sequence =>
                obtain ⟨bytes, sequence_length⟩ := sequence
                obtain ⟨pairs, rfl, few, positive, within⟩ := escape_sequence_length read
                dsimp only
                rw [List.length_append]
                rcases within with inside | ⟨rfl, last⟩
                · obtain ⟨next, counted⟩ := escapes_drop (c :: rest) behind pairs inside
                  have others := ih (2 * pairs - 1) next
                  have shift : (c :: rest).drop (2 * pairs) = rest.drop (2 * pairs - 1) := by
                    rw [show 2 * pairs = 2 * pairs - 1 + 1 by omega]
                    rfl
                  rw [shift] at counted
                  simp only [List.length_drop, List.length_cons] at others inside ⊢
                  omega
                · have bound := escapes_length behind [c]
                  simp only [unescape, List.length_nil, List.length_singleton] at bound ⊢
                  omega

theorem string_end_shape {length skipped_bytes : Nat}
    (found : string_end input = some (length, skipped_bytes)) :
    input[length]? = some 34 ∧ escapes false (input.take length) = skipped_bytes := by
  fun_induction string_end input generalizing length skipped_bytes with
  | case1 => cases found
  | case2 rest =>
      cases found
      simp [escapes]
  | case3 => cases found
  | case4 quote first rest ih =>
      obtain ⟨⟨n, k⟩, others, same⟩ := Option.map_eq_some_iff.mp found
      cases same
      obtain ⟨stop, counted⟩ := ih others
      simp [escapes, stop, counted]
  | case5 c rest quote backslash ih =>
      obtain ⟨⟨n, k⟩, others, same⟩ := Option.map_eq_some_iff.mp found
      cases same
      obtain ⟨stop, counted⟩ := ih others
      simp [escapes, stop, counted, backslash]

/-- The output and the byte that ends it fit in what was allocated, also when the parser
gives up. -/
theorem unescape_fits {length skipped_bytes : Nat}
    (found : string_end input = some (length, skipped_bytes)) :
    (unescape 0 (input.take length)).1.length + 1 ≤ allocation_length length skipped_bytes + 1 := by
  obtain ⟨stop, counted⟩ := string_end_shape found
  obtain ⟨within, -⟩ := List.getElem?_eq_some_iff.mp stop
  have bound := unescape_length 0 false (input.take length)
  rw [List.drop_zero, counted, List.length_take] at bound
  rw [allocation_length]
  omega

end Length

section Roundtrip
variable {text rest : List UInt8}

theorem unescape_skip (front rest : List UInt8) :
    unescape front.length (front ++ rest) = unescape 0 rest := by
  induction front with
  | nil => rfl
  | cons c front ih => exact ih

theorem u04x_read : ∀ n < 32, parse_hex4 ((u04x (UInt8.ofNat n)).drop 1) = n ∧
    utf8 n = [UInt8.ofNat n] := by
  decide

/-- How a character stands in the literal, and that the parser reads it there. -/
theorem escaped_cases (c : UInt8) :
    (escaped c = [c] ∧ c ≠ 34 ∧ c ≠ 92) ∨
      (∃ after, escaped c = [92, after] ∧ ∀ rest, escape_sequence (after :: rest) = some ([c], 2)) ∨
      (escaped c = 92 :: u04x c ∧ ∀ rest, escape_sequence (u04x c ++ rest) = some ([c], 6)) := by
  by_cases plain : c > 31 ∧ c ≠ 34 ∧ c ≠ 92
  · exact .inl ⟨if_pos plain, plain.2⟩
  right
  cases short : letter c with
  | some after =>
      refine .inl ⟨after, by simp [escaped, plain, short], fun rest => ?_⟩
      unfold letter at short
      repeat' split at short
      all_goals first
        | (rename_i same; cases short; rw [same]; rfl)
        | cases short
  | none =>
      refine .inr ⟨by simp [escaped, plain, short], fun rest => ?_⟩
      have control : c.toNat < 32 := by
        simp only [letter] at short
        have limit : (31 : UInt8).toNat = 31 := rfl
        simp only [gt_iff_lt, UInt8.lt_iff_toNat_lt] at plain
        grind
      obtain ⟨read, written⟩ := u04x_read c.toNat control
      rw [UInt8.ofNat_toNat] at read written
      have digits : parse_hex4 ((u04x c ++ rest).drop 1) = c.toNat := by
        rw [← read]
        rfl
      have first : (u04x c ++ rest).headD 34 = 117 := rfl
      have enough : ¬ (u04x c ++ rest).length < 5 := by simp [u04x]
      unfold escape_sequence utf16_literal_to_utf8
      simp only [first, digits, if_neg enough, written]
      rw [if_neg (by omega : ¬ (0xDC00 ≤ c.toNat ∧ c.toNat ≤ 0xDFFF)),
        if_neg (by omega : ¬ (0xD800 ≤ c.toNat ∧ c.toNat ≤ 0xDBFF))]
      rfl

theorem unescape_plain {c : UInt8} (plain : c ≠ 92) :
    unescape 0 (c :: rest) = (c :: (unescape 0 rest).1, (unescape 0 rest).2) := if_pos plain

theorem unescape_sequence (sequence : List UInt8) {bytes : List UInt8}
    (read : escape_sequence (sequence ++ rest) = some (bytes, sequence.length + 1)) :
    unescape 0 (92 :: (sequence ++ rest)) =
      (bytes ++ (unescape 0 rest).1, (unescape 0 rest).2) := by
  have skipped := unescape_skip sequence rest
  rw [unescape, if_neg (by decide), read]
  simp only [Nat.add_sub_cancel, skipped]

theorem escape_cons (c : UInt8) (text : List UInt8) :
    escape (c :: text) = escaped c ++ escape text := rfl

theorem unescape_escape (text : List UInt8) : unescape 0 (escape text) = (text, true) := by
  induction text with
  | nil => rfl
  | cons c text ih =>
      rw [escape_cons]
      rcases escaped_cases c with ⟨shape, -, plain⟩ | ⟨after, shape, read⟩ | ⟨shape, read⟩
      · rw [shape, List.singleton_append, unescape_plain plain, ih]
      · rw [shape, List.cons_append, unescape_sequence [after] (read _), ih]
        rfl
      · rw [shape, List.cons_append, unescape_sequence _ (read _), ih]
        rfl

theorem string_end_plain {c : UInt8} (quote : c ≠ 34) (plain : c ≠ 92) :
    string_end (c :: rest) = (string_end rest).map fun found => (found.1 + 1, found.2) := by
  rw [string_end.eq_def]
  simp [quote, plain]

theorem string_end_sequence (c : UInt8) :
    string_end (92 :: c :: rest) = (string_end rest).map fun found => (found.1 + 2, found.2 + 1) := by
  rw [string_end.eq_def]
  rfl

theorem hex_digit_plain (value : Nat) (small : value < 16) :
    hex_digit value ≠ 34 ∧ hex_digit value ≠ 92 ∧ hex_digit value ≠ 0 := by
  have all : ∀ n < 16, hex_digit n ≠ 34 ∧ hex_digit n ≠ 92 ∧ hex_digit n ≠ 0 := by decide
  exact all value small

theorem string_end_escape (text rest : List UInt8) :
    ∃ skipped_bytes, string_end (escape text ++ 34 :: rest) =
      some ((escape text).length, skipped_bytes) := by
  induction text with
  | nil => exact ⟨0, by rw [string_end.eq_def]; rfl⟩
  | cons c text ih =>
      obtain ⟨skipped_bytes, found⟩ := ih
      rw [escape_cons, List.append_assoc]
      rcases escaped_cases c with ⟨shape, quote, plain⟩ | ⟨after, shape, read⟩ | ⟨shape, read⟩
      · refine ⟨skipped_bytes, ?_⟩
        rw [shape, List.singleton_append, string_end_plain quote plain, found]
        rfl
      · refine ⟨skipped_bytes + 1, ?_⟩
        rw [shape, List.cons_append, List.singleton_append, string_end_sequence, found]
        rfl
      · refine ⟨skipped_bytes + 1, ?_⟩
        have high := hex_digit_plain (c.toNat / 16) (by have := c.toNat_lt; omega)
        have low := hex_digit_plain (c.toNat % 16) (Nat.mod_lt _ (by decide))
        simp only [shape, u04x, List.cons_append, List.nil_append]
        rw [string_end_sequence, string_end_plain (by decide) (by decide),
          string_end_plain (by decide) (by decide), string_end_plain high.1 high.2.1,
          string_end_plain low.1 low.2.1, found]
        rfl

theorem letter_some {c after : UInt8} (short : letter c = some after) :
    (c = 92 ∨ c = 34 ∨ c.toNat < 32) ∧ after ≠ 0 := by
  unfold letter at short
  repeat' split at short
  all_goals first
    | (rename_i same; cases short; subst same; decide)
    | cases short

theorem escaped_length (c : UInt8) : (escaped c).length = 1 + escape_characters c := by
  have controls : (31 : UInt8).toNat = 31 ∧ (32 : UInt8).toNat = 32 := ⟨rfl, rfl⟩
  cases short : letter c with
  | some after =>
      have : ¬ (c > 31 ∧ c ≠ 34 ∧ c ≠ 92) := by
        rintro ⟨above, quote, plain⟩
        rw [gt_iff_lt, UInt8.lt_iff_toNat_lt] at above
        rcases (letter_some short).1 with same | same | control
        · exact plain same
        · exact quote same
        · omega
      simp [escaped, escape_characters, short, this]
  | none =>
      have special : c ≠ 34 ∧ c ≠ 92 := by
        simp only [letter] at short
        grind
      simp only [escaped, escape_characters, short, gt_iff_lt, UInt8.lt_iff_toNat_lt]
      by_cases above : c.toNat < 32
      · simp [u04x, controls, above, Nat.not_lt.mpr (Nat.le_of_lt_succ above)]
      · simp [controls, above, special, Nat.lt_of_succ_le (Nat.not_lt.mp above)]

/-- The printer reserves exactly the place that it needs. -/
theorem escape_length (text : List UInt8) :
    (escape text).length = text.length + (text.map escape_characters).sum := by
  induction text with
  | nil => rfl
  | cons c text ih =>
      rw [escape_cons, List.length_append, escaped_length, ih, List.length_cons, List.map_cons,
        List.sum_cons]
      omega

/-- Where nothing has to be escaped, the string is copied as it is. -/
theorem escape_plain (plain : (text.map escape_characters).sum = 0) : escape text = text := by
  induction text with
  | nil => rfl
  | cons c text ih =>
      rw [List.map_cons, List.sum_cons] at plain
      have alone := escaped_length c
      rw [show escape_characters c = 0 by omega] at alone
      have shape : escaped c = [c] := by
        rcases escaped_cases c with ⟨shape, -⟩ | ⟨after, shape, -⟩ | ⟨shape, -⟩
        · exact shape
        · rw [shape] at alone
          cases alone
        · rw [shape] at alone
          cases alone
      rw [escape_cons, shape, ih (by omega)]
      rfl

theorem escape_nonzero (nonzero : ∀ c ∈ text, c ≠ 0) : ∀ c ∈ escape text, c ≠ 0 := by
  intro byte member
  obtain ⟨c, listed, member⟩ := List.mem_flatMap.mp member
  have high := hex_digit_plain (c.toNat / 16) (by have := c.toNat_lt; omega)
  have low := hex_digit_plain (c.toNat % 16) (Nat.mod_lt _ (by decide))
  unfold escaped at member
  split at member
  · rw [List.mem_singleton] at member
    rw [member]
    exact nonzero c listed
  · split at member
    · rename_i after short
      have := (letter_some short).2
      grind
    · simp only [u04x] at member
      grind

end Roundtrip

end Iperf.CjsonString
