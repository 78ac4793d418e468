/-!
Base64. Three bytes are written as four characters of six bits each; a last group of one or
two bytes is filled up with `=`.
-/

namespace Iperf.Base64Text

section Code

/-- The character of a number below 64. -/
def symbol (digit : Nat) : UInt8 :=
  if digit < 26 then UInt8.ofNat (digit + 65)
  else if digit < 52 then UInt8.ofNat (digit + 71)
  else if digit < 62 then UInt8.ofNat (digit - 4)
  else if digit = 62 then 43
  else 47

def digit (symbol : UInt8) : Option Nat :=
  if 65 ≤ symbol ∧ symbol ≤ 90 then some (symbol.toNat - 65)
  else if 97 ≤ symbol ∧ symbol ≤ 122 then some (symbol.toNat - 71)
  else if 48 ≤ symbol ∧ symbol ≤ 57 then some (symbol.toNat + 4)
  else if symbol = 43 then some 62
  else if symbol = 47 then some 63
  else none

def filler : UInt8 := 61

def encode : List UInt8 → List UInt8
  | [] => []
  | [a] => [symbol (a.toNat / 4), symbol (a.toNat % 4 * 16), filler, filler]
  | [a, b] =>
      [symbol (a.toNat / 4), symbol (a.toNat % 4 * 16 + b.toNat / 16), symbol (b.toNat % 16 * 4),
        filler]
  | a :: b :: c :: rest =>
      symbol (a.toNat / 4) :: symbol (a.toNat % 4 * 16 + b.toNat / 16) ::
        symbol (b.toNat % 16 * 4 + c.toNat / 64) :: symbol (c.toNat % 64) :: encode rest

/-- The text ends where a group is not one. -/
def decode : List UInt8 → List UInt8
  | w :: x :: y :: z :: rest =>
      match digit w, digit x, digit y, digit z with
      | some w, some x, some y, some z =>
          UInt8.ofNat (w * 4 + x / 16) :: UInt8.ofNat (x % 16 * 16 + y / 4) ::
            UInt8.ofNat (y % 4 * 64 + z) :: decode rest
      | some w, some x, some y, none =>
          if z = filler then [UInt8.ofNat (w * 4 + x / 16), UInt8.ofNat (x % 16 * 16 + y / 4)]
          else []
      | some w, some x, none, _ =>
          if y = filler ∧ z = filler then [UInt8.ofNat (w * 4 + x / 16)] else []
      | _, _, _, _ => []
  | _ => []

end Code

section RoundTrip

theorem digit_symbol {value : Nat} (small : value < 64) : digit (symbol value) = some value := by
  revert value
  decide +kernel

theorem digit_filler : digit filler = none := rfl

/-- A byte is put together from its upper and its lower bits. -/
theorem byte_of {value : Nat} (byte : UInt8) (same : value = byte.toNat) :
    UInt8.ofNat value = byte := by
  rw [same, UInt8.ofNat_toNat]

theorem decode_encode (bytes : List UInt8) : decode (encode bytes) = bytes := by
  fun_induction encode bytes with
  | case1 => rfl
  | case2 a =>
      have small := a.toNat_lt
      simp only [decode, digit_symbol (show a.toNat / 4 < 64 by omega),
        digit_symbol (show a.toNat % 4 * 16 < 64 by omega), digit_filler, and_self, if_true]
      rw [byte_of a (by omega)]
  | case3 a b =>
      have small := a.toNat_lt
      have small_b := b.toNat_lt
      simp only [decode, digit_symbol (show a.toNat / 4 < 64 by omega),
        digit_symbol (show a.toNat % 4 * 16 + b.toNat / 16 < 64 by omega),
        digit_symbol (show b.toNat % 16 * 4 < 64 by omega), digit_filler, if_true]
      rw [byte_of a (by omega), byte_of b (by omega)]
  | case4 a b c rest ih =>
      have small := a.toNat_lt
      have small_b := b.toNat_lt
      have small_c := c.toNat_lt
      simp only [decode, digit_symbol (show a.toNat / 4 < 64 by omega),
        digit_symbol (show a.toNat % 4 * 16 + b.toNat / 16 < 64 by omega),
        digit_symbol (show b.toNat % 16 * 4 + c.toNat / 64 < 64 by omega),
        digit_symbol (show c.toNat % 64 < 64 by omega), ih]
      rw [byte_of a (by omega), byte_of b (by omega), byte_of c (by omega)]

end RoundTrip

end Iperf.Base64Text
