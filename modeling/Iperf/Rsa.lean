import Mathlib.Data.Int.GCD
import Mathlib.Data.Nat.Totient
import Mathlib.FieldTheory.Finite.Basic

/-!
RSA on numbers, and the messages that are encrypted with it: octet strings as numbers in
base 256, and the padding of PKCS #1 version 1.5.
-/

namespace Iperf.Rsa

section Powers

/-- `base ^ exponent % modulus`, by squares. -/
def pow_mod (modulus base exponent : Nat) : Nat :=
  if exponent = 0 then 1 % modulus
  else
    let half := pow_mod modulus (base * base % modulus) (exponent / 2)
    if exponent % 2 = 0 then half else half * base % modulus
termination_by exponent

theorem pow_mod_eq (modulus base exponent : Nat) :
    pow_mod modulus base exponent = base ^ exponent % modulus := by
  fun_induction pow_mod modulus base exponent with
  | case1 => rfl
  | case2 base exponent some half even ih =>
      have split : exponent = 2 * (exponent / 2) := by omega
      have squares : half = base ^ (2 * (exponent / 2)) % modulus :=
        ih.trans (by rw [← Nat.pow_mod, ← pow_two, ← pow_mul])
      rw [squares, ← split]
  | case3 base exponent some half odd ih =>
      have split : exponent = 2 * (exponent / 2) + 1 := by omega
      have squares : half = base ^ (2 * (exponent / 2)) % modulus :=
        ih.trans (by rw [← Nat.pow_mod, ← pow_two, ← pow_mul])
      rw [squares, Nat.mod_mul_mod, ← pow_succ, ← split]

end Powers

section Keys

/-- Two primes and the public exponent. -/
structure KeyPair where
  p : Nat
  q : Nat
  exponent : Nat
  p_prime : p.Prime
  q_prime : q.Prime
  distinct : p ≠ q
  inverse : exponent.Coprime (Nat.lcm (p - 1) (q - 1))

namespace KeyPair
variable (key : KeyPair)

def modulus : Nat := key.p * key.q

/-- What one of the primes less one divides. -/
def order : Nat := Nat.lcm (key.p - 1) (key.q - 1)

def private_exponent : Nat := (Nat.gcdA key.exponent key.order % key.order).toNat

def encrypt (message : Nat) : Nat := pow_mod key.modulus message key.exponent

def decrypt (message : Nat) : Nat := pow_mod key.modulus message key.private_exponent

theorem order_positive : 0 < key.order := by
  have p_large := key.p_prime.two_le
  have q_large := key.q_prime.two_le
  exact Nat.lcm_pos (by omega) (by omega)

theorem exponents : key.exponent * key.private_exponent ≡ 1 [MOD key.order] := by
  have positive : (key.order : Int) ≠ 0 := by
    have := key.order_positive
    omega
  have number : (key.private_exponent : Int) = Nat.gcdA key.exponent key.order % key.order :=
    Int.toNat_of_nonneg (Int.emod_nonneg _ positive)
  have bezout := Nat.gcd_eq_gcd_ab key.exponent key.order
  rw [show Nat.gcd key.exponent key.order = 1 from key.inverse] at bezout
  rw [← Int.natCast_modEq_iff]
  push_cast
  rw [number]
  calc (key.exponent : Int) * (Nat.gcdA key.exponent key.order % key.order)
      ≡ key.exponent * Nat.gcdA key.exponent key.order [ZMOD key.order] :=
        (Int.mod_modEq _ _).mul_left _
    _ ≡ key.exponent * Nat.gcdA key.exponent key.order +
          key.order * Nat.gcdB key.exponent key.order [ZMOD key.order] := by
        simp [Int.ModEq]
    _ = 1 := bezout.symm

end KeyPair

/-- An exponent that is one modulo the order of the group changes nothing. -/
theorem pow_same {prime exponent : Nat} (is_prime : prime.Prime) (positive : 0 < exponent)
    (one : exponent ≡ 1 [MOD prime - 1]) (message : Nat) :
    message ^ exponent ≡ message [MOD prime] := by
  by_cases multiple : prime ∣ message
  · -- A multiple of the prime stays one.
    have power : prime ∣ message ^ exponent := dvd_pow multiple (by omega)
    exact (Nat.modEq_zero_iff_dvd.mpr power).trans (Nat.modEq_zero_iff_dvd.mpr multiple).symm
  · have fermat : message ^ (prime - 1) ≡ 1 [MOD prime] := by
      rw [← Nat.totient_prime is_prime]
      exact Nat.ModEq.pow_totient ((is_prime.coprime_iff_not_dvd.mpr multiple).symm)
    obtain ⟨times, steps⟩ := (Nat.modEq_iff_dvd' positive).mp one.symm
    have split : exponent = (prime - 1) * times + 1 := by omega
    calc message ^ exponent
        = (message ^ (prime - 1)) ^ times * message := by rw [← pow_mul, ← pow_succ, ← split]
      _ ≡ 1 ^ times * message [MOD prime] := (fermat.pow times).mul_right message
      _ = message := by rw [one_pow, one_mul]

theorem decrypt_encrypt (key : KeyPair) {message : Nat} (small : message < key.modulus) :
    key.decrypt (key.encrypt message) = message := by
  have exponents := key.exponents
  have some : 0 < key.exponent * key.private_exponent := by
    by_contra none
    have zero : key.exponent * key.private_exponent = 0 := by omega
    rw [zero] at exponents
    -- the order is not one, as only one of the primes can be two
    have divides : key.order ∣ 1 := Nat.modEq_zero_iff_dvd.mp exponents.symm
    have p_one := Nat.dvd_one.mp ((Nat.dvd_lcm_left _ _).trans divides)
    have q_one := Nat.dvd_one.mp ((Nat.dvd_lcm_right _ _).trans divides)
    have distinct := key.distinct
    omega
  have apart : key.p.Coprime key.q := (Nat.coprime_primes key.p_prime key.q_prime).mpr key.distinct
  have p_same := pow_same key.p_prime some
    (exponents.of_dvd (Nat.dvd_lcm_left _ _)) message
  have q_same := pow_same key.q_prime some
    (exponents.of_dvd (Nat.dvd_lcm_right _ _)) message
  -- Both primes divide the difference, and so their product does.
  have same : message ^ (key.exponent * key.private_exponent) ≡ message [MOD key.modulus] :=
    (Nat.modEq_and_modEq_iff_modEq_mul apart).mp ⟨p_same, q_same⟩
  rw [KeyPair.decrypt, KeyPair.encrypt, pow_mod_eq, pow_mod_eq, ← Nat.pow_mod, ← pow_mul]
  exact Eq.trans same (Nat.mod_eq_of_lt small)

end Keys

section Octets

/-- The number of an octet string, most significant octet first. -/
def number : List UInt8 → Nat
  | [] => 0
  | octet :: rest => octet.toNat * 256 ^ rest.length + number rest

/-- So many octets of a number. -/
def octets : Nat → Nat → List UInt8
  | 0, _ => []
  | length + 1, value => UInt8.ofNat (value / 256 ^ length) :: octets length (value % 256 ^ length)

theorem octets_length (length value : Nat) : (octets length value).length = length := by
  induction length generalizing value with
  | zero => rfl
  | succ length ih => rw [octets, List.length_cons, ih]

theorem number_lt (text : List UInt8) : number text < 256 ^ text.length := by
  induction text with
  | nil => exact Nat.one_pos
  | cons octet rest ih =>
      have small := octet.toNat_lt
      have room : (octet.toNat + 1) * 256 ^ rest.length ≤ 256 * 256 ^ rest.length :=
        Nat.mul_le_mul_right _ (by omega)
      rw [number, List.length_cons, pow_succ']
      rw [Nat.add_mul, Nat.one_mul] at room
      omega

theorem number_octets {length value : Nat} (small : value < 256 ^ length) :
    number (octets length value) = value := by
  induction length generalizing value with
  | zero =>
      rw [pow_zero] at small
      rw [octets, number]
      omega
  | succ length ih =>
      have positive : 0 < 256 ^ length := Nat.pow_pos (by decide)
      have first : value / 256 ^ length < 256 := by
        rw [Nat.div_lt_iff_lt_mul positive, ← pow_succ']
        exact small
      have octet : (UInt8.ofNat (value / 256 ^ length)).toNat = value / 256 ^ length := by
        rw [UInt8.toNat_ofNat']
        exact Nat.mod_eq_of_lt first
      rw [octets, number, octets_length, ih (Nat.mod_lt _ positive), octet]
      exact Nat.div_add_mod' value (256 ^ length)

theorem octets_number (text : List UInt8) : octets text.length (number text) = text := by
  induction text with
  | nil => rfl
  | cons octet rest ih =>
      have small := number_lt rest
      have positive : 0 < 256 ^ rest.length := Nat.pow_pos (by decide)
      have upper : (octet.toNat * 256 ^ rest.length + number rest) / 256 ^ rest.length =
          octet.toNat := by
        rw [Nat.add_comm, Nat.add_mul_div_right _ _ positive, Nat.div_eq_of_lt small, Nat.zero_add]
      have lower : (octet.toNat * 256 ^ rest.length + number rest) % 256 ^ rest.length =
          number rest := by
        rw [Nat.mul_add_mod', Nat.mod_eq_of_lt small]
      rw [List.length_cons, octets, number, upper, lower, ih, UInt8.ofNat_toNat]

end Octets

section Padding

/-- Block type 2. The octets before the zero are drawn at random and not zero; here they
are all ones. -/
def pad (length : Nat) (message : List UInt8) : List UInt8 :=
  0 :: 2 :: List.replicate (length - 3 - message.length) 255 ++ 0 :: message

/-- The message behind at least eight octets of padding. -/
def unpad : List UInt8 → Option (List UInt8)
  | 0 :: 2 :: rest =>
      match rest.dropWhile (· ≠ 0) with
      | _ :: message => if 8 ≤ (rest.takeWhile (· ≠ 0)).length then some message else none
      | [] => none
  | _ => none

theorem pad_length {length : Nat} {message : List UInt8} (room : message.length + 11 ≤ length) :
    (pad length message).length = length := by
  simp only [pad, List.length_append, List.length_cons, List.length_replicate]
  omega

theorem unpad_pad {length : Nat} {message : List UInt8} (room : message.length + 11 ≤ length) :
    unpad (pad length message) = some message := by
  have filled : ∀ octet ∈ List.replicate (length - 3 - message.length) (255 : UInt8),
      decide (octet ≠ 0) = true := by
    intro octet inside
    rw [List.eq_of_mem_replicate inside]
    rfl
  have enough : 8 ≤ length - 3 - message.length := by omega
  rw [pad, List.cons_append, List.cons_append, unpad, List.dropWhile_append_of_pos filled,
    List.takeWhile_append_of_pos filled]
  simp [enough]

end Padding

section Messages
variable (key : KeyPair) (length : Nat)

def encrypt_message (message : List UInt8) : List UInt8 :=
  octets length (key.encrypt (number (pad length message)))

def decrypt_message (text : List UInt8) : Option (List UInt8) :=
  unpad (octets length (key.decrypt (number text)))

variable {key length}

/-- The padded message is below the modulus, as its first octet is zero. -/
theorem decrypt_encrypt_message {message : List UInt8}
    (least : 256 ^ (length - 1) ≤ key.modulus) (most : key.modulus ≤ 256 ^ length)
    (room : message.length + 11 ≤ length) :
    decrypt_message key length (encrypt_message key length message) = some message := by
  have whole := pad_length room
  have small : number (pad length message) < key.modulus := by
    have tail := number_lt
      (2 :: List.replicate (length - 3 - message.length) 255 ++ 0 :: message)
    have same : (2 :: List.replicate (length - 3 - message.length) 255 ++ 0 :: message).length =
        length - 1 := by
      simp only [List.length_append, List.length_cons, List.length_replicate]
      omega
    have zero : number (pad length message) =
        number (2 :: List.replicate (length - 3 - message.length) 255 ++ 0 :: message) := by
      simp [pad, number]
    rw [same] at tail
    omega
  have positive : 0 < key.modulus := by omega
  have encrypted : key.encrypt (number (pad length message)) < 256 ^ length := by
    rw [KeyPair.encrypt, pow_mod_eq]
    exact lt_of_lt_of_le (Nat.mod_lt _ positive) most
  have back := octets_number (pad length message)
  rw [whole] at back
  rw [decrypt_message, encrypt_message, number_octets encrypted, decrypt_encrypt key small, back,
    unpad_pad room]

end Messages

end Iperf.Rsa
