import Iperf.AuthToken
import Iperf.Rsa
import Mathlib.NumberTheory.LucasLehmer

/-!
Tokens under RSA keys. With the padding of PKCS #1 the keys of any pair are inverse to each
other, as tokens ask for it, for all messages that leave room for the padding.
-/

namespace Iperf.AuthToken

open FormattedText

section Keys
variable (key : Rsa.KeyPair) (size : Int32)

/-- The key is one of `size` bytes, and a message of one byte fits. -/
structure Sized : Prop where
  least : 256 ^ (size.toInt.toNat - 1) ≤ key.modulus
  most : key.modulus ≤ 256 ^ size.toInt.toNat
  room : 11 < size.toInt

/-- What a decryption leaves when the padding is right, and when it is not. -/
def unpadded (message : Option (List UInt8)) (plaintext_len : UInt64) (fresh : Nat → UInt8) :
    Decrypted :=
  match message with
  | some message =>
      ⟨1, UInt64.ofNat message.length, fun index => message.getD index (fresh index)⟩
  | none => ⟨-1, plaintext_len, fresh⟩

def rsa_public : PublicKey where
  max_size := some size
  encrypt _ plaintext := Rsa.encrypt_message key size.toInt.toNat plaintext

/-- The other padding is not there. -/
def rsa_private : PrivateKey where
  max_size := some size
  set_rsa_padding
    | .RSA_PKCS1_PADDING => 1
    | .RSA_PKCS1_OAEP_PADDING => -2
  decrypt _ encryptedtext plaintext_len fresh :=
    unpadded (Rsa.decrypt_message key size.toInt.toNat encryptedtext) plaintext_len fresh

variable {key size}

theorem rsa_decrypt (sized : Sized key size) {message : List UInt8}
    (short : message.length ≤ size.toInt.toNat - 11) (plaintext_len : UInt64)
    (fresh : Nat → UInt8) :
    (rsa_private key size).decrypt (padding true)
        ((rsa_public key size).encrypt (padding true) message) plaintext_len fresh =
      unpadded (some message) plaintext_len fresh := by
  have room := sized.room
  have back := Rsa.decrypt_encrypt_message sized.least sized.most
    (show message.length + 11 ≤ size.toInt.toNat by omega)
  exact congrArg (fun text => unpadded text plaintext_len fresh) back

theorem rsa_inverse (sized : Sized key size) :
    Inverse base64_line (rsa_public key size) (rsa_private key size) true
      (size.toInt.toNat - 11) where
  decoded := Base64Text.decode_encode
  public_size := Option.some_ne_none size
  padded := Int.one_nonneg
  capacity_int := by
    have small := size.toInt_lt
    omega
  decrypted := by
    refine ⟨size, rfl, fun message short fresh => ?_⟩
    have small := size.toInt_lt
    rw [rsa_decrypt sized short]
    refine ⟨Int.one_pos, ?_, ?_⟩
    · simp only [unpadded, UInt64.toNat_ofNat']
      omega
    · apply List.ext_getElem
      · simp
      · intro index _ inside
        simp [unpadded, inside]

end Keys

section Samples

/-- A pair of keys of 1128 bits. -/
@[irreducible] def key_pair : Rsa.KeyPair where
  p := mersenne 521
  q := mersenne 607
  exponent := 65537
  p_prime := lucas_lehmer_sufficiency _ (by norm_num) (by norm_num)
  q_prime := lucas_lehmer_sufficiency _ (by norm_num) (by norm_num)
  distinct := by decide +kernel
  inverse := by decide +kernel

theorem key_pair_sized : Sized key_pair 141 := by
  constructor
  · decide +kernel
  · decide +kernel
  · decide

theorem token_round_trip_iff_sample :
    decode_auth_setting base64_line (rsa_private key_pair 141) true
        (encode_auth_setting base64_line (rsa_public key_pair 141) true kilroy fubar 1700000000)
        (fun _ => 0) = some ⟨kilroy, fubar, 1700000000⟩ ↔ Word kilroy.val ∧ Word fubar.val :=
  token_round_trip_iff base64_line (rsa_public key_pair 141) (rsa_private key_pair 141) true 130
    (rsa_inverse key_pair_sized) kilroy fubar 1700000000 (by decide +kernel) (fun _ => 0)

def two_words : CString := ⟨ascii "two words", by decide +kernel⟩

/-- The scanner stops in the user and finds no label behind it. -/
theorem token_round_trip_counterexample :
    Inverse base64_line (rsa_public key_pair 141) (rsa_private key_pair 141) true 130 ∧
      (auth_text two_words fubar 1700000000).length ≤ 130 ∧
      decode_auth_setting base64_line (rsa_private key_pair 141) true
        (encode_auth_setting base64_line (rsa_public key_pair 141) true two_words fubar
          1700000000) (fun _ => 0) = none := by
  have inverse : Inverse base64_line (rsa_public key_pair 141) (rsa_private key_pair 141) true
      130 := rsa_inverse key_pair_sized
  have short : (auth_text two_words fubar 1700000000).length ≤ 130 := by decide +kernel
  refine ⟨inverse, short, ?_⟩
  rw [decode_encoded inverse two_words fubar 1700000000 short]
  decide +kernel

end Samples

end Iperf.AuthToken
