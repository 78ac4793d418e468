import Iperf.Base64Text
import Iperf.FormattedText

/-!
Authentication tokens. The client prints user, password and time into one text,
encrypts it and encodes the result; the server goes back the same way and scans the
text. RSA and base64 are the library's and stand here as functions.
-/

namespace Iperf.AuthToken

open FormattedText

section Library

/-- The bytes before the one that ends the string. -/
abbrev CString := { text : List UInt8 // ∀ c ∈ text, c ≠ 0 }

inductive Padding where
  | RSA_PKCS1_OAEP_PADDING
  | RSA_PKCS1_PADDING
  deriving DecidableEq, Repr

def padding (use_pkcs1_padding : Bool) : Padding :=
  if use_pkcs1_padding then .RSA_PKCS1_PADDING else .RSA_PKCS1_OAEP_PADDING

/-- A decoder that reads nothing gives no bytes. -/
structure Base64 where
  encode : List UInt8 → List UInt8
  decode : List UInt8 → List UInt8

/-- What `EVP_PKEY_decrypt` returns, and the length and the memory from `plaintext` on
that it leaves. -/
structure Decrypted where
  ret : Int
  plaintext_len : UInt64
  memory : Nat → UInt8

/-- `max_size` is `none` when `EVP_PKEY_get_int_param` fails. -/
structure PublicKey where
  max_size : Option Int32
  encrypt : Padding → List UInt8 → List UInt8

structure PrivateKey where
  max_size : Option Int32
  set_rsa_padding : Padding → Int
  decrypt : Padding → List UInt8 → UInt64 → (Nat → UInt8) → Decrypted

end Library

section Token

def auth_text_format : List UInt8 := ascii "user: %s\npwd:  %s\nts:   %ld"

structure Credentials where
  username : List UInt8
  password : List UInt8
  ts : Int64
  deriving DecidableEq, Repr

def encrypt_rsa_message (public_key : PublicKey) (use_pkcs1_padding : Bool)
    (plaintext : List UInt8) : List UInt8 :=
  if public_key.max_size = none then []
  else public_key.encrypt (padding use_pkcs1_padding) plaintext

/-- The text and the storage that `snprintf` gets for it. -/
def auth_text (username password : CString) (utc_seconds : Int64) : List UInt8 :=
  let text_len := auth_text_format.length + username.val.length + password.val.length + 32
  (print (items [] auth_text_format)
    [.string username, .string password, .number utc_seconds]).take (text_len - 1)

def encode_auth_setting (base64 : Base64) (public_key : PublicKey) (use_pkcs1_padding : Bool)
    (username password : CString) (utc_seconds : Int64) : List UInt8 :=
  base64.encode
    (encrypt_rsa_message public_key use_pkcs1_padding (auth_text username password utc_seconds))

/-- The call of `EVP_PKEY_decrypt`, if it is made. `fresh` is what the allocated memory
holds. -/
def attempt (private_key : PrivateKey) (use_pkcs1_padding : Bool) (encryptedtext : List UInt8)
    (fresh : Nat → UInt8) : Option Decrypted :=
  private_key.max_size.bind fun output_buffer_len =>
    if private_key.set_rsa_padding (padding use_pkcs1_padding) < 0 then none
    else some (private_key.decrypt (padding use_pkcs1_padding) encryptedtext
      output_buffer_len.toInt64.toUInt64 fresh)

/-- The length is returned as an `int`. What the decryption returned is not consulted. -/
def decrypt_rsa_message (private_key : PrivateKey) (use_pkcs1_padding : Bool)
    (encryptedtext : List UInt8) (fresh : Nat → UInt8) : Int × (Nat → UInt8) :=
  ((attempt private_key use_pkcs1_padding encryptedtext fresh).map fun decrypted =>
    let plaintext_len := if decrypted.plaintext_len ≤ 0 then 0 else decrypted.plaintext_len
    (plaintext_len.toUInt32.toInt32.toInt, decrypted.memory)).getD (0, fresh)

def credentials : List Field → Option Credentials
  | [.string username, .string password, .number ts] => some ⟨username, password, ts⟩
  | _ => none

/-- `sscanf` reads up to the first zero. -/
def read_text (plaintext : List UInt8) : Option Credentials :=
  credentials (scan (items [] auth_text_format) (plaintext.takeWhile (· ≠ 0)))

/-- `none` stands for the return value -1. -/
def decode_auth_setting (base64 : Base64) (private_key : PrivateKey) (use_pkcs1_padding : Bool)
    (authtoken : List UInt8) (fresh : Nat → UInt8) : Option Credentials :=
  let (plaintext_len, plaintext) :=
    decrypt_rsa_message private_key use_pkcs1_padding (base64.decode authtoken) fresh
  if plaintext_len ≤ 0 then none
  else read_text ((List.range plaintext_len.toNat).map plaintext)

end Token

section Authorization

/-- `check_authentication` gets what was decoded and returns 0 for a known user. -/
structure Server where
  server_rsa_private_key : Option PrivateKey
  server_authorized_users : Option (Credentials → Int)
  authtoken : Option (List UInt8)
  use_pkcs1_padding : Bool

end Authorization

section Format

theorem auth_items : items [] auth_text_format =
    [.text (ascii "user: "), .string, .text (ascii "\npwd:  "), .string, .text (ascii "\nts:   "),
      .number] := by
  decide +kernel

theorem auth_separated : Separated (items [] auth_text_format) := by
  decide +kernel

/-- The storage is always enough. -/
theorem auth_text_whole (username password : CString) (utc_seconds : Int64) :
    auth_text username password utc_seconds = print (items [] auth_text_format)
      [.string username, .string password, .number utc_seconds] := by
  have digits := signed_length utc_seconds
  have lengths : auth_text_format.length = 27 ∧ (ascii "user: ").length = 6 ∧
      (ascii "\npwd:  ").length = 7 ∧ (ascii "\nts:   ").length = 7 := by decide +kernel
  apply List.take_of_length_le
  rw [auth_items]
  simp only [print, List.length_append, List.length_nil]
  omega

theorem auth_text_nonzero (username password : CString) (utc_seconds : Int64) :
    ∀ c ∈ auth_text username password utc_seconds, c ≠ 0 := by
  have literal : (∀ c ∈ ascii "user: ", c ≠ 0) ∧ (∀ c ∈ ascii "\npwd:  ", c ≠ 0) ∧
      (∀ c ∈ ascii "\nts:   ", c ≠ 0) := by decide +kernel
  rw [auth_text_whole, auth_items]
  simp only [print, List.mem_append, List.not_mem_nil, or_false]
  rintro c (text | user | text | pass | text | digit)
  · exact literal.1 c text
  · exact username.property c user
  · exact literal.2.1 c text
  · exact password.property c pass
  · exact literal.2.2 c text
  · exact signed_nonzero utc_seconds c digit

end Format

section RoundTrip

/-- The keys of a pair, for messages up to `capacity`, and the two directions of base64. -/
structure Inverse (base64 : Base64) (public_key : PublicKey) (private_key : PrivateKey)
    (use_pkcs1_padding : Bool) (capacity : Nat) : Prop where
  decoded : ∀ bytes, base64.decode (base64.encode bytes) = bytes
  public_size : public_key.max_size ≠ none
  padded : 0 ≤ private_key.set_rsa_padding (padding use_pkcs1_padding)
  capacity_int : capacity < 2 ^ 31
  decrypted : ∃ size, private_key.max_size = some size ∧
    ∀ message, message.length ≤ capacity → ∀ fresh,
      let decrypted := private_key.decrypt (padding use_pkcs1_padding)
        (public_key.encrypt (padding use_pkcs1_padding) message) size.toInt64.toUInt64 fresh
      0 < decrypted.ret ∧ decrypted.plaintext_len.toNat = message.length ∧
        (List.range message.length).map decrypted.memory = message

variable {base64 : Base64} {public_key : PublicKey} {private_key : PrivateKey}
  {use_pkcs1_padding : Bool}

/-- An unsigned length is never below 0. -/
theorem length_kept (plaintext_len : UInt64) :
    (if plaintext_len ≤ 0 then 0 else plaintext_len) = plaintext_len := by
  split
  · rename_i nothing
    exact (UInt64.le_zero_iff.mp nothing).symm
  · rfl

/-- The length survives its way through the `int`. -/
theorem length_int {plaintext_len : UInt64} (small : plaintext_len.toNat < 2 ^ 31) :
    (if plaintext_len ≤ 0 then 0 else plaintext_len).toUInt32.toInt32.toInt =
      plaintext_len.toNat := by
  have low : plaintext_len.toUInt32.toNat = plaintext_len.toNat := by
    rw [UInt64.toNat_toUInt32]
    omega
  have signed : plaintext_len.toUInt32.toInt32.toInt = plaintext_len.toUInt32.toNat := by
    apply BitVec.toInt_eq_toNat_of_lt
    change 2 * plaintext_len.toUInt32.toNat < 2 ^ 32
    omega
  rw [length_kept, signed, low]

/-- The text that was encrypted is the text that is scanned. -/
theorem decode_encoded {capacity : Nat}
    (inverse : Inverse base64 public_key private_key use_pkcs1_padding capacity)
    (username password : CString) (utc_seconds : Int64)
    (fits : (auth_text username password utc_seconds).length ≤ capacity) (fresh : Nat → UInt8) :
    decode_auth_setting base64 private_key use_pkcs1_padding
        (encode_auth_setting base64 public_key use_pkcs1_padding username password utc_seconds)
        fresh =
      credentials (scan (items [] auth_text_format) (auth_text username password utc_seconds)) := by
  obtain ⟨size, sized, decrypted⟩ := inverse.decrypted
  obtain ⟨-, length, memory⟩ := decrypted (auth_text username password utc_seconds) fits fresh
  have capacity_int := inverse.capacity_int
  have padded : ¬ private_key.set_rsa_padding (padding use_pkcs1_padding) < 0 := by
    have := inverse.padded
    omega
  have nonempty : 0 < (auth_text username password utc_seconds).length := by
    have text : 0 < (ascii "user: ").length := by decide +kernel
    rw [auth_text_whole, auth_items, print, List.length_append]
    omega
  have whole : (auth_text username password utc_seconds).takeWhile (· ≠ 0) =
      auth_text username password utc_seconds := by
    apply List.takeWhile_eq_self_iff.mpr
    intro c member
    simpa using auth_text_nonzero username password utc_seconds c member
  have positive : ¬ ((auth_text username password utc_seconds).length : Int) ≤ 0 := by omega
  rw [decode_auth_setting, encode_auth_setting, inverse.decoded, encrypt_rsa_message,
    if_neg inverse.public_size, decrypt_rsa_message, attempt, sized, Option.bind_some,
    if_neg padded, Option.map_some, Option.getD_some]
  dsimp only
  rw [length_int (by omega), length, if_neg positive, Int.toNat_natCast, memory, read_text, whole]

theorem credentials_words {text : List UInt8} {found : Credentials}
    (read : credentials (scan (items [] auth_text_format) text) = some found) :
    Word found.username ∧ Word found.password := by
  have words {bytes : List UInt8} (field) := @scan_words (items [] auth_text_format) text bytes field
  unfold credentials at read
  split at read
  · rename_i username password ts fields
    cases read
    rw [fields] at words
    exact ⟨words (by simp), words (by simp)⟩
  · contradiction

/-- A token gives back what went into it just when user and password are words: the
scanner skips whitespace before a string and ends it at the next. -/
theorem token_round_trip_iff (base64 : Base64) (public_key : PublicKey) (private_key : PrivateKey)
    (use_pkcs1_padding : Bool) (capacity : Nat)
    (inverse : Inverse base64 public_key private_key use_pkcs1_padding capacity)
    (username password : CString) (utc_seconds : Int64)
    (fits : (auth_text username password utc_seconds).length ≤ capacity) (fresh : Nat → UInt8) :
    decode_auth_setting base64 private_key use_pkcs1_padding
        (encode_auth_setting base64 public_key use_pkcs1_padding username password utc_seconds)
        fresh = some ⟨username, password, utc_seconds⟩ ↔
      Word username.val ∧ Word password.val := by
  rw [decode_encoded inverse username password utc_seconds fits fresh]
  constructor
  · intro read
    exact credentials_words read
  · intro words
    have fields : Fits (items [] auth_text_format)
        [.string username, .string password, .number utc_seconds] := by
      rw [auth_items]
      exact ⟨words.1, words.2, trivial⟩
    rw [auth_text_whole, scan_print auth_separated fields]
    rfl

end RoundTrip

section Shortest

end Shortest

section Failure
variable (base64 : Base64) (private_key : PrivateKey) (use_pkcs1_padding : Bool)

/-- The length that a call leaves, as the `int` that is returned. -/
def length_left (decrypted : Decrypted) : Int := decrypted.plaintext_len.toUInt32.toInt32.toInt

/-- The zero at `plaintext_len` is written into the buffer, which has room for the
size of the key and one byte. -/
def Terminated (decrypted : Decrypted) : Prop :=
  ∀ size ∈ private_key.max_size, 0 < length_left decrypted →
    length_left decrypted ≤ size.toInt

/-- The same key, but where a call fails, `left` is what the buffer holds. -/
def leaving (left : Nat → UInt8) : PrivateKey :=
  { private_key with
    decrypt := fun padding encryptedtext plaintext_len fresh =>
      let decrypted := private_key.decrypt padding encryptedtext plaintext_len fresh
      if 0 < decrypted.ret then decrypted else { decrypted with memory := left } }

variable {private_key} {use_pkcs1_padding}

variable (private_key) (use_pkcs1_padding)

end Failure

section Samples

/-- Base64 without line breaks. -/
def base64_line : Base64 := ⟨Base64Text.encode, Base64Text.decode⟩

def kilroy : CString := ⟨ascii "kilroy", by decide +kernel⟩

def fubar : CString := ⟨ascii "fubar", by decide +kernel⟩

/-- Memory in which the text of an earlier token was. -/
def stale (index : Nat) : UInt8 := (ascii "user: kilroy\npwd:  fubar\nts:   1700000000").getD index 0

end Samples

end Iperf.AuthToken
