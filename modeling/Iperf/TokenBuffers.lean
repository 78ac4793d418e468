import Iperf.MachineWords
import Iperf.AuthToken

/-!
The buffers that a token goes through while it is decoded: how large each is, and what
is read from it and written to it. The token comes from the peer, the size of the
decrypted message from the key.
-/

namespace Iperf.TokenBuffers

open MachineWords FormattedText AuthToken

section Access

/-- So many bytes of a buffer, from an index on. -/
structure Access where
  size : Nat
  start : Int
  count : Int
  deriving DecidableEq, Repr

/-- A count that is not positive touches nothing. -/
def Access.Within (access : Access) : Prop :=
  0 < access.count → 0 ≤ access.start ∧ access.start + access.count ≤ access.size

instance (access : Access) : Decidable access.Within := inferInstanceAs (Decidable (_ → _))

/-- An `int` where a size is expected. -/
def size_of (value : Int32) : Nat := value.toInt64.toUInt64.toNat

end Access

section Decoding

/-- What `BIO_read` returns for a token, and what it leaves in the buffer. -/
abbrev Bio := List UInt8 → Int32 × List UInt8

def decoded (BIO_read : Bio) (b64message : List UInt8) : List UInt8 :=
  (BIO_read b64message).2.take (BIO_read b64message).1.toInt.toNat

def pad (b64input : List UInt8) : UInt64 :=
  let len := b64input.length
  if 2 ≤ len ∧ b64input[len - 1]? = some 61 ∧ b64input[len - 2]? = some 61 then 2
  else if 1 ≤ len ∧ b64input[len - 1]? = some 61 then 1
  else 0

def calcDecodeLength (b64input : List UInt8) : UInt64 :=
  (UInt64.ofNat b64input.length * 3) / 4 - pad b64input

def decodeLen (b64message : List UInt8) : Int32 :=
  (calcDecodeLength b64message).toUInt32.toInt32

/-- The string is one byte longer than its length. -/
def calcDecodeLength_accesses (b64input : List UInt8) : List Access :=
  let len := b64input.length
  (if 2 ≤ len then [⟨len + 1, len - 1, 1⟩, ⟨len + 1, len - 2, 1⟩] else []) ++
    if 1 ≤ len then [⟨len + 1, len - 1, 1⟩] else []

def Base64Decode_accesses (BIO_read : Bio) (b64message : List UInt8) : List Access :=
  let size := size_of (decodeLen b64message + 1)
  calcDecodeLength_accesses b64message ++
    -- The terminator is written first, then the bytes that are decoded.
    [⟨size, (decodeLen b64message).toInt, 1⟩, ⟨size, 0, (BIO_read b64message).1.toInt⟩]

/-- The message is copied to a buffer of the size of the key. With a negative length the
copy is up to the end of the string, and reads nothing. -/
def decrypt_rsa_message_accesses (private_key : PrivateKey) (use_pkcs1_padding : Bool)
    (encryptedtext : List UInt8) (encryptedtext_size : Nat) (encryptedtext_len : Int32)
    (fresh : Nat → UInt8) : List Access :=
  match private_key.max_size with
  | none => []
  | some output_buffer_len =>
      [⟨encryptedtext_size, 0,
          if encryptedtext_len < 0 then encryptedtext_size else encryptedtext_len.toInt⟩,
        ⟨size_of output_buffer_len, 0, encryptedtext_len.toInt⟩] ++
      -- Nothing is decrypted when the padding cannot be set.
      match attempt private_key use_pkcs1_padding encryptedtext fresh with
      | none => []
      | some decrypted =>
          [⟨size_of output_buffer_len, 0, encryptedtext_len.toInt⟩,
            ⟨size_of (output_buffer_len + 1), 0, decrypted.plaintext_len.toNat⟩]

/-- The fields that `sscanf` finds before the first mismatch. -/
def scanned (plaintext_len : Int) (plaintext : Nat → UInt8) : List Field :=
  scan (items [] auth_text_format)
    (((List.range plaintext_len.toNat).map plaintext).takeWhile (· ≠ 0))

/-- A string is stored with a zero at its end. -/
def stored (plaintext_len : Int) : Field → List Access
  | .string bytes => [⟨plaintext_len.toNat, 0, bytes.length + 1⟩]
  | .number _ => []

def decode_auth_setting_accesses (BIO_read : Bio) (private_key : PrivateKey)
    (use_pkcs1_padding : Bool) (authtoken : List UInt8) (fresh : Nat → UInt8) : List Access :=
  let encrypted := decoded BIO_read authtoken
  let (plaintext_len, plaintext) :=
    decrypt_rsa_message private_key use_pkcs1_padding encrypted fresh
  Base64Decode_accesses BIO_read authtoken ++
    decrypt_rsa_message_accesses private_key use_pkcs1_padding encrypted
      (size_of (decodeLen authtoken + 1)) (BIO_read authtoken).1 fresh ++
    match private_key.max_size with
    | none => []
    | some output_buffer_len =>
        if plaintext_len ≤ 0 then []
        else
          [⟨size_of (output_buffer_len + 1), plaintext_len, 1⟩,
            ⟨size_of (output_buffer_len + 1), 0, plaintext_len + 1⟩] ++
          (scanned plaintext_len plaintext).flatMap (stored plaintext_len)

/-- The fields that are stored are the ones that are returned. -/
theorem decode_scanned (encode : List UInt8 → List UInt8) (BIO_read : Bio)
    (private_key : PrivateKey) (use_pkcs1_padding : Bool) (authtoken : List UInt8)
    (fresh : Nat → UInt8) :
    decode_auth_setting ⟨encode, decoded BIO_read⟩ private_key use_pkcs1_padding authtoken fresh =
      let (plaintext_len, plaintext) := decrypt_rsa_message private_key use_pkcs1_padding
        (decoded BIO_read authtoken) fresh
      if plaintext_len ≤ 0 then none else credentials (scanned plaintext_len plaintext) := rfl

end Decoding

section Lengths

/-- Six bits for each character before the padding. -/
def decoded_size (b64message : List UInt8) : Nat :=
  6 * (b64message.length - (pad b64message).toNat) / 8

/-- What the libraries promise: no more bytes than the token stands for, and no more than
the room that was given. -/
structure Lawful (BIO_read : Bio) (private_key : PrivateKey) : Prop where
  read : ∀ b64message, (BIO_read b64message).1.toInt ≤ decoded_size b64message
  key_size : ∀ size ∈ private_key.max_size, 0 < size.toInt ∧ size.toInt < 2 ^ 31 - 1
  written : ∀ size ∈ private_key.max_size, ∀ padding encryptedtext fresh,
    (private_key.decrypt padding encryptedtext size.toInt64.toUInt64 fresh).plaintext_len.toNat ≤
      size.toInt

theorem size_of_nonneg {value : Int32} (nonneg : 0 ≤ value.toInt) :
    (size_of value : Int) = value.toInt := by
  rw [size_of, widened_toNat nonneg]
  exact Int.toNat_of_nonneg nonneg

/-- The byte for a terminator. -/
theorem size_of_succ {value : Int32} (nonneg : 0 ≤ value.toInt)
    (small : value.toInt < 2 ^ 31 - 1) : (size_of (value + 1) : Int) = value.toInt + 1 := by
  have one : (1 : Int32).toInt = 1 := rfl
  have sum : (value + 1).toInt = value.toInt + 1 := by
    rw [add_toInt, one]
    · omega
    · omega
  rw [size_of_nonneg (by omega), sum]

theorem pad_cases (b64input : List UInt8) :
    pad b64input = 0 ∨
      pad b64input = 1 ∧ 1 ≤ b64input.length ∧ (b64input.length = 1 → b64input = [61]) ∨
      pad b64input = 2 ∧ 2 ≤ b64input.length ∧ (b64input.length = 2 → b64input = [61, 61]) := by
  unfold pad
  dsimp only
  split
  · rename_i both
    refine .inr (.inr ⟨rfl, both.1, ?_⟩)
    intro short
    obtain ⟨first, second, rfl⟩ := List.length_eq_two.mp short
    simpa [and_comm] using both.2
  · split
    · rename_i last
      refine .inr (.inl ⟨rfl, last.1, ?_⟩)
      intro short
      obtain ⟨first, rfl⟩ := List.length_eq_one_iff.mp short
      simpa using last.2
    · exact .inl rfl

/-- The unsigned difference comes out of the `int` as the difference. -/
theorem decodeLen_toInt (b64message : List UInt8) (short : b64message.length ≤ 8 * 1024) :
    (decodeLen b64message).toInt =
      (b64message.length * 3 / 4 : Nat) - ((pad b64message).toNat : Int) := by
  have read : (decodeLen b64message).toInt =
      (((calcDecodeLength b64message).toNat % 2 ^ 32 : Nat) : Int).bmod (2 ^ 32) := by
    rw [← UInt64.toNat_toUInt32, ← UInt32.toNat_toBitVec, ← BitVec.toInt_eq_toNat_bmod]
    rfl
  have length : (UInt64.ofNat b64message.length * 3 / 4).toNat = b64message.length * 3 / 4 := by
    rw [UInt64.toNat_div, UInt64.toNat_mul, UInt64.toNat_ofNat_of_lt' (by
      change b64message.length < 2 ^ 64
      omega)]
    change b64message.length * 3 % 2 ^ 64 / 4 = _
    omega
  have small : (pad b64message).toNat ≤ 2 := by
    rcases pad_cases b64message with none | ⟨one, -⟩ | ⟨two, -⟩
    · simp [none]
    · simp [one]
    · simp [two]
  rw [read, Int.bmod_def, calcDecodeLength, UInt64.toNat_sub, length]
  omega

/-- Only a token of padding alone gives a negative length. -/
theorem decodeLen_nonneg_iff (b64message : List UInt8) (short : b64message.length ≤ 8 * 1024) :
    0 ≤ (decodeLen b64message).toInt ↔ b64message ≠ [61] ∧ b64message ≠ [61, 61] := by
  constructor
  · intro nonneg
    constructor <;> rintro rfl <;> exact absurd nonneg (by decide)
  · rintro ⟨not_one, not_two⟩
    rw [decodeLen_toInt b64message short]
    rcases pad_cases b64message with none | ⟨one, least, short_one⟩ | ⟨two, least, short_two⟩
    · simp only [none, UInt64.toNat_zero]
      omega
    · have longer : b64message.length ≠ 1 := fun same => not_one (short_one same)
      simp only [one, UInt64.toNat_one]
      omega
    · have longer : b64message.length ≠ 2 := fun same => not_two (short_two same)
      simp only [two]
      change 0 ≤ ((b64message.length * 3 / 4 : Nat) : Int) - (2 : Nat)
      omega

/-- What is decoded fits, with the byte for the terminator. -/
theorem decoded_size_le (b64message : List UInt8) (short : b64message.length ≤ 8 * 1024) :
    decoded_size b64message ≤ (decodeLen b64message).toInt + 1 := by
  rw [decodeLen_toInt b64message short, decoded_size]
  rcases pad_cases b64message with none | ⟨one, least, -⟩ | ⟨two, least, -⟩
  · simp only [none, UInt64.toNat_zero]
    omega
  · simp only [one, UInt64.toNat_one]
    omega
  · simp only [two]
    change ((6 * (b64message.length - 2) / 8 : Nat) : Int) ≤
      (b64message.length * 3 / 4 : Nat) - (2 : Nat) + 1
    omega

end Lengths

section Scanned

/-- The literal text in front leaves room for the terminator. -/
theorem scanned_stored (plaintext_len : Int) (plaintext : Nat → UInt8) :
    ∀ field ∈ scanned plaintext_len plaintext, ∀ access ∈ stored plaintext_len field,
      access.Within := by
  rintro (bytes | value) member access used
  · rw [stored, List.mem_singleton] at used
    subst used
    rw [scanned, auth_items, scan] at member
    cases read : scan_text (ascii "user: ")
        (((List.range plaintext_len.toNat).map plaintext).takeWhile (· ≠ 0)) with
    | none => simp only [read, Option.map_none, Option.getD_none, List.not_mem_nil] at member
    | some rest =>
        simp only [read, Option.map_some, Option.getD_some] at member
        have literal : ((ascii "user: ").filter (!isspace ·)).length = 5 := by decide +kernel
        have front := scan_text_length read
        have field := scan_length _ rest member
        have text := (List.takeWhile_sublist (fun c : UInt8 => c ≠ 0)
          (l := (List.range plaintext_len.toNat).map plaintext)).length_le
        rw [List.length_map, List.length_range] at text
        rintro -
        constructor
        · exact le_refl 0
        · dsimp only
          omega
  · simp [stored] at used

end Scanned

section Safety

variable {BIO_read : Bio} {private_key : PrivateKey} {use_pkcs1_padding : Bool}
  {fresh : Nat → UInt8} {authtoken : List UInt8}

/-- The size that `malloc` is asked for. -/
theorem decode_size (short : authtoken.length ≤ 8 * 1024)
    (nonneg : 0 ≤ (decodeLen authtoken).toInt) :
    (size_of (decodeLen authtoken + 1) : Int) = (decodeLen authtoken).toInt + 1 := by
  have length := decodeLen_toInt authtoken short
  apply size_of_succ nonneg
  omega

theorem calcDecodeLength_within : ∀ access ∈ calcDecodeLength_accesses authtoken,
    access.Within := by
  intro access used
  simp only [calcDecodeLength_accesses, List.mem_append] at used
  rcases used with used | used <;> split at used <;>
    simp only [List.mem_cons, List.not_mem_nil, or_false] at used
  · rcases used with rfl | rfl <;> rintro - <;> dsimp only <;> omega
  · subst used
    rintro -
    dsimp only
    omega

/-- The terminator is what goes wrong. -/
theorem Base64Decode_within_iff (lawful : Lawful BIO_read private_key)
    (short : authtoken.length ≤ 8 * 1024) :
    (∀ access ∈ Base64Decode_accesses BIO_read authtoken, access.Within) ↔
      0 ≤ (decodeLen authtoken).toInt := by
  have read := lawful.read authtoken
  have fits := decoded_size_le authtoken short
  constructor
  · intro within
    exact (within ⟨size_of (decodeLen authtoken + 1), (decodeLen authtoken).toInt, 1⟩
      (by simp [Base64Decode_accesses]) Int.one_pos).1
  · rintro nonneg access used
    have size := decode_size short nonneg
    simp only [Base64Decode_accesses, List.mem_append, List.mem_cons, List.not_mem_nil,
      or_false] at used
    rcases used with used | rfl | rfl
    · exact calcDecodeLength_within access used
    · rintro -
      dsimp only
      omega
    · rintro -
      dsimp only
      omega

/-- The sizes that are allocated for a key. -/
theorem key_sizes (lawful : Lawful BIO_read private_key) {size : Int32}
    (key : private_key.max_size = some size) :
    0 < size.toInt ∧ size.toInt < 2 ^ 31 - 1 ∧ (size_of size : Int) = size.toInt ∧
      (size_of (size + 1) : Int) = size.toInt + 1 := by
  obtain ⟨positive, small⟩ := lawful.key_size size (by simp [key])
  exact ⟨positive, small, size_of_nonneg positive.le, size_of_succ positive.le small⟩

theorem attempt_written (lawful : Lawful BIO_read private_key) {size : Int32}
    (key : private_key.max_size = some size) {encryptedtext : List UInt8} {decrypted : Decrypted}
    (found : attempt private_key use_pkcs1_padding encryptedtext fresh = some decrypted) :
    decrypted.plaintext_len.toNat ≤ size.toInt := by
  rw [attempt, key, Option.bind_some] at found
  split at found
  · contradiction
  · cases found
    exact lawful.written size (by simp [key]) _ _ _

/-- The copy into the buffer of the key is what goes wrong. -/
theorem decrypt_within_iff (lawful : Lawful BIO_read private_key)
    (short : authtoken.length ≤ 8 * 1024) (nonneg : 0 ≤ (decodeLen authtoken).toInt)
    (encryptedtext : List UInt8) :
    (∀ access ∈ decrypt_rsa_message_accesses private_key use_pkcs1_padding encryptedtext
        (size_of (decodeLen authtoken + 1)) (BIO_read authtoken).1 fresh, access.Within) ↔
      ∀ size ∈ private_key.max_size, (BIO_read authtoken).1.toInt ≤ size.toInt := by
  have read := lawful.read authtoken
  have fits := decoded_size_le authtoken short
  have source := decode_size short nonneg
  cases key : private_key.max_size with
  | none => simp [decrypt_rsa_message_accesses, key]
  | some size =>
      obtain ⟨positive, -, target, plaintext⟩ := key_sizes lawful key
      simp only [Option.mem_def, Option.some.injEq, forall_eq']
      constructor
      · -- The copy writes as many bytes as were decoded.
        intro within
        have copied := within ⟨size_of size, 0, (BIO_read authtoken).1.toInt⟩
          (by simp [decrypt_rsa_message_accesses, key])
        rcases le_or_gt (BIO_read authtoken).1.toInt 0 with nothing | something
        · omega
        · have := (copied something).2
          dsimp only at this
          omega
      · rintro small_enough access used
        simp only [decrypt_rsa_message_accesses, key, List.mem_append, List.mem_cons,
          List.not_mem_nil, or_false] at used
        rcases used with (rfl | rfl) | used
        · rintro -
          dsimp only
          split
          · omega
          · omega
        · rintro -
          dsimp only
          omega
        · split at used
          · simp at used
          · rename_i decrypted found
            have written := attempt_written lawful key found
            simp only [List.mem_cons, List.not_mem_nil, or_false] at used
            rcases used with rfl | rfl <;> rintro - <;> dsimp only <;> omega

/-- The length that comes back is at most the size of the key. -/
theorem plaintext_len_le (lawful : Lawful BIO_read private_key) {size : Int32}
    (key : private_key.max_size = some size) (encryptedtext : List UInt8) :
    (decrypt_rsa_message private_key use_pkcs1_padding encryptedtext fresh).1 ≤ size.toInt := by
  obtain ⟨positive, small, -⟩ := key_sizes lawful key
  rw [decrypt_rsa_message]
  cases found : attempt private_key use_pkcs1_padding encryptedtext fresh with
  | none =>
      simp only [Option.map_none, Option.getD_none]
      omega
  | some decrypted =>
      have written := attempt_written lawful key found
      simp only [Option.map_some, Option.getD_some]
      rw [length_int (by omega)]
      exact written

/-- Every use of a buffer is within it just when the token is more than padding and its
bytes are no more than the size of the key. -/
theorem decode_auth_setting_within_iff (lawful : Lawful BIO_read private_key)
    (short : authtoken.length ≤ 8 * 1024) :
    (∀ access ∈ decode_auth_setting_accesses BIO_read private_key use_pkcs1_padding authtoken
        fresh, access.Within) ↔
      (authtoken ≠ [61] ∧ authtoken ≠ [61, 61]) ∧
        ∀ size ∈ private_key.max_size, (BIO_read authtoken).1.toInt ≤ size.toInt := by
  rw [← decodeLen_nonneg_iff authtoken short]
  have base64 := @Base64Decode_within_iff BIO_read private_key authtoken lawful short
  have rsa := fun nonneg => @decrypt_within_iff BIO_read private_key use_pkcs1_padding fresh
    authtoken lawful short nonneg (decoded BIO_read authtoken)
  simp only [decode_auth_setting_accesses, List.mem_append, or_imp, forall_and]
  rw [base64]
  constructor
  · rintro ⟨⟨nonneg, decrypt⟩, -⟩
    exact ⟨nonneg, (rsa nonneg).mp decrypt⟩
  · rintro ⟨nonneg, small⟩
    refine ⟨⟨nonneg, (rsa nonneg).mpr small⟩, ?_⟩
    intro access used
    cases key : private_key.max_size with
    | none => simp [key] at used
    | some size =>
        obtain ⟨positive, -, -, plaintext⟩ := key_sizes lawful key
        have length := @plaintext_len_le BIO_read private_key use_pkcs1_padding fresh lawful size
          key (decoded BIO_read authtoken)
        simp only [key] at used
        split at used
        · simp at used
        · simp only [List.mem_append, List.mem_cons, List.not_mem_nil, or_false,
            List.mem_flatMap] at used
          rcases used with (rfl | rfl) | ⟨field, found, stored⟩
          · rintro -
            dsimp only
            omega
          · rintro -
            dsimp only
            omega
          · exact scanned_stored _ _ field found access stored

/-- A key of 1024 bits that a message of another length is not decrypted with. -/
def unmatched : PrivateKey where
  max_size := some 128
  set_rsa_padding := fun _ => 1
  decrypt := fun _ _ plaintext_len fresh => ⟨-1, plaintext_len, fresh⟩

/-- Of all texts, this decodes the one token. -/
def abc : Bio := fun b64message =>
  if b64message = ascii "QUJD" then (3, ascii "ABC") else (0, [])

theorem decode_auth_setting_within_abc :
    (decode_auth_setting_accesses abc unmatched false (ascii "QUJD") (fun _ => 0)).length = 11 ∧
      ∀ access ∈ decode_auth_setting_accesses abc unmatched false (ascii "QUJD") (fun _ => 0),
        access.Within := by
  constructor
  · decide +kernel
  · apply (decode_auth_setting_within_iff ?_ (by decide)).mpr
    · refine ⟨by decide, ?_⟩
      rintro size ⟨⟩
      decide
    · constructor
      · intro b64message
        unfold abc
        split
        · rename_i same
          subst same
          decide
        · exact Int.natCast_nonneg _
      · rintro size ⟨⟩
        decide
      · rintro size ⟨⟩ padding encryptedtext fresh
        have unwritten : (Int32.toInt64 128).toUInt64.toNat ≤ (128 : Int32).toInt := by decide
        exact unwritten

/-- One character of padding, and a message of 132 bytes for a key of 128. -/
theorem decode_auth_setting_outside :
    (¬ ∀ access ∈ decode_auth_setting_accesses (fun _ => (0, [])) unmatched false (ascii "=")
        (fun _ => 0), access.Within) ∧
      ¬ ∀ access ∈ decode_auth_setting_accesses (fun _ => (132, List.replicate 132 0)) unmatched
        false (List.replicate 176 65) (fun _ => 0), access.Within := by
  constructor
  · intro within
    exact absurd (within ⟨0, -1, 1⟩ (by decide +kernel)) (by decide)
  · intro within
    exact absurd (within ⟨128, 0, 132⟩ (by decide +kernel)) (by decide)

end Safety

end Iperf.TokenBuffers
