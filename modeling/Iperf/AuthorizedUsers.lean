import Iperf.AuthToken
import Mathlib.Algebra.Order.Group.Abs

/-!
The check of decoded credentials against the file of authorized users. The file is read
in pieces of a fixed buffer, each piece is cut into tokens at its commas, and the first
two tokens are compared with the user and the digest of the password. SHA-256 stands
here as a function.
-/

namespace Iperf.AuthorizedUsers

open FormattedText AuthToken

section Digest

abbrev Digest := { hash : List UInt8 // hash.length = 32 }

def hex_digit (value : UInt8) : UInt8 := if value < 10 then 48 + value else 87 + value

end Digest

section Reading

/-- The string in `buf` once it is cut at its first line end. -/
def strip (buf : List UInt8) : List UInt8 := buf.takeWhile fun c => c ≠ 0 ∧ c ≠ 10 ∧ c ≠ 13

end Reading

section Check

end Check

section Entries

/-- A token ends with the text or at a comma. -/
def Stops (tail : List UInt8) : Prop := ∀ c ∈ tail.head?, c = 44

/-- What a token is made of. -/
def Token (text : List UInt8) : Prop := text ≠ [] ∧ 44 ∉ text

/-- The text, up to its line end, gives user and digest as its first two tokens. -/
def Carries (username passwordHash buf : List UInt8) : Prop :=
  Token username ∧ (strip buf).head? ≠ some 35 ∧ ∃ m n tail, Stops tail ∧
    strip buf = List.replicate m 44 ++ username ++ List.replicate (n + 1) 44 ++ passwordHash ++ tail

/-- The text is nothing but commas, or has the user and commas alone beside it. -/
def Lacks (username buf : List UInt8) : Prop :=
  (∃ m, strip buf = List.replicate (m + 1) 44) ∨
    Token username ∧ (strip buf).head? ≠ some 35 ∧ ∃ m n, 0 < m + n ∧
      strip buf = List.replicate m 44 ++ username ++ List.replicate n 44

/-- No field that is compared is missing, up to the first piece with the entry. -/
def Readable (username passwordHash : List UInt8) : List (List UInt8) → Prop
  | [] => True
  | buf :: rest =>
      Carries username passwordHash buf ∨
        ¬ Lacks username buf ∧ Readable username passwordHash rest

end Entries

section Tokens

end Tokens

section Pieces

variable {username passwordHash buf : List UInt8} (rest : List (List UInt8))

end Pieces

section File

variable {username passwordHash : List UInt8} (token : Token passwordHash)
include token

end File

section Authentication

theorem hex_digit_plain (value : UInt8) (digit : value < 16) : hex_digit value ≠ 44 := by
  have all : ∀ n : Fin 16, hex_digit (UInt8.ofNat n) ≠ 44 := by decide
  have := all ⟨value.toNat, digit⟩
  simpa using this

end Authentication

section Regular

theorem strip_comma {buf : List UInt8} (none : 44 ∉ buf) : 44 ∉ strip buf := fun member =>
  none ((List.takeWhile_sublist _).mem member)

/-- The pieces with a comma are the lines with one, up to what `strip` cuts. -/
structure Matched (bufs lines : List (List UInt8)) : Prop where
  forth : ∀ buf ∈ bufs, 44 ∈ strip buf → ∃ line ∈ lines, strip buf = strip line
  back : ∀ line ∈ lines, 44 ∈ line → ∃ buf ∈ bufs, strip buf = strip line

section Matching
variable {bufs lines : List (List UInt8)} {buf line : List UInt8}

theorem Matched.cons (matched : Matched bufs lines) (same : strip buf = strip line) :
    Matched (buf :: bufs) (line :: lines) := by
  constructor
  · intro other member comma
    rcases List.mem_cons.mp member with rfl | later
    · exact ⟨line, List.mem_cons_self, same⟩
    · obtain ⟨found, listed, equal⟩ := matched.forth other later comma
      exact ⟨found, List.mem_cons_of_mem _ listed, equal⟩
  · intro other member comma
    rcases List.mem_cons.mp member with rfl | later
    · exact ⟨buf, List.mem_cons_self, same⟩
    · obtain ⟨found, listed, equal⟩ := matched.back other later comma
      exact ⟨found, List.mem_cons_of_mem _ listed, equal⟩

/-- A line without a comma may be read in several pieces. -/
theorem Matched.split {count : Nat} (matched : Matched bufs (line.drop count :: lines))
    (none : 44 ∉ line) : Matched (line.take count :: bufs) (line :: lines) := by
  constructor
  · intro other member comma
    rcases List.mem_cons.mp member with rfl | later
    · exact absurd comma (strip_comma fun member => none (List.mem_of_mem_take member))
    · obtain ⟨found, listed, equal⟩ := matched.forth other later comma
      rcases List.mem_cons.mp listed with rfl | listed
      · exact absurd (equal ▸ comma) (strip_comma fun member => none (List.mem_of_mem_drop member))
      · exact ⟨found, List.mem_cons_of_mem _ listed, equal⟩
  · intro other member comma
    rcases List.mem_cons.mp member with rfl | later
    · exact absurd comma none
    · obtain ⟨found, listed, equal⟩ := matched.back other (List.mem_cons_of_mem _ later) comma
      exact ⟨found, List.mem_cons_of_mem _ listed, equal⟩

end Matching

variable {username passwordHash line buf : List UInt8}

end Regular

section Answer

/-- A hash of nothing but zeros. -/
def zeros : List UInt8 → Digest := fun _ => ⟨List.replicate 32 0, rfl⟩

end Answer

end Iperf.AuthorizedUsers
