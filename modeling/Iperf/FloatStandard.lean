import Iperf.FloatText

/-!
The scanner of `%lf` against the rule of the C standard: it reads every numeral and
every prefix of one, so what it takes is the longest such sequence of the input, and it
converts exactly the numerals.
-/

namespace Iperf.FloatStandard

open FormattedText LongestMatch FloatText

section Building
variable {m : Mantissa} {e : Exponent} {b : Body} {n : Numeral}

theorem sign_not_digit {c : UInt8} (sign : issign c) : isdigit c = false := by
  simp only [issign, decide_eq_true_eq] at sign
  rcases sign with rfl | rfl <;> decide

theorem hex_letter {x : UInt8} (letter : tolower x = 120) : isdigit x = false ∧ x ≠ 46 := by
  refine ⟨letter_not_digit letter (by decide), ?_⟩
  rintro rfl
  exact absurd letter (by decide)

/-- The letter of an exponent is no digit of the mantissa, and neither a point nor an x. -/
theorem mark_letter {c : UInt8} (letter : tolower c = m.mark) :
    m.isdigit c = false ∧ c ≠ 46 ∧ m.mark ≠ 120 := by
  unfold Mantissa.mark at letter ⊢
  unfold Mantissa.isdigit
  split_ifs at letter ⊢ with decimal
  · refine ⟨letter_not_digit letter (by decide), ?_, by decide⟩
    rintro rfl
    exact absurd letter (by decide)
  · refine ⟨?_, ?_, by decide⟩
    · rw [isxdigit, letter_not_digit letter (by decide), letter]
      decide
    · rintro rfl
      exact absurd letter (by decide)

theorem point_not_digit (m : Mantissa) : m.isdigit 46 = false := by
  unfold Mantissa.isdigit
  split_ifs <;> decide

/-- What a numeral was before its last character. -/
def Before (b : Body) : Prop :=
  ∃ (earlier : Body) (c : UInt8), earlier.Valid ∧ earlier.step c = some b

theorem valid_shorter (p : Mantissa) (valid : m.Valid) (hex : p.hex = m.hex)
    (fewer : ∀ c ∈ p.digits, c ∈ m.digits)
    (started : p.hex ≠ none ∨ p.whole ≠ [] ∨ p.fraction ≠ none) : p.Valid := by
  refine ⟨by rw [hex]; exact valid.prefixed, ?_, started⟩
  intro c member
  have digit := valid.all c (fewer c member)
  rwa [Mantissa.isdigit, ← hex] at digit

/-- Without its fraction, a mantissa that has more before it is one. -/
theorem whole_valid {whole : List UInt8} (valid : m.Valid) (fewer : ∀ c ∈ whole, c ∈ m.digits)
    (more : ¬ (m.hex = none ∧ whole = [])) : (⟨m.hex, whole, none⟩ : Mantissa).Valid := by
  apply valid_shorter ⟨m.hex, whole, none⟩ valid rfl
  · intro c member
    exact fewer c (by simpa [Mantissa.digits, Mantissa.decimals] using member)
  · by_cases plain : m.hex = none
    · exact .inr (.inl fun none => more ⟨plain, none⟩)
    · exact .inl plain

theorem digit_before {c : UInt8} (valid : m.Valid) (digit : m.isdigit c) :
    Before (.mantissa (m.push c)) :=
  ⟨.mantissa m, c, valid, if_pos digit⟩

theorem point_before {hex : Option UInt8} {whole : List UInt8}
    (valid : (⟨hex, whole, some []⟩ : Mantissa).Valid) :
    Before (.mantissa ⟨hex, whole, some []⟩) := by
  by_cases first : hex = none ∧ whole = []
  · obtain ⟨rfl, rfl⟩ := first
    exact ⟨.empty, 46, trivial, by decide⟩
  · have shorter := whole_valid valid (fun _ => List.mem_append_left _) first
    refine ⟨.mantissa ⟨hex, whole, none⟩, 46, shorter, ?_⟩
    simp [Body.step, Mantissa.step, point_not_digit]

theorem zero_valid : (⟨none, [48], none⟩ : Mantissa).Valid :=
  mantissa_start (by decide +kernel) (by simp)

theorem whole_before {hex : Option UInt8} {whole : List UInt8}
    (valid : (⟨hex, whole, none⟩ : Mantissa).Valid) : Before (.mantissa ⟨hex, whole, none⟩) := by
  rcases List.eq_nil_or_concat whole with rfl | ⟨whole, c, rfl⟩
  · -- only the prefix of a hexadecimal number
    cases hex with
    | none => simpa using valid.started
    | some x =>
        have letter := valid.prefixed x rfl
        obtain ⟨no_digit, no_point⟩ := hex_letter letter
        refine ⟨.mantissa ⟨none, [48], none⟩, x, zero_valid, ?_⟩
        simp [Body.step, Mantissa.step, Mantissa.isdigit, no_digit, no_point, letter]
  · rw [List.concat_eq_append] at valid ⊢
    have digit := valid.all c (by simp [Mantissa.digits])
    by_cases first : hex = none ∧ whole = []
    · obtain ⟨rfl, rfl⟩ := first
      exact ⟨.empty, c, trivial, if_pos digit⟩
    · have fewer : ∀ d ∈ whole, d ∈ (⟨hex, whole ++ [c], none⟩ : Mantissa).digits := by
        simp +contextual [Mantissa.digits, Mantissa.decimals]
      exact digit_before (whole_valid valid fewer first) digit

theorem mantissa_before (valid : m.Valid) : Before (.mantissa m) := by
  obtain ⟨hex, whole, fraction⟩ := m
  cases fraction with
  | none => exact whole_before valid
  | some fraction =>
      rcases List.eq_nil_or_concat fraction with rfl | ⟨fraction, c, rfl⟩
      · exact point_before valid
      · rw [List.concat_eq_append] at valid ⊢
        have digit := valid.all c (by simp [Mantissa.digits, Mantissa.decimals])
        have fewer : ∀ d ∈ whole ++ fraction, d ∈ whole ++ (fraction ++ [c]) := by
          intro d member
          rw [← List.append_assoc]
          exact List.mem_append_left _ member
        have shorter := valid_shorter ⟨hex, whole, some fraction⟩ valid rfl fewer
          (.inr (.inr (by simp)))
        exact digit_before shorter digit

theorem exponent_before (valid : (Body.exponent m e).Valid) : Before (.exponent m e) := by
  obtain ⟨mantissa, digits, marked, signed, all⟩ := valid
  obtain ⟨letter, sign, power⟩ := e
  rcases List.eq_nil_or_concat power with rfl | ⟨power, c, rfl⟩
  · cases sign with
    | none =>
        obtain ⟨no_digit, no_point, no_x⟩ := mark_letter marked
        refine ⟨.mantissa m, letter, mantissa, ?_⟩
        simp only [Body.step, Mantissa.step, no_digit, no_point, no_x, marked]
        simp [digits]
    | some sign =>
        have signed := signed sign rfl
        refine ⟨.exponent m ⟨letter, none, []⟩, sign,
          ⟨mantissa, digits, marked, by simp, by simp⟩, ?_⟩
        simp [Body.step, Exponent.step, sign_not_digit signed, signed]
  · rw [List.concat_eq_append] at all ⊢
    have digit := all c (by simp)
    refine ⟨.exponent m ⟨letter, sign, power⟩, c, ⟨mantissa, digits, marked, signed, ?_⟩, ?_⟩
    · exact fun d member => all d (List.mem_append_left _ member)
    · simp [Body.step, Exponent.step, digit]

/-- The letters of a name, and the last one that was read of them. -/
theorem last_letter {name word : List UInt8} (valid : word ≠ [] ∧ word.map tolower <+: name) :
    ∃ (earlier : List UInt8) (c : UInt8), word = earlier ++ [c] ∧ earlier.map tolower <+: name ∧
      spell name earlier c = some word := by
  obtain ⟨some_letter, more, rfl⟩ := valid
  rcases List.eq_nil_or_concat word with rfl | ⟨earlier, c, rfl⟩
  · exact absurd rfl some_letter
  · rw [List.concat_eq_append, List.map_append, List.map_singleton, List.append_assoc]
    refine ⟨earlier, c, rfl, List.prefix_append _ _, ?_⟩
    unfold spell
    rw [List.getElem?_append_right (by simp), List.length_map, Nat.sub_self]
    exact if_pos rfl

/-- The first letter of a name is neither a digit nor a point. -/
theorem first_letter {name word : List UInt8} {first c : UInt8}
    (spells : spell name [] c = some word) (named : name[0]? = some first)
    (letter : isdigit first = false ∧ tolower 46 ≠ first) :
    tolower c = first ∧ isdigit c = false ∧ c ≠ 46 := by
  have same : tolower c = first := by
    have read := (spell_some spells).2
    rw [List.length_nil, named] at read
    exact (Option.some.inj read).symm
  refine ⟨same, letter_not_digit same letter.1, ?_⟩
  rintro rfl
  exact letter.2 same

theorem body_before (valid : b.Valid) (read : b ≠ .empty) : Before b := by
  cases b with
  | empty => exact absurd rfl read
  | mantissa m => exact mantissa_before valid
  | exponent m e => exact exponent_before valid
  | infinity word =>
      obtain ⟨earlier, c, text, before, spells⟩ := last_letter valid
      by_cases first : earlier = []
      · subst first
        have named : infinity_name[0]? = some 105 := rfl
        obtain ⟨letter, no_digit, no_point⟩ := first_letter spells named (by decide)
        exact ⟨.empty, c, trivial, by simp [Body.step, no_digit, no_point, letter, text]⟩
      · exact ⟨.infinity earlier, c, ⟨first, before⟩, by simp [Body.step, spells]⟩
  | nan word =>
      obtain ⟨earlier, c, text, before, spells⟩ := last_letter valid
      by_cases first : earlier = []
      · subst first
        have named : nan_name[0]? = some 110 := rfl
        obtain ⟨letter, no_digit, no_point⟩ := first_letter spells named (by decide)
        exact ⟨.empty, c, trivial, by simp [Body.step, no_digit, no_point, letter, text]⟩
      · -- the word was not whole yet, so what came was a letter and no parenthesis
        have short : earlier.length ≠ 3 := by
          have := valid.2.length_le
          simp only [text, List.length_map, List.length_append, List.length_singleton] at this
          have three : nan_name.length = 3 := rfl
          omega
        exact ⟨.nan earlier, c, ⟨first, before⟩, by simp [Body.step, spells, short]⟩
  | nan_chars word chars =>
      obtain ⟨name, all⟩ := valid
      have three : word.length = 3 := by
        rw [← List.length_map tolower, name]
        rfl
      rcases List.eq_nil_or_concat chars with rfl | ⟨chars, c, rfl⟩
      · refine ⟨.nan word, 40, ⟨?_, name ▸ List.prefix_refl _⟩, by simp [Body.step, three]⟩
        rintro rfl
        cases three
      · rw [List.concat_eq_append] at all ⊢
        have char := all c (by simp)
        have within : c ≠ 41 := by
          rintro rfl
          exact absurd char (by decide)
        refine ⟨.nan_chars word chars, c, ⟨name, ?_⟩, by simp [Body.step, within, char]⟩
        exact fun d member => all d (List.mem_append_left _ member)
  | nan_closed word chars => exact ⟨.nan_chars word chars, 41, valid, by simp [Body.step]⟩

theorem numeral_before (valid : n.Valid) (read : n ≠ ⟨none, .empty⟩) :
    ∃ (earlier : Numeral) (c : UInt8), earlier.Valid ∧ earlier.step c = some n := by
  obtain ⟨sign, b⟩ := n
  by_cases bare : b = .empty
  · subst bare
    cases sign with
    | none => exact absurd rfl read
    | some c => exact ⟨⟨none, .empty⟩, c, ⟨by simp, trivial⟩, if_pos ⟨rfl, valid.signed c rfl⟩⟩
  · obtain ⟨earlier, c, before, stepped⟩ := body_before valid.body bare
    refine ⟨⟨sign, earlier⟩, c, ⟨valid.signed, before⟩, ?_⟩
    unfold Numeral.step
    rw [if_neg, stepped]
    · rfl
    · -- no numeral without a sign starts with one
      rintro ⟨same, signed⟩
      cases same
      simp only [issign, decide_eq_true_eq] at signed
      rcases signed with rfl | rfl <;> simp [Body.step, isdigit, tolower] at stepped

/-- Every numeral, and every prefix of one, is read. -/
theorem run_text {n : Numeral} (valid : n.Valid) : run lf lf.start n.text = some n := by
  by_cases start : n = ⟨none, .empty⟩
  · subst start
    rfl
  · -- the last character comes off, and what was before it is read already
    obtain ⟨earlier, c, before, stepped⟩ := numeral_before valid start
    have text := step_text stepped
    have shorter : earlier.text.length < n.text.length := by simp [text]
    rw [text, run_snoc (run_text before)]
    exact stepped
termination_by n.text.length

end Building

section Standard
variable {word input rest : List UInt8} {number : Number} {n : Numeral}

/-- What `strtod` takes for a number, and the number. -/
def Subject (word : List UInt8) (number : Number) : Prop :=
  ∃ n : Numeral, n.Valid ∧ n.text = word ∧ n.result = some number

/-- The states that are reached are the numerals and their prefixes. -/
theorem run_iff : run lf lf.start word = some n ↔ n.Valid ∧ n.text = word := by
  constructor
  · exact run_sound ⟨by simp [lf], trivial⟩
  · rintro ⟨valid, rfl⟩
    exact run_text valid

theorem matches_iff : Matches lf word number ↔ Subject word number := by
  simp only [Matches, Subject, run_iff, and_assoc]
  rfl

/-- A prefix of a numeral, and a numeral that it is a prefix of. -/
theorem body_completed {b : Body} (valid : b.Valid) :
    ∃ (whole : Body) (more : List UInt8), whole.Valid ∧ whole.text = b.text ++ more ∧
      whole.result ≠ none := by
  have spelt {name word : List UInt8} (lower : name.map tolower = name)
      (before : word.map tolower <+: name) :
      ∃ more, (word ++ more).map tolower = name := by
    obtain ⟨more, whole⟩ := before
    refine ⟨more, ?_⟩
    rw [← whole, List.map_append] at lower
    rw [List.map_append, (List.append_inj lower (by simp)).2, whole]
  cases b with
  | empty =>
      exact ⟨.mantissa ⟨none, [48], none⟩, [48], zero_valid, rfl, by decide⟩
  | mantissa m =>
      by_cases digits : m.digits = []
      · have digit : m.isdigit 48 := by
          unfold Mantissa.isdigit
          split_ifs <;> decide
        have stepped : m.step 48 = some (.mantissa (m.push 48)) := if_pos digit
        refine ⟨_, [48], mantissa_step_valid valid stepped, mantissa_step_text stepped, ?_⟩
        simp [Body.result, push_digits]
      · exact ⟨.mantissa m, [], valid, (List.append_nil _).symm, by simp [Body.result, digits]⟩
  | exponent m e =>
      by_cases digits : e.digits = []
      · have stepped : (Body.exponent m e).step 48 =
            some (.exponent m { e with digits := e.digits ++ [48] }) := rfl
        refine ⟨_, [48], body_step_valid valid stepped, body_step_text stepped, ?_⟩
        simp [Body.result]
      · exact ⟨.exponent m e, [], valid, (List.append_nil _).symm, by simp [Body.result, digits]⟩
  | infinity word =>
      obtain ⟨more, whole⟩ := spelt (by decide) valid.2
      have eight : (word ++ more).length = 8 := by
        rw [← List.length_map tolower, whole]
        rfl
      have complete : (Body.infinity (word ++ more)).Valid :=
        ⟨by simp [valid.1], whole ▸ List.prefix_refl _⟩
      refine ⟨.infinity (word ++ more), more, complete, rfl, ?_⟩
      simp only [Body.result, eight]
      decide
  | nan word =>
      obtain ⟨more, whole⟩ := spelt (by decide) valid.2
      have three : (word ++ more).length = 3 := by
        rw [← List.length_map tolower, whole]
        rfl
      have complete : (Body.nan (word ++ more)).Valid :=
        ⟨by simp [valid.1], whole ▸ List.prefix_refl _⟩
      refine ⟨.nan (word ++ more), more, complete, rfl, ?_⟩
      simp only [Body.result, three]
      decide
  | nan_chars word chars =>
      exact ⟨.nan_closed word chars, [41], valid, rfl, by simp [Body.result]⟩
  | nan_closed word chars =>
      exact ⟨.nan_closed word chars, [], valid, (List.append_nil _).symm, by simp [Body.result]⟩

theorem lf_live : Live lf := by
  intro word n reached
  obtain ⟨valid, rfl⟩ := run_iff.mp reached
  obtain ⟨whole, more, complete, text, number⟩ := body_completed valid.body
  have completed : run lf lf.start (n.text ++ more) = some ⟨n.sign, whole⟩ := by
    rw [run_iff]
    refine ⟨⟨valid.signed, complete⟩, ?_⟩
    rw [Numeral.text, text, Numeral.text, List.append_assoc]
  rw [run_append, reached] at completed
  obtain ⟨found, finished⟩ := Option.ne_none_iff_exists'.mp number
  have signed : Numeral.result ⟨n.sign, whole⟩ =
      some (if n.sign = some 45 then found.negate else found) := congrArg (Option.map _) finished
  exact ⟨more, ⟨n.sign, whole⟩, _, completed, signed⟩

/-- The rule of the standard: the input item is the longest sequence that is a number or a
prefix of one, and the conversion succeeds exactly when it is a number. -/
theorem scan_lf_iff : scan lf input = some (number, rest) ↔
    ∃ item, Longest lf input item ∧ input = item ++ rest ∧ Subject item number := by
  rw [scan_longest_iff lf_live]
  simp only [matches_iff]

end Standard

section Complete
variable {b : Body} {n : Numeral} {c : UInt8} {number : Number}

/-- A character that can stand behind a complete numeral only. -/
structure Foreign (c : UInt8) : Prop where
  not_digit : isxdigit c = false
  not_mark : c ∉ [40, 43, 45, 46]
  not_letter : tolower c ∉ [105, 112, 120]

instance (c : UInt8) : Decidable (Foreign c) :=
  decidable_of_iff (isxdigit c = false ∧ c ∉ [40, 43, 45, 46] ∧ tolower c ∉ [105, 112, 120])
    ⟨fun ⟨not_digit, not_mark, not_letter⟩ => ⟨not_digit, not_mark, not_letter⟩,
      fun foreign => ⟨foreign.not_digit, foreign.not_mark, foreign.not_letter⟩⟩

theorem foreign_not_decimal (foreign : Foreign c) : isdigit c = false := by
  have not_digit := foreign.not_digit
  simp only [isxdigit, decide_eq_false_iff_not, not_or] at not_digit
  simpa using not_digit.1

theorem mantissa_stops {m : Mantissa} (foreign : Foreign c) : m.step c = none := by
  have not_digit : m.isdigit c = false := by
    unfold Mantissa.isdigit
    split
    · exact foreign_not_decimal foreign
    · exact foreign.not_digit
  have not_point : c ≠ 46 := by
    rintro rfl
    exact foreign.not_mark (by decide)
  have not_x : tolower c ≠ 120 := fun x => foreign.not_letter (by simp [x])
  have not_exponent : tolower c ≠ m.mark := by
    unfold Mantissa.mark
    split
    · -- an e is a hexadecimal digit
      intro e
      have digit := foreign.not_digit
      simp [isxdigit, e] at digit
    · exact fun p => foreign.not_letter (by simp [p])
  simp [Mantissa.step, not_digit, not_point, not_x, not_exponent]

/-- A complete numeral does not go on with a foreign character. -/
theorem body_stops (foreign : Foreign c) (complete : b.result ≠ none) : b.step c = none := by
  cases b with
  | empty => exact absurd rfl complete
  | mantissa m => exact mantissa_stops foreign
  | exponent m e =>
      have no_sign : issign c = false := by
        simp only [issign, decide_eq_false_iff_not]
        rintro (rfl | rfl) <;> exact foreign.not_mark (by decide)
      simp [Body.step, Exponent.step, foreign_not_decimal foreign, no_sign]
  | infinity word =>
      simp only [Body.result] at complete
      split at complete
      · rename_i length
        -- behind inf there is an i, and behind infinity nothing
        have stops : spell infinity_name word c = none := by
          apply if_neg
          rcases length with three | eight
          · rw [three]
            intro same
            have i : tolower c = 105 := (Option.some.inj same).symm
            exact foreign.not_letter (by simp [i])
          · have ended : infinity_name[8]? = none := rfl
            rw [eight, ended]
            exact (Option.some_ne_none _).symm
        simp [Body.step, stops]
      · exact absurd rfl complete
  | nan word =>
      simp only [Body.result] at complete
      split at complete
      · rename_i three
        have closed : c ≠ 40 := by
          rintro rfl
          exact foreign.not_mark (by decide)
        have stops : spell nan_name word c = none := by
          have ended : nan_name[3]? = none := rfl
          apply if_neg
          rw [three, ended]
          exact (Option.some_ne_none _).symm
        simp [Body.step, closed, stops]
      · exact absurd rfl complete
  | nan_chars word chars => exact absurd rfl complete
  | nan_closed word chars => rfl

theorem numeral_stops (foreign : Foreign c) (complete : n.result = some number) :
    n.step c = none := by
  obtain ⟨found, finished, -⟩ := Option.map_eq_some_iff.mp complete
  unfold Numeral.step
  rw [body_stops foreign (finished ▸ Option.some_ne_none _), if_neg]
  · rfl
  · rintro ⟨rfl, -⟩
    cases finished

/-- No numeral starts with white space. -/
theorem start_not_space {next : Numeral} (stepped : lf.step lf.start c = some next) :
    isspace c = false := by
  cases space : isspace c with
  | false => rfl
  | true =>
      simp only [isspace, decide_eq_true_eq] at space
      have low : c ∈ [32, 9, 10, 11, 12, 13] := by
        rcases space with rfl | ⟨above, below⟩
        · decide
        · have := UInt8.le_iff_toNat_le.mp above
          have := UInt8.le_iff_toNat_le.mp below
          simp only [List.mem_cons, List.not_mem_nil, or_false, ← UInt8.toNat_inj]
          simp at *
          omega
      simp only [List.mem_cons, List.not_mem_nil, or_false] at low
      rcases low with rfl | rfl | rfl | rfl | rfl | rfl <;> cases stepped

/-- A complete numeral has a first character, and it is no white space. -/
theorem text_starts (valid : n.Valid) (complete : n.result = some number) (more : List UInt8) :
    skip_space (n.text ++ more) = n.text ++ more := by
  have reached := run_text valid
  cases text : n.text with
  | nil =>
      rw [text] at reached
      cases reached
      cases complete
  | cons c rest =>
      rw [text, run] at reached
      obtain ⟨next, stepped, -⟩ := Option.bind_eq_some_iff.mp reached
      have visible := start_not_space stepped
      simp [skip_space, visible]

/-- `%lf%c` reads white space, a numeral that does not go on, and one character more. -/
theorem sscanf_lf_c_iff {s : List UInt8} {next : Option UInt8} :
    sscanf_lf_c s = some (number, next) ↔
      ∃ (spaces : List UInt8) (n : Numeral) (more : List UInt8),
        s = spaces ++ n.text ++ more ∧ (∀ c ∈ spaces, isspace c) ∧ n.Valid ∧
          n.result = some number ∧ more.head? = next ∧ ∀ c ∈ next, n.step c = none := by
  constructor
  · intro scanned
    obtain ⟨⟨_, more⟩, read, same⟩ := Option.map_eq_some_iff.mp scanned
    obtain ⟨rfl, rfl⟩ := Prod.mk.inj same
    obtain ⟨item, n, left, reached, complete, stops⟩ := scan_iff.mp read
    obtain ⟨valid, rfl⟩ := run_iff.mp reached
    refine ⟨s.takeWhile isspace, n, more, ?_, fun c => List.mem_takeWhile_imp, valid, complete,
      rfl, stops⟩
    rw [List.append_assoc, ← left]
    exact List.takeWhile_append_dropWhile.symm
  · rintro ⟨spaces, n, more, rfl, blank, valid, complete, rfl, stops⟩
    have skipped : skip_space (spaces ++ n.text ++ more) = n.text ++ more := by
      rw [skip_space, List.append_assoc, List.dropWhile_append_of_pos blank]
      exact text_starts valid complete more
    rw [sscanf_lf_c, skipped,
      scan_iff.mpr ⟨n.text, n, rfl, run_text valid, complete, stops⟩]
    rfl

end Complete

end Iperf.FloatStandard
