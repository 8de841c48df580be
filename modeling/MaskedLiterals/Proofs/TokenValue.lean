import MaskedLiterals.Proofs.LiteralForm

/-!
# Elements as literals

An element has a value exactly if it is a literal whose number is a word (`value_eq_ok_iff`), and an
element that was written for a word is a literal with the number of that word (`value_ofWord`,
`value_ofWordPadded`).  So the reader of elements and the form that the scan looks for agree, and
nothing that is written fails to be read.
-/

namespace MaskedLiterals

def Sign.apply : Sign → Nat → Int
  | .positive, n => n
  | .negative, n => -n

/-- The sign that a word is written with; zero has none. -/
def Word.sign (word : Word) : Sign := if word.toInt < 0 then .negative else .positive

/-! ### Words by sign and magnitude -/

theorem Word.sign_apply_magnitude (word : Word) :
    word.sign.apply word.magnitude = word.toInt := by
  unfold Word.sign Word.magnitude
  split
  · simp only [Sign.apply]
    omega
  · simp only [Sign.apply]
    omega

/-- A word has this sign and magnitude exactly if it is their number. -/
theorem Word.ofSignMagnitude?_eq_some_iff {sign : Sign} {n : Nat} {word : Word} :
    ofSignMagnitude? sign n = some word ↔ word.toInt = sign.apply n := by
  have hlow := Int64.le_toInt word
  have hhigh := Int64.toInt_lt word
  have hleast : leastMagnitude = 2 ^ 63 := rfl
  cases sign with
  | positive =>
    simp only [ofSignMagnitude?, Sign.apply, Option.ite_none_right_eq_some, Option.some.injEq]
    constructor
    · rintro ⟨hn, rfl⟩
      exact Int64.toInt_ofNat_of_lt (by omega)
    · intro h
      refine ⟨by omega, ?_⟩
      rw [← Int64.ofInt_eq_ofNat, ← h, Int64.ofInt_toInt]
  | negative =>
    simp only [ofSignMagnitude?, Sign.apply, Option.ite_none_right_eq_some, Option.some.injEq]
    constructor
    · rintro ⟨hn, rfl⟩
      exact Int64.toInt_ofInt_of_le (by omega) (by omega)
    · intro h
      refine ⟨by omega, ?_⟩
      rw [← h, Int64.ofInt_toInt]

/-! ### Digits that are written -/

namespace NumeralBase

theorem isDigit_digitChar {base : NumeralBase} {d : Nat} (h : d < base.radix) :
    base.isDigit d.digitChar = true := by
  have hradix : base.radix ≤ 16 := by cases base <;> decide
  simp [isDigit, digitValue?_digitChar (Nat.lt_of_lt_of_le h hradix), h]

/-- What is written are digits of the base, in the case in which `Nat.digitChar` gives them. -/
theorem exists_digitChar_of_mem_digitsOf {base : NumeralBase} {value : Nat} {c : Char}
    (h : c ∈ base.digitsOf value) : ∃ d, d < base.radix ∧ c = d.digitChar := by
  induction value using Nat.strongRecOn with
  | ind value ih =>
    have hpos : 0 < base.radix := Nat.lt_of_succ_lt base.radix_pos
    by_cases hsmall : value < base.radix
    · refine ⟨value, hsmall, ?_⟩
      simpa [digitsOf, Nat.toDigits_of_lt_base hsmall] using h
    · have hle := Nat.le_of_not_lt hsmall
      rw [digitsOf, Nat.toDigits_of_base_le base.radix_pos hle] at h
      rcases List.mem_append.1 h with hfront | hlast
      · exact ih _ (Nat.div_lt_self (by omega) base.radix_pos) hfront
      · exact ⟨_, Nat.mod_lt _ hpos, List.mem_singleton.1 hlast⟩

theorem isDigit_of_mem_digitsOf {base : NumeralBase} {value : Nat} {c : Char}
    (h : c ∈ base.digitsOf value) : base.isDigit c = true := by
  obtain ⟨d, hd, rfl⟩ := exists_digitChar_of_mem_digitsOf h
  exact isDigit_digitChar hd

theorem isDigitRun_paddedDigits (width value : Nat) :
    IsDigitRun (hex.paddedDigits width value) := by
  constructor
  · intro hnil
    have hdigits := List.append_eq_nil_iff.1 hnil
    exact Nat.toDigits_ne_nil hdigits.2
  · intro c hmem
    rcases List.mem_append.1 hmem with hzero | hdigit
    · obtain ⟨-, rfl⟩ := List.mem_replicate.1 hzero
      rfl
    · exact isDigit_of_mem_digitsOf hdigit

end NumeralBase

namespace Token

variable {dialect : Dialect}

/-! ### Reading -/

theorem beforeMarker?_eq_some_iff {marker : Char} {text body : List Char} :
    beforeMarker? marker text = some body ↔ text = body ++ [marker] := by
  unfold beforeMarker?
  constructor
  · intro h
    split at h
    · next hlast =>
      obtain ⟨front, rfl⟩ := List.getLast?_eq_some_iff.1 hlast
      cases h
      simp
    · cases h
  · rintro rfl
    simp

theorem afterPrefix?_eq_some_iff {text digits : List Char} :
    afterPrefix? text = some digits ↔ text = '0' :: 'x' :: digits := by
  unfold afterPrefix?
  split
  · simp [eq_comm]
  · next hno => exact ⟨(nomatch ·), fun h => absurd h (hno digits)⟩

theorem splitSign_chars_append (text : List Char) :
    (splitSign text).1.chars ++ (splitSign text).2 = text := by
  unfold splitSign
  split <;> rfl

theorem signedDigits?_eq_some_iff {text digits : List Char} {sign : Sign} :
    signedDigits? dialect text = some (sign, digits)
      ↔ IsDigitRun digits ∧ text = literalChars dialect.marker sign digits := by
  unfold signedDigits?
  constructor
  · intro h
    obtain ⟨body, hbody, h⟩ := Option.bind_eq_some_iff.1 h
    obtain ⟨run, hrun, h⟩ := Option.bind_eq_some_iff.1 h
    split at h
    · next hdigits =>
      simp only [Option.some.injEq, Prod.mk.injEq] at h
      obtain ⟨rfl, rfl⟩ := h
      refine ⟨⟨hdigits.1, List.all_eq_true.1 hdigits.2⟩, ?_⟩
      rw [beforeMarker?_eq_some_iff.1 hbody, literalChars, ← afterPrefix?_eq_some_iff.1 hrun,
        splitSign_chars_append]
    · cases h
  · rintro ⟨⟨hne, hdigits⟩, rfl⟩
    have hbody : beforeMarker? dialect.marker (literalChars dialect.marker sign digits)
        = some (sign.chars ++ '0' :: 'x' :: digits) := beforeMarker?_eq_some_iff.2 rfl
    have hsplit : splitSign (sign.chars ++ '0' :: 'x' :: digits) = (sign, '0' :: 'x' :: digits) := by
      cases sign <;> rfl
    have hrun : digits ≠ [] ∧ digits.all NumeralBase.hex.isDigit = true :=
      ⟨hne, List.all_eq_true.2 hdigits⟩
    rw [hbody, Option.bind_eq_bind, Option.bind_some, hsplit]
    show (if digits ≠ [] ∧ digits.all NumeralBase.hex.isDigit = true then _ else _) = _
    rw [if_pos hrun]

theorem signMagnitude_eq_ok_iff {token : Token} {sign : Sign} {n : Nat} :
    token.signMagnitude dialect = .ok (sign, n)
      ↔ ∃ digits, IsDigitRun digits ∧ token.raw.toList = literalChars dialect.marker sign digits
        ∧ n = NumeralBase.hex.valueOf digits ∧ n < UInt64.size := by
  unfold signMagnitude
  constructor
  · intro h
    split at h
    · next read digits hread =>
      split at h
      · next hsize =>
        obtain ⟨hdigits, hraw⟩ := signedDigits?_eq_some_iff.1 hread
        cases h
        exact ⟨digits, hdigits, hraw, rfl, hsize⟩
      · cases h
    · cases h
  · rintro ⟨digits, hdigits, hraw, rfl, hsize⟩
    rw [signedDigits?_eq_some_iff.2 ⟨hdigits, hraw⟩]
    exact if_pos hsize

theorem value_eq_ok_iff_signMagnitude {token : Token} {word : Word} :
    token.value dialect = .ok word
      ↔ ∃ sign n, token.signMagnitude dialect = .ok (sign, n) ∧ word.toInt = sign.apply n := by
  unfold value
  cases hread : token.signMagnitude dialect with
  | error refusal => simp [bind, Except.bind]
  | ok read =>
    obtain ⟨sign, n⟩ := read
    simp only [bind, Except.bind, Except.ok.injEq, Prod.mk.injEq, ← Word.ofSignMagnitude?_eq_some_iff]
    cases hword : Word.ofSignMagnitude? sign n with
    | none =>
      simp only [reduceCtorEq, false_iff]
      rintro ⟨_, _, ⟨rfl, rfl⟩, h⟩
      rw [hword] at h
      cases h
    | some found =>
      constructor
      · intro h
        cases h
        exact ⟨sign, n, ⟨rfl, rfl⟩, hword⟩
      · rintro ⟨_, _, ⟨rfl, rfl⟩, h⟩
        rw [hword] at h
        cases h
        rfl

/-- **An element has a value exactly if it is a literal and its number is a word.** -/
theorem value_eq_ok_iff {token : Token} {word : Word} :
    token.value dialect = .ok word
      ↔ ∃ sign digits, IsDigitRun digits
        ∧ token.raw.toList = literalChars dialect.marker sign digits
        ∧ word.toInt = sign.apply (NumeralBase.hex.valueOf digits) := by
  rw [value_eq_ok_iff_signMagnitude]
  constructor
  · rintro ⟨sign, n, hread, hword⟩
    obtain ⟨digits, hdigits, hraw, rfl, -⟩ := signMagnitude_eq_ok_iff.1 hread
    exact ⟨sign, digits, hdigits, hraw, hword⟩
  · rintro ⟨sign, digits, hdigits, hraw, hword⟩
    -- what fits a word fits 64 bits without a sign
    have hsize : NumeralBase.hex.valueOf digits < UInt64.size := by
      have hlow := Int64.le_toInt word
      have hhigh := Int64.toInt_lt word
      have hwide : UInt64.size = 2 ^ 64 := rfl
      cases sign <;> simp only [Sign.apply] at hword <;> omega
    exact ⟨sign, _, signMagnitude_eq_ok_iff.2 ⟨digits, hdigits, hraw, rfl, hsize⟩, hword⟩

theorem isLiteral_of_value_eq_ok {token : Token} {word : Word}
    (h : token.value dialect = .ok word) : IsLiteral dialect.marker token.raw.toList := by
  obtain ⟨sign, digits, hdigits, hraw, -⟩ := value_eq_ok_iff.1 h
  exact ⟨sign, digits, hdigits, hraw⟩

theorem nonpos_of_head?_eq_hyphen {token : Token} {word : Word}
    (hsign : token.raw.toList.head? = some '-') (h : token.value dialect = .ok word) :
    word.toInt ≤ 0 := by
  obtain ⟨sign, digits, -, hraw, hword⟩ := value_eq_ok_iff.1 h
  cases sign with
  | positive =>
    rw [hraw] at hsign
    simp [literalChars, Sign.chars] at hsign
  | negative =>
    rw [hword, Sign.apply]
    omega

theorem nonneg_of_head?_ne_hyphen {token : Token} {word : Word}
    (hsign : token.raw.toList.head? ≠ some '-') (h : token.value dialect = .ok word) :
    0 ≤ word.toInt := by
  obtain ⟨sign, digits, -, hraw, hword⟩ := value_eq_ok_iff.1 h
  cases sign with
  | positive =>
    rw [hword, Sign.apply]
    omega
  | negative =>
    rw [hraw] at hsign
    simp [literalChars, Sign.chars] at hsign

/-! ### Writing -/

theorem charsOfWord_eq_literalChars (marker : Char) (width : Nat) (word : Word) :
    charsOfWord marker width word
      = literalChars marker word.sign (NumeralBase.hex.paddedDigits width word.magnitude) := by
  unfold charsOfWord literalChars Word.sign
  split <;> rfl

/-- What is written for a word at any width denotes the word. -/
theorem value_of_raw_eq {token : Token} {word : Word} (width : Nat)
    (h : token.raw.toList = charsOfWord dialect.marker width word) :
    token.value dialect = .ok word := by
  refine value_eq_ok_iff.2 ⟨word.sign, _, NumeralBase.isDigitRun_paddedDigits width word.magnitude,
    by rw [h, charsOfWord_eq_literalChars], ?_⟩
  rw [NumeralBase.valueOf_paddedDigits, Word.sign_apply_magnitude]

theorem value_ofWord (dialect : Dialect) (word : Word) :
    (ofWord dialect word).value dialect = .ok word :=
  value_of_raw_eq 1 String.toList_ofList

theorem value_ofWordPadded (dialect : Dialect) (word : Word) :
    (ofWordPadded dialect word).value dialect = .ok word :=
  value_of_raw_eq dialect.padWidth String.toList_ofList

end Token

end MaskedLiterals
