import Mathlib.Data.Nat.Digits.Defs
import Mathlib.Tactic.SplitIfs
import MaskedLiterals.Proofs.SpliceReadback

/-!
# Texts that are one literal

An element is read from both ends: the marker is taken off its text, then a sign, then `0x`, and
digits have to be left.  A scan looks for literals anywhere in a text.  The two accept the same
texts: what is read is what a scan finds to be one literal and nothing else (`read_iff_scanned`).
So signs or markers in excess, a literal within other text and digits that are missing need no cases
of their own, they are cuts with another outcome.

They differ in the numbers.  A scan sets no bound to the digits, a magnitude takes 64 bits and a
value one less for the sign.  The number of a literal is told here by the places of its digits
(`hexNumber`), apart from the way it is read.
-/

namespace MaskedLiterals

variable {dialect : Dialect} {token : Token}

/-! ### Numbers by the places of their digits -/

def hexDigits : List Char :=
  ['0', '1', '2', '3', '4', '5', '6', '7', '8', '9', 'a', 'b', 'c', 'd', 'e', 'f']

/-- The number of a digit is its place in the order; capital letters count as small ones. -/
def hexDigitNumber (c : Char) : Nat := hexDigits.idxOf c.toLower

/-- The number that digits stand for.  Each counts sixteen times as much as the one behind it, so
    zeros in front do not count. -/
def hexNumber (digits : List Char) : Nat := Nat.ofDigits 16 (digits.reverse.map hexDigitNumber)

theorem NumeralBase.toNat_lt_of_isDigit {base : NumeralBase} {c : Char}
    (h : base.isDigit c = true) : c.toNat < 128 := by
  have hle {last : Char} (hlast : c ≤ last) : c.toNat ≤ last.toNat := hlast
  unfold isDigit digitValue? at h
  split at h
  · next d hd =>
    split_ifs at hd with hdecimal hsmall hcapital
    · exact Nat.lt_of_le_of_lt (hle hdecimal.2) (by decide)
    · exact Nat.lt_of_le_of_lt (hle hsmall.2) (by decide)
    · exact Nat.lt_of_le_of_lt (hle hcapital.2) (by decide)
  · cases h

theorem NumeralBase.isDigit_hex_of_isDigit {base : NumeralBase} {c : Char}
    (h : base.isDigit c = true) : hex.isDigit c = true := by
  have hradix : base.radix ≤ 16 := by cases base <;> decide
  unfold isDigit at h ⊢
  split at h
  · next d hd =>
    have hsmall := of_decide_eq_true h
    exact decide_eq_true (Nat.lt_of_lt_of_le hsmall hradix)
  · cases h

theorem NumeralBase.digitValue?_of_isDigit {base : NumeralBase} {c : Char}
    (h : base.isDigit c = true) : digitValue? c = some (hexDigitNumber c) := by
  have hall : ∀ n : Fin 128, hex.isDigit (Char.ofNat n) = true →
      digitValue? (Char.ofNat n) = some (hexDigitNumber (Char.ofNat n)) := by
    decide +kernel
  have hc := hall ⟨c.toNat, toNat_lt_of_isDigit h⟩
  rw [Char.ofNat_toNat] at hc
  exact hc (isDigit_hex_of_isDigit h)

/-- Digits read one after the other give the number by their places. -/
theorem NumeralBase.valueOf_eq_ofDigits {base : NumeralBase} {digits : List Char}
    (h : ∀ c ∈ digits, base.isDigit c = true) :
    base.valueOf digits = Nat.ofDigits base.radix (digits.reverse.map hexDigitNumber) := by
  induction digits using List.reverseRecOn with
  | nil => rfl
  | append_singleton digits c ih =>
    rw [valueOf_concat, ih fun d hd => h d (by simp [hd]), digitValue?_of_isDigit (h c (by simp))]
    simp [Nat.ofDigits_cons, Nat.add_comm]

theorem NumeralBase.valueOf_eq_hexNumber {digits : List Char}
    (h : ∀ c ∈ digits, hex.isDigit c = true) : hex.valueOf digits = hexNumber digits :=
  valueOf_eq_ofDigits h

/-! ### One literal and nothing else -/

theorem Token.sign_of_raw_eq {sign : Sign} {digits : List Char}
    (h : token.raw.toList = literalChars dialect.marker sign digits) : token.sign = sign := by
  unfold Token.sign
  cases sign <;> simp [h, literalChars, Sign.chars]

theorem literalChars_inj {marker : Char} {sign : Sign} {digits others : List Char}
    (h : literalChars marker sign digits = literalChars marker sign others) : digits = others := by
  simpa [literalChars] using h

/-- **A text is a literal exactly if a scan finds it to be one**, and finds nothing else. -/
theorem literalsOf_eq_singleton_iff :
    dialect.literalsOf token.raw = [token] ↔ IsLiteral dialect.marker token.raw.toList := by
  constructor
  · intro h
    have hmem : token ∈ dialect.literalsOf token.raw := by simp [h]
    exact isLiteral_of_mem_literalsOf hmem
  · intro h
    have hpiece : IsExactPiece dialect.marker [] token.raw.toList :=
      ⟨h, isLiteralFree_nil, by simp⟩
    have hcut := cut_append_piece dialect.isMarker hpiece []
    simp only [List.nil_append, List.append_nil, cut_nil] at hcut
    simp [Dialect.literalsOf, Dialect.cut, hcut, Cut.pushPiece, Cut.empty, Cut.literals]

/-- A scan finds one literal, which is the whole text and has this number. -/
structure Token.IsScannedAs (dialect : Dialect) (token : Token) (n : Nat) : Prop where
  literals_eq : dialect.literalsOf token.raw = [token]
  number : ∃ digits, token.raw.toList = literalChars dialect.marker token.sign digits
    ∧ hexNumber digits = n

theorem Token.isScannedAs_iff {n : Nat} :
    token.IsScannedAs dialect n
      ↔ ∃ digits, IsDigitRun digits
        ∧ token.raw.toList = literalChars dialect.marker token.sign digits
        ∧ NumeralBase.hex.valueOf digits = n := by
  constructor
  · rintro ⟨hliterals, digits, hraw, rfl⟩
    obtain ⟨sign, run, hrun, hliteral⟩ := literalsOf_eq_singleton_iff.1 hliterals
    obtain rfl := Token.sign_of_raw_eq hliteral
    obtain rfl := literalChars_inj (hraw.symm.trans hliteral)
    exact ⟨digits, hrun, hraw, NumeralBase.valueOf_eq_hexNumber hrun.2⟩
  · rintro ⟨digits, hrun, hraw, rfl⟩
    exact ⟨literalsOf_eq_singleton_iff.2 ⟨token.sign, digits, hrun, hraw⟩, digits, hraw,
      (NumeralBase.valueOf_eq_hexNumber hrun.2).symm⟩

/-- The elements of a text are scanned as numbers. -/
theorem Token.exists_isScannedAs_of_parse {text : String} {tokens : List Token}
    (h : dialect.parse text = .ok tokens) (hmem : token ∈ tokens) :
    ∃ n, token.IsScannedAs dialect n := by
  obtain ⟨-, rfl⟩ := parse_eq_ok_iff.1 h
  obtain ⟨sign, digits, hrun, hraw⟩ := isLiteral_of_mem_literalsOf hmem
  obtain rfl := Token.sign_of_raw_eq hraw
  exact ⟨_, Token.isScannedAs_iff.2 ⟨digits, hrun, hraw, rfl⟩⟩

/-! ### Reading and scanning -/

theorem Token.magnitude_eq_ok_iff {n : Nat} :
    token.magnitude dialect = .ok n ↔ token.IsScannedAs dialect n ∧ n < 2 ^ 64 := by
  rw [Token.isScannedAs_iff, Token.magnitude, map_eq_ok_iff]
  constructor
  · rintro ⟨⟨sign, m⟩, hread, rfl⟩
    obtain ⟨digits, hrun, hraw, rfl, hsize⟩ := Token.signMagnitude_eq_ok_iff.1 hread
    obtain rfl := Token.sign_of_raw_eq hraw
    exact ⟨⟨digits, hrun, hraw, rfl⟩, hsize⟩
  · rintro ⟨⟨digits, hrun, hraw, rfl⟩, hsize⟩
    exact ⟨_, Token.signMagnitude_eq_ok_iff.2 ⟨digits, hrun, hraw, rfl, hsize⟩, rfl⟩

theorem Token.value_eq_ok_iff_isScannedAs {word : Word} :
    token.value dialect = .ok word
      ↔ ∃ n, token.IsScannedAs dialect n ∧ word.toInt = token.sign.apply n := by
  rw [Token.value_eq_ok_iff]
  constructor
  · rintro ⟨sign, digits, hrun, hraw, hword⟩
    obtain rfl := Token.sign_of_raw_eq hraw
    exact ⟨_, Token.isScannedAs_iff.2 ⟨digits, hrun, hraw, rfl⟩, hword⟩
  · rintro ⟨n, hscanned, hword⟩
    obtain ⟨digits, hrun, hraw, rfl⟩ := Token.isScannedAs_iff.1 hscanned
    exact ⟨token.sign, digits, hrun, hraw, hword⟩

theorem Token.magnitude_eq_error {refusal : Refusal}
    (h : token.magnitude dialect = .error refusal) : refusal = .malformedLiteral token.raw :=
  Token.signMagnitude_eq_error (map_eq_error_iff.1 h)

def IsWordNumber (v : Int) : Prop := -2 ^ 63 ≤ v ∧ v ≤ 2 ^ 63 - 1

theorem isWordNumber_toInt (word : Word) : IsWordNumber word.toInt := by
  have hlow := Int64.le_toInt word
  have hhigh := Int64.toInt_lt word
  constructor <;> omega

theorem Token.exists_value_iff_isWordNumber {n : Nat} (h : token.IsScannedAs dialect n) :
    (∃ word, token.value dialect = .ok word ∧ word.toInt = token.sign.apply n)
      ↔ IsWordNumber (token.sign.apply n) := by
  constructor
  · rintro ⟨word, -, hword⟩
    rw [← hword]
    exact isWordNumber_toInt word
  · intro hfits
    have hword : (Int64.ofInt (token.sign.apply n)).toInt = token.sign.apply n :=
      Int64.toInt_ofInt_of_le hfits.1 (Int.lt_of_le_sub_one hfits.2)
    exact ⟨_, Token.value_eq_ok_iff_isScannedAs.2 ⟨n, h, hword⟩, hword⟩

/-- The value of an element is its magnitude with its sign, where that is the number of a word. -/
theorem Token.exists_value_iff_magnitude {v : Int} :
    (∃ word, token.value dialect = .ok word ∧ word.toInt = v)
      ↔ ∃ n, token.magnitude dialect = .ok n ∧ v = token.sign.apply n ∧ IsWordNumber v := by
  constructor
  · rintro ⟨word, hvalue, rfl⟩
    obtain ⟨n, hscanned, hword⟩ := Token.value_eq_ok_iff_isScannedAs.1 hvalue
    have hfits := isWordNumber_toInt word
    -- a number of at most 63 bits and a sign needs no 64 bits for its magnitude
    have hsize : n < 2 ^ 64 := by
      obtain ⟨hlow, hhigh⟩ := hfits
      cases hsign : token.sign <;> simp only [hsign, Sign.apply] at hword <;> omega
    exact ⟨n, Token.magnitude_eq_ok_iff.2 ⟨hscanned, hsize⟩, hword, hfits⟩
  · rintro ⟨n, hmagnitude, rfl, hfits⟩
    exact (Token.exists_value_iff_isWordNumber (Token.magnitude_eq_ok_iff.1 hmagnitude).1).2 hfits

/-- **What is read is what a scan finds to be one literal and nothing else.**  An element has the
    magnitude that a scan of its text gives, if that is below `2^64`, and its value is the magnitude
    with the sign that the text begins with, if there is such a word.  In all other cases magnitude
    and value are refused for the text as it is.  So an element that was found in a text can lack a
    value only because its number is out of range. -/
theorem read_iff_scanned (dialect : Dialect) (token : Token) :
    (∀ n, token.magnitude dialect = .ok n ↔ token.IsScannedAs dialect n ∧ n < 2 ^ 64)
    ∧ (∀ v : Int, (∃ word, token.value dialect = .ok word ∧ word.toInt = v)
      ↔ ∃ n, token.magnitude dialect = .ok n ∧ v = token.sign.apply n ∧ IsWordNumber v)
    ∧ ((∀ n, token.IsScannedAs dialect n → 2 ^ 64 ≤ n) →
      token.magnitude dialect = .error (.malformedLiteral token.raw))
    ∧ ((∀ n, token.IsScannedAs dialect n → ¬ IsWordNumber (token.sign.apply n)) →
      token.value dialect = .error (.malformedLiteral token.raw))
    ∧ (∀ (text : String) (tokens : List Token), dialect.parse text = .ok tokens → token ∈ tokens →
      (∀ word, token.value dialect ≠ .ok word) →
      ∃ n, token.IsScannedAs dialect n ∧ ¬ IsWordNumber (token.sign.apply n)) := by
  refine ⟨fun _ => Token.magnitude_eq_ok_iff, fun _ => Token.exists_value_iff_magnitude, ?_, ?_, ?_⟩
  · intro hlarge
    cases hread : token.magnitude dialect with
    | ok n =>
      obtain ⟨hscanned, hsize⟩ := Token.magnitude_eq_ok_iff.1 hread
      exact absurd hsize (Nat.not_lt_of_le (hlarge n hscanned))
    | error refusal => rw [Token.magnitude_eq_error hread]
  · intro hexceeds
    cases hread : token.value dialect with
    | ok word =>
      obtain ⟨n, hscanned, hword⟩ := Token.value_eq_ok_iff_isScannedAs.1 hread
      exact absurd (hword ▸ isWordNumber_toInt word) (hexceeds n hscanned)
    | error refusal => rw [Token.value_eq_error hread]
  · intro text tokens hparse hmem hnone
    obtain ⟨n, hscanned⟩ := Token.exists_isScannedAs_of_parse hparse hmem
    refine ⟨n, hscanned, fun hfits => ?_⟩
    obtain ⟨word, hvalue, -⟩ := (Token.exists_value_iff_isWordNumber hscanned).2 hfits
    exact hnone word hvalue

/-- A scan finds a literal in a text that has one sign too many, but it is not the whole text. -/
example : Dialect.smaliShort.literalsOf "--0x5s" = [⟨"-0x5s"⟩]
    ∧ (⟨"--0x5s"⟩ : Token).magnitude .smaliShort = .error (.malformedLiteral "--0x5s") := by
  constructor <;> cbv

end MaskedLiterals
