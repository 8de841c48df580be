import Mathlib.Data.Nat.Log
import MaskedLiterals.Proofs.WholeLiteral

/-!
# The shortest form of a literal

A word is written with a sign only if it is below zero, and with small letters: as many digits as
its magnitude needs, or the width that was asked for if that is more (`IsWrittenFor`).  Zeros in
front, capital letters and the sign of a zero are what can vary in the text of an element without a
change of its value.  None of them makes a text shorter, so the form that is written for a word at
width one stands for all texts with this value (`written_isCanonical`).

The digits of a number are counted by the powers of sixteen (`hexLength_le_iff`), apart from the way
they are made.
-/

namespace MaskedLiterals

variable {dialect : Dialect}

/-! ### How many digits a number has -/

/-- How many hexadecimal digits a number needs; zero needs one. -/
def hexLength (n : Nat) : Nat := Nat.log 16 n + 1

theorem hexLength_le_iff {n k : Nat} : hexLength n ≤ k ↔ 0 < k ∧ n < 16 ^ k := by
  unfold hexLength
  by_cases hn : n = 0
  · subst hn
    simp [Nat.succ_le_iff]
  · rw [← Nat.log_lt_iff_lt_pow (by decide) hn]
    omega

namespace NumeralBase

theorem length_digitsOf_hex (n : Nat) : (hex.digitsOf n).length = hexLength n := by
  apply eq_of_forall_ge_iff
  intro k
  rw [hexLength_le_iff]
  by_cases hk : 0 < k
  · rw [digitsOf, Nat.length_toDigits_le_iff hex.radix_pos hk]
    simp [hk, radix]
  · have hpos : 0 < (hex.digitsOf n).length := Nat.length_toDigits_pos
    omega

theorem hexNumber_paddedDigits (width n : Nat) : hexNumber (hex.paddedDigits width n) = n := by
  have hrun := isDigitRun_paddedDigits width n
  rw [← valueOf_eq_hexNumber hrun.2, valueOf_paddedDigits]

theorem length_paddedDigits_hex (width n : Nat) :
    (hex.paddedDigits width n).length = max width (hexLength n) := by
  rw [paddedDigits, List.length_leftpad, length_digitsOf_hex]

theorem lt_of_mem_map_hexDigitNumber {digits : List Char} (h : ∀ c ∈ digits, hex.isDigit c = true) :
    ∀ d ∈ digits.reverse.map hexDigitNumber, d < 16 := by
  intro d hd
  obtain ⟨c, hc, rfl⟩ := List.mem_map.1 hd
  have hdigit := h c (List.mem_reverse.1 hc)
  rw [isDigit, digitValue?_of_isDigit hdigit] at hdigit
  exact of_decide_eq_true hdigit

/-- A number needs no more digits than it is given with. -/
theorem hexLength_valueOf_le {digits : List Char} (h : IsDigitRun digits) :
    hexLength (hex.valueOf digits) ≤ digits.length := by
  obtain ⟨hne, hdigits⟩ := h
  rw [hexLength_le_iff, valueOf_eq_hexNumber hdigits]
  refine ⟨List.length_pos_iff.2 hne, ?_⟩
  have hbound := Nat.ofDigits_lt_base_pow_length (by decide) (lt_of_mem_map_hexDigitNumber hdigits)
  simpa [hexNumber] using hbound

end NumeralBase

/-! ### Which letters are written -/

theorem mem_hexDigits_iff {c : Char} : c ∈ hexDigits ↔ ∃ d, d < 16 ∧ d.digitChar = c := by
  have horder : hexDigits = (List.range 16).map Nat.digitChar := by decide
  rw [horder, List.mem_map]
  simp only [List.mem_range]

theorem hexDigitNumber_digitChar {d : Nat} (h : d < 16) : hexDigitNumber d.digitChar = d := by
  have hall : ∀ d : Fin 16, hexDigitNumber d.val.digitChar = d.val := by decide
  exact hall ⟨d, h⟩

theorem NumeralBase.mem_hexDigits_of_mem_paddedDigits {width n : Nat} {c : Char}
    (h : c ∈ hex.paddedDigits width n) : c ∈ hexDigits := by
  rcases List.mem_append.1 h with hzero | hdigit
  · obtain ⟨-, rfl⟩ := List.mem_replicate.1 hzero
    decide
  · obtain ⟨d, hd, rfl⟩ := exists_digitChar_of_mem_digitsOf hdigit
    exact mem_hexDigits_iff.2 ⟨d, hd, rfl⟩

theorem isDigit_of_mem_hexDigits {c : Char} (h : c ∈ hexDigits) :
    NumeralBase.hex.isDigit c = true := by
  obtain ⟨d, hd, rfl⟩ := mem_hexDigits_iff.1 h
  exact NumeralBase.isDigit_digitChar hd

/-- Small letters are known by their numbers. -/
theorem map_digitChar_map_hexDigitNumber {digits : List Char} (h : ∀ c ∈ digits, c ∈ hexDigits) :
    (digits.map hexDigitNumber).map Nat.digitChar = digits := by
  have hsame : ∀ c ∈ digits, (Nat.digitChar ∘ hexDigitNumber) c = id c := by
    intro c hc
    obtain ⟨d, hd, rfl⟩ := mem_hexDigits_iff.1 (h c hc)
    rw [Function.comp_apply, hexDigitNumber_digitChar hd, id]
  rw [List.map_map, List.map_congr_left hsame, List.map_id]

/-- As many small letters with the same number are the same letters. -/
theorem eq_of_hexNumber_eq {digits others : List Char} (hdigits : ∀ c ∈ digits, c ∈ hexDigits)
    (hothers : ∀ c ∈ others, c ∈ hexDigits) (hlength : digits.length = others.length)
    (h : hexNumber digits = hexNumber others) : digits = others := by
  have hplaces := Nat.ofDigits_inj_of_len_eq (by decide) (by simpa using hlength)
    (NumeralBase.lt_of_mem_map_hexDigitNumber fun c hc => isDigit_of_mem_hexDigits (hdigits c hc))
    (NumeralBase.lt_of_mem_map_hexDigitNumber fun c hc => isDigit_of_mem_hexDigits (hothers c hc)) h
  rw [List.map_reverse, List.map_reverse, List.reverse_inj] at hplaces
  have hletters := congrArg (List.map Nat.digitChar) hplaces
  rwa [map_digitChar_map_hexDigitNumber hdigits, map_digitChar_map_hexDigitNumber hothers]
    at hletters

/-! ### The text that is written -/

namespace Token

/-- The element is a literal for the word: it has a sign exactly below zero, only small letters, and
    the digits of the magnitude with zeros in front up to the width. -/
structure IsWrittenFor (dialect : Dialect) (width : Nat) (word : Word) (token : Token) : Prop where
  literals_eq : dialect.literalsOf token.raw = [token]
  value_eq : token.value dialect = .ok word
  sign_iff : token.raw.toList.head? = some '-' ↔ word.toInt < 0
  digits : ∃ digits, token.raw.toList = literalChars dialect.marker word.sign digits
    ∧ hexNumber digits = word.magnitude
    ∧ digits.length = max width (hexLength word.magnitude)
    ∧ ∀ c ∈ digits, c ∈ hexDigits

theorem head?_literalChars_eq_hyphen_iff {marker : Char} {sign : Sign} {digits : List Char} :
    (literalChars marker sign digits).head? = some '-' ↔ sign = .negative := by
  cases sign <;> simp [literalChars, Sign.chars]

theorem sign_eq_negative_iff {word : Word} : word.sign = .negative ↔ word.toInt < 0 := by
  unfold Word.sign
  split <;> simp_all

/-- **One text meets the description, and it is the one that is written.** -/
theorem isWrittenFor_iff {token : Token} {word : Word} {width : Nat} :
    token.IsWrittenFor dialect width word
      ↔ token.raw.toList = charsOfWord dialect.marker width word := by
  have hnumber := NumeralBase.hexNumber_paddedDigits width word.magnitude
  have hlength := NumeralBase.length_paddedDigits_hex width word.magnitude
  have hsmall : ∀ c ∈ NumeralBase.hex.paddedDigits width word.magnitude, c ∈ hexDigits := by
    intro c hc
    exact NumeralBase.mem_hexDigits_of_mem_paddedDigits hc
  constructor
  · rintro ⟨-, -, -, digits, hraw, hsame, hsize, hletters⟩
    have hdigits : digits = NumeralBase.hex.paddedDigits width word.magnitude :=
      eq_of_hexNumber_eq hletters hsmall (hsize.trans hlength.symm) (hsame.trans hnumber.symm)
    rw [hraw, hdigits, charsOfWord_eq_literalChars]
  · intro h
    have hvalue := value_of_raw_eq width h
    rw [charsOfWord_eq_literalChars] at h
    refine ⟨literalsOf_eq_singleton_iff.2 (isLiteral_of_value_eq_ok hvalue), hvalue, ?_, _, h,
      hnumber, hlength, hsmall⟩
    rw [h, head?_literalChars_eq_hyphen_iff, sign_eq_negative_iff]

theorem isWrittenFor_iff_eq_ofList {token : Token} {word : Word} {width : Nat} :
    token.IsWrittenFor dialect width word
      ↔ token = ⟨String.ofList (charsOfWord dialect.marker width word)⟩ := by
  rw [isWrittenFor_iff, Token.mk.injEq, ← String.toList_inj, String.toList_ofList]

/-! ### No other text is shorter -/

theorem length_literalChars (marker : Char) (sign : Sign) (digits : List Char) :
    (literalChars marker sign digits).length = sign.chars.length + digits.length + 3 := by
  simp [literalChars]
  omega

theorem octets_of_ascii {text : List Char} (h : ∀ c ∈ text, c.toNat < 128) :
    Text.octets text = text.length := by
  induction text with
  | nil => rfl
  | cons c text ih =>
    obtain ⟨hc, hothers⟩ := List.forall_mem_cons.1 h
    have hone : c.utf8Size = 1 := Char.utf8Size_eq_one_iff.2 (Nat.le_of_lt_succ hc)
    have hbehind := ih hothers
    simp only [Text.octets, String.utf8ByteSize_ofList, String.utf8Len_cons] at hbehind ⊢
    rw [hbehind, hone, List.length_cons]

/-- All of a literal but the marker takes one octet a character. -/
theorem octets_literalChars {marker : Char} {sign : Sign} {digits : List Char}
    (h : IsDigitRun digits) :
    Text.octets (literalChars marker sign digits)
      = sign.chars.length + digits.length + 2 + marker.utf8Size := by
  have hascii : ∀ c ∈ sign.chars ++ '0' :: 'x' :: digits, c.toNat < 128 := by
    intro c hc
    rcases List.mem_append.1 hc with hsign | hbody
    · cases sign with
      | positive => cases hsign
      | negative =>
        obtain rfl := List.mem_singleton.1 hsign
        decide
    · rcases List.mem_cons.1 hbody with rfl | hbody
      · decide
      · rcases List.mem_cons.1 hbody with rfl | hdigit
        · decide
        · exact NumeralBase.toNat_lt_of_isDigit (h.2 c hdigit)
  have hmarker : Text.octets [marker] = marker.utf8Size := by
    simp [Text.octets]
  rw [literalChars, Text.octets_append, octets_of_ascii hascii, hmarker]
  simp
  omega

theorem magnitude_of_toInt_eq {word : Word} {sign : Sign} {n : Nat}
    (h : word.toInt = sign.apply n) : word.magnitude = n := by
  unfold Word.magnitude
  cases sign <;> simp [h, Sign.apply]

/-- A word that is written with a sign is below zero, so it has no text without one. -/
theorem length_sign_chars_le {word : Word} {sign : Sign} {n : Nat}
    (h : word.toInt = sign.apply n) : word.sign.chars.length ≤ sign.chars.length := by
  cases sign with
  | positive =>
    have hnonneg : ¬ word.toInt < 0 := by
      rw [h, Sign.apply]
      omega
    simp [Word.sign, hnonneg, Sign.chars]
  | negative =>
    unfold Word.sign
    split <;> simp [Sign.chars]

theorem ofWord_not_longer {token : Token} {word : Word} (h : token.value dialect = .ok word) :
    (ofWord dialect word).raw.length ≤ token.raw.length
      ∧ (ofWord dialect word).raw.utf8ByteSize ≤ token.raw.utf8ByteSize := by
  obtain ⟨sign, digits, hdigits, hraw, hword⟩ := value_eq_ok_iff.1 h
  have hwritten : (ofWord dialect word).raw.toList
      = literalChars dialect.marker word.sign (NumeralBase.hex.paddedDigits 1 word.magnitude) := by
    rw [ofWord, String.toList_ofList, charsOfWord_eq_literalChars]
  have hrun := NumeralBase.isDigitRun_paddedDigits 1 word.magnitude
  have hsign := length_sign_chars_le hword
  have hlength : (NumeralBase.hex.paddedDigits 1 word.magnitude).length ≤ digits.length := by
    have hleast := NumeralBase.hexLength_valueOf_le hdigits
    rw [NumeralBase.length_paddedDigits_hex, magnitude_of_toInt_eq hword]
    unfold hexLength at hleast ⊢
    omega
  constructor
  · rw [← String.length_toList, ← String.length_toList, hwritten, hraw, length_literalChars,
      length_literalChars]
    omega
  · rw [← Text.octets_toList, ← Text.octets_toList, hwritten, hraw, octets_literalChars hrun,
      octets_literalChars hdigits]
    omega

/-! ### One text for all that have a value -/

theorem ofWord_inj {word other : Word} (h : ofWord dialect word = ofWord dialect other) :
    word = other := by
  have hvalue := value_ofWord dialect word
  rw [h, value_ofWord] at hvalue
  exact (Except.ok.inj hvalue).symm

end Token

/-- **What is written for a word is the canonical text for it.**  At either width it is one literal
    that is read back as the word, with a sign and with digits as they have to be and no others, and
    it is the only such text.  No text with this value is shorter than what is written at width one,
    in characters or in octets, and two texts with values have the same value exactly if the same is
    written for both. -/
theorem written_isCanonical (dialect : Dialect) :
    (∀ (token : Token) (word : Word),
      (token.IsWrittenFor dialect 1 word ↔ token = Token.ofWord dialect word)
      ∧ (token.IsWrittenFor dialect dialect.padWidth word
        ↔ token = Token.ofWordPadded dialect word))
    ∧ (∀ (token : Token) (word : Word), token.value dialect = .ok word →
      (Token.ofWord dialect word).raw.length ≤ token.raw.length
      ∧ (Token.ofWord dialect word).raw.utf8ByteSize ≤ token.raw.utf8ByteSize)
    ∧ ∀ (first second : Token) (word other : Word), first.value dialect = .ok word →
      second.value dialect = .ok other →
      (first.value dialect = second.value dialect
        ↔ Token.ofWord dialect word = Token.ofWord dialect other) := by
  refine ⟨?_, ?_, ?_⟩
  · intro token word
    exact ⟨Token.isWrittenFor_iff_eq_ofList, Token.isWrittenFor_iff_eq_ofList⟩
  · intro token word hvalue
    exact Token.ofWord_not_longer hvalue
  · intro first second word other hfirst hsecond
    rw [hfirst, hsecond, Except.ok.injEq]
    exact ⟨congrArg (Token.ofWord dialect), Token.ofWord_inj⟩

/-- The least word, whose magnitude is no word, is written without the zeros that stand in front of
    its digits, and otherwise than the greatest one. -/
theorem written_isCanonical_least_word :
    (⟨"-0x0008000000000000000s"⟩ : Token).value .smaliShort = .ok Int64.minValue
      ∧ (Token.ofWord .smaliShort Int64.minValue).raw.length ≤ "-0x0008000000000000000s".length
      ∧ (⟨"-0x8000000000000000s"⟩ : Token).IsWrittenFor .smaliShort 1 Int64.minValue
      ∧ Token.ofWord .smaliShort Int64.minValue ≠ Token.ofWord .smaliShort Int64.maxValue := by
  have hleast : (⟨"-0x0008000000000000000s"⟩ : Token).value .smaliShort = .ok Int64.minValue := by
    cbv
  have hgreatest : (⟨"0x7FFFFFFFFFFFFFFFs"⟩ : Token).value .smaliShort = .ok Int64.maxValue := by
    cbv
  obtain ⟨hwritten, hshort, hsame⟩ := written_isCanonical .smaliShort
  refine ⟨hleast, (hshort _ _ hleast).1, (hwritten _ _).1.2 (by cbv), ?_⟩
  intro heq
  have hvalues := (hsame _ _ _ _ hleast hgreatest).2 heq
  rw [hleast, hgreatest] at hvalues
  exact absurd (Except.ok.inj hvalues) (by decide)

end MaskedLiterals
