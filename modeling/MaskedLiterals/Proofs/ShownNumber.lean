import MaskedLiterals.Proofs.CanonicalForm
import MaskedLiterals.Proofs.KeyChoice
import MaskedLiterals.Proofs.NumeralGrammar

/-!
# Numbers as they are shown

A number is shown as `0x` with its digits behind it, in small letters and with zeros in front up to
a width (`IsShownNumber`).  Such a text has neither a sign nor a blank, and the reader of numerals
gives the number back.

The preview of an edit shows the bits of the masked words, while the elements that the edit writes
have a sign and a magnitude.  No masked word of a character is negative, so the preview is what is
written, without the markers (`preview_showsElements`).
-/

namespace MaskedLiterals

/-- The text is `0x` and the digits of the number in small letters, as many as the width asks for or
    the number needs. -/
def IsShownNumber (width n : Nat) (shown : String) : Prop :=
  ∃ digits, shown.toList = '0' :: 'x' :: digits ∧ hexNumber digits = n
    ∧ digits.length = max width (hexLength n) ∧ ∀ c ∈ digits, c ∈ hexDigits

namespace IsShownNumber

variable {width n : Nat} {shown : String} {c : Char}

theorem of_padded (width n : Nat) : IsShownNumber width n ("0x" ++ NumeralBase.hex.padded width n) := by
  refine ⟨NumeralBase.hex.paddedDigits width n, ?_, ?_, ?_, ?_⟩
  · rw [String.toList_append]
    simp [NumeralBase.padded]
  · exact NumeralBase.hexNumber_paddedDigits width n
  · exact NumeralBase.length_paddedDigits_hex width n
  · intro d hd
    exact NumeralBase.mem_hexDigits_of_mem_paddedDigits hd

theorem mem_hexDigits_or_eq (h : IsShownNumber width n shown) (hc : c ∈ shown.toList) :
    c ∈ hexDigits ∨ c = 'x' := by
  obtain ⟨digits, hshown, -, -, hdigits⟩ := h
  rw [hshown] at hc
  rcases List.mem_cons.1 hc with rfl | hc
  · exact Or.inl (by decide)
  · rcases List.mem_cons.1 hc with rfl | hc
    · exact Or.inr rfl
    · exact Or.inl (hdigits c hc)

theorem not_mem (h : IsShownNumber width n shown) (hdigit : c ∉ hexDigits) (hx : c ≠ 'x') :
    c ∉ shown.toList := by
  intro hmem
  rcases h.mem_hexDigits_or_eq hmem with hc | hc
  · exact hdigit hc
  · exact hx hc

theorem hyphen_not_mem (h : IsShownNumber width n shown) : '-' ∉ shown.toList :=
  h.not_mem (by decide) (by decide)

theorem toList_ne_nil (h : IsShownNumber width n shown) : shown.toList ≠ [] := by
  obtain ⟨digits, hshown, -⟩ := h
  rw [hshown]
  exact List.cons_ne_nil _ _

/-- What is shown is read as the number, if it fits. -/
theorem parse_eq_ok {size : Nat} (h : IsShownNumber width n shown) (hsize : n < size) :
    Numeral.parse size .hex shown = .ok n := by
  have hnotBlank : ∀ c ∈ shown.toList, Text.isBlank c = false := by
    intro c hc
    rcases h.mem_hexDigits_or_eq hc with hdigit | rfl
    · have hall : hexDigits.all (fun c => !Text.isBlank c) = true := by decide
      simpa using List.all_eq_true.1 hall c hdigit
    · decide
  have htrimmed : Text.IsTrimmed shown.toList shown.toList := by
    refine ⟨⟨[], [], by simp, by simp, by simp⟩, ?_, ?_⟩
    · intro c hc
      exact hnotBlank c (List.mem_of_head? hc)
    · intro c hc
      exact hnotBlank c (List.mem_of_getLast? hc)
  obtain ⟨digits, hshown, rfl, hlength, hdigits⟩ := h
  have hne : digits ≠ [] := by
    have hlong := Nat.le_max_right width (hexLength (hexNumber digits))
    rw [← hlength] at hlong
    exact List.ne_nil_of_length_pos (Nat.lt_of_lt_of_le (Nat.succ_pos _) hlong)
  have hmem : ∀ c ∈ digits, c ∈ NumeralBase.hex.digits := by
    intro c hc
    exact List.mem_append_left _ (hdigits c hc)
  refine Numeral.parse_eq_ok_iff.2 ⟨Numeral.read?_eq_some_iff.2 ⟨_, htrimmed, ?_⟩, hsize⟩
  exact ⟨['0', 'x'], by decide, digits, hshown, hne, hmem, rfl⟩

end IsShownNumber

/-! ### Masked words of characters -/

namespace Word

theorem bits_ofKey (key : Key) : (ofKey key).bits = key.toNat := by
  rw [bits, ofKey, UInt64.toUInt64_toInt64]
  exact UInt32.toNat_toUInt64 key

theorem magnitude_ofKey (key : Key) : (ofKey key).magnitude = key.toNat := by
  rw [magnitude, toInt_ofKey, Int.natAbs_natCast]

end Word

namespace ArrayRange

variable {dialect : Dialect} {key : Key} {text : String}

theorem bits_maskedWord (key : Key) (c : Char) :
    (maskedWord key c).bits = c.toNat ^^^ key.toNat := by
  rw [maskedWord_eq_ofKey, Word.bits_ofKey, UInt32.toNat_xor]
  rfl

theorem magnitude_maskedWord (key : Key) (c : Char) :
    (maskedWord key c).magnitude = c.toNat ^^^ key.toNat := by
  rw [← bits_maskedWord, maskedWord_eq_ofKey, Word.magnitude_ofKey, Word.bits_ofKey]

theorem xor_toNat_lt (key : Key) (c : Char) : c.toNat ^^^ key.toNat < UInt64.size := by
  have hsmall := (c.val ^^^ key).toNat_lt
  have hwide : (2 : Nat) ^ 32 < UInt64.size := by decide
  rw [← bits_maskedWord, maskedWord_eq_ofKey, Word.bits_ofKey]
  omega

/-- The text of an element is the number of its word with the marker behind it. -/
theorem raw_ofWordPadded_maskedWord (dialect : Dialect) (key : Key) (c : Char) :
    (Token.ofWordPadded dialect (maskedWord key c)).raw
      = "0x" ++ NumeralBase.hex.padded dialect.padWidth (c.toNat ^^^ key.toNat)
        ++ String.singleton dialect.marker := by
  have hnonneg := maskedWord_nonneg key c
  rw [← String.toList_inj, Token.ofWordPadded, String.toList_ofList, Token.charsOfWord,
    if_neg (by omega), magnitude_maskedWord]
  simp [NumeralBase.padded]

/-! ### The preview -/

/-- What comes between texts is all there is besides them. -/
theorem mem_intercalate {α : Type} {between : List α} {parts : List (List α)} {a : α}
    (h : a ∈ between.intercalate parts) : a ∈ between ∨ ∃ part ∈ parts, a ∈ part := by
  induction parts with
  | nil => simp at h
  | cons part parts ih =>
    cases parts with
    | nil => exact Or.inr ⟨part, by simp, by simpa using h⟩
    | cons next parts =>
      rw [List.intercalate_cons_cons, List.mem_append, List.mem_append] at h
      rcases h with (hpart | hbetween) | hrest
      · exact Or.inr ⟨part, by simp, hpart⟩
      · exact Or.inl hbetween
      · rcases ih hrest with hbetween | ⟨other, hother, ha⟩
        · exact Or.inl hbetween
        · exact Or.inr ⟨other, List.mem_cons_of_mem _ hother, ha⟩

def numerals (dialect : Dialect) (text : String) (key : Key) : List String :=
  text.toList.map fun c => "0x" ++ NumeralBase.hex.padded dialect.padWidth (c.toNat ^^^ key.toNat)

theorem exists_isShownNumber {numeral : String} (h : numeral ∈ numerals dialect text key) :
    ∃ n, IsShownNumber dialect.padWidth n numeral := by
  obtain ⟨c, -, rfl⟩ := List.mem_map.1 h
  exact ⟨_, .of_padded dialect.padWidth _⟩

theorem preview_eq_intercalate (dialect : Dialect) (text : String) (key : Key) :
    preview dialect text key = String.intercalate " " (numerals dialect text key) := by
  unfold preview numerals
  simp only [bits_maskedWord]

theorem map_raw_encode (dialect : Dialect) (text : String) (key : Key) :
    (encode dialect text key).map Token.raw
      = (numerals dialect text key).map (· ++ String.singleton dialect.marker) := by
  unfold encode numerals
  rw [List.map_map, List.map_map]
  apply List.map_congr_left
  intro c _
  exact raw_ofWordPadded_maskedWord dialect key c

theorem toList_preview (dialect : Dialect) (text : String) (key : Key) :
    (preview dialect text key).toList
      = [' '].intercalate ((numerals dialect text key).map String.toList) := by
  rw [preview_eq_intercalate, String.toList_intercalate]
  rfl

theorem hyphen_not_mem_preview (dialect : Dialect) (text : String) (key : Key) :
    '-' ∉ (preview dialect text key).toList := by
  rw [toList_preview]
  intro hmem
  rcases mem_intercalate hmem with hblank | ⟨part, hpart, hmem⟩
  · simp at hblank
  · obtain ⟨numeral, hnumeral, rfl⟩ := List.mem_map.1 hpart
    obtain ⟨n, hshown⟩ := exists_isShownNumber hnumeral
    exact hshown.hyphen_not_mem hmem

theorem splitOn_preview (h : text ≠ "") :
    (preview dialect text key).toList.splitOn ' '
      = (numerals dialect text key).map String.toList := by
  rw [toList_preview]
  apply List.splitOn_intercalate
  · intro part hpart
    obtain ⟨numeral, hnumeral, rfl⟩ := List.mem_map.1 hpart
    obtain ⟨n, hshown⟩ := exists_isShownNumber hnumeral
    exact hshown.not_mem (by decide) (by decide)
  · simpa [numerals] using h

theorem preview_eq_empty_iff : preview dialect text key = "" ↔ text = "" := by
  constructor
  · intro hpreview
    by_contra hne
    have hsplit := @splitOn_preview dialect key text hne
    have hempty : [] ∈ (numerals dialect text key).map String.toList := by
      rw [← hsplit, hpreview]
      simp
    -- no numeral is empty
    obtain ⟨numeral, hnumeral, hnil⟩ := List.mem_map.1 hempty
    obtain ⟨n, hshown⟩ := exists_isShownNumber hnumeral
    exact hshown.toList_ne_nil hnil
  · rintro rfl
    rfl

/-- **The preview of an edit is what the edit writes, without the markers.**  For each character of
    the text in order it has one numeral: the exclusive or of the code point and the key, with
    digits up to the width of the dialect.  The element that is written for the character is this
    numeral with the marker behind it.  Between the numerals stand single blanks, so that they are
    found again by the blanks, and the reader of numerals reads each as its number. -/
theorem preview_showsElements (dialect : Dialect) (text : String) (key : Key) :
    ∃ numerals : List String,
      preview dialect text key = String.intercalate " " numerals
      ∧ (encode dialect text key).map Token.raw
        = numerals.map (· ++ String.singleton dialect.marker)
      ∧ List.Forall₂ (fun c numeral =>
          IsShownNumber dialect.padWidth (c.toNat ^^^ key.toNat) numeral
          ∧ Numeral.parse UInt64.size .hex numeral = .ok (c.toNat ^^^ key.toNat))
        text.toList numerals
      ∧ '-' ∉ (preview dialect text key).toList
      ∧ (preview dialect text key).toList.splitOn ' '
        = (if text = "" then [[]] else numerals.map String.toList)
      ∧ (preview dialect text key = "" ↔ text = "") := by
  refine ⟨numerals dialect text key, preview_eq_intercalate dialect text key,
    map_raw_encode dialect text key, ?_, hyphen_not_mem_preview dialect text key, ?_,
    preview_eq_empty_iff⟩
  · unfold numerals
    rw [List.forall₂_map_right_iff, List.forall₂_same]
    intro c _
    have hshown := IsShownNumber.of_padded dialect.padWidth (c.toNat ^^^ key.toNat)
    exact ⟨hshown, hshown.parse_eq_ok (xor_toNat_lt key c)⟩
  · split
    · next hempty =>
      subst hempty
      rfl
    · next hne => exact splitOn_preview hne

/-- A width of zero asks for no zeros, and the key makes the second character a zero. -/
example : preview ⟨'s', 0, by decide⟩ "Hé😀" 0xe9 = "0xa1 0x0 0x1f6e9" := by decide +kernel

end ArrayRange

end MaskedLiterals
