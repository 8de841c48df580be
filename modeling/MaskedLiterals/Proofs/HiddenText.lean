import MaskedLiterals.ArrayRange
import MaskedLiterals.Proofs.Outcome
import MaskedLiterals.Proofs.TokenValue

/-!
# What elements hide

Under a key an element hides a character exactly if its value is the masked word of the character
(`toChar?_mask_eq_some_iff`), so decoding a range is a comparison of two lists of words
(`decode_eq_ok_iff`).  An edit writes the masked words of a text, so what it had room for decodes to
the text again, in any array and under any key (`decode_overwrite_encode`).

A key is too short to reach the sign of a word.  The masked word of a character is therefore never
negative, is written without a sign, and is another word with a sign in front, unless it is zero
(`value_hyphen_eq_maskedWord_iff`).
-/

namespace MaskedLiterals

/-! ### Words under a key -/

namespace Word

theorem toInt_ofChar (c : Char) : (ofChar c).toInt = c.toNat := by
  have hvalid : c.toNat.isValidChar := c.valid
  simp only [Nat.isValidChar] at hvalid
  exact Int64.toInt_ofNat_of_lt (by omega)

theorem toInt_ofKey (key : Key) : (ofKey key).toInt = key.toNat := by
  have hkey : key.toUInt64.toNat = key.toNat := UInt32.toNat_toUInt64 key
  have hsmall : key.toNat < 2 ^ 32 := key.toNat_lt
  show key.toUInt64.toBitVec.toInt = key.toNat
  rw [BitVec.toInt_eq_toNat_of_lt, UInt64.toNat_toBitVec, hkey]
  rw [UInt64.toNat_toBitVec, hkey]
  omega

theorem toChar?_eq_some_iff {word : Word} {c : Char} :
    word.toChar? = some c ↔ word = ofChar c := by
  constructor
  · intro h
    unfold toChar? at h
    split at h
    · next hvalid =>
      obtain rfl := Option.some.inj h
      rw [← Int64.toInt_inj, toInt_ofChar, Char.toNat_ofNat, if_pos hvalid.2]
      omega
    · cases h
  · rintro rfl
    exact toChar?_ofChar c

/-- A key has no part in the sign of a word. -/
theorem toInt_mask_neg_iff {word : Word} {key : Key} :
    (word.mask key).toInt < 0 ↔ word.toInt < 0 := by
  have hkey : (ofKey key).toBitVec.msb = false := by
    rw [BitVec.msb_eq_toInt, Int64.toInt_toBitVec, toInt_ofKey]
    exact decide_eq_false (by omega)
  have hsign : (word.mask key).toBitVec.msb = word.toBitVec.msb := by
    rw [mask, Int64.toBitVec_xor, BitVec.msb_xor, hkey, Bool.xor_false]
  rwa [BitVec.msb_eq_toInt, BitVec.msb_eq_toInt, Int64.toInt_toBitVec, Int64.toInt_toBitVec,
    decide_eq_decide] at hsign

theorem toInt_neg_of_nonneg {word : Word} (h : 0 ≤ word.toInt) : (-word).toInt = -word.toInt := by
  have hhigh := Int64.toInt_lt word
  rw [Int64.toInt_neg]
  exact Int.bmod_eq_of_le (by omega) (by omega)

theorem mask_eq_zero_iff {word : Word} {key : Key} : word.mask key = 0 ↔ word = ofKey key :=
  Int64.xor_eq_zero_iff

end Word

namespace ArrayRange

variable {dialect : Dialect} {key : Key} {c : Char}

/-- A word hides a character exactly if it is the masked word of the character. -/
theorem toChar?_mask_eq_some_iff {word : Word} :
    (word.mask key).toChar? = some c ↔ word = maskedWord key c := by
  rw [Word.toChar?_eq_some_iff, maskedWord]
  constructor
  · intro h
    rw [← h, Word.mask_mask]
  · rintro rfl
    exact Word.mask_mask _ _

theorem maskedWord_nonneg (key : Key) (c : Char) : 0 ≤ (maskedWord key c).toInt := by
  have hsign : ¬ (maskedWord key c).toInt < 0 := by
    rw [maskedWord, Word.toInt_mask_neg_iff, Word.toInt_ofChar]
    omega
  omega

theorem maskedWord_eq_zero_iff : maskedWord key c = 0 ↔ c.toNat = key.toNat := by
  rw [maskedWord, Word.mask_eq_zero_iff, ← Int64.toInt_inj, Word.toInt_ofChar, Word.toInt_ofKey]
  omega

/-! ### Decoding a range -/

theorem decodeAt_eq_ok_iff {index : Nat} {token : Token} :
    decodeAt dialect key index token = .ok c ↔ token.value dialect = .ok (maskedWord key c) := by
  unfold decodeAt
  rw [bind_eq_ok_iff]
  constructor
  · rintro ⟨word, hword, hchar⟩
    split at hchar
    · next shown hshown =>
      cases hchar
      rw [hword, toChar?_mask_eq_some_iff.1 hshown]
    · cases hchar
  · intro hword
    refine ⟨_, hword, ?_⟩
    rw [toChar?_mask_eq_some_iff.2 rfl]

theorem decodeFrom_eq_ok_iff {index : Nat} {tokens : List Token} {chars : List Char} :
    decodeFrom dialect key index tokens = .ok chars
      ↔ tokens.map (Token.value dialect) = chars.map fun c => .ok (maskedWord key c) := by
  induction tokens generalizing index chars with
  | nil => cases chars <;> simp [decodeFrom]
  | cons token tokens ih =>
    rw [decodeFrom]
    simp only [bind_eq_ok_iff, decodeAt_eq_ok_iff, ih]
    cases chars with
    | nil => simp
    | cons c chars =>
      rw [List.map_cons, List.map_cons, List.cons.injEq]
      constructor
      · rintro ⟨d, hd, rest, hrest, heq⟩
        cases heq
        exact ⟨hd, hrest⟩
      · rintro ⟨hc, hrest⟩
        exact ⟨c, hc, chars, hrest, rfl⟩

/-- **A range decodes to a text exactly if its values are the masked words of the text.** -/
theorem decode_eq_ok_iff {array : List Token} {start stop : Nat} {text : String} :
    decode dialect array start stop key = .ok text
      ↔ (window array start stop).map (Token.value dialect)
        = text.toList.map fun c => .ok (maskedWord key c) := by
  unfold decode
  rw [map_eq_ok_iff, ← @decodeFrom_eq_ok_iff dialect key start]
  constructor
  · rintro ⟨chars, hchars, rfl⟩
    rw [String.toList_ofList]
    exact hchars
  · intro h
    exact ⟨text.toList, h, String.ofList_toList⟩

theorem window_getElem? (array : List Token) (start stop j : Nat) :
    (window array start stop)[j]? = if start + j < stop then array[start + j]? else none := by
  unfold window
  rw [List.getElem?_drop, List.getElem?_take]

/-- The same place by place, for the first characters of a text. -/
theorem decode_take_eq_ok_iff {array : List Token} {start written : Nat} {text : String}
    (hwritten : written ≤ text.length) :
    decode dialect array start (start + written) key = .ok (String.ofList (text.toList.take written))
      ↔ ∀ (j : Nat) (c : Char), j < written → text.toList[j]? = some c →
        ∃ token, array[start + j]? = some token
          ∧ token.value dialect = .ok (maskedWord key c) := by
  have hwindow (j : Nat) (hj : j < written) :
      (window array start (start + written))[j]? = array[start + j]? := by
    rw [window_getElem?, if_pos (by omega)]
  rw [decode_eq_ok_iff, String.toList_ofList]
  constructor
  · intro h j c hj hc
    have hvalue := congrArg (·[j]?) h
    simp only [List.getElem?_map, hwindow j hj, List.getElem?_take, if_pos hj, hc,
      Option.map_some] at hvalue
    exact Option.map_eq_some_iff.1 hvalue
  · intro h
    refine List.ext_getElem? fun j => ?_
    rw [List.getElem?_map, List.getElem?_map]
    by_cases hj : j < written
    · have hlength : j < text.toList.length := by
        rw [String.length_toList]
        omega
      have hc := List.getElem?_eq_getElem hlength
      obtain ⟨token, htoken, hvalue⟩ := h j _ hj hc
      rw [hwindow j hj, htoken, List.getElem?_take, if_pos hj, hc, Option.map_some, Option.map_some,
        hvalue]
    · rw [window_getElem?, if_neg (by omega), List.getElem?_take, if_neg hj]
      rfl

/-- A list of elements is refused for the first one that hides no character. -/
theorem decodeFrom_eq_error_iff {index : Nat} {tokens : List Token} {refusal : Refusal} :
    decodeFrom dialect key index tokens = .error refusal
      ↔ ∃ (j : Nat) (token : Token), tokens[j]? = some token
        ∧ decodeAt dialect key (index + j) token = .error refusal
        ∧ ∀ (k : Nat) (before : Token), k < j → tokens[k]? = some before →
          ∃ c, decodeAt dialect key (index + k) before = .ok c := by
  induction tokens generalizing index with
  | nil => simp [decodeFrom]
  | cons first tokens ih =>
    have hplace (k : Nat) : index + (k + 1) = index + 1 + k := by omega
    rw [decodeFrom, bind_eq_error_iff]
    constructor
    · rintro (hfirst | ⟨c, hc, hrest⟩)
      · exact ⟨0, first, rfl, hfirst, by simp⟩
      · rcases bind_eq_error_iff.1 hrest with hlater | ⟨_, _, hok⟩
        · obtain ⟨j, token, htoken, hrefused, hbefore⟩ := ih.1 hlater
          refine ⟨j + 1, token, htoken, by rw [hplace]; exact hrefused, ?_⟩
          intro k before hk hfound
          cases k with
          | zero =>
            obtain rfl := Option.some.inj hfound
            exact ⟨c, hc⟩
          | succ k =>
            rw [hplace]
            exact hbefore k before (by omega) hfound
        · cases hok
    · rintro ⟨j, token, htoken, hrefused, hbefore⟩
      cases j with
      | zero =>
        obtain rfl := Option.some.inj htoken
        exact Or.inl hrefused
      | succ j =>
        obtain ⟨c, hc⟩ := hbefore 0 first (by omega) rfl
        rw [hplace] at hrefused
        refine Or.inr ⟨c, hc, bind_eq_error_iff.2 (Or.inl (ih.2 ⟨j, token, htoken, hrefused, ?_⟩))⟩
        intro k before hk hfound
        rw [← hplace]
        exact hbefore (k + 1) before (by omega) hfound

/-! ### What decoding depends on -/

theorem decodeFrom_congr {index : Nat} {tokens others : List Token}
    (h : tokens.map (Token.value dialect) = others.map (Token.value dialect)) :
    decodeFrom dialect key index tokens = decodeFrom dialect key index others := by
  induction tokens generalizing index others with
  | nil =>
    obtain rfl : others = [] := by simpa using h.symm
    rfl
  | cons token tokens ih =>
    cases others with
    | nil => cases h
    | cons other others =>
      obtain ⟨hfirst, hrest⟩ := List.cons.inj h
      rw [decodeFrom, decodeFrom, decodeAt, decodeAt, hfirst, ih hrest]

/-- Decoding depends on the values of the elements alone, whatever they look like. -/
theorem decode_congr {array other : List Token}
    (h : array.map (Token.value dialect) = other.map (Token.value dialect)) (start stop : Nat)
    (key : Key) : decode dialect array start stop key = decode dialect other start stop key := by
  unfold decode
  have hwindow : (window array start stop).map (Token.value dialect)
      = (window other start stop).map (Token.value dialect) := by
    unfold window
    rw [List.map_drop, List.map_take, h, ← List.map_take, ← List.map_drop]
  rw [decodeFrom_congr hwindow]

/-- Where all elements have values, a range fails to decode for a code point alone. -/
theorem decode_eq_error_of_values {array : List Token} {start stop : Nat} {refusal : Refusal}
    (hvalues : ∀ token ∈ array, ∃ word, token.value dialect = .ok word)
    (h : decode dialect array start stop key = .error refusal) :
    ∃ index word, refusal = .invalidCodePoint index word := by
  obtain ⟨j, token, hfound, htoken, -⟩ := decodeFrom_eq_error_iff.1 (map_eq_error_iff.1 h)
  have hmem : token ∈ window array start stop := List.mem_of_getElem? hfound
  obtain ⟨word, hword⟩ := hvalues token (List.mem_of_mem_take (List.mem_of_mem_drop hmem))
  unfold decodeAt at htoken
  rcases bind_eq_error_iff.1 htoken with hrefused | ⟨found, -, hshown⟩
  · rw [hword] at hrefused
    cases hrefused
  · split at hshown
    · cases hshown
    · cases hshown
      exact ⟨_, _, rfl⟩

/-! ### Hiding a text and finding it again -/

theorem room_encode (array : List Token) (start : Nat) (text : String) :
    room array start (encode dialect text key) = min text.length (array.length - start) := by
  rw [room, length_encode]

theorem getElem?_encode (text : String) (j : Nat) : (encode dialect text key)[j]?
    = text.toList[j]?.map fun c => Token.ofWordPadded dialect (maskedWord key c) := by
  rw [encode, List.getElem?_map]

/-- What an edit writes, character by character. -/
theorem getElem?_overwrite_encode {array : List Token} {start j : Nat} {text : String}
    (hj : j < room array start (encode dialect text key)) (hc : text.toList[j]? = some c) :
    (overwrite array start (encode dialect text key))[start + j]?
      = some (Token.ofWordPadded dialect (maskedWord key c)) := by
  rw [getElem?_overwrite, if_pos ⟨Nat.le_add_right start j, Nat.add_lt_add_left hj start⟩,
    Nat.add_sub_cancel_left, getElem?_encode, hc, Option.map_some]

/-- **A text that was hidden is found again.**  There is one element for each character of a text.
    As many of them are written as there is room for, the array keeps its length and its other
    elements, and the range that was written decodes to the characters that it was written for,
    whatever the array held before. -/
theorem decode_overwrite_encode (dialect : Dialect) (array : List Token) (start : Nat)
    (text : String) (key : Key) :
    let new := encode dialect text key
    let written := room array start new
    (∀ j : Nat, new[j]?
      = text.toList[j]?.map fun c => Token.ofWordPadded dialect (maskedWord key c))
    ∧ new.length = text.length
    ∧ written = min text.length (array.length - start)
    ∧ (overwrite array start new).length = array.length
    ∧ (∀ i, i < start ∨ start + written ≤ i → (overwrite array start new)[i]? = array[i]?)
    ∧ decode dialect (overwrite array start new) start (start + written) key
      = .ok (String.ofList (text.toList.take written)) := by
  intro new written
  have hroom : written = min text.length (array.length - start) := room_encode array start text
  have hwritten : written ≤ text.length := by omega
  refine ⟨getElem?_encode text, length_encode dialect text key, hroom, length_overwrite _ _ _, ?_, ?_⟩
  · intro i hi
    rw [getElem?_overwrite, if_neg]
    rintro ⟨hlow, hhigh⟩
    rcases hi with hbefore | hbehind
    · omega
    · exact absurd hhigh (Nat.not_lt_of_le hbehind)
  · rw [decode_take_eq_ok_iff hwritten]
    intro j c hj hc
    exact ⟨_, getElem?_overwrite_encode hj hc, Token.value_ofWordPadded dialect _⟩

/-! ### A sign in front of an element -/

/-- A sign in front of an element that has none makes it denote the opposite word. -/
theorem value_hyphen {token : Token} {word : Word} (hsign : token.raw.toList.head? ≠ some '-')
    (h : token.value dialect = .ok word) :
    (⟨"-" ++ token.raw⟩ : Token).value dialect = .ok (-word) := by
  obtain ⟨sign, digits, hdigits, hraw, hword⟩ := Token.value_eq_ok_iff.1 h
  cases sign with
  | negative => exact absurd (by rw [hraw]; rfl) hsign
  | positive =>
    refine Token.value_eq_ok_iff.2 ⟨.negative, digits, hdigits, ?_, ?_⟩
    · rw [String.toList_append, hraw]
      rfl
    · simp only [Sign.apply] at hword
      rw [Word.toInt_neg_of_nonneg (by omega), hword, Sign.apply]

theorem head?_ofWordPadded {word : Word} (h : 0 ≤ word.toInt) :
    (Token.ofWordPadded dialect word).raw.toList.head? = some '0' := by
  rw [Token.ofWordPadded, String.toList_ofList, Token.charsOfWord, if_neg (by omega)]
  rfl

theorem head?_ofWordPadded_maskedWord (dialect : Dialect) (key : Key) (c : Char) :
    (Token.ofWordPadded dialect (maskedWord key c)).raw.toList.head? ≠ some '-' := by
  rw [head?_ofWordPadded (maskedWord_nonneg key c)]
  decide

/-- With a sign in front, what an edit writes for a character hides it only under the code point of
    the character as key, under which it is zero. -/
theorem value_hyphen_eq_maskedWord_iff :
    (⟨"-" ++ (Token.ofWordPadded dialect (maskedWord key c)).raw⟩ : Token).value dialect
        = .ok (maskedWord key c)
      ↔ c.toNat = key.toNat := by
  have hnonneg := maskedWord_nonneg key c
  rw [value_hyphen (head?_ofWordPadded_maskedWord dialect key c)
    (Token.value_ofWordPadded dialect (maskedWord key c)), ← maskedWord_eq_zero_iff,
    Except.ok.injEq, ← Int64.toInt_inj, Word.toInt_neg_of_nonneg hnonneg, ← Int64.toInt_inj,
    Int64.toInt_zero]
  omega

end ArrayRange

end MaskedLiterals
