import MaskedLiterals.Proofs.HiddenText

/-!
# What a range decodes to

A range is decoded element by element, and the first element that hides no character ends it.  Here
the outcome is told from the places of the range alone: which places there are, which character the
element at a place hides, and for what it is refused if it hides none (`decode_outcome`).  Only
places that the array has count, so a range may be empty, turned round or far behind the end.

Two steps carry this.  The outcome at one place is told by the number of the masked word
(`decodeAt_eq_ok_iff_hidesAt`, `decodeAt_eq_error_iff_failsAt`), and the outcome of a list of
elements by those of its places, by induction on the list.
-/

namespace MaskedLiterals

/-! ### Masked numbers -/

/-- The number of the word whose bits are flipped where the key has ones; above the key are zeros. -/
def Word.maskedNumber (word : Word) (key : Key) : Int :=
  (word.toBitVec ^^^ key.toBitVec.setWidth 64).toInt

theorem Word.toInt_mask (word : Word) (key : Key) :
    (word.mask key).toInt = word.maskedNumber key := by
  show (word ^^^ ofKey key).toBitVec.toInt = word.maskedNumber key
  rw [Int64.toBitVec_xor]
  rfl

/-- The code points of characters: all up to the last one but for the surrogates. -/
def IsScalarValue (n : Int) : Prop := 0 ≤ n ∧ n < 0xD800 ∨ 0xDFFF < n ∧ n < 0x110000

theorem isScalarValue_iff {n : Int} : IsScalarValue n ↔ ∃ c : Char, n = c.toNat := by
  constructor
  · intro h
    have hvalid : n.toNat.isValidChar := by
      rcases h with ⟨hlow, hhigh⟩ | ⟨hlow, hhigh⟩
      · exact Or.inl (by omega)
      · exact Or.inr ⟨by omega, by omega⟩
    refine ⟨Char.ofNat n.toNat, ?_⟩
    rw [Char.toNat_ofNat, if_pos hvalid]
    rcases h with ⟨hlow, -⟩ | ⟨hlow, -⟩ <;> omega
  · rintro ⟨c, rfl⟩
    rcases c.valid with hlow | ⟨hlow, hhigh⟩
    · exact Or.inl ⟨by omega, Int.ofNat_lt.2 hlow⟩
    · exact Or.inr ⟨Int.ofNat_lt.2 hlow, Int.ofNat_lt.2 hhigh⟩

namespace ArrayRange

variable {dialect : Dialect} {key : Key} {array tokens : List Token} {start stop i : Nat}

theorem maskedNumber_eq_iff {word : Word} {c : Char} :
    word.maskedNumber key = c.toNat ↔ word = maskedWord key c := by
  rw [← toChar?_mask_eq_some_iff, Word.toChar?_eq_some_iff, ← Int64.toInt_inj, Word.toInt_mask,
    Word.toInt_ofChar]

/-! ### One place -/

/-- A place of the range, as far as the array goes. -/
def InWindow (array : List Token) (start stop i : Nat) : Prop :=
  start ≤ i ∧ i < min stop array.length

/-- The element at a place has a value, and under the key it is the code point of the character. -/
def HidesAt (dialect : Dialect) (key : Key) (array : List Token) (i : Nat) (c : Char) : Prop :=
  ∃ token word, array[i]? = some token ∧ token.value dialect = .ok word
    ∧ word.maskedNumber key = c.toNat

/-- The element at a place hides no character, for which it is refused: it has no value, or its
    value is no code point under the key. -/
inductive FailsAt (dialect : Dialect) (key : Key) (array : List Token) (i : Nat) : Refusal → Prop
  | malformed {token : Token} : array[i]? = some token →
      (∀ word, token.value dialect ≠ .ok word) →
      FailsAt dialect key array i (.malformedLiteral token.raw)
  | codePoint {token : Token} {word masked : Word} : array[i]? = some token →
      token.value dialect = .ok word → masked.toInt = word.maskedNumber key →
      ¬ IsScalarValue masked.toInt → FailsAt dialect key array i (.invalidCodePoint i masked)

theorem decodeAt_eq_ok_iff_hidesAt {token : Token} {c : Char} (h : array[i]? = some token) :
    decodeAt dialect key i token = .ok c ↔ HidesAt dialect key array i c := by
  rw [decodeAt_eq_ok_iff]
  constructor
  · intro hvalue
    exact ⟨token, _, h, hvalue, maskedNumber_eq_iff.2 rfl⟩
  · rintro ⟨found, word, hfound, hvalue, hnumber⟩
    obtain rfl := Option.some.inj (h.symm.trans hfound)
    rw [hvalue, maskedNumber_eq_iff.1 hnumber]

theorem toChar?_eq_none_iff {word : Word} : word.toChar? = none ↔ ¬ IsScalarValue word.toInt := by
  rw [isScalarValue_iff, Option.eq_none_iff_forall_ne_some, not_exists]
  refine forall_congr' fun c => not_congr ?_
  rw [Word.toChar?_eq_some_iff, ← Int64.toInt_inj, Word.toInt_ofChar]

theorem decodeAt_eq_error_iff_failsAt {token : Token} {refusal : Refusal}
    (h : array[i]? = some token) :
    decodeAt dialect key i token = .error refusal ↔ FailsAt dialect key array i refusal := by
  unfold decodeAt
  rw [bind_eq_error_iff]
  constructor
  · rintro (hrefused | ⟨word, hvalue, hshown⟩)
    · rw [Token.value_eq_error hrefused]
      exact .malformed h fun word hvalue => by simp [hrefused] at hvalue
    · split at hshown
      · cases hshown
      · next hnone =>
        cases hshown
        exact .codePoint h hvalue (Word.toInt_mask word key) (toChar?_eq_none_iff.1 hnone)
  · intro hfails
    cases hfails with
    | malformed hfound hnone =>
      obtain rfl := Option.some.inj (h.symm.trans hfound)
      cases hvalue : token.value dialect with
      | ok word => exact absurd hvalue (hnone word)
      | error cause => exact Or.inl (by rw [Token.value_eq_error hvalue])
    | @codePoint found word masked hfound hvalue hmasked hscalar =>
      obtain rfl := Option.some.inj (h.symm.trans hfound)
      obtain rfl : word.mask key = masked := by
        rw [← Int64.toInt_inj, Word.toInt_mask, hmasked]
      refine Or.inr ⟨word, hvalue, ?_⟩
      rw [toChar?_eq_none_iff.2 hscalar]

/-! ### A list of elements -/

theorem decodeFrom_eq_ok_iff_forall {index : Nat} {chars : List Char} :
    decodeFrom dialect key index tokens = .ok chars
      ↔ chars.length = tokens.length
        ∧ ∀ (j : Nat) (token : Token) (c : Char), tokens[j]? = some token → chars[j]? = some c →
          decodeAt dialect key (index + j) token = .ok c := by
  simp only [decodeFrom_eq_ok_iff, decodeAt_eq_ok_iff]
  constructor
  · intro h
    refine ⟨by simpa using (congrArg List.length h).symm, fun j token c htoken hc => ?_⟩
    have hplace := congrArg (·[j]?) h
    simpa [htoken, hc] using hplace
  · rintro ⟨hlength, hplaces⟩
    refine List.ext_getElem? fun j => ?_
    rw [List.getElem?_map, List.getElem?_map]
    by_cases hj : j < tokens.length
    · have htoken := List.getElem?_eq_getElem hj
      have hc := List.getElem?_eq_getElem (hlength.symm ▸ hj)
      rw [htoken, hc, Option.map_some, Option.map_some, hplaces j _ _ htoken hc]
    · rw [List.getElem?_eq_none (by omega), List.getElem?_eq_none (by omega)]
      rfl

theorem decodeFrom_append (index : Nat) (front back : List Token) :
    decodeFrom dialect key index (front ++ back) = (do
      let chars ← decodeFrom dialect key index front
      let others ← decodeFrom dialect key (index + front.length) back
      .ok (chars ++ others)) := by
  induction front generalizing index with
  | nil => cases h : decodeFrom dialect key index back <;> simp [decodeFrom, h, bind, Except.bind]
  | cons token front ih =>
    have hplace : index + (token :: front).length = index + 1 + front.length := by
      simp only [List.length_cons]
      omega
    rw [List.cons_append, decodeFrom, decodeFrom, ih, hplace]
    cases decodeAt dialect key index token with
    | error refusal => rfl
    | ok c =>
      cases decodeFrom dialect key (index + 1) front with
      | error refusal => rfl
      | ok chars => cases decodeFrom dialect key (index + 1 + front.length) back <;> rfl

/-! ### A range -/

theorem length_window (array : List Token) (start stop : Nat) :
    (window array start stop).length = min stop array.length - start := by
  simp [window]

/-- The places of a window are those of the range, counted from its start. -/
theorem window_getElem?_eq_some_iff {j : Nat} {token : Token} :
    (window array start stop)[j]? = some token
      ↔ InWindow array start stop (start + j) ∧ array[start + j]? = some token := by
  rw [window_getElem?, InWindow]
  constructor
  · intro h
    split_ifs at h with hstop
    have harray := (List.getElem?_eq_some_iff.1 h).1
    exact ⟨⟨by omega, by omega⟩, h⟩
  · rintro ⟨hin, h⟩
    rw [if_pos (by omega)]
    exact h

theorem InWindow.exists_window_getElem? (h : InWindow array start stop i) :
    ∃ j token, i = start + j ∧ (window array start stop)[j]? = some token
      ∧ array[i]? = some token := by
  obtain ⟨hstart, hstop⟩ := h
  obtain ⟨j, rfl⟩ := Nat.exists_eq_add_of_le hstart
  have htoken := List.getElem?_eq_getElem (l := array) (i := start + j) (by omega)
  exact ⟨j, _, rfl, window_getElem?_eq_some_iff.2 ⟨⟨hstart, hstop⟩, htoken⟩, htoken⟩

theorem decode_eq_ok_iff_hidesAt {text : String} :
    decode dialect array start stop key = .ok text
      ↔ text.length = min stop array.length - start
        ∧ ∀ (j : Nat) (c : Char), text.toList[j]? = some c →
          HidesAt dialect key array (start + j) c := by
  rw [decode, map_eq_ok_iff, ← length_window, ← String.length_toList]
  constructor
  · rintro ⟨chars, hchars, rfl⟩
    obtain ⟨hlength, hplaces⟩ := decodeFrom_eq_ok_iff_forall.1 hchars
    rw [String.toList_ofList]
    refine ⟨hlength, fun j c hc => ?_⟩
    have hj := (List.getElem?_eq_some_iff.1 hc).1
    have htoken := List.getElem?_eq_getElem (hlength ▸ hj)
    exact (decodeAt_eq_ok_iff_hidesAt (window_getElem?_eq_some_iff.1 htoken).2).1
      (hplaces j _ c htoken hc)
  · rintro ⟨hlength, hplaces⟩
    refine ⟨text.toList, decodeFrom_eq_ok_iff_forall.2 ⟨hlength, ?_⟩, String.ofList_toList⟩
    intro j token c htoken hc
    exact (decodeAt_eq_ok_iff_hidesAt (window_getElem?_eq_some_iff.1 htoken).2).2 (hplaces j c hc)

theorem decode_eq_error_iff_failsAt {refusal : Refusal} :
    decode dialect array start stop key = .error refusal
      ↔ ∃ i, InWindow array start stop i ∧ FailsAt dialect key array i refusal
        ∧ ∀ k, start ≤ k → k < i → ∃ c, HidesAt dialect key array k c := by
  rw [decode, map_eq_error_iff, decodeFrom_eq_error_iff]
  constructor
  · rintro ⟨j, token, htoken, hrefused, hbefore⟩
    obtain ⟨hin, harray⟩ := window_getElem?_eq_some_iff.1 htoken
    refine ⟨start + j, hin, (decodeAt_eq_error_iff_failsAt harray).1 hrefused, fun k hk hlast => ?_⟩
    have hkin : InWindow array start stop k := ⟨hk, Nat.lt_trans hlast hin.2⟩
    obtain ⟨m, before, rfl, hwindow, hplace⟩ := hkin.exists_window_getElem?
    obtain ⟨c, hc⟩ := hbefore m before (by omega) hwindow
    exact ⟨c, (decodeAt_eq_ok_iff_hidesAt hplace).1 hc⟩
  · rintro ⟨i, hin, hfails, hbefore⟩
    obtain ⟨j, token, rfl, hwindow, hplace⟩ := hin.exists_window_getElem?
    refine ⟨j, token, hwindow, (decodeAt_eq_error_iff_failsAt hplace).2 hfails, ?_⟩
    intro k before hk hfound
    obtain ⟨c, hc⟩ := hbefore (start + k) (by omega) (by omega)
    exact ⟨c, (decodeAt_eq_ok_iff_hidesAt (window_getElem?_eq_some_iff.1 hfound).2).2 hc⟩

theorem exists_hidesAt_iff :
    (∃ c, HidesAt dialect key array i c)
      ↔ ∃ token word, array[i]? = some token ∧ token.value dialect = .ok word
        ∧ IsScalarValue (word.maskedNumber key) := by
  constructor
  · rintro ⟨c, token, word, htoken, hvalue, hnumber⟩
    exact ⟨token, word, htoken, hvalue, isScalarValue_iff.2 ⟨c, hnumber⟩⟩
  · rintro ⟨token, word, htoken, hvalue, hscalar⟩
    obtain ⟨c, hc⟩ := isScalarValue_iff.1 hscalar
    exact ⟨c, token, word, htoken, hvalue, hc⟩

/-- A place at which a character is hidden is refused for nothing. -/
theorem FailsAt.not_hidesAt {refusal : Refusal} {c : Char}
    (h : FailsAt dialect key array i refusal) : ¬ HidesAt dialect key array i c := by
  intro hhides
  obtain ⟨token, -, htoken, -⟩ := id hhides
  have hok := (decodeAt_eq_ok_iff_hidesAt htoken).2 hhides
  rw [(decodeAt_eq_error_iff_failsAt htoken).2 h] at hok
  cases hok

theorem exists_decode_eq_ok_iff :
    (∃ text, decode dialect array start stop key = .ok text)
      ↔ ∀ i, InWindow array start stop i → ∃ c, HidesAt dialect key array i c := by
  constructor
  · rintro ⟨text, htext⟩ i ⟨hstart, hstop⟩
    obtain ⟨hlength, hplaces⟩ := decode_eq_ok_iff_hidesAt.1 htext
    obtain ⟨j, rfl⟩ := Nat.exists_eq_add_of_le hstart
    have hj : j < text.toList.length := by
      rw [String.length_toList]
      omega
    exact ⟨_, hplaces j _ (List.getElem?_eq_getElem hj)⟩
  · intro h
    cases hdecode : decode dialect array start stop key with
    | ok text => exact ⟨text, rfl⟩
    | error refusal =>
      obtain ⟨i, hin, hfails, -⟩ := decode_eq_error_iff_failsAt.1 hdecode
      obtain ⟨c, hc⟩ := h i hin
      exact absurd hc hfails.not_hidesAt

theorem window_append {mid : Nat} (hstart : start ≤ mid) (hstop : mid ≤ stop) :
    window array start stop = window array start mid ++ window array mid stop := by
  unfold window
  obtain ⟨n, rfl⟩ := Nat.exists_eq_add_of_le hstop
  by_cases hmid : mid ≤ array.length
  · have hlength : (array.take mid).length = mid := by simp [hmid]
    rw [List.take_add, List.drop_left' hlength,
      List.drop_append_of_le_length (hstart.trans (Nat.le_of_eq hlength.symm))]
  · rw [List.take_of_length_le (by omega), List.take_of_length_le (by omega),
      List.drop_eq_nil_of_le (by omega : array.length ≤ mid), List.append_nil]

/-- A range decodes as its two parts one after the other. -/
theorem decode_append {mid : Nat} (hstart : start ≤ mid) (hstop : mid ≤ stop) :
    decode dialect array start stop key = (do
      let front ← decode dialect array start mid key
      let back ← decode dialect array mid stop key
      .ok (front ++ back)) := by
  have hback : decodeFrom dialect key (start + (window array start mid).length)
      (window array mid stop) = decodeFrom dialect key mid (window array mid stop) := by
    by_cases hmid : mid ≤ array.length
    · rw [length_window, Nat.min_eq_left hmid, Nat.add_sub_cancel' hstart]
    · have hnil : window array mid stop = [] := by
        rw [← List.length_eq_zero_iff, length_window]
        omega
      rw [hnil]
      rfl
  unfold decode
  rw [window_append hstart hstop, decodeFrom_append, hback]
  cases decodeFrom dialect key start (window array start mid) with
  | error refusal => rfl
  | ok chars =>
    cases decodeFrom dialect key mid (window array mid stop) with
    | error refusal => rfl
    | ok others => exact congrArg Except.ok String.ofList_append

/-- **What a range decodes to.**  A range decodes to a text exactly if the text has a character for
    each place of the range that the array has, and each place hides its character; so it does
    exactly if all these places hide characters.  Otherwise it is refused as the first place is that
    hides none.  A range can be decoded in two parts, where the first refusal is that of the whole. -/
theorem decode_outcome (dialect : Dialect) (array : List Token) (start stop : Nat) (key : Key) :
    (∀ text, decode dialect array start stop key = .ok text
      ↔ text.length = min stop array.length - start
        ∧ ∀ (j : Nat) (c : Char), text.toList[j]? = some c →
          HidesAt dialect key array (start + j) c)
    ∧ ((∃ text, decode dialect array start stop key = .ok text)
      ↔ ∀ i, InWindow array start stop i → ∃ token word, array[i]? = some token
        ∧ token.value dialect = .ok word ∧ IsScalarValue (word.maskedNumber key))
    ∧ (∀ refusal, decode dialect array start stop key = .error refusal
      ↔ ∃ i, InWindow array start stop i ∧ FailsAt dialect key array i refusal
        ∧ ∀ k, start ≤ k → k < i → ∃ c, HidesAt dialect key array k c)
    ∧ ∀ mid, start ≤ mid → mid ≤ stop → decode dialect array start stop key = (do
      let front ← decode dialect array start mid key
      let back ← decode dialect array mid stop key
      .ok (front ++ back)) := by
  refine ⟨fun _ => decode_eq_ok_iff_hidesAt, ?_, fun _ => decode_eq_error_iff_failsAt, ?_⟩
  · rw [exists_decode_eq_ok_iff]
    exact forall₂_congr fun _ _ => exists_hidesAt_iff
  · intro mid hstart hstop
    exact decode_append hstart hstop

/-- Two elements hide nothing, and the first of them is told by its place in the array. -/
example : decode .smaliShort [⟨"0x48s"⟩, ⟨"0x65s"⟩, ⟨"0xd800s"⟩, ⟨"0xZZs"⟩] 1 9 0
    = .error (.invalidCodePoint 2 0xd800) := by rfl

end ArrayRange

end MaskedLiterals
