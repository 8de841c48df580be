import MaskedLiterals.Proofs.KeyChoice
import MaskedLiterals.SampleTable

/-!
# The sample table and decoding

The sample table reads a masked word by itself: it asks whether the number of the word is that of a
printable character.  Decoding asks first whether it is the number of any character.  The printable
characters are far from the surrogates and from the last code point, so both agree on them, and
what decoding refuses or gives besides is shown as a question mark (`isSampleOf_sample`).

The main statement is `sampleTable_agrees`: a table has a row for each element in order, and each
row tells what decoding the element alone comes to under each key.
-/

namespace MaskedLiterals

def IsPrintable (c : Char) : Prop := 32 ≤ c.toNat ∧ c.toNat ≤ 126

instance (c : Char) : Decidable (IsPrintable c) := by unfold IsPrintable; infer_instance

/-- What stands in a table for an outcome of decoding one element. -/
inductive IsSampleOf : Except Refusal String → Char → Prop
  | shown {c : Char} : IsPrintable c → IsSampleOf (.ok (String.singleton c)) c
  | unprintable {c : Char} : ¬ IsPrintable c → IsSampleOf (.ok (String.singleton c)) '?'
  | refused {refusal : Refusal} : IsSampleOf (.error refusal) '?'

namespace SampleRow

variable {dialect : Dialect} {array : List Token} {keys : List Key} {key : Key}
variable {i : Nat} {token : Token} {word : Word} {c : Char}

/-- The row is for the element at this place: it has samples exactly if the element has a value, and
    then one for each key in order. -/
structure Describes (dialect : Dialect) (array : List Token) (keys : List Key) (i : Nat)
    (token : Token) (row : SampleRow) : Prop where
  index_eq : row.index = i
  raw_eq : row.raw = token.raw
  value_eq_some_iff : ∀ word, row.value = some word ↔ token.value dialect = .ok word
  value_eq_none_iff : row.value = none ↔ ∃ refusal, token.value dialect = .error refusal
  samples_of_none : row.value = none → row.samples = []
  samples_of_some : ∀ word, row.value = some word →
    List.Forall₂ (fun key sample =>
      IsSampleOf (ArrayRange.decode dialect array i (i + 1) key) sample) keys row.samples

/-! ### One sample -/

theorem sample_of_toChar?_eq_some (h : (word.mask key).toChar? = some c) :
    sample word key = if IsPrintable c then c else '?' := by
  have hnumber : (word.mask key).toInt = c.toNat := by
    rw [Word.toChar?_eq_some_iff.1 h, Word.toInt_ofChar]
  unfold sample IsPrintable
  simp only [hnumber, Int.toNat_natCast, Char.ofNat_toNat, unprintable]
  norm_cast

theorem sample_of_toChar?_eq_none (h : (word.mask key).toChar? = none) :
    sample word key = '?' := by
  have hscalar := ArrayRange.toChar?_eq_none_iff.1 h
  unfold sample
  apply if_neg
  rintro ⟨hlow, hhigh⟩
  exact hscalar (Or.inl ⟨by omega, by omega⟩)

/-- The two ways to read a masked word agree. -/
theorem isSampleOf_sample (h : array[i]? = some token) (hvalue : token.value dialect = .ok word) :
    IsSampleOf (ArrayRange.decode dialect array i (i + 1) key) (sample word key) := by
  cases hchar : (word.mask key).toChar? with
  | some c =>
    have hword := ArrayRange.toChar?_mask_eq_some_iff.1 hchar
    have hdecode : ArrayRange.decode dialect array i (i + 1) key = .ok (String.singleton c) :=
      (ArrayRange.decode_singleton_iff h).2 ⟨c, rfl, hword ▸ hvalue⟩
    rw [hdecode, sample_of_toChar?_eq_some hchar]
    by_cases hprintable : IsPrintable c
    · rw [if_pos hprintable]
      exact .shown hprintable
    · rw [if_neg hprintable]
      exact .unprintable hprintable
  | none =>
    rw [sample_of_toChar?_eq_none hchar]
    cases hdecode : ArrayRange.decode dialect array i (i + 1) key with
    | error refusal => exact .refused
    | ok text =>
      -- a text would be one character, which the masked word would be
      obtain ⟨c, -, hc⟩ := (ArrayRange.decode_singleton_iff h).1 hdecode
      have hword := Except.ok.inj (hvalue.symm.trans hc)
      rw [ArrayRange.toChar?_mask_eq_some_iff.2 hword] at hchar
      cases hchar

/-! ### One row -/

theorem describes_ofToken (h : array[i]? = some token) :
    (ofToken dialect keys i token).Describes dialect array keys i token := by
  cases hvalue : token.value dialect with
  | error refusal =>
    have hnone : (ofToken dialect keys i token).value = none := by
      simp [ofToken, hvalue, Except.toOption]
    refine ⟨rfl, rfl, ?_, ?_, ?_, ?_⟩
    · simp [hnone, hvalue]
    · simp [hnone, hvalue]
    · intro _
      simp [ofToken, hvalue, Except.toOption]
    · intro word hword
      rw [hnone] at hword
      cases hword
  | ok word =>
    have hsome : (ofToken dialect keys i token).value = some word := by
      simp [ofToken, hvalue, Except.toOption]
    have hsamples : (ofToken dialect keys i token).samples = keys.map (sample word) := by
      simp [ofToken, hvalue, Except.toOption]
    refine ⟨rfl, rfl, ?_, ?_, ?_, ?_⟩
    · simp [hsome, hvalue]
    · simp [hsome, hvalue]
    · intro hnone
      rw [hsome] at hnone
      cases hnone
    · intro _ _
      rw [hsamples, List.forall₂_map_right_iff, List.forall₂_same]
      intro key _
      exact isSampleOf_sample h hvalue

end SampleRow

/-- **The sample table shows what decoding would give.**  It has one row for each element in order,
    with the place, the text and the value of the element.  A row has no samples if the element has
    no value.  Otherwise it has one for each key: the character that the element alone decodes to
    under the key if it is printable, and a question mark if it is not or if decoding is refused. -/
theorem sampleTable_agrees (dialect : Dialect) (array : List Token) (keys : List Key) :
    (sampleTable dialect array keys).length = array.length
    ∧ ∀ (i : Nat) (token : Token), array[i]? = some token →
      ∃ row, (sampleTable dialect array keys)[i]? = some row
        ∧ row.Describes dialect array keys i token := by
  constructor
  · exact List.length_mapIdx
  · intro i token h
    refine ⟨SampleRow.ofToken dialect keys i token, ?_, SampleRow.describes_ofToken h⟩
    rw [sampleTable, List.getElem?_mapIdx, h, Option.map_some]

/-- An element that by itself is a surrogate, and that the second key makes printable. -/
theorem sampleTable_agrees_surrogate :
    ([⟨"-0x5s"⟩, ⟨"0xD841s"⟩, ⟨"0xZZs"⟩] : List Token)[1]? = some ⟨"0xD841s"⟩
    ∧ ∃ row, (sampleTable .smaliShort [⟨"-0x5s"⟩, ⟨"0xD841s"⟩, ⟨"0xZZs"⟩] [0, 0xD800])[1]? = some row
      ∧ row.Describes .smaliShort [⟨"-0x5s"⟩, ⟨"0xD841s"⟩, ⟨"0xZZs"⟩] [0, 0xD800] 1 ⟨"0xD841s"⟩
      ∧ row.value = some 0xD841 ∧ row.samples = ['?', 'A'] := by
  obtain ⟨row, hrow, hdescribes⟩ :=
    (sampleTable_agrees .smaliShort [⟨"-0x5s"⟩, ⟨"0xD841s"⟩, ⟨"0xZZs"⟩] [0, 0xD800]).2 1 _ rfl
  have hshown : (sampleTable .smaliShort [⟨"-0x5s"⟩, ⟨"0xD841s"⟩, ⟨"0xZZs"⟩] [0, 0xD800])[1]?
      = some ⟨1, "0xD841s", some 0xD841, ['?', 'A']⟩ := by cbv
  obtain rfl := Option.some.inj (hrow.symm.trans hshown)
  exact ⟨rfl, _, hrow, hdescribes, rfl, rfl⟩

/-- No key makes a negative element printable, and an element without a value has no samples. -/
example : sampleTable .smaliShort [⟨"-0x5s"⟩, ⟨"0xZZs"⟩] [0, 0x48]
    = [⟨0, "-0x5s", some (-5), ['?', '?']⟩, ⟨1, "0xZZs", none, []⟩] := by cbv

end MaskedLiterals
