import MaskedLiterals.Proofs.RangeOutcome

/-!
# Which keys decode an element

A key has 32 bits and a word has 64, of which masking reaches the lower half.  Seen as a word, a key
is one of the words from zero up to `2^32 - 1`, and so is every character.  So the masked word of a
character is the key that masks one with the other (`maskedWord_eq_ofKey`), and all questions about
keys are answered by the exclusive or of 32 bits: a word outside this half hides nothing under any
key, and one inside hides every character, each under one key.

A text that two keys decode is therefore read under the one as it is under the other, but for the
exclusive or of the keys in every character.
-/

namespace MaskedLiterals

/-! ### Keys as words -/

/-- The exclusive or with the same bits on the other side undoes it. -/
theorem Key.xor_eq_iff {bits key other : Key} : bits ^^^ key = other ↔ key = bits ^^^ other := by
  constructor
  · rintro rfl
    rw [← UInt32.xor_assoc, UInt32.xor_self, UInt32.zero_xor]
  · rintro rfl
    rw [← UInt32.xor_assoc, UInt32.xor_self, UInt32.zero_xor]

namespace Word

theorem ofKey_inj {key other : Key} : ofKey key = ofKey other ↔ key = other := by
  rw [← Int64.toInt_inj, toInt_ofKey, toInt_ofKey, Int.natCast_inj, UInt32.toNat_inj]

theorem ofKey_xor (key other : Key) : ofKey key ^^^ ofKey other = ofKey (key ^^^ other) := by
  rw [ofKey, ofKey, ofKey, UInt32.toUInt64_xor, UInt64.toInt64_xor]

/-- The words that are keys are those of the lower half that are not negative. -/
theorem exists_ofKey_iff {word : Word} :
    (∃ key, word = ofKey key) ↔ 0 ≤ word.toInt ∧ word.toInt < 2 ^ 32 := by
  constructor
  · rintro ⟨key, rfl⟩
    have hkey := key.toNat_lt
    rw [toInt_ofKey]
    omega
  · rintro ⟨hlow, hhigh⟩
    have hsmall : word.toInt.toNat < 2 ^ 32 := by omega
    refine ⟨UInt32.ofNat word.toInt.toNat, ?_⟩
    rw [← Int64.toInt_inj, toInt_ofKey, UInt32.toNat_ofNat_of_lt' hsmall]
    omega

theorem ofChar_eq_ofKey (c : Char) : ofChar c = ofKey c.val := by
  rw [← Int64.toInt_inj, toInt_ofChar, toInt_ofKey]
  rfl

end Word

namespace ArrayRange

variable {dialect : Dialect} {array : List Token} {start stop i : Nat} {key other : Key}
variable {token : Token} {word : Word} {text second : String}

theorem maskedWord_eq_ofKey (key : Key) (c : Char) :
    maskedWord key c = Word.ofKey (c.val ^^^ key) := by
  rw [maskedWord, Word.mask, Word.ofChar_eq_ofKey, Word.ofKey_xor]

/-- A character and a key are the same word as others exactly if their masks are the same. -/
theorem maskedWord_eq_iff {c d : Char} :
    maskedWord key c = maskedWord other d ↔ d.val = c.val ^^^ (key ^^^ other) := by
  rw [maskedWord_eq_ofKey, maskedWord_eq_ofKey, Word.ofKey_inj, eq_comm, UInt32.xor_comm d.val,
    Key.xor_eq_iff]
  have hbits : other ^^^ (c.val ^^^ key) = c.val ^^^ (key ^^^ other) := by ac_rfl
  rw [hbits]

theorem ofKey_eq_maskedWord_iff {reach : Key} {c : Char} :
    Word.ofKey reach = maskedWord key c ↔ key = c.val ^^^ reach := by
  rw [maskedWord_eq_ofKey, Word.ofKey_inj, eq_comm, Key.xor_eq_iff]

theorem maskedWord_bounds (key : Key) (c : Char) :
    0 ≤ (maskedWord key c).toInt ∧ (maskedWord key c).toInt < 2 ^ 32 :=
  Word.exists_ofKey_iff.1 ⟨_, maskedWord_eq_ofKey key c⟩

/-! ### One element -/

theorem window_singleton (h : array[i]? = some token) : window array i (i + 1) = [token] := by
  obtain ⟨hi, rfl⟩ := List.getElem?_eq_some_iff.1 h
  rw [window, List.drop_take, Nat.add_sub_cancel_left, List.drop_eq_getElem_cons hi]
  rfl

/-- The range of one element decodes to the one character that the element hides. -/
theorem decode_singleton_iff (h : array[i]? = some token) :
    decode dialect array i (i + 1) key = .ok text
      ↔ ∃ c, text = String.singleton c ∧ token.value dialect = .ok (maskedWord key c) := by
  rw [decode_eq_ok_iff, window_singleton h, List.map_singleton]
  constructor
  · intro hvalues
    obtain ⟨c, htext, hvalue⟩ := List.map_eq_singleton_iff.1 hvalues.symm
    refine ⟨c, ?_, hvalue.symm⟩
    rw [← String.toList_inj, htext, String.toList_singleton]
  · rintro ⟨c, rfl, hvalue⟩
    rw [String.toList_singleton, List.map_singleton, hvalue]

theorem exists_decode_singleton_iff (h : array[i]? = some token)
    (hvalue : token.value dialect = .ok word) :
    (∃ key text, decode dialect array i (i + 1) key = .ok text)
      ↔ 0 ≤ word.toInt ∧ word.toInt < 2 ^ 32 := by
  simp only [decode_singleton_iff h, hvalue, Except.ok.injEq]
  constructor
  · rintro ⟨key, text, c, -, rfl⟩
    exact maskedWord_bounds key c
  · intro hword
    obtain ⟨reach, rfl⟩ := Word.exists_ofKey_iff.2 hword
    exact ⟨_, _, 'a', rfl, ofKey_eq_maskedWord_iff.2 rfl⟩

/-- An element in reach of the keys hides each character under one of them. -/
theorem existsUnique_decode_singleton (h : array[i]? = some token)
    (hvalue : token.value dialect = .ok word) (hword : 0 ≤ word.toInt ∧ word.toInt < 2 ^ 32)
    (c : Char) : ∃! key, decode dialect array i (i + 1) key = .ok (String.singleton c) := by
  obtain ⟨reach, rfl⟩ := Word.exists_ofKey_iff.2 hword
  have hsingle (key : Key) : decode dialect array i (i + 1) key = .ok (String.singleton c)
      ↔ key = c.val ^^^ reach := by
    rw [decode_singleton_iff h, hvalue, ← ofKey_eq_maskedWord_iff]
    constructor
    · rintro ⟨d, hd, hmasked⟩
      obtain rfl : c = d := by simpa using congrArg String.toList hd
      exact Except.ok.inj hmasked
    · intro hmasked
      exact ⟨c, rfl, congrArg Except.ok hmasked⟩
  simp only [hsingle]
  exact existsUnique_eq

/-! ### A range under two keys -/

theorem exists_error_of_out_of_reach (hin : InWindow array start stop i)
    (h : array[i]? = some token) (hvalue : token.value dialect = .ok word)
    (hword : word.toInt < 0 ∨ 2 ^ 32 ≤ word.toInt) (key : Key) :
    ∃ refusal, decode dialect array start stop key = .error refusal := by
  cases hdecode : decode dialect array start stop key with
  | error refusal => exact ⟨refusal, rfl⟩
  | ok text =>
    obtain ⟨c, found, shown, hfound, hshown, hnumber⟩ := exists_decode_eq_ok_iff.1 ⟨text, hdecode⟩ i hin
    obtain rfl := Option.some.inj (h.symm.trans hfound)
    obtain rfl := Except.ok.inj (hvalue.symm.trans hshown)
    rw [maskedNumber_eq_iff.1 hnumber] at hword
    have hbounds := maskedWord_bounds key c
    omega

theorem xor_of_decode {j : Nat} {c d : Char} (h : decode dialect array start stop key = .ok text)
    (hsecond : decode dialect array start stop other = .ok second)
    (hc : text.toList[j]? = some c) (hd : second.toList[j]? = some d) :
    d.val = c.val ^^^ (key ^^^ other) := by
  have hvalues := (decode_eq_ok_iff.1 h).symm.trans (decode_eq_ok_iff.1 hsecond)
  have hplace := congrArg (·[j]?) hvalues
  simp only [List.getElem?_map, hc, hd, Option.map_some, Option.some.injEq, Except.ok.injEq] at hplace
  exact maskedWord_eq_iff.1 hplace

theorem key_eq_of_decode (hin : InWindow array start stop i)
    (h : decode dialect array start stop key = .ok text)
    (hother : decode dialect array start stop other = .ok text) : key = other := by
  have hlength := (decode_eq_ok_iff_hidesAt.1 h).1
  have hfirst : 0 < text.toList.length := by
    obtain ⟨hstart, hstop⟩ := hin
    rw [String.length_toList]
    omega
  have hc := List.getElem?_eq_getElem hfirst
  have hsame := Key.xor_eq_iff.1 (xor_of_decode h hother hc hc).symm
  rw [UInt32.xor_self] at hsame
  exact UInt32.xor_eq_zero_iff.1 hsame

/-- **Which keys decode an array.**  An element is decoded by some key exactly if its value is one
    of the numbers that 32 bits can hold, and then each character is what exactly one key decodes it
    to.  A range with an element of another value is refused under every key.  Two keys that decode
    a range decode it to texts of one length, whose characters differ by the exclusive or of the
    keys; so only one key decodes a range of at least one element to a text. -/
theorem keys_of_array (dialect : Dialect) (array : List Token) :
    (∀ (i : Nat) (token : Token) (word : Word), array[i]? = some token →
      token.value dialect = .ok word →
      ((∃ key text, decode dialect array i (i + 1) key = .ok text)
          ↔ 0 ≤ word.toInt ∧ word.toInt < 2 ^ 32)
        ∧ (0 ≤ word.toInt ∧ word.toInt < 2 ^ 32 → ∀ c : Char,
          ∃! key, decode dialect array i (i + 1) key = .ok (String.singleton c))
        ∧ (word.toInt < 0 ∨ 2 ^ 32 ≤ word.toInt → ∀ start stop, InWindow array start stop i →
          ∀ key, ∃ refusal, decode dialect array start stop key = .error refusal))
    ∧ ∀ (start stop : Nat) (key other : Key) (text second : String),
      decode dialect array start stop key = .ok text →
      decode dialect array start stop other = .ok second →
      second.length = text.length
        ∧ (∀ (j : Nat) (c d : Char), text.toList[j]? = some c → second.toList[j]? = some d →
          d.val = c.val ^^^ (key ^^^ other))
        ∧ (∀ i, InWindow array start stop i → text = second → key = other) := by
  constructor
  · intro i token word htoken hvalue
    refine ⟨exists_decode_singleton_iff htoken hvalue, ?_, ?_⟩
    · intro hword c
      exact existsUnique_decode_singleton htoken hvalue hword c
    · intro hword start stop hin key
      exact exists_error_of_out_of_reach hin htoken hvalue hword key
  · intro start stop key other text second h hsecond
    refine ⟨?_, fun j c d hc hd => xor_of_decode h hsecond hc hd, ?_⟩
    · rw [(decode_eq_ok_iff_hidesAt.1 hsecond).1, (decode_eq_ok_iff_hidesAt.1 h).1]
    · rintro i hin rfl
      exact key_eq_of_decode hin h hsecond

/-- The greatest word in reach hides any character under one key, the next one under none. -/
theorem keys_of_array_end_of_reach :
    (∃! key, decode .smaliShort [⟨"0xFFFFFFFFs"⟩, ⟨"0x100000000s"⟩] 0 1 key = .ok "A")
      ∧ ∀ key, ∃ refusal,
        decode .smaliShort [⟨"0xFFFFFFFFs"⟩, ⟨"0x100000000s"⟩] 0 2 key = .error refusal := by
  have hlast : (⟨"0xFFFFFFFFs"⟩ : Token).value .smaliShort = .ok 0xFFFFFFFF := by cbv
  have hnext : (⟨"0x100000000s"⟩ : Token).value .smaliShort = .ok 0x100000000 := by cbv
  have hkeys := (keys_of_array .smaliShort [⟨"0xFFFFFFFFs"⟩, ⟨"0x100000000s"⟩]).1
  constructor
  · exact (hkeys 0 _ _ rfl hlast).2.1 (by decide) 'A'
  · exact (hkeys 1 _ _ rfl hnext).2.2 (by decide) 0 2 ⟨by decide, by decide⟩

end ArrayRange

end MaskedLiterals
