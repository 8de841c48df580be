import MaskedLiterals.Proofs.HiddenText
import MaskedLiterals.Proofs.SpliceReadback

/-!
# Other elements with the same values

A value can be written in many ways: with zeros in front, with digits of either case, and zero also
with a sign.  Elements may be put in place of others with the same values, one way in one place and
another way in another: the text that is spliced holds the same values as the one before
(`values_newText`).  The elements themselves need not be read back.  Behind a gap that ends in `-` an
element can take the `-` for its sign, but the literal that stood there had a sign and the new one
has none, so both are zero.

Decoding looks at values alone, so a text whose elements are brought into a uniform form hides what
it hid before (`parse_normalised`).
-/

namespace MaskedLiterals

variable {dialect : Dialect}

/-! ### An element that takes a sign -/

/-- An element that takes the sign in front of it has the value of the literal that had the sign. -/
theorem value_hyphen_of_takesSign {gap old : List Char} {new : Token} {word : Word}
    (hpiece : IsExactPiece dialect.marker gap old) (hsign : TakesSign gap new.raw.toList)
    (hold : (⟨String.ofList old⟩ : Token).value dialect = .ok word)
    (hnew : new.value dialect = .ok word) :
    (⟨"-" ++ new.raw⟩ : Token).value dialect = .ok word := by
  have hsigned : (⟨String.ofList old⟩ : Token).raw.toList.head? = some '-' := by
    rw [String.toList_ofList]
    exact hpiece.signTaken hsign.1
  have hnonpos := Token.nonpos_of_head?_eq_hyphen hsigned hold
  have hnonneg := Token.nonneg_of_head?_ne_hyphen hsign.2 hnew
  have hzero : word = 0 := by
    rw [← Int64.toInt_inj, Int64.toInt_zero]
    omega
  have hopposite := ArrayRange.value_hyphen hsign.2 hnew
  rw [hzero] at hopposite ⊢
  exact hopposite

/-! ### A text with other elements -/

section Splice

variable {text newText : String} {tokens new : List Token}

/-- The array of a text can be replaced by any other one with the same values. -/
theorem splice_of_values (htokens : dialect.literalsOf text = tokens)
    (hvalues : ∀ token ∈ tokens, ∃ word, token.value dialect = .ok word)
    (hsame : new.map (Token.value dialect) = tokens.map (Token.value dialect)) :
    ∃ newText, dialect.splice text new = .ok ⟨newText, text⟩ := by
  have hlength : new.length = tokens.length := by
    simpa using congrArg List.length hsame
  refine ⟨_, splice_eq_ok_iff.2 ⟨?_, fun token hmem => ?_, rfl⟩⟩
  · rw [← length_literalsOf, htokens, hlength]
  · have hvalue : token.value dialect ∈ tokens.map (Token.value dialect) := by
      rw [← hsame]
      exact List.mem_map_of_mem hmem
    obtain ⟨old, hold, heq⟩ := List.mem_map.1 hvalue
    rw [← heq]
    exact hvalues old hold

/-- **Values are read back.** -/
theorem values_newText (htokens : dialect.literalsOf text = tokens)
    (hvalues : ∀ token ∈ tokens, ∃ word, token.value dialect = .ok word)
    (hsame : new.map (Token.value dialect) = tokens.map (Token.value dialect))
    (hsplice : dialect.splice text new = .ok ⟨newText, text⟩) :
    (dialect.literalsOf newText).map (Token.value dialect) = tokens.map (Token.value dialect) := by
  have hcount : dialect.countLiterals newText = new.length := countLiterals_newText hsplice
  rw [← hsame]
  refine List.ext_getElem? fun k => ?_
  rw [List.getElem?_map, List.getElem?_map]
  cases hnew : new[k]? with
  | none =>
    have hk := List.getElem?_eq_none_iff.1 hnew
    have hread : (dialect.literalsOf newText)[k]? = none := by
      rw [List.getElem?_eq_none_iff, length_literalsOf, hcount]
      exact hk
    rw [hread]
  | some token =>
    -- at the `k`-th place stood an element with the same value
    have hplace := congrArg (·[k]?) hsame
    simp only [List.getElem?_map, hnew, Option.map_some] at hplace
    obtain ⟨old, hold, heq⟩ := Option.map_eq_some_iff.1 hplace.symm
    obtain ⟨word, hword⟩ := hvalues old (List.mem_of_getElem? hold)
    rw [← htokens] at hold
    obtain ⟨⟨gap, literal⟩, hpiece, rfl⟩ : ∃ piece, (dialect.cut text).pieces[k]? = some piece
        ∧ (⟨String.ofList piece.2⟩ : Token) = old := by
      simpa [Dialect.literalsOf, Cut.literals] using hold
    have hexact := (isExact_cut dialect.isMarker text.toList).pieces _ (List.mem_of_getElem? hpiece)
    rw [literalsOf_newText_getElem? hsplice (gaps_getElem?_of_pieces hpiece) hnew]
    rw [hword] at heq
    rw [Option.map_some, Option.map_some, ← heq]
    split
    · next hsign => rw [value_hyphen_of_takesSign hexact hsign hword heq.symm]
    · exact congrArg some heq.symm

end Splice

/-! ### Uniform forms -/

/-- The new element is written for the value of the old one, at the least width or at that of the
    dialect. -/
def Token.IsNormalised (dialect : Dialect) (token new : Token) : Prop :=
  ∃ word, token.value dialect = .ok word
    ∧ (new = ofWord dialect word ∨ new = ofWordPadded dialect word)

theorem Token.IsNormalised.value_eq {token new : Token} (h : token.IsNormalised dialect new) :
    new.value dialect = token.value dialect := by
  obtain ⟨word, hword, rfl | rfl⟩ := h
  · rw [hword, value_ofWord]
  · rw [hword, value_ofWordPadded]

theorem map_value_of_isNormalised {tokens new : List Token}
    (h : List.Forall₂ (Token.IsNormalised dialect) tokens new) :
    new.map (Token.value dialect) = tokens.map (Token.value dialect) := by
  induction h with
  | nil => rfl
  | cons hfirst _ ih => rw [List.map_cons, List.map_cons, hfirst.value_eq, ih]

theorem exists_value_of_isNormalised {tokens new : List Token}
    (h : List.Forall₂ (Token.IsNormalised dialect) tokens new) :
    ∀ token ∈ tokens, ∃ word, token.value dialect = .ok word := by
  induction h with
  | nil => simp
  | cons hfirst _ ih =>
    obtain ⟨word, hword, -⟩ := hfirst
    exact List.forall_mem_cons.2 ⟨⟨word, hword⟩, ih⟩

/-- **A uniform form keeps the meaning of a text.**  Any choice of forms can be spliced into the
    text.  As many elements are read back, with the same values, so every range decodes under every
    key to what it decoded to before, and where it does not decode it is for the same element, which
    has a value that hides no character. -/
theorem parse_normalised {text : String} {tokens new : List Token}
    (hparse : dialect.parse text = .ok tokens)
    (hnew : List.Forall₂ (Token.IsNormalised dialect) tokens new) :
    ∃ newText read, dialect.splice text new = .ok ⟨newText, text⟩
      ∧ dialect.parse newText = .ok read
      ∧ read.length = tokens.length
      ∧ read.map (Token.value dialect) = tokens.map (Token.value dialect)
      ∧ ∀ (start stop : Nat) (key : Key),
        ArrayRange.decode dialect read start stop key
            = ArrayRange.decode dialect tokens start stop key
          ∧ ∀ refusal, ArrayRange.decode dialect tokens start stop key = .error refusal →
            ∃ index word, refusal = .invalidCodePoint index word := by
  obtain ⟨hne, htokens⟩ := parse_eq_ok_iff.1 hparse
  have hvalues := exists_value_of_isNormalised hnew
  have hsame := map_value_of_isNormalised hnew
  obtain ⟨newText, hsplice⟩ := splice_of_values htokens hvalues hsame
  have hread := values_newText htokens hvalues hsame hsplice
  have hlength : (dialect.literalsOf newText).length = tokens.length := by
    simpa using congrArg List.length hread
  have hnonempty : dialect.literalsOf newText ≠ [] := by
    rw [← List.length_pos_iff, hlength]
    exact List.length_pos_iff.2 hne
  refine ⟨newText, _, hsplice, parse_eq_ok_iff.2 ⟨hnonempty, rfl⟩, hlength, hread, ?_⟩
  intro start stop key
  constructor
  · exact ArrayRange.decode_congr hread start stop key
  · intro refusal hrefused
    exact ArrayRange.decode_eq_error_of_values hvalues hrefused

/-- Zero with a sign is written without one and takes the `-` in front of it; the other element is
    only written wider. -/
theorem parse_normalised_signed_zero :
    Dialect.smaliShort.parse "--0x0s -0x41s" = .ok [⟨"-0x0s"⟩, ⟨"-0x41s"⟩]
      ∧ List.Forall₂ (Token.IsNormalised .smaliShort) [⟨"-0x0s"⟩, ⟨"-0x41s"⟩]
        [⟨"0x0s"⟩, ⟨"-0x0041s"⟩]
      ∧ Dialect.smaliShort.splice "--0x0s -0x41s" [⟨"0x0s"⟩, ⟨"-0x0041s"⟩]
        = .ok ⟨"-0x0s -0x0041s", "--0x0s -0x41s"⟩
      ∧ ∃ read, Dialect.smaliShort.parse "-0x0s -0x0041s" = .ok read
        ∧ read.map (Token.value .smaliShort) = [.ok 0, .ok (-65)] := by
  have hparse : Dialect.smaliShort.parse "--0x0s -0x41s" = .ok [⟨"-0x0s"⟩, ⟨"-0x41s"⟩] := by cbv
  have hzero : (⟨"-0x0s"⟩ : Token).value .smaliShort = .ok 0 := by cbv
  have hother : (⟨"-0x41s"⟩ : Token).value .smaliShort = .ok (-65) := by cbv
  have hnew : List.Forall₂ (Token.IsNormalised .smaliShort) [⟨"-0x0s"⟩, ⟨"-0x41s"⟩]
      [⟨"0x0s"⟩, ⟨"-0x0041s"⟩] :=
    .cons ⟨0, hzero, Or.inl (by cbv)⟩ (.cons ⟨-65, hother, Or.inr (by cbv)⟩ .nil)
  have hsplice : Dialect.smaliShort.splice "--0x0s -0x41s" [⟨"0x0s"⟩, ⟨"-0x0041s"⟩]
      = .ok ⟨"-0x0s -0x0041s", "--0x0s -0x41s"⟩ := by cbv
  obtain ⟨newText, read, hfound, hread, -, hvalues, -⟩ := parse_normalised hparse hnew
  rw [hsplice] at hfound
  cases hfound
  refine ⟨hparse, hnew, hsplice, read, hread, ?_⟩
  rw [hvalues, List.map_cons, List.map_singleton, hzero, hother]

end MaskedLiterals
