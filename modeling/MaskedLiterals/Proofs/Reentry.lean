import MaskedLiterals.Proofs.RangeOutcome
import MaskedLiterals.Session

/-!
# Text that is entered again

The text that a range hides can be written over the range again, under the same key.  The elements
need not be the same ones: they come in the dialect's width, in small letters, and zero loses its
sign.  Their values are the same (`reenter_decoded`), since masking twice changes nothing and there
is one character for each place of the range.  Elements with other values are not touched, and what
a range decodes to depends on values alone, so no range can tell the difference under any key.
-/

namespace MaskedLiterals

namespace ArrayRange

variable {dialect : Dialect} {key : Key} {array new : List Token} {start stop : Nat} {text : String}

/-- Elements that are written over others with the same values keep all values of the array. -/
theorem map_value_overwrite
    (h : ∀ (j : Nat) (token old : Token), new[j]? = some token → array[start + j]? = some old →
      token.value dialect = old.value dialect) :
    (overwrite array start new).map (Token.value dialect)
      = array.map (Token.value dialect) := by
  refine List.ext_getElem? fun i => ?_
  rw [List.getElem?_map, List.getElem?_map, getElem?_overwrite]
  by_cases hin : start ≤ i ∧ i < start + room array start new
  · rw [if_pos hin]
    obtain ⟨j, rfl⟩ := Nat.exists_eq_add_of_le hin.1
    have hj : j < new.length ∧ start + j < array.length := by
      have hroom := hin.2
      unfold room at hroom
      omega
    have htoken := List.getElem?_eq_getElem hj.1
    have hold := List.getElem?_eq_getElem hj.2
    rw [Nat.add_sub_cancel_left, htoken, hold, Option.map_some, Option.map_some,
      h j _ _ htoken hold]
  · rw [if_neg hin]

/-- The value at a place of a range that was decoded is the masked word of its character. -/
theorem value_of_decode {j : Nat} {c : Char} (h : decode dialect array start stop key = .ok text)
    (hc : text.toList[j]? = some c) :
    ∃ token, array[start + j]? = some token ∧ token.value dialect = .ok (maskedWord key c) := by
  obtain ⟨token, word, htoken, hvalue, hnumber⟩ := (decode_eq_ok_iff_hidesAt.1 h).2 j c hc
  exact ⟨token, htoken, maskedNumber_eq_iff.1 hnumber ▸ hvalue⟩

theorem length_of_decode (h : decode dialect array start stop key = .ok text) :
    text.length = min stop array.length - start := (decode_eq_ok_iff_hidesAt.1 h).1

/-- What is encoded from a decoded range is what is written for the values of the range. -/
theorem getElem?_encode_of_decode {j : Nat} (h : decode dialect array start stop key = .ok text)
    (hj : j < text.length) :
    ∃ token word, array[start + j]? = some token ∧ token.value dialect = .ok word
      ∧ (encode dialect text key)[j]? = some (Token.ofWordPadded dialect word) := by
  have hc := List.getElem?_eq_getElem (l := text.toList) (by rwa [String.length_toList])
  obtain ⟨token, htoken, hvalue⟩ := value_of_decode h hc
  exact ⟨token, _, htoken, hvalue, by rw [getElem?_encode, hc, Option.map_some]⟩

theorem room_of_decode (h : decode dialect array start stop key = .ok text) :
    room array start (encode dialect text key) = text.length := by
  have hlength := length_of_decode h
  rw [room_encode]
  omega

theorem map_value_reenter (h : decode dialect array start stop key = .ok text) :
    (overwrite array start (encode dialect text key)).map (Token.value dialect)
      = array.map (Token.value dialect) := by
  apply map_value_overwrite
  intro j token old htoken hold
  have hj : j < text.length := by
    have hlength := (List.getElem?_eq_some_iff.1 htoken).1
    rwa [length_encode] at hlength
  obtain ⟨found, word, hfound, hvalue, hwritten⟩ := getElem?_encode_of_decode h hj
  obtain rfl := Option.some.inj (hold.symm.trans hfound)
  obtain rfl := Option.some.inj (htoken.symm.trans hwritten)
  rw [hvalue, Token.value_ofWordPadded]

/-- **Entering a decoded text again changes no value.**  The text has one character for each place
    of the range, and for each the element is made that is written for the value there.  All of them
    find room, every element of the array keeps its value, if it has one, and every range decodes
    under every key as before.  A session on the array writes them and keeps all else, unless the
    text is empty: then there is nothing to write and the edit is refused. -/
theorem reenter_decoded (h : decode dialect array start stop key = .ok text) :
    (encode dialect text key).length = min stop array.length - start
    ∧ (∀ j, j < min stop array.length - start →
      ∃ token word, array[start + j]? = some token ∧ token.value dialect = .ok word
        ∧ (encode dialect text key)[j]? = some (Token.ofWordPadded dialect word))
    ∧ room array start (encode dialect text key) = (encode dialect text key).length
    ∧ (overwrite array start (encode dialect text key)).map (Token.value dialect)
      = array.map (Token.value dialect)
    ∧ (∀ (first last : Nat) (other : Key),
      decode dialect (overwrite array start (encode dialect text key)) first last other
        = decode dialect array first last other)
    ∧ ∀ session : Session, session.dialect = dialect → session.store.tokens = array →
      text = "" ∧ session.edit start text key = .error .emptyEdit
      ∨ ∃ edited, session.edit start text key = .ok (edited, text.length)
        ∧ edited = { session with store := edited.store }
        ∧ edited.store.tokens.map (Token.value dialect) = array.map (Token.value dialect) := by
  have hlength := length_of_decode h
  have hvalues := map_value_reenter h
  refine ⟨by rw [length_encode, hlength], fun j hj => ?_, ?_, hvalues, ?_, ?_⟩
  · rw [← hlength] at hj
    exact getElem?_encode_of_decode h hj
  · rw [room_of_decode h, length_encode]
  · intro first last other
    exact decode_congr hvalues first last other
  · rintro session rfl rfl
    by_cases hempty : text = ""
    · exact Or.inl ⟨hempty, if_pos hempty⟩
    · refine Or.inr ⟨{ session with store := session.store.overwrite start (session.encode text key) },
        ?_, rfl, hvalues⟩
      rw [Session.edit, if_neg hempty, ← room_of_decode h]
      rfl

/-- Zero loses its sign and the others come in another form, next to an element that is no literal
    and behind the end of the range. -/
theorem reenter_decoded_signed_zero :
    decode .smaliShort [⟨"0x"⟩, ⟨"-0x0s"⟩, ⟨"0x0001F620s"⟩, ⟨"0x48s"⟩] 1 9 0x20 = .ok " 😀h"
      ∧ overwrite [⟨"0x"⟩, ⟨"-0x0s"⟩, ⟨"0x0001F620s"⟩, ⟨"0x48s"⟩] 1
          (encode .smaliShort " 😀h" 0x20)
        = [⟨"0x"⟩, ⟨"0x0000s"⟩, ⟨"0x1f620s"⟩, ⟨"0x0048s"⟩]
      ∧ [⟨"0x"⟩, ⟨"0x0000s"⟩, ⟨"0x1f620s"⟩, ⟨"0x0048s"⟩].map (Token.value .smaliShort)
        = [⟨"0x"⟩, ⟨"-0x0s"⟩, ⟨"0x0001F620s"⟩, ⟨"0x48s"⟩].map (Token.value .smaliShort) := by
  have hdecode : decode .smaliShort [⟨"0x"⟩, ⟨"-0x0s"⟩, ⟨"0x0001F620s"⟩, ⟨"0x48s"⟩] 1 9 0x20
      = .ok " 😀h" := by rfl
  have hwritten : overwrite [⟨"0x"⟩, ⟨"-0x0s"⟩, ⟨"0x0001F620s"⟩, ⟨"0x48s"⟩] 1
      (encode .smaliShort " 😀h" 0x20)
      = [⟨"0x"⟩, ⟨"0x0000s"⟩, ⟨"0x1f620s"⟩, ⟨"0x0048s"⟩] := by cbv
  obtain ⟨-, -, -, hvalues, -⟩ := reenter_decoded hdecode
  rw [hwritten] at hvalues
  exact ⟨hdecode, hwritten, hvalues⟩

end ArrayRange

end MaskedLiterals
