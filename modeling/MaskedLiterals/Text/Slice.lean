/-!
# Parts of a text by octets

A place in a text can be given by the octets in front of it.  Not every number of octets is such a
place: it may lie beyond the text or within a character.  `slice?` takes the part between two places
and gives nothing where one of them is none, or where they are the wrong way round.
-/

namespace MaskedLiterals.Text

def octets (text : List Char) : Nat := (String.ofList text).utf8ByteSize

theorem octets_append (front back : List Char) :
    octets (front ++ back) = octets front + octets back := by
  simp [octets, String.ofList_append]

theorem octets_toList (text : String) : octets text.toList = text.utf8ByteSize := by
  rw [octets, String.ofList_toList]

/-- The part of a text from the octet `start` up to but not including the octet `stop`. -/
def slice? (text : String) (start stop : Nat) : Option String :=
  if places : (String.Pos.Raw.mk start).IsValid text ∧ (String.Pos.Raw.mk stop).IsValid text
      ∧ start ≤ stop then
    some (String.extract ⟨⟨start⟩, places.1⟩ ⟨⟨stop⟩, places.2.1⟩)
  else none

theorem isSome_slice?_iff {text : String} {start stop : Nat} :
    (slice? text start stop).isSome
      ↔ (String.Pos.Raw.mk start).IsValid text ∧ (String.Pos.Raw.mk stop).IsValid text
        ∧ start ≤ stop := by
  unfold slice?
  split <;> simp_all

/-- What stands between two other parts is the part from behind the first up to the second. -/
theorem slice?_append (before part after : String) :
    slice? (before ++ part ++ after) before.utf8ByteSize (before ++ part).utf8ByteSize
      = some part := by
  have hstart : (String.Pos.Raw.mk before.utf8ByteSize).IsValid (before ++ part ++ after) :=
    String.Pos.Raw.isValid_iff_exists_append.2
      ⟨before, part ++ after, by rw [String.append_assoc], rfl⟩
  have hstop : (String.Pos.Raw.mk (before ++ part).utf8ByteSize).IsValid
      (before ++ part ++ after) :=
    String.Pos.Raw.isValid_iff_exists_append.2 ⟨before ++ part, after, rfl, rfl⟩
  have hle : before.utf8ByteSize ≤ (before ++ part).utf8ByteSize := by
    rw [String.utf8ByteSize_append]
    exact Nat.le_add_right _ _
  have hbehind := @ByteArray.extract_append_size_add before.toByteArray (part ++ after).toByteArray
    0 part.toByteArray.size
  rw [slice?, dif_pos ⟨hstart, hstop, hle⟩, Option.some.injEq, ← String.toByteArray_inj]
  show (before ++ part ++ after).toByteArray.extract before.utf8ByteSize
    (before ++ part).utf8ByteSize = part.toByteArray
  rw [String.append_assoc, String.toByteArray_append, String.utf8ByteSize_append,
    ← String.size_toByteArray, ← String.size_toByteArray]
  rw [Nat.add_zero] at hbehind
  rw [hbehind, String.toByteArray_append]
  exact ByteArray.extract_append_eq_left rfl

theorem slice?_of_toList {text : String} {before part after : List Char}
    (h : text.toList = before ++ (part ++ after)) :
    slice? text (octets before) (octets before + octets part) = some (String.ofList part) := by
  have htext : text = String.ofList before ++ String.ofList part ++ String.ofList after := by
    rw [← String.ofList_append, ← String.ofList_append, List.append_assoc, ← h,
      String.ofList_toList]
  have hslice := slice?_append (String.ofList before) (String.ofList part) (String.ofList after)
  rw [String.utf8ByteSize_append, ← htext] at hslice
  exact hslice

/-- A character of two octets is a part of a text, its first octet is not. -/
example : slice? "aéb" 1 3 = some "é" ∧ slice? "aéb" 1 2 = none := by decide

end MaskedLiterals.Text
