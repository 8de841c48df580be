import MaskedLiterals.Token

/-!
# Finding the literals of a text

A text is cut at its literals: `Cut.pieces` are the literals from left to right, each with the gap
in front of it, and `Cut.rest` is the text behind the last one.  The scan goes from left to right
and takes at each place the longest literal that starts there.  Since the marker is no digit, at
most one literal starts at a place, and since a literal is taken as soon as one starts, a `-` in
front of `0x` belongs to it.

`join_cut` says that the pieces and the rest are the text again, so a cut loses nothing.
-/

namespace MaskedLiterals

/-! ### A literal at the start of a text -/

/-- The unsigned literal at the start of the text, with the text behind it. -/
def unsignedAt? (marker : Char) : List Char → Option (List Char × List Char)
  | '0' :: 'x' :: text =>
    match text.takeWhile NumeralBase.hex.isDigit, text.dropWhile NumeralBase.hex.isDigit with
    | d :: digits, c :: behind =>
      if c = marker then some ('0' :: 'x' :: d :: digits ++ [c], behind) else none
    | _, _ => none
  | _ => none

/-- The literal at the start of the text, with the text behind it. -/
def literalAt? (marker : Char) : List Char → Option (List Char × List Char)
  | '-' :: text => (unsignedAt? marker text).map fun (literal, behind) => ('-' :: literal, behind)
  | text => unsignedAt? marker text

theorem append_of_unsignedAt? {marker : Char} {text literal behind : List Char}
    (h : unsignedAt? marker text = some (literal, behind)) :
    literal ++ behind = text ∧ literal ≠ [] := by
  unfold unsignedAt? at h
  split at h
  · next text =>
    split at h
    · next d digits c rest htake hdrop =>
      split at h
      · simp only [Option.some.injEq, Prod.mk.injEq] at h
        obtain ⟨rfl, rfl⟩ := h
        have whole := List.takeWhile_append_dropWhile
          (p := NumeralBase.hex.isDigit) (l := text)
        rw [htake, hdrop] at whole
        exact ⟨by simpa using whole, by simp⟩
      · cases h
    · cases h
  · cases h

/-- A literal and the text behind it are the text it was found in, and a literal is not empty. -/
theorem append_of_literalAt? {marker : Char} {text literal behind : List Char}
    (h : literalAt? marker text = some (literal, behind)) :
    literal ++ behind = text ∧ literal ≠ [] := by
  unfold literalAt? at h
  split at h
  · simp only [Option.map_eq_some_iff, Prod.exists, Prod.mk.injEq] at h
    obtain ⟨inner, rest, hinner, rfl, rfl⟩ := h
    exact ⟨by simp [(append_of_unsignedAt? hinner).1], by simp⟩
  · exact append_of_unsignedAt? h

theorem length_of_literalAt? {marker : Char} {text literal behind : List Char}
    (h : literalAt? marker text = some (literal, behind)) : behind.length < text.length := by
  obtain ⟨rfl, nonempty⟩ := append_of_literalAt? h
  have := List.length_pos_iff.2 nonempty
  simp only [List.length_append]
  omega

/-! ### A text cut at its literals -/

/-- The literals of a text with the gaps in front of them, and the text behind the last literal. -/
structure Cut where
  pieces : List (List Char × List Char)
  rest : List Char
  deriving DecidableEq, Repr, Inhabited

namespace Cut

def empty : Cut := ⟨[], []⟩

/-- Puts a character in front: it belongs to the first gap. -/
def push (c : Char) : Cut → Cut
  | ⟨[], rest⟩ => ⟨[], c :: rest⟩
  | ⟨(gap, literal) :: pieces, rest⟩ => ⟨(c :: gap, literal) :: pieces, rest⟩

/-- Puts a literal in front: no gap comes before it. -/
def pushLiteral (literal : List Char) (cut : Cut) : Cut :=
  { cut with pieces := ([], literal) :: cut.pieces }

def literals (cut : Cut) : List (List Char) := cut.pieces.map Prod.snd

def gaps (cut : Cut) : List (List Char) := cut.pieces.map Prod.fst

def join (cut : Cut) : List Char :=
  cut.pieces.flatMap (fun piece => piece.1 ++ piece.2) ++ cut.rest

/-- The text with other literals between the same gaps, as long as both last. -/
def fill (cut : Cut) (literals : List (List Char)) : List Char :=
  (cut.gaps.zip literals).flatMap (fun piece => piece.1 ++ piece.2) ++ cut.rest

@[simp] theorem join_push (c : Char) (cut : Cut) : (cut.push c).join = c :: cut.join := by
  obtain ⟨_ | ⟨⟨gap, literal⟩, pieces⟩, rest⟩ := cut <;> simp [push, join]

@[simp] theorem join_pushLiteral (literal : List Char) (cut : Cut) :
    (cut.pushLiteral literal).join = literal ++ cut.join := by
  simp [pushLiteral, join]

/-- Filling the gaps with the literals that were there gives the text back. -/
theorem fill_literals (cut : Cut) : cut.fill cut.literals = cut.join := by
  have zipped : cut.gaps.zip cut.literals = cut.pieces := by
    simp [gaps, literals, List.zip_map']
  rw [fill, zipped, join]

end Cut

def cut (marker : Char) : List Char → Cut
  | [] => .empty
  | c :: text =>
    match _ : literalAt? marker (c :: text) with
    | some (literal, behind) => (cut marker behind).pushLiteral literal
    | none => (cut marker text).push c
termination_by text => text.length
decreasing_by
  · exact length_of_literalAt? ‹_›
  · exact Nat.lt_add_one text.length

theorem cut_nil (marker : Char) : cut marker [] = .empty := by rw [cut]

/-- Where a literal starts, the cut takes it and goes on behind it. -/
theorem cut_of_literalAt? {marker : Char} {text literal behind : List Char}
    (h : literalAt? marker text = some (literal, behind)) :
    cut marker text = (cut marker behind).pushLiteral literal := by
  cases text with
  | nil => exact absurd h (by simp [literalAt?, unsignedAt?])
  | cons c text =>
    rw [cut]
    split
    · next found => rw [h] at found; cases found; rfl
    · next none => rw [h] at none; cases none

/-- Where no literal starts, the character is put in the gap and the cut goes on behind it. -/
theorem cut_cons_of_literalAt?_eq_none {marker c : Char} {text : List Char}
    (h : literalAt? marker (c :: text) = none) :
    cut marker (c :: text) = (cut marker text).push c := by
  rw [cut]
  split
  · next found => rw [h] at found; cases found
  · rfl

/-- A cut loses nothing of the text. -/
theorem join_cut (marker : Char) (text : List Char) : (cut marker text).join = text := by
  induction text using cut.induct marker with
  | case1 => simp [cut_nil, Cut.empty, Cut.join]
  | case2 c text literal behind found ih =>
    rw [cut_of_literalAt? found, Cut.join_pushLiteral, ih, (append_of_literalAt? found).1]
  | case3 c text none ih => rw [cut_cons_of_literalAt?_eq_none none, Cut.join_push, ih]

/-! ### The array of a text -/

def Dialect.cut (dialect : Dialect) (text : String) : Cut :=
  MaskedLiterals.cut dialect.marker text.toList

def Dialect.literalsOf (dialect : Dialect) (text : String) : List Token :=
  (dialect.cut text).literals.map fun literal => ⟨String.ofList literal⟩

def Dialect.countLiterals (dialect : Dialect) (text : String) : Nat :=
  (dialect.cut text).pieces.length

/-- The array that a text holds.  A text without any literal holds none, not an empty one. -/
def Dialect.parse (dialect : Dialect) (text : String) : Except Refusal (List Token) :=
  match dialect.literalsOf text with
  | [] => .error .noLiterals
  | tokens => .ok tokens

end MaskedLiterals
