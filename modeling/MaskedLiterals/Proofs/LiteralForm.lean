import MaskedLiterals.Scan

/-!
# The form of a literal

`IsLiteral` is the lexical form by itself, with no reference to a scan: an optional `-`, `0x`, at
least one hexadecimal digit, the marker.  Two facts about it carry everything that is known of
scanning.

* At most one literal starts at a place, and `literalAt?` finds it (`literalAt?_eq_some_iff`).
  So it makes no difference whether a matcher is greedy or not.
* Two literals that overlap are one literal with and without its sign (`isPrefix_or_eq_of_overlap`).

Both rest on the characters that are refused as markers: a marker that was a digit, `x` or `-` would
let a literal go on, or start, within another one.
-/

namespace MaskedLiterals

def Sign.chars : Sign → List Char
  | .positive => []
  | .negative => ['-']

/-- One or more hexadecimal digits. -/
def IsDigitRun (digits : List Char) : Prop :=
  digits ≠ [] ∧ ∀ c ∈ digits, NumeralBase.hex.isDigit c = true

def literalChars (marker : Char) (sign : Sign) (digits : List Char) : List Char :=
  sign.chars ++ '0' :: 'x' :: digits ++ [marker]

/-- The whole text is one literal. -/
def IsLiteral (marker : Char) (text : List Char) : Prop :=
  ∃ sign digits, IsDigitRun digits ∧ text = literalChars marker sign digits

/-- No part of the text is a literal. -/
def IsLiteralFree (marker : Char) (text : List Char) : Prop :=
  ∀ literal, IsLiteral marker literal → ¬ literal <:+: text

/-! ### What a marker is not -/

section Marker

variable {marker : Char}

theorem IsMarker.not_isDigit (h : IsMarker marker) : NumeralBase.hex.isDigit marker = false := by
  simp only [IsMarker, not_or] at h
  simpa using h.1

theorem IsMarker.ne_x (h : IsMarker marker) : marker ≠ 'x' := by
  simp only [IsMarker, not_or] at h
  exact h.2.1

theorem IsMarker.ne_hyphen (h : IsMarker marker) : marker ≠ '-' := by
  simp only [IsMarker, not_or] at h
  exact h.2.2.2.1

theorem IsMarker.ne_zero (h : IsMarker marker) : marker ≠ '0' := by
  rintro rfl
  exact absurd h.not_isDigit (by decide)

end Marker

theorem ne_x_of_isDigit {c : Char} (h : NumeralBase.hex.isDigit c = true) : c ≠ 'x' := by
  rintro rfl
  exact absurd h (by decide)

theorem ne_hyphen_of_isDigit {c : Char} (h : NumeralBase.hex.isDigit c = true) : c ≠ '-' := by
  rintro rfl
  exact absurd h (by decide)

/-! ### One literal at a place -/

section Place

variable {marker : Char} {text literal behind : List Char}

/-- Digits in front of the marker are exactly what is taken as digits. -/
theorem takeWhile_digits (hm : IsMarker marker) {digits : List Char}
    (h : ∀ c ∈ digits, NumeralBase.hex.isDigit c = true) (behind : List Char) :
    (digits ++ marker :: behind).takeWhile NumeralBase.hex.isDigit = digits
      ∧ (digits ++ marker :: behind).dropWhile NumeralBase.hex.isDigit = marker :: behind := by
  have hstop := hm.not_isDigit
  constructor
  · rw [List.takeWhile_append_of_pos h, List.takeWhile_cons_of_neg (by simp [hstop]),
      List.append_nil]
  · rw [List.dropWhile_append_of_pos h, List.dropWhile_cons_of_neg (by simp [hstop])]

theorem unsignedAt?_literalChars (hm : IsMarker marker) {digits : List Char}
    (h : IsDigitRun digits) (behind : List Char) :
    unsignedAt? marker (literalChars marker .positive digits ++ behind)
      = some (literalChars marker .positive digits, behind) := by
  obtain ⟨hne, hdigits⟩ := h
  obtain ⟨d, ds, rfl⟩ := List.exists_cons_of_ne_nil hne
  obtain ⟨htake, hdrop⟩ := takeWhile_digits hm hdigits behind
  simp only [literalChars, Sign.chars, List.nil_append, List.cons_append, List.append_assoc,
    unsignedAt?] at htake hdrop ⊢
  rw [htake, hdrop]
  simp

theorem isLiteral_of_unsignedAt? (h : unsignedAt? marker text = some (literal, behind)) :
    ∃ digits, IsDigitRun digits ∧ literal = literalChars marker .positive digits := by
  unfold unsignedAt? at h
  split at h
  · next text =>
    split at h
    · next d digits c rest htake hdrop =>
      split at h
      · next hc =>
        simp only [Option.some.injEq, Prod.mk.injEq] at h
        refine ⟨d :: digits, ⟨by simp, ?_⟩, ?_⟩
        · intro c hmem
          rw [← htake] at hmem
          exact List.all_eq_true.1 List.all_takeWhile c hmem
        · rw [← h.1, hc]
          rfl
      · cases h
    · cases h
  · cases h

theorem literalAt?_literalChars (hm : IsMarker marker) (sign : Sign) {digits : List Char}
    (h : IsDigitRun digits) (behind : List Char) :
    literalAt? marker (literalChars marker sign digits ++ behind)
      = some (literalChars marker sign digits, behind) := by
  have hbody := unsignedAt?_literalChars hm h behind
  cases sign with
  | positive => exact hbody
  | negative =>
    show (unsignedAt? marker (literalChars marker .positive digits ++ behind)).map _ = _
    rw [hbody]
    rfl

theorem isLiteral_of_literalAt? (h : literalAt? marker text = some (literal, behind)) :
    IsLiteral marker literal := by
  unfold literalAt? at h
  split at h
  · simp only [Option.map_eq_some_iff, Prod.exists, Prod.mk.injEq] at h
    obtain ⟨body, rest, hbody, rfl, -⟩ := h
    obtain ⟨digits, hdigits, rfl⟩ := isLiteral_of_unsignedAt? hbody
    exact ⟨.negative, digits, hdigits, rfl⟩
  · obtain ⟨digits, hdigits, rfl⟩ := isLiteral_of_unsignedAt? h
    exact ⟨.positive, digits, hdigits, rfl⟩

/-- **The literal found at the start of a text is the only one that starts there.** -/
theorem literalAt?_eq_some_iff (hm : IsMarker marker) :
    literalAt? marker text = some (literal, behind)
      ↔ IsLiteral marker literal ∧ literal ++ behind = text := by
  constructor
  · intro h
    exact ⟨isLiteral_of_literalAt? h, (append_of_literalAt? h).1⟩
  · rintro ⟨⟨sign, digits, hdigits, rfl⟩, rfl⟩
    exact literalAt?_literalChars hm sign hdigits behind

theorem IsLiteral.eq_of_append_eq (hm : IsMarker marker) {other rest : List Char}
    (h : IsLiteral marker literal) (hother : IsLiteral marker other)
    (heq : literal ++ behind = other ++ rest) : literal = other ∧ behind = rest := by
  have hfirst := (literalAt?_eq_some_iff hm).2 ⟨h, heq⟩
  have hsecond : literalAt? marker (other ++ rest) = some (other, rest) :=
    (literalAt?_eq_some_iff hm).2 ⟨hother, rfl⟩
  rw [hfirst] at hsecond
  simpa using hsecond

theorem IsLiteral.ne_nil (h : IsLiteral marker text) : text ≠ [] := by
  obtain ⟨sign, digits, -, rfl⟩ := h
  simp [literalChars]

end Place

/-- A sign makes another literal of a literal that has none. -/
theorem isLiteral_hyphen_cons_iff {marker : Char} {text : List Char} :
    IsLiteral marker ('-' :: text) ↔ IsLiteral marker text ∧ text.head? ≠ some '-' := by
  constructor
  · rintro ⟨sign, digits, hdigits, heq⟩
    cases sign with
    | positive => simp [literalChars, Sign.chars] at heq
    | negative =>
      obtain rfl : text = literalChars marker .positive digits := by
        simpa [literalChars, Sign.chars] using heq
      exact ⟨⟨.positive, digits, hdigits, rfl⟩, by simp [literalChars, Sign.chars]⟩
  · rintro ⟨⟨sign, digits, hdigits, rfl⟩, hhead⟩
    cases sign with
    | positive => exact ⟨.negative, digits, hdigits, rfl⟩
    | negative => exact absurd rfl hhead

/-! ### Literals that overlap -/

section Overlap

variable {marker : Char}

/-- No literal starts at the digits of another one. -/
theorem literalAt?_digits (hm : IsMarker marker) {digits : List Char}
    (h : ∀ c ∈ digits, NumeralBase.hex.isDigit c = true) (behind : List Char) :
    literalAt? marker (digits ++ marker :: behind) = none := by
  cases digits with
  | nil =>
    have hhyphen := hm.ne_hyphen
    have hzero := hm.ne_zero
    simp [literalAt?, unsignedAt?, hhyphen, hzero]
  | cons d ds =>
    have hhyphen := ne_hyphen_of_isDigit (h d (by simp))
    cases ds with
    | nil =>
      have hx := hm.ne_x
      simp [literalAt?, unsignedAt?, hhyphen, hx]
    | cons e ds =>
      have hx := ne_x_of_isDigit (h e (by simp))
      simp [literalAt?, unsignedAt?, hhyphen, hx]

theorem literalAt?_within_unsigned (hm : IsMarker marker) {digits front back : List Char}
    (h : IsDigitRun digits) (hfront : front ≠ []) (hback : back ≠ [])
    (heq : front ++ back = literalChars marker .positive digits) (behind : List Char) :
    literalAt? marker (back ++ behind) = none := by
  obtain ⟨c, front, rfl⟩ := List.exists_cons_of_ne_nil hfront
  simp only [literalChars, Sign.chars, List.nil_append, List.cons_append, List.cons.injEq] at heq
  cases front with
  | nil =>
    -- behind the `0` stands the `x`
    rw [List.nil_append] at heq
    rw [heq.2]
    simp [literalAt?, unsignedAt?]
  | cons x front =>
    rw [List.cons_append, List.cons.injEq] at heq
    obtain ⟨late, hlate, rfl⟩ : ∃ late, (∀ c ∈ late, c ∈ digits) ∧ back = late ++ [marker] := by
      rcases List.append_eq_append_iff.1 heq.2.2 with ⟨late, hdigits, hlate⟩ | ⟨late, -, hend⟩
      · exact ⟨late, fun c hc => by rw [hdigits]; exact List.mem_append_right front hc, hlate⟩
      · rcases List.append_eq_singleton_iff.1 hend.symm with ⟨-, hlast⟩ | ⟨-, hnil⟩
        · exact ⟨[], by simp, hlast⟩
        · exact absurd hnil hback
    have hrun := literalAt?_digits hm (fun c hc => h.2 c (hlate c hc)) behind
    simpa using hrun

/-- Within a literal another one starts behind the sign only. -/
theorem IsLiteral.literalAt?_within (hm : IsMarker marker) {front back : List Char}
    (h : IsLiteral marker (front ++ back)) (hfront : front ≠ []) (hback : back ≠ [])
    (behind : List Char) :
    literalAt? marker (back ++ behind) = none ∨ front = ['-'] := by
  obtain ⟨sign, digits, hdigits, heq⟩ := h
  cases sign with
  | positive => exact Or.inl (literalAt?_within_unsigned hm hdigits hfront hback heq behind)
  | negative =>
    obtain ⟨c, front, rfl⟩ := List.exists_cons_of_ne_nil hfront
    have hbody : c = '-' ∧ front ++ back = literalChars marker .positive digits := by
      simpa [literalChars, Sign.chars] using heq
    obtain ⟨rfl, hbody⟩ := hbody
    by_cases hsign : front = []
    · exact Or.inr (by rw [hsign])
    · exact Or.inl (literalAt?_within_unsigned hm hdigits hsign hback hbody behind)

/-- **Literals that overlap differ in the sign alone.**  If one literal starts in front of another,
    it ends there too, unless it is the other one with the sign in front. -/
theorem IsLiteral.isPrefix_or_eq_of_overlap (hm : IsMarker marker)
    {first gap second behind rest : List Char}
    (h : IsLiteral marker first) (hsecond : IsLiteral marker second) (hgap : gap ≠ [])
    (heq : first ++ behind = gap ++ (second ++ rest)) :
    first <+: gap ∨ gap = ['-'] ∧ first = '-' :: second := by
  rcases List.append_eq_append_iff.1 heq with ⟨late, hlate, -⟩ | ⟨late, rfl, hlate⟩
  · exact Or.inl ⟨late, hlate.symm⟩
  · by_cases hnil : late = []
    · exact Or.inl (hnil ▸ ⟨[], by simp⟩)
    · have hstarts : literalAt? marker (late ++ behind) = some (second, rest) :=
        (literalAt?_eq_some_iff hm).2 ⟨hsecond, hlate⟩
      rcases h.literalAt?_within hm hgap hnil behind with hnone | rfl
      · rw [hnone] at hstarts
        cases hstarts
      · -- without its sign the first literal is one as well, at the place of the second
        have hbody := (isLiteral_hyphen_cons_iff.1 h).1
        obtain ⟨rfl, -⟩ := hbody.eq_of_append_eq hm hsecond hlate.symm
        exact Or.inr ⟨rfl, rfl⟩

end Overlap

end MaskedLiterals
