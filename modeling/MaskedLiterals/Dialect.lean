import MaskedLiterals.Refusal
import MaskedLiterals.Text.Blank

/-!
# Literal dialects

A literal is an optional `-`, then `0x`, then hexadecimal digits, then the *marker* of its dialect;
the smali `short` has the marker `s`.  A dialect also fixes how many digits a newly written literal
has at least.

A marker that could be taken for a part of the literal would make the scan ambiguous, so a dialect
carries the proof that its marker is neither a digit, nor `x`, `X` or `-`, nor a blank or control
character.
-/

namespace MaskedLiterals

/-- A character that can end a literal. -/
def IsMarker (c : Char) : Prop :=
  ¬ (NumeralBase.hex.isDigit c ∨ c = 'x' ∨ c = 'X' ∨ c = '-' ∨ Text.isBlank c ∨ Text.isControl c)

instance (c : Char) : Decidable (IsMarker c) := by unfold IsMarker; infer_instance

/-- How literals are recognised and written. -/
structure Dialect where
  marker : Char
  padWidth : Nat
  isMarker : IsMarker marker
  deriving DecidableEq, Repr

namespace Dialect

def defaultPadWidth : Nat := 4

/-- The dialect with the given marker, unless the marker is refused. -/
def ofMarker (marker : Char) (padWidth : Nat) : Except Refusal Dialect :=
  if isMarker : IsMarker marker then .ok ⟨marker, padWidth, isMarker⟩
  else .error (.invalidMarker marker)

def smaliShort : Dialect := ⟨'s', defaultPadWidth, by decide⟩

instance : Inhabited Dialect := ⟨smaliShort⟩

/-- A dialect is made exactly for the markers there are, with the settings asked for. -/
theorem ofMarker_eq_ok_iff {marker : Char} {padWidth : Nat} {dialect : Dialect} :
    ofMarker marker padWidth = .ok dialect
      ↔ IsMarker marker ∧ dialect.marker = marker ∧ dialect.padWidth = padWidth := by
  unfold ofMarker
  split
  · next isMarker =>
    constructor
    · intro h; cases h; exact ⟨isMarker, rfl, rfl⟩
    · rintro ⟨-, rfl, rfl⟩; rfl
  · next refused => exact ⟨(nomatch ·), fun h => absurd h.1 refused⟩

end Dialect

end MaskedLiterals
