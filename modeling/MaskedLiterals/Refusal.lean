import MaskedLiterals.NumeralBase
import MaskedLiterals.Word

/-!
# Why an operation on literals is refused

Each refusal names its cause and carries what a message has to show.  `message` is its one wording,
and `hint` the advice that goes with it where there is any.  A refused operation has changed
nothing.
-/

namespace MaskedLiterals

inductive Refusal where
  | noLiterals
  /-- The text of an array element is no literal, or its number does not fit a word. -/
  | malformedLiteral (raw : String)
  /-- The element at `index` unmasks to `value`, which is no character. -/
  | invalidCodePoint (index : Nat) (value : Word)
  /-- The text has `literals` literals, while the array has `tokens` elements. -/
  | countMismatch (literals tokens : Nat)
  /-- An index or key that is not written as `base` asks, as it was given. -/
  | invalidNumeral (input : String) (base : NumeralBase)
  | invalidMarker (marker : Char)
  | emptyEdit
  deriving DecidableEq, Repr, Inhabited

namespace Refusal

/-- What is reported for a refusal.  A value is shown by its bits. -/
def message : Refusal → String
  | noLiterals => "no array-data literals found in input"
  | malformedLiteral raw => "malformed literal '" ++ raw ++ "'"
  | invalidCodePoint index value =>
    "value 0x" ++ NumeralBase.hex.padded 1 value.bits ++ " at index " ++ toString index
      ++ " is not a valid Unicode scalar value"
  | countMismatch literals tokens =>
    "source has " ++ toString literals ++ " literals but the array holds " ++ toString tokens
      ++ " tokens"
  | invalidNumeral input base => "invalid " ++ base.label ++ " numeral '" ++ input ++ "'"
  | invalidMarker marker => "'" ++ marker.toString ++ "' cannot be used as a literal marker"
  | emptyEdit => "replacement string is empty"

def hint : Refusal → Option String
  | noLiterals =>
    some "check the literal marker (--marker) matches the file, e.g. 's' for 0x48s"
  | invalidCodePoint _ _ => some "the XOR key is probably wrong for this range"
  | countMismatch _ _ =>
    some "the file changed on disk since it was loaded; reload it and reapply the edit"
  | invalidNumeral _ .hex =>
    some "hex values may carry a 0x prefix; pass the matching --*-base dec for decimal input"
  | invalidNumeral _ .decimal =>
    some "decimal values take digits only; pass the matching --*-base hex for hex input"
  | malformedLiteral _ | invalidMarker _ | emptyEdit => none

end Refusal

end MaskedLiterals
