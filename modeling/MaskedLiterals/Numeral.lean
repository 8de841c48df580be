import MaskedLiterals.Refusal
import MaskedLiterals.Text.Blank

/-!
# Indices and keys as the user writes them

A numeral is a run of digits in the base that goes with it, with blanks around it that do not
count.  A hexadecimal numeral may have one `0x` or `0X` in front.  There are no signs, and the
number has to fit the field it is for: it is below the number of values that the field can have.
-/

namespace MaskedLiterals.Numeral

/-- A hexadecimal numeral without the one `0x` or `0X` that it may begin with. -/
def withoutPrefix : NumeralBase → List Char → List Char
  | .hex, '0' :: 'x' :: digits => digits
  | .hex, '0' :: 'X' :: digits => digits
  | _, digits => digits

/-- The number that a numeral of the base stands for, whatever its size. -/
def read? (base : NumeralBase) (input : List Char) : Option Nat :=
  let digits := withoutPrefix base (Text.trim input)
  if digits ≠ [] ∧ digits.all base.isDigit then some (base.valueOf digits) else none

/-- The number below `size` that the input stands for.  A refusal shows the input as it came. -/
def parse (size : Nat) (base : NumeralBase) (input : String) : Except Refusal Nat :=
  match read? base input.toList with
  | some value => if value < size then .ok value else .error (.invalidNumeral input base)
  | none => .error (.invalidNumeral input base)

/-- An index into an array: 64 bits. -/
def parseIndex (base : NumeralBase) (input : String) : Except Refusal Nat :=
  parse UInt64.size base input

/-- A key: 32 bits. -/
def parseKey (base : NumeralBase) (input : String) : Except Refusal Key :=
  (parse UInt32.size base input).map UInt32.ofNat

/-- A numeral is accepted exactly when it reads as a number that fits. -/
theorem parse_eq_ok_iff {size value : Nat} {base : NumeralBase} {input : String} :
    parse size base input = .ok value ↔ read? base input.toList = some value ∧ value < size := by
  unfold parse
  split
  · next found read =>
    split
    · next fits =>
      simp only [Except.ok.injEq, read, Option.some.injEq]
      exact ⟨fun h => ⟨h, h ▸ fits⟩, And.left⟩
    · next large =>
      simp only [reduceCtorEq, read, Option.some.injEq, false_iff, not_and]
      rintro rfl
      exact large
  · next read => simp [read]

end MaskedLiterals.Numeral
