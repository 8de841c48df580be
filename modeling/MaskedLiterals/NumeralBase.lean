/-!
# Digits in base ten and base sixteen

Literals, indices and keys are written in one of two bases.  `valueOf` reads a run of digits by
position and `digitsOf` writes the shortest lower-case run for a number, so that reading what was
written gives the number back; zeros put in front change nothing.
-/

namespace MaskedLiterals

inductive NumeralBase where
  | decimal
  | hex
  deriving DecidableEq, Repr, Inhabited

namespace NumeralBase

def radix : NumeralBase → Nat
  | decimal => 10
  | hex => 16

def label : NumeralBase → String
  | decimal => "decimal"
  | hex => "hex"

/-- The number an ASCII digit stands for, in either letter case; other characters stand for none. -/
def digitValue? (c : Char) : Option Nat :=
  if '0' ≤ c ∧ c ≤ '9' then some (c.toNat - '0'.toNat)
  else if 'a' ≤ c ∧ c ≤ 'f' then some (c.toNat - 'a'.toNat + 10)
  else if 'A' ≤ c ∧ c ≤ 'F' then some (c.toNat - 'A'.toNat + 10)
  else none

def isDigit (base : NumeralBase) (c : Char) : Bool :=
  match digitValue? c with
  | some d => d < base.radix
  | none => false

/-- The number a run of digits stands for by position, most significant first. -/
def valueOf (base : NumeralBase) (digits : List Char) : Nat :=
  digits.foldl (fun value c => base.radix * value + (digitValue? c).getD 0) 0

/-- The shortest run of lower-case digits for a number; zero is written `0`. -/
def digitsOf (base : NumeralBase) (value : Nat) : List Char := Nat.toDigits base.radix value

/-- The digits of a number with zeros in front up to the given width. -/
def paddedDigits (base : NumeralBase) (width value : Nat) : List Char :=
  (base.digitsOf value).leftpad width '0'

def padded (base : NumeralBase) (width value : Nat) : String :=
  String.ofList (base.paddedDigits width value)

/-! ### Reading and writing agree -/

theorem radix_pos (base : NumeralBase) : 1 < base.radix := by
  cases base <;> decide

theorem digitValue?_digitChar {d : Nat} (h : d < 16) : digitValue? d.digitChar = some d := by
  have all : ∀ d : Fin 16, digitValue? d.val.digitChar = some d.val := by decide
  exact all ⟨d, h⟩

/-- A digit behind a run multiplies the run by the radix and adds itself. -/
theorem valueOf_concat (base : NumeralBase) (digits : List Char) (c : Char) :
    base.valueOf (digits ++ [c]) = base.radix * base.valueOf digits + (digitValue? c).getD 0 := by
  simp [valueOf]

/-- Zeros in front of a run leave its value alone. -/
theorem valueOf_replicate_zero_append (base : NumeralBase) (n : Nat) (digits : List Char) :
    base.valueOf (List.replicate n '0' ++ digits) = base.valueOf digits := by
  induction n with
  | zero => rfl
  | succ n ih => simpa [List.replicate_succ, valueOf, digitValue?] using ih

/-- Reading the digits written for a number gives the number. -/
theorem valueOf_digitsOf (base : NumeralBase) (value : Nat) :
    base.valueOf (base.digitsOf value) = value := by
  induction value using Nat.strongRecOn with
  | ind value ih =>
    have radix_le : base.radix ≤ 16 := by cases base <;> decide
    by_cases small : value < base.radix
    · simp [digitsOf, Nat.toDigits_of_lt_base small, valueOf,
        digitValue?_digitChar (Nat.lt_of_lt_of_le small radix_le)]
    · have hpos : 0 < value :=
        Nat.lt_of_lt_of_le (Nat.lt_of_succ_lt base.radix_pos) (Nat.le_of_not_lt small)
      have step : base.digitsOf value
          = base.digitsOf (value / base.radix) ++ [(value % base.radix).digitChar] :=
        Nat.toDigits_of_base_le base.radix_pos (Nat.le_of_not_lt small)
      have hmod : value % base.radix < base.radix := Nat.mod_lt _ (Nat.lt_of_succ_lt base.radix_pos)
      rw [step, valueOf_concat, ih _ (Nat.div_lt_self hpos base.radix_pos),
        digitValue?_digitChar (Nat.lt_of_lt_of_le hmod radix_le)]
      exact Nat.div_add_mod value base.radix

/-- Padding leaves the value alone. -/
theorem valueOf_paddedDigits (base : NumeralBase) (width value : Nat) :
    base.valueOf (base.paddedDigits width value) = value := by
  rw [paddedDigits, List.leftpad, valueOf_replicate_zero_append, valueOf_digitsOf]

end NumeralBase

end MaskedLiterals
