import MaskedLiterals.Token

/-!
# The sample table

To find the key of a string one tries a few.  The table has a row for each element of an array: its
place, its text, its value, and for each key the character that the key would show.  Only printable
ASCII is shown, and anything else is a question mark; an element without a value has no samples.
-/

namespace MaskedLiterals

/-- One element under the keys that are tried. -/
structure SampleRow where
  index : Nat
  raw : String
  value : Option Word
  samples : List Char
  deriving DecidableEq, Repr, Inhabited

namespace SampleRow

/-- Stands for a character that is not printable ASCII. -/
def unprintable : Char := '?'

/-- What a word shows under a key. -/
def sample (word : Word) (key : Key) : Char :=
  let shown := (word.mask key).toInt
  if 32 ≤ shown ∧ shown ≤ 126 then Char.ofNat shown.toNat else unprintable

def ofToken (dialect : Dialect) (keys : List Key) (index : Nat) (token : Token) : SampleRow :=
  let value := (token.value dialect).toOption
  { index
    raw := token.raw
    value
    samples := match value with
      | some word => keys.map (sample word)
      | none => [] }

def valueLabel (row : SampleRow) : String :=
  match row.value with
  | some word => toString word.toInt
  | none => "Error"

def samplesLabel (row : SampleRow) : String :=
  String.intercalate " | " (row.samples.map Char.toString)

end SampleRow

/-- The rows of an array, one for each element in order. -/
def sampleTable (dialect : Dialect) (array : List Token) (keys : List Key) : List SampleRow :=
  array.mapIdx (SampleRow.ofToken dialect keys)

end MaskedLiterals
