import MaskedLiterals.Dialect

/-!
# Array elements and their values

An element keeps the text it was written as, so that an element that is not edited is written back
byte for byte.  The text is read only when a value is asked for: it may come from a hand edit and be
no literal at all, and then every question about its number is refused.

`value` reads an element as a word, `ofWord` writes a word as an element.  Writing uses lower-case
digits, at least as many as the given width; the sign and the marker do not count.
-/

namespace MaskedLiterals

/-- An array element as it stands in the text, for instance `-0x5s`. -/
structure Token where
  raw : String
  deriving DecidableEq, Repr, Inhabited

namespace Token

/-- The sign an element shows, whether or not it is a literal. -/
def sign (token : Token) : Sign :=
  match token.raw.toList with
  | '-' :: _ => .negative
  | _ => .positive

/-! ### Reading -/

/-- The text before the marker, if the text ends with one. -/
def beforeMarker? (marker : Char) (text : List Char) : Option (List Char) :=
  if text.getLast? = some marker then some text.dropLast else none

/-- A leading `-` apart from the text behind it. -/
def splitSign : List Char → Sign × List Char
  | '-' :: text => (.negative, text)
  | text => (.positive, text)

/-- The text behind a leading `0x`. -/
def afterPrefix? : List Char → Option (List Char)
  | '0' :: 'x' :: text => some text
  | _ => none

/-- The sign and the digits of a literal of the dialect, if the whole text is one. -/
def signedDigits? (dialect : Dialect) (text : List Char) : Option (Sign × List Char) := do
  let body ← beforeMarker? dialect.marker text
  let digits ← afterPrefix? (splitSign body).2
  if digits ≠ [] ∧ digits.all NumeralBase.hex.isDigit then
    some ((splitSign body).1, digits)
  else none

/-- The sign and the magnitude of an element; a magnitude takes at most 64 bits. -/
def signMagnitude (dialect : Dialect) (token : Token) : Except Refusal (Sign × Nat) :=
  match signedDigits? dialect token.raw.toList with
  | some (sign, digits) =>
    if NumeralBase.hex.valueOf digits < UInt64.size then
      .ok (sign, NumeralBase.hex.valueOf digits)
    else .error (.malformedLiteral token.raw)
  | none => .error (.malformedLiteral token.raw)

def magnitude (dialect : Dialect) (token : Token) : Except Refusal Nat :=
  (token.signMagnitude dialect).map Prod.snd

def value (dialect : Dialect) (token : Token) : Except Refusal Word := do
  let (sign, magnitude) ← token.signMagnitude dialect
  match Word.ofSignMagnitude? sign magnitude with
  | some word => .ok word
  | none => .error (.malformedLiteral token.raw)

/-! ### Writing -/

/-- The characters of a word as a literal with at least `width` digits. -/
def charsOfWord (marker : Char) (width : Nat) (word : Word) : List Char :=
  (if word.toInt < 0 then ['-'] else []) ++ '0' :: 'x'
    :: NumeralBase.hex.paddedDigits width word.magnitude ++ [marker]

/-- The shortest element that denotes the word. -/
def ofWord (dialect : Dialect) (word : Word) : Token :=
  ⟨String.ofList (charsOfWord dialect.marker 1 word)⟩

/-- The element that denotes the word at the dialect's width, as an edit writes it.  The width has no
    limit here, while a formatter may give up above 65535. -/
def ofWordPadded (dialect : Dialect) (word : Word) : Token :=
  ⟨String.ofList (charsOfWord dialect.marker dialect.padWidth word)⟩

/-! ### What a refused element is refused for -/

theorem signMagnitude_eq_error {dialect : Dialect} {token : Token} {refusal : Refusal}
    (h : token.signMagnitude dialect = .error refusal) :
    refusal = .malformedLiteral token.raw := by
  unfold signMagnitude at h
  repeat' split at h
  all_goals simp_all

/-- Reading refuses an element in one way only: as the malformed literal that it is. -/
theorem value_eq_error {dialect : Dialect} {token : Token} {refusal : Refusal}
    (h : token.value dialect = .error refusal) : refusal = .malformedLiteral token.raw := by
  unfold value at h
  cases read : token.signMagnitude dialect with
  | error cause =>
    rw [read] at h
    cases h
    exact signMagnitude_eq_error read
  | ok parts =>
    rw [read] at h
    simp only [bind, Except.bind] at h
    split at h <;> simp_all

end Token

end MaskedLiterals
