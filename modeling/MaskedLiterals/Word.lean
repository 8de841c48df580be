/-!
# Words and their masks

The value of a literal is a signed word of 64 bits and a key is an unsigned one of 32.  Masking a
word is its two's-complement exclusive or with the key, so that masking twice with one key changes
nothing.  A masked word shows a character exactly when it is a Unicode scalar value.
-/

namespace MaskedLiterals

/-- The value of a literal. -/
abbrev Word := Int64

/-- The mask of an obfuscated string. -/
abbrev Key := UInt32

inductive Sign where
  | positive
  | negative
  deriving DecidableEq, Repr, Inhabited

namespace Word

/-- A key as a word: its 32 bits with zeros above them. -/
def ofKey (key : Key) : Word := key.toUInt64.toInt64

/-- The word with the bits of the key flipped. -/
def mask (word : Word) (key : Key) : Word := word ^^^ ofKey key

/-- The magnitude of the least word, to which no positive word gets: `2^63`. -/
def leastMagnitude : Nat := 0x8000000000000000

/-- The word with this sign and magnitude, where there is one: from `-2^63` to `2^63 - 1`. -/
def ofSignMagnitude? : Sign → Nat → Option Word
  | .positive, n => if n < leastMagnitude then some (Int64.ofNat n) else none
  | .negative, n => if n ≤ leastMagnitude then some (Int64.ofInt (-n)) else none

/-- The distance of a word from zero; for the least word this is not itself a word. -/
def magnitude (word : Word) : Nat := word.toInt.natAbs

def ofChar (c : Char) : Word := Int64.ofNat c.toNat

/-- The character whose code point the word is, where it is one. -/
def toChar? (word : Word) : Option Char :=
  if 0 ≤ word.toInt ∧ word.toInt.toNat.isValidChar then some (Char.ofNat word.toInt.toNat) else none

/-- The bits of the word as an unsigned number. -/
def bits (word : Word) : Nat := word.toUInt64.toNat

/-! ### Masking -/

@[simp] theorem mask_mask (word : Word) (key : Key) : (word.mask key).mask key = word := by
  rw [mask, mask, Int64.xor_assoc, Int64.xor_self, Int64.xor_zero]

/-- A character is read back from its own word. -/
@[simp] theorem toChar?_ofChar (c : Char) : (ofChar c).toChar? = some c := by
  have valid : c.toNat.isValidChar := c.valid
  have code : (ofChar c).toInt = c.toNat := by
    apply Int64.toInt_ofNat_of_lt
    simp only [Nat.isValidChar] at valid
    omega
  rw [toChar?, code, Int.toNat_natCast, if_pos ⟨Int.natCast_nonneg _, valid⟩, Char.ofNat_toNat]

end Word

end MaskedLiterals
