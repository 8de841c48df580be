/-!
# Blank and control characters

Two classes of characters that decide what may surround a numeral and what may end a literal.
A character is *blank* when Unicode gives it the property `White_Space`, and a *control* character
when its general category is `Cc`.  `trim` takes the blanks off both ends of a text.
-/

namespace MaskedLiterals.Text

def blankRanges : List (Nat × Nat) :=
  [(0x0009, 0x000d), (0x0020, 0x0020), (0x0085, 0x0085), (0x00a0, 0x00a0), (0x1680, 0x1680),
   (0x2000, 0x200a), (0x2028, 0x2029), (0x202f, 0x202f), (0x205f, 0x205f), (0x3000, 0x3000)]

/-- Whether a code point lies in one of the given closed ranges. -/
def inRanges (ranges : List (Nat × Nat)) (code : Nat) : Bool :=
  ranges.any fun range => range.1 ≤ code && code ≤ range.2

/-- Unicode white space. -/
def isBlank (c : Char) : Bool := inRanges blankRanges c.toNat

def isControl (c : Char) : Bool := c.toNat < 0x20 || (0x7f ≤ c.toNat && c.toNat ≤ 0x9f)

def trimEnd (text : List Char) : List Char := (text.reverse.dropWhile isBlank).reverse

def trim (text : List Char) : List Char := trimEnd (text.dropWhile isBlank)

end MaskedLiterals.Text
