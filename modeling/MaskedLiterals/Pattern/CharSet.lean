import MaskedLiterals.Text.CaseVariants
import MaskedLiterals.Text.Property

/-!
# Sets of characters

A set of characters is a set of code points without surrogates.  Here are the sets that patterns
have a sign or a name between colons for.
-/

namespace MaskedLiterals

abbrev CharSet := Text.CodeSet

namespace CharSet

def all : CharSet := ⟨[0, 0xd800, 0xe000, 0x110000]⟩

/-- The characters among some code points. -/
def ofCodes (codes : Text.CodeSet) : CharSet := codes.inter all

def has (set : CharSet) (c : Char) : Bool := set.contains c.toNat

def ofChar (member : Char) : CharSet := Text.CodeSet.singleton member.toNat

def ofRange (first last : Char) : CharSet := ofCodes (Text.CodeSet.range first.toNat last.toNat)

def complement (set : CharSet) : CharSet := all.diff set

/-- The characters of a set, or those outside it. -/
def negateIf (negated : Bool) (set : CharSet) : CharSet := if negated then set.complement else set

def single? (set : CharSet) : Option Char :=
  match set.ranges with
  | [(first, last)] => if first = last then some (Char.ofNat first) else none
  | _ => none

/-! ### Sets with a sign or a name -/

def digits : CharSet := ofCodes (Text.knownCategory .decimalNumber)

def blanks : CharSet := Text.whiteSpaceCodes

def wordCharacters : CharSet := ofCodes Text.wordCodes

def ascii : CharSet := ofRange '\x00' '\x7f'

def asciiUpper : CharSet := ofRange 'A' 'Z'

def asciiLower : CharSet := ofRange 'a' 'z'

def asciiDigits : CharSet := ofRange '0' '9'

def asciiLetters : CharSet := asciiUpper.union asciiLower

def asciiAlphanumeric : CharSet := asciiLetters.union asciiDigits

def asciiWord : CharSet := asciiAlphanumeric.union (ofChar '_')

def asciiBlanks : CharSet := (ofChar ' ').union (ofRange '\t' '\r')

def asciiVisible : CharSet := ofRange '!' '~'

/-- The set of ASCII characters with a name, as it is written between colons. -/
def ofAsciiName? : String → Option CharSet
  | "alnum" => some asciiAlphanumeric
  | "alpha" => some asciiLetters
  | "ascii" => some ascii
  | "blank" => some ((ofChar '\t').union (ofChar ' '))
  | "cntrl" => some ((ofRange '\x00' '\x1f').union (ofChar '\x7f'))
  | "digit" => some asciiDigits
  | "graph" => some asciiVisible
  | "lower" => some asciiLower
  | "print" => some (ofRange ' ' '~')
  | "punct" => some (asciiVisible.diff asciiAlphanumeric)
  | "space" => some asciiBlanks
  | "upper" => some asciiUpper
  | "word" => some asciiWord
  | "xdigit" => some (asciiDigits.union ((ofRange 'A' 'F').union (ofRange 'a' 'f')))
  | _ => none

end CharSet

end MaskedLiterals
