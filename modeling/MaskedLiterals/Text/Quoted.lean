import MaskedLiterals.NumeralBase
import MaskedLiterals.Text.Unprintable

/-!
# Quoted text

Messages show a path in double quotes.  A quote and a backslash get a backslash in front, tab, line
feed, carriage return and NUL have short names, and any other character that shows nothing of its
own is spelled by its code point.  Apostrophes stay as they are.
-/

namespace MaskedLiterals.Text

def quotedChar (c : Char) : List Char :=
  if c = '"' ∨ c = '\\' then ['\\', c]
  else if c = '\t' then ['\\', 't']
  else if c = '\n' then ['\\', 'n']
  else if c = '\r' then ['\\', 'r']
  else if c = '\x00' then ['\\', '0']
  else if isUnprintable c then
    ['\\', 'u', '\x7b'] ++ NumeralBase.hex.digitsOf c.toNat ++ ['\x7d']
  else [c]

def quoted (text : String) : String :=
  "\"" ++ String.ofList (text.toList.flatMap quotedChar) ++ "\""

end MaskedLiterals.Text
