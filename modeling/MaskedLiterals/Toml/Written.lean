import MaskedLiterals.NumeralBase
import MaskedLiterals.Toml.Quote

/-!
# Strings and arrays as a TOML document shows them

A string is shown in the plainest of the four notations that needs no escape: quotation marks, then
apostrophes, then quotation marks over several lines, then apostrophes over several lines.  Where
each of them needs one, quotation marks are used and the escapes are written, over several lines if
the string has any.
-/

namespace MaskedLiterals.Toml

def longestRun (c : Char) (text : List Char) : Nat :=
  (text.foldl
    (fun (current, longest) d =>
      if d = c then (current + 1, max longest (current + 1)) else (0, longest))
    (0, 0)).2

/-- Whether a string has a control character that no notation shows as it is. -/
def needsEscape (text : List Char) : Bool := text.any fun c => !isPlain c && c ≠ '\n'

/-- The escape of a character between quotation marks, or the character itself. -/
def writtenChar (multiline : Bool) (c : Char) : List Char :=
  if c = '\x08' then ['\\', 'b']
  else if c = '\t' then ['\\', 't']
  else if c = '\n' then if multiline then [c] else ['\\', 'n']
  else if c = '\x0c' then ['\\', 'f']
  else if c = '\r' then ['\\', 'r']
  else if c = '\\' then ['\\', '\\']
  else if isPlain c then [c]
  else ['\\', 'u'] ++ (NumeralBase.hex.paddedDigits 4 c.toNat).map Char.toUpper

/-- The characters of a string between quotation marks.  `free` quotes in a row may stand there as
    they are, and `run` of them stand directly in front. -/
def writtenChars (multiline : Bool) (free run : Nat) : List Char → List Char
  | [] => []
  | c :: text =>
    if c = '"' then
      if run < free then c :: writtenChars multiline free (run + 1) text
      else '\\' :: c :: writtenChars multiline free 0 text
    else writtenChar multiline c ++ writtenChars multiline free 0 text

def writtenBasic (text : List Char) : List Char :=
  '"' :: writtenChars false 0 0 text ++ ['"']

def writtenMultiline (quote : Char) (text shown : List Char) : List Char :=
  List.replicate 3 quote ++ (if text.contains '\n' then ['\n'] else []) ++ shown
    ++ List.replicate 3 quote

def writtenString (string : String) : String :=
  let text := string.toList
  let multiline := text.contains '\n'
  let escape := needsEscape text
  let backslash := text.contains '\\'
  let quotes := longestRun '"' text
  let apostrophes := longestRun '\'' text
  String.ofList <|
    if !escape && !backslash && quotes = 0 && !multiline then writtenBasic text
    else if !escape && apostrophes = 0 && !multiline then '\'' :: text ++ ['\'']
    else if !escape && !backslash && quotes ≤ 2 then
      writtenMultiline '"' text (writtenChars true 2 0 text)
    else if !escape && apostrophes ≤ 2 then writtenMultiline '\'' text text
    else if multiline then writtenMultiline '"' text (writtenChars true 2 0 text)
    else writtenBasic text

/-- An array: up to one element on the line, more of them one a line. -/
def writtenArray (elements : List String) : String :=
  match elements with
  | [] => "[]"
  | [element] => "[" ++ element ++ "]"
  | _ => "[\n" ++ String.join (elements.map fun element => "    " ++ element ++ ",\n") ++ "]"

end MaskedLiterals.Toml
