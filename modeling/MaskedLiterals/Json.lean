import MaskedLiterals.NumeralBase

/-!
# JSON text

The part of JSON that reports are written in: null, whole numbers, strings, arrays and objects whose
members keep the order they are listed in.  `pretty` writes one element or member a line with two
blanks of indentation for each level; an empty array or object stays on its line.
-/

namespace MaskedLiterals

inductive Json where
  | null
  | number (value : Int)
  | text (value : String)
  | array (elements : List Json)
  | object (members : List (String × Json))

namespace Json

/-- A character as it stands between the quotes of a JSON string. -/
def escapedChar (c : Char) : List Char :=
  if c = '"' ∨ c = '\\' then ['\\', c]
  else if c = '\x08' then ['\\', 'b']
  else if c = '\t' then ['\\', 't']
  else if c = '\n' then ['\\', 'n']
  else if c = '\x0c' then ['\\', 'f']
  else if c = '\r' then ['\\', 'r']
  else if c.toNat < 0x20 then ['\\', 'u'] ++ NumeralBase.hex.paddedDigits 4 c.toNat
  else [c]

def quote (text : String) : String :=
  "\"" ++ String.ofList (text.toList.flatMap escapedChar) ++ "\""

def lineBreak (level : Nat) : String := "\n" ++ String.ofList (List.replicate (2 * level) ' ')

def enclose (opening closing : String) (level : Nat) (parts : List String) : String :=
  match parts with
  | [] => opening ++ closing
  | _ =>
    opening ++ lineBreak (level + 1) ++ String.intercalate ("," ++ lineBreak (level + 1)) parts
      ++ lineBreak level ++ closing

mutual

def prettyAt (level : Nat) : Json → String
  | null => "null"
  | number value => toString value
  | text value => quote value
  | array elements => enclose "[" "]" level (prettyElements (level + 1) elements)
  | object members => enclose "\x7b" "\x7d" level (prettyMembers (level + 1) members)

def prettyElements (level : Nat) : List Json → List String
  | [] => []
  | element :: elements => prettyAt level element :: prettyElements level elements

def prettyMembers (level : Nat) : List (String × Json) → List String
  | [] => []
  | (name, value) :: members =>
    (quote name ++ ": " ++ prettyAt level value) :: prettyMembers level members

end

def pretty (value : Json) : String := prettyAt 0 value

end Json

end MaskedLiterals
