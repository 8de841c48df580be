import MaskedLiterals.NumeralBase

/-!
# TOML strings

A string stands between quotation marks, with escapes, or between apostrophes, as it is; three of
either allow it to run over several lines.  The readers take the text behind the opening quotes and
give the characters of the string with the text behind the closing quotes.  A reader goes on one
character at a time and skips those that an escape has used up, so it ends with the text.
-/

namespace MaskedLiterals.Toml

/-- Whether a character may stand in a string or comment as it is: no control character but tab. -/
def isPlain (c : Char) : Bool := c = '\t' || (0x20 ≤ c.toNat && c.toNat ≠ 0x7f)

def codePoint? (digits : List Char) : Option Char :=
  if digits.all NumeralBase.hex.isDigit then
    let code := NumeralBase.hex.valueOf digits
    if h : code.isValidChar then some (Char.ofNatAux code h) else none
  else none

/-- The character of an escape with this many digits. -/
def escapedCode? (width : Nat) (text : List Char) : Option (Char × Nat) :=
  let digits := text.take width
  if digits.length = width then (codePoint? digits).map fun c => (c, width + 1) else none

/-- The character that the text behind a backslash stands for, and how much of the text it takes. -/
def escape? : List Char → Option (Char × Nat)
  | 'b' :: _ => some ('\x08', 1)
  | 't' :: _ => some ('\t', 1)
  | 'n' :: _ => some ('\n', 1)
  | 'f' :: _ => some ('\x0c', 1)
  | 'r' :: _ => some ('\r', 1)
  | 'e' :: _ => some ('\x1b', 1)
  | '"' :: _ => some ('"', 1)
  | '\\' :: _ => some ('\\', 1)
  | 'x' :: text => escapedCode? 2 text
  | 'u' :: text => escapedCode? 4 text
  | 'U' :: text => escapedCode? 8 text
  | _ => none

/-- Puts a character in front of what was read. -/
def consRead (c : Char) (read : Option (List Char × List Char)) : Option (List Char × List Char) :=
  read.map fun (characters, behind) => (c :: characters, behind)

def basicString : Nat → List Char → Option (List Char × List Char)
  | _, [] => none
  | skip + 1, _ :: text => basicString skip text
  | 0, c :: text =>
    if c = '"' then some ([], text)
    else if c = '\\' then
      match escape? text with
      | some (character, used) => consRead character (basicString used text)
      | none => none
    else if isPlain c then consRead c (basicString 0 text)
    else none

def literalString (text : List Char) : Option (List Char × List Char) :=
  let characters := text.takeWhile fun c => c ≠ '\'' && isPlain c
  match text.drop characters.length with
  | '\'' :: behind => some (characters, behind)
  | _ => none

/-- The text without the line break it may begin with. -/
def withoutLineBreak : List Char → List Char
  | '\n' :: text => text
  | '\r' :: '\n' :: text => text
  | text => text

def startsLineBreak : List Char → Bool
  | '\n' :: _ => true
  | '\r' :: '\n' :: _ => true
  | _ => false

/-- Where a run of the closing quote begins, `text` being behind its first: the quotes that still
    belong to the string, at most two, and the text behind the closing three. -/
def closing? (quote : Char) (text : List Char) : Option (List Char × List Char) :=
  let run := 1 + (text.takeWhile (· = quote)).length
  if 3 ≤ run then
    let kept := min (run - 3) 2
    some (List.replicate kept quote, text.drop (kept + 2))
  else none

/-- How many characters of blanks and line breaks a text begins with. -/
def leadingSpace : List Char → Nat
  | ' ' :: text => leadingSpace text + 1
  | '\t' :: text => leadingSpace text + 1
  | '\n' :: text => leadingSpace text + 1
  | '\r' :: '\n' :: text => leadingSpace text + 2
  | _ => 0

/-- How many blanks and line breaks a backslash at the end of a line takes away. -/
def continuation? (text : List Char) : Option Nat :=
  if startsLineBreak (text.dropWhile fun c => c = ' ' || c = '\t') then some (leadingSpace text)
  else none

def multilineBasic : Nat → List Char → Option (List Char × List Char)
  | _, [] => none
  | skip + 1, _ :: text => multilineBasic skip text
  | 0, c :: text =>
    if c = '"' then
      match closing? '"' text with
      | some closed => some closed
      | none => consRead c (multilineBasic 0 text)
    else if c = '\\' then
      match continuation? text with
      | some used => multilineBasic used text
      | none =>
        match escape? text with
        | some (character, used) => consRead character (multilineBasic used text)
        | none => none
    else if isPlain c || startsLineBreak (c :: text) then consRead c (multilineBasic 0 text)
    else none

def multilineLiteral : List Char → Option (List Char × List Char)
  | [] => none
  | c :: text =>
    match if c = '\'' then closing? '\'' text else none with
    | some closed => some closed
    | none =>
      if isPlain c || startsLineBreak (c :: text) then consRead c (multilineLiteral text) else none

def string? : List Char → Option (String × List Char)
  | '"' :: '"' :: '"' :: text => (multilineBasic 0 (withoutLineBreak text)).map fromRead
  | '\'' :: '\'' :: '\'' :: text => (multilineLiteral (withoutLineBreak text)).map fromRead
  | '"' :: text => (basicString 0 text).map fromRead
  | '\'' :: text => (literalString text).map fromRead
  | _ => none
where
  /-- The characters that were read as a string. -/
  fromRead (read : List Char × List Char) : String × List Char := (String.ofList read.1, read.2)

/-- The one-line string at the start of a text, with the text behind it. -/
def lineString? : List Char → Option (String × List Char)
  | '"' :: text => (basicString 0 text).map string?.fromRead
  | '\'' :: text => (literalString text).map string?.fromRead
  | _ => none

end MaskedLiterals.Toml
