import MaskedLiterals.Toml.Quote
import MaskedLiterals.Toml.Scalar

/-!
# TOML documents

`ofText?` reads a document as the table that it describes, or gives nothing where the text is no
TOML document.  A key may have eighty names, and arrays and inline tables may stand in one another
eighty deep; `depth` says how much of that is left.  The readers of values also take a bound on the
depth of their calls.  Of two calls in a row one uses up a character, so twice the length of the
text is enough.
-/

namespace MaskedLiterals.Toml

/-! ### Between the values -/

def dropBlanks (text : List Char) : List Char := text.dropWhile fun c => c = ' ' || c = '\t'

/-- The text without the blanks, line breaks and comments it begins with.  A comment ends with its
    line, or with a character that may not stand in it. -/
def dropLines (inComment : Bool) : List Char → List Char
  | [] => []
  | '\n' :: text => dropLines false text
  | '\r' :: '\n' :: text => dropLines false text
  | c :: text =>
    if inComment then if isPlain c then dropLines true text else c :: text
    else if c = ' ' || c = '\t' then dropLines false text
    else if c = '#' then dropLines true text
    else c :: text

/-- The text of the next line, if nothing but blanks and a comment is left on this one. -/
def afterLine? (text : List Char) : Option (List Char) :=
  let behind := match dropBlanks text with
    | '#' :: comment => comment.dropWhile isPlain
    | behind => behind
  match behind with
  | [] => some []
  | '\n' :: text => some text
  | '\r' :: '\n' :: text => some text
  | _ => none

/-! ### Keys -/

def isKeyCharacter (c : Char) : Bool := c.isAlphanum || c = '-' || c = '_'

/-- One name of a key, with the text behind it. -/
def name? (text : List Char) : Option (String × List Char) :=
  match text with
  | '"' :: _ | '\'' :: _ => lineString? text
  | _ =>
    let name := text.takeWhile isKeyCharacter
    if name = [] then none else some (String.ofList name, text.drop name.length)

/-- A key of some names, but no more than a count, with dots between them, with the text behind
    it. -/
def names? : Nat → List Char → Option (List String × List Char)
  | 0, _ => none
  | count + 1, text => do
    let (name, behind) ← name? text
    match dropBlanks behind with
    | '.' :: behind =>
      let (names, behind) ← names? count (dropBlanks behind)
      some (name :: names, behind)
    | behind => some ([name], behind)

/-- How many names a key may have, and how deep values may stand in one another. -/
def deepest : Nat := 80

/-- A key with the text behind it. -/
def key? (text : List Char) : Option (List String × List Char) := names? deepest text

/-! ### Values -/

mutual

/-- The value at the start of a text, with the text behind it. -/
def value? : Nat → Nat → List Char → Option (Toml × List Char)
  | 0, _, _ => none
  | bound + 1, depth, text =>
    match text with
    | '"' :: _ | '\'' :: _ => (string? text).map fun (read, behind) => (.string read, behind)
    | '[' :: behind =>
      if depth = 0 then none
      else (elements? bound (depth - 1) (dropLines false behind)).map fun (elements, behind) =>
        (.array elements, behind)
    | '\x7b' :: behind =>
      if depth = 0 then none
      else (members? bound (depth - 1) [] (dropLines false behind)).map fun (members, behind) =>
        (.table .inline members, behind)
    | _ => (scalar? (takeScalar text).1).map fun value => (value, (takeScalar text).2)

def elements? : Nat → Nat → List Char → Option (List Toml × List Char)
  | 0, _, _ => none
  | bound + 1, depth, text =>
    match text with
    | ']' :: behind => some ([], behind)
    | _ => do
      let (element, behind) ← value? bound depth text
      match dropLines false behind with
      | ']' :: behind => some ([element], behind)
      | ',' :: behind =>
        let (elements, behind) ← elements? bound depth (dropLines false behind)
        some (element :: elements, behind)
      | _ => none

/-- The members of an inline table up to its closing brace.  Lines may end anywhere but within a
    key. -/
def members? : Nat → Nat → Entries → List Char → Option (Entries × List Char)
  | 0, _, _, _ => none
  | bound + 1, depth, entries, text =>
    match text with
    | '\x7d' :: behind => some (entries, behind)
    | _ => do
      let (key, behind) ← key? text
      let behind ← after? '=' (dropLines false behind)
      let (value, behind) ← value? bound depth (dropLines false behind)
      let entries ← insertDotted value key entries
      match dropLines false behind with
      | '\x7d' :: behind => some (entries, behind)
      | ',' :: behind => members? bound depth entries (dropLines false behind)
      | _ => none

end

/-! ### Lines -/

/-- Reads the lines of a document; `header` leads to the table that keys are added to. -/
def lines? : Nat → List String → Entries → List Char → Option Entries
  | 0, _, _, _ => none
  | bound + 1, header, root, text =>
    match dropLines false text with
    | [] => some root
    | '[' :: '[' :: behind => do
      let (path, behind) ← key? (dropBlanks behind)
      let behind ← after? ']' (← after? ']' (dropBlanks behind))
      lines? bound path (← openElement path root) (← afterLine? behind)
    | '[' :: behind => do
      let (path, behind) ← key? (dropBlanks behind)
      let behind ← after? ']' (dropBlanks behind)
      lines? bound path (← openTable path root) (← afterLine? behind)
    | text => do
      let (key, behind) ← key? text
      let behind ← after? '=' (dropBlanks behind)
      let (value, behind) ← value? bound deepest (dropBlanks behind)
      lines? bound header (← within (insertDotted value key) header root) (← afterLine? behind)

/-- The text without the byte-order mark it may begin with. -/
def withoutMark : List Char → List Char
  | '\ufeff' :: text => text
  | text => text

def ofText? (text : String) : Option Entries :=
  lines? (2 * text.length + 2) [] [] (withoutMark text.toList)

end MaskedLiterals.Toml
