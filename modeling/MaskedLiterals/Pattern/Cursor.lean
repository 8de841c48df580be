import MaskedLiterals.Pattern.Expression
import MaskedLiterals.Text.Blank

/-!
# Going through a written pattern

A cursor is the text that is left with the place where it begins.  Reading moves the cursor or ends
with a fault.  Where blanks and comments are passed over, `advance` and `skipSpace` do so.
-/

namespace MaskedLiterals.Pattern

/-- How far a pattern has been read. -/
structure Cursor where
  rest : List Char
  position : Position
  /-- Whether blanks and comments are passed over. -/
  spaced : Bool
  /-- The names of groups so far. -/
  names : List (String × Span)

/-- Reading that may end with a fault. -/
abbrev Reading := StateT Cursor (Except PatternFault)

namespace Cursor

def bump (cursor : Cursor) : Cursor :=
  match cursor.rest with
  | [] => cursor
  | c :: rest => { cursor with rest, position := cursor.position.after c }

/-- The place and the text behind blanks and comments. -/
def dropSpace (inComment : Bool) (position : Position) : List Char → Position × List Char
  | [] => (position, [])
  | c :: rest =>
    if inComment then dropSpace (c ≠ '\n') (position.after c) rest
    else if Text.isBlank c then dropSpace false (position.after c) rest
    else if c = '#' then dropSpace true (position.after c) rest
    else (position, c :: rest)

/-- The cursor behind blanks and comments, if they are passed over. -/
def skipSpace (cursor : Cursor) : Cursor :=
  if cursor.spaced then
    let (position, rest) := dropSpace false cursor.position cursor.rest
    { cursor with rest, position }
  else cursor

/-- The character that `text` begins with behind blanks.  A hash sign is passed over once; if
    nothing else is left, it is the first character all the same. -/
def behindSpace? (text : List Char) : Option Char :=
  let rec search (inComment : Bool) : List Char → Option Char
    | [] => text.head?
    | c :: rest =>
      if Text.isBlank c then search inComment rest
      else if !inComment && c = '#' then search true rest
      else some c
  search false text

end Cursor

namespace Reading

def peek : Reading (Option Char) := return (← get).rest.head?

/-- The character behind the next one, blanks between them not counted where they are passed
    over. -/
def peekSecond : Reading (Option Char) := do
  let cursor ← get
  let rest := cursor.rest.drop 1
  return if cursor.spaced then Cursor.behindSpace? rest else rest.head?

def position : Reading Position := return (← get).position

def startsWith (text : String) : Reading Bool := return text.toList.isPrefixOf (← get).rest

def bump : Reading Unit := modify Cursor.bump

def skipSpace : Reading Unit := modify Cursor.skipSpace

/-- Goes behind the next character, and behind blanks and comments, if they are passed over. -/
def advance : Reading Unit := modify fun cursor => cursor.bump.skipSpace

/-- Goes behind a text, if it is the next one. -/
def bumpIf (text : String) : Reading Bool := do
  if ← startsWith text then
    modify fun cursor => text.toList.foldl (fun cursor _ => cursor.bump) cursor
    return true
  else return false

/-- Goes on as long as the next character passes a test, and gives the characters passed. -/
def passWhile (test : Char → Bool) (move : Reading Unit) : Reading (List Char) := do
  loop (← get).rest.length
where
  /-- Passes at most so many characters. -/
  loop : Nat → Reading (List Char)
    | 0 => return []
    | bound + 1 => do
      match ← peek with
      | some c =>
        if test c then
          move
          return c :: (← loop bound)
        else return []
      | none => return []

def fail {α : Type} (cause : PatternCause) (span : Span) : Reading α :=
  throw ⟨cause, span, none⟩

def failFrom {α : Type} (cause : PatternCause) (start : Position) : Reading α := do
  fail cause ⟨start, ← position⟩

def failHere {α : Type} (cause : PatternCause) : Reading α := do failFrom cause (← position)

/-- The place of the next character, with the character. -/
def charSpan (c : Char) : Reading Span := do
  let start ← position
  return ⟨start, start.after c⟩

def failAt {α : Type} (cause : PatternCause) (c : Char) : Reading α := do
  fail cause (← charSpan c)

end Reading

end MaskedLiterals.Pattern
