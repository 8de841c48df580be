import MaskedLiterals.Token

/-!
# Strings in a range of the array

A string is hidden in a range of an array one character per element: the word of the element is the
code point of the character, masked.  `decode` reads the string of a range, `encode` makes the
elements for a string, and `overwrite` puts elements over a range.

The range is half open and always cut back to the array: what lies past its end is no error, holds
no characters and takes no elements, so an array never grows.
-/

namespace MaskedLiterals.ArrayRange

/-! ### From elements to text -/

/-- The character that the element at `index` hides under the key. -/
def decodeAt (dialect : Dialect) (key : Key) (index : Nat) (token : Token) :
    Except Refusal Char := do
  let word ← token.value dialect
  match (word.mask key).toChar? with
  | some c => .ok c
  | none => .error (.invalidCodePoint index (word.mask key))

/-- The characters that the elements from `index` on hide; the first that hides none is reported. -/
def decodeFrom (dialect : Dialect) (key : Key) : Nat → List Token → Except Refusal (List Char)
  | _, [] => .ok []
  | index, token :: tokens => do
    let c ← decodeAt dialect key index token
    let cs ← decodeFrom dialect key (index + 1) tokens
    .ok (c :: cs)

/-- The elements from `start` up to but not including `stop`, as far as there are any. -/
def window (array : List Token) (start stop : Nat) : List Token := (array.take stop).drop start

/-- The string in the range under the key.  Errors name an element by its place in the array. -/
def decode (dialect : Dialect) (array : List Token) (start stop : Nat) (key : Key) :
    Except Refusal String :=
  (decodeFrom dialect key start (window array start stop)).map String.ofList

/-! ### From text to elements -/

def maskedWord (key : Key) (c : Char) : Word := (Word.ofChar c).mask key

/-- The elements that hide the text under the key, one for each character. -/
def encode (dialect : Dialect) (text : String) (key : Key) : List Token :=
  text.toList.map fun c => Token.ofWordPadded dialect (maskedWord key c)

/-- The masked words of the text as hexadecimal numerals of the dialect's width, for a reader.  Any
    width is filled here, also one above 65535, at which a formatter may give up. -/
def preview (dialect : Dialect) (text : String) (key : Key) : String :=
  String.intercalate " " <| text.toList.map fun c =>
    "0x" ++ NumeralBase.hex.padded dialect.padWidth (maskedWord key c).bits

/-! ### Writing over a range -/

/-- How many of the new elements there is room for behind `start`. -/
def room (array : List Token) (start : Nat) (new : List Token) : Nat :=
  min new.length (array.length - start)

/-- The array with the new elements from `start` on; those past its end are dropped. -/
def overwrite (array : List Token) (start : Nat) (new : List Token) : List Token :=
  array.take start ++ new.take (room array start new) ++ array.drop (start + room array start new)

/-- Writing over a range keeps the length of the array. -/
@[simp] theorem length_overwrite (array : List Token) (start : Nat) (new : List Token) :
    (overwrite array start new).length = array.length := by
  simp only [overwrite, room, List.length_append, List.length_take, List.length_drop]
  omega

/-- Each element is the new one where one was written and the old one elsewhere. -/
theorem getElem?_overwrite (array : List Token) (start : Nat) (new : List Token) (i : Nat) :
    (overwrite array start new)[i]?
      = if start ≤ i ∧ i < start + room array start new then new[i - start]? else array[i]? := by
  simp only [overwrite, List.getElem?_append, List.getElem?_take, List.getElem?_drop,
    List.length_append, List.length_take, room]
  grind

@[simp] theorem length_encode (dialect : Dialect) (text : String) (key : Key) :
    (encode dialect text key).length = text.length := by
  simp [encode, String.length_toList]

end MaskedLiterals.ArrayRange
