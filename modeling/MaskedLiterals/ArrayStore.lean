import MaskedLiterals.ArrayRange
import MaskedLiterals.Scan

/-!
# The array in hand

An `ArrayStore` holds the elements of one loaded text in their order.  Its length changes only when
another array is loaded: writes go over the elements that are there.
-/

namespace MaskedLiterals

/-- The elements of one loaded text. -/
structure ArrayStore where
  tokens : List Token
  deriving DecidableEq, Repr, Inhabited

namespace ArrayStore

/-- The store with other elements, whatever it held before. -/
def load (_ : ArrayStore) (tokens : List Token) : ArrayStore := ⟨tokens⟩

/-- The store with the array that a text holds. -/
def ofText (dialect : Dialect) (text : String) : Except Refusal ArrayStore :=
  (dialect.parse text).map ArrayStore.mk

def length (store : ArrayStore) : Nat := store.tokens.length

def isEmpty (store : ArrayStore) : Bool := store.tokens.isEmpty

def get? (store : ArrayStore) (index : Nat) : Option Token := store.tokens[index]?

/-- The word of the element at a place, if there is an element. -/
def value? (store : ArrayStore) (dialect : Dialect) (index : Nat) : Option (Except Refusal Word) :=
  (store.get? index).map (Token.value dialect)

def room (store : ArrayStore) (start : Nat) (new : List Token) : Nat :=
  ArrayRange.room store.tokens start new

def overwrite (store : ArrayStore) (start : Nat) (new : List Token) : ArrayStore :=
  ⟨ArrayRange.overwrite store.tokens start new⟩

def decode (store : ArrayStore) (dialect : Dialect) (start stop : Nat) (key : Key) :
    Except Refusal String :=
  ArrayRange.decode dialect store.tokens start stop key

/-- The string in a range of the array that a text holds, for a reader with nothing but the text. -/
def decodeText (dialect : Dialect) (text : String) (start stop : Nat) (key : Key) :
    Except Refusal String := do
  let store ← ofText dialect text
  store.decode dialect start stop key

/-- The elements as they are written, one a line. -/
def lines (store : ArrayStore) : List String := store.tokens.map Token.raw

/-- The listing of the array: each element on a line of its own, a line break behind each line. -/
def listing (store : ArrayStore) : String := String.intercalate "\n" store.lines ++ "\n"

@[simp] theorem length_overwrite (store : ArrayStore) (start : Nat) (new : List Token) :
    (store.overwrite start new).length = store.length :=
  ArrayRange.length_overwrite _ _ _

end ArrayStore

end MaskedLiterals
