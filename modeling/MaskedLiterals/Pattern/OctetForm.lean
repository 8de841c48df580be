import MaskedLiterals.Pattern.CharSet

/-!
# Sets of characters as octets

In UTF-8 a character is one to four octets.  The characters of a range whose octets lie, place by
place, in ranges of octets make up a *form*: all combinations of these octets, in order.
`formsOfRange` cuts any range of code points into forms, and `ofSet` does so with a whole set.
Forms that begin alike can share what they begin with: `branches` sorts them by their first octets.
-/

namespace MaskedLiterals

/-- The octets from a first to a last one. -/
abbrev OctetRange := Nat × Nat

/-- The octets of a range of characters, place by place. -/
abbrev OctetForm := List OctetRange

namespace OctetForm

/-- The last code points that take one, two and three octets. -/
def lastOfWidth : List Nat := [0x7f, 0x7ff, 0xffff]

/-- How many code points share all octets but the last one, two or three. -/
def blockSizes : List Nat := [0x40, 0x1000, 0x40000]

/-- Where to cut a range of code points that reaches over the end of a block, but does not begin or
    end with one. -/
def blockCut? (first last size : Nat) : Option Nat :=
  if first / size = last / size then none
  else if first % size ≠ 0 then some (first - first % size + size - 1)
  else if last % size ≠ size - 1 then some (last - last % size - 1)
  else none

def cut? (first last : Nat) : Option Nat :=
  match lastOfWidth.find? fun limit => first ≤ limit && limit < last with
  | some limit => some limit
  | none => if last ≤ 0x7f then none else blockSizes.findSome? (blockCut? first last)

def octets (code : Nat) : List Nat := (String.utf8EncodeChar (Char.ofNat code)).map UInt8.toNat

def formsOfRange (first last : Nat) : List OctetForm :=
  match cut? first last with
  | none => [(octets first).zip (octets last)]
  | some cut =>
    if first ≤ cut ∧ cut < last then formsOfRange first cut ++ formsOfRange (cut + 1) last
    else [(octets first).zip (octets last)]
termination_by last - first

def ofSet (set : CharSet) : List OctetForm :=
  (set.inter CharSet.all).ranges.flatMap fun (first, last) => formsOfRange first last

def branches (forms : List OctetForm) : List (List OctetForm) :=
  (forms.splitBy fun left right => left.head? = right.head?).map fun group => group.map List.tail

/-- Of some forms, the lists of rests that begin alike, then those of their rests, and so on for so
    many octets.  The forms themselves come first. -/
def nodes : Nat → List OctetForm → List (List OctetForm)
  | 0, _ => []
  | width + 1, forms =>
    if forms.all List.isEmpty then []
    else forms :: (branches forms).flatMap (nodes width)

end OctetForm

end MaskedLiterals
