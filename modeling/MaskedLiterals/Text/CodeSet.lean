/-!
# Sets of code points

A set of code points is kept by its *bounds*: in ascending order, the code points at which a walk
through all of them enters the set or leaves it.  So union, intersection and differences are one
operation: `combine` walks through two sets at once and puts a bound wherever the outcome changes.

Tables write a set as runs in hexadecimal: one code point, the first and the last of a run, or with
`/2` behind it every second code point from the first to the last.
-/

namespace MaskedLiterals.Text

/-- A set of code points, given by its bounds. -/
structure CodeSet where
  bounds : List Nat
  deriving DecidableEq, Repr, Inhabited

namespace CodeSet

/-! ### Members -/

/-- Whether a code point lies inside, where `inside` says so of the code points in front of the
    bounds. -/
def containsFrom (inside : Bool) (code : Nat) : List Nat → Bool
  | [] => inside
  | bound :: bounds => if code < bound then inside else containsFrom (!inside) code bounds

def contains (set : CodeSet) (code : Nat) : Bool := containsFrom false code set.bounds

def empty : CodeSet := ⟨[]⟩

def range (first last : Nat) : CodeSet := if first ≤ last then ⟨[first, last + 1]⟩ else empty

def singleton (code : Nat) : CodeSet := range code code

def isEmpty (set : CodeSet) : Bool := set.bounds.isEmpty

/-- The first and the last code points of the runs of a set. -/
def ranges (set : CodeSet) : List (Nat × Nat) := pairs set.bounds
where
  pairs : List Nat → List (Nat × Nat)
    | first :: next :: bounds => (first, next - 1) :: pairs bounds
    | _ => []

/-! ### Two sets at once -/

/-- A bound in front of others, if it is one. -/
def boundIf (changes : Bool) (code : Nat) (bounds : List Nat) : List Nat :=
  if changes then code :: bounds else bounds

/-- The bounds of what `f` makes of two sets, where `l` and `r` say whether the code points in front
    of the bounds are inside. -/
def combineFrom (f : Bool → Bool → Bool) (l r : Bool) (left right : List Nat) : List Nat :=
  match left, right with
  | [], [] => []
  | a :: left, [] => boundIf (f (!l) r != f l r) a (combineFrom f (!l) r left [])
  | [], b :: right => boundIf (f l (!r) != f l r) b (combineFrom f l (!r) [] right)
  | a :: left, b :: right =>
    if a < b then boundIf (f (!l) r != f l r) a (combineFrom f (!l) r left (b :: right))
    else if b < a then boundIf (f l (!r) != f l r) b (combineFrom f l (!r) (a :: left) right)
    else boundIf (f (!l) (!r) != f l r) a (combineFrom f (!l) (!r) left right)
termination_by left.length + right.length

/-- The code points for which `f` holds of whether they are in two sets.  It does not hold of those
    in neither. -/
def combine (f : Bool → Bool → Bool) (left right : CodeSet) : CodeSet :=
  ⟨combineFrom f false false left.bounds right.bounds⟩

def union : CodeSet → CodeSet → CodeSet := combine (· || ·)

def inter : CodeSet → CodeSet → CodeSet := combine (· && ·)

def diff : CodeSet → CodeSet → CodeSet := combine fun inLeft inRight => inLeft && !inRight

def symmDiff : CodeSet → CodeSet → CodeSet := combine (· != ·)

def unions (sets : List CodeSet) : CodeSet := sets.foldl union empty

/-- The code points that lie so far behind those of a set. -/
def shiftUp (distance : Nat) (set : CodeSet) : CodeSet := ⟨set.bounds.map (· + distance)⟩

/-- The code points that lie so far in front of those of a set. -/
def shiftDown (distance : Nat) (set : CodeSet) : CodeSet := ⟨set.bounds.map (· - distance)⟩

end CodeSet

/-! ### Tables -/

/-- Code points from `first` to `last`, of which every `step`-th is meant. -/
structure CodeRun where
  first : Nat
  last : Nat
  step : Nat
  deriving DecidableEq, Repr, Inhabited

namespace CodeRun

/-- The number that hexadecimal digits in small letters stand for. -/
def number (digits : List Char) : Nat :=
  digits.foldl
    (fun value c => 16 * value + (if c ≤ '9' then c.toNat - 48 else c.toNat - 87)) 0

/-- A run as a table writes it. -/
def ofChars (text : List Char) : CodeRun :=
  let step := if text.contains '/' then 2 else 1
  match (text.takeWhile (· ≠ '/')).splitOn '-' with
  | [first, last] => ⟨number first, number last, step⟩
  | _ => ⟨number text, number text, step⟩

/-- Puts the code points from `first` to `last` in front of those between the bounds. -/
def addRange (first last : Nat) : List Nat → List Nat
  | bound :: bounds =>
    if bound = last + 1 then first :: bounds else first :: (last + 1) :: bound :: bounds
  | [] => [first, last + 1]

/-- Puts the code points of a run in front of those between the bounds. -/
def addTo (run : CodeRun) (bounds : List Nat) : List Nat :=
  if run.step = 1 then addRange run.first run.last bounds
  else
    (List.range' run.first ((run.last - run.first) / run.step + 1) run.step).foldr
      (fun code bounds => addRange code code bounds) bounds

end CodeRun

namespace CodeSet

/-- The code points of runs, which ascend. -/
def ofRuns (runs : List CodeRun) : CodeSet := ⟨runs.foldr CodeRun.addTo []⟩

/-- The code points that some lines of a table list. -/
def ofLines (lines : List String) : CodeSet :=
  ofRuns (lines.flatMap fun line => (line.toList.splitOn ' ').map CodeRun.ofChars)

end CodeSet

end MaskedLiterals.Text
