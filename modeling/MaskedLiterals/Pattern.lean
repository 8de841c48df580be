import MaskedLiterals.Pattern.CharSet

/-!
# Patterns

A pattern describes stretches of a text.  `reach` says where the stretches end that begin at given
places; as all of them are followed at once, no choice has to be taken back.  A repetition need not
be followed for more rounds than the text has places: after so many, a round either gains nothing
or cannot be gone.

Patterns are built by `ofSet`, `ofParts`, `ofBranches` and `repeated`, which leave out what has no
effect.
-/

namespace MaskedLiterals

/-- A condition on a place in a text. -/
inductive Look where
  /-- The start of the text. -/
  | start
  /-- The end of the text. -/
  | stop
  | lineStart
  | lineStop
  /-- The start of a line, which may end with a carriage return. -/
  | returnLineStart
  /-- The end of a line, which may end with a carriage return. -/
  | returnLineStop
  /-- A word on one side only. -/
  | wordEdge
  /-- A word on both sides or on neither. -/
  | noWordEdge
  | wordStart
  | wordStop
  | noWordBefore
  | noWordAfter
  deriving DecidableEq, Repr, Inhabited

def Look.concernsWords : Look → Bool
  | start | stop | lineStart | lineStop | returnLineStart | returnLineStop => false
  | wordEdge | noWordEdge | wordStart | wordStop | noWordBefore | noWordAfter => true

/-- Whether the condition holds between two characters; there may be none on a side. -/
def Look.holds (isWord : Char → Bool) (before after : Option Char) : Look → Bool
  | start => before.isNone
  | stop => after.isNone
  | lineStart => before.isNone || before = some '\n'
  | lineStop => after.isNone || after = some '\n'
  | returnLineStart =>
    before.isNone || before = some '\n' || (before = some '\r' && after ≠ some '\n')
  | returnLineStop =>
    after.isNone || after = some '\r' || (after = some '\n' && before ≠ some '\r')
  | wordEdge => before.any isWord != after.any isWord
  | noWordEdge => before.any isWord == after.any isWord
  | wordStart => !before.any isWord && after.any isWord
  | wordStop => before.any isWord && !after.any isWord
  | noWordBefore => !before.any isWord
  | noWordAfter => !after.any isWord

inductive Pattern where
  | empty
  | text (characters : List Char)
  | one (set : CharSet)
  /-- Nothing, where a condition holds; words may be made of ASCII characters alone. -/
  | look (ascii : Bool) (condition : Look)
  /-- A pattern at least so many times, and perhaps no more than so many. -/
  | repetition (inner : Pattern) (least : Nat) (most : Option Nat)
  /-- A pattern of which it is noted where it occurs. -/
  | group (inner : Pattern)
  | sequence (parts : List Pattern)
  | choice (branches : List Pattern)

namespace Pattern

/-! ### Where a pattern occurs -/

def merge (left right : List Nat) : List Nat := left ++ right.filter (!left.contains ·)

def rounds (step : List Nat → List Nat) : Nat → List Nat → List Nat
  | 0, places => places
  | count + 1, places => if places.isEmpty then [] else rounds step count (step places)

/-- The places after no more than so many rounds.  Only the new places of a round are taken to the
    next. -/
def spread (step : List Nat → List Nat) : Nat → List Nat → List Nat → List Nat
  | 0, seen, _ => seen
  | count + 1, seen, places =>
    let new := (step places).filter (!seen.contains ·)
    if new.isEmpty then seen else spread step count (seen ++ new) new

/-- The places behind a character that is as asked for. -/
def passIf (text : Array Char) (isAsked : Char → Bool) (places : List Nat) : List Nat :=
  (places.filter fun i => text[i]?.any isAsked).map (· + 1)

mutual

/-- The places in a text where stretches end that begin at one of the given places. -/
def reach (text : Array Char) : Pattern → List Nat → List Nat
  | empty, places => places
  | .text characters, places =>
    characters.foldl (fun places c => passIf text (· = c) places) places
  | one set, places => passIf text set.has places
  | look ascii condition, places =>
    let isWord := (if ascii then CharSet.asciiWord else CharSet.wordCharacters).has
    places.filter fun i =>
      condition.holds isWord (if i = 0 then none else text[i - 1]?) text[i]?
  | repetition inner least most, places =>
    let enough := text.size + 1
    let step := reach text inner
    let places := rounds step (min least enough) places
    let more := match most with
      | some most => min (most - least) enough
      | none => enough
    spread step more places places
  | group inner, places => reach text inner places
  | sequence parts, places => reachThrough text parts places
  | choice branches, places => reachAny text branches places

def reachThrough (text : Array Char) : List Pattern → List Nat → List Nat
  | [], places => places
  | part :: parts, places =>
    if places.isEmpty then [] else reachThrough text parts (reach text part places)

/-- The places where stretches end that are as one of some patterns describes. -/
def reachAny (text : Array Char) : List Pattern → List Nat → List Nat
  | [], _ => []
  | branch :: branches, places =>
    merge (reach text branch places) (reachAny text branches places)

end

def occursIn (pattern : Pattern) (text : String) : Bool :=
  let characters := text.toList.toArray
  !(reach characters pattern (List.range (characters.size + 1))).isEmpty

/-! ### How long the stretches are -/

mutual

/-- How many characters a stretch has at the least, unless there is none. -/
def leastLength? : Pattern → Option Nat
  | empty => some 0
  | text characters => some characters.length
  | one set => if set.isEmpty then none else some 1
  | look _ _ => some 0
  | repetition inner least _ => inner.leastLength?.map (· * least)
  | group inner => inner.leastLength?
  | sequence parts => leastSum? parts
  | choice branches => leastOf? branches

def leastSum? : List Pattern → Option Nat
  | [] => some 0
  | part :: parts =>
    match part.leastLength?, leastSum? parts with
    | some length, some sum => some (length + sum)
    | _, _ => none

/-- How many characters one of some stretches has at the least, if all patterns have any. -/
def leastOf? : List Pattern → Option Nat
  | [] => none
  | [branch] => branch.leastLength?
  | branch :: branches =>
    match branch.leastLength?, leastOf? branches with
    | some length, some least => some (min length least)
    | _, _ => none

end

mutual

def isAlwaysEmpty : Pattern → Bool
  | empty | look _ _ => true
  | text characters => characters.isEmpty
  | one _ => false
  | repetition inner _ most => most = some 0 || (most.isSome && inner.isAlwaysEmpty)
  | group inner => inner.isAlwaysEmpty
  | sequence parts => areAlwaysEmpty parts
  | choice branches => areAlwaysEmpty branches

def areAlwaysEmpty : List Pattern → Bool
  | [] => true
  | part :: parts => part.isAlwaysEmpty && areAlwaysEmpty parts

end

/-! ### Building patterns -/

mutual

/-- Whether two patterns are the same.  Two groups never are. -/
def isSame : Pattern → Pattern → Bool
  | empty, empty => true
  | text left, text right => left = right
  | one left, one right => left = right
  | look ascii left, look otherAscii right => ascii = otherAscii && left = right
  | repetition left least most, repetition right otherLeast otherMost =>
    least = otherLeast && most = otherMost && left.isSame right
  | sequence left, sequence right => areSame left right
  | choice left, choice right => areSame left right
  | _, _ => false

def areSame : List Pattern → List Pattern → Bool
  | [], [] => true
  | left :: lefts, right :: rights => left.isSame right && areSame lefts rights
  | _, _ => false

end

def ofSet (set : CharSet) : Pattern :=
  match set.single? with
  | some c => text [c]
  | none => one set

/-- A pattern in front of others; texts next to each other are one. -/
def joinText (part : Pattern) (parts : List Pattern) : List Pattern :=
  match part, parts with
  | text left, text right :: parts => text (left ++ right) :: parts
  | part, parts => part :: parts

/-- The parts that a pattern has as a part of a sequence. -/
def asParts : Pattern → List Pattern
  | empty => []
  | sequence parts => parts
  | part => [part]

def ofParts (parts : List Pattern) : Pattern :=
  match (parts.flatMap asParts).foldr joinText [] with
  | [] => empty
  | [part] => part
  | parts => sequence parts

/-- The branches that a pattern has as a branch of a choice. -/
def asBranches : Pattern → List Pattern
  | choice branches => branches
  | branch => [branch]

/-- The set of characters which some texts of one character are. -/
def ofSingles? (branches : List Pattern) : Option CharSet :=
  (branches.mapM fun branch => match branch with
    | text [c] => some (CharSet.ofChar c)
    | _ => none).map Text.CodeSet.unions

/-- The set of what is in one of the sets that some patterns are. -/
def ofSets? (branches : List Pattern) : Option CharSet :=
  (branches.mapM fun branch => match branch with
    | one set => some set
    | _ => none).map Text.CodeSet.unions

def commonLength : List Pattern → List Pattern → Nat
  | left :: lefts, right :: rights =>
    if left.isSame right then commonLength lefts rights + 1 else 0
  | _, _ => 0

def commonStart (branches : List Pattern) : List Pattern :=
  let startOf := fun branch => match branch with
    | sequence parts => parts
    | _ => []
  match branches.map startOf with
  | [] => []
  | first :: others =>
    others.foldl (fun start parts => start.take (commonLength start parts)) first

def dropParts (count : Nat) (branch : Pattern) : Pattern :=
  match branch with
  | sequence parts => ofParts (parts.drop count)
  | branch => branch

/-- One of several patterns.  Sets become one set, and what all branches begin with is taken out,
    for so many rounds at the most. -/
def ofBranchesWithin : Nat → List Pattern → Pattern
  | bound, branches =>
    let branches := branches.flatMap asBranches
    match branches with
    | [] => one Text.CodeSet.empty
    | [branch] => branch
    | _ =>
      match (ofSingles? branches).orElse fun _ => ofSets? branches with
      | some set => ofSet set
      | none =>
        match bound, commonStart branches with
        | bound + 1, part :: parts =>
          let rest := ofBranchesWithin bound (branches.map (dropParts (parts.length + 1)))
          ofParts (part :: parts ++ [rest])
        | _, _ => choice branches

def ofBranches (branches : List Pattern) : Pattern :=
  ofBranchesWithin (branches.length + 1) branches

/-- A pattern at least so many times, and perhaps no more than so many. -/
def repeated (inner : Pattern) (least : Nat) (most : Option Nat) : Pattern :=
  let (least, most) :=
    if inner.isAlwaysEmpty then (min least 1, some (min (most.getD 1) 1)) else (least, most)
  if least = 0 ∧ most = some 0 then empty
  else if least = 1 ∧ most = some 1 then inner
  else repetition inner least most

end Pattern

end MaskedLiterals
