import MaskedLiterals.Pattern
import MaskedLiterals.Pattern.OctetForm
import Std.Data.HashSet

/-!
# How much room a pattern takes

A pattern is not taken if it would be too large once it is laid out as states with links between
them.  It is laid out twice, to be followed through a text forward and backward, each time with
repetitions written out in full.  `fits` says whether there is room for both.
-/

namespace MaskedLiterals.Pattern

/-- The room for a pattern, in octets. -/
def greatestRoom : Nat := 10485760

def stateRoom : Nat := 32

def choiceLink : Nat := 4

/-- The room for a link by a range of octets, where a state has several. -/
def stepLink : Nat := 8

/-- What has been laid out: how many states, and how much room the links take. -/
structure Layout where
  states : Nat
  links : Nat
  deriving DecidableEq, Repr, Inhabited

namespace Layout

def empty : Layout := ⟨0, 0⟩

def add (left right : Layout) : Layout := ⟨left.states + right.states, left.links + right.links⟩

def scale (count : Nat) (layout : Layout) : Layout := ⟨count * layout.states, count * layout.links⟩

def room (layout : Layout) : Nat := stateRoom * layout.states + layout.links

def add? (layout more : Layout) : Option Layout :=
  if (layout.add more).room ≤ greatestRoom then some (layout.add more) else none

def sum (layouts : List Layout) : Layout := layouts.foldl add empty

def times (lay : Layout → Option Layout) : Nat → Layout → Option Layout
  | 0, layout => some layout
  | count + 1, layout =>
    match lay layout with
    | none => none
    | some layout => times lay count layout

end Layout

/-! ### Sets -/

/-- A set of ASCII characters: a state with a link for each range, and one behind. -/
def asciiLayout (set : CharSet) : Layout := ⟨2, stepLink * set.ranges.length⟩

/-- A set forward: lists of rests that are alike share a state. -/
def forwardLayout (forms : List OctetForm) : Layout :=
  (Std.HashSet.ofList (OctetForm.nodes 4 forms)).fold
    (fun layout rests => layout.add ⟨1, stepLink * (OctetForm.branches rests).length⟩) ⟨1, 0⟩

/-- A state that is remembered by the octets it takes and the state it leads to. -/
structure RememberedState where
  target : Nat
  octets : OctetRange
  state : Nat
  deriving DecidableEq, Repr, Inhabited

/-- How many states are remembered at the most. -/
def memorySize : Nat := 1000

/-- The place in memory for the state that leads to a target by some octets.  States that share a
    place drive each other out. -/
def memoryPlace (target : Nat) (octets : OctetRange) : Nat :=
  let mix := fun (hash : UInt64) (value : Nat) => (hash ^^^ UInt64.ofNat value) * 1099511628211
  ([target, octets.1, octets.2].foldl mix 14695981039346656037).toNat % memorySize

/-- How far the laying out of forms backward has come. -/
structure BackwardWork where
  memory : Array (Option RememberedState)
  /-- How many states there are. -/
  states : Nat
  /-- The state that the next octet leads to. -/
  target : Nat

namespace BackwardWork

/-- Lays out one octet: as the state remembered for it, or as a new one. -/
def layOctet (work : BackwardWork) (octets : OctetRange) : BackwardWork :=
  let place := memoryPlace work.target octets
  let known := (work.memory[place]?.bind id).filter fun remembered =>
    remembered.target = work.target ∧ remembered.octets = octets
  match known with
  | some remembered => { work with target := remembered.state }
  | none =>
    { memory := work.memory.set! place (some ⟨work.target, octets, work.states⟩)
      states := work.states + 1
      target := work.states }

def layForms (work : BackwardWork) (forms : List OctetForm) : BackwardWork :=
  forms.foldl (fun done form => form.foldl layOctet { done with target := work.target }) work

end BackwardWork

/-- A set backward, behind so many states: a choice between the forms, a state where they end, and
    the states for the octets that are not remembered. -/
def backwardLayout (forms : List OctetForm) (states : Nat) : Layout :=
  let work : BackwardWork := ⟨Array.replicate memorySize none, states + 2, states + 1⟩
  ⟨(work.layForms forms).states - states, choiceLink * forms.length⟩

/-- One character of a set, behind so many states. -/
def setLayout (backward : Bool) (set : CharSet) (states : Nat) : Layout :=
  if (set.diff CharSet.ascii).isEmpty then asciiLayout set
  else
    let forms := OctetForm.ofSet set
    if backward then backwardLayout forms states else forwardLayout forms

/-! ### Choices between texts -/

/-- The octets of a text, the last one first if they are gone through backward. -/
def textOctets (backward : Bool) (text : List Char) : List Nat :=
  let octets := (text.flatMap String.utf8EncodeChar).map UInt8.toNat
  if backward then octets.reverse else octets

def asTexts? (branches : List Pattern) : Option (List (List Char)) :=
  branches.mapM fun branch => match branch with
    | text characters => some characters
    | _ => none

/-- The stages in which texts come up: a new one begins where a text ends.  At the start, several
    ends are as good as one. -/
def stages (texts : List (List Nat)) : List (List (List Nat)) :=
  let ends := texts.takeWhile List.isEmpty
  (ends.take 1 ++ texts.drop ends.length).splitOn []

/-- A tree of texts: a choice between its stages, in each of them the links by the first octets, and
    the trees of what is behind them.  `bound` is how deep the tree may be. -/
def treeLayout : Nat → List (List Nat) → Layout
  | 0, _ => .empty
  | bound + 1, texts =>
    if texts.all List.isEmpty then .empty
    else
      let stages := stages texts
      let layouts := stages.map fun stage =>
        let firsts := (stage.filterMap List.head?).eraseDups
        let steps : Layout :=
          match firsts with
          | [] => .empty
          | [_] => ⟨1, choiceLink⟩
          | _ => ⟨1, choiceLink + stepLink * firsts.length⟩
        let trees := firsts.map fun first =>
          treeLayout bound ((stage.filter fun text => text.head? = some first).map List.tail)
        steps.add (Layout.sum trees)
      Layout.add ⟨1, choiceLink * (stages.length - 1)⟩ (Layout.sum layouts)

def textsLayout (backward : Bool) (texts : List (List Char)) : Layout :=
  let texts := texts.map (textOctets backward)
  Layout.add ⟨1, 0⟩ (treeLayout ((texts.map List.length).foldl max 0 + 1) texts)

/-! ### Patterns -/

/-- Lays out one thing so many times.  Forward it is always laid out alike. -/
def layCopies (backward : Bool) (lay : Layout → Option Layout) (count : Nat) (layout : Layout) :
    Option Layout :=
  if backward ∨ count = 0 then layout.times lay count
  else do
    let next ← lay layout
    next.add? (Layout.scale (count - 1) ⟨next.states - layout.states, next.links - layout.links⟩)

def fork : Layout := ⟨1, 2 * choiceLink⟩

def layRepetition (backward : Bool) (lay : Layout → Option Layout) (mayBeEmpty : Bool)
    (least : Nat) (most : Option Nat) (layout : Layout) : Option Layout := do
  let copies := layCopies backward lay
  match most with
  | none =>
    if least = 0 ∧ mayBeEmpty then
      (← lay layout).add? (Layout.add fork (Layout.add fork ⟨1, 0⟩))
    else if least = 0 then lay (← layout.add? fork)
    else (← copies least layout).add? fork
  | some most =>
    if least = most then copies least layout
    else if least = 0 ∧ most = 1 then (← lay (← layout.add? fork)).add? ⟨1, 0⟩
    else
      let layout ← if least = 0 then layout.add? ⟨1, 0⟩ else copies least layout
      layCopies backward (fun layout => do lay (← layout.add? fork)) (most - least)
        (← layout.add? ⟨1, 0⟩)

mutual

def lay (backward : Bool) : Pattern → Layout → Option Layout
  | empty, layout | look _ _, layout => layout.add? ⟨1, 0⟩
  | text characters, layout => layout.add? ⟨(textOctets backward characters).length, 0⟩
  | one set, layout => layout.add? (setLayout backward set layout.states)
  | group inner, layout =>
    if backward then inner.lay backward layout
    else do (← inner.lay backward (← layout.add? ⟨1, 0⟩)).add? ⟨1, 0⟩
  | repetition inner least most, layout =>
    layRepetition backward (inner.lay backward) (inner.leastLength?.all (· = 0)) least most layout
  | sequence parts, layout =>
    if backward then layFromLast parts layout else layInTurn backward parts layout
  | choice branches, layout =>
    match asTexts? branches with
    | some texts => layout.add? (textsLayout backward texts)
    | none => layBranches backward branches 0 layout

def layInTurn (backward : Bool) : List Pattern → Layout → Option Layout
  | [], layout => some layout
  | part :: parts, layout => do layInTurn backward parts (← part.lay backward layout)

/-- Lays out the parts of a sequence backward, the last one first. -/
def layFromLast : List Pattern → Layout → Option Layout
  | [], layout => some layout
  | part :: parts, layout => do part.lay true (← layFromLast parts layout)

/-- Lays out the branches of a choice, `done` of which are there: the choice and the state behind it
    follow on the second one. -/
def layBranches (backward : Bool) : List Pattern → Nat → Layout → Option Layout
  | [], _, layout => some layout
  | branch :: branches, done, layout => do
    let layout ← branch.lay backward layout
    let layout ← layout.add? ⟨if done = 1 then 2 else 0, choiceLink⟩
    layBranches backward branches (done + 1) layout

end

/-! ### Both directions -/

mutual

/-- Whether a pattern can be only where the condition holds, by what it begins with. -/
def beginsWith (condition : Look) : Pattern → Bool
  | look _ other => other = condition
  | repetition inner least _ => least ≠ 0 && inner.beginsWith condition
  | group inner => inner.beginsWith condition
  | sequence parts => beginsWithin condition parts
  | choice branches => allBeginWith condition branches
  | _ => false

def beginsWithin (condition : Look) : List Pattern → Bool
  | [] => false
  | part :: parts =>
    part.beginsWith condition || (part.isAlwaysEmpty && beginsWithin condition parts)

def allBeginWith (condition : Look) : List Pattern → Bool
  | [] => true
  | branch :: branches => branch.beginsWith condition && allBeginWith condition branches

end

mutual

def reversed : Pattern → Pattern
  | repetition inner least most => repetition inner.reversed least most
  | group inner => group inner.reversed
  | sequence parts => sequence (allReversed parts).reverse
  | choice branches => choice (allReversed branches)
  | pattern => pattern

def allReversed : List Pattern → List Pattern
  | [] => []
  | part :: parts => part.reversed :: allReversed parts

end

/-- What stands in front of a pattern: where it can be at one place only, a state, and otherwise a
    loop over all octets. -/
def front (isAnchored : Bool) : Layout :=
  if isAnchored then ⟨1, 0⟩ else fork.add ⟨2, stepLink⟩

/-- Whether there is room for a pattern.  Forward it is a group of its own. -/
def fits (pattern : Pattern) : Bool :=
  let forward := do
    (← (group pattern).lay false (front (pattern.beginsWith .start))).add? ⟨1, 0⟩
  let backward := do
    (← pattern.lay true (front (pattern.reversed.beginsWith .stop))).add? ⟨1, 0⟩
  forward.isSome && backward.isSome

end MaskedLiterals.Pattern
