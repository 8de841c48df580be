import MaskedLiterals.Pattern.Property
import MaskedLiterals.Pattern.Reading
import MaskedLiterals.Pattern.Room

/-!
# What a written pattern means

`ofText?` is the pattern that a text stands for.  Its flags are followed from left to right, each to
the end of the group it stands in.  Without the flag for Unicode, sets have ASCII characters only,
and whatever would go beyond them is a fault.  A pattern for which there is no room is refused too.
-/

namespace MaskedLiterals.Pattern

/-- What the flags so far have switched on. -/
structure Modes where
  anyCase : Bool
  manyLines : Bool
  dotAll : Bool
  unicode : Bool
  returns : Bool
  deriving DecidableEq, Repr, Inhabited

namespace Modes

def initial : Modes where
  anyCase := false
  manyLines := false
  dotAll := false
  unicode := true
  returns := false

def after (modes : Modes) (items : List FlagItem) : Modes where
  anyCase := switch items .anyCase modes.anyCase
  manyLines := switch items .manyLines modes.manyLines
  dotAll := switch items .dotAll modes.dotAll
  unicode := switch items .unicode modes.unicode
  returns := switch items .returns modes.returns

/-- A set, or all that differs from its members in case only. -/
def fold (modes : Modes) (set : CharSet) : CharSet :=
  if !modes.anyCase then set else if modes.unicode then set.anyCase else set.anyAsciiCase

end Modes

/-! ### Sets -/

def ofShorthand (unicode : Bool) : Shorthand → CharSet
  | .digit => if unicode then CharSet.digits else CharSet.asciiDigits
  | .space => if unicode then CharSet.blanks else CharSet.asciiBlanks
  | .word => if unicode then CharSet.wordCharacters else CharSet.asciiWord

def faultAt {α : Type} (cause : PatternCause) (span : Span) : Except PatternFault α :=
  .error ⟨cause, span, none⟩

/-- A set, or what is outside of it.  Outside of an ASCII set there is more than ASCII. -/
def negated? (modes : Modes) (span : Span) (negated : Bool) (set : CharSet) :
    Except PatternFault CharSet :=
  if negated && !modes.unicode then faultAt .anyOctet span else .ok (set.negateIf negated)

def shorthandSet (modes : Modes) (span : Span) (shorthand : Shorthand) (negated : Bool) :
    Except PatternFault CharSet :=
  negated? modes span negated (ofShorthand modes.unicode shorthand)

def propertySet (modes : Modes) (span : Span) (property : Property) (negated : Bool) :
    Except PatternFault CharSet :=
  if !modes.unicode then faultAt .beyondAscii span
  else match ofProperty property with
    | .ok set => .ok ((modes.fold set).negateIf negated)
    | .error cause => faultAt cause span

/-- A character that is written with two digits is an octet, and beyond ASCII no character, unless
    sets go beyond ASCII. -/
def literalCharacter (modes : Modes) (written : Literal) : Except PatternFault Char :=
  if !modes.unicode && written.twoDigits && 0x7f < written.character.toNat then
    faultAt .anyOctet written.span
  else .ok written.character

def setCharacter (modes : Modes) (written : Literal) : Except PatternFault Char := do
  let c ← literalCharacter modes written
  if !modes.unicode && 0x7f < c.toNat then faultAt .beyondAscii written.span else .ok c

mutual

def SetExpression.meaning (modes : Modes) : SetExpression → Except PatternFault CharSet
  | .empty _ => .ok Text.CodeSet.empty
  | .literal written => do return .ofChar (← setCharacter modes written)
  | .range _ first last => do
    return .ofRange (← setCharacter modes first) (← setCharacter modes last)
  | .ascii span set negated => negated? modes span negated (modes.fold set)
  | .shorthand span letter negated => shorthandSet modes span letter negated
  | .property span written negated => propertySet modes span written negated
  | .brackets span negated inner => do
    negated? modes span negated (modes.fold (← inner.meaning modes))
  | .union _ items => SetExpression.unionMeaning modes items
  | .operation _ sign first second => do
    let left := modes.fold (← first.meaning modes)
    let right := modes.fold (← second.meaning modes)
    return match sign with
      | .inter => left.inter right
      | .diff => left.diff right
      | .symmDiff => left.symmDiff right

def SetExpression.unionMeaning (modes : Modes) :
    List SetExpression → Except PatternFault CharSet
  | [] => .ok Text.CodeSet.empty
  | item :: items => do
    return (← item.meaning modes).union (← SetExpression.unionMeaning modes items)

end

/-! ### Patterns -/

/-- A condition on the place as the modes have it: without the mode for lines, their starts and ends
    are those of the text. -/
def placeCondition (modes : Modes) : Look → Look
  | .lineStart => if !modes.manyLines then .start
    else if modes.returns then .returnLineStart else .lineStart
  | .lineStop => if !modes.manyLines then .stop
    else if modes.returns then .returnLineStop else .lineStop
  | condition => condition

def dotSet (modes : Modes) : CharSet :=
  let lineFeed := CharSet.ofChar '\n'
  if modes.dotAll then CharSet.all
  else CharSet.complement (if modes.returns then lineFeed.union (CharSet.ofChar '\r') else lineFeed)

def Primitive.meaning (modes : Modes) (span : Span) : Primitive → Except PatternFault Pattern
  | .literal written => do
    return ofSet (modes.fold (.ofChar (← literalCharacter modes written)))
  | .dot => if modes.unicode then .ok (ofSet (dotSet modes)) else faultAt .anyOctet span
  | .look condition =>
    .ok (.look (!modes.unicode && condition.concernsWords) (placeCondition modes condition))
  | .shorthand letter negated => do return ofSet (← shorthandSet modes span letter negated)
  | .property written negated => do return ofSet (← propertySet modes span written negated)

mutual

/-- The pattern that is meant by a written one, and the modes behind it. -/
def Expression.meaning (modes : Modes) : Expression → Except PatternFault (Pattern × Modes)
  | .empty _ => .ok (.empty, modes)
  | .flags _ items => .ok (.empty, modes.after items)
  | .primitive span part => do return (← part.meaning modes span, modes)
  | .set brackets => do return (ofSet (← brackets.meaning modes), modes)
  | .repetition _ least most inner => do
    return (repeated (← inner.meaning modes).1 least most, modes)
  | .group _ noted items inner => do
    let (pattern, _) ← inner.meaning (modes.after items)
    return (if noted then .group pattern else pattern, modes)
  | .sequence _ parts => do
    let (parts, modes) ← Expression.allMeanings modes parts
    return (ofParts parts, modes)
  | .choice _ branches => do
    let (branches, modes) ← Expression.allMeanings modes branches
    return (ofBranches branches, modes)

/-- The patterns that are meant by some written ones, each with the modes behind the one before it,
    and the modes behind the last one. -/
def Expression.allMeanings (modes : Modes) :
    List Expression → Except PatternFault (List Pattern × Modes)
  | [] => .ok ([], modes)
  | part :: parts => do
    let (pattern, modes) ← part.meaning modes
    let (patterns, modes) ← Expression.allMeanings modes parts
    return (pattern :: patterns, modes)

end

/-- The report of a pattern for which there is no room. -/
def noRoomReport : String :=
  "Compiled regex exceeds size limit of " ++ toString greatestRoom ++ " bytes."

/-- The pattern that a text stands for, or a report of what is wrong with it. -/
def ofText? (text : String) : Except String Pattern :=
  match read text with
  | .error fault => .error (fault.report text)
  | .ok written =>
    match written.meaning .initial with
    | .error fault => .error (fault.report text)
    | .ok (pattern, _) => if pattern.fits then .ok pattern else .error noRoomReport

end MaskedLiterals.Pattern
