import MaskedLiterals.Pattern
import MaskedLiterals.Pattern.Fault

/-!
# Patterns as they are written

A written pattern is read before it is known what it means: flags change the meaning of what follows
them, and a name may turn out to be unknown.  So its parts keep their places in the text, for the
report of a fault that is found later.
-/

namespace MaskedLiterals.Pattern

/-- What flags can switch on and off. -/
inductive Flag where
  /-- Letters stand for either case. -/
  | anyCase
  /-- Lines have a start and an end of their own. -/
  | manyLines
  /-- The dot stands for a line feed too. -/
  | dotAll
  /-- Repetitions are short. -/
  | short
  /-- Sets go beyond ASCII. -/
  | unicode
  /-- Lines may end with a carriage return. -/
  | returns
  /-- Blanks and comments are passed over. -/
  | spaced
  deriving DecidableEq, Repr, Inhabited

def Flag.ofChar? : Char → Option Flag
  | 'i' => some anyCase
  | 'm' => some manyLines
  | 's' => some dotAll
  | 'U' => some short
  | 'u' => some unicode
  | 'R' => some returns
  | 'x' => some spaced
  | _ => none

/-- What a list of flags holds: flags, and a minus in front of those that are switched off. -/
inductive FlagItem where
  | minus
  | flag (flag : Flag)
  deriving DecidableEq, Repr, Inhabited

/-- Whether a list of flags switches a flag on or off; `enabled` says what it does so far. -/
def switched? (flag : Flag) (enabled : Bool) : List FlagItem → Option Bool
  | [] => none
  | .minus :: items => switched? flag false items
  | .flag other :: items => if other = flag then some enabled else switched? flag enabled items

def switch (items : List FlagItem) (flag : Flag) (old : Bool) : Bool :=
  (switched? flag true items).getD old

/-- The sets that have a letter of their own. -/
inductive Shorthand where
  | digit
  | space
  | word
  deriving DecidableEq, Repr, Inhabited

/-- The property that a set of characters is given by. -/
inductive Property where
  | named (name : String)
  | valued (name value : String)
  deriving DecidableEq, Repr, Inhabited

/-- A character as it is written; one that is given by two hexadecimal digits may be an octet. -/
structure Literal where
  span : Span
  character : Char
  twoDigits : Bool
  deriving DecidableEq, Repr, Inhabited

/-- The parts of a pattern that have no parts. -/
inductive Primitive where
  | literal (literal : Literal)
  | dot
  | look (look : Look)
  | shorthand (shorthand : Shorthand) (negated : Bool)
  | property (property : Property) (negated : Bool)
  deriving DecidableEq, Repr, Inhabited

inductive SetOperation where
  | inter
  | diff
  | symmDiff
  deriving DecidableEq, Repr, Inhabited

inductive SetExpression where
  | empty (span : Span)
  | literal (literal : Literal)
  | range (span : Span) (first last : Literal)
  | ascii (span : Span) (set : CharSet) (negated : Bool)
  | shorthand (span : Span) (shorthand : Shorthand) (negated : Bool)
  | property (span : Span) (property : Property) (negated : Bool)
  | brackets (span : Span) (negated : Bool) (inner : SetExpression)
  | union (span : Span) (items : List SetExpression)
  | operation (span : Span) (operation : SetOperation) (left right : SetExpression)

def SetExpression.span : SetExpression → Span
  | empty span => span
  | literal written => written.span
  | range span _ _ => span
  | ascii span _ _ => span
  | shorthand span _ _ => span
  | property span _ _ => span
  | brackets span _ _ => span
  | union span _ => span
  | operation span _ _ _ => span

inductive Expression where
  | empty (span : Span)
  | flags (span : Span) (items : List FlagItem)
  | primitive (span : Span) (primitive : Primitive)
  | set (brackets : SetExpression)
  | repetition (span : Span) (least : Nat) (most : Option Nat) (inner : Expression)
  /-- A group, with flags for its inside; it may be noted where the group occurs. -/
  | group (span : Span) (noted : Bool) (items : List FlagItem) (inner : Expression)
  | sequence (span : Span) (parts : List Expression)
  | choice (span : Span) (branches : List Expression)

def Expression.span : Expression → Span
  | empty span => span
  | flags span _ => span
  | primitive span _ => span
  | set brackets => brackets.span
  | repetition span _ _ _ => span
  | group span _ _ _ => span
  | sequence span _ => span
  | choice span _ => span

/-! ### Depth -/

mutual

/-- The first part of a set that stands too deep, `left` levels being left. -/
def SetExpression.tooDeep? (left : Nat) : SetExpression → Option Span
  | .brackets span _ inner => if left = 0 then some span else inner.tooDeep? (left - 1)
  | .union span items => if left = 0 then some span else SetExpression.anyTooDeep? (left - 1) items
  | .operation span _ first second =>
    if left = 0 then some span
    else match first.tooDeep? (left - 1) with
      | some span => some span
      | none => second.tooDeep? (left - 1)
  | _ => none

def SetExpression.anyTooDeep? (left : Nat) : List SetExpression → Option Span
  | [] => none
  | item :: items =>
    match item.tooDeep? left with
    | some span => some span
    | none => SetExpression.anyTooDeep? left items

end

mutual

/-- The first part of a pattern that stands too deep, `left` levels being left. -/
def Expression.tooDeep? (left : Nat) : Expression → Option Span
  | .set brackets => brackets.tooDeep? left
  | .repetition span _ _ inner => if left = 0 then some span else inner.tooDeep? (left - 1)
  | .group span _ _ inner => if left = 0 then some span else inner.tooDeep? (left - 1)
  | .sequence span parts => if left = 0 then some span else Expression.anyTooDeep? (left - 1) parts
  | .choice span parts => if left = 0 then some span else Expression.anyTooDeep? (left - 1) parts
  | _ => none

def Expression.anyTooDeep? (left : Nat) : List Expression → Option Span
  | [] => none
  | part :: parts =>
    match part.tooDeep? left with
    | some span => some span
    | none => Expression.anyTooDeep? left parts

end

end MaskedLiterals.Pattern
