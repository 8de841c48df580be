/-!
# What is wrong with a pattern

A text that is no pattern has a fault: its cause, and where in the text it lies.  The report of a
fault shows the text with the place marked below it; if the text has several lines, they are
numbered and stand between two rules.
-/

namespace MaskedLiterals

/-- The causes for which a text is no pattern. -/
inductive PatternCause where
  | unclosedSet
  | escapeInSet
  | reversedRange
  | rangeOfSets
  | invalidDecimal
  | missingHex
  | hexOutOfRange
  | invalidHexDigit
  | unfinishedEscape
  | unknownEscape
  | danglingMinus
  | repeatedFlag
  | repeatedMinus
  | unfinishedFlags
  | unknownFlag
  | repeatedName
  | missingName
  | invalidName
  | unfinishedName
  | unclosedGroup
  | unopenedGroup
  | tooDeep
  | reversedCount
  | missingCount
  | unclosedCount
  | nothingToRepeat
  | unclosedEdge
  | unknownEdge
  | unfinishedEdge
  | invalidProperty
  | backreference
  | lookaround
  | beyondAscii
  | anyOctet
  | unknownProperty
  | unknownPropertyValue
  deriving DecidableEq, Repr, Inhabited

namespace PatternCause

def deepest : Nat := 250

def message : PatternCause → String
  | unclosedSet => "unclosed character class"
  | escapeInSet => "invalid escape sequence found in character class"
  | reversedRange => "invalid character class range, the start must be <= the end"
  | rangeOfSets => "invalid range boundary, must be a literal"
  | invalidDecimal => "decimal literal invalid"
  | missingHex => "hexadecimal literal empty"
  | hexOutOfRange => "hexadecimal literal is not a Unicode scalar value"
  | invalidHexDigit => "invalid hexadecimal digit"
  | unfinishedEscape => "incomplete escape sequence, reached end of pattern prematurely"
  | unknownEscape => "unrecognized escape sequence"
  | danglingMinus => "dangling flag negation operator"
  | repeatedFlag => "duplicate flag"
  | repeatedMinus => "flag negation operator repeated"
  | unfinishedFlags => "expected flag but got end of regex"
  | unknownFlag => "unrecognized flag"
  | repeatedName => "duplicate capture group name"
  | missingName => "empty capture group name"
  | invalidName => "invalid capture group character"
  | unfinishedName => "unclosed capture group name"
  | unclosedGroup => "unclosed group"
  | unopenedGroup => "unopened group"
  | tooDeep =>
    "exceed the maximum number of nested parentheses/brackets (" ++ toString deepest ++ ")"
  | reversedCount => "invalid repetition count range, the start must be <= the end"
  | missingCount => "repetition quantifier expects a valid decimal"
  | unclosedCount => "unclosed counted repetition"
  | nothingToRepeat => "repetition operator missing expression"
  | unclosedEdge =>
    "special word boundary assertion is either unclosed or contains an invalid character"
  | unknownEdge =>
    "unrecognized special word boundary assertion, valid choices are: "
      ++ "start, end, start-half or end-half"
  | unfinishedEdge =>
    "found either the beginning of a special word boundary or a bounded repetition on a \\b "
      ++ "with an opening brace, but no closing brace"
  | invalidProperty => "invalid Unicode character class"
  | backreference => "backreferences are not supported"
  | lookaround => "look-around, including look-ahead and look-behind, is not supported"
  | beyondAscii => "Unicode not allowed here"
  | anyOctet => "pattern can match invalid UTF-8"
  | unknownProperty => "Unicode property not found"
  | unknownPropertyValue => "Unicode property value not found"

end PatternCause

/-- A place in a text, lines and columns counted from one. -/
structure Position where
  line : Nat
  column : Nat
  deriving DecidableEq, Repr, Inhabited

def Position.after (position : Position) (c : Char) : Position :=
  if c = '\n' then ⟨position.line + 1, 1⟩ else ⟨position.line, position.column + 1⟩

structure Span where
  start : Position
  stop : Position
  deriving DecidableEq, Repr, Inhabited

/-- What is wrong with a text that is no pattern; `related` is what it is at odds with. -/
structure PatternFault where
  cause : PatternCause
  span : Span
  related : Option Span
  deriving DecidableEq, Repr, Inhabited

namespace PatternFault

/-- The places of a fault, the first one first. -/
def spans (fault : PatternFault) : List Span :=
  match fault.related with
  | none => [fault.span]
  | some related =>
    let before := related.start.line < fault.span.start.line
      || (related.start.line = fault.span.start.line
        && related.start.column ≤ fault.span.start.column)
    if before then [related, fault.span] else [fault.span, related]

/-- The lines of a text, without what ends them. -/
def linesOf (text : List Char) : List (List Char) :=
  let lines := text.splitOn '\n'
  let ended := lines.dropLast.map fun line =>
    if line.getLast? = some '\r' then line.dropLast else line
  match lines.getLast? with
  | none | some [] => ended
  | some last => ended ++ [last]

/-- Marks below a line; `column` is the column behind the marks so far. -/
def marks (column : Nat) : List Span → List Char
  | [] => []
  | span :: spans =>
    let width := max 1 (span.stop.column - span.start.column)
    List.replicate (span.start.column - column) ' ' ++ List.replicate width '^'
      ++ marks (max column span.start.column + width) spans

/-- A line of the text, with the marks below it if it has any. -/
def shownLine (numberWidth line : Nat) (text : List Char) (spans : List Span) : String :=
  let front :=
    if numberWidth = 0 then List.replicate 4 ' '
    else (toString line).toList.leftpad numberWidth ' ' ++ [':', ' ']
  let spans := spans.filter fun span => span.start.line = line && span.stop.line = line
  String.ofList (front ++ text) ++ "\n"
    ++ if spans.isEmpty then ""
      else String.ofList (List.replicate front.length ' ' ++ marks 1 spans) ++ "\n"

/-- Where a place lies that takes several lines. -/
def lineNote (span : Span) : String :=
  "on line " ++ toString span.start.line ++ " (column " ++ toString span.start.column
    ++ ") through line " ++ toString span.stop.line ++ " (column "
    ++ toString (span.stop.column - 1) ++ ")"

def report (fault : PatternFault) (text : String) : String :=
  let characters := text.toList
  let several := characters.contains '\n'
  let lines := linesOf characters
  let count := lines.length + if characters.getLast? = some '\n' then 1 else 0
  let numberWidth := if count ≤ 1 then 0 else (toString count).length
  let rule := if several then String.ofList (List.replicate 79 '~') ++ "\n" else ""
  let shown := lines.mapIdx fun i line => shownLine numberWidth (i + 1) line fault.spans
  let notes := (fault.spans.filter fun span => span.start.line ≠ span.stop.line).map lineNote
  "regex parse error:\n" ++ rule ++ String.join shown ++ rule
    ++ (if several && !notes.isEmpty then String.intercalate "\n" notes ++ "\n" else "")
    ++ "error: " ++ fault.cause.message

end PatternFault

end MaskedLiterals
