import MaskedLiterals.NumeralBase
import MaskedLiterals.Pattern.Cursor

/-!
# Reading a pattern

`read` reads a text as a pattern, or says where its first fault lies.  The text is read from its
start to its end; groups and sets are read by calls that are bounded by the length of the text, as
each call uses up a character.  Where a reader says that it stands at a character, its caller has
looked at that character already.
-/

namespace MaskedLiterals.Pattern.Reading

/-! ### Numbers -/

/-- The first number that a count may not have. -/
def countLimit : Nat := 0x100000000

/-- A count with blanks around it.  What is wrong with it is kept for later, as a missing brace
    matters more. -/
def count : Reading (Except PatternFault Nat) := do
  let _ ← passWhile Text.isBlank bump
  let start ← position
  let digits ← passWhile NumeralBase.decimal.isDigit advance
  let span : Span := ⟨start, ← position⟩
  let _ ← passWhile Text.isBlank advance
  let value := NumeralBase.decimal.valueOf digits
  return if digits.isEmpty then .error ⟨.missingCount, span, none⟩
    else if countLimit ≤ value then .error ⟨.invalidDecimal, span, none⟩
    else .ok value

/-- The counts in braces, up to the closing brace; `start` is where they are opened. -/
def counts (start : Position) : Reading (Nat × Option Nat) := do
  advance
  if (← peek).isNone then failFrom .unclosedCount start
  let least ← count
  match ← peek with
  | none => failFrom .unclosedCount start
  | some ',' =>
    advance
    match ← peek with
    | none => failFrom .unclosedCount start
    | some '\x7d' => return (← least, none)
    | some _ =>
      let least ← least
      let most ← count
      return (least, some (← most))
  | some _ =>
    let least ← least
    return (least, some least)

def codePoint? (digits : List Char) : Option Char :=
  let code := NumeralBase.hex.valueOf digits
  if h : code.isValidChar then some (Char.ofNatAux code h) else none

def hexDigits : Nat → Reading (List Char)
  | 0 => return []
  | count + 1 => do
    match ← peek with
    | none => failHere .unfinishedEscape
    | some c =>
      if NumeralBase.hex.isDigit c then
        advance
        return c :: (← hexDigits count)
      else failAt .invalidHexDigit c

/-- The code point in so many digits, or in any number of them in braces.  The cursor stands at the
    letter in front. -/
def codePoint (width : Nat) : Reading (Char × Bool) := do
  advance
  match ← peek with
  | none => failHere .unfinishedEscape
  | some '\x7b' =>
    let brace ← position
    bump
    let start ← position
    skipSpace
    let digits ← passWhile NumeralBase.hex.isDigit advance
    match ← peek with
    | none => failFrom .unfinishedEscape brace
    | some '\x7d' =>
      let stop ← position
      advance
      if digits.isEmpty then failFrom .missingHex brace
      match codePoint? digits with
      | some c => return (c, false)
      | none => fail .hexOutOfRange ⟨start, stop⟩
    | some c => failAt .invalidHexDigit c
  | some _ =>
    let start ← position
    let digits ← hexDigits width
    match codePoint? digits with
    | some c => return (c, width = 2)
    | none => failFrom .hexOutOfRange start

/-! ### Escapes -/

/-- The text in front of the first place where another text occurs, and the text behind it. -/
def splitAt? (part : List Char) : List Char → Option (List Char × List Char)
  | [] => none
  | c :: rest =>
    if part.isPrefixOf (c :: rest) then some ([], (c :: rest).drop part.length)
    else (splitAt? part rest).map fun (before, behind) => (c :: before, behind)

/-- The property that a text in braces names, and whether the value is one that it does not have. -/
def propertyOf (text : List Char) : Property × Bool :=
  let valued := fun (parts : List Char × List Char) =>
    Property.valued (String.ofList parts.1) (String.ofList parts.2)
  match splitAt? ['!', '='] text, splitAt? [':'] text, splitAt? ['='] text with
  | some parts, _, _ => (valued parts, true)
  | none, some parts, _ => (valued parts, false)
  | none, none, some parts => (valued parts, false)
  | none, none, none => (.named (String.ofList text), false)

/-- The property behind the letter at which the cursor stands, and whether it is the characters
    without it that are meant. -/
def property : Reading (Property × Bool) := do
  advance
  match ← peek with
  | none => failHere .unfinishedEscape
  | some '\x7b' =>
    advance
    let name ← passWhile (· ≠ '\x7d') advance
    if (← peek).isNone then failHere .unfinishedEscape
    bump
    return propertyOf name
  | some c =>
    if c = '\\' then failAt .invalidProperty c
    advance
    return (.named c.toString, false)

/-- The edge of a word that is named in braces, if they hold a name.  The cursor stands at the
    opening brace; `escape` is where the backslash is. -/
def namedEdge? (escape : Position) : Reading (Option Look) := do
  let before ← get
  let isNameChar := fun c => c.isAlpha || c = '-'
  let start ← position
  advance
  let contents ← position
  match ← peek with
  | none => failFrom .unfinishedEdge escape
  | some c =>
    if !isNameChar c then
      set before
      return none
    let name ← passWhile isNameChar advance
    if (← peek) ≠ some '\x7d' then failFrom .unclosedEdge start
    let stop ← position
    bump
    match String.ofList name with
    | "start" => return some .wordStart
    | "end" => return some .wordStop
    | "start-half" => return some .noWordBefore
    | "end-half" => return some .noWordAfter
    | _ => fail .unknownEdge ⟨contents, stop⟩

/-- The characters that mean something else without a backslash. -/
def metaCharacters : List Char :=
  ['\\', '.', '+', '*', '?', '(', ')', '|', '[', ']', '\x7b', '\x7d', '^', '$', '#', '&', '-', '~']

/-- Whether a backslash may stand in front of a character to no effect. -/
def isEscapable (c : Char) : Bool :=
  metaCharacters.contains c || (c.toNat < 0x80 && !c.isAlphanum && c ≠ '<' && c ≠ '>')

/-- What the letter behind a backslash stands for, if that is a character. -/
def lettered? : Char → Option Char
  | 'a' => some '\x07'
  | 'f' => some '\x0c'
  | 't' => some '\t'
  | 'n' => some '\n'
  | 'r' => some '\r'
  | 'v' => some '\x0b'
  | _ => none

/-- What the letter behind a backslash stands for, if that is a condition on the place. -/
def conditional? : Char → Option Look
  | 'A' => some .start
  | 'z' => some .stop
  | 'b' => some .wordEdge
  | 'B' => some .noWordEdge
  | '<' => some .wordStart
  | '>' => some .wordStop
  | _ => none

def shorthand? : Char → Option (Shorthand × Bool)
  | 'd' => some (.digit, false)
  | 's' => some (.space, false)
  | 'w' => some (.word, false)
  | 'D' => some (.digit, true)
  | 'S' => some (.space, true)
  | 'W' => some (.word, true)
  | _ => none

def hexWidth? : Char → Option Nat
  | 'x' => some 2
  | 'u' => some 4
  | 'U' => some 8
  | _ => none

/-- What stands behind a backslash and takes one character. -/
def shortEscape (start : Position) (c : Char) : Reading Primitive := do
  bump
  let span : Span := ⟨start, ← position⟩
  match shorthand? c, lettered? c, conditional? c with
  | some (shorthand, negated), _, _ => return .shorthand shorthand negated
  | _, some character, _ => return .literal ⟨span, character, false⟩
  | _, _, some condition =>
    if c = 'b' ∧ (← peek) = some '\x7b' then
      return .look ((← namedEdge? start).getD condition)
    return .look condition
  | _, _, _ =>
    if isEscapable c then return .literal ⟨span, c, false⟩
    fail .unknownEscape span

/-- What a backslash and the character `c` behind it begin; `start` is where the backslash is. -/
def escaped (start : Position) (c : Char) : Reading Primitive := do
  match hexWidth? c with
  | some width =>
    let (character, twoDigits) ← codePoint width
    return .literal ⟨⟨start, ← position⟩, character, twoDigits⟩
  | none =>
    if c = 'p' ∨ c = 'P' then
      let (property, differs) ← property
      return .property property (differs != (c = 'P'))
    else shortEscape start c

/-- What a backslash, at which the cursor stands, begins. -/
def escape : Reading (Span × Primitive) := do
  let start ← position
  bump
  match ← peek with
  | none => failFrom .unfinishedEscape start
  | some c =>
    if c.isDigit then fail .backreference ⟨start, (← charSpan c).stop⟩
    let primitive ← escaped start c
    return (⟨start, ← position⟩, primitive)

/-! ### Sets -/

def setPrimitive (c : Char) : Reading (Span × Primitive) := do
  if c = '\\' then escape
  else
    let span ← charSpan c
    bump
    return (span, .literal ⟨span, c, false⟩)

def setItem (span : Span) : Primitive → Reading SetExpression
  | .literal literal => return .literal literal
  | .shorthand shorthand negated => return .shorthand span shorthand negated
  | .property property negated => return .property span property negated
  | .dot | .look _ => fail .escapeInSet span

def rangeEnd (span : Span) : Primitive → Reading Literal
  | .literal literal => return literal
  | _ => fail .rangeOfSets span

/-- An item of a set or a range, which begins with `c`; `brackets` is what opens the set. -/
def itemOrRange (brackets : Span) (c : Char) : Reading SetExpression := do
  let (span, primitive) ← setPrimitive c
  skipSpace
  match ← peek with
  | none => fail .unclosedSet brackets
  | some c =>
    let second ← peekSecond
    if c ≠ '-' ∨ second = some ']' ∨ second = some '-' then setItem span primitive
    else
      advance
      match ← peek with
      | none => fail .unclosedSet brackets
      | some c =>
        let (lastSpan, lastPrimitive) ← setPrimitive c
        let first ← rangeEnd span primitive
        let last ← rangeEnd lastSpan lastPrimitive
        let whole : Span := ⟨span.start, lastSpan.stop⟩
        if last.character < first.character then fail .reversedRange whole
        return .range whole first last

/-- The set with a name between colons, if there is one.  The cursor stands at the bracket in front
    of the colon. -/
def asciiSet? : Reading (Option SetExpression) := do
  let before ← get
  if ← bumpIf "[:" then
    let negated ← bumpIf "^"
    let name ← passWhile (· ≠ ':') bump
    if ← bumpIf ":]" then
      match CharSet.ofAsciiName? (String.ofList name) with
      | some set => return some (.ascii ⟨before.position, ← position⟩ set negated)
      | none => pure ()
  set before
  return none

def plainItem? (expected : Char) : Reading (Option SetExpression) := do
  if (← peek) = some expected then
    let span ← charSpan expected
    advance
    return some (.literal ⟨span, expected, false⟩)
  else return none

/-- The minus signs that a set begins with, at most so many; `start` is where the set is opened. -/
def leadingMinus (start : Position) : Nat → Reading (List SetExpression)
  | 0 => return []
  | bound + 1 => do
    match ← plainItem? '-' with
    | none => return []
    | some item =>
      if (← peek).isNone then fail .unclosedSet ⟨start, start⟩
      return item :: (← leadingMinus start bound)

/-- What opens a set: the bracket, whether the set is negated, and the items that would mean
    something else further on, the last one first.  `bound` is how many there may be. -/
def openSet (bound : Nat) : Reading (Span × Bool × List SetExpression) := do
  let start ← position
  advance
  let negated := (← peek) = some '^'
  if negated then advance
  if (← peek).isNone then failFrom .unclosedSet start
  let items ← leadingMinus start bound
  if items.isEmpty then
    match ← plainItem? ']' with
    | some item =>
      if (← peek).isNone then failFrom .unclosedSet start
      return (⟨start, ← position⟩, negated, [item])
    | none => pure ()
  return (⟨start, ← position⟩, negated, items.reverse)

/-- Several items as one set, the last one given first. -/
def ofItems (here : Position) : List SetExpression → SetExpression
  | [] => .empty ⟨here, here⟩
  | [item] => item
  | last :: items =>
    .union ⟨(items.getLastD last).span.start, last.span.stop⟩ (last :: items).reverse

def withOperation (before : Option (SetOperation × SetExpression)) (right : SetExpression) :
    SetExpression :=
  match before with
  | none => right
  | some (operation, left) => .operation ⟨left.span.start, right.span.stop⟩ operation left right

/-- The operation on sets at which the cursor stands. -/
def operation? : Reading (Option SetOperation) := do
  if ← bumpIf "&&" then return some .inter
  if ← bumpIf "--" then return some .diff
  if ← bumpIf "~~" then return some .symmDiff
  return none

mutual

/-- A set in brackets, at the first of which the cursor stands. -/
def bracketed : Nat → Reading SetExpression
  | 0 => failHere .unclosedSet
  | bound + 1 => do
    let (brackets, negated, items) ← openSet bound
    setItems bound brackets negated none items

/-- The rest of a set up to its closing bracket: `before` is the operation so far, `items` are the
    items behind it, the last one first. -/
def setItems : Nat → Span → Bool → Option (SetOperation × SetExpression) → List SetExpression →
    Reading SetExpression
  | 0, brackets, _, _, _ => fail .unclosedSet brackets
  | bound + 1, brackets, negated, before, items => do
    skipSpace
    match ← peek with
    | none => fail .unclosedSet brackets
    | some '[' =>
      let item ← match ← asciiSet? with
        | some item => pure item
        | none => bracketed bound
      setItems bound brackets negated before (item :: items)
    | some ']' =>
      let inner := withOperation before (ofItems (← position) items)
      bump
      return .brackets ⟨brackets.start, ← position⟩ negated inner
    | some c =>
      let here ← position
      match ← operation? with
      | some operation =>
        setItems bound brackets negated
          (some (operation, withOperation before (ofItems here items))) []
      | none =>
        let item ← itemOrRange brackets c
        setItems bound brackets negated before (item :: items)

end

/-! ### Groups -/

def beginsName (c : Char) : Bool := c = '_' || Text.isAlphabetic c

def isNamePart (c : Char) : Bool :=
  c = '_' || c = '.' || c = '[' || c = ']' || Text.isAlphanumeric c

/-- The name of a group, behind the angle bracket that opens it.  No two groups share one. -/
def groupName : Reading Unit := do
  let start ← position
  match ← peek with
  | none => failHere .unfinishedName
  | some c => if c ≠ '>' ∧ !beginsName c then failAt .invalidName c
  let name ← passWhile isNamePart bump
  let span : Span := ⟨start, ← position⟩
  match ← peek with
  | none => failHere .unfinishedName
  | some c => if c ≠ '>' then failAt .invalidName c
  bump
  if name.isEmpty then fail .missingName span
  let name := String.ofList name
  let known := (← get).names
  match known.find? (·.1 = name) with
  | some (_, related) => throw ⟨.repeatedName, span, some related⟩
  | none => modify fun cursor => { cursor with names := (name, span) :: known }

/-- Flags up to a colon or closing parenthesis, with their places; `minus` is where the last one is,
    if it is a minus. -/
def flagItems : Nat → Option Span → List (FlagItem × Span) → Reading (List FlagItem)
  | 0, _, _ => failHere .unfinishedFlags
  | bound + 1, minus, items => do
    match ← peek with
    | none => failHere .unfinishedFlags
    | some c =>
      if c = ':' ∨ c = ')' then
        match minus with
        | some span => fail .danglingMinus span
        | none => return items.map Prod.fst
      let span ← charSpan c
      let item ← if c = '-' then pure .minus else match Flag.ofChar? c with
        | some flag => pure (.flag flag)
        | none => fail .unknownFlag span
      match items.find? (·.1 = item) with
      | some (_, related) =>
        throw ⟨if item = .minus then .repeatedMinus else .repeatedFlag, span, some related⟩
      | none =>
        bump
        flagItems bound (if item = .minus then some span else none) (items ++ [(item, span)])

inductive Opening where
  | flags (items : List FlagItem)
  /-- A group, with flags for its inside; it may be noted where the group occurs. -/
  | group (noted : Bool) (items : List FlagItem)

/-- What the parenthesis opens at which the cursor stands; `parenthesis` is its place, and `bound`
    is how much text there may be. -/
def opening (bound : Nat) (parenthesis : Span) : Reading Opening := do
  advance
  for look in ["?=", "?!", "?<=", "?<!"] do
    if ← bumpIf look then failFrom .lookaround parenthesis.start
  let inner ← position
  if ← bumpIf "?P<" then groupName; return .group true []
  if ← bumpIf "?<" then groupName; return .group true []
  if ← bumpIf "?" then
    if (← peek).isNone then fail .unclosedGroup parenthesis
    let items ← flagItems (bound + 1) none []
    let closing ← peek
    bump
    if closing = some ')' then
      if items.isEmpty then fail .nothingToRepeat ⟨inner, inner⟩
      return .flags items
    return .group false items
  return .group true []

/-! ### Patterns -/

def ofParts (span : Span) : List Expression → Expression
  | [] => .empty span
  | [part] => part
  | parts => .sequence span parts.reverse

def ofBranches (span : Span) : List Expression → Expression
  | [branch] => branch
  | branches => .choice span branches.reverse

/-- The parts with the last of them, which is given first, repeated.  The cursor stands at the sign
    that asks for it. -/
def repeated (sign : Char) (parts : List Expression) : Reading (List Expression) := do
  match parts with
  | [] | .flags _ _ :: _ => failHere .nothingToRepeat
  | part :: parts =>
    let start ← position
    let (least, most) ← match sign with
      | '?' => bump; pure (0, some 1)
      | '*' => bump; pure (0, none)
      | '+' => bump; pure (1, none)
      | _ =>
        let counts ← counts start
        if (← peek) ≠ some '\x7d' then failFrom .unclosedCount start
        advance
        pure counts
    let _ ← bumpIf "?"
    if most.any (· < least) then failFrom .reversedCount start
    return .repetition ⟨part.span.start, ← position⟩ least most part :: parts

/-- A part that begins with `c` and is neither group nor repetition; `bound` is how much text there
    may be. -/
def simplePart (bound : Nat) (c : Char) : Reading Expression := do
  if c = '[' then return .set (← bracketed (bound + 1))
  else if c = '\\' then
    let (span, primitive) ← escape
    return .primitive span primitive
  else
    let span ← charSpan c
    bump
    return .primitive span <| match c with
      | '.' => .dot
      | '^' => .look .lineStart
      | '$' => .look .lineStop
      | _ => .literal ⟨span, c, false⟩

/-- The rest of a pattern up to the end of the group that `opened` opens, or of the text: `start` is
    where the pattern begins, `branches` are complete, and `parts` are those of the next one, which
    begins at `branch`.  The last ones are given first. -/
def expression : Nat → Option Span → Position → List Expression → Position → List Expression →
    Reading Expression
  | 0, _, _, _, _, _ => failHere .tooDeep
  | bound + 1, opened, start, branches, branch, parts => do
    skipSpace
    let here ← position
    match ← peek with
    | none =>
      match opened with
      | some parenthesis => fail .unclosedGroup parenthesis
      | none => return ofBranches ⟨start, here⟩ (ofParts ⟨branch, here⟩ parts :: branches)
    | some ')' =>
      match opened with
      | some _ => return ofBranches ⟨start, here⟩ (ofParts ⟨branch, here⟩ parts :: branches)
      | none => failAt .unopenedGroup ')'
    | some '|' =>
      bump
      expression bound opened start (ofParts ⟨branch, here⟩ parts :: branches) (← position) []
    | some '(' =>
      let parenthesis ← charSpan '('
      let spaced := (← get).spaced
      match ← opening bound parenthesis with
      | .flags items =>
        let part := .flags ⟨parenthesis.start, ← position⟩ items
        modify fun cursor => { cursor with spaced := switch items .spaced spaced }
        expression bound opened start branches branch (part :: parts)
      | .group noted items =>
        modify fun cursor => { cursor with spaced := switch items .spaced spaced }
        let inside ← position
        let inner ← expression bound (some parenthesis) inside [] inside []
        modify fun cursor => { cursor with spaced }
        bump
        let part := .group ⟨parenthesis.start, ← position⟩ noted items inner
        expression bound opened start branches branch (part :: parts)
    | some c =>
      if c = '?' ∨ c = '*' ∨ c = '+' ∨ c = '\x7b' then
        expression bound opened start branches branch (← repeated c parts)
      else
        expression bound opened start branches branch ((← simplePart bound c) :: parts)

end Reading

def read (text : String) : Except PatternFault Expression := do
  let start : Position := ⟨1, 1⟩
  let reading := Reading.expression (text.length + 1) none start [] start []
  let (written, _) ← reading.run ⟨text.toList, start, false, []⟩
  match written.tooDeep? PatternCause.deepest with
  | some span => throw ⟨.tooDeep, span, none⟩
  | none => return written

end MaskedLiterals.Pattern
