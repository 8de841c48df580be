/-!
# Text without control functions

A terminal takes some characters as orders instead of showing them: control characters, escape
sequences, control sequences, and strings of several kinds that an escape opens.  `visible` is what
is left of a text without them.  Tab, line feed, form feed and carriage return are kept, except in a
control string, which they are part of.  Within an escape or control sequence such a character
interrupts it: what follows is shown up to the next character that cannot be, and there the sequence
goes on, unless a character beyond ASCII was among those shown.  What is opened and not closed
reaches to the end of the text.
-/

namespace MaskedLiterals.Text

/-- What the characters so far have opened. -/
inductive ControlState where
  /-- Nothing: characters are shown. -/
  | ground
  | escape
  | escapeIntermediate
  | controlSequence
  /-- A device control string, of which nothing has been read. -/
  | deviceEntry
  | deviceParameter
  | deviceIntermediate
  /-- The body of a device control string, or any other string that is closed by an octet. -/
  | controlString
  | systemCommand
  deriving DecidableEq, Repr, Inhabited

/-- White space among the control characters. -/
def isKeptControl (c : Char) : Bool := c = '\t' || c = '\n' || c = '\x0c' || c = '\r'

/-- Whether a character is shown where nothing is open. -/
def isShownAlone (c : Char) : Bool := isKeptControl c || (0x20 ≤ c.toNat && c.toNat ≠ 0x7f)

/-- Whether one of the octets of a character closes a control string. -/
def closesString (c : Char) : Bool := (String.utf8EncodeChar c).contains 0x9c

namespace ControlState

/-- Goes on by a character within an escape or control sequence: white space is kept, other control
    characters and those beyond ASCII are left out, and none of these changes the state. -/
def within (state : ControlState) (c : Char) (next : ControlState) : ControlState × Bool :=
  if isKeptControl c then (state, true)
  else if 0x20 ≤ c.toNat ∧ c.toNat ≤ 0x7e then (next, false)
  else (state, false)

/-- The state behind the character after an escape. -/
def afterEscape (c : Char) : ControlState :=
  if c = '[' then controlSequence
  else if c = ']' then systemCommand
  else if c = 'P' then deviceEntry
  else if c = 'X' ∨ c = '^' ∨ c = '_' then controlString
  else if c ≤ '/' then escapeIntermediate
  else ground

/-- The state behind a character in a device control string, in front of its body. -/
def afterDevice (state : ControlState) (c : Char) : ControlState :=
  if c.toNat < 0x20 ∨ 0x7e < c.toNat then state
  else if c ≤ '/' then deviceIntermediate
  else if '@' ≤ c then controlString
  else if state = deviceEntry ∨ (state = deviceParameter ∧ c ≤ ';') then deviceParameter
  else controlString

/-- The state behind a character, and whether the character is shown. -/
def step (state : ControlState) (c : Char) : ControlState × Bool :=
  if c = '\x18' ∨ c = '\x1a' then (ground, false)
  else if c = '\x1b' then (escape, false)
  else match state with
    | ground => (ground, isShownAlone c)
    | escape => within escape c (afterEscape c)
    | escapeIntermediate =>
      within escapeIntermediate c (if c ≤ '/' then escapeIntermediate else ground)
    | controlSequence => within controlSequence c (if '@' ≤ c then ground else controlSequence)
    | deviceEntry | deviceParameter | deviceIntermediate => (afterDevice state c, false)
    | controlString => (if closesString c then ground else controlString, false)
    | systemCommand => (if c = '\x07' then ground else systemCommand, false)

/-- The state behind a character that is shown right behind another one: a character beyond ASCII
    closes whatever was open. -/
def afterShown (state : ControlState) (c : Char) : ControlState :=
  if 0x7f < c.toNat then ground else state

/-- The characters that are shown, from a state on; `showing` says whether the character in front is
    shown. -/
def shown : ControlState → Bool → List Char → List Char
  | _, _, [] => []
  | state, showing, c :: text =>
    if showing && isShownAlone c then c :: (state.afterShown c).shown true text
    else
      let (next, isShown) := state.step c
      if isShown then c :: next.shown true text else next.shown false text

end ControlState

/-- A text as a terminal would show it, without the orders in it. -/
def visible (text : String) : String := String.ofList (ControlState.ground.shown false text.toList)

end MaskedLiterals.Text
