import MaskedLiterals.CommandLine.Invocation
import MaskedLiterals.Log
import MaskedLiterals.Numeral
import MaskedLiterals.Session

/-!
# What a command does

A command reads and writes the disk, prints its result, and makes notes: log entries, and notices
for the user.  All notes are kept, whether or not they will be shown, so what a command does cannot
depend on what is shown of it.  A command that fails gives its cause and keeps the disk, the result
and the notes as they were by then.
-/

namespace MaskedLiterals

/-- What is noted beside the result of a command. -/
inductive Note where
  | entry (entry : LogEntry)
  /-- For the user, unless quiet is asked for. -/
  | notice (text : String)
  deriving DecidableEq, Repr, Inhabited

/-- The causes for which a command fails. -/
inductive Failure where
  | file (failure : FileFailure)
  /-- The size of a file cannot be found out. -/
  | noSize (cause : DiskError)
  deriving DecidableEq, Repr, Inhabited

namespace Failure

/-- A failure for refused literals or numerals. -/
def refused (refusal : Refusal) : Failure := .file (.refused refusal)

def message : Failure → String
  | file failure => failure.message
  | noSize cause => cause.message

def hint : Failure → Option String
  | file failure => failure.hint
  | noSize _ => none

def report (failure : Failure) : String :=
  "error: " ++ failure.message ++ "\n"
    ++ match failure.hint with
      | some hint => "hint: " ++ hint ++ "\n"
      | none => ""

end Failure

/-- What a command works on: the disk, the result printed so far, and the notes made so far. -/
structure Scene where
  disk : Disk
  output : String
  notes : List Note

/-- Something done on a scene that may fail. -/
abbrev Action := ExceptT Failure (StateM Scene)

namespace Action

def note (note : Note) : Action Unit :=
  modify fun scene => { scene with notes := scene.notes ++ [note] }

def log (level : LogLevel) (topic : LogTopic) (text : String) : Action Unit :=
  note (.entry ⟨level, topic, text⟩)

def notice (text : String) : Action Unit := note (.notice (text ++ "\n"))

def print (text : String) : Action Unit :=
  modify fun scene => { scene with output := scene.output ++ text }

def printLine (text : String) : Action Unit := print (text ++ "\n")

def disk : Action Disk := do return (← get).disk

def setDisk (disk : Disk) : Action Unit := modify fun scene => { scene with disk }

/-- Goes on with a value, or fails as its making did. -/
def attempt {α : Type} (result : Except FileFailure α) : Action α :=
  match result with
  | .ok value => return value
  | .error failure => throw (.file failure)

/-- Goes on with a value, or fails because it was refused. -/
def accept {α : Type} (result : Except Refusal α) : Action α :=
  match result with
  | .ok value => return value
  | .error refusal => throw (.refused refusal)

end Action

/-! ### What commands have in common -/

namespace Command

open CommandLine (GlobalOptions NumeralText)

def shownKey (key : Key) : String := "0x" ++ NumeralBase.hex.padded 4 key.toNat

def index (numeral : NumeralText) : Action Nat :=
  Action.accept (Numeral.parseIndex numeral.base numeral.text)

def key (numeral : NumeralText) : Action Key :=
  Action.accept (Numeral.parseKey numeral.base numeral.text)

/-- The dialect of the settings with the marker that the options ask for. -/
def dialect (config : Config) (options : GlobalOptions) : Action Dialect :=
  Action.accept (config.withMarker options.marker).dialect

/-- Warns of a file over the limit that is read all the same.  Nobody is warned who wants quiet. -/
def warnOfSize (options : GlobalOptions) (file : String) : Action Unit := do
  if options.force && !options.quiet then
    match (← Action.disk).size file with
    | .error cause => throw (.noSize cause)
    | .ok size =>
      if 0 < options.maxSize ∧ options.maxSize < size then
        Action.notice <| "Warning: Processing large file (" ++ toString size ++ " bytes, limit: "
          ++ toString options.maxSize ++ " bytes)"

def logArray (tokens : List Token) : Action Unit := do
  Action.log .debug .scan ("parsed " ++ toString tokens.length ++ " literal tokens")
  match tokens.head?, tokens.getLast? with
  | some first, some last =>
    Action.log .trace .scan ("first token " ++ first.raw ++ ", last token " ++ last.raw)
  | _, _ => return

def openFile (config : Config) (options : GlobalOptions) (file : String) : Action Session := do
  let dialect ← dialect config options
  warnOfSize options file
  let session ← Action.attempt
    (Session.ofFile (← Action.disk) dialect file options.sizeLimit)
  logArray session.store.tokens
  Action.log .info .session
    ("Loaded " ++ toString session.store.length ++ " literals from " ++ file)
  return session

def decodeRange (session : Session) (start stop : Nat) (key : Key) :
    Action (Except Refusal String) := do
  let stop := min stop session.store.length
  if start < stop then
    Action.log .debug .range
      ("decoding range " ++ toString start ++ ".." ++ toString stop ++ " with key " ++ shownKey key)
  return session.decode start stop key

end Command

end MaskedLiterals
