import MaskedLiterals.Command.Action

/-!
# Commands that write files

`edit` hides a string in a range of a file and saves the file with a backup, or only shows what it
would write.  `writeListing` writes the literals of a file to another one.  Each writes as its last
step, when nothing else can go wrong.
-/

namespace MaskedLiterals.Command

open CommandLine (GlobalOptions NumeralText)

def alignedRight (width : Nat) (text : String) : String :=
  String.ofList (text.toList.leftpad width ' ')

/-- Tells what a range holds before it is written over.  A range that cannot be decoded does not
    matter to the edit. -/
def showCurrent (session : Session) (start stop : Nat) (key : Key) : Action Unit := do
  match ← decodeRange session start stop key with
  | .ok current => Action.notice ("Current: " ++ current)
  | .error refusal =>
    Action.log .warn .edit <| "Could not decode current range " ++ toString start ++ "-"
      ++ toString stop ++ ": " ++ refusal.message

/-- Hides a text in the array of a session, and tells how many of its characters found room. -/
def editSession (session : Session) (start : Nat) (text : String) (key : Key) :
    Action (Session × Nat) := do
  let (edited, written) ← Action.accept (session.edit start text key)
  if start ≤ session.store.length ∧ written < text.length then
    Action.log .debug .range <| "dropped " ++ toString (text.length - written)
      ++ " tokens past the end of the array"
  Action.log .debug .session <| "edit at " ++ toString start ++ ": " ++ toString written ++ " of "
    ++ toString text.length ++ " tokens written"
  if written < text.length then
    Action.log .warn .edit <| "Only " ++ toString written ++ " of " ++ toString text.length
      ++ " characters fit before the end of the array"
  return (edited, written)

def saveSession (session : Session) (suffix : String) : Action SaveReport := do
  let before ← Action.disk
  let spliced ← Action.attempt (session.spliced before)
  Action.log .debug .splice ("rewrote " ++ toString session.store.length ++ " literals")
  let (after, result) := session.commit before spliced suffix
  Action.setDisk after
  let (_, report) ← Action.attempt result
  Action.log .info .session ("Saved " ++ report.path ++ " (backup at " ++ report.backupPath ++ ")")
  return report

/-- The lines of a range of the array, each with its place in front. -/
def shownRange (session : Session) (start count : Nat) : List String :=
  ((session.store.lines.drop start).take count).mapIdx fun i line =>
    alignedRight 6 (toString (start + i)) ++ "  " ++ line

def edit (config : Config) (options : GlobalOptions) (file : String) (start : NumeralText)
    (stop : Option NumeralText) (keyText : NumeralText) (text : String) (dryRun : Bool) :
    Action Unit := do
  let start ← index start
  let stop ← stop.mapM index
  let key ← key keyText
  let session ← openFile config options file
  match stop with
  | some stop => showCurrent session start stop key
  | none => pure ()
  Action.notice ("Preview: " ++ session.preview text key)
  let (edited, written) ← editSession session start text key
  let range := toString start ++ "-" ++ toString (start + written) ++ " with " ++ toString written
    ++ " characters"
  if dryRun then
    Action.printLine ("Dry run: would update range " ++ range)
    Action.print (String.join ((shownRange edited start written).map (· ++ "\n")))
  else
    let report ← saveSession edited config.backup.suffix
    Action.printLine ("Updated range " ++ range ++ " in " ++ report.path)
    Action.notice ("Backup saved to " ++ report.backupPath)

/-- Writes the literals of a file to another file, one a line. -/
def writeListing (config : Config) (options : GlobalOptions) (file output : String) :
    Action Unit := do
  let session ← openFile config options file
  let after ← Action.attempt (session.writeListing (← Action.disk) output)
  Action.setDisk after
  Action.log .info .session
    ("Exported " ++ toString session.store.length ++ " tokens to " ++ output)
  Action.notice <| "Exported " ++ toString session.store.length ++ " tokens to " ++ output

end MaskedLiterals.Command
