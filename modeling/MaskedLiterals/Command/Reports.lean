import MaskedLiterals.Command.Changes
import MaskedLiterals.Config.Shown
import MaskedLiterals.SampleTable

/-!
# Commands that show what there is

`extract` lists the literals of a file, `inspect` shows them under a few keys, and `config` shows
the settings in effect.  None of them changes the disk.
-/

namespace MaskedLiterals.Command

open CommandLine (GlobalOptions NumeralText)

def previewLength : Nat := 10

def spaced (tokens : List Token) : String := String.intercalate " " (tokens.map Token.raw)

def extract (config : Config) (options : GlobalOptions) (file : String) (json : Bool) :
    Action Unit := do
  let session ← openFile config options file
  let tokens := session.store.tokens
  if json then
    Action.printLine <| Json.pretty <| .object [
      ("count", .number tokens.length),
      ("file", .text file),
      ("tokens", .array (tokens.map fun token => .text token.raw))]
  else
    let first := tokens.take previewLength
    let last := tokens.drop (tokens.length - previewLength)
    Action.printLine <| "Found " ++ toString tokens.length ++ " literals in " ++ file
    Action.printLine <| "First " ++ toString first.length ++ ": " ++ spaced first
    Action.printLine <| "Last " ++ toString last.length ++ ": " ++ spaced last

def alignedLeft (width : Nat) (text : String) : String :=
  String.ofList (text.toList.rightpad width ' ')

def rowJson (row : SampleRow) : Json :=
  .object [
    ("index", .number row.index),
    ("raw", .text row.raw),
    ("samples", .array (row.samples.map fun sample => .text sample.toString)),
    ("value", match row.value with
      | some word => .number word.toInt
      | none => .null)]

/-- A line of the sample table, its second column of the given width. -/
def tableLine (width : Nat) (place raw value samples : String) : String :=
  alignedRight 6 place ++ "  " ++ alignedLeft width raw ++ "  " ++ alignedRight 8 value ++ "  "
    ++ samples ++ "\n"

/-- The sample table as text.  The second column is as wide as its longest element has octets, with
    no limit, while a formatter may give up above 65535. -/
def shownTable (keys : List Key) (rows : List SampleRow) : String :=
  let width := rows.foldl (fun width row => max width row.raw.utf8ByteSize) 5
  let heading := tableLine width "index" "token" "value"
    (String.intercalate " | " (keys.map shownKey))
  heading ++ String.join (rows.map fun row =>
    tableLine width (toString row.index) row.raw row.valueLabel
      (if row.value.isSome then row.samplesLabel else "Error"))

def inspect (config : Config) (options : GlobalOptions) (file : String)
    (keyTexts : Option (List NumeralText)) (json : Bool) : Action Unit := do
  let keys ← match keyTexts with
    | some texts => texts.mapM key
    | none => pure config.inspect.candidateKeys
  let session ← openFile config options file
  let rows := sampleTable session.dialect session.store.tokens keys
  if json then
    Action.printLine <| Json.pretty <| .object [
      ("keys", .array (keys.map fun key => .number key.toNat)),
      ("rows", .array (rows.map rowJson))]
  else
    Action.print (shownTable keys rows)

def config (config : Config) (options : GlobalOptions) (json : Bool) : Action Unit := do
  let effective := config.withMarker options.marker
  if json then Action.printLine effective.toJson.pretty
  else Action.print effective.toToml

end MaskedLiterals.Command
