import MaskedLiterals.Command.Changes
import MaskedLiterals.Command.Reports
import MaskedLiterals.Command.Strings
import MaskedLiterals.Config.Load
import MaskedLiterals.Log.Filter

/-!
# The program

`run` is the whole program as a function: from the arguments, what the surroundings say, and the
disk to an exit code, the text on both outputs, and the disk afterwards.  What is shown of the notes
is decided here and only here.
-/

namespace MaskedLiterals

open CommandLine (GlobalOptions Invocation)

structure Surroundings where
  /-- The filter for the log, if the user set one. -/
  logFilter : Option String
  /-- The user's directory for settings, if there is one. -/
  userDirectory : Option String
  deriving DecidableEq, Repr, Inhabited

structure Outcome where
  code : Nat
  output : String
  messages : String
  disk : Disk

namespace Program

def versionLine : String := "smali-xor 0.3.2\n"

/-- How to use the program, in outline.  The same text is shown whatever command help is asked for,
    and it is no model of a full account: help for a single command with its options is left out. -/
def usage : String :=
  "Decode and edit XOR-masked strings in smali array-data\n\n"
    ++ "Usage: smali-xor [OPTIONS] <COMMAND>\n\n"
    ++ "Commands:\n"
    ++ "  extract  List the literals found in a file\n"
    ++ "  decode   Decode a range of literals with an XOR key\n"
    ++ "  encode   Mask a string into literal tokens\n"
    ++ "  edit     Overwrite a range with a masked string and save (with backup)\n"
    ++ "  inspect  Show every literal with its value and candidate-key samples\n"
    ++ "  export   Write the literals to a plain file, one per line\n"
    ++ "  config   Show the effective configuration\n"
    ++ "  help     Print this message\n\n"
    ++ "Options:\n"
    ++ "  -q, --quiet            Suppress informational notices\n"
    ++ "  -m, --marker <MARKER>  Literal marker character (overrides config, default 's')\n"
    ++ "      --max-size <SIZE>  Maximum input size in bytes (0 = unlimited)\n"
    ++ "      --force            Process files exceeding --max-size limit\n"
    ++ "  -h, --help             Print help\n"
    ++ "  -V, --version          Print version\n"

def action (config : Config) (options : GlobalOptions) : CommandLine.Command → Action Unit
  | .extract file json => Command.extract config options file json
  | .decode file start stop key verbose =>
    Command.decode config options file start stop key verbose
  | .encode text key preview => Command.encode config options text key preview
  | .edit file start stop key text dryRun =>
    Command.edit config options file start stop key text dryRun
  | .inspect file keys json => Command.inspect config options file keys json
  | .writeListing file output => Command.writeListing config options file output
  | .config json => Command.config config options json

/-- The filter for the log and the complaints about it: the user's, or one for warnings, or for
    errors alone if quiet is asked for. -/
def logFilter (surroundings : Surroundings) (options : GlobalOptions) : LogFilter × List String :=
  match surroundings.logFilter with
  | some text => LogFilter.ofText text
  | none => (LogFilter.upTo (if options.quiet then .error else .warn), [])

/-- A note as it is shown, if it is. -/
def shownNote (filter : LogFilter) (quiet : Bool) : Note → String
  | .entry entry => if filter.admits entry then entry.shown else ""
  | .notice text => if quiet then "" else text

def runCommand (surroundings : Surroundings) (options : GlobalOptions)
    (command : CommandLine.Command) (disk : Disk) : Except Failure Unit × Scene :=
  let (config, entries) := Config.load disk surroundings.userDirectory
  ((action config options command).run).run ⟨disk, "", entries.map .entry⟩

def run (surroundings : Surroundings) (arguments : List String) (disk : Disk) : Outcome :=
  match Invocation.ofArguments arguments with
  | none => ⟨2, "", "error: invalid arguments\n\nFor more information, try '--help'.\n", disk⟩
  | some .help => ⟨0, usage, "", disk⟩
  | some .version => ⟨0, versionLine, "", disk⟩
  | some (.run options command) =>
    let (filter, complaints) := logFilter surroundings options
    let (result, scene) := runCommand surroundings options command disk
    let shown := String.join complaints
      ++ String.join (scene.notes.map (shownNote filter options.quiet))
    match result with
    | .ok () => ⟨0, scene.output, shown, scene.disk⟩
    | .error failure => ⟨1, scene.output, shown ++ failure.report, scene.disk⟩

end Program

end MaskedLiterals
