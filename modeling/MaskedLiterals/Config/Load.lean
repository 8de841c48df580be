import MaskedLiterals.Config.File
import MaskedLiterals.Disk
import MaskedLiterals.Log
import MaskedLiterals.Text.Quoted

/-!
# The settings in effect

The built-in settings are changed by the files of settings that there are, one after the other.  A
file that cannot be read, is no file of settings, or asks for a marker that is refused changes
nothing, and the log says so.  So the settings have a dialect after every file.
-/

namespace MaskedLiterals.Config

/-- What is said of a text that is no file of settings: only the line that begins the account of the
    fault.  Where the fault is and what was expected there, which a reader of TOML would go on to say,
    is left out, so this stands for many texts. -/
def unreadable : String := "TOML parse error\n"

/-- The settings after a file of settings, with what the log says about it. -/
def adoptFile (config : Config) (disk : Disk) (path : String) : Config × List LogEntry :=
  let failed := fun cause => (config, [⟨.warn, .settings,
    "Failed to load config from " ++ Text.quoted path ++ ": " ++ cause⟩])
  if !disk.hasPath path then (config, [])
  else match disk.readText path with
    | .error cause => failed ("I/O error: " ++ cause.message)
    | .ok text =>
      match Override.ofText? text with
      | none => failed ("invalid configuration: " ++ unreadable)
      | some override =>
        match config.adopt override with
        | .error refusal =>
          (config, [⟨.warn, .settings,
            "Ignoring config " ++ Text.quoted path ++ ": " ++ refusal.message⟩])
        | .ok adopted =>
          (adopted, [⟨.debug, .settings, "Loaded config overrides from " ++ Text.quoted path⟩])

/-- The settings after several files, the last of which decides. -/
def adoptFiles (config : Config) (disk : Disk) : List String → Config × List LogEntry
  | [] => (config, [])
  | path :: paths =>
    let (adopted, entries) := config.adoptFile disk path
    let (final, more) := adopted.adoptFiles disk paths
    (final, entries ++ more)

/-- Where files of settings are looked for: in the user's directory for settings, if there is one,
    and then in the working directory. -/
def paths (userDirectory : Option String) : List String :=
  (match userDirectory with
    | some directory => [Path.join (Path.join directory "smali-xor") "config.toml"]
    | none => [])
  ++ ["smali-xor.toml"]

/-- The settings in effect, with what the log says about how they came about. -/
def load (disk : Disk) (userDirectory : Option String) : Config × List LogEntry :=
  builtIn.adoptFiles disk (paths userDirectory)

end MaskedLiterals.Config
