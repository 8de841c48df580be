import MaskedLiterals.Program

/-!
# The command line

The program on a real disk.  Whatever a run can look at is read first, into a disk as a value;
`Program.run` does the work on it; and the files that it made or changed are written back, in the
order in which it wrote them.
-/

namespace MaskedLiterals

open CommandLine (Command Invocation)

/-- The paths of the files that a command reads or writes, under the given suffix for backups. -/
def CommandLine.Command.paths (suffix : String) : Command → List String
  | .extract file _ | .decode file _ _ _ _ | .inspect file _ _ => [file]
  | .edit file _ _ _ _ _ => [file, Session.backupPath file suffix]
  | .writeListing file output => [file, output]
  | .encode _ _ _ | .config _ => []

namespace Location

/-- The path from the root to a location. -/
def path (location : Location) : String := "/" ++ String.intercalate "/" location

/-- The locations on the way by several names, where the last one comes last. -/
def waypoints (location : Location) : List String → List Location
  | [] => []
  | name :: names =>
    let next := if name = "." then location
      else if name = ".." then location.dropLast
      else location ++ [name]
    next :: waypoints next names

end Location

namespace Program

/-- The number by which the system says that a directory cannot be read as a file. -/
def readsDirectory : UInt32 := 21

/-- What is at a location of the real disk. -/
def probe (location : Location) : IO (Option Entry) := do
  try
    return some (.file (← IO.FS.readBinFile (Location.path location)))
  catch
    | .inappropriateType _ code _ => return if code = readsDirectory then some .directory else none
    | .noFileOrDirectory _ _ _ => return none
    | failure => throw failure

/-- The disk with what the real one has on the way along a path. -/
def readPath (disk : Disk) (path : String) : IO Disk :=
  (Location.waypoints (disk.startOf path) (Path.names path)).foldlM
    (fun (disk : Disk) location => do
      if (disk.find? location).isSome then return disk
      match ← probe location with
      | some entry => return disk.put location entry
      | none => return disk) disk

/-- What a run with these arguments can look at. -/
def readDisk (surroundings : Surroundings) (arguments : List String) : IO Disk := do
  let workDir := Path.names (← IO.currentDir).toString
  let settings ← (Config.paths surroundings.userDirectory).foldlM readPath (Disk.ofWorkDir workDir)
  match Invocation.ofArguments arguments with
  | some (.run _ command) =>
    let (config, _) := Config.load settings surroundings.userDirectory
    (command.paths config.backup.suffix).foldlM readPath settings
  | _ => return settings

/-- Writes the files that a run made or changed.  The latest stands first on a disk. -/
def writeDisk (before after : Disk) : IO Unit :=
  after.entries.reverse.forM fun (location, entry) => do
    match entry with
    | .file content =>
      if before.find? location ≠ some entry then
        IO.FS.writeBinFile (Location.path location) content
    | .directory => return

/-- The user's directory for settings: the one that is set, if it starts from the root, or else the
    usual one in the home directory. -/
def userDirectory (set home : Option String) : Option String :=
  match set.filter Path.isAbsolute with
  | some directory => some directory
  | none => (home.filter (· ≠ "")).map (Path.join · ".config")

def readSurroundings : IO Surroundings := do
  let home ← IO.getEnv "HOME"
  let set ← IO.getEnv "XDG_CONFIG_HOME"
  return { logFilter := ← IO.getEnv "RUST_LOG", userDirectory := userDirectory set home }

end Program

end MaskedLiterals

def main (arguments : List String) : IO UInt32 := do
  let surroundings ← MaskedLiterals.Program.readSurroundings
  let before ← MaskedLiterals.Program.readDisk surroundings arguments
  let outcome := MaskedLiterals.Program.run surroundings arguments before
  MaskedLiterals.Program.writeDisk before outcome.disk
  IO.print outcome.output
  IO.eprint outcome.messages
  return UInt32.ofNat outcome.code
