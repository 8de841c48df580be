/-!
# Files and directories

A disk is a tree of directories and files together with the directory that relative paths start
from.  It is kept as a table from *locations*, the names on the way down from the root, to what is
there; the root itself is always a directory.

There are only directories and files.  A disk has no symbolic links, and no two locations share a
file; it has no devices or pipes, no permissions, and no end of its space.  So a path that is
written leads to one location, a file changes by nothing but a write to its own location, and
nothing is refused for want of a right or of room.

A path is walked name by name, and each name is looked up in what must be a directory at that
moment: `.` stays, `..` goes up, and at the root it stays.  A path that ends in a slash names a
directory.  Reading needs a file at the end of the walk.  Writing makes the file if there is none
yet; it never makes a directory, and `find?_write` says that it touches nothing but its target.
-/

namespace MaskedLiterals

/-- A place on the disk: the names on the way to it from the root. -/
abbrev Location := List String

inductive Entry where
  | directory
  | file (content : ByteArray)

/-- Files are the same if they have the same octets. -/
instance : DecidableEq Entry
  | .directory, .directory => isTrue rfl
  | .directory, .file _ => isFalse nofun
  | .file _, .directory => isFalse nofun
  | .file ⟨octets⟩, .file ⟨others⟩ =>
    if same : octets = others then isTrue (same ▸ rfl)
    else isFalse fun h => Entry.noConfusion h fun h => ByteArray.noConfusion h same

/-- The causes for which a path cannot be read or written. -/
inductive DiskError where
  | notFound
  | notADirectory
  | isADirectory
  /-- The file is there, but its octets are no UTF-8 text. -/
  | notText
  /-- The path contains NUL, so it names nothing. -/
  | nulInPath
  /-- The path, or a name in it, takes more octets than any may. -/
  | nameTooLong
  deriving DecidableEq, Repr, Inhabited

def DiskError.message : DiskError → String
  | notFound => "No such file or directory (os error 2)"
  | notADirectory => "Not a directory (os error 20)"
  | isADirectory => "Is a directory (os error 21)"
  | notText => "stream did not contain valid UTF-8"
  | nulInPath => "file name contained an unexpected NUL byte"
  | nameTooLong => "File name too long (os error 36)"

/-- A directory tree without links and the directory that relative paths start from. -/
structure Disk where
  entries : List (Location × Entry)
  workDir : Location

/-! ### Paths -/

namespace Path

/-- The names in a path, without the empty ones that repeated slashes make. -/
def names (path : String) : List String :=
  ((path.toList.splitOn '/').filter (· ≠ [])).map String.ofList

def isAbsolute (path : String) : Bool := path.toList.head? = some '/'

/-- Whether the path ends in a slash, so that it can only name a directory. -/
def namesDirectory (path : String) : Bool := path.toList.getLast? = some '/'

/-- How many octets a path takes at the most. -/
def greatestSize : Nat := 4095

/-- How many octets a name takes at the most. -/
def greatestNameSize : Nat := 255

/-- The path that leads from the directory `base` on by `path`. -/
def join (base path : String) : String :=
  if isAbsolute path || base = "" then path
  else if namesDirectory base then base ++ path
  else base ++ "/" ++ path

end Path

namespace Disk

/-! ### Walking a path -/

def find? (disk : Disk) (location : Location) : Option Entry :=
  if location = [] then some .directory
  else (disk.entries.find? (·.1 = location)).map Prod.snd

def startOf (disk : Disk) (path : String) : Location :=
  if Path.isAbsolute path then [] else disk.workDir

def step (disk : Disk) (location : Location) (name : String) : Except DiskError Location :=
  match disk.find? location with
  | some .directory =>
    if name = "." then .ok location
    else if name = ".." then .ok location.dropLast
    else if Path.greatestNameSize < name.utf8ByteSize then .error .nameTooLong
    else .ok (location ++ [name])
  | some (.file _) => .error .notADirectory
  | none => .error .notFound

/-- Goes on by several names; there need be nothing at the last one. -/
def walk (disk : Disk) (location : Location) : List String → Except DiskError Location
  | [] => .ok location
  | name :: names => do
    let next ← disk.step location name
    disk.walk next names

/-- Refuses the paths that name nothing on any disk. -/
def checkPath (path : String) : Except DiskError Unit :=
  if path = "" then .error .notFound
  else if path.toList.contains '\x00' then .error .nulInPath
  else if Path.greatestSize < path.utf8ByteSize then .error .nameTooLong
  else .ok ()

def locate (disk : Disk) (path : String) : Except DiskError Location := do
  checkPath path
  disk.walk (disk.startOf path)
    (Path.names path ++ if Path.namesDirectory path then ["."] else [])

def lookup (disk : Disk) (path : String) : Except DiskError Entry := do
  match disk.find? (← disk.locate path) with
  | some entry => .ok entry
  | none => .error .notFound

/-! ### Reading -/

def hasPath (disk : Disk) (path : String) : Bool := (disk.lookup path).isOk

def readBytes (disk : Disk) (path : String) : Except DiskError ByteArray := do
  match ← disk.lookup path with
  | .file content => .ok content
  | .directory => .error .isADirectory

def readText (disk : Disk) (path : String) : Except DiskError String := do
  match String.fromUTF8? (← disk.readBytes path) with
  | some text => .ok text
  | none => .error .notText

/-- The size of a directory in octets, as the system reports it. -/
def directorySize : Nat := 4096

def size (disk : Disk) (path : String) : Except DiskError Nat := do
  match ← disk.lookup path with
  | .file content => .ok content.size
  | .directory => .ok directorySize

/-! ### Writing -/

/-- The location of the file that writing to a path makes or replaces. -/
def target (disk : Disk) (path : String) : Except DiskError Location := do
  checkPath path
  match (Path.names path).getLast? with
  | none => .error .isADirectory
  | some name =>
    let parent ← disk.walk (disk.startOf path) (Path.names path).dropLast
    match disk.find? parent with
    | none => .error .notFound
    | some (.file _) => .error .notADirectory
    | some .directory =>
      if name = "." ∨ name = ".." ∨ Path.namesDirectory path
          ∨ disk.find? (parent ++ [name]) = some .directory then
        .error .isADirectory
      else if Path.greatestNameSize < name.utf8ByteSize then .error .nameTooLong
      else .ok (parent ++ [name])

def put (disk : Disk) (location : Location) (entry : Entry) : Disk :=
  { disk with entries := (location, entry) :: disk.entries.filter (·.1 ≠ location) }

def erase (disk : Disk) (location : Location) : Disk :=
  { disk with entries := disk.entries.filter (·.1 ≠ location) }

def writeBytes (disk : Disk) (path : String) (content : ByteArray) : Except DiskError Disk :=
  (disk.target path).map fun location => disk.put location (.file content)

def writeText (disk : Disk) (path text : String) : Except DiskError Disk :=
  disk.writeBytes path text.toUTF8

/-- The disk without the file at a path; directories are not removed. -/
def remove (disk : Disk) (path : String) : Except DiskError Disk := do
  let location ← disk.locate path
  match disk.find? location with
  | none => .error .notFound
  | some .directory => .error .isADirectory
  | some (.file _) => .ok (disk.erase location)

/-! ### Whole trees -/

/-- The disk with a directory at each step of the way to a location. -/
def makeDirectories (disk : Disk) (location : Location) : Disk :=
  ((List.range (location.length + 1)).map location.take).foldl
    (fun disk place => if (disk.find? place).isSome then disk else disk.put place .directory) disk

/-- Goes from a directory on by several names and makes each directory on the way that is not
    there. -/
def makeWay (disk : Disk) (location : Location) : List String → Disk
  | [] => disk
  | name :: names =>
    let next := if name = "." then location
      else if name = ".." then location.dropLast
      else location ++ [name]
    (disk.makeDirectories next).makeWay next names

/-- The disk with a file at a path, and with the directories on the way to it.  A path that ends in
    a slash makes directories alone. -/
def seed (disk : Disk) (path : String) (content : ByteArray) : Disk :=
  let names := Path.names path
  if Path.namesDirectory path then disk.makeWay (disk.startOf path) names
  else
    let way := disk.makeWay (disk.startOf path) names.dropLast
    match way.writeBytes path content with
    | .ok written => written
    | .error _ => way

def ofWorkDir (workDir : Location) : Disk := makeDirectories ⟨[], workDir⟩ workDir

/-- The files below the working directory, by their paths from there. -/
def files (disk : Disk) : List (String × ByteArray) :=
  disk.entries.filterMap fun (location, entry) =>
    match entry with
    | .file content =>
      if disk.workDir.isPrefixOf location then
        some (String.intercalate "/" (location.drop disk.workDir.length), content)
      else none
    | .directory => none

/-! ### What a write changes -/

theorem find?_put {disk : Disk} {location : Location} {entry : Entry} (h : location ≠ [])
    (place : Location) :
    (disk.put location entry).find? place
      = if place = location then some entry else disk.find? place := by
  by_cases same : place = location
  · subst same
    simp [Disk.find?, put, h]
  · have kept : ((location, entry) :: disk.entries.filter (·.1 ≠ location)).find? (·.1 = place)
        = disk.entries.find? (·.1 = place) := by
      rw [List.find?_cons_of_neg (by simpa using fun e => same e.symm), List.find?_filter]
      congr 1
      funext item
      by_cases at_place : item.1 = place <;> simp [at_place, same]
    simp only [Disk.find?, put, kept, same, if_false]

/-- A file that was written never was a directory, and is not the root. -/
theorem target_spec {disk : Disk} {path : String} {location : Location}
    (h : disk.target path = .ok location) :
    location ≠ [] ∧ disk.find? location ≠ some .directory := by
  unfold target at h
  cases checked : checkPath path with
  | error cause => rw [checked] at h; cases h
  | ok _ =>
    rw [checked] at h
    simp only [bind, Except.bind] at h
    split at h
    · cases h
    · split at h
      · cases h
      · split at h
        · cases h
        · cases h
        · split at h
          · cases h
          · next free =>
            simp only [not_or] at free
            split at h
            · cases h
            · cases h
              exact ⟨by simp, free.2.2.2⟩

/-- Writing changes the entry at its target and no other. -/
theorem find?_write {disk after : Disk} {path : String} {content : ByteArray}
    (h : disk.writeBytes path content = .ok after) :
    ∃ location, disk.target path = .ok location ∧ ∀ place,
      after.find? place = if place = location then some (.file content) else disk.find? place := by
  unfold writeBytes at h
  cases found : disk.target path with
  | error cause => rw [found] at h; cases h
  | ok location =>
    rw [found] at h
    cases h
    exact ⟨location, rfl, fun place => find?_put (target_spec found).1 place⟩

end Disk

end MaskedLiterals
