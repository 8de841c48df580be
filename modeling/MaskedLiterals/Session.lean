import MaskedLiterals.ArrayStore
import MaskedLiterals.FileFailure
import MaskedLiterals.Splice

/-!
# Work on one file

A session holds one text, the array that was read from it, and the path of the file it came from, if
it came from one.  Edits change the array alone.  Saving reads the file again and splices the array
into what is there now, so other changes to the file survive as long as the number of literals is
the same; the text before goes to a second file, the *backup*, which is written first.

Every operation gives a new session or says why there is none.  A caller for whom it fails goes on
with the session it had.
-/

namespace MaskedLiterals

structure Session where
  path : Option String
  source : String
  store : ArrayStore
  dialect : Dialect
  deriving DecidableEq, Repr, Inhabited

structure SaveReport where
  path : String
  backupPath : String
  literals : Nat
  deriving DecidableEq, Repr, Inhabited

namespace Session

/-! ### Loading -/

def ofText (dialect : Dialect) (source : String) : Except Refusal Session :=
  (ArrayStore.ofText dialect source).map fun store => { path := none, source, store, dialect }

def readSource (disk : Disk) (path : String) : Except FileFailure String :=
  (disk.readText path).mapError (.disk path)

/-- Refuses a file of more octets than the limit; a limit of zero allows any size. -/
def checkSize (disk : Disk) (path : String) (limit : Nat) : Except FileFailure Unit :=
  if limit = 0 then .ok ()
  else match disk.size path with
    | .error cause => .error (.disk path cause)
    | .ok size => if limit < size then .error (.tooLarge path size limit) else .ok ()

/-- A session on the file at a path, which may have as many octets as the limit allows. -/
def ofFile (disk : Disk) (dialect : Dialect) (path : String) (limit : Nat) :
    Except FileFailure Session := do
  checkSize disk path limit
  let source ← readSource disk path
  let session ← (ofText dialect source).mapError .refused
  .ok { session with path := some path }

def backingFile (session : Session) : Except FileFailure String :=
  match session.path with
  | some path => .ok path
  | none => .error .noBackingFile

/-- The session on what its file holds now; edits that were not saved are gone. -/
def reload (session : Session) (disk : Disk) : Except FileFailure Session := do
  let path ← session.backingFile
  let source ← readSource disk path
  let tokens ← (session.dialect.parse source).mapError .refused
  .ok { session with source, store := session.store.load tokens }

/-! ### Looking and editing -/

def decode (session : Session) (start stop : Nat) (key : Key) : Except Refusal String :=
  session.store.decode session.dialect start stop key

def encode (session : Session) (text : String) (key : Key) : List Token :=
  ArrayRange.encode session.dialect text key

def preview (session : Session) (text : String) (key : Key) : String :=
  ArrayRange.preview session.dialect text key

/-- The session with a text hidden in its array from `start` on, and how many of its characters
    there was room for. -/
def edit (session : Session) (start : Nat) (text : String) (key : Key) :
    Except Refusal (Session × Nat) :=
  if text = "" then .error .emptyEdit
  else
    let new := session.encode text key
    .ok ({ session with store := session.store.overwrite start new }, session.store.room start new)

/-! ### Saving -/

/-- The path of the backup: the suffix behind the path, whatever either ends or begins with. -/
def backupPath (path suffix : String) : String := path ++ suffix

def spliced (session : Session) (disk : Disk) : Except FileFailure Spliced := do
  let path ← session.backingFile
  let source ← readSource disk path
  (session.dialect.splice source session.store.tokens).mapError .refused

/-- Writes the backup and then the file.  The disk is given also when the second write fails. -/
def commit (session : Session) (disk : Disk) (spliced : Spliced) (suffix : String) :
    Disk × Except FileFailure (Session × SaveReport) :=
  match session.backingFile with
  | .error failure => (disk, .error failure)
  | .ok path =>
    match disk.writeText (backupPath path suffix) spliced.backupText with
    | .error cause => (disk, .error (.disk (backupPath path suffix) cause))
    | .ok backed =>
      match backed.writeText path spliced.newText with
      | .error cause => (backed, .error (.disk path cause))
      | .ok saved =>
        (saved, .ok ({ session with source := spliced.newText },
          { path, backupPath := backupPath path suffix, literals := session.store.length }))

/-- Puts the array back into the file, with a backup of what was there. -/
def save (session : Session) (disk : Disk) (suffix : String) :
    Disk × Except FileFailure (Session × SaveReport) :=
  match session.spliced disk with
  | .error failure => (disk, .error failure)
  | .ok spliced => session.commit disk spliced suffix

def writeListing (session : Session) (disk : Disk) (path : String) : Except FileFailure Disk :=
  (disk.writeText path session.store.listing).mapError (.disk path)

end Session

end MaskedLiterals
