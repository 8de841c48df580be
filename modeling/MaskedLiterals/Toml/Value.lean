/-!
# TOML values and the growing of tables

A document is a table of named values.  It is written in pieces: a header opens a table, a dotted
key adds to one on the way, an inline table is closed for good where it ends.  What may be added to
a table therefore depends on how the table came about, and a document that names one thing twice is
refused.

Numbers with a fraction and points in time are recognised but carry nothing, as no setting has one.
A number that has no value stands in a document like any other, as long as nobody asks for it.
-/

namespace MaskedLiterals

/-- How a table came about. -/
inductive TableOrigin where
  | implied
  | header
  | dotted
  | inline
  deriving DecidableEq, Repr

inductive Toml where
  | string (text : String)
  | integer (value : Int)
  | float
  /-- A number that is out of range or lacks digits. -/
  | invalidNumber
  | boolean (value : Bool)
  | dateTime
  | array (elements : List Toml)
  | table (origin : TableOrigin) (entries : List (String × Toml))
  /-- The tables that headers in double brackets opened under one name. -/
  | tableArray (tables : List (List (String × Toml)))

namespace Toml

/-- The names of a table with their values, in the order they came. -/
abbrev Entries := List (String × Toml)

def get? (entries : Entries) (name : String) : Option Toml :=
  (entries.find? (·.1 = name)).map Prod.snd

/-- The entries with another value under a name; a new name comes last. -/
def set (entries : Entries) (name : String) (value : Toml) : Entries :=
  match entries with
  | [] => [(name, value)]
  | (other, old) :: entries =>
    if other = name then (name, value) :: entries else (other, old) :: set entries name value

/-- Changes the table that a header path leads to.  Tables missing on the way are made; of several
    tables under one name the last is meant. -/
def within (change : Entries → Option Entries) : List String → Entries → Option Entries
  | [], entries => change entries
  | name :: path, entries =>
    match get? entries name with
    | none => (within change path []).map fun inner => set entries name (.table .implied inner)
    | some (.table .inline _) => none
    | some (.table origin inner) =>
      (within change path inner).map fun inner => set entries name (.table origin inner)
    | some (.tableArray tables) =>
      match tables.getLast? with
      | some last =>
        (within change path last).map fun last =>
          set entries name (.tableArray (tables.dropLast ++ [last]))
      | none => none
    | some _ => none

/-- Splits a path into the way and the last name. -/
def splitPath (path : List String) : Option (List String × String) :=
  path.getLast?.map fun name => (path.dropLast, name)

/-- Opens the table of a header.  Only a table that was merely on the way may already be there. -/
def openTable (path : List String) (root : Entries) : Option Entries := do
  let (way, name) ← splitPath path
  within (fun entries =>
    match get? entries name with
    | none => some (set entries name (.table .header []))
    | some (.table .implied inner) => some (set entries name (.table .header inner))
    | some _ => none) way root

def openElement (path : List String) (root : Entries) : Option Entries := do
  let (way, name) ← splitPath path
  within (fun entries =>
    match get? entries name with
    | none => some (set entries name (.tableArray [[]]))
    | some (.tableArray tables) => some (set entries name (.tableArray (tables ++ [[]])))
    | some _ => none) way root

/-- Adds a value under a dotted key.  The key may pass through tables that were on the way of a
    header, and through the last of several tables under one name, but it may add only to those
    that dotted keys made, or to the table it stands in. -/
def insertDotted (value : Toml) : List String → Entries → Option Entries
  | [], _ => none
  | [name], entries =>
    if (get? entries name).isSome then none else some (set entries name value)
  | name :: path, entries =>
    match get? entries name with
    | none => (insertDotted value path []).map fun inner => set entries name (.table .dotted inner)
    | some (.table .dotted inner) =>
      (insertDotted value path inner).map fun inner => set entries name (.table .dotted inner)
    | some (.table .implied inner) =>
      if path.length = 1 then none
      else (insertDotted value path inner).map fun inner => set entries name (.table .implied inner)
    | some (.tableArray tables) =>
      match tables.getLast? with
      | some last =>
        if path.length = 1 then none
        else (insertDotted value path last).map fun last =>
          set entries name (.tableArray (tables.dropLast ++ [last]))
      | none => none
    | some _ => none

/-! ### Values that can be asked for -/

mutual

/-- Whether a value has no number in it that has no value. -/
def isValid : Toml → Bool
  | .invalidNumber => false
  | .array elements => areValid elements
  | .table _ entries => entriesValid entries
  | .tableArray tables => tablesValid tables
  | _ => true

def areValid : List Toml → Bool
  | [] => true
  | value :: values => isValid value && areValid values

def entriesValid : List (String × Toml) → Bool
  | [] => true
  | (_, value) :: entries => isValid value && entriesValid entries

def tablesValid : List (List (String × Toml)) → Bool
  | [] => true
  | entries :: tables => entriesValid entries && tablesValid tables

end

end Toml

end MaskedLiterals
