import MaskedLiterals.Config
import MaskedLiterals.Toml.Document

/-!
# Files of settings

A file of settings is a TOML document with a table for each section it has.  Names that mean nothing
here are passed over.  A section may also be an array that lists its fields in their order.  A field
of the wrong kind, or a missing one, spoils the whole file; only the width may be left out.  So does
a number without a value, wherever it stands, as long as it is looked at: of a section that is an
array nothing is looked at behind the fields.
-/

namespace MaskedLiterals.Override

/-- How the fields of a section are looked up: by their names in a table, by their places in an
    array.  Other values have no fields. -/
def fields? : Toml → Option (String → Nat → Option Toml)
  | .table _ entries => some fun name _ => Toml.get? entries name
  | .array elements => some fun _ place => elements[place]?
  | .tableArray tables => some fun _ place => tables[place]?.map (.table .header)
  | _ => none

def character? : Toml → Option Char
  | .string text =>
    match text.toList with
    | [c] => some c
    | _ => none
  | _ => none

/-- A whole number from zero to below a size. -/
def unsigned? (size : Nat) : Toml → Option Nat
  | .integer value => if 0 ≤ value ∧ value < size then some value.toNat else none
  | _ => none

def text? : Toml → Option String
  | .string text => some text
  | _ => none

def keys? : Toml → Option (List Key)
  | .array elements => (elements.mapM (unsigned? UInt32.size)).map fun keys => keys.map UInt32.ofNat
  | _ => none

def literal? (value : Toml) : Option LiteralSettings := do
  let field? ← fields? value
  let marker ← character? (← field? "marker" 0)
  match field? "pad_width" 1 with
  | none => some { marker, padWidth := Dialect.defaultPadWidth }
  | some width => some { marker, padWidth := ← unsigned? UInt64.size width }

def backup? (value : Toml) : Option BackupSettings := do
  let field? ← fields? value
  some { suffix := ← text? (← field? "suffix" 0) }

def inspect? (value : Toml) : Option InspectSettings := do
  let field? ← fields? value
  some { candidateKeys := ← keys? (← field? "candidate_keys" 0) }

/-- A section that may be missing, but must be right where it is there. -/
def section? {α : Type} (read : Toml → Option α) (entries : Toml.Entries) (name : String) :
    Option (Option α) :=
  match Toml.get? entries name with
  | none => some none
  | some value => (read value).map some

/-- How many fields a section has. -/
def fieldCount? : String → Option Nat
  | "literal" => some 2
  | "backup" => some 1
  | "inspect" => some 1
  | _ => none

/-- Whether all numbers of an entry that are looked at have values. -/
def isValid : String × Toml → Bool
  | (name, .array elements) =>
    match fieldCount? name with
    | some count => Toml.areValid (elements.take count)
    | none => Toml.areValid elements
  | (_, value) => value.isValid

/-- The sections of a file of settings. -/
def ofText? (text : String) : Option Override := do
  let entries ← Toml.ofText? text
  guard (entries.all isValid)
  let literal ← section? literal? entries "literal"
  let backup ← section? backup? entries "backup"
  let inspect ← section? inspect? entries "inspect"
  some { literal, backup, inspect }

end MaskedLiterals.Override
