import MaskedLiterals.Dialect

/-!
# Settings

The settings have three sections: how literals are written, what the backup of a file is called, and
which keys the sample table tries.  An *override* has some of the sections.  Merging replaces each
section that the override has, as a whole, and keeps the others.
-/

namespace MaskedLiterals

/-- How literals are recognised and written. -/
structure LiteralSettings where
  marker : Char
  padWidth : Nat
  deriving DecidableEq, Repr, Inhabited

/-- What the backup of a file is called: its path with the suffix behind it. -/
structure BackupSettings where
  suffix : String
  deriving DecidableEq, Repr, Inhabited

/-- The keys that the sample table tries. -/
structure InspectSettings where
  candidateKeys : List Key
  deriving DecidableEq, Repr, Inhabited

structure Config where
  literal : LiteralSettings
  backup : BackupSettings
  inspect : InspectSettings
  deriving DecidableEq, Repr, Inhabited

/-- The sections that a file of settings has. -/
structure Override where
  literal : Option LiteralSettings
  backup : Option BackupSettings
  inspect : Option InspectSettings
  deriving DecidableEq, Repr, Inhabited

namespace Config

def builtIn : Config where
  literal := ⟨'s', Dialect.defaultPadWidth⟩
  backup := ⟨".backup"⟩
  inspect := ⟨[0x174a, 0x5072, 0x0000]⟩

/-- The settings with the sections of an override in place of their own. -/
def merge (config : Config) (override : Override) : Config where
  literal := override.literal.getD config.literal
  backup := override.backup.getD config.backup
  inspect := override.inspect.getD config.inspect

/-- The dialect of the settings, unless their marker is refused. -/
def dialect (config : Config) : Except Refusal Dialect :=
  Dialect.ofMarker config.literal.marker config.literal.padWidth

/-- The settings with another marker, if one is given. -/
def withMarker (config : Config) (marker : Option Char) : Config :=
  { config with literal := { config.literal with marker := marker.getD config.literal.marker } }

/-- The settings with an override, unless that makes their marker one that is refused: then they
    stay as they are, in every section. -/
def adopt (config : Config) (override : Override) : Except Refusal Config := do
  let _ ← (config.merge override).dialect
  .ok (config.merge override)

/-- An override is adopted as a whole, and exactly if the settings have a dialect with it. -/
theorem adopt_eq_ok_iff {config adopted : Config} {override : Override} :
    config.adopt override = .ok adopted
      ↔ (∃ dialect, (config.merge override).dialect = .ok dialect)
        ∧ config.merge override = adopted := by
  unfold adopt
  cases made : (config.merge override).dialect with
  | error refusal =>
    constructor
    · intro h
      cases h
    · rintro ⟨⟨dialect, h⟩, -⟩
      cases h
  | ok dialect =>
    constructor
    · intro h
      cases h
      exact ⟨⟨dialect, rfl⟩, rfl⟩
    · rintro ⟨-, rfl⟩
      rfl

end Config

end MaskedLiterals
