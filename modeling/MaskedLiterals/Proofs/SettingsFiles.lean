import MaskedLiterals.Config.Load
import MaskedLiterals.Proofs.DiskWrite

/-!
# Settings that come from files

Each section of the settings is decided by one file, the last that has the section and counts; the
others do not matter, and where no file decides, the section is the built-in one
(`Config.adopted_sections`).

A file counts if it holds an override whose own marker, if it has one, can end a literal.  A file is
judged by what its sections make of the settings before it, so it takes an invariant to see that
this is a matter of the file alone: the settings have a dialect all the time (`Config.HasMarker`),
and an override without a section on literals keeps it.
-/

namespace MaskedLiterals

structure SettingsFile where
  disk : Disk
  path : String

/-- An override that asks for no marker that is refused. -/
def Override.IsAdmissible (override : Override) : Prop :=
  ∀ literal ∈ override.literal, IsMarker literal.marker

namespace SettingsFile

variable {file : SettingsFile} {override other : Override}

/-- The file is there, and its text is this override. -/
def Holds (file : SettingsFile) (override : Override) : Prop :=
  ∃ text, file.disk.readText file.path = .ok text ∧ Override.ofText? text = some override

/-- The file holds this override, and its marker is not refused. -/
def Counts (file : SettingsFile) (override : Override) : Prop :=
  file.Holds override ∧ override.IsAdmissible

theorem Holds.unique (h : file.Holds override) (hother : file.Holds other) : override = other := by
  obtain ⟨text, hread, hof⟩ := h
  obtain ⟨same, hsame, hofSame⟩ := hother
  rw [hread, Except.ok.injEq] at hsame
  subst hsame
  exact Option.some.inj (hof.symm.trans hofSame)

end SettingsFile

namespace Config

variable {config : Config} {file : SettingsFile} {override : Override}

def behind (config : Config) (file : SettingsFile) : Config :=
  (config.adoptFile file.disk file.path).1

def behindAll (config : Config) (files : List SettingsFile) : Config := files.foldl behind config

def HasMarker (config : Config) : Prop := IsMarker config.literal.marker

theorem exists_dialect_iff : (∃ dialect, config.dialect = .ok dialect) ↔ config.HasMarker := by
  constructor
  · rintro ⟨dialect, h⟩
    exact (Dialect.ofMarker_eq_ok_iff.1 h).1
  · intro h
    exact ⟨⟨config.literal.marker, config.literal.padWidth, h⟩,
      Dialect.ofMarker_eq_ok_iff.2 ⟨h, rfl, rfl⟩⟩

/-! ### One override -/

/-- Whether an override spoils the marker is a matter of the override. -/
theorem hasMarker_merge_iff (h : config.HasMarker) :
    (config.merge override).HasMarker ↔ override.IsAdmissible := by
  unfold HasMarker merge Override.IsAdmissible
  cases override.literal with
  | none => simpa using show IsMarker config.literal.marker from h
  | some literal => simp

theorem adopt_eq_ok (h : (config.merge override).HasMarker) :
    config.adopt override = .ok (config.merge override) :=
  adopt_eq_ok_iff.2 ⟨exists_dialect_iff.2 h, rfl⟩

theorem adopt_eq_error (h : ¬ (config.merge override).HasMarker) :
    ∃ refusal, config.adopt override = .error refusal := by
  cases hadopt : config.adopt override with
  | error refusal => exact ⟨refusal, rfl⟩
  | ok adopted => exact absurd (exists_dialect_iff.1 (adopt_eq_ok_iff.1 hadopt).1) h

/-! ### One file -/

theorem behind_of_counts (h : config.HasMarker) (hcounts : file.Counts override) :
    config.behind file = config.merge override := by
  obtain ⟨⟨text, hread, hof⟩, hadmissible⟩ := hcounts
  rw [behind, adoptFile, Disk.hasPath_of_readText hread, hread]
  dsimp only
  rw [hof]
  dsimp only
  rw [adopt_eq_ok ((hasMarker_merge_iff h).2 hadmissible)]
  rfl

theorem behind_of_not_counts (h : config.HasMarker) (hnone : ∀ override, ¬ file.Counts override) :
    config.behind file = config := by
  unfold behind adoptFile
  dsimp only
  split
  · rfl
  · split
    · rfl
    · next text hread =>
      cases hof : Override.ofText? text with
      | none => rfl
      | some override =>
        have hrefused : ¬ (config.merge override).HasMarker := fun hmarker =>
          hnone override ⟨⟨text, hread, hof⟩, (hasMarker_merge_iff h).1 hmarker⟩
        obtain ⟨refusal, hadopt⟩ := adopt_eq_error hrefused
        dsimp only
        rw [hadopt]

theorem hasMarker_behind (h : config.HasMarker) (file : SettingsFile) :
    (config.behind file).HasMarker := by
  by_cases hcounts : ∃ override, file.Counts override
  · obtain ⟨override, hcounts⟩ := hcounts
    rw [behind_of_counts h hcounts]
    exact (hasMarker_merge_iff h).2 hcounts.2
  · rw [behind_of_not_counts h (not_exists.1 hcounts)]
    exact h

/-! ### All files -/

theorem hasMarker_builtIn : builtIn.HasMarker := by unfold HasMarker; decide

theorem behindAll_append (config : Config) (files more : List SettingsFile) :
    config.behindAll (files ++ more) = (config.behindAll files).behindAll more :=
  List.foldl_append

theorem behindAll_concat (config : Config) (files : List SettingsFile) (file : SettingsFile) :
    config.behindAll (files ++ [file]) = (config.behindAll files).behind file :=
  behindAll_append config files [file]

theorem hasMarker_behindAll (h : config.HasMarker) (files : List SettingsFile) :
    (config.behindAll files).HasMarker := by
  induction files generalizing config with
  | nil => exact h
  | cons file files ih => exact ih (hasMarker_behind h file)

/-- Files on one disk are taken as they are taken there together. -/
theorem adoptFiles_fst (config : Config) (disk : Disk) (paths : List String) :
    (config.adoptFiles disk paths).1 = config.behindAll (paths.map (⟨disk, ·⟩)) := by
  induction paths generalizing config with
  | nil => rfl
  | cons path paths ih => exact ih (config.adoptFile disk path).1

/-! ### Sections -/

/-- A section: where it is in the settings and in an override, and that merging takes it from the
    override if it is there. -/
structure Section (α : Type) where
  inConfig : Config → α
  inOverride : Override → Option α
  inConfig_merge : ∀ config override,
    inConfig (config.merge override) = (inOverride override).getD (inConfig config)

namespace Section

def literal : Section LiteralSettings := ⟨Config.literal, Override.literal, fun _ _ => rfl⟩

def backup : Section BackupSettings := ⟨Config.backup, Override.backup, fun _ _ => rfl⟩

def inspect : Section InspectSettings := ⟨Config.inspect, Override.inspect, fun _ _ => rfl⟩

variable {α : Type} {part : Section α} {files more : List SettingsFile} {value : α}

def IsMissingIn (part : Section α) (files : List SettingsFile) : Prop :=
  ∀ file ∈ files, ∀ override, file.Counts override → part.inOverride override = none

/-- The section has this value by the last file that counts and has the section, or it is the
    built-in one. -/
def IsDecidedAs (part : Section α) (files : List SettingsFile) (value : α) : Prop :=
  (∃ front file back override, files = front ++ file :: back
    ∧ file.Counts override ∧ part.inOverride override = some value ∧ part.IsMissingIn back)
  ∨ (part.IsMissingIn files ∧ value = part.inConfig builtIn)

theorem IsMissingIn.append (h : part.IsMissingIn files) (hmore : part.IsMissingIn more) :
    part.IsMissingIn (files ++ more) := by
  intro file hmem
  cases List.mem_append.1 hmem with
  | inl hfiles => exact h file hfiles
  | inr hmore' => exact hmore file hmore'

theorem IsDecidedAs.append (h : part.IsDecidedAs files value) (hmore : part.IsMissingIn more) :
    part.IsDecidedAs (files ++ more) value := by
  obtain ⟨front, file, back, override, rfl, hcounts, hvalue, hback⟩ | ⟨hmissing, hvalue⟩ := h
  · exact .inl ⟨front, file, back ++ more, override, List.append_assoc .., hcounts, hvalue,
      hback.append hmore⟩
  · exact .inr ⟨hmissing.append hmore, hvalue⟩

/-- The induction is from the last file, which either decides or leaves the section as it was. -/
theorem isDecidedAs_behindAll (part : Section α) (files : List SettingsFile) :
    part.IsDecidedAs files (part.inConfig (builtIn.behindAll files)) := by
  induction files using List.reverseRecOn with
  | nil => exact .inr ⟨nofun, rfl⟩
  | append_singleton files file ih =>
    have hmarker : (builtIn.behindAll files).HasMarker :=
      hasMarker_behindAll hasMarker_builtIn files
    rw [behindAll_concat]
    by_cases hcounts : ∃ override, file.Counts override
    · obtain ⟨override, hcounts⟩ := hcounts
      rw [behind_of_counts hmarker hcounts, part.inConfig_merge]
      cases hpart : part.inOverride override with
      | some value => exact .inl ⟨files, file, [], override, rfl, hcounts, hpart, nofun⟩
      | none =>
        -- the file counts, but leaves this section to those before it
        refine ih.append fun last hlast other hother => ?_
        obtain rfl := List.mem_singleton.1 hlast
        rwa [← hcounts.1.unique hother.1]
    · rw [behind_of_not_counts hmarker (not_exists.1 hcounts)]
      refine ih.append fun last hlast other hother => ?_
      obtain rfl := List.mem_singleton.1 hlast
      exact absurd ⟨other, hother⟩ hcounts

end Section

/-- **Each section is that of the last file that counts and has it, or else the built-in one, and
    the settings have a dialect**, behind any files and so behind each of them.  A file whose marker
    is refused might as well not be there.  The settings in effect are those behind the files in the
    user's directory and in the working directory. -/
theorem adopted_sections (files : List SettingsFile) :
    (∃ dialect, (builtIn.behindAll files).dialect = .ok dialect)
    ∧ Section.literal.IsDecidedAs files (builtIn.behindAll files).literal
    ∧ Section.backup.IsDecidedAs files (builtIn.behindAll files).backup
    ∧ Section.inspect.IsDecidedAs files (builtIn.behindAll files).inspect
    ∧ (∀ front file back override, files = front ++ file :: back → file.Holds override →
        ¬ override.IsAdmissible → builtIn.behindAll files = builtIn.behindAll (front ++ back))
    ∧ ∀ disk userDirectory, (load disk userDirectory).1
        = builtIn.behindAll ((paths userDirectory).map (⟨disk, ·⟩)) := by
  refine ⟨exists_dialect_iff.2 (hasMarker_behindAll hasMarker_builtIn files),
    Section.literal.isDecidedAs_behindAll files, Section.backup.isDecidedAs_behindAll files,
    Section.inspect.isDecidedAs_behindAll files, ?_,
    fun disk userDirectory => adoptFiles_fst builtIn disk (paths userDirectory)⟩
  rintro front file back override rfl hholds hrefused
  have hskipped : (builtIn.behindAll front).behind file = builtIn.behindAll front :=
    behind_of_not_counts (hasMarker_behindAll hasMarker_builtIn front) fun other hcounts =>
      hrefused (hholds.unique hcounts.1 ▸ hcounts.2)
  rw [List.append_cons, behindAll_append, behindAll_concat, hskipped, ← behindAll_append]

/-- A file with the marker `a` is refused, and its suffix is refused with it. -/
theorem adopted_sections_refused_marker :
    ∃ first second : SettingsFile,
      (∃ override, second.Holds override ∧ ¬ override.IsAdmissible
        ∧ override.backup = some ⟨".c"⟩)
      ∧ builtIn.behindAll [first, second] = ⟨⟨'t', 4⟩, ⟨".b"⟩, builtIn.inspect⟩ := by
  let disk : Disk := ⟨[
    (["u"], .file "[literal]\nmarker = \"t\"\n[backup]\nsuffix = \".b\"\n".toUTF8),
    (["v"], .file "[literal]\nmarker = \"a\"\n[backup]\nsuffix = \".c\"\n".toUTF8)], []⟩
  have hcounts : SettingsFile.Counts ⟨disk, "u"⟩ ⟨some ⟨'t', 4⟩, some ⟨".b"⟩, none⟩ :=
    ⟨⟨_, by cbv, by cbv⟩, by rintro _ ⟨⟩; decide⟩
  have hholds : SettingsFile.Holds ⟨disk, "v"⟩ ⟨some ⟨'a', 4⟩, some ⟨".c"⟩, none⟩ :=
    ⟨_, by cbv, by cbv⟩
  have hrefused : ¬ Override.IsAdmissible ⟨some ⟨'a', 4⟩, some ⟨".c"⟩, none⟩ := fun h =>
    absurd (h _ rfl) (by decide)
  have hskipped := (adopted_sections [⟨disk, "u"⟩, ⟨disk, "v"⟩]).2.2.2.2.1 [⟨disk, "u"⟩] _ [] _ rfl
    hholds hrefused
  exact ⟨⟨disk, "u"⟩, ⟨disk, "v"⟩, ⟨_, hholds, hrefused, rfl⟩,
    hskipped.trans (behind_of_counts hasMarker_builtIn hcounts)⟩

end Config

end MaskedLiterals
