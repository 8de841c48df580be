import MaskedLiterals.Disk
import MaskedLiterals.Proofs.Outcome

/-!
# What is read after a write

A write puts a file where no directory is, so every directory stays one and every path still leads
where it led.  The path that was written therefore leads to the new file, and reading it gives the
text that was written (`readText_writeText`), whatever was there before.
-/

namespace MaskedLiterals.Disk

variable {disk after : Disk} {path : String} {location place : Location}

/-! ### Paths on a disk that keeps its directories -/

def KeepsDirectories (disk after : Disk) : Prop :=
  ∀ place, disk.find? place = some .directory → after.find? place = some .directory

theorem step_eq_ok_iff {name : String} :
    disk.step location name = .ok place
      ↔ disk.find? location = some .directory
        ∧ (name = "." ∧ place = location
          ∨ name = ".." ∧ place = location.dropLast
          ∨ name ≠ "." ∧ name ≠ ".." ∧ name.utf8ByteSize ≤ Path.greatestNameSize
            ∧ place = location ++ [name]) := by
  unfold step
  rcases hfound : disk.find? location with _ | _ | content
  · simp
  · by_cases hdot : name = "."
    · simp [hdot, eq_comm]
    · by_cases hdots : name = ".."
      · simp [hdots, eq_comm]
      · by_cases hlong : Path.greatestNameSize < name.utf8ByteSize
        · simp [hdot, hdots, hlong, Nat.not_le_of_lt hlong]
        · simp [hdot, hdots, hlong, Nat.le_of_not_lt hlong, eq_comm]
  · simp

theorem KeepsDirectories.step (h : KeepsDirectories disk after) {name : String}
    (hstep : disk.step location name = .ok place) : after.step location name = .ok place := by
  obtain ⟨hdirectory, hplace⟩ := step_eq_ok_iff.1 hstep
  exact step_eq_ok_iff.2 ⟨h location hdirectory, hplace⟩

theorem KeepsDirectories.walk (h : KeepsDirectories disk after) {names : List String}
    (hwalk : disk.walk location names = .ok place) : after.walk location names = .ok place := by
  induction names generalizing location with
  | nil => exact hwalk
  | cons name names ih =>
    obtain ⟨next, hstep, hrest⟩ := bind_eq_ok_iff.1 hwalk
    exact bind_eq_ok_iff.2 ⟨next, h.step hstep, ih hrest⟩

theorem walk_append {front back : List String} :
    disk.walk location (front ++ back) = .ok place
      ↔ ∃ middle, disk.walk location front = .ok middle ∧ disk.walk middle back = .ok place := by
  induction front generalizing location with
  | nil => simp [Disk.walk]
  | cons name front ih =>
    rw [List.cons_append, Disk.walk, Disk.walk, bind_eq_ok_iff]
    simp only [bind_eq_ok_iff, ih]
    constructor
    · rintro ⟨next, hstep, middle, hfront, hback⟩
      exact ⟨middle, ⟨next, hstep, hfront⟩, hback⟩
    · rintro ⟨middle, ⟨next, hstep, hfront⟩, hback⟩
      exact ⟨next, hstep, middle, hfront, hback⟩

theorem locate_eq_ok_iff :
    disk.locate path = .ok location
      ↔ checkPath path = .ok ()
        ∧ disk.walk (disk.startOf path)
          (Path.names path ++ if Path.namesDirectory path then ["."] else []) = .ok location := by
  unfold locate
  rw [bind_eq_ok_iff]
  exact ⟨fun ⟨_, hcheck, hwalk⟩ => ⟨hcheck, hwalk⟩, fun ⟨hcheck, hwalk⟩ => ⟨(), hcheck, hwalk⟩⟩

theorem KeepsDirectories.locate (h : KeepsDirectories disk after)
    (hstart : after.workDir = disk.workDir) (hlocate : disk.locate path = .ok location) :
    after.locate path = .ok location := by
  obtain ⟨hcheck, hwalk⟩ := locate_eq_ok_iff.1 hlocate
  refine locate_eq_ok_iff.2 ⟨hcheck, ?_⟩
  rw [startOf, hstart]
  exact h.walk hwalk

/-! ### The target of a write -/

/-- The target of a write is a name in a directory that is no directory itself. -/
theorem target_eq_ok_iff :
    disk.target path = .ok location
      ↔ checkPath path = .ok () ∧ Path.namesDirectory path = false
        ∧ ∃ front name parent, Path.names path = front ++ [name]
          ∧ disk.walk (disk.startOf path) front = .ok parent
          ∧ disk.find? parent = some .directory
          ∧ name ≠ "." ∧ name ≠ ".." ∧ name.utf8ByteSize ≤ Path.greatestNameSize
          ∧ location = parent ++ [name] ∧ disk.find? location ≠ some .directory := by
  unfold target
  constructor
  · intro h
    obtain ⟨_, hcheck, h⟩ := bind_eq_ok_iff.1 h
    split at h
    · cases h
    · next name hlast =>
      obtain ⟨front, hnames⟩ := List.getLast?_eq_some_iff.1 hlast
      obtain ⟨parent, hwalk, h⟩ := bind_eq_ok_iff.1 h
      rw [hnames, List.dropLast_concat] at hwalk
      split at h
      · cases h
      · cases h
      · next hdirectory =>
        split at h
        · cases h
        · next hfree =>
          simp only [not_or] at hfree
          split at h
          · cases h
          · next hsize =>
            cases h
            exact ⟨hcheck, by simpa using hfree.2.2.1, front, name, parent, hnames, hwalk,
              hdirectory, hfree.1, hfree.2.1, Nat.le_of_not_lt hsize, rfl, hfree.2.2.2⟩
  · rintro ⟨hcheck, hfile, front, name, parent, hnames, hwalk, hdirectory, hdot, hdots, hsize, rfl,
      hfree⟩
    refine bind_eq_ok_iff.2 ⟨(), hcheck, ?_⟩
    rw [hnames, List.getLast?_concat, List.dropLast_concat]
    refine bind_eq_ok_iff.2 ⟨parent, hwalk, ?_⟩
    have hallowed : ¬ (name = "." ∨ name = ".." ∨ Path.namesDirectory path = true
        ∨ disk.find? (parent ++ [name]) = some .directory) := by
      simp [hdot, hdots, hfile, hfree]
    rw [hdirectory]
    show (if _ then _ else _) = _
    rw [if_neg hallowed, if_neg (Nat.not_lt_of_le hsize)]

theorem locate_of_target (h : disk.target path = .ok location) :
    disk.locate path = .ok location := by
  obtain ⟨hcheck, hfile, front, name, parent, hnames, hwalk, hdirectory, hdot, hdots, hsize, hplace,
    -⟩ := target_eq_ok_iff.1 h
  have hstep : disk.step parent name = .ok location :=
    step_eq_ok_iff.2 ⟨hdirectory, Or.inr (Or.inr ⟨hdot, hdots, hsize, hplace⟩)⟩
  refine locate_eq_ok_iff.2 ⟨hcheck, ?_⟩
  rw [hfile, hnames]
  refine walk_append.2 ⟨location, walk_append.2 ⟨parent, hwalk, ?_⟩, rfl⟩
  exact bind_eq_ok_iff.2 ⟨location, hstep, rfl⟩

/-! ### What is read -/

theorem readBytes_eq_ok_iff {content : ByteArray} :
    disk.readBytes path = .ok content
      ↔ ∃ location, disk.locate path = .ok location
        ∧ disk.find? location = some (.file content) := by
  unfold readBytes lookup
  rw [bind_eq_ok_iff]
  simp only [bind_eq_ok_iff]
  constructor
  · rintro ⟨entry, ⟨location, hlocate, hentry⟩, hread⟩
    split at hentry
    · next found hfound =>
      cases hentry
      cases entry with
      | directory => cases hread
      | file octets =>
        cases hread
        exact ⟨location, hlocate, hfound⟩
    · cases hentry
  · rintro ⟨location, hlocate, hfound⟩
    exact ⟨.file content, ⟨location, hlocate, by rw [hfound]⟩, rfl⟩

theorem fromUTF8?_eq_some_iff {content : ByteArray} {text : String} :
    String.fromUTF8? content = some text ↔ content = text.toUTF8 := by
  unfold String.fromUTF8?
  constructor
  · intro h
    split at h
    · cases h
      rfl
    · cases h
  · rintro rfl
    rw [String.toUTF8_eq_toByteArray, dif_pos text.isValidUTF8]
    rfl

/-- A file is a text if its octets are those of the text. -/
theorem readText_eq_ok_iff {text : String} :
    disk.readText path = .ok text ↔ disk.readBytes path = .ok text.toUTF8 := by
  unfold readText
  rw [bind_eq_ok_iff]
  constructor
  · rintro ⟨content, hread, htext⟩
    split at htext
    · next found hfound =>
      cases htext
      rw [hread, fromUTF8?_eq_some_iff.1 hfound]
    · cases htext
  · intro hread
    exact ⟨text.toUTF8, hread, by rw [fromUTF8?_eq_some_iff.2 rfl]⟩

/-- A path from which a text is read leads to a file with the octets of the text. -/
theorem lookup_of_readText {text : String} (h : disk.readText path = .ok text) :
    disk.lookup path = .ok (.file text.toUTF8) := by
  obtain ⟨location, hlocate, hfound⟩ := readBytes_eq_ok_iff.1 (readText_eq_ok_iff.1 h)
  exact bind_eq_ok_iff.2 ⟨location, hlocate, by rw [hfound]⟩

theorem hasPath_of_readText {text : String} (h : disk.readText path = .ok text) :
    disk.hasPath path = true := by
  rw [hasPath, lookup_of_readText h]
  rfl

theorem size_of_readText {text : String} (h : disk.readText path = .ok text) :
    disk.size path = .ok text.toUTF8.size :=
  bind_eq_ok_iff.2 ⟨_, lookup_of_readText h, rfl⟩

/-! ### After a write -/

section Write

variable {content : ByteArray}

theorem keepsDirectories_writeBytes (h : disk.writeBytes path content = .ok after) :
    KeepsDirectories disk after := by
  obtain ⟨location, htarget, hfind⟩ := find?_write h
  intro place hdirectory
  have hplace : place ≠ location := by
    rintro rfl
    exact (target_spec htarget).2 hdirectory
  rw [hfind, if_neg hplace]
  exact hdirectory

theorem workDir_writeBytes (h : disk.writeBytes path content = .ok after) :
    after.workDir = disk.workDir := by
  obtain ⟨location, -, rfl⟩ := map_eq_ok_iff.1 h
  rfl

theorem readBytes_writeBytes (h : disk.writeBytes path content = .ok after) :
    after.readBytes path = .ok content := by
  obtain ⟨location, htarget, hfind⟩ := find?_write h
  have hlocate := (keepsDirectories_writeBytes h).locate (workDir_writeBytes h)
    (locate_of_target htarget)
  exact readBytes_eq_ok_iff.2 ⟨location, hlocate, by rw [hfind, if_pos rfl]⟩

/-- **The text read from a path is the one written to it last.** -/
theorem readText_writeText {text : String} (h : disk.writeText path text = .ok after) :
    after.readText path = .ok text :=
  readText_eq_ok_iff.2 (readBytes_writeBytes h)

end Write

end MaskedLiterals.Disk
