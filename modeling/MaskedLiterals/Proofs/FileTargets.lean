import MaskedLiterals.Proofs.DiskWrite

/-!
# Where reads and writes go

A read follows a path to what is there, a write to what is to be there.  On a disk that is a tree
the two agree on every file, so a file that can be read can be written again
(`IsTree.canReopen`); this is all that is assumed of a disk where a write must not fail.  Runs keep
a tree one (`Work.isTree_run`, `Program.isTree_run`), so it need only be known of the first disk.

A write makes no directory and removes none.  Whatever was written, paths go on leading where they
led (`target_writeBytes_iff`), and what is anywhere else stays as it was.

A suffix without a slash makes another name in the same directory out of the last name of a path
(`target_append_ne`).  With slashes it can lead anywhere, back to the file itself included.
-/

namespace MaskedLiterals

/-! ### The last name of a path -/

namespace Path

/-- What is put behind a text without a slash goes to the last of its parts. -/
theorem exists_splitOn_append (text : List Char) :
    ∃ front last, (text ≠ [] → text.getLast? ≠ some '/' → last ≠ [])
      ∧ ∀ more : List Char, '/' ∉ more → (text ++ more).splitOn '/' = front ++ [last ++ more] := by
  by_cases hslash : '/' ∈ text
  · obtain ⟨before, last, rfl, hlast⟩ : ∃ before last, text = before ++ '/' :: last
        ∧ '/' ∉ last := by
      obtain ⟨late, early, hsplit, hlate⟩ := List.eq_append_cons_of_mem (List.mem_reverse.2 hslash)
      refine ⟨early.reverse, late.reverse, ?_, by simpa using hlate⟩
      have htext := congrArg List.reverse hsplit
      simpa using htext
    refine ⟨before.splitOn '/', last, ?_, fun more hmore => ?_⟩
    · rintro - hend rfl
      simp at hend
    · have hnone : '/' ∉ last ++ more := by simp [hlast, hmore]
      rw [List.append_assoc, List.cons_append, List.splitOn_append_cons_self,
        List.splitOn_eq_singleton hnone]
  · refine ⟨[], text, fun hne _ => hne, fun more hmore => ?_⟩
    have hnone : '/' ∉ text ++ more := by simp [hslash, hmore]
    rw [List.splitOn_eq_singleton hnone, List.nil_append]

/-- A path that names no directory has a last name, and a suffix without a slash goes there. -/
theorem exists_names_append {path : String} (hne : path ≠ "") (hfile : namesDirectory path = false) :
    ∃ front name, names path = front ++ [name]
      ∧ ∀ suffix : String, '/' ∉ suffix.toList → names (path ++ suffix) = front ++ [name ++ suffix] := by
  obtain ⟨front, last, hlast, hsplit⟩ := exists_splitOn_append path.toList
  have hnonempty : last ≠ [] := by
    apply hlast
    · simpa using hne
    · simpa [namesDirectory] using hfile
  have hnames (suffix : String) (hsuffix : '/' ∉ suffix.toList) : names (path ++ suffix)
      = (front.filter (· ≠ [])).map String.ofList ++ [String.ofList last ++ suffix] := by
    unfold names
    rw [String.toList_append, hsplit _ hsuffix, List.filter_append, List.map_append]
    simp [hnonempty]
  refine ⟨_, _, ?_, hnames⟩
  simpa using hnames "" (by simp)

end Path

namespace Disk

variable {disk after : Disk} {path : String} {location place : Location} {content : ByteArray}

theorem checkPath_eq_ok_iff : checkPath path = .ok ()
    ↔ path ≠ "" ∧ '\x00' ∉ path.toList ∧ path.utf8ByteSize ≤ Path.greatestSize := by
  unfold checkPath
  by_cases hempty : path = ""
  · simp [hempty]
  · rw [if_neg hempty]
    by_cases hnul : '\x00' ∈ path.toList
    · simp [hnul]
    · by_cases hlong : Path.greatestSize < path.utf8ByteSize
      · simp [hnul, hlong]
      · simp [hempty, hnul, hlong, Nat.le_of_not_lt hlong]

/-! ### Disks that are trees -/

/-- Whatever is on the disk is in a directory. -/
def IsTree (disk : Disk) : Prop :=
  ∀ place entry, disk.find? place = some entry → disk.find? place.dropLast = some .directory

theorem isTree_of_forall_mem
    (h : ∀ item ∈ disk.entries, disk.find? item.1.dropLast = some .directory) : disk.IsTree := by
  intro place entry hentry
  by_cases hroot : place = []
  · subst hroot
    rfl
  · unfold find? at hentry
    rw [if_neg hroot, Option.map_eq_some_iff] at hentry
    obtain ⟨item, hitem, -⟩ := hentry
    have hplace : item.1 = place := by simpa using List.find?_some hitem
    rw [← hplace]
    exact h item (List.mem_of_find?_eq_some hitem)

/-- A file that can be read can be written. -/
def CanReopen (disk : Disk) : Prop :=
  ∀ path content, disk.readBytes path = .ok content → ∃ location, disk.target path = .ok location

theorem isDirectory_of_namesDirectory (h : disk.locate path = .ok location)
    (hslash : Path.namesDirectory path = true) : disk.find? location = some .directory := by
  obtain ⟨-, hwalk⟩ := locate_eq_ok_iff.1 h
  rw [if_pos hslash] at hwalk
  obtain ⟨middle, -, hlast⟩ := walk_append.1 hwalk
  obtain ⟨next, hstep, hnil⟩ := bind_eq_ok_iff.1 hlast
  obtain ⟨hdirectory, hplace⟩ := step_eq_ok_iff.1 hstep
  cases hnil
  have hstays : location = middle := by simpa using hplace
  rw [hstays]
  exact hdirectory

/-- A path that names no directory ends in a step. -/
theorem exists_step_of_locate (h : disk.locate path = .ok location)
    (hfile : Path.namesDirectory path = false) :
    ∃ front name parent, Path.names path = front ++ [name]
      ∧ disk.walk (disk.startOf path) front = .ok parent ∧ disk.step parent name = .ok location := by
  obtain ⟨hcheck, hwalk⟩ := locate_eq_ok_iff.1 h
  obtain ⟨front, name, hnames, -⟩ := Path.exists_names_append (checkPath_eq_ok_iff.1 hcheck).1 hfile
  rw [hnames, if_neg (by simp [hfile]), List.append_nil] at hwalk
  obtain ⟨parent, hparent, hlast⟩ := walk_append.1 hwalk
  obtain ⟨next, hstep, hnil⟩ := bind_eq_ok_iff.1 hlast
  cases hnil
  exact ⟨front, name, parent, hnames, hparent, hstep⟩

theorem IsTree.canReopen (h : disk.IsTree) : disk.CanReopen := by
  intro path content hread
  obtain ⟨location, hlocate, hfound⟩ := readBytes_eq_ok_iff.1 hread
  have hfree : disk.find? location ≠ some .directory := by simp [hfound]
  have hfile : Path.namesDirectory path = false := by
    by_contra hslash
    exact hfree (isDirectory_of_namesDirectory hlocate (Bool.not_eq_false _ ▸ hslash))
  obtain ⟨front, name, parent, hnames, hparent, hstep⟩ := exists_step_of_locate hlocate hfile
  obtain ⟨hdirectory, hplace⟩ := step_eq_ok_iff.1 hstep
  -- the last step goes down, since by `.` or `..` it would lead to a directory
  rcases hplace with ⟨-, rfl⟩ | ⟨-, rfl⟩ | ⟨hdot, hdots, hsize, hdown⟩
  · exact absurd hdirectory hfree
  · exact absurd (h parent _ hdirectory) hfree
  · exact ⟨location, target_eq_ok_iff.2 ⟨(locate_eq_ok_iff.1 hlocate).1, hfile, front, name, parent,
      hnames, hparent, hdirectory, hdot, hdots, hsize, hdown, hfree⟩⟩

/-! ### After a write -/

theorem writeText_eq_ok_iff {text : String} :
    disk.writeText path text = .ok after
      ↔ ∃ location, disk.target path = .ok location
        ∧ disk.put location (.file text.toUTF8) = after := map_eq_ok_iff

theorem exists_writeText (h : disk.target path = .ok location) (text : String) :
    ∃ after, disk.writeText path text = .ok after :=
  ⟨disk.put location (.file text.toUTF8), writeText_eq_ok_iff.2 ⟨location, h, rfl⟩⟩

theorem writeText_eq_error_iff {text : String} {cause : DiskError} :
    disk.writeText path text = .error cause ↔ disk.target path = .error cause := map_eq_error_iff

section Write

variable {written : String}

/-- A write makes no directory. -/
theorem keepsDirectories_of_writeBytes (h : disk.writeBytes written content = .ok after) :
    KeepsDirectories after disk := by
  obtain ⟨location, -, hfind⟩ := find?_write h
  intro place hdirectory
  rw [hfind] at hdirectory
  split at hdirectory
  · cases hdirectory
  · exact hdirectory

theorem KeepsDirectories.target (h : KeepsDirectories disk after)
    (hback : KeepsDirectories after disk) (hstart : after.workDir = disk.workDir)
    (htarget : disk.target path = .ok location) : after.target path = .ok location := by
  obtain ⟨hcheck, hfile, front, name, parent, hnames, hwalk, hdirectory, hdot, hdots, hsize, hplace,
    hfree⟩ := target_eq_ok_iff.1 htarget
  have hstartOf : after.startOf path = disk.startOf path := by
    rw [startOf, startOf, hstart]
  refine target_eq_ok_iff.2 ⟨hcheck, hfile, front, name, parent, hnames, ?_, h parent hdirectory,
    hdot, hdots, hsize, hplace, fun hother => hfree (hback location hother)⟩
  rw [hstartOf]
  exact h.walk hwalk

/-- **A write changes the target of no path.** -/
theorem target_writeBytes_iff (h : disk.writeBytes written content = .ok after) :
    after.target path = .ok location ↔ disk.target path = .ok location := by
  have hkeeps := keepsDirectories_writeBytes h
  have hback := keepsDirectories_of_writeBytes h
  have hstart := workDir_writeBytes h
  constructor
  · exact hback.target hkeeps hstart.symm
  · exact hkeeps.target hback hstart

theorem IsTree.writeBytes (h : disk.IsTree) (hwrite : disk.writeBytes written content = .ok after) :
    after.IsTree := by
  obtain ⟨location, htarget, hfind⟩ := find?_write hwrite
  have hkeeps := keepsDirectories_writeBytes hwrite
  intro place entry hentry
  rw [hfind] at hentry
  split at hentry
  · next hplace =>
    -- the new file is in the directory that its target was found in
    obtain ⟨-, -, -, name, parent, -, -, hdirectory, -, -, -, rfl, -⟩ := target_eq_ok_iff.1 htarget
    rw [hplace, List.dropLast_concat]
    exact hkeeps parent hdirectory
  · exact hkeeps _ (h place entry hentry)

end Write

/-! ### Suffixes -/

/-- **A suffix without a slash leads to another file.** -/
theorem target_append_ne {suffix : String} (hsuffix : suffix ≠ "") (hslash : '/' ∉ suffix.toList)
    (h : disk.target path = .ok location) (hother : disk.target (path ++ suffix) = .ok place) :
    place ≠ location := by
  obtain ⟨hcheck, hfile, front, name, parent, hnames, -, -, -, -, -, rfl, -⟩ :=
    target_eq_ok_iff.1 h
  obtain ⟨-, -, otherFront, otherName, otherParent, hotherNames, -, -, -, -, -, rfl, -⟩ :=
    target_eq_ok_iff.1 hother
  obtain ⟨first, last, hfirst, happend⟩ :=
    Path.exists_names_append (checkPath_eq_ok_iff.1 hcheck).1 hfile
  obtain ⟨-, hname⟩ := List.append_inj' (hnames.symm.trans hfirst) rfl
  obtain ⟨-, hotherName⟩ := List.append_inj' (hotherNames.symm.trans (happend suffix hslash)) rfl
  intro hplace
  obtain ⟨-, hsame⟩ := List.append_inj' hplace rfl
  have hgrown : last ++ suffix = last := by
    simpa using (hotherName.symm.trans hsame).trans hname
  have hchars := congrArg String.toList hgrown
  rw [String.toList_append, List.append_right_eq_self] at hchars
  exact hsuffix (String.toList_eq_nil_iff.1 hchars)

end Disk

end MaskedLiterals
