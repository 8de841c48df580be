import MaskedLiterals.Proofs.CommandOptions
import MaskedLiterals.Proofs.EditCommand

/-!
# What a run leaves alone

Of seven commands five only show something, and so does an edit that is a dry run: they leave the
disk as it is.  The other two write when nothing else can go wrong.  So a run with exit code 1 has
neither printed nor written anything (`run_frame`); for an edit this takes a disk where a file that
was read can be written, since the backup is there by then.  On such a disk one run writes one text,
or it saves one session, or it does neither (`run_becomes`).  A tree is such a disk and stays a
tree, so what fails leaves no trace in any sequence of runs (`diskAfter_of_code_eq_one`).

For each command it is enough to know how it ends on a disk (`Action.Leaves`); the arguments, the
settings and the filter for the log do not matter.
-/

namespace MaskedLiterals

open CommandLine (GlobalOptions NumeralText Invocation)

/-- The disks are the same at every place but those that are written when these paths are. -/
structure Disk.AgreesBut (paths : List String) (disk after : Disk) : Prop where
  workDir_eq : after.workDir = disk.workDir
  find?_eq : ∀ place, (∀ path ∈ paths, disk.target path ≠ .ok place) →
    after.find? place = disk.find? place

/-- What one run can make of a disk, if a file that can be read can be written. -/
inductive Disk.Becomes (disk : Disk) : Disk → Prop
  | same : disk.Becomes disk
  | written {path text : String} {after : Disk} (h : disk.writeText path text = .ok after) :
      disk.Becomes after
  | saved {session next : Session} {suffix : String} {report : SaveReport} {after : Disk}
      (h : session.save disk suffix = (after, .ok (next, report))) : disk.Becomes after

theorem Disk.IsTree.becomes {disk after : Disk} (h : disk.IsTree) (hafter : disk.Becomes after) :
    after.IsTree := by
  cases hafter with
  | same => exact h
  | written hwrite => exact h.writeBytes hwrite
  | @saved session _ suffix _ _ hsave =>
    have htree := @Session.isTree_save session disk suffix h
    rw [hsave] at htree
    exact htree

/-! ### Commands that only show -/

def CommandLine.Command.OnlyShows : CommandLine.Command → Prop
  | .writeListing _ _ => False
  | .edit _ _ _ _ _ dryRun => dryRun = true
  | _ => True

namespace Command

variable {settings : Config} {options : GlobalOptions} {file output text : String}
variable {start keyText : NumeralText} {disk : Disk}

theorem shows_dryRun (stop : Option NumeralText) :
    (edit settings options file start stop keyText text true).Shows disk := by
  rw [edit_eq]
  exact (looks_prepareEdit settings options file start stop keyText text disk).bind_shows
    fun planned => (prints_dryRun settings.backup.suffix planned).shows

/-! ### Commands that write -/

theorem agreesBut_of_writeText {after : Disk} (h : disk.writeText output text = .ok after) :
    disk.AgreesBut [output] after := by
  obtain ⟨location, htarget, hfind⟩ := Disk.find?_write h
  refine ⟨Disk.workDir_writeBytes h, fun place hplace => ?_⟩
  rw [hfind, if_neg]
  rintro rfl
  exact hplace output List.mem_cons_self htarget

theorem leaves_writeListing :
    (writeListing settings options file output).Leaves disk
      fun after => ∃ text, disk.writeText output text = .ok after := by
  unfold writeListing
  refine (looks_openFile settings options file).bind_leaves fun session _ => ?_
  refine Action.looks_disk.bind_leaves fun found hfound => ?_
  cases hfound
  refine (Action.looks_attempt _).bind_leaves fun after hafter => ?_
  have hwrite := mapError_eq_ok_iff.1 (mapError_eq_ok_iff.1 hafter)
  exact ⟨.ok (), after, "", (Action.ends_setDisk disk after).bind_silent
    ((Action.looks_log _ _ _).bind_ends (Action.looks_notice _)), _, hwrite⟩

theorem agreesBut_of_save {session next : Session} {suffix : String} {report : SaveReport}
    {after : Disk} (hpath : session.path = some file)
    (hsave : session.save disk suffix = (after, .ok (next, report))) :
    disk.AgreesBut [file, Session.backupPath file suffix] after := by
  obtain ⟨_, _, _, _, -, -, -, hbacked, hsaved, -⟩ := Session.save_eq_ok_iff.1 hsave
  obtain ⟨path, source, newText, location, place, hfound, -, -, hlocation, hplace, -, -, hfind,
    -⟩ := Session.find?_save hsave
  rw [hpath] at hfound
  cases hfound
  refine ⟨(Disk.workDir_writeBytes hsaved).trans (Disk.workDir_writeBytes hbacked), ?_⟩
  intro other hother
  have hfile : other ≠ location := by
    rintro rfl
    exact hother file (by simp) hlocation
  have hbackup : other ≠ place := by
    rintro rfl
    exact hother (Session.backupPath file suffix) (by simp) hplace
  rw [hfind, if_neg hfile, if_neg hbackup]

/-- An edit that succeeds has saved a session of its file, and one that fails has written nothing,
    provided that the file, which was read, can be written. -/
theorem ends_edit (stop : Option NumeralText) :
    ∃ result after printed,
      (edit settings options file start stop keyText text false).Ends disk result after printed
      ∧ match result with
        | .ok _ => ∃ (session next : Session) (report : SaveReport), session.path = some file
          ∧ session.save disk settings.backup.suffix = (after, .ok (next, report))
        | .error _ => (disk.CanReopen → after = disk) ∧ printed = "" := by
  cases hplan : planEdit settings options file start stop keyText text disk with
  | error failure =>
    exact ⟨.error failure, disk, "", ends_edit_of_planEdit_eq_error hplan, fun _ => rfl, rfl⟩
  | ok planned =>
    obtain ⟨_, _, _, _, -, -, -, -, -, hsession, -⟩ := planEdit_eq_ok hplan
    rcases hsave : planned.session.save disk settings.backup.suffix with ⟨after, result⟩
    cases result with
    | error failure =>
      refine ⟨.error (.file failure), after, "",
        ends_edit_of_planEdit_eq_ok hplan (ends_finishEdit_of_error hsave), fun hreopen => ?_, rfl⟩
      exact ((Session.save_eq_error_iff hreopen).1 hsave).1
    | ok saved =>
      obtain ⟨next, report⟩ := saved
      refine ⟨.ok (), after, planned.updated report.path,
        ends_edit_of_planEdit_eq_ok hplan (ends_finishEdit_of_ok hsave), ?_⟩
      exact ⟨planned.session, next, report, by rw [hsession], hsave⟩

theorem leaves_edit (hreopen : disk.CanReopen) (stop : Option NumeralText) :
    (edit settings options file start stop keyText text false).Leaves disk
      fun after => ∃ (session next : Session) (report : SaveReport), session.path = some file
        ∧ session.save disk settings.backup.suffix = (after, .ok (next, report)) := by
  obtain ⟨result, after, printed, hends, hleft⟩ := @ends_edit settings options file text start
    keyText disk stop
  refine ⟨result, after, printed, hends, ?_⟩
  cases result with
  | ok _ => exact hleft
  | error failure => exact ⟨hleft.1 hreopen, hleft.2⟩

end Command

/-! ### Runs -/

namespace Program

variable {surroundings : Surroundings} {arguments : List String} {disk : Disk}
variable {settings : Config} {options : GlobalOptions} {command : CommandLine.Command}

theorem shows_action (h : command.OnlyShows) : (action settings options command).Shows disk := by
  cases command with
  | extract file json => exact (Command.heedsOptions_extract json).shows options
  | decode file start stop key verbose => exact (Command.heedsOptions_decode stop verbose).shows options
  | encode text key preview => exact (Command.heedsOptions_encode preview).shows options
  | edit file start stop key text dryRun =>
    obtain rfl : dryRun = true := h
    exact Command.shows_dryRun stop
  | inspect file keys json => exact (Command.heedsOptions_inspect keys json).shows options
  | writeListing file output => exact h.elim
  | config json => exact (Command.heedsOptions_config json).shows options

theorem leaves_action (hreopen : disk.CanReopen) :
    (action settings options command).Leaves disk disk.Becomes := by
  have hshown (hshows : command.OnlyShows) :
      (action settings options command).Leaves disk disk.Becomes :=
    (shows_action hshows).imp fun after hsame => hsame ▸ .same
  cases command with
  | writeListing file output =>
    refine Command.leaves_writeListing.imp fun after hleft => ?_
    obtain ⟨text, hwrite⟩ := hleft
    exact .written hwrite
  | edit file start stop key text dryRun =>
    cases dryRun with
    | true => exact hshown rfl
    | false =>
      refine (Command.leaves_edit hreopen stop).imp fun after hleft => ?_
      obtain ⟨session, next, report, -, hsave⟩ := hleft
      exact .saved hsave
  | extract | decode | encode | inspect | config => exact hshown trivial

theorem run_of_leaves {allowed : Disk → Prop}
    (hasked : Invocation.ofArguments arguments = some (.run options command))
    (h : (action (Config.load disk surroundings.userDirectory).1 options command).Leaves disk
      allowed) :
    (run surroundings arguments disk).code = 1 ∧ (run surroundings arguments disk).output = ""
        ∧ (run surroundings arguments disk).disk = disk
      ∨ (run surroundings arguments disk).code = 0
        ∧ allowed (run surroundings arguments disk).disk := by
  obtain ⟨result, after, printed, hends, hleft⟩ := h
  obtain ⟨hcode, hprinted, hafter⟩ := run_of_ends hasked hends
  rw [hcode, hprinted, hafter]
  cases result with
  | ok _ => exact Or.inr ⟨rfl, hleft⟩
  | error failure => exact Or.inl ⟨rfl, hleft.2, hleft.1⟩

/-- A run with exit code 1 does nothing, and any other does one thing to the disk at most.  Arguments
    that ask for no command belong to the second kind: they are refused with another exit code. -/
theorem run_becomes (hreopen : disk.CanReopen) :
    (run surroundings arguments disk).code = 1 ∧ (run surroundings arguments disk).output = ""
        ∧ (run surroundings arguments disk).disk = disk
      ∨ (run surroundings arguments disk).code ≠ 1
        ∧ disk.Becomes (run surroundings arguments disk).disk := by
  cases hasked : Invocation.ofArguments arguments with
  | none => exact Or.inr (by simp [run, hasked, Disk.Becomes.same])
  | some invocation =>
    cases invocation with
    | help => exact Or.inr (by simp [run, hasked, Disk.Becomes.same])
    | version => exact Or.inr (by simp [run, hasked, Disk.Becomes.same])
    | run options command =>
      rcases run_of_leaves hasked (leaves_action hreopen) with hfailed | ⟨hcode, hbecomes⟩
      · exact Or.inl hfailed
      · exact Or.inr ⟨by rw [hcode]; decide, hbecomes⟩

theorem run_of_code_eq_one (hreopen : disk.CanReopen)
    (hcode : (run surroundings arguments disk).code = 1) :
    (run surroundings arguments disk).output = ""
      ∧ (run surroundings arguments disk).disk = disk := by
  rcases @run_becomes surroundings arguments disk hreopen with ⟨-, hnothing⟩ | ⟨hother, -⟩
  · exact hnothing
  · exact absurd hcode hother

/-- **What a run may do.**  With exit code 1 it has printed nothing and changed nothing, provided
    that a file that can be read can be written.  Whatever its end, it changes nothing if it is for
    a command that only shows something.  A listing goes to its output alone, and an edit to its
    file and to the backup, named by the suffix of the settings that hold on this disk. -/
theorem run_frame (surroundings : Surroundings) (arguments : List String) (disk : Disk) :
    (disk.CanReopen → (run surroundings arguments disk).code = 1 →
      (run surroundings arguments disk).output = ""
        ∧ (run surroundings arguments disk).disk = disk)
    ∧ (∀ options command, Invocation.ofArguments arguments = some (.run options command) →
      command.OnlyShows → (run surroundings arguments disk).disk = disk)
    ∧ (∀ options file output,
      Invocation.ofArguments arguments = some (.run options (.writeListing file output)) →
      (run surroundings arguments disk).code = 0 →
      disk.AgreesBut [output] (run surroundings arguments disk).disk)
    ∧ ∀ options file start stop key text,
      Invocation.ofArguments arguments
        = some (.run options (.edit file start stop key text false)) →
      (run surroundings arguments disk).code = 0 →
      disk.AgreesBut [file, Session.backupPath file
          (Config.load disk surroundings.userDirectory).1.backup.suffix]
        (run surroundings arguments disk).disk := by
  refine ⟨fun hreopen hcode => ?_, fun options command hasked hshows => ?_,
    fun options file output hasked hcode => ?_,
    fun options file start stop key text hasked hcode => ?_⟩
  · exact run_of_code_eq_one hreopen hcode
  · rcases run_of_leaves hasked (shows_action hshows) with ⟨-, -, hsame⟩ | ⟨-, hsame⟩
    · exact hsame
    · exact hsame
  · rcases run_of_leaves hasked Command.leaves_writeListing with ⟨hone, -⟩ | ⟨-, hleft⟩
    · rw [hcode] at hone
      cases hone
    · obtain ⟨text, hwrite⟩ := hleft
      exact Command.agreesBut_of_writeText hwrite
  · -- the exit code tells that both writes went well, so that nothing need be known of the disk
    obtain ⟨result, after, printed, hends, hleft⟩ := Command.ends_edit stop
    obtain ⟨hresult, -, hafter⟩ := run_of_ends hasked hends
    rw [hcode] at hresult
    rw [hafter]
    cases result with
    | ok _ =>
      obtain ⟨session, next, report, hpath, hsave⟩ := hleft
      exact Command.agreesBut_of_save hpath hsave
    | error failure => cases hresult

/-- A directory stands where the backup should go: the run fails behind its last look at the disk,
    and nothing happens. -/
theorem run_frame_directory_in_the_way :
    ∃ (disk : Disk) (outcome : Outcome), disk.CanReopen
      ∧ run ⟨none, none⟩ ["edit", "a", "--start", "0", "--key", "1", "--text", "A"] disk = outcome
      ∧ outcome.code = 1 ∧ outcome.output = "" ∧ outcome.disk = disk := by
  let disk : Disk := ⟨[(["a"], .file "0x5s".toUTF8), (["a.backup"], .directory)], []⟩
  let surroundings : Surroundings := ⟨none, none⟩
  let options : GlobalOptions := ⟨false, none, 104857600, false⟩
  let arguments : List String := ["edit", "a", "--start", "0", "--key", "1", "--text", "A"]
  let planned : Command.PlannedEdit := ⟨0, ⟨some "a", "0x5s", ⟨[⟨"0x0040s"⟩]⟩, .smaliShort⟩, 1⟩
  have hreopen : disk.CanReopen := by
    apply Disk.IsTree.canReopen
    apply Disk.isTree_of_forall_mem
    simp [disk, Disk.find?]
  have hasked : Invocation.ofArguments arguments
      = some (.run options (.edit "a" ⟨"0", .hex⟩ none ⟨"1", .hex⟩ "A" false)) := by cbv
  have hnone : disk.hasPath "smali-xor.toml" = false := by
    simp only [disk]
    decide +kernel
  have hload : Config.load disk surroundings.userDirectory = (.builtIn, []) :=
    Config.adoptFiles_of_hasPath_eq_false (by simpa [Config.paths, surroundings] using hnone)
  have hplan : Command.planEdit .builtIn options "a" ⟨"0", .hex⟩ none ⟨"1", .hex⟩ "A" disk
      = .ok planned := by cbv
  have hsave : planned.session.save disk ".backup"
      = (disk, .error (.disk "a.backup" .isADirectory)) := by
    have hread : disk.readText "a" = .ok "0x5s" := by cbv
    have hsplice : Dialect.smaliShort.splice "0x5s" [⟨"0x0040s"⟩]
        = .ok ⟨"0x0040s", "0x5s"⟩ := by cbv
    have htarget : disk.target (Session.backupPath "a" ".backup") = .error .isADirectory := by rfl
    exact (Session.SaveFails.noBackup rfl hread hsplice htarget).save_eq
  have hedit : (action (Config.load disk surroundings.userDirectory).1 options
      (.edit "a" ⟨"0", .hex⟩ none ⟨"1", .hex⟩ "A" false)).Ends disk
        (.error (.file (.disk "a.backup" .isADirectory))) disk "" := by
    rw [hload, action]
    exact Command.ends_edit_of_planEdit_eq_ok hplan (Command.ends_finishEdit_of_error hsave)
  have hcode : (run surroundings arguments disk).code = 1 := (run_of_ends hasked hedit).1
  exact ⟨disk, _, hreopen, rfl, hcode, (run_frame surroundings arguments disk).1 hreopen hcode⟩

/-! ### Disks that stay trees -/

theorem isTree_run (h : disk.IsTree) : (run surroundings arguments disk).disk.IsTree := by
  rcases @run_becomes surroundings arguments disk h.canReopen with ⟨-, -, hsame⟩ | ⟨-, hbecomes⟩
  · rw [hsame]
    exact h
  · exact h.becomes hbecomes

/-- The disk behind runs of the program for these arguments, one after another. -/
def diskAfter (surroundings : Surroundings) (disk : Disk) (runs : List (List String)) : Disk :=
  runs.foldl (fun found arguments => (run surroundings arguments found).disk) disk

theorem isTree_diskAfter (runs : List (List String)) (h : disk.IsTree) :
    (diskAfter surroundings disk runs).IsTree := by
  unfold diskAfter
  induction runs generalizing disk with
  | nil => exact h
  | cons arguments runs ih => exact ih (isTree_run h)

/-- **In a sequence of runs on a tree those that fail do not count.**  Wherever in the sequence a
    run has exit code 1, it has printed nothing, and without it the disk would be the same. -/
theorem diskAfter_of_code_eq_one {before : List (List String)} (h : disk.IsTree)
    (hcode : (run surroundings arguments (diskAfter surroundings disk before)).code = 1)
    (later : List (List String)) :
    (run surroundings arguments (diskAfter surroundings disk before)).output = ""
      ∧ diskAfter surroundings disk (before ++ arguments :: later)
        = diskAfter surroundings disk (before ++ later) := by
  obtain ⟨hprinted, hsame⟩ := run_of_code_eq_one (isTree_diskAfter before h).canReopen hcode
  refine ⟨hprinted, ?_⟩
  unfold diskAfter at hsame ⊢
  rw [List.foldl_append, List.foldl_append, List.foldl_cons, hsame]

end Program

end MaskedLiterals
