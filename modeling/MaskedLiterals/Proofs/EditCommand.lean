import MaskedLiterals.Command.Changes
import MaskedLiterals.Proofs.ActionEnds
import MaskedLiterals.Proofs.SaveEffect

/-!
# What the command `edit` comes to

The command does the same up to the point where it either shows or saves what it has done to the
array (`edit_eq`).  By then it has only looked, and what it found out is a function of the disk, the
`planEdit` of its arguments (`looks_prepareEdit`).  What comes behind can fail only in a save.
-/

namespace MaskedLiterals.Command

open CommandLine (GlobalOptions NumeralText)

/-- A text hidden in an array: from where on, the session that holds it, and how many of its
    characters found room. -/
structure PlannedEdit where
  start : Nat
  session : Session
  written : Nat

/-- What an edit does to the array of a file, or why it does nothing. -/
def planEdit (config : Config) (options : GlobalOptions) (file : String) (start : NumeralText)
    (stop : Option NumeralText) (keyText : NumeralText) (text : String) (disk : Disk) :
    Except Failure PlannedEdit := do
  let start ← indexOf start
  let _ ← stop.mapM indexOf
  let key ← keyOf keyText
  let session ← opened config options file disk
  let (edited, written) ← (session.edit start text key).mapError .refused
  .ok ⟨start, edited, written⟩

def prepareEdit (config : Config) (options : GlobalOptions) (file : String) (start : NumeralText)
    (stop : Option NumeralText) (keyText : NumeralText) (text : String) : Action PlannedEdit := do
  let start ← index start
  let stop ← stop.mapM index
  let key ← key keyText
  let session ← openFile config options file
  match stop with
  | some stop => showCurrent session start stop key
  | none => pure ()
  Action.notice ("Preview: " ++ session.preview text key)
  let (edited, written) ← editSession session start text key
  return ⟨start, edited, written⟩

def shownSpan (start count : Nat) : String :=
  toString start ++ "-" ++ toString (start + count) ++ " with " ++ toString count ++ " characters"

def PlannedEdit.shown (planned : PlannedEdit) : String :=
  "Dry run: would update range " ++ shownSpan planned.start planned.written ++ "\n"
    ++ String.join ((shownRange planned.session planned.start planned.written).map (· ++ "\n"))

def finishEdit (suffix : String) (planned : PlannedEdit) : Bool → Action Unit
  | true => do
    Action.printLine ("Dry run: would update range " ++ shownSpan planned.start planned.written)
    Action.print
      (String.join ((shownRange planned.session planned.start planned.written).map (· ++ "\n")))
  | false => do
    let report ← saveSession planned.session suffix
    Action.printLine <| "Updated range " ++ shownSpan planned.start planned.written ++ " in "
      ++ report.path
    Action.notice ("Backup saved to " ++ report.backupPath)

variable {config : Config} {options : GlobalOptions} {file text : String}
variable {start keyText : NumeralText} {stop : Option NumeralText} {disk after : Disk}

/-- An edit and a dry run part at the end. -/
theorem edit_eq (dryRun : Bool) :
    edit config options file start stop keyText text dryRun
      = prepareEdit config options file start stop keyText text
        >>= fun planned => finishEdit config.backup.suffix planned dryRun := by
  unfold edit prepareEdit
  simp only [bind_assoc]
  refine bind_congr fun first => bind_congr fun stop => bind_congr fun key =>
    bind_congr fun session => ?_
  -- the command branches on the end of the range before the text is hidden
  cases stop <;> cases dryRun <;> simp only [bind_assoc, pure_bind] <;> rfl

/-! ### Up to the end -/

theorem looks_showCurrent (session : Session) (start stop : Nat) (key : Key) :
    (showCurrent session start stop key).Looks disk (.ok ()) := by
  unfold showCurrent
  refine (looks_decodeRange session start stop key).bind_ends ?_
  cases session.decode start stop key with
  | ok current => exact Action.looks_notice _
  | error refusal => exact Action.looks_log _ _ _

theorem looks_editSession (session : Session) (start : Nat) (text : String) (key : Key) :
    (editSession session start text key).Looks disk
      ((session.edit start text key).mapError .refused) := by
  unfold editSession
  refine (Action.looks_accept _).bind_same fun (edited, written) => ?_
  have hlast : Action.Looks (do
      if written < text.length then
        Action.log .warn .edit <| "Only " ++ toString written ++ " of " ++ toString text.length
          ++ " characters fit before the end of the array"
      return (edited, written)) disk (.ok (edited, written)) := by
    split
    · exact (Action.looks_log _ _ _).bind_ends (Action.looks_pure _)
    · exact Action.looks_pure _
  dsimp only
  split
  · exact (Action.looks_log _ _ _).bind_ends ((Action.looks_log _ _ _).bind_ends hlast)
  · exact (Action.looks_log _ _ _).bind_ends hlast

theorem looks_prepareEdit (config : Config) (options : GlobalOptions) (file : String)
    (start : NumeralText) (stop : Option NumeralText) (keyText : NumeralText) (text : String)
    (disk : Disk) :
    (prepareEdit config options file start stop keyText text).Looks disk
      (planEdit config options file start stop keyText text disk) := by
  unfold prepareEdit planEdit
  refine (looks_index start).bind fun first => ?_
  refine (Action.looks_mapM_option looks_index stop).bind fun stop => ?_
  refine (looks_key keyText).bind fun key => ?_
  refine (looks_openFile config options file).bind fun session => ?_
  have hedit : Action.Looks (do
      Action.notice ("Preview: " ++ session.preview text key)
      let (edited, written) ← editSession session first text key
      return PlannedEdit.mk first edited written) disk (do
        let (edited, written) ← (session.edit first text key).mapError Failure.refused
        .ok ⟨first, edited, written⟩) :=
    (Action.looks_notice _).bind_ends
      ((looks_editSession session first text key).bind fun (edited, written) => Action.looks_pure _)
  cases stop with
  | none => exact hedit
  | some stop => exact (looks_showCurrent session first stop key).bind_ends hedit

theorem opened_eq_ok {session : Session} (h : opened config options file disk = .ok session) :
    ∃ dialect source tokens, (config.withMarker options.marker).dialect = .ok dialect
      ∧ disk.readText file = .ok source ∧ dialect.parse source = .ok tokens
      ∧ session = ⟨some file, source, ⟨tokens⟩, dialect⟩ := by
  obtain ⟨dialect, hdialect, hrest⟩ := bind_eq_ok_iff.1 h
  obtain ⟨_, -, hfile⟩ := bind_eq_ok_iff.1 hrest
  obtain ⟨-, source, tokens, hread, hparse, hsession⟩ :=
    Session.ofFile_eq_ok_iff.1 (mapError_eq_ok_iff.1 hfile)
  exact ⟨dialect, source, tokens, mapError_eq_ok_iff.1 hdialect, hread, hparse, hsession⟩

/-- What an edit plans is on the text that the file holds now. -/
theorem planEdit_eq_ok {planned : PlannedEdit}
    (h : planEdit config options file start stop keyText text disk = .ok planned) :
    ∃ dialect source tokens key, (config.withMarker options.marker).dialect = .ok dialect
      ∧ disk.readText file = .ok source ∧ dialect.parse source = .ok tokens
      ∧ indexOf start = .ok planned.start ∧ keyOf keyText = .ok key
      ∧ planned.session = ⟨some file, source,
        ⟨ArrayRange.overwrite tokens planned.start (ArrayRange.encode dialect text key)⟩, dialect⟩
      ∧ planned.written
        = ArrayRange.room tokens planned.start (ArrayRange.encode dialect text key) := by
  obtain ⟨first, hfirst, h⟩ := bind_eq_ok_iff.1 h
  obtain ⟨_, -, h⟩ := bind_eq_ok_iff.1 h
  obtain ⟨key, hkey, h⟩ := bind_eq_ok_iff.1 h
  obtain ⟨session, hopened, h⟩ := bind_eq_ok_iff.1 h
  obtain ⟨dialect, source, tokens, hdialect, hread, hparse, rfl⟩ := opened_eq_ok hopened
  obtain ⟨⟨edited, written⟩, hedit, h⟩ := bind_eq_ok_iff.1 h
  obtain ⟨-, hedited, hwritten⟩ := Session.edit_eq_ok_iff.1 (mapError_eq_ok_iff.1 hedit)
  cases h
  exact ⟨dialect, source, tokens, key, hdialect, hread, hparse, hfirst, hkey, hedited, hwritten⟩

theorem ends_edit_of_planEdit_eq_error {dryRun : Bool} {failure : Failure}
    (hplan : planEdit config options file start stop keyText text disk = .error failure) :
    (edit config options file start stop keyText text dryRun).Ends disk (.error failure) disk
      "" := by
  have hprepare := looks_prepareEdit config options file start stop keyText text disk
  rw [hplan] at hprepare
  rw [edit_eq]
  exact Action.Ends.bind_error hprepare

theorem ends_edit_of_planEdit_eq_ok {dryRun : Bool} {planned : PlannedEdit}
    {result : Except Failure Unit} {printed : String}
    (hplan : planEdit config options file start stop keyText text disk = .ok planned)
    (hfinish : (finishEdit config.backup.suffix planned dryRun).Ends disk result after printed) :
    (edit config options file start stop keyText text dryRun).Ends disk result after printed := by
  have hprepare := looks_prepareEdit config options file start stop keyText text disk
  rw [hplan] at hprepare
  rw [edit_eq]
  exact hprepare.bind_ends hfinish

/-! ### At the end -/

theorem prints_dryRun (suffix : String) (planned : PlannedEdit) :
    (finishEdit suffix planned true).Prints planned.shown :=
  (Action.prints_printLine _).bind (Action.prints_print _)

/-- The command saves as the session does. -/
theorem ends_saveSession (session : Session) (suffix : String) (disk : Disk) :
    (saveSession session suffix).Ends disk
      (((session.save disk suffix).2.map Prod.snd).mapError .file) (session.save disk suffix).1
      "" := by
  unfold saveSession Session.save
  refine Action.looks_disk.bind_ends ?_
  cases session.spliced disk with
  | error failure => exact Action.Ends.bind_error (Action.looks_attempt (.error failure))
  | ok spliced =>
    refine (Action.looks_attempt (.ok spliced)).bind_ends ((Action.looks_log _ _ _).bind_ends ?_)
    dsimp only
    obtain ⟨after, result⟩ := session.commit disk spliced suffix
    refine (Action.ends_setDisk disk after).bind_silent ?_
    cases result with
    | error failure => exact Action.Ends.bind_error (Action.looks_attempt (.error failure))
    | ok saved =>
      exact (Action.looks_attempt (.ok saved)).bind_ends
        ((Action.looks_log _ _ _).bind_ends (Action.looks_pure saved.2))

def PlannedEdit.updated (planned : PlannedEdit) (path : String) : String :=
  "Updated range " ++ shownSpan planned.start planned.written ++ " in " ++ path ++ "\n"

theorem ends_finishEdit_of_ok {suffix : String} {planned : PlannedEdit} {next : Session}
    {report : SaveReport} (h : planned.session.save disk suffix = (after, .ok (next, report))) :
    (finishEdit suffix planned false).Ends disk (.ok ()) after (planned.updated report.path) := by
  have hsave := ends_saveSession planned.session suffix disk
  rw [h] at hsave
  have hprint : Action.Prints (do
      Action.printLine <| "Updated range " ++ shownSpan planned.start planned.written ++ " in "
        ++ report.path
      Action.notice ("Backup saved to " ++ report.backupPath))
        (planned.updated report.path ++ "") :=
    (Action.prints_printLine _).bind (Action.prints_note _)
  rw [String.append_empty] at hprint
  exact hsave.bind_silent (hprint after)

theorem ends_finishEdit_of_error {suffix : String} {planned : PlannedEdit} {failure : FileFailure}
    (h : planned.session.save disk suffix = (after, .error failure)) :
    (finishEdit suffix planned false).Ends disk (.error (.file failure)) after "" := by
  have hsave := ends_saveSession planned.session suffix disk
  rw [h] at hsave
  exact hsave.bind_error

end MaskedLiterals.Command
