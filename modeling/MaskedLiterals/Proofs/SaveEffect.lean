import MaskedLiterals.Proofs.FileTargets
import MaskedLiterals.Proofs.SessionRun
import MaskedLiterals.Proofs.SpliceReadback

/-!
# What a save does to the disk

A save that fails has one of five causes (`Session.SaveFails`), all of them found before the first
write, provided that a file that can be read can be written.  So it leaves the disk and the session
as they were, and one that succeeds writes the file and the backup and nothing else
(`save_all_or_nothing`).  On a disk that is a tree the proviso holds, and a run of a session keeps
the disk one, so it holds at every save of the run (`Work.run_save`).

The backup is written first and the file second, each where its path leads.  Nothing makes sure that
the two lead to different files.  The backup holds the text from before exactly if they do, or if
the save did not change the text (`backup_after_save`): with an empty suffix the text from before is
overwritten (`backup_without_suffix`), and so it is with a suffix that leads back to the file.  That
no other suffix without a slash does so rests on the disk having no links; with a link in the place
of the backup it could.
-/

namespace MaskedLiterals

namespace Session

variable {session next : Session} {disk after saved : Disk} {path suffix : String}
variable {failure : FileFailure} {report : SaveReport} {spliced : Spliced}

/-! ### Saves that fail -/

inductive SaveFails (session : Session) (disk : Disk) (suffix : String) : FileFailure → Prop where
  | noBackingFile (hpath : session.path = none) : SaveFails session disk suffix .noBackingFile
  | unreadable {path : String} {cause : DiskError} (hpath : session.path = some path)
      (hread : disk.readText path = .error cause) :
      SaveFails session disk suffix (.disk path cause)
  | countMismatch {path source : String} (hpath : session.path = some path)
      (hread : disk.readText path = .ok source)
      (hcount : session.dialect.countLiterals source ≠ session.store.length) :
      SaveFails session disk suffix
        (.refused (.countMismatch (session.dialect.countLiterals source) session.store.length))
  | malformedLiteral {path source : String} {front back : List Token} {token : Token}
      (hpath : session.path = some path) (hread : disk.readText path = .ok source)
      (hcount : session.dialect.countLiterals source = session.store.length)
      (htokens : session.store.tokens = front ++ token :: back)
      (hfront : ∀ before ∈ front, ∃ word, before.value session.dialect = .ok word)
      (hvalue : ∀ word, token.value session.dialect ≠ .ok word) :
      SaveFails session disk suffix (.refused (.malformedLiteral token.raw))
  | noBackup {path source : String} {spliced : Spliced} {cause : DiskError}
      (hpath : session.path = some path) (hread : disk.readText path = .ok source)
      (hsplice : session.dialect.splice source session.store.tokens = .ok spliced)
      (htarget : disk.target (backupPath path suffix) = .error cause) :
      SaveFails session disk suffix (.disk (backupPath path suffix) cause)

theorem save_of_spliced_eq_error (h : session.spliced disk = .error failure) :
    session.save disk suffix = (disk, .error failure) := by
  unfold save
  rw [h]

theorem save_of_target_eq_error {cause : DiskError} (hpath : session.path = some path)
    (hspliced : session.spliced disk = .ok spliced)
    (htarget : disk.target (backupPath path suffix) = .error cause) :
    session.save disk suffix = (disk, .error (.disk (backupPath path suffix) cause)) := by
  have hwrite : disk.writeText (backupPath path suffix) spliced.backupText = .error cause :=
    Disk.writeText_eq_error_iff.2 htarget
  unfold save commit
  rw [hspliced, backingFile_eq_ok_iff.2 hpath]
  dsimp only
  rw [hwrite]

/-- Each of the causes makes a save fail, and nothing was written by then. -/
theorem SaveFails.save_eq (h : session.SaveFails disk suffix failure) :
    session.save disk suffix = (disk, .error failure) := by
  cases h with
  | noBackingFile hpath =>
    exact save_of_spliced_eq_error (spliced_eq_error_iff.2 (Or.inl ⟨hpath, rfl⟩))
  | unreadable hpath hread =>
    apply save_of_spliced_eq_error
    exact spliced_eq_error_iff.2 (Or.inr ⟨_, hpath, Or.inl ⟨_, hread, rfl⟩⟩)
  | countMismatch hpath hread hcount =>
    have hsplice := splice_eq_error_iff.2 (Or.inl ⟨hcount, rfl⟩)
    apply save_of_spliced_eq_error
    exact spliced_eq_error_iff.2 (Or.inr ⟨_, hpath, Or.inr ⟨_, _, hread, hsplice, rfl⟩⟩)
  | @malformedLiteral _ _ _ _ token hpath hread hcount htokens hfront hvalue =>
    have hrefused : token.value session.dialect = .error (.malformedLiteral token.raw) := by
      cases hread : token.value session.dialect with
      | ok word => exact absurd hread (hvalue word)
      | error refusal => rw [Token.value_eq_error hread]
    have hsplice := splice_eq_error_iff.2
      (Or.inr ⟨hcount, _, _, _, htokens, hfront, hrefused⟩)
    apply save_of_spliced_eq_error
    exact spliced_eq_error_iff.2 (Or.inr ⟨_, hpath, Or.inr ⟨_, _, hread, hsplice, rfl⟩⟩)
  | noBackup hpath hread hsplice htarget =>
    exact save_of_target_eq_error hpath (spliced_eq_ok_iff.2 ⟨_, _, hpath, hread, hsplice⟩) htarget

theorem saveFails_of_spliced_eq_error (h : session.spliced disk = .error failure) :
    session.SaveFails disk suffix failure := by
  rcases spliced_eq_error_iff.1 h with ⟨hpath, rfl⟩ | ⟨path, hpath, hrest⟩
  · exact .noBackingFile hpath
  · rcases hrest with ⟨cause, hread, rfl⟩ | ⟨source, refusal, hread, hsplice, rfl⟩
    · exact .unreadable hpath hread
    · rcases splice_eq_error_iff.1 hsplice with ⟨hcount, rfl⟩
        | ⟨hcount, front, token, back, htokens, hfront, hvalue⟩
      · exact .countMismatch hpath hread hcount
      · rw [Token.value_eq_error hvalue]
        refine .malformedLiteral hpath hread hcount htokens hfront fun word hword => ?_
        rw [hvalue] at hword
        cases hword

/-- There is no other cause: behind the backup nothing can fail. -/
theorem saveFails_or_exists_save_eq_ok (hreopen : disk.CanReopen) :
    (∃ failure, session.SaveFails disk suffix failure)
      ∨ ∃ saved next report, session.save disk suffix = (saved, .ok (next, report)) := by
  cases hspliced : session.spliced disk with
  | error failure => exact Or.inl ⟨failure, saveFails_of_spliced_eq_error hspliced⟩
  | ok spliced =>
    obtain ⟨path, source, hpath, hread, hsplice⟩ := spliced_eq_ok_iff.1 hspliced
    cases htarget : disk.target (backupPath path suffix) with
    | error cause => exact Or.inl ⟨_, .noBackup hpath hread hsplice htarget⟩
    | ok place =>
      obtain ⟨backed, hbacked⟩ := Disk.exists_writeText htarget spliced.backupText
      -- the file was read, so it can be written, and the backup has not changed that
      obtain ⟨location, hlocation⟩ := hreopen path _ (Disk.readText_eq_ok_iff.1 hread)
      have hstill := (Disk.target_writeBytes_iff hbacked).2 hlocation
      obtain ⟨saved, hsaved⟩ := Disk.exists_writeText hstill spliced.newText
      exact Or.inr ⟨saved, _, _, save_eq_ok_iff.2
        ⟨path, source, spliced, backed, hpath, hread, hsplice, hbacked, hsaved, rfl, rfl⟩⟩

theorem save_eq_error_iff (hreopen : disk.CanReopen) :
    session.save disk suffix = (after, .error failure)
      ↔ after = disk ∧ session.SaveFails disk suffix failure := by
  constructor
  · intro h
    rcases @saveFails_or_exists_save_eq_ok session disk suffix hreopen with
      ⟨cause, hcause⟩ | ⟨saved, next, report, hsaved⟩
    · rw [hcause.save_eq] at h
      cases h
      exact ⟨rfl, hcause⟩
    · rw [hsaved] at h
      cases h
  · rintro ⟨rfl, hfails⟩
    exact hfails.save_eq

/-! ### Saves that succeed -/

/-- What a save that succeeds leaves at each place: the new text where the file is, the old one where
    the backup is if that is another place, and everywhere else what was there. -/
theorem find?_save (h : session.save disk suffix = (saved, .ok (next, report))) :
    ∃ path source newText location place, session.path = some path
      ∧ disk.readText path = .ok source
      ∧ session.dialect.splice source session.store.tokens = .ok ⟨newText, source⟩
      ∧ disk.target path = .ok location ∧ disk.target (backupPath path suffix) = .ok place
      ∧ saved.target path = .ok location ∧ saved.target (backupPath path suffix) = .ok place
      ∧ (∀ other, saved.find? other = if other = location then some (.file newText.toUTF8)
        else if other = place then some (.file source.toUTF8) else disk.find? other)
      ∧ next = { session with source := newText }
      ∧ report = ⟨path, backupPath path suffix, session.store.length⟩ := by
  obtain ⟨path, source, spliced, backed, hpath, hread, hsplice, hbacked, hsaved, hnext, hreport⟩ :=
    save_eq_ok_iff.1 h
  obtain ⟨-, -, rfl⟩ := splice_eq_ok_iff.1 hsplice
  obtain ⟨place, hplace, hfirst⟩ := Disk.find?_write hbacked
  obtain ⟨location, hlocation, hsecond⟩ := Disk.find?_write hsaved
  have hbackupLast := (Disk.target_writeBytes_iff hsaved).2
    ((Disk.target_writeBytes_iff hbacked).2 hplace)
  have hfileLast := (Disk.target_writeBytes_iff hsaved).2 hlocation
  refine ⟨path, source, _, location, place, hpath, hread, hsplice,
    (Disk.target_writeBytes_iff hbacked).1 hlocation, hplace, hfileLast, hbackupLast, ?_, hnext,
    hreport⟩
  intro other
  rw [hsecond, hfirst]

theorem isTree_save (h : disk.IsTree) : (session.save disk suffix).1.IsTree := by
  rcases @saveFails_or_exists_save_eq_ok session disk suffix h.canReopen with
    ⟨cause, hcause⟩ | ⟨saved, next, report, hsaved⟩
  · rw [hcause.save_eq]
    exact h
  · obtain ⟨path, source, spliced, backed, -, -, -, hbacked, hwritten, -, -⟩ :=
      save_eq_ok_iff.1 hsaved
    rw [hsaved]
    exact (h.writeBytes hbacked).writeBytes hwritten

end Session

/-! ### Disks that stay trees -/

namespace Work

variable {work : Work}

theorem isTree_after {event : Event} (h : work.disk.IsTree)
    (hothers : ∀ disk, event = .disturb disk → disk.IsTree) : (work.after event).disk.IsTree := by
  unfold after
  cases event with
  | edit edit => dsimp only; split <;> exact h
  | decode start stop key => exact h
  | preview text key => exact h
  | writeListing path =>
    dsimp only
    split
    · next disk hlisting => exact h.writeBytes (mapError_eq_ok_iff.1 hlisting)
    · exact h
  | reload => dsimp only; split <;> exact h
  | save suffix =>
    have hsaved := @Session.isTree_save work.session work.disk suffix h
    dsimp only
    split
    · next hsave =>
      rw [hsave] at hsaved
      exact hsaved
    · next hsave =>
      rw [hsave] at hsaved
      exact hsaved
  | disturb disk => exact hothers disk rfl

/-- What is done with a session on a tree leaves a tree, if others leave trees. -/
theorem isTree_run {events : List Event} (h : work.disk.IsTree)
    (hothers : ∀ disk, .disturb disk ∈ events → disk.IsTree) : (work.run events).disk.IsTree := by
  induction events generalizing work with
  | nil => exact h
  | cons event events ih =>
    apply ih
    · apply isTree_after h
      rintro disk rfl
      exact hothers disk List.mem_cons_self
    · intro disk hdisk
      exact hothers disk (List.mem_cons_of_mem _ hdisk)

theorem after_save_of_saveFails {suffix : String} {failure : FileFailure}
    (h : work.session.SaveFails work.disk suffix failure) : work.after (.save suffix) = work := by
  unfold after
  dsimp only
  rw [h.save_eq]

theorem after_save_of_eq_ok {suffix : String} {saved : Disk} {next : Session} {report : SaveReport}
    (h : work.session.save work.disk suffix = (saved, .ok (next, report))) :
    work.after (.save suffix) = { work with session := next, disk := saved } := by
  unfold after
  dsimp only
  rw [h]

/-- **In a run on a tree every save does all of it or nothing.**  Wherever in the run it comes, it
    succeeds, or it fails for one of the five causes and might as well not have been asked for. -/
theorem run_save {events : List Event} (h : work.disk.IsTree)
    (hothers : ∀ disk, .disturb disk ∈ events → disk.IsTree) (suffix : String) :
    (∃ failure, (work.run events).session.SaveFails (work.run events).disk suffix failure
      ∧ work.run (events ++ [.save suffix]) = work.run events)
    ∨ ∃ saved next report, (work.run events).session.save (work.run events).disk suffix
        = (saved, .ok (next, report))
      ∧ work.run (events ++ [.save suffix])
        = { work.run events with session := next, disk := saved } := by
  have hreopen := (isTree_run h hothers).canReopen
  rw [run_concat]
  rcases @Session.saveFails_or_exists_save_eq_ok (work.run events).session (work.run events).disk
    suffix hreopen with ⟨failure, hfails⟩ | ⟨saved, next, report, hsave⟩
  · exact Or.inl ⟨failure, hfails, after_save_of_saveFails hfails⟩
  · exact Or.inr ⟨saved, next, report, hsave, after_save_of_eq_ok hsave⟩

end Work

/-- **Saving does all of it or nothing.**  A save fails exactly for one of the five causes, and then
    the disk and the session are what they were.  A save that succeeds puts the array into the text
    that the file holds at that moment, whatever text the session has, keeps all of the session but
    its text, and leaves every place as it was but those of the file and of the backup. -/
theorem save_all_or_nothing (work : Work) (suffix : String) (hreopen : work.disk.CanReopen) :
    (∀ failure, (work.session.save work.disk suffix).2 = .error failure
      ↔ work.session.SaveFails work.disk suffix failure)
    ∧ (∀ failure, (work.session.save work.disk suffix).2 = .error failure →
      work.after (.save suffix) = work)
    ∧ (∀ next report, (work.session.save work.disk suffix).2 = .ok (next, report) →
      ∃ path source newText location place, work.session.path = some path
        ∧ work.disk.readText path = .ok source
        ∧ work.session.dialect.splice source work.session.store.tokens = .ok ⟨newText, source⟩
        ∧ (work.after (.save suffix)).disk.readText path = .ok newText
        ∧ (work.after (.save suffix)).session = { work.session with source := newText }
        ∧ next = (work.after (.save suffix)).session
        ∧ report = ⟨path, Session.backupPath path suffix, work.session.store.length⟩
        ∧ work.disk.target path = .ok location
        ∧ work.disk.target (Session.backupPath path suffix) = .ok place
        ∧ ∀ other, other ≠ location → other ≠ place →
          (work.after (.save suffix)).disk.find? other = work.disk.find? other) := by
  have hfails (failure : FileFailure) : (work.session.save work.disk suffix).2 = .error failure
      ↔ work.session.SaveFails work.disk suffix failure := by
    constructor
    · intro h
      exact ((Session.save_eq_error_iff hreopen).1 (Prod.ext rfl h)).2
    · intro h
      rw [h.save_eq]
  refine ⟨hfails, fun failure h => ?_, fun next report h => ?_⟩
  · exact Work.after_save_of_saveFails ((hfails failure).1 h)
  · have hsave : work.session.save work.disk suffix
        = ((work.session.save work.disk suffix).1, .ok (next, report)) := Prod.ext rfl h
    have hafter := Work.after_save_of_eq_ok hsave
    obtain ⟨path, source, newText, location, place, hpath, hread, hsplice, hlocation, hplace,
      hfileLast, -, hfind, rfl, rfl⟩ := Session.find?_save hsave
    rw [hafter]
    refine ⟨path, source, newText, location, place, hpath, hread, hsplice, ?_, rfl, rfl, rfl,
      hlocation, hplace, ?_⟩
    · refine Disk.readText_eq_ok_iff.2 (Disk.readBytes_eq_ok_iff.2
        ⟨location, Disk.locate_of_target hfileLast, ?_⟩)
      rw [hfind, if_pos rfl]
    · intro other hfile hbackup
      rw [hfind, if_neg hfile, if_neg hbackup]

/-- A directory stands where the backup should go, and nothing happens. -/
theorem save_all_or_nothing_directory_in_the_way :
    ∃ work : Work, work.disk.CanReopen
      ∧ work.session.SaveFails work.disk ".b" (.disk "a.b" .isADirectory)
      ∧ work.after (.save ".b") = work := by
  let disk : Disk := ⟨[(["a"], .file "0x5s".toUTF8), (["a.b"], .directory)], []⟩
  let work : Work := ⟨⟨some "a", "0x5s", ⟨[⟨"0x0041s"⟩]⟩, .smaliShort⟩, disk, [⟨0, 1⟩]⟩
  have hreopen : disk.CanReopen := by
    apply Disk.IsTree.canReopen
    apply Disk.isTree_of_forall_mem
    simp [disk, Disk.find?]
  have hread : disk.readText "a" = .ok "0x5s" := by cbv
  have hsplice : Dialect.smaliShort.splice "0x5s" [⟨"0x0041s"⟩] = .ok ⟨"0x0041s", "0x5s"⟩ := by cbv
  have htarget : disk.target (Session.backupPath "a" ".b") = .error .isADirectory := by cbv
  have hfails : work.session.SaveFails disk ".b" (.disk "a.b" .isADirectory) :=
    .noBackup rfl hread hsplice htarget
  obtain ⟨hcause, hnothing, -⟩ := save_all_or_nothing work ".b" hreopen
  exact ⟨work, hreopen, hfails, hnothing _ ((hcause _).2 hfails)⟩

/-! ### Backups -/

/-- **When the backup is one.**  After a save the file holds the array in the text from before.  The
    path of the backup leads to the octets from before exactly if it leads to another file or the
    text is still the same; if it leads to the file itself, it leads to the new text.  So it does
    with an empty suffix, and never with another one that has no slash, as there are no links. -/
theorem backup_after_save {session next : Session} {disk saved : Disk} {suffix : String}
    {report : SaveReport} (h : session.save disk suffix = (saved, .ok (next, report))) :
    ∃ path source location place, session.path = some path ∧ report.path = path
      ∧ report.backupPath = path ++ suffix
      ∧ disk.readBytes path = .ok source.toUTF8
      ∧ session.dialect.splice source session.store.tokens = .ok ⟨next.source, source⟩
      ∧ saved.readBytes path = .ok next.source.toUTF8
      ∧ disk.target path = .ok location ∧ disk.target report.backupPath = .ok place
      ∧ (saved.readBytes report.backupPath = disk.readBytes path
        ↔ place ≠ location ∨ next.source = source)
      ∧ (place = location → saved.readBytes report.backupPath = .ok next.source.toUTF8)
      ∧ (suffix = "" → place = location)
      ∧ (suffix ≠ "" → '/' ∉ suffix.toList → place ≠ location) := by
  obtain ⟨path, source, newText, location, place, hpath, hread, hsplice, hlocation, hplace,
    hfileLast, hbackupLast, hfind, rfl, rfl⟩ := Session.find?_save h
  have hold := Disk.readText_eq_ok_iff.1 hread
  have hnew : saved.readBytes path = .ok newText.toUTF8 :=
    Disk.readBytes_eq_ok_iff.2 ⟨location, Disk.locate_of_target hfileLast, by rw [hfind, if_pos rfl]⟩
  have hbackup : saved.readBytes (Session.backupPath path suffix)
      = .ok (if place = location then newText.toUTF8 else source.toUTF8) := by
    refine Disk.readBytes_eq_ok_iff.2 ⟨place, Disk.locate_of_target hbackupLast, ?_⟩
    rw [hfind]
    split
    · rfl
    · rw [if_pos rfl]
  refine ⟨path, source, location, place, hpath, rfl, rfl, hold, hsplice, hnew, hlocation, hplace,
    ?_, ?_, ?_, ?_⟩
  · dsimp only
    rw [hbackup, hold, Except.ok.injEq]
    by_cases hsame : place = location
    · rw [if_pos hsame]
      simp [hsame, String.toUTF8_eq_toByteArray, String.toByteArray_inj]
    · simp [hsame]
  · intro hsame
    dsimp only
    rw [hbackup, if_pos hsame]
  · rintro rfl
    have hboth : disk.target path = .ok place := by
      rw [← hplace, Session.backupPath, String.append_empty]
    rw [hlocation] at hboth
    exact (Except.ok.inj hboth).symm
  · intro hsuffix hslash
    exact Disk.target_append_ne hsuffix hslash hlocation hplace

/-- A suffix with slashes can lead back to the file, and then the text from before is gone. -/
theorem backup_after_save_way_back :
    ∃ (disk saved : Disk) (session next : Session) (report : SaveReport),
      session.save disk "d/../a" = (saved, .ok (next, report))
      ∧ report.backupPath = "ad/../a"
      ∧ disk.readBytes "a" = .ok "0x5s".toUTF8
      ∧ saved.readBytes report.backupPath ≠ disk.readBytes "a" := by
  let disk : Disk := ⟨[(["a"], .file "0x5s".toUTF8), (["ad"], .directory)], []⟩
  let saved : Disk := ⟨[(["a"], .file "0x0041s".toUTF8), (["ad"], .directory)], []⟩
  let session : Session := ⟨some "a", "0x5s", ⟨[⟨"0x0041s"⟩]⟩, .smaliShort⟩
  let next : Session := { session with source := "0x0041s" }
  have hlocation : disk.target "a" = .ok ["a"] := by cbv
  have hcheck : Disk.checkPath "ad/../a" = .ok () :=
    Disk.checkPath_eq_ok_iff.2 ⟨by decide, by decide, by decide⟩
  have hstart : disk.startOf "ad/../a" = [] := ite_self []
  have hwalk : disk.walk [] ["ad", ".."] = .ok [] := by cbv
  have hplace : disk.target "ad/../a" = .ok ["a"] :=
    Disk.target_eq_ok_iff.2 ⟨hcheck, by cbv, ["ad", ".."], "a", [], by cbv, by rw [hstart, hwalk],
      rfl, by decide, by decide, by decide, rfl, by decide⟩
  have hold : disk.readBytes "a" = .ok "0x5s".toUTF8 := by cbv
  have hwrite : disk.writeText "ad/../a" "0x5s" = .ok disk :=
    Disk.writeText_eq_ok_iff.2 ⟨_, hplace, by cbv⟩
  have hsave : session.save disk "d/../a" = (saved, .ok (next, ⟨"a", "ad/../a", 1⟩)) := by
    refine Session.save_eq_ok_iff.2 ⟨"a", "0x5s", ⟨"0x0041s", "0x5s"⟩, disk, rfl, ?_, ?_, hwrite, ?_,
      rfl, rfl⟩
    all_goals cbv
  obtain ⟨path, source, location, place, hpath, -, -, hread, -, -, hfile, hbackup, hiff, -⟩ :=
    backup_after_save hsave
  cases hpath
  obtain rfl := Except.ok.inj (hlocation.symm.trans hfile)
  obtain rfl := Except.ok.inj (hplace.symm.trans hbackup)
  refine ⟨disk, saved, session, next, _, hsave, rfl, hold, fun hsame => ?_⟩
  rcases hiff.1 hsame with hother | htext
  · exact hother rfl
  · rw [← htext, hold] at hread
    exact absurd (Except.ok.inj hread) (by decide)

/-- Without a suffix the backup is the file: what it held is overwritten, and is nowhere else. -/
theorem backup_without_suffix :
    ∃ (disk saved : Disk) (opened session next : Session) (report : SaveReport),
      Session.ofFile disk .smaliShort "a" 0 = .ok opened
      ∧ opened.edit 0 "A" 0 = .ok (session, 1)
      ∧ session.save disk "" = (saved, .ok (next, report))
      ∧ disk.readBytes "a" = .ok "0x5s".toUTF8
      ∧ saved.readBytes report.backupPath = .ok "0x0041s".toUTF8
      ∧ saved.readBytes report.backupPath ≠ disk.readBytes "a"
      ∧ saved.files = [("a", "0x0041s".toUTF8)] := by
  refine ⟨⟨[(["a"], .file "0x5s".toUTF8)], []⟩, ⟨[(["a"], .file "0x0041s".toUTF8)], []⟩,
    ⟨some "a", "0x5s", ⟨[⟨"0x5s"⟩]⟩, .smaliShort⟩,
    ⟨some "a", "0x5s", ⟨[⟨"0x0041s"⟩]⟩, .smaliShort⟩,
    ⟨some "a", "0x0041s", ⟨[⟨"0x0041s"⟩]⟩, .smaliShort⟩, ⟨"a", "a", 1⟩, ?_, ?_, ?_, ?_, ?_, ?_, ?_⟩
  · cbv
  · cbv
  · cbv
  · cbv
  · cbv
  · decide
  · cbv

end MaskedLiterals
