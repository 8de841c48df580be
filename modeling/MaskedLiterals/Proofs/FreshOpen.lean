import MaskedLiterals.Proofs.DiskWrite
import MaskedLiterals.Proofs.SessionInvariant

/-!
# Reading a file again

A session is loaded in two places: when it is opened on a file, and when it reads its file again
later.  The two come to the same (`reload_eq_ofFile`): the text, the array and the path are those of
a session that is opened on the file now, or the cause is the one for which it cannot be opened, and
then the session stays as it is.  What was edited, saved or read before makes no difference, since
the path and the dialect are all that is kept and no operation changes them (`path_run`).

A limit on the size of a file decides whether it is opened, but not what is read from it.
-/

namespace MaskedLiterals

variable {dialect : Dialect} {disk : Disk} {path : String} {limit : Nat}

theorem Disk.readText_eq_error_of_size {cause : DiskError} (h : disk.size path = .error cause) :
    disk.readText path = .error cause := by
  have hlookup : disk.lookup path = .error cause := by
    rcases bind_eq_error_iff.1 h with hlookup | ⟨entry, -, hentry⟩
    · exact hlookup
    · cases entry <;> cases hentry
  unfold readText readBytes
  rw [hlookup]
  rfl

namespace Session

variable {session : Session}

/-! ### The two ways to load -/

theorem reload_eq_ofFile (hpath : session.path = some path) :
    session.reload disk = ofFile disk session.dialect path 0 := by
  have hbacking : session.backingFile = .ok path := backingFile_eq_ok_iff.2 hpath
  have hsize : checkSize disk path 0 = .ok () := rfl
  unfold reload ofFile
  rw [hbacking, hsize]
  simp only [bind, Except.bind]
  -- both go on with what the file holds, and then with its array
  cases hread : readSource disk path with
  | error failure => rfl
  | ok source =>
    unfold ofText ArrayStore.ofText
    cases hparse : session.dialect.parse source with
    | error refusal =>
      dsimp only
      rw [hparse]
      rfl
    | ok tokens =>
      dsimp only
      rw [hparse, hpath]
      rfl

/-! ### Limits -/

theorem ofFile_of_size_eq_error {cause : DiskError} (h : disk.size path = .error cause) :
    ofFile disk dialect path limit = .error (.disk path cause) := by
  have hread : readSource disk path = .error (.disk path cause) := by
    rw [readSource, Disk.readText_eq_error_of_size h]
    rfl
  unfold ofFile checkSize
  rw [hread, h]
  by_cases hlimit : limit = 0
  · rw [if_pos hlimit]
    rfl
  · rw [if_neg hlimit]
    rfl

theorem ofFile_of_large {size : Nat} (hsize : disk.size path = .ok size) (hlimit : limit ≠ 0)
    (hlarge : limit < size) :
    ofFile disk dialect path limit = .error (.tooLarge path size limit) := by
  unfold ofFile checkSize
  rw [if_neg hlimit, hsize]
  dsimp only
  rw [if_pos hlarge]
  rfl

/-- Within the limit a file is opened as if there was none. -/
theorem ofFile_of_checkSize (h : checkSize disk path limit = .ok ()) :
    ofFile disk dialect path limit = ofFile disk dialect path 0 := by
  unfold ofFile
  rw [h]
  rfl

theorem ofFile_limit (hlimit : limit ≠ 0) :
    (∃ size, disk.size path = .ok size ∧ limit < size
      ∧ ofFile disk dialect path limit = .error (.tooLarge path size limit))
    ∨ (∀ size, disk.size path = .ok size → size ≤ limit)
      ∧ ofFile disk dialect path limit = ofFile disk dialect path 0 := by
  cases hsize : disk.size path with
  | error cause =>
    refine Or.inr ⟨?_, ?_⟩
    · rintro size ⟨⟩
    · rw [ofFile_of_size_eq_error hsize, ofFile_of_size_eq_error hsize]
  | ok size =>
    by_cases hlarge : limit < size
    · exact Or.inl ⟨size, rfl, hlarge, ofFile_of_large hsize hlimit hlarge⟩
    · have hle := Nat.le_of_not_lt hlarge
      refine Or.inr ⟨?_, ofFile_of_checkSize (checkSize_eq_ok_iff.2 (Or.inr ⟨size, hsize, hle⟩))⟩
      rintro other ⟨⟩
      exact hle

theorem utf8ByteSize_source_le (hlimit : limit ≠ 0)
    (h : ofFile disk dialect path limit = .ok session) : session.source.utf8ByteSize ≤ limit := by
  obtain ⟨hcheck, source, tokens, hread, -, rfl⟩ := ofFile_eq_ok_iff.1 h
  rcases checkSize_eq_ok_iff.1 hcheck with hzero | ⟨size, hsize, hle⟩
  · exact absurd hzero hlimit
  · rw [Disk.size_of_readText hread] at hsize
    cases hsize
    exact hle

end Session

/-! ### The file of a session -/

namespace Work

variable (work : Work)

theorem path_after (event : Event) : (work.after event).session.path = work.session.path := by
  cases event with
  | edit edit => rw [work.session_after_edit edit]
  | decode start stop key => rfl
  | preview text key => rfl
  | writeListing path =>
    unfold after
    dsimp only
    split <;> rfl
  | reload =>
    unfold after
    dsimp only
    split
    · next session hreload =>
      obtain ⟨path, source, tokens, -, -, -, rfl⟩ := Session.reload_eq_ok_iff.1 hreload
      rfl
    · rfl
  | save suffix =>
    unfold after
    dsimp only
    split
    · next disk session report hsave =>
      obtain ⟨path, source, spliced, backed, -, -, -, -, -, rfl, -⟩ := Session.save_eq_ok_iff.1 hsave
      rfl
    · rfl
  | disturb disk => rfl

/-- A session stays on the file that it was opened on. -/
theorem path_run (events : List Event) : (work.run events).session.path = work.session.path := by
  induction events using List.reverseRecOn with
  | nil => rfl
  | append_singleton events event ih => rw [run_concat, path_after, ih]

variable {work}

theorem after_reload_of_eq_ok {session : Session} (h : work.session.reload work.disk = .ok session) :
    work.after .reload = ⟨session, work.disk, []⟩ := by
  unfold after
  dsimp only
  rw [h]

theorem after_reload_of_eq_error {failure : FileFailure}
    (h : work.session.reload work.disk = .error failure) : work.after .reload = work := by
  unfold after
  dsimp only
  rw [h]

end Work

/-- **Reading the file again is opening it**, at any time and whatever the disk has become.  The
    session that comes of it is the one that is opened, with nothing left of earlier edits, or else
    session and record are as they were.  A limit on the size refuses what is larger than it and
    makes no other difference, so no text that is read has more octets than the limit. -/
theorem reload_isFreshOpen {work : Work} (h : Reachable dialect work)
    (hpath : work.session.path = some path) :
    (∀ (events : List Event) (now : Disk),
      (work.run events).session.reload now = Session.ofFile now dialect path 0)
    ∧ (∀ fresh, Session.ofFile work.disk dialect path 0 = .ok fresh →
      work.after .reload = ⟨fresh, work.disk, []⟩)
    ∧ (∀ failure, Session.ofFile work.disk dialect path 0 = .error failure →
      work.after .reload = work)
    ∧ ∀ (now : Disk) (other : Dialect) (file : String) (limit : Nat), limit ≠ 0 →
      ((∃ size, now.size file = .ok size ∧ limit < size
          ∧ Session.ofFile now other file limit = .error (.tooLarge file size limit))
        ∨ (∀ size, now.size file = .ok size → size ≤ limit)
          ∧ Session.ofFile now other file limit = Session.ofFile now other file 0)
      ∧ ∀ opened, Session.ofFile now other file limit = .ok opened →
        opened.source.utf8ByteSize ≤ limit := by
  have hreload : ∀ (events : List Event) (now : Disk),
      (work.run events).session.reload now = Session.ofFile now dialect path 0 := by
    intro events now
    have hsame := (work.path_run events).trans hpath
    rw [Session.reload_eq_ofFile hsame, (h.run events).isSound.dialect_eq]
  refine ⟨hreload, ?_, ?_, ?_⟩
  · intro fresh hfresh
    exact Work.after_reload_of_eq_ok ((hreload [] work.disk).trans hfresh)
  · intro failure hfailure
    exact Work.after_reload_of_eq_error ((hreload [] work.disk).trans hfailure)
  · intro now other file limit hlimit
    refine ⟨Session.ofFile_limit hlimit, ?_⟩
    intro opened hopened
    exact Session.utf8ByteSize_source_le hlimit hopened

/-- After an edit the file has lost its literals: it is not read again, and the edit is kept.  Then
    it has another one, which is too much for a limit of three octets. -/
theorem reload_isFreshOpen_after_edit :
    ∃ (work : Work) (emptied other : Disk) (fresh : Session),
      work.session.store.lines = ["0x0041s"]
      ∧ emptied.readText "a" = .ok "none"
      ∧ (work.after (.disturb emptied)).after .reload = work.after (.disturb emptied)
      ∧ Session.ofFile other .smaliShort "a" 0 = .ok fresh
      ∧ (work.after (.disturb other)).after .reload = ⟨fresh, other, []⟩
      ∧ Session.ofFile other .smaliShort "a" 3 = .error (.tooLarge "a" 4 3) := by
  let disk (text : String) : Disk := ⟨[(["a"], .file text.toUTF8)], []⟩
  let fresh : Session := ⟨some "a", "0x7s", ⟨[⟨"0x7s"⟩]⟩, .smaliShort⟩
  have hopened : Session.ofFile (disk "0x5s") .smaliShort "a" 0
      = .ok ⟨some "a", "0x5s", ⟨[⟨"0x5s"⟩]⟩, .smaliShort⟩ := by cbv
  have hrefused : Session.ofFile (disk "none") .smaliShort "a" 0 = .error (.refused .noLiterals) := by
    cbv
  have hfresh : Session.ofFile (disk "0x7s") .smaliShort "a" 0 = .ok fresh := by cbv
  have hedited := (Reachable.ofFile hopened).after (.edit ⟨0, "A", 0⟩)
  obtain ⟨-, -, hkept, -⟩ := reload_isFreshOpen (hedited.after (.disturb (disk "none"))) rfl
  obtain ⟨-, hread, -, hlimits⟩ := reload_isFreshOpen (hedited.after (.disturb (disk "0x7s"))) rfl
  refine ⟨_, disk "none", disk "0x7s", fresh, by cbv, by cbv, hkept _ hrefused, hfresh,
    hread _ hfresh, ?_⟩
  rcases (hlimits (disk "0x7s") .smaliShort "a" 3 (by decide)).1 with ⟨size, hsize, -, hlarge⟩ | h
  · have hfour : (disk "0x7s").size "a" = .ok 4 := by cbv
    obtain rfl := Except.ok.inj (hfour.symm.trans hsize)
    exact hlarge
  · exact absurd (h.1 4 (by cbv)) (by decide)

end MaskedLiterals
