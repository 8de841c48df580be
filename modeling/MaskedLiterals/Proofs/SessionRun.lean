import MaskedLiterals.Proofs.Outcome
import MaskedLiterals.Proofs.ScanExactness
import MaskedLiterals.Session

/-!
# Sessions at work

`Work` is a session together with the disk that it meets and a record of the ranges that edits
wrote since the array was last loaded.  The record is there for statements alone; no operation
reads it.  `Event` is what a caller can ask of a session, in any order, and also what others do to
the disk in between, about which nothing is assumed.  An operation that fails leaves the session as
it was, but a failed save may have changed the disk.

`Reachable` is everything that can come about in this way from a session that was opened on a file
or on a text.
-/

namespace MaskedLiterals

structure Edit where
  start : Nat
  text : String
  key : Key
  deriving DecidableEq, Repr, Inhabited

inductive Event where
  | edit (edit : Edit)
  | decode (start stop : Nat) (key : Key)
  | preview (text : String) (key : Key)
  | writeListing (path : String)
  | reload
  | save (suffix : String)
  /-- Others leave the disk like this. -/
  | disturb (disk : Disk)

/-- A session, the disk as it is, and what was edited since the array was last loaded. -/
structure Work where
  session : Session
  disk : Disk
  edited : List Extent

namespace Work

/-- Some edit wrote this element since the array was last loaded. -/
def IsEdited (work : Work) (k : Nat) : Prop :=
  ∃ span ∈ work.edited, span.start ≤ k ∧ k < span.stop

def after (work : Work) : Event → Work
  | .edit edit =>
    match work.session.edit edit.start edit.text edit.key with
    | .ok (session, written) =>
      { work with session, edited := ⟨edit.start, edit.start + written⟩ :: work.edited }
    | .error _ => work
  | .decode _ _ _ => work
  | .preview _ _ => work
  | .writeListing path =>
    match work.session.writeListing work.disk path with
    | .ok disk => { work with disk }
    | .error _ => work
  | .reload =>
    match work.session.reload work.disk with
    | .ok session => { work with session, edited := [] }
    | .error _ => work
  | .save suffix =>
    match work.session.save work.disk suffix with
    | (disk, .ok (session, _)) => { work with session, disk }
    | (disk, .error _) => { work with disk }
  | .disturb disk => { work with disk }

def run (work : Work) (events : List Event) : Work := events.foldl after work

theorem run_concat (work : Work) (events : List Event) (event : Event) :
    work.run (events ++ [event]) = (work.run events).after event := by
  simp [run]

end Work

/-- What can come about with sessions of a dialect. -/
inductive Reachable (dialect : Dialect) : Work → Prop where
  | ofFile {disk : Disk} {path : String} {limit : Nat} {session : Session}
      (opened : Session.ofFile disk dialect path limit = .ok session) :
      Reachable dialect ⟨session, disk, []⟩
  | ofText {disk : Disk} {source : String} {session : Session}
      (opened : Session.ofText dialect source = .ok session) :
      Reachable dialect ⟨session, disk, []⟩
  | after {work : Work} (event : Event) (reached : Reachable dialect work) :
      Reachable dialect (work.after event)

theorem Reachable.run {dialect : Dialect} {work : Work} (h : Reachable dialect work)
    (events : List Event) : Reachable dialect (work.run events) := by
  induction events generalizing work with
  | nil => exact h
  | cons event events ih => exact ih (h.after event)

/-! ### What the operations of a session do -/

namespace Session

variable {session next : Session} {disk now : Disk} {dialect : Dialect}

theorem ofText_eq_ok_iff {source : String} :
    ofText dialect source = .ok session
      ↔ ∃ tokens, dialect.parse source = .ok tokens
        ∧ session = ⟨none, source, ⟨tokens⟩, dialect⟩ := by
  unfold ofText ArrayStore.ofText
  simp only [map_eq_ok_iff]
  constructor
  · rintro ⟨_, ⟨tokens, hparse, rfl⟩, rfl⟩
    exact ⟨tokens, hparse, rfl⟩
  · rintro ⟨tokens, hparse, rfl⟩
    exact ⟨⟨tokens⟩, ⟨tokens, hparse, rfl⟩, rfl⟩

theorem readSource_eq_ok_iff {path source : String} :
    readSource disk path = .ok source ↔ disk.readText path = .ok source := mapError_eq_ok_iff

theorem checkSize_eq_ok_iff {path : String} {limit : Nat} :
    checkSize disk path limit = .ok ()
      ↔ limit = 0 ∨ ∃ size, disk.size path = .ok size ∧ size ≤ limit := by
  unfold checkSize
  by_cases hlimit : limit = 0
  · simp [hlimit]
  · rw [if_neg hlimit]
    cases hsize : disk.size path with
    | error cause => simp [hlimit]
    | ok size =>
      by_cases hlarge : limit < size
      · simp [hlimit, hlarge]
      · simp [hlimit, hlarge, Nat.le_of_not_lt hlarge]

theorem ofFile_eq_ok_iff {path : String} {limit : Nat} :
    ofFile disk dialect path limit = .ok session
      ↔ checkSize disk path limit = .ok ()
        ∧ ∃ source tokens, disk.readText path = .ok source ∧ dialect.parse source = .ok tokens
          ∧ session = ⟨some path, source, ⟨tokens⟩, dialect⟩ := by
  unfold ofFile
  simp only [bind_eq_ok_iff, readSource_eq_ok_iff, mapError_eq_ok_iff, ofText_eq_ok_iff,
    Except.ok.injEq]
  constructor
  · rintro ⟨_, hsize, source, hread, _, ⟨tokens, hparse, rfl⟩, rfl⟩
    exact ⟨hsize, source, tokens, hread, hparse, rfl⟩
  · rintro ⟨hsize, source, tokens, hread, hparse, rfl⟩
    exact ⟨(), hsize, source, hread, _, ⟨tokens, hparse, rfl⟩, rfl⟩

theorem backingFile_eq_ok_iff {path : String} :
    session.backingFile = .ok path ↔ session.path = some path := by
  unfold backingFile
  split
  · next found hfound => simp [hfound]
  · next hnone => simp [hnone]

theorem reload_eq_ok_iff :
    session.reload disk = .ok next
      ↔ ∃ path source tokens, session.path = some path ∧ disk.readText path = .ok source
        ∧ session.dialect.parse source = .ok tokens
        ∧ next = { session with source, store := ⟨tokens⟩ } := by
  unfold reload
  simp only [bind_eq_ok_iff, backingFile_eq_ok_iff, readSource_eq_ok_iff, mapError_eq_ok_iff,
    Except.ok.injEq, ArrayStore.load]
  constructor
  · rintro ⟨path, hpath, source, hread, tokens, hparse, rfl⟩
    exact ⟨path, source, tokens, hpath, hread, hparse, rfl⟩
  · rintro ⟨path, source, tokens, hpath, hread, hparse, rfl⟩
    exact ⟨path, hpath, source, hread, tokens, hparse, rfl⟩

theorem edit_eq_ok_iff {start written : Nat} {text : String} {key : Key} :
    session.edit start text key = .ok (next, written)
      ↔ text ≠ ""
        ∧ next = { session with
          store := session.store.overwrite start (session.encode text key) }
        ∧ written = session.store.room start (session.encode text key) := by
  unfold edit
  by_cases hempty : text = ""
  · simp [hempty]
  · rw [if_neg hempty]
    simp [hempty, eq_comm]

theorem spliced_eq_ok_iff {spliced : Spliced} :
    session.spliced disk = .ok spliced
      ↔ ∃ path source, session.path = some path ∧ disk.readText path = .ok source
        ∧ session.dialect.splice source session.store.tokens = .ok spliced := by
  unfold Session.spliced
  simp only [bind_eq_ok_iff, backingFile_eq_ok_iff, readSource_eq_ok_iff, mapError_eq_ok_iff]
  constructor
  · rintro ⟨path, hpath, source, hread, hsplice⟩
    exact ⟨path, source, hpath, hread, hsplice⟩
  · rintro ⟨path, source, hpath, hread, hsplice⟩
    exact ⟨path, hpath, source, hread, hsplice⟩

theorem spliced_eq_error_iff {failure : FileFailure} :
    session.spliced disk = .error failure
      ↔ session.path = none ∧ failure = .noBackingFile
        ∨ ∃ path, session.path = some path
          ∧ ((∃ cause, disk.readText path = .error cause ∧ failure = .disk path cause)
            ∨ ∃ source refusal, disk.readText path = .ok source
              ∧ session.dialect.splice source session.store.tokens = .error refusal
              ∧ failure = .refused refusal) := by
  unfold Session.spliced
  cases hpath : session.path with
  | none => simp [backingFile, hpath, bind, Except.bind, eq_comm]
  | some path =>
    simp only [backingFile, hpath, readSource, bind_eq_error_iff, mapError_eq_error_iff,
      mapError_eq_ok_iff]
    constructor
    · rintro (hnone | ⟨_, hfound, hrest⟩)
      · cases hnone
      · cases hfound
        rcases hrest with ⟨cause, hread, rfl⟩ | ⟨source, hread, refusal, hsplice, rfl⟩
        · exact Or.inr ⟨path, rfl, Or.inl ⟨cause, hread, rfl⟩⟩
        · exact Or.inr ⟨path, rfl, Or.inr ⟨source, refusal, hread, hsplice, rfl⟩⟩
    · rintro (⟨hnone, -⟩ | ⟨_, hfound, hrest⟩)
      · cases hnone
      · cases hfound
        rcases hrest with ⟨cause, hread, rfl⟩ | ⟨source, refusal, hread, hsplice, rfl⟩
        · exact Or.inr ⟨path, rfl, Or.inl ⟨cause, hread, rfl⟩⟩
        · exact Or.inr ⟨path, rfl, Or.inr ⟨source, hread, refusal, hsplice, rfl⟩⟩

/-- A save that succeeds put the array into what the file held, wrote the backup and then the
    file, and kept all of the session but its text. -/
theorem save_eq_ok_iff {suffix : String} {report : SaveReport} :
    session.save disk suffix = (now, .ok (next, report))
      ↔ ∃ path source spliced backed, session.path = some path ∧ disk.readText path = .ok source
        ∧ session.dialect.splice source session.store.tokens = .ok spliced
        ∧ disk.writeText (backupPath path suffix) spliced.backupText = .ok backed
        ∧ backed.writeText path spliced.newText = .ok now
        ∧ next = { session with source := spliced.newText }
        ∧ report = ⟨path, backupPath path suffix, session.store.length⟩ := by
  unfold save commit
  constructor
  · intro h
    split at h
    · cases h
    · next spliced hspliced =>
      obtain ⟨path, source, hpath, hread, hsplice⟩ := spliced_eq_ok_iff.1 hspliced
      rw [backingFile_eq_ok_iff.2 hpath] at h
      dsimp only at h
      split at h
      · cases h
      · next backed hbacked =>
        split at h
        · cases h
        · next saved hsaved =>
          cases h
          exact ⟨path, source, spliced, backed, hpath, hread, hsplice, hbacked, hsaved, rfl, rfl⟩
  · rintro ⟨path, source, spliced, backed, hpath, hread, hsplice, hbacked, hsaved, rfl, rfl⟩
    rw [spliced_eq_ok_iff.2 ⟨path, source, hpath, hread, hsplice⟩, backingFile_eq_ok_iff.2 hpath]
    dsimp only
    rw [hbacked]
    dsimp only
    rw [hsaved]

end Session

/-! ### What an edit does to a session at work -/

namespace Work

variable (work : Work) (edit : Edit)

theorem session_after_edit : (work.after (.edit edit)).session
    = { work.session with store := (work.after (.edit edit)).session.store } := by
  unfold after
  dsimp only
  split
  · next session written hedit =>
    obtain ⟨-, rfl, -⟩ := Session.edit_eq_ok_iff.1 hedit
    rfl
  · rfl

theorem length_after_edit :
    (work.after (.edit edit)).session.store.length = work.session.store.length := by
  unfold after
  dsimp only
  split
  · next session written hedit =>
    obtain ⟨-, rfl, -⟩ := Session.edit_eq_ok_iff.1 hedit
    exact ArrayStore.length_overwrite _ _ _
  · rfl

variable {work edit} in
theorem session_after_edit_of_eq_ok {session : Session} {written : Nat}
    (h : work.session.edit edit.start edit.text edit.key = .ok (session, written)) :
    (work.after (.edit edit)).session = session := by
  unfold after
  dsimp only
  rw [h]

/-- An element after an edit is one that the edit wrote for a character, or the one before. -/
theorem after_edit_at (k : Nat) :
    ((work.after (.edit edit)).IsEdited k
      ∧ ∃ c ∈ edit.text.toList, (work.after (.edit edit)).session.store.tokens[k]?
        = some (Token.ofWordPadded work.session.dialect (ArrayRange.maskedWord edit.key c)))
    ∨ (((work.after (.edit edit)).IsEdited k ↔ work.IsEdited k)
      ∧ (work.after (.edit edit)).session.store.tokens[k]? = work.session.store.tokens[k]?) := by
  unfold after
  dsimp only
  split
  · next session written hedit =>
    obtain ⟨-, rfl, rfl⟩ := Session.edit_eq_ok_iff.1 hedit
    have htoken := ArrayRange.getElem?_overwrite work.session.store.tokens edit.start
      (work.session.encode edit.text edit.key) k
    by_cases hin : edit.start ≤ k
      ∧ k < edit.start + work.session.store.room edit.start (work.session.encode edit.text edit.key)
    · refine Or.inl ⟨⟨_, List.mem_cons_self, hin⟩, ?_⟩
      have hroom : work.session.store.room edit.start (work.session.encode edit.text edit.key)
          ≤ (work.session.encode edit.text edit.key).length := Nat.min_le_left _ _
      have hsize : k - edit.start < (work.session.encode edit.text edit.key).length := by omega
      obtain ⟨c, hc, hnew⟩ := List.mem_map.1 (List.getElem_mem hsize)
      refine ⟨c, hc, ?_⟩
      rw [hnew]
      exact (htoken.trans (if_pos hin)).trans (List.getElem?_eq_getElem hsize)
    · refine Or.inr ⟨⟨?_, ?_⟩, htoken.trans (if_neg hin)⟩
      · rintro ⟨span, hspan, hwithin⟩
        rcases List.mem_cons.1 hspan with rfl | hspan
        · exact absurd hwithin hin
        · exact ⟨span, hspan, hwithin⟩
      · rintro ⟨span, hspan, hwithin⟩
        exact ⟨span, List.mem_cons_of_mem _ hspan, hwithin⟩
  · exact Or.inr ⟨Iff.rfl, rfl⟩

end Work

end MaskedLiterals
