import MaskedLiterals.Proofs.DiskWrite
import MaskedLiterals.Proofs.HiddenText
import MaskedLiterals.Proofs.SessionRun
import MaskedLiterals.Proofs.SpliceReadback

/-!
# Edits on the disk and back

A session is opened on a file, edited any number of times and saved, and the file is opened again.
What an edit writes has no sign, so where the gap in front of it ends in `-`, the `-` is read as its
sign.  That is the only way in which an edit can come back changed (`reopened_after_save`): the
array comes back exactly if no edited element stands behind a `-`, and the text of the last edit
exactly if none of its characters does, those apart whose masked word is zero.

`reopened_behind_hyphen` is a file where it happens.
-/

namespace MaskedLiterals

/-- The gap in front of the `k`-th literal of a text ends in `-`. -/
def Dialect.HyphenBefore (dialect : Dialect) (text : String) (k : Nat) : Prop :=
  ∃ gap, (dialect.cut text).gaps[k]? = some gap ∧ gap.getLast? = some '-'

/-! ### What edits leave -/

/-- What holds as long as only edits were done to a session: elements that no edit wrote are as they
    were when it was opened, and the others are as an edit writes a character. -/
structure Work.HoldsEdits (opened : Session) (work : Work) : Prop where
  frame : work.session = { opened with store := work.session.store }
  length : work.session.store.length = opened.store.length
  kept : ∀ k, ¬ work.IsEdited k → work.session.store.tokens[k]? = opened.store.tokens[k]?
  written : ∀ k, work.IsEdited k → ∃ key c, work.session.store.tokens[k]?
    = some (Token.ofWordPadded opened.dialect (ArrayRange.maskedWord key c))

namespace Work.HoldsEdits

variable {opened : Session} {work : Work}

theorem refl (opened : Session) (disk : Disk) : HoldsEdits opened ⟨opened, disk, []⟩ := by
  have hnone (k : Nat) : ¬ (Work.mk opened disk []).IsEdited k := by
    rintro ⟨span, hspan, -⟩
    cases hspan
  exact ⟨rfl, rfl, fun _ _ => rfl, fun k h => absurd h (hnone k)⟩

theorem dialect_eq (h : work.HoldsEdits opened) : work.session.dialect = opened.dialect := by
  rw [h.frame]

theorem after_edit (h : work.HoldsEdits opened) (edit : Edit) :
    (work.after (.edit edit)).HoldsEdits opened where
  frame := by
    rw [work.session_after_edit edit, h.frame]
  length := (work.length_after_edit edit).trans h.length
  kept := by
    intro k hk
    rcases work.after_edit_at edit k with ⟨hedited, -⟩ | ⟨hiff, hold⟩
    · exact absurd hedited hk
    · exact hold.trans (h.kept k fun hedited => hk (hiff.2 hedited))
  written := by
    intro k hk
    rcases work.after_edit_at edit k with ⟨-, c, -, hnew⟩ | ⟨hiff, hold⟩
    · exact ⟨edit.key, c, by rw [hnew, h.dialect_eq]⟩
    · rw [hold]
      exact h.written k (hiff.1 hk)

theorem run_edits (h : work.HoldsEdits opened) (edits : List Edit) :
    (work.run (edits.map Event.edit)).HoldsEdits opened := by
  induction edits generalizing work with
  | nil => exact h
  | cons edit edits ih => exact ih (h.after_edit edit)

end Work.HoldsEdits

/-- The elements that an edit wrote, character by character. -/
theorem Session.edit_getElem? {session next : Session} {start written : Nat} {text : String}
    {key : Key} (h : session.edit start text key = .ok (next, written)) {j : Nat} {c : Char}
    (hj : j < written) (hc : text.toList[j]? = some c) :
    next.store.tokens[start + j]?
      = some (Token.ofWordPadded session.dialect (ArrayRange.maskedWord key c)) := by
  obtain ⟨-, rfl, rfl⟩ := Session.edit_eq_ok_iff.1 h
  exact ArrayRange.getElem?_overwrite_encode hj hc

/-! ### What a splice makes of edited elements -/

section Splice

variable {dialect : Dialect} {source text : String} {tokens : List Token} {spliced : Spliced}

theorem exists_gap_of_splice (h : dialect.splice source tokens = .ok spliced) {k : Nat}
    {token : Token} (htoken : tokens[k]? = some token) :
    ∃ gap, (dialect.cut source).gaps[k]? = some gap := by
  have hk := (List.getElem?_eq_some_iff.1 htoken).1
  have hlength := length_gaps dialect source
  have hcount := (splice_eq_ok_iff.1 h).1
  exact ⟨_, List.getElem?_eq_getElem (by omega)⟩

/-- What was written of a text is read back from the spliced text exactly if none of its characters
    is behind a `-`, those apart whose masked word is zero. -/
theorem decode_newText_of_edit_iff {session next : Session} {start written : Nat} {key : Key}
    (hdialect : session.dialect = dialect)
    (hedit : session.edit start text key = .ok (next, written))
    (h : dialect.splice source next.store.tokens = .ok spliced) :
    ArrayRange.decode dialect (dialect.literalsOf spliced.newText) start (start + written) key
        = .ok (String.ofList (text.toList.take written))
      ↔ ∀ (j : Nat) (c : Char), j < written → text.toList[j]? = some c →
        dialect.HyphenBefore source (start + j) → c.toNat = key.toNat := by
  have hroom : written ≤ text.length := by
    obtain ⟨-, -, rfl⟩ := Session.edit_eq_ok_iff.1 hedit
    exact Nat.le_trans (Nat.min_le_left _ _) (Nat.le_of_eq (ArrayRange.length_encode _ _ _))
  rw [ArrayRange.decode_take_eq_ok_iff hroom]
  refine forall_congr' fun j => forall_congr' fun c => imp_congr_right fun hj =>
    imp_congr_right fun hc => ?_
  have htoken := Session.edit_getElem? hedit hj hc
  rw [hdialect] at htoken
  obtain ⟨gap, hgap⟩ := exists_gap_of_splice h htoken
  have hread := literalsOf_newText_getElem? h hgap htoken
  have hsigned := ArrayRange.head?_ofWordPadded_maskedWord dialect key c
  by_cases hhyphen : gap.getLast? = some '-'
  · rw [if_pos ⟨hhyphen, hsigned⟩] at hread
    rw [← @ArrayRange.value_hyphen_eq_maskedWord_iff dialect]
    constructor
    · rintro ⟨token, hfound, hvalue⟩ -
      obtain rfl := Option.some.inj (hread.symm.trans hfound)
      exact hvalue
    · intro hvalue
      exact ⟨_, hread, hvalue ⟨gap, hgap, hhyphen⟩⟩
  · rw [if_neg fun hsign => hhyphen hsign.1] at hread
    constructor
    · rintro - ⟨found, hfound, hlast⟩
      obtain rfl := Option.some.inj (hgap.symm.trans hfound)
      exact absurd hlast hhyphen
    · intro _
      exact ⟨_, hread, Token.value_ofWordPadded dialect _⟩

/-- An element takes a sign exactly where an edit wrote it behind a `-`: the literals of a text have
    the signs that there are. -/
theorem Work.HoldsEdits.takesSignAt_iff {opened : Session} {work : Work}
    (h : work.HoldsEdits opened)
    (hloaded : opened.store.tokens = opened.dialect.literalsOf opened.source) {k : Nat} :
    opened.dialect.TakesSignAt opened.source work.session.store.tokens k
      ↔ work.IsEdited k ∧ opened.dialect.HyphenBefore opened.source k := by
  constructor
  · rintro ⟨gap, token, hgap, htoken, hsign⟩
    refine ⟨?_, gap, hgap, hsign.1⟩
    by_cases hedited : work.IsEdited k
    · exact hedited
    · rw [h.kept k hedited, hloaded] at htoken
      obtain ⟨piece, hpiece, rfl⟩ : ∃ piece, (opened.dialect.cut opened.source).pieces[k]?
          = some piece ∧ piece.1 = gap := by simpa [Cut.gaps] using hgap
      obtain rfl := Option.some.inj ((literalsOf_getElem?_of_pieces hpiece).symm.trans htoken)
      rw [String.toList_ofList] at hsign
      have hexact := (isExact_cut opened.dialect.isMarker opened.source.toList).pieces piece
        (List.mem_of_getElem? hpiece)
      exact absurd hsign hexact.not_takesSign
  · rintro ⟨hedited, gap, hgap, hhyphen⟩
    obtain ⟨key, c, htoken⟩ := h.written k hedited
    exact ⟨gap, _, hgap, htoken, hhyphen, ArrayRange.head?_ofWordPadded_maskedWord _ key c⟩

end Splice

/-! ### Saving and opening again -/

section Reopen

variable {dialect : Dialect} {disk now saved later : Disk} {path suffix : String}
variable {session next : Session} {report : SaveReport}

/-- A file that was saved and left alone is opened on the text that the save made. -/
theorem exists_reopened (hpath : session.path = some path) (hdialect : session.dialect = dialect)
    (hne : session.store.tokens ≠ [])
    (hsave : session.save now suffix = (saved, .ok (next, report)))
    (hlater : later.readText path = saved.readText path) :
    ∃ source spliced, now.readText path = .ok source
      ∧ dialect.splice source session.store.tokens = .ok spliced
      ∧ next = { session with source := spliced.newText }
      ∧ ∀ limit, Session.checkSize later path limit = .ok () →
        Session.ofFile later dialect path limit
          = .ok ⟨some path, spliced.newText, ⟨dialect.literalsOf spliced.newText⟩, dialect⟩ := by
  obtain ⟨found, source, spliced, backed, hfound, hread, hsplice, -, hwrite, hnext, -⟩ :=
    Session.save_eq_ok_iff.1 hsave
  obtain rfl := Option.some.inj (hpath.symm.trans hfound)
  rw [hdialect] at hsplice
  refine ⟨source, spliced, hread, hsplice, hnext, fun limit hsize => ?_⟩
  have hsaved := hlater.trans (Disk.readText_writeText hwrite)
  have hliterals : dialect.literalsOf spliced.newText ≠ [] := by
    rw [← List.length_pos_iff, length_literalsOf, countLiterals_newText hsplice]
    exact List.length_pos_iff.2 hne
  exact Session.ofFile_eq_ok_iff.2
    ⟨hsize, _, _, hsaved, parse_eq_ok_iff.2 ⟨hliterals, rfl⟩, rfl⟩

/-- **What comes back from the disk.**  A session is opened on a file and edited; the file, which
    nobody else touches, is saved and opened again, under any size limit that it meets.  Each element
    comes back as the session has it, but for the edited ones behind a `-`, which come back with the
    `-` as their sign.  So the array comes back exactly if there is none of them, and what was
    written of the last text is decoded again exactly if each of its characters behind a `-` has the
    key as its code point. -/
theorem reopened_after_save {opened : Session} {limit written : Nat} {front : List Edit}
    {last : Edit} (hopened : Session.ofFile disk dialect path limit = .ok opened)
    (hedit : (Work.run ⟨opened, disk, []⟩ (front.map Event.edit)).session.edit
      last.start last.text last.key = .ok (session, written))
    (huntouched : now.readText path = disk.readText path)
    (hsave : session.save now suffix = (saved, .ok (next, report)))
    (hlater : later.readText path = saved.readText path) :
    let work := Work.run ⟨opened, disk, []⟩ ((front ++ [last]).map Event.edit)
    ∃ reopened : Session,
      (∀ limit, Session.checkSize later path limit = .ok () →
        Session.ofFile later dialect path limit = .ok reopened)
      ∧ reopened.store.length = next.store.length
      ∧ (∀ (k : Nat) (token : Token), next.store.tokens[k]? = some token →
        (¬ (work.IsEdited k ∧ dialect.HyphenBefore opened.source k) →
          reopened.store.tokens[k]? = some token)
        ∧ (work.IsEdited k ∧ dialect.HyphenBefore opened.source k →
          reopened.store.tokens[k]? = some ⟨"-" ++ token.raw⟩))
      ∧ (reopened.store.tokens = next.store.tokens
        ↔ ∀ k, work.IsEdited k → ¬ dialect.HyphenBefore opened.source k)
      ∧ (reopened.decode last.start (last.start + written) last.key
          = .ok (String.ofList (last.text.toList.take written))
        ↔ ∀ (j : Nat) (c : Char), j < written → last.text.toList[j]? = some c →
          dialect.HyphenBefore opened.source (last.start + j) → c.toNat = last.key.toNat) := by
  intro work
  obtain ⟨-, source, tokens, hread, hparse, rfl⟩ := Session.ofFile_eq_ok_iff.1 hopened
  obtain ⟨hne, hloaded⟩ := parse_eq_ok_iff.1 hparse
  -- the session is what the run of edits left
  have hholds : work.HoldsEdits ⟨some path, source, ⟨tokens⟩, dialect⟩ :=
    (Work.HoldsEdits.refl _ disk).run_edits _
  have hsession : work.session = session := by
    show (Work.run _ ((front ++ [last]).map Event.edit)).session = session
    rw [List.map_append, List.map_singleton, Work.run_concat]
    exact Work.session_after_edit_of_eq_ok hedit
  have hframe := hholds.frame
  have hlength := hholds.length
  rw [hsession] at hframe hlength
  have hpath : session.path = some path := by rw [hframe]
  have hdialect : session.dialect = dialect := by rw [hframe]
  have hnonempty : session.store.tokens ≠ [] := by
    rw [← List.length_pos_iff]
    exact Nat.lt_of_lt_of_eq (List.length_pos_iff.2 hne) hlength.symm
  -- the file is what was opened, with the array spliced into it
  obtain ⟨found, spliced, hnow, hsplice, rfl, hreopened⟩ :=
    exists_reopened hpath hdialect hnonempty hsave hlater
  obtain rfl := Except.ok.inj (hread.symm.trans (huntouched.symm.trans hnow))
  have hsign (k : Nat) : dialect.TakesSignAt source session.store.tokens k
      ↔ work.IsEdited k ∧ dialect.HyphenBefore source k := by
    rw [← hsession]
    exact hholds.takesSignAt_iff hloaded.symm
  refine ⟨_, hreopened, ?_, ?_, ?_, ?_⟩
  · exact (length_literalsOf dialect spliced.newText).trans (countLiterals_newText hsplice)
  · intro k token htoken
    obtain ⟨gap, hgap⟩ := exists_gap_of_splice hsplice htoken
    have hread := literalsOf_newText_getElem? hsplice hgap htoken
    rw [← hsign k, Dialect.takesSignAt_iff hgap htoken]
    constructor
    · intro hno
      rwa [if_neg hno] at hread
    · intro hyes
      rwa [if_pos hyes] at hread
  · refine (literalsOf_newText_eq_iff hsplice).trans (forall_congr' fun k => ?_)
    rw [hsign k, not_and]
  · have hfront := (Work.HoldsEdits.refl ⟨some path, source, ⟨tokens⟩, dialect⟩ disk).run_edits front
    exact decode_newText_of_edit_iff hfront.dialect_eq hedit hsplice

/-- The masked word of a character is zero under its own code point, and zero with a sign is zero: the
    element comes back changed and still hides the character. -/
theorem reopened_after_save_zero_word :
    ∃ (disk saved : Disk) (opened session next reopened : Session) (report : SaveReport),
      Session.ofFile disk .smaliShort "a" 0 = .ok opened
      ∧ opened.edit 0 "A" 0x41 = .ok (session, 1)
      ∧ session.save disk ".b" = (saved, .ok (next, report))
      ∧ Session.ofFile saved .smaliShort "a" 0 = .ok reopened
      ∧ reopened.store.tokens ≠ next.store.tokens
      ∧ reopened.decode 0 1 0x41 = .ok "A" := by
  let disk : Disk := ⟨[(["a"], .file "--0x5s".toUTF8)], []⟩
  let saved : Disk :=
    ⟨[(["a"], .file "-0x0000s".toUTF8), (["a.b"], .file "--0x5s".toUTF8)], []⟩
  let opened : Session := ⟨some "a", "--0x5s", ⟨[⟨"-0x5s"⟩]⟩, .smaliShort⟩
  let session : Session := { opened with store := ⟨[⟨"0x0000s"⟩]⟩ }
  let next : Session := { session with source := "-0x0000s" }
  have hopened : Session.ofFile disk .smaliShort "a" 0 = .ok opened := by cbv
  have hedit : opened.edit 0 "A" 0x41 = .ok (session, 1) := by cbv
  have hsave : session.save disk ".b" = (saved, .ok (next, ⟨"a", "a.b", 1⟩)) := by cbv
  have hgap : (Dialect.smaliShort.cut "--0x5s").gaps = [['-']] := by cbv
  have hhyphen : Dialect.smaliShort.HyphenBefore "--0x5s" 0 := ⟨['-'], by rw [hgap]; rfl, rfl⟩
  obtain ⟨reopened, hreopened, -, -, htokens, hdecode⟩ :=
    @reopened_after_save _ _ _ _ _ _ _ _ _ _ _ _ _ [] ⟨0, "A", 0x41⟩ hopened hedit rfl hsave rfl
  refine ⟨disk, saved, opened, session, next, reopened, _, hopened, hedit, hsave,
    hreopened 0 rfl, fun heq => htokens.1 heq 0 ?_ hhyphen, hdecode.2 ?_⟩
  · have hedited : (Work.run ⟨opened, disk, []⟩ [.edit ⟨0, "A", 0x41⟩]).edited = [⟨0, 1⟩] := by cbv
    refine ⟨⟨0, 1⟩, ?_, Nat.le_refl 0, Nat.one_pos⟩
    exact hedited ▸ List.mem_cons_self
  · rintro j c hj hc -
    obtain rfl : j = 0 := by omega
    obtain rfl := Option.some.inj hc
    rfl

/-- A file from which an edit does not come back: the element that was written is read with the `-`
    that stood in front of it, and hides nothing. -/
theorem reopened_behind_hyphen :
    ∃ (disk saved : Disk) (opened session next reopened : Session) (report : SaveReport),
      Session.ofFile disk .smaliShort "a" 0 = .ok opened
      ∧ opened.source = "--0x5s"
      ∧ opened.edit 0 "A" 0 = .ok (session, 1)
      ∧ session.save disk ".b" = (saved, .ok (next, report))
      ∧ Session.ofFile saved .smaliShort "a" 0 = .ok reopened
      ∧ next.store.tokens = [⟨"0x0041s"⟩]
      ∧ reopened.store.tokens = [⟨"-0x0041s"⟩]
      ∧ reopened.decode 0 1 0 = .error (.invalidCodePoint 0 (-65)) := by
  refine ⟨⟨[(["a"], .file "--0x5s".toUTF8)], []⟩,
    ⟨[(["a"], .file "-0x0041s".toUTF8), (["a.b"], .file "--0x5s".toUTF8)], []⟩,
    ⟨some "a", "--0x5s", ⟨[⟨"-0x5s"⟩]⟩, .smaliShort⟩,
    ⟨some "a", "--0x5s", ⟨[⟨"0x0041s"⟩]⟩, .smaliShort⟩,
    ⟨some "a", "-0x0041s", ⟨[⟨"0x0041s"⟩]⟩, .smaliShort⟩,
    ⟨some "a", "-0x0041s", ⟨[⟨"-0x0041s"⟩]⟩, .smaliShort⟩,
    ⟨"a", "a.b", 1⟩, ?_, rfl, ?_, ?_, ?_, rfl, rfl, ?_⟩
  · cbv
  · cbv
  · cbv
  · cbv
  · cbv

end Reopen

end MaskedLiterals
