import MaskedLiterals.Proofs.SaveEffect
import MaskedLiterals.Proofs.SessionInvariant

/-!
# Arrays that nobody edited

A scan asks of a literal that it has the form of one, and the form puts no bound on the digits.  A
splice asks for a value, which is a word.  The two agree but for the literals whose number is no
word: an array without such a literal goes back into its text and changes nothing, and one with such
a literal is refused for the first of them (`untouched_array`).

The text is left as it is because a cut filled with its own literals is the text that was cut.
-/

namespace MaskedLiterals

variable {dialect : Dialect} {text : String} {tokens : List Token}

/-! ### Literals with and without a value -/

theorem Token.not_exceedsWord_of_value_eq_ok {token : Token} {word : Word}
    (h : token.value dialect = .ok word) : ¬ token.ExceedsWord dialect := by
  rintro ⟨sign, digits, hdigits, hraw, hexceeds⟩
  obtain ⟨other, run, hrun, hsame, hword⟩ := Token.value_eq_ok_iff.1 h
  -- a literal is read in one way
  have hfirst := Token.signedDigits?_eq_some_iff.2 ⟨hdigits, hraw⟩
  have hsecond := Token.signedDigits?_eq_some_iff.2 ⟨hrun, hsame⟩
  rw [hfirst, Option.some.injEq, Prod.mk.injEq] at hsecond
  obtain ⟨rfl, rfl⟩ := hsecond
  rw [← hword] at hexceeds
  exact hexceeds ⟨Int64.le_toInt word, Int64.toInt_lt word⟩

/-- **A literal has a value exactly if its number is a word.** -/
theorem Token.exists_value_iff {token : Token}
    (hliteral : IsLiteral dialect.marker token.raw.toList) :
    (∃ word, token.value dialect = .ok word) ↔ ¬ token.ExceedsWord dialect := by
  constructor
  · rintro ⟨word, hword⟩
    exact Token.not_exceedsWord_of_value_eq_ok hword
  · intro hfits
    cases hread : token.value dialect with
    | ok word => exact ⟨word, rfl⟩
    | error refusal => exact absurd (Token.exceedsWord_of_value_eq_error hliteral hread) hfits

/-! ### Arrays put back where they came from -/

/-- A text filled with its own literals is the text. -/
theorem filled_literalsOf (dialect : Dialect) (text : String) :
    String.ofList (dialect.filled text (dialect.literalsOf text)) = text := by
  have hid : (fun token : Token => token.raw.toList) ∘ (⟨String.ofList ·⟩) = id :=
    funext fun _ => String.toList_ofList
  have hliterals : (dialect.literalsOf text).map (·.raw.toList) = (dialect.cut text).literals := by
    rw [Dialect.literalsOf, List.map_map, hid, List.map_id]
  rw [Dialect.filled, hliterals, Cut.fill_literals, Dialect.cut, join_cut, String.ofList_toList]

theorem splice_eq_self_iff (h : dialect.parse text = .ok tokens) :
    dialect.splice text tokens = .ok ⟨text, text⟩
      ↔ ∀ token ∈ tokens, ¬ token.ExceedsWord dialect := by
  have harray := isArrayOf_of_parse h
  obtain ⟨-, rfl⟩ := parse_eq_ok_iff.1 h
  rw [splice_eq_ok_iff, filled_literalsOf]
  constructor
  · rintro ⟨-, hvalues, -⟩ token hmem
    exact (Token.exists_value_iff (harray.isLiteral token hmem)).1 (hvalues token hmem)
  · intro hfits
    exact ⟨harray.count_eq, fun token hmem =>
      (Token.exists_value_iff (harray.isLiteral token hmem)).2 (hfits token hmem), rfl⟩

theorem splice_eq_error_of_exceedsWord {front back : List Token} {token : Token}
    (h : dialect.parse text = .ok (front ++ token :: back))
    (hfront : ∀ before ∈ front, ¬ before.ExceedsWord dialect)
    (hexceeds : token.ExceedsWord dialect) :
    dialect.splice text (front ++ token :: back) = .error (.malformedLiteral token.raw) := by
  have harray := isArrayOf_of_parse h
  have hvalues (before : Token) (hmem : before ∈ front) :
      ∃ word, before.value dialect = .ok word :=
    (Token.exists_value_iff (harray.isLiteral before (List.mem_append_left _ hmem))).2
      (hfront before hmem)
  have hrefused : token.value dialect = .error (.malformedLiteral token.raw) := by
    cases hread : token.value dialect with
    | ok word => exact absurd hexceeds (Token.not_exceedsWord_of_value_eq_ok hread)
    | error refusal => rw [Token.value_eq_error hread]
  exact splice_eq_error_iff.2 (Or.inr ⟨harray.count_eq, front, token, back, rfl, hvalues, hrefused⟩)

namespace Session

variable {session : Session} {disk : Disk} {path suffix : String}

/-- A session whose array goes back into the text of the file is saved, and nothing changes. -/
theorem save_of_splice_eq_self {place : Location} (hreopen : disk.CanReopen)
    (hpath : session.path = some path) (hread : disk.readText path = .ok session.source)
    (hsplice : session.dialect.splice session.source session.store.tokens
      = .ok ⟨session.source, session.source⟩)
    (hbackup : disk.target (backupPath path suffix) = .ok place) :
    ∃ saved report, session.save disk suffix = (saved, .ok (session, report))
      ∧ saved.readText path = .ok session.source := by
  obtain ⟨location, hlocation⟩ := hreopen path _ (Disk.readText_eq_ok_iff.1 hread)
  obtain ⟨backed, hbacked⟩ := Disk.exists_writeText hbackup session.source
  obtain ⟨saved, hsaved⟩ :=
    Disk.exists_writeText ((Disk.target_writeBytes_iff hbacked).2 hlocation) session.source
  exact ⟨saved, _, save_eq_ok_iff.2
    ⟨path, session.source, _, backed, hpath, hread, hsplice, hbacked, hsaved, rfl, rfl⟩,
    Disk.readText_writeText hsaved⟩

theorem save_of_splice_eq_error {refusal : Refusal} (hpath : session.path = some path)
    (hread : disk.readText path = .ok session.source)
    (hsplice : session.dialect.splice session.source session.store.tokens = .error refusal) :
    session.save disk suffix = (disk, .error (.refused refusal)) := by
  apply save_of_spliced_eq_error
  exact spliced_eq_error_iff.2 (Or.inr ⟨path, hpath, Or.inr ⟨_, refusal, hread, hsplice, rfl⟩⟩)

end Session

/-- **An array that nobody edited goes back unchanged exactly if its numbers are words.**  If one is
    not, the first that is not is named.  So a session that was opened and is saved without an edit,
    while the file holds what it held and there is room for a backup, is saved and stays as it is,
    and the file keeps its octets; or the save is refused and the disk keeps everything. -/
theorem untouched_array (dialect : Dialect) :
    (∀ text tokens, dialect.parse text = .ok tokens →
      (dialect.splice text tokens = .ok ⟨text, text⟩
        ↔ ∀ token ∈ tokens, ¬ token.ExceedsWord dialect)
      ∧ ∀ front token back, tokens = front ++ token :: back →
        (∀ before ∈ front, ¬ before.ExceedsWord dialect) → token.ExceedsWord dialect →
        dialect.splice text tokens = .error (.malformedLiteral token.raw))
    ∧ ∀ disk path limit session, Session.ofFile disk dialect path limit = .ok session →
      ∀ now suffix place, now.CanReopen → now.readBytes path = disk.readBytes path →
      now.target (Session.backupPath path suffix) = .ok place →
      ((∀ token ∈ session.store.tokens, ¬ token.ExceedsWord dialect) →
        ∃ saved report, session.save now suffix = (saved, .ok (session, report))
          ∧ saved.readBytes path = disk.readBytes path)
      ∧ ∀ front token back, session.store.tokens = front ++ token :: back →
        (∀ before ∈ front, ¬ before.ExceedsWord dialect) → token.ExceedsWord dialect →
        session.save now suffix = (now, .error (.refused (.malformedLiteral token.raw))) := by
  refine ⟨fun text tokens hparse => ⟨splice_eq_self_iff hparse, ?_⟩,
    fun disk path limit session hopened now suffix place hreopen hsame hbackup => ?_⟩
  · rintro front token back rfl hfront hexceeds
    exact splice_eq_error_of_exceedsWord hparse hfront hexceeds
  · obtain ⟨-, source, tokens, hread, hparse, rfl⟩ := Session.ofFile_eq_ok_iff.1 hopened
    have hold := Disk.readText_eq_ok_iff.1 hread
    have hnow : now.readText path = .ok source := Disk.readText_eq_ok_iff.2 (hsame.trans hold)
    constructor
    · intro hfits
      obtain ⟨saved, report, hsave, hsaved⟩ := @Session.save_of_splice_eq_self
        ⟨some path, source, ⟨tokens⟩, dialect⟩ now path suffix place hreopen rfl hnow
        ((splice_eq_self_iff hparse).2 hfits) hbackup
      exact ⟨saved, report, hsave, (Disk.readText_eq_ok_iff.1 hsaved).trans hold.symm⟩
    · rintro front token back rfl hfront hexceeds
      exact Session.save_of_splice_eq_error rfl hnow
        (splice_eq_error_of_exceedsWord hparse hfront hexceeds)

/-- The least word is a number that fits, and a file that holds it is saved as it is. -/
theorem untouched_array_least_word :
    ∃ (disk saved : Disk) (session : Session) (report : SaveReport),
      Session.ofFile disk .smaliShort "a" 0 = .ok session
      ∧ disk.readBytes "a" = .ok "-0x8000000000000000s".toUTF8
      ∧ session.save disk ".b" = (saved, .ok (session, report))
      ∧ saved.readBytes "a" = disk.readBytes "a" := by
  let disk : Disk := ⟨[(["a"], .file "-0x8000000000000000s".toUTF8)], []⟩
  let session : Session :=
    ⟨some "a", "-0x8000000000000000s", ⟨[⟨"-0x8000000000000000s"⟩]⟩, .smaliShort⟩
  have hreopen : disk.CanReopen := by
    apply Disk.IsTree.canReopen
    apply Disk.isTree_of_forall_mem
    simp [disk, Disk.find?]
  have hopened : Session.ofFile disk .smaliShort "a" 0 = .ok session := by cbv
  have hbackup : disk.target (Session.backupPath "a" ".b") = .ok ["a.b"] := by cbv
  have hvalue : (Token.mk "-0x8000000000000000s").value .smaliShort = .ok Int64.minValue := by cbv
  have hfits (token : Token) (h : token ∈ session.store.tokens) :
      ¬ token.ExceedsWord .smaliShort := by
    obtain rfl := List.mem_singleton.1 h
    exact Token.not_exceedsWord_of_value_eq_ok hvalue
  obtain ⟨saved, report, hsave, hsame⟩ :=
    ((untouched_array .smaliShort).2 disk "a" 0 session hopened disk ".b" ["a.b"] hreopen rfl
      hbackup).1 hfits
  exact ⟨disk, saved, session, report, hopened, by cbv, hsave, hsame⟩

/-- A literal whose number is one more than the greatest word is found, and is refused when it is to
    go back where it was found. -/
theorem untouched_array_beyond_greatest_word :
    Dialect.smaliShort.parse "0x8000000000000000s" = .ok [⟨"0x8000000000000000s"⟩]
      ∧ Dialect.smaliShort.splice "0x8000000000000000s" [⟨"0x8000000000000000s"⟩]
        = .error (.malformedLiteral "0x8000000000000000s")
      ∧ Dialect.smaliShort.splice "0x8000000000000000s" [⟨"0x8000000000000000s"⟩]
        ≠ .ok ⟨"0x8000000000000000s", "0x8000000000000000s"⟩ := by
  have hrefused : Dialect.smaliShort.splice "0x8000000000000000s" [⟨"0x8000000000000000s"⟩]
      = .error (.malformedLiteral "0x8000000000000000s") := by cbv
  refine ⟨by cbv, hrefused, ?_⟩
  rw [hrefused]
  rintro ⟨⟩

end MaskedLiterals
