import MaskedLiterals.Proofs.SeparatedTexts
import MaskedLiterals.Proofs.SessionRun

/-!
# What holds of every session

Whatever is done with a session, and whatever others do to the disk meanwhile, its array has
elements, each element is a literal as a whole, and the text of the session has as many literals as
the array has elements (`Work.IsSound`).  Saving replaces the text by a spliced one that is not
scanned again; the last fact survives because a splice keeps the number of literals.

So the array of a session can always be put back into its text but for elements whose number is no
word, and no edit has written such an element (`reachable_invariant`).
-/

namespace MaskedLiterals

variable {dialect : Dialect}

/-! ### Elements that are not words -/

/-- A literal whose number is below `-2^63` or above `2^63 - 1`. -/
def Token.ExceedsWord (dialect : Dialect) (token : Token) : Prop :=
  ∃ sign digits, IsDigitRun digits ∧ token.raw.toList = literalChars dialect.marker sign digits
    ∧ ¬ (-2 ^ 63 ≤ sign.apply (NumeralBase.hex.valueOf digits)
      ∧ sign.apply (NumeralBase.hex.valueOf digits) < 2 ^ 63)

theorem Token.exceedsWord_of_value_eq_error {token : Token} {refusal : Refusal}
    (hliteral : IsLiteral dialect.marker token.raw.toList)
    (h : token.value dialect = .error refusal) : token.ExceedsWord dialect := by
  obtain ⟨sign, digits, hdigits, hraw⟩ := hliteral
  refine ⟨sign, digits, hdigits, hraw, fun hfits => ?_⟩
  have hword := Int64.toInt_ofInt_of_le hfits.1 hfits.2
  have hvalue := Token.value_eq_ok_iff.2 ⟨sign, digits, hdigits, hraw, hword⟩
  rw [h] at hvalue
  cases hvalue

theorem IsLiteral.newline_not_mem {marker : Char} {text : List Char} (hm : IsMarker marker)
    (h : IsLiteral marker text) : '\n' ∉ text :=
  (isSeparator_of_isBlank hm (by decide)).not_mem h

/-! ### Arrays of literals -/

/-- An array that belongs to a text: as many elements as the text has literals, at least one, and
    all of them literals. -/
structure IsArrayOf (dialect : Dialect) (source : String) (tokens : List Token) : Prop where
  nonempty : tokens ≠ []
  isLiteral : ∀ token ∈ tokens, IsLiteral dialect.marker token.raw.toList
  count_eq : dialect.countLiterals source = tokens.length

theorem isArrayOf_of_parse {source : String} {tokens : List Token}
    (h : dialect.parse source = .ok tokens) : IsArrayOf dialect source tokens := by
  obtain ⟨hne, rfl⟩ := parse_eq_ok_iff.1 h
  exact ⟨hne, fun token hmem => isLiteral_of_mem_literalsOf hmem,
    (length_literalsOf dialect source).symm⟩

/-- A splice makes another text that the array belongs to. -/
theorem IsArrayOf.newText {source text : String} {tokens : List Token} {spliced : Spliced}
    (h : IsArrayOf dialect source tokens) (hsplice : dialect.splice text tokens = .ok spliced) :
    IsArrayOf dialect spliced.newText tokens :=
  ⟨h.nonempty, h.isLiteral, countLiterals_newText hsplice⟩

/-! ### Edited arrays -/

section Edit

variable {work : Work} {edit : Edit} {token : Token}

/-- An element after an edit is one from before, or has a value. -/
theorem Work.mem_after_edit (h : token ∈ (work.after (.edit edit)).session.store.tokens) :
    token ∈ work.session.store.tokens
      ∨ ∃ word, token.value work.session.dialect = .ok word := by
  obtain ⟨k, hk⟩ := List.getElem?_of_mem h
  rcases work.after_edit_at edit k with ⟨-, c, -, hnew⟩ | ⟨-, hold⟩
  · obtain rfl := Option.some.inj (hk.symm.trans hnew)
    exact Or.inr ⟨_, Token.value_ofWordPadded _ _⟩
  · exact Or.inl (List.mem_of_getElem? (hold.symm.trans hk))

theorem IsArrayOf.after_edit {source : String}
    (h : IsArrayOf work.session.dialect source work.session.store.tokens) :
    IsArrayOf work.session.dialect source (work.after (.edit edit)).session.store.tokens where
  nonempty := by
    have hpos : 0 < work.session.store.length := List.length_pos_iff.2 h.nonempty
    rw [← work.length_after_edit edit] at hpos
    exact List.length_pos_iff.1 hpos
  isLiteral := by
    intro token hmem
    rcases Work.mem_after_edit hmem with hold | ⟨word, hword⟩
    · exact h.isLiteral token hold
    · exact Token.isLiteral_of_value_eq_ok hword
  count_eq := h.count_eq.trans (work.length_after_edit edit).symm

end Edit

/-! ### The invariant -/

/-- What holds of a session at work: its array belongs to its text, and what edits wrote has
    values. -/
structure Work.IsSound (dialect : Dialect) (work : Work) : Prop where
  dialect_eq : work.session.dialect = dialect
  isArray : IsArrayOf dialect work.session.source work.session.store.tokens
  edited : ∀ (k : Nat) (token : Token), work.session.store.tokens[k]? = some token →
    work.IsEdited k → ∃ word, token.value dialect = .ok word

namespace Work.IsSound

variable {work : Work}

/-- A session whose array was just loaded. -/
theorem of_parse {session : Session} {disk : Disk} (hdialect : session.dialect = dialect)
    (h : dialect.parse session.source = .ok session.store.tokens) :
    IsSound dialect ⟨session, disk, []⟩ where
  dialect_eq := hdialect
  isArray := isArrayOf_of_parse h
  edited := by
    rintro k token - ⟨span, hspan, -⟩
    cases hspan

theorem after_edit (h : work.IsSound dialect) (edit : Edit) :
    (work.after (.edit edit)).IsSound dialect where
  dialect_eq := by
    rw [work.session_after_edit edit]
    exact h.dialect_eq
  isArray := by
    have harray := h.isArray
    rw [← h.dialect_eq] at harray ⊢
    rw [work.session_after_edit edit]
    exact harray.after_edit
  edited := by
    intro k token htoken hedited
    rcases work.after_edit_at edit k with ⟨-, c, -, hnew⟩ | ⟨hiff, hold⟩
    · obtain rfl := Option.some.inj (htoken.symm.trans hnew)
      rw [h.dialect_eq]
      exact ⟨_, Token.value_ofWordPadded _ _⟩
    · exact h.edited k token (hold.symm.trans htoken) (hiff.1 hedited)

theorem after_reload (h : work.IsSound dialect) : (work.after .reload).IsSound dialect := by
  unfold Work.after
  dsimp only
  split
  · next session hreload =>
    obtain ⟨path, source, tokens, -, -, hparse, rfl⟩ := Session.reload_eq_ok_iff.1 hreload
    rw [h.dialect_eq] at hparse
    exact of_parse h.dialect_eq hparse
  · exact h

/-- A save that fails leaves the session, and one that succeeds splices its array. -/
theorem after_save (h : work.IsSound dialect) (suffix : String) :
    (work.after (.save suffix)).IsSound dialect := by
  unfold Work.after
  dsimp only
  split
  · next disk session report hsave =>
    obtain ⟨path, source, spliced, backed, -, -, hsplice, -, -, rfl, -⟩ := Session.save_eq_ok_iff.1 hsave
    rw [h.dialect_eq] at hsplice
    exact ⟨h.dialect_eq, h.isArray.newText hsplice, h.edited⟩
  · exact ⟨h.dialect_eq, h.isArray, h.edited⟩

theorem after (h : work.IsSound dialect) (event : Event) : (work.after event).IsSound dialect := by
  cases event with
  | edit edit => exact h.after_edit edit
  | decode start stop key => exact h
  | preview text key => exact h
  | writeListing path =>
    unfold Work.after
    dsimp only
    split
    · exact ⟨h.dialect_eq, h.isArray, h.edited⟩
    · exact h
  | reload => exact h.after_reload
  | save suffix => exact h.after_save suffix
  | disturb disk => exact ⟨h.dialect_eq, h.isArray, h.edited⟩

end Work.IsSound

theorem Reachable.isSound {work : Work} (h : Reachable dialect work) : work.IsSound dialect := by
  induction h with
  | ofFile opened =>
    obtain ⟨-, source, tokens, -, hparse, rfl⟩ := Session.ofFile_eq_ok_iff.1 opened
    exact Work.IsSound.of_parse rfl hparse
  | ofText opened =>
    obtain ⟨tokens, hparse, rfl⟩ := Session.ofText_eq_ok_iff.1 opened
    exact Work.IsSound.of_parse rfl hparse
  | after event _ ih => exact ih.after event

/-! ### Putting the array back -/

section Splice

variable {work : Work}

/-- The array of the session can be put back into the text of the session. -/
def Work.IsAccepted (work : Work) : Prop :=
  ∃ spliced, work.session.dialect.splice work.session.source work.session.store.tokens = .ok spliced

theorem Work.IsAccepted.after_edit (h : work.IsAccepted) (edit : Edit) :
    (work.after (.edit edit)).IsAccepted := by
  obtain ⟨spliced, hsplice⟩ := h
  obtain ⟨hcount, hvalues, -⟩ := splice_eq_ok_iff.1 hsplice
  unfold Work.IsAccepted
  rw [work.session_after_edit edit]
  refine ⟨_, splice_eq_ok_iff.2 ⟨hcount.trans (work.length_after_edit edit).symm, ?_, rfl⟩⟩
  intro token hmem
  rcases Work.mem_after_edit hmem with hold | hnew
  · exact hvalues token hold
  · exact hnew

/-- Edits do not spoil an array that can be put back. -/
theorem Work.IsAccepted.run_edits (h : work.IsAccepted) (edits : List Edit) :
    (work.run (edits.map Event.edit)).IsAccepted := by
  induction edits generalizing work with
  | nil => exact h
  | cons edit edits ih => exact ih (h.after_edit edit)

/-- Putting the array back is refused for one reason only. -/
theorem Work.IsSound.splice_eq_error (h : work.IsSound dialect) {refusal : Refusal}
    (hsplice : dialect.splice work.session.source work.session.store.tokens = .error refusal) :
    ∃ (k : Nat) (token : Token), work.session.store.tokens[k]? = some token
      ∧ refusal = .malformedLiteral token.raw ∧ token.ExceedsWord dialect ∧ ¬ work.IsEdited k := by
  rcases splice_eq_error_iff.1 hsplice with ⟨hcount, -⟩ | ⟨-, front, token, back, htokens, -, hvalue⟩
  · exact absurd h.isArray.count_eq hcount
  · have htoken : work.session.store.tokens[front.length]? = some token := by
      rw [htokens]
      simp
    have hliteral := h.isArray.isLiteral token (List.mem_of_getElem? htoken)
    refine ⟨front.length, token, htoken, Token.value_eq_error hvalue,
      Token.exceedsWord_of_value_eq_error hliteral hvalue, fun hedited => ?_⟩
    obtain ⟨word, hword⟩ := h.edited front.length token htoken hedited
    rw [hvalue] at hword
    cases hword

end Splice

/-- **What holds of every session that can come about.**  Its array has elements, all of them
    literals of its dialect on one line, and as many as its text has literals.  Putting the array
    back into the text is refused only for an element whose number is no word and that no edit
    wrote since the array was loaded.  No edits make it refused where it was not. -/
theorem reachable_invariant {work : Work} (h : Reachable dialect work) :
    work.session.dialect = dialect
    ∧ work.session.store.tokens ≠ []
    ∧ (∀ token ∈ work.session.store.tokens,
      IsLiteral dialect.marker token.raw.toList ∧ '\n' ∉ token.raw.toList)
    ∧ dialect.countLiterals work.session.source = work.session.store.length
    ∧ (∀ refusal,
      dialect.splice work.session.source work.session.store.tokens = .error refusal →
      ∃ (k : Nat) (token : Token), work.session.store.tokens[k]? = some token
        ∧ refusal = .malformedLiteral token.raw ∧ token.ExceedsWord dialect ∧ ¬ work.IsEdited k)
    ∧ (∀ edits : List Edit, work.IsAccepted → (work.run (edits.map Event.edit)).IsAccepted) := by
  have hsound := h.isSound
  refine ⟨hsound.dialect_eq, hsound.isArray.nonempty, fun token hmem => ?_,
    hsound.isArray.count_eq, fun refusal => hsound.splice_eq_error,
    fun edits haccepted => haccepted.run_edits edits⟩
  have hliteral := hsound.isArray.isLiteral token hmem
  exact ⟨hliteral, hliteral.newline_not_mem dialect.isMarker⟩

/-- The second of two elements is edited.  The first is still as it was loaded and no word, and the
    array cannot be put back because of it. -/
theorem reachable_invariant_large_element :
    Session.ofText .smaliShort "0x8000000000000000s 0x5s" = .ok
        ⟨none, "0x8000000000000000s 0x5s", ⟨[⟨"0x8000000000000000s"⟩, ⟨"0x5s"⟩]⟩, .smaliShort⟩
      ∧ ∃ token : Token, token.raw = "0x8000000000000000s" ∧ token.ExceedsWord .smaliShort := by
  have hopened : Session.ofText .smaliShort "0x8000000000000000s 0x5s" = .ok
      ⟨none, "0x8000000000000000s 0x5s", ⟨[⟨"0x8000000000000000s"⟩, ⟨"0x5s"⟩]⟩, .smaliShort⟩ := by
    cbv
  have hrefused : Dialect.smaliShort.splice "0x8000000000000000s 0x5s"
      [⟨"0x8000000000000000s"⟩, ⟨"0x0041s"⟩] = .error (.malformedLiteral "0x8000000000000000s") := by
    cbv
  have hreached := (@Reachable.ofText _ ⟨[], []⟩ _ _ hopened).after (.edit ⟨1, "A", 0⟩)
  obtain ⟨-, -, -, -, hsplice, -⟩ := reachable_invariant hreached
  obtain ⟨k, token, -, hrefusal, hexceeds, -⟩ := hsplice _ hrefused
  exact ⟨hopened, token, (Refusal.malformedLiteral.inj hrefusal).symm, hexceeds⟩

end MaskedLiterals
