import MaskedLiterals.Proofs.LiteralForm

/-!
# The one exact cut of a text

A cut is *exact* if its pieces end in literals, no literal is left in a gap or in the rest, and no
literal is left without a `-` that stands in front of it.  Every text has one exact cut, and it is
the one that the scan makes (`cut_eq_iff`).  Whoever wants to know how a text is cut therefore only
has to write down a cut of it that is exact: this is how the text with other literals in its gaps
is read, and a text that is put together from others.

Where a literal is put behind a gap that ends in `-`, the sign changes sides.  `readPiece` is the
piece that is read there.
-/

namespace MaskedLiterals

variable {marker : Char}

/-! ### Texts without literals -/

theorem IsLiteralFree.of_isInfix {text part : List Char} (h : IsLiteralFree marker text)
    (hpart : part <:+: text) : IsLiteralFree marker part :=
  fun literal hliteral hmem => h literal hliteral (hmem.trans hpart)

theorem isLiteralFree_nil : IsLiteralFree marker [] := by
  intro literal hliteral hmem
  exact hliteral.ne_nil (List.infix_nil.1 hmem)

theorem isLiteralFree_cons_iff {c : Char} {text : List Char} :
    IsLiteralFree marker (c :: text)
      ↔ (∀ literal, IsLiteral marker literal → ¬ literal <+: c :: text)
        ∧ IsLiteralFree marker text := by
  constructor
  · intro h
    exact ⟨fun literal hliteral hmem => h literal hliteral hmem.isInfix,
      h.of_isInfix (List.suffix_cons c text).isInfix⟩
  · rintro ⟨hfirst, hothers⟩ literal hliteral hmem
    rcases List.infix_cons_iff.1 hmem with hprefix | hinfix
    · exact hfirst literal hliteral hprefix
    · exact hothers literal hliteral hinfix

/-! ### Exact cuts -/

structure IsExactPiece (marker : Char) (gap literal : List Char) : Prop where
  isLiteral : IsLiteral marker literal
  gapFree : IsLiteralFree marker gap
  signTaken : gap.getLast? = some '-' → literal.head? = some '-'

structure Cut.IsExact (marker : Char) (cut : Cut) : Prop where
  pieces : ∀ piece ∈ cut.pieces, IsExactPiece marker piece.1 piece.2
  restFree : IsLiteralFree marker cut.rest

def Cut.pushPiece (gap literal : List Char) (cut : Cut) : Cut :=
  { cut with pieces := (gap, literal) :: cut.pieces }

@[simp] theorem Cut.join_pushPiece (gap literal : List Char) (cut : Cut) :
    (cut.pushPiece gap literal).join = gap ++ (literal ++ cut.join) := by
  simp [pushPiece, join]

theorem Cut.isExact_pushPiece_iff (gap literal : List Char) (parts : Cut) :
    (parts.pushPiece gap literal).IsExact marker
      ↔ IsExactPiece marker gap literal ∧ parts.IsExact marker := by
  constructor
  · intro h
    exact ⟨h.pieces (gap, literal) (by simp [pushPiece]),
      fun piece hpiece => h.pieces piece (by simp [pushPiece, hpiece]), h.restFree⟩
  · rintro ⟨hpiece, hparts⟩
    refine ⟨fun piece hmem => ?_, hparts.restFree⟩
    rcases List.mem_cons.1 hmem with rfl | hmem
    · exact hpiece
    · exact hparts.pieces piece hmem

/-! ### The scan makes an exact cut -/

/-- A character at which no literal starts keeps a cut exact. -/
theorem Cut.IsExact.push (hm : IsMarker marker) {c : Char} {parts : Cut}
    (h : parts.IsExact marker) (hnone : literalAt? marker (c :: parts.join) = none) :
    (parts.push c).IsExact marker := by
  have hstart : ∀ literal, IsLiteral marker literal → ¬ literal <+: c :: parts.join := by
    rintro literal hliteral ⟨behind, heq⟩
    have hsome := (literalAt?_eq_some_iff hm).2 ⟨hliteral, heq⟩
    rw [hnone] at hsome
    cases hsome
  obtain ⟨_ | ⟨⟨gap, literal⟩, pieces⟩, rest⟩ := parts
  · have hfree : IsLiteralFree marker (c :: rest) :=
      isLiteralFree_cons_iff.2 ⟨by simpa [join] using hstart, h.restFree⟩
    exact ⟨by simp [Cut.push], hfree⟩
  · obtain ⟨hpiece, hparts⟩ := (isExact_pushPiece_iff gap literal ⟨pieces, rest⟩).1 h
    refine (isExact_pushPiece_iff (c :: gap) literal ⟨pieces, rest⟩).2
      ⟨⟨hpiece.isLiteral, ?_, ?_⟩, hparts⟩
    · refine isLiteralFree_cons_iff.2 ⟨fun other hother hprefix => hstart other hother ?_,
        hpiece.gapFree⟩
      refine hprefix.trans ⟨literal ++ Cut.join ⟨pieces, rest⟩, ?_⟩
      simp [join]
    · intro hlast
      cases gap with
      | nil =>
        -- an unsigned literal behind `-` would have been a literal with a sign
        obtain rfl : c = '-' := by simpa using hlast
        by_cases hsigned : literal.head? = some '-'
        · exact hsigned
        · have hother := isLiteral_hyphen_cons_iff.2 ⟨hpiece.isLiteral, hsigned⟩
          exact absurd ⟨Cut.join ⟨pieces, rest⟩, by simp [join]⟩ (hstart _ hother)
      | cons d gap => exact hpiece.signTaken (by simpa using hlast)

theorem isExact_cut (hm : IsMarker marker) (text : List Char) :
    (cut marker text).IsExact marker := by
  induction text using cut.induct marker with
  | case1 =>
    rw [cut_nil]
    exact ⟨by simp [Cut.empty], isLiteralFree_nil⟩
  | case2 c text literal behind found ih =>
    rw [cut_of_literalAt? found]
    refine (Cut.isExact_pushPiece_iff [] literal _).2 ⟨⟨?_, isLiteralFree_nil, by simp⟩, ih⟩
    exact isLiteral_of_literalAt? found
  | case3 c text none ih =>
    rw [cut_cons_of_literalAt?_eq_none none]
    exact ih.push hm (by rw [join_cut]; exact none)

/-- What a scan finds in a text are literals. -/
theorem isLiteral_of_mem_literalsOf {dialect : Dialect} {text : String} {token : Token}
    (h : token ∈ dialect.literalsOf text) : IsLiteral dialect.marker token.raw.toList := by
  obtain ⟨literal, hliteral, rfl⟩ := List.mem_map.1 h
  obtain ⟨piece, hpiece, rfl⟩ := List.mem_map.1 hliteral
  rw [String.toList_ofList]
  exact ((isExact_cut dialect.isMarker text.toList).pieces piece hpiece).isLiteral

/-! ### There is no other -/

theorem IsExactPiece.literalAt?_eq_none (hm : IsMarker marker) {c : Char}
    {gap literal : List Char} (h : IsExactPiece marker (c :: gap) literal) (behind : List Char) :
    literalAt? marker (c :: (gap ++ (literal ++ behind))) = none := by
  rw [Option.eq_none_iff_forall_ne_some]
  rintro ⟨other, rest⟩ hfound
  obtain ⟨hother, heq⟩ := (literalAt?_eq_some_iff hm).1 hfound
  rcases hother.isPrefix_or_eq_of_overlap hm h.isLiteral (List.cons_ne_nil c gap) heq with
    hprefix | ⟨hgap, rfl⟩
  · exact h.gapFree other hother hprefix.isInfix
  · refine (isLiteral_hyphen_cons_iff.1 hother).2 (h.signTaken ?_)
    rw [hgap]
    rfl

theorem cut_append_piece (hm : IsMarker marker) {gap literal : List Char}
    (h : IsExactPiece marker gap literal) (behind : List Char) :
    cut marker (gap ++ (literal ++ behind)) = (cut marker behind).pushPiece gap literal := by
  induction gap with
  | nil => exact cut_of_literalAt? ((literalAt?_eq_some_iff hm).2 ⟨h.isLiteral, rfl⟩)
  | cons c gap ih =>
    have hgap : IsExactPiece marker gap literal := by
      refine ⟨h.isLiteral, (isLiteralFree_cons_iff.1 h.gapFree).2, fun hlast => h.signTaken ?_⟩
      rw [List.getLast?_cons, hlast]
      rfl
    rw [List.cons_append, cut_cons_of_literalAt?_eq_none (h.literalAt?_eq_none hm behind), ih hgap]
    rfl

theorem cut_of_isLiteralFree (hm : IsMarker marker) {text : List Char}
    (h : IsLiteralFree marker text) : cut marker text = ⟨[], text⟩ := by
  induction text with
  | nil => rw [cut_nil]; rfl
  | cons c text ih =>
    obtain ⟨hfirst, hothers⟩ := isLiteralFree_cons_iff.1 h
    have hnone : literalAt? marker (c :: text) = none := by
      rw [Option.eq_none_iff_forall_ne_some]
      rintro ⟨literal, behind⟩ hfound
      obtain ⟨hliteral, heq⟩ := (literalAt?_eq_some_iff hm).1 hfound
      exact hfirst literal hliteral ⟨behind, heq⟩
    rw [cut_cons_of_literalAt?_eq_none hnone, ih hothers]
    rfl

/-- An exact cut is the cut of the text that it joins to. -/
theorem Cut.IsExact.cut_join (hm : IsMarker marker) {parts : Cut} (h : parts.IsExact marker) :
    cut marker parts.join = parts := by
  obtain ⟨pieces, rest⟩ := parts
  induction pieces with
  | nil => simpa [join] using cut_of_isLiteralFree hm h.restFree
  | cons piece pieces ih =>
    obtain ⟨gap, literal⟩ := piece
    obtain ⟨hpiece, hparts⟩ := (isExact_pushPiece_iff gap literal ⟨pieces, rest⟩).1 h
    show MaskedLiterals.cut marker (Cut.join (Cut.pushPiece gap literal ⟨pieces, rest⟩)) = _
    rw [join_pushPiece, cut_append_piece hm hpiece, ih hparts]
    rfl

/-- **The cut of a text is its one exact cut.** -/
theorem cut_eq_iff (hm : IsMarker marker) {text : List Char} {parts : Cut} :
    cut marker text = parts ↔ parts.join = text ∧ parts.IsExact marker := by
  constructor
  · rintro rfl
    exact ⟨join_cut marker text, isExact_cut hm text⟩
  · rintro ⟨rfl, h⟩
    exact h.cut_join hm

/-! ### A literal behind a gap -/

/-- The gap ends in a `-`, and the literal behind it has no sign of its own. -/
def TakesSign (gap literal : List Char) : Prop :=
  gap.getLast? = some '-' ∧ literal.head? ≠ some '-'

instance (gap literal : List Char) : Decidable (TakesSign gap literal) := by
  unfold TakesSign; infer_instance

/-- The gap and the literal that are read where a literal was put behind a gap: a `-` at the end of
    the gap becomes the sign of a literal that has none. -/
def readPiece (gap literal : List Char) : List Char × List Char :=
  if TakesSign gap literal then (gap.dropLast, '-' :: literal) else (gap, literal)

theorem readPiece_of_takesSign {gap literal : List Char} (h : TakesSign gap literal) :
    readPiece gap literal = (gap.dropLast, '-' :: literal) := if_pos h

theorem readPiece_of_not_takesSign {gap literal : List Char} (h : ¬ TakesSign gap literal) :
    readPiece gap literal = (gap, literal) := if_neg h

theorem TakesSign.dropLast_append {gap literal : List Char} (h : TakesSign gap literal) :
    gap.dropLast ++ ['-'] = gap := by
  obtain ⟨front, rfl⟩ := List.getLast?_eq_some_iff.1 h.1
  simp

/-- Reading moves the sign, and nothing else. -/
theorem readPiece_append (gap literal : List Char) :
    (readPiece gap literal).1 ++ (readPiece gap literal).2 = gap ++ literal := by
  by_cases h : TakesSign gap literal
  · rw [readPiece_of_takesSign h]
    show gap.dropLast ++ (['-'] ++ literal) = gap ++ literal
    rw [← List.append_assoc, h.dropLast_append]
  · rw [readPiece_of_not_takesSign h]

theorem isExactPiece_readPiece {gap literal : List Char} (hgap : IsLiteralFree marker gap)
    (h : IsLiteral marker literal) :
    IsExactPiece marker (readPiece gap literal).1 (readPiece gap literal).2 := by
  by_cases hsign : TakesSign gap literal
  · rw [readPiece_of_takesSign hsign]
    exact ⟨isLiteral_hyphen_cons_iff.2 ⟨h, hsign.2⟩,
      hgap.of_isInfix (List.dropLast_prefix gap).isInfix, fun _ => rfl⟩
  · rw [readPiece_of_not_takesSign hsign]
    refine ⟨h, hgap, fun hlast => ?_⟩
    by_cases hsigned : literal.head? = some '-'
    · exact hsigned
    · exact absurd ⟨hlast, hsigned⟩ hsign

theorem IsExactPiece.not_takesSign {gap literal : List Char}
    (h : IsExactPiece marker gap literal) : ¬ TakesSign gap literal :=
  fun hsign => hsign.2 (h.signTaken hsign.1)

/-- A text that holds a literal is cut at it, apart from the sign. -/
theorem cut_append_literal_append (hm : IsMarker marker) {literal : List Char}
    (h : IsLiteral marker literal) (before after : List Char) :
    cut marker (before ++ (literal ++ after))
      = ⟨(cut marker before).pieces
          ++ readPiece (cut marker before).rest literal :: (cut marker after).pieces,
        (cut marker after).rest⟩ := by
  have hbefore := isExact_cut hm before
  have hafter := isExact_cut hm after
  refine (cut_eq_iff hm).2 ⟨?_, fun piece hmem => ?_, hafter.restFree⟩
  · have hfront := join_cut marker before
    have hback := join_cut marker after
    have hpiece := readPiece_append (cut marker before).rest literal
    simp only [Cut.join, List.flatMap_append, List.flatMap_cons, List.append_assoc] at hfront hback ⊢
    rw [hback, ← List.append_assoc (readPiece _ _).1, hpiece, List.append_assoc,
      ← List.append_assoc (List.flatMap _ _), hfront]
  · rcases List.mem_append.1 hmem with hfront | hback
    · exact hbefore.pieces piece hfront
    · rcases List.mem_cons.1 hback with rfl | hback
      · exact isExactPiece_readPiece hbefore.restFree h
      · exact hafter.pieces piece hback

end MaskedLiterals
