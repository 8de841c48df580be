import MaskedLiterals.Proofs.NumeralGrammar
import MaskedLiterals.Proofs.SpliceReadback

/-!
# Texts between separators

A literal does not go on over a character that can be no part of it, such as the end of a line.  So
a scan may take a text line by line: the cut of two texts with a *separator* between them is the two
cuts, where the end of the first belongs to the first gap of the second (`cut_separated`).  This
holds also if the first text ends with the beginning of a literal, since no literal has the separator
in it, and so none stands on both sides of it.

What is put into the gaps stays on its side as well: a text is spliced as its parts are, and refused
for the first part that is (`splice_separated`).  By induction this goes on for any number of lines.
-/

namespace MaskedLiterals

variable {marker c : Char}

/-! ### Separators -/

/-- A character that no literal has. -/
def IsSeparator (marker c : Char) : Prop :=
  c ≠ marker ∧ c ∉ NumeralBase.hex.digits ∧ c ≠ 'x' ∧ c ≠ '-'

instance (marker c : Char) : Decidable (IsSeparator marker c) := by
  unfold IsSeparator; infer_instance

theorem isSeparator_of_isBlank (hm : IsMarker marker) (h : Text.isBlank c = true) :
    IsSeparator marker c := by
  refine ⟨?_, ?_, ?_, ?_⟩
  · rintro rfl
    simp only [IsMarker, not_or] at hm
    exact hm.2.2.2.2.1 h
  · intro hdigit
    have hall : NumeralBase.hex.digits.all (fun d => !Text.isBlank d) = true := by decide
    have hblank := List.all_eq_true.1 hall c hdigit
    rw [h] at hblank
    cases hblank
  · rintro rfl
    exact absurd h (by decide)
  · rintro rfl
    exact absurd h (by decide)

theorem IsSeparator.not_mem (hc : IsSeparator marker c) {literal : List Char}
    (h : IsLiteral marker literal) : c ∉ literal := by
  obtain ⟨sign, digits, hdigits, rfl⟩ := h
  obtain ⟨hmarker, hdigit, hx, hhyphen⟩ := hc
  have hzero : c ≠ '0' := by
    rintro rfl
    exact hdigit (by decide)
  have hrun : c ∉ digits := fun hmem =>
    hdigit (NumeralBase.isDigit_iff_mem_digits.1 (hdigits.2 c hmem))
  cases sign <;> simp [literalChars, Sign.chars, hmarker, hx, hhyphen, hzero, hrun]

theorem IsSeparator.isLiteralFree (hc : IsSeparator marker c) {front back : List Char}
    (hfront : IsLiteralFree marker front) (hback : IsLiteralFree marker back) :
    IsLiteralFree marker (front ++ c :: back) := by
  intro literal hliteral hmem
  have hnot := hc.not_mem hliteral
  rcases List.infix_append_iff.1 hmem with hleft | hright | ⟨left, right, rfl, hleft, hright⟩
  · exact hfront literal hliteral hleft
  · rcases List.infix_cons_iff.1 hright with ⟨behind, heq⟩ | hright
    · obtain ⟨d, literal, rfl⟩ := List.exists_cons_of_ne_nil hliteral.ne_nil
      obtain ⟨rfl, -⟩ := List.cons.inj heq
      exact hnot (by simp)
    · exact hback literal hliteral hright
  · -- what stands on both sides has the separator
    obtain ⟨behind, heq⟩ := hright
    cases right with
    | nil =>
      rw [List.append_nil] at hliteral
      exact hfront left hliteral hleft.isInfix
    | cons d right =>
      obtain ⟨rfl, -⟩ := List.cons.inj heq
      exact hnot (by simp)

/-! ### Cuts one behind the other -/

namespace Cut

/-- The pieces of one cut and then those of another: what is left of the first belongs to the first
    gap of the second. -/
def append : Cut → Cut → Cut
  | ⟨pieces, last⟩, ⟨[], rest⟩ => ⟨pieces, last ++ rest⟩
  | ⟨pieces, last⟩, ⟨(gap, literal) :: others, rest⟩ =>
    ⟨pieces ++ (last ++ gap, literal) :: others, rest⟩

variable (front back parts : Cut) {literals others : List (List Char)}

@[simp] theorem join_append : (front.append back).join = front.join ++ back.join := by
  obtain ⟨_ | ⟨⟨gap, literal⟩, pieces⟩, rest⟩ := back <;> simp [append, join]

@[simp] theorem literals_append :
    (front.append back).literals = front.literals ++ back.literals := by
  obtain ⟨_ | ⟨⟨gap, literal⟩, pieces⟩, rest⟩ := back <;> simp [append, literals]

@[simp] theorem literals_push (c : Char) : (parts.push c).literals = parts.literals := by
  obtain ⟨_ | ⟨⟨gap, literal⟩, pieces⟩, rest⟩ := parts <;> rfl

theorem length_literals : parts.literals.length = parts.pieces.length := by
  simp [literals]

theorem fill_push (h : parts.pieces.length = literals.length) :
    (parts.push c).fill literals = c :: parts.fill literals := by
  obtain ⟨_ | ⟨⟨gap, literal⟩, pieces⟩, rest⟩ := parts
  · obtain rfl := List.length_eq_zero_iff.1 h.symm
    rfl
  · obtain ⟨new, literals, rfl⟩ := List.exists_cons_of_length_eq_add_one h.symm
    simp [push, fill, gaps]

theorem fill_append (hfront : front.pieces.length = literals.length)
    (hback : back.pieces.length = others.length) :
    (front.append back).fill (literals ++ others) = front.fill literals ++ back.fill others := by
  have hgaps : (front.pieces.map Prod.fst).length = literals.length := by simpa using hfront
  obtain ⟨_ | ⟨⟨gap, literal⟩, pieces⟩, rest⟩ := back
  · obtain rfl := List.length_eq_zero_iff.1 hback.symm
    simp [append, fill, gaps]
  · obtain ⟨new, others, rfl⟩ := List.exists_cons_of_length_eq_add_one hback.symm
    simp [append, fill, gaps, List.zip_append hgaps]

theorem IsExact.append_push {front back : Cut} (hfront : front.IsExact marker)
    (hback : back.IsExact marker) (hc : IsSeparator marker c) :
    (front.append (back.push c)).IsExact marker := by
  obtain ⟨_ | ⟨⟨gap, literal⟩, pieces⟩, rest⟩ := back
  · exact ⟨hfront.pieces, hc.isLiteralFree hfront.restFree hback.restFree⟩
  · obtain ⟨hpiece, hothers⟩ := (isExact_pushPiece_iff gap literal ⟨pieces, rest⟩).1 hback
    have hfirst : IsExactPiece marker (front.rest ++ c :: gap) literal := by
      refine ⟨hpiece.isLiteral, hc.isLiteralFree hfront.restFree hpiece.gapFree, fun hlast => ?_⟩
      cases gap with
      | nil =>
        -- the gap ends in the separator, which is no sign
        exact absurd (by simpa using hlast) hc.2.2.2
      | cons d gap => exact hpiece.signTaken (by simpa using hlast)
    refine ⟨fun piece hmem => ?_, hback.restFree⟩
    rcases List.mem_append.1 hmem with hmem | hmem
    · exact hfront.pieces piece hmem
    · rcases List.mem_cons.1 hmem with rfl | hmem
      · exact hfirst
      · exact hothers.pieces piece hmem

end Cut

/-- **A text is cut on each side of a separator by itself.** -/
theorem cut_separated (hm : IsMarker marker) (hc : IsSeparator marker c) (front back : List Char) :
    cut marker (front ++ c :: back) = (cut marker front).append ((cut marker back).push c) := by
  refine (cut_eq_iff hm).2 ⟨?_, (isExact_cut hm front).append_push (isExact_cut hm back) hc⟩
  rw [Cut.join_append, Cut.join_push, join_cut, join_cut]

/-! ### Two texts -/

section TwoTexts

variable {dialect : Dialect} {front back : String} {tokens others : List Token}

theorem Dialect.cut_separated (hc : IsSeparator dialect.marker c) (front back : String) :
    dialect.cut (front ++ String.singleton c ++ back)
      = (dialect.cut front).append ((dialect.cut back).push c) := by
  unfold Dialect.cut
  rw [← MaskedLiterals.cut_separated dialect.isMarker hc]
  simp

theorem literalsOf_separated (hc : IsSeparator dialect.marker c) (front back : String) :
    dialect.literalsOf (front ++ String.singleton c ++ back)
      = dialect.literalsOf front ++ dialect.literalsOf back := by
  unfold Dialect.literalsOf
  rw [Dialect.cut_separated hc, Cut.literals_append, Cut.literals_push, List.map_append]

theorem literalsOf_empty (dialect : Dialect) : dialect.literalsOf "" = [] := by
  simp [Dialect.literalsOf, Dialect.cut, cut_nil, Cut.empty, Cut.literals]

theorem countLiterals_separated (hc : IsSeparator dialect.marker c) (front back : String) :
    dialect.countLiterals (front ++ String.singleton c ++ back)
      = dialect.countLiterals front + dialect.countLiterals back := by
  rw [← length_literalsOf, literalsOf_separated hc, List.length_append, length_literalsOf,
    length_literalsOf]

theorem filled_separated (hc : IsSeparator dialect.marker c)
    (hfront : dialect.countLiterals front = tokens.length)
    (hback : dialect.countLiterals back = others.length) :
    dialect.filled (front ++ String.singleton c ++ back) (tokens ++ others)
      = dialect.filled front tokens ++ c :: dialect.filled back others := by
  have hpush : ((dialect.cut back).push c).pieces.length = others.length := by
    rw [← Cut.length_literals, Cut.literals_push, Cut.length_literals]
    exact hback
  unfold Dialect.filled
  rw [Dialect.cut_separated hc, List.map_append,
    Cut.fill_append _ _ (by rw [List.length_map]; exact hfront)
      (by rw [List.length_map]; exact hpush),
    Cut.fill_push _ (by rw [List.length_map]; exact hback)]

theorem checkValues_append :
    dialect.checkValues (tokens ++ others)
      = (dialect.checkValues tokens >>= fun _ => dialect.checkValues others) := by
  induction tokens with
  | nil => rfl
  | cons token tokens ih =>
    rw [List.cons_append, Dialect.checkValues, Dialect.checkValues, ih, bind_assoc]

/-- **A text is spliced on each side of a separator by itself**, and refused for the first side
    that is. -/
theorem splice_separated (hc : IsSeparator dialect.marker c)
    (hfront : dialect.countLiterals front = tokens.length)
    (hback : dialect.countLiterals back = others.length) :
    dialect.splice (front ++ String.singleton c ++ back) (tokens ++ others)
      = (do
        let first ← dialect.splice front tokens
        let second ← dialect.splice back others
        .ok ⟨first.newText ++ String.singleton c ++ second.newText,
          front ++ String.singleton c ++ back⟩) := by
  have hcount : dialect.countLiterals (front ++ String.singleton c ++ back)
      = (tokens ++ others).length := by
    rw [countLiterals_separated hc, hfront, hback, List.length_append]
  have hnew : String.ofList (dialect.filled (front ++ String.singleton c ++ back) (tokens ++ others))
      = String.ofList (dialect.filled front tokens) ++ String.singleton c
        ++ String.ofList (dialect.filled back others) := by
    rw [filled_separated hc hfront hback, String.ofList_append, String.ofList_cons,
      String.append_assoc]
  unfold Dialect.filled at hnew
  simp only [Dialect.splice_eq, if_pos hcount, if_pos hfront, if_pos hback, checkValues_append]
  cases dialect.checkValues tokens with
  | error refusal => rfl
  | ok =>
    cases dialect.checkValues others with
    | error refusal => rfl
    | ok =>
      simp only [bind, Except.bind]
      rw [hnew]

end TwoTexts

/-! ### Any number of lines -/

section Lines

variable {dialect : Dialect}

theorem literalsOf_intercalate (hc : IsSeparator dialect.marker c) (lines : List String) :
    dialect.literalsOf ((String.singleton c).intercalate lines)
      = lines.flatMap dialect.literalsOf := by
  induction lines with
  | nil => exact literalsOf_empty dialect
  | cons line lines ih =>
    cases lines with
    | nil => simp
    | cons next lines =>
      rw [String.intercalate_cons_cons, literalsOf_separated hc, ih]
      rfl

theorem countLiterals_intercalate (hc : IsSeparator dialect.marker c)
    {lines : List (String × List Token)}
    (hlines : ∀ line ∈ lines, dialect.countLiterals line.1 = line.2.length) :
    dialect.countLiterals ((String.singleton c).intercalate (lines.map Prod.fst))
      = (lines.flatMap Prod.snd).length := by
  rw [← length_literalsOf, literalsOf_intercalate hc, List.length_flatMap, List.length_flatMap,
    List.map_map]
  refine congrArg List.sum (List.map_congr_left fun line hmem => ?_)
  exact (length_literalsOf dialect line.1).trans (hlines line hmem)

/-- A text of lines is spliced as its lines are, each with its own elements. -/
theorem splice_intercalate (hc : IsSeparator dialect.marker c)
    {lines : List (String × List Token)}
    (hlines : ∀ line ∈ lines, dialect.countLiterals line.1 = line.2.length) :
    dialect.splice ((String.singleton c).intercalate (lines.map Prod.fst)) (lines.flatMap Prod.snd)
      = (do
        let parts ← lines.mapM fun line => dialect.splice line.1 line.2
        .ok ⟨(String.singleton c).intercalate (parts.map Spliced.newText),
          (String.singleton c).intercalate (lines.map Prod.fst)⟩) := by
  induction lines with
  | nil =>
    rw [Dialect.splice_eq]
    simp [Dialect.countLiterals, Dialect.cut, cut_nil, Cut.empty, Cut.fill, Cut.gaps,
      Dialect.checkValues]
    rfl
  | cons line lines ih =>
    obtain ⟨hline, hothers⟩ := List.forall_mem_cons.1 hlines
    cases lines with
    | nil =>
      simp only [List.map_cons, List.map_nil, List.flatMap_cons, List.flatMap_nil, List.append_nil,
        String.intercalate_singleton, List.mapM_cons, List.mapM_nil, bind_assoc, pure_bind]
      cases hpart : dialect.splice line.1 line.2 with
      | error refusal => rfl
      | ok part =>
        obtain ⟨-, -, rfl⟩ := splice_eq_ok_iff.1 hpart
        rfl
    | cons next lines =>
      have hcount := countLiterals_intercalate hc hothers
      simp only [List.map_cons, List.flatMap_cons, String.intercalate_cons_cons] at ih hcount ⊢
      rw [splice_separated hc hline hcount, ih hothers]
      simp only [List.mapM_cons, bind_assoc, pure_bind, List.map_cons,
        String.intercalate_cons_cons]
      rfl

/-- **A text is scanned and spliced on each side of a separator by itself.**  Every blank, so every
    end of a line, is a separator. -/
theorem splice_isLocal (dialect : Dialect) :
    (∀ c, Text.isBlank c = true → IsSeparator dialect.marker c)
    ∧ ∀ c, IsSeparator dialect.marker c → ∀ front back : String,
      dialect.literalsOf (front ++ String.singleton c ++ back)
          = dialect.literalsOf front ++ dialect.literalsOf back
      ∧ dialect.countLiterals (front ++ String.singleton c ++ back)
          = dialect.countLiterals front + dialect.countLiterals back
      ∧ (∀ tokens, dialect.parse (front ++ String.singleton c ++ back) = .ok tokens
          ↔ tokens ≠ [] ∧ dialect.literalsOf front ++ dialect.literalsOf back = tokens)
      ∧ ∀ tokens others : List Token, dialect.countLiterals front = tokens.length →
        dialect.countLiterals back = others.length →
        ((∃ spliced, dialect.splice (front ++ String.singleton c ++ back) (tokens ++ others)
            = .ok spliced)
          ↔ (∃ first, dialect.splice front tokens = .ok first)
            ∧ ∃ second, dialect.splice back others = .ok second)
        ∧ ∀ first second, dialect.splice front tokens = .ok first →
          dialect.splice back others = .ok second →
          dialect.splice (front ++ String.singleton c ++ back) (tokens ++ others)
            = .ok ⟨first.newText ++ String.singleton c ++ second.newText,
                front ++ String.singleton c ++ back⟩ := by
  refine ⟨fun c => isSeparator_of_isBlank dialect.isMarker, fun c hc front back =>
    ⟨literalsOf_separated hc front back, countLiterals_separated hc front back, fun tokens => ?_,
      fun tokens others hfront hback => ⟨?_, ?_⟩⟩⟩
  · rw [parse_eq_ok_iff, literalsOf_separated hc]
  · rw [splice_separated hc hfront hback]
    simp only [bind_eq_ok_iff]
    constructor
    · rintro ⟨spliced, first, hfirst, second, hsecond, -⟩
      exact ⟨⟨first, hfirst⟩, second, hsecond⟩
    · rintro ⟨⟨first, hfirst⟩, second, hsecond⟩
      exact ⟨_, first, hfirst, second, hsecond, rfl⟩
  · intro first second hfirst hsecond
    rw [splice_separated hc hfront hback, hfirst, hsecond]
    rfl

/-- What has begun at the end of the first line is no literal, though the second line would have
    ended it. -/
theorem splice_isLocal_unfinished :
    Dialect.smaliShort.splice "--0x1s0x\n5s 0x2s" [⟨"0x7s"⟩, ⟨"-0x8s"⟩]
      = .ok ⟨"-0x7s0x\n5s -0x8s", "--0x1s0x\n5s 0x2s"⟩ := by
  have hlocal := (splice_isLocal Dialect.smaliShort).2 '\n' (by decide) "--0x1s0x" "5s 0x2s"
  have hfirst : Dialect.smaliShort.splice "--0x1s0x" [⟨"0x7s"⟩] = .ok ⟨"-0x7s0x", "--0x1s0x"⟩ := by
    cbv
  have hsecond : Dialect.smaliShort.splice "5s 0x2s" [⟨"-0x8s"⟩] = .ok ⟨"5s -0x8s", "5s 0x2s"⟩ := by
    cbv
  exact (hlocal.2.2.2 [⟨"0x7s"⟩] [⟨"-0x8s"⟩] (by cbv) (by cbv)).2 _ _ hfirst hsecond

end Lines

end MaskedLiterals
