import MaskedLiterals.Proofs.ExactCut
import MaskedLiterals.Proofs.Outcome
import MaskedLiterals.Proofs.TokenValue
import MaskedLiterals.Splice

/-!
# Reading a spliced text back

Putting literals into the gaps of a text never makes a literal of a gap, never joins two literals
and never loses one.  One thing can happen: where a gap ends in `-` and the element put behind it
has no sign, the `-` is read as the sign of the element.  `splice_readBack` says that this is all,
and where it does not happen the spliced text holds the array that was put into it.

An array without elements is spliced into any text without literals, and yet such a text holds no
array (`splice_without_literals`).
-/

namespace MaskedLiterals

variable {marker : Char} {dialect : Dialect}

/-! ### When a splice succeeds -/

theorem checkValues_eq_ok_iff {tokens : List Token} :
    dialect.checkValues tokens = .ok ()
      ↔ ∀ token ∈ tokens, ∃ word, token.value dialect = .ok word := by
  induction tokens with
  | nil => simp [Dialect.checkValues]
  | cons token tokens ih =>
    rw [Dialect.checkValues, bind_eq_ok_iff, List.forall_mem_cons, ih]
    exact exists_and_right

/-- The check fails at the first element that has no value. -/
theorem checkValues_eq_error_iff {tokens : List Token} {refusal : Refusal} :
    dialect.checkValues tokens = .error refusal
      ↔ ∃ front token back, tokens = front ++ token :: back
        ∧ (∀ before ∈ front, ∃ word, before.value dialect = .ok word)
        ∧ token.value dialect = .error refusal := by
  induction tokens with
  | nil => simp [Dialect.checkValues]
  | cons first tokens ih =>
    rw [Dialect.checkValues, bind_eq_error_iff, ih]
    constructor
    · rintro (hfirst | ⟨word, hword, front, token, back, rfl, hfront, htoken⟩)
      · exact ⟨[], first, tokens, rfl, by simp, hfirst⟩
      · exact ⟨first :: front, token, back, rfl,
          List.forall_mem_cons.2 ⟨⟨word, hword⟩, hfront⟩, htoken⟩
    · rintro ⟨_ | ⟨head, front⟩, token, back, heq, hfront, htoken⟩
      · obtain ⟨rfl, rfl⟩ := List.cons.inj heq
        exact Or.inl htoken
      · obtain ⟨rfl, rfl⟩ := List.cons.inj heq
        obtain ⟨⟨word, hword⟩, hothers⟩ := List.forall_mem_cons.1 hfront
        exact Or.inr ⟨word, hword, front, token, back, rfl, hothers, htoken⟩

def Dialect.filled (dialect : Dialect) (text : String) (tokens : List Token) : List Char :=
  (dialect.cut text).fill (tokens.map (·.raw.toList))

theorem splice_eq_ok_iff {text : String} {tokens : List Token} {spliced : Spliced} :
    dialect.splice text tokens = .ok spliced
      ↔ dialect.countLiterals text = tokens.length
        ∧ (∀ token ∈ tokens, ∃ word, token.value dialect = .ok word)
        ∧ spliced = ⟨String.ofList (dialect.filled text tokens), text⟩ := by
  rw [Dialect.splice_eq]
  by_cases hcount : dialect.countLiterals text = tokens.length
  · rw [if_pos hcount, bind_eq_ok_iff]
    simp only [hcount, true_and, ← checkValues_eq_ok_iff, Except.ok.injEq]
    exact ⟨fun ⟨_, hcheck, heq⟩ => ⟨hcheck, heq.symm⟩, fun ⟨hcheck, heq⟩ => ⟨(), hcheck, heq.symm⟩⟩
  · rw [if_neg hcount]
    simp [hcount]

/-- A splice is refused for the number of elements, or else for the first that has no value. -/
theorem splice_eq_error_iff {text : String} {tokens : List Token} {refusal : Refusal} :
    dialect.splice text tokens = .error refusal
      ↔ dialect.countLiterals text ≠ tokens.length
          ∧ refusal = .countMismatch (dialect.countLiterals text) tokens.length
        ∨ dialect.countLiterals text = tokens.length
          ∧ ∃ front token back, tokens = front ++ token :: back
            ∧ (∀ before ∈ front, ∃ word, before.value dialect = .ok word)
            ∧ token.value dialect = .error refusal := by
  rw [Dialect.splice_eq]
  by_cases hcount : dialect.countLiterals text = tokens.length
  · rw [if_pos hcount, bind_eq_error_iff, ← checkValues_eq_error_iff]
    simp [hcount]
  · rw [if_neg hcount]
    simp [hcount, eq_comm]

/-! ### The cut of a filled text -/

/-- A text with other literals in the gaps of a cut is cut there again. -/
theorem cut_fill (hm : IsMarker marker) {parts : Cut} {literals : List (List Char)}
    (hparts : parts.IsExact marker) (hlength : parts.pieces.length = literals.length)
    (hliterals : ∀ literal ∈ literals, IsLiteral marker literal) :
    cut marker (parts.fill literals)
      = ⟨List.zipWith readPiece parts.gaps literals, parts.rest⟩ := by
  obtain ⟨pieces, rest⟩ := parts
  induction pieces generalizing literals with
  | nil =>
    rw [List.length_nil] at hlength
    obtain rfl := List.length_eq_zero_iff.1 hlength.symm
    exact cut_of_isLiteralFree hm hparts.restFree
  | cons piece pieces ih =>
    obtain ⟨gap, old⟩ := piece
    obtain ⟨literal, literals, rfl⟩ := List.exists_cons_of_length_eq_add_one hlength.symm
    obtain ⟨hpiece, hothers⟩ := (Cut.isExact_pushPiece_iff gap old ⟨pieces, rest⟩).1 hparts
    obtain ⟨hliteral, hliterals⟩ := List.forall_mem_cons.1 hliterals
    have hcut := ih hliterals hothers (by simpa using hlength)
    have hfill : Cut.fill ⟨(gap, old) :: pieces, rest⟩ (literal :: literals)
        = (readPiece gap literal).1
          ++ ((readPiece gap literal).2 ++ Cut.fill ⟨pieces, rest⟩ literals) := by
      rw [← List.append_assoc, readPiece_append]
      simp [Cut.fill, Cut.gaps]
    rw [hfill, cut_append_piece hm (isExactPiece_readPiece hpiece.gapFree hliteral), hcut]
    rfl

/-! ### What is read back -/

section ReadBack

variable {text : String} {tokens : List Token} {spliced : Spliced}

/-- At the `k`-th place the gap ends in `-`, and the element that is put there has no sign. -/
def Dialect.TakesSignAt (dialect : Dialect) (text : String) (tokens : List Token) (k : Nat) :
    Prop :=
  ∃ gap token, (dialect.cut text).gaps[k]? = some gap ∧ tokens[k]? = some token
    ∧ TakesSign gap token.raw.toList

theorem Dialect.takesSignAt_iff {k : Nat} {gap : List Char} {token : Token}
    (hgap : (dialect.cut text).gaps[k]? = some gap) (htoken : tokens[k]? = some token) :
    dialect.TakesSignAt text tokens k ↔ TakesSign gap token.raw.toList := by
  constructor
  · rintro ⟨_, _, hgap', htoken', hsign⟩
    obtain rfl := Option.some.inj (hgap.symm.trans hgap')
    obtain rfl := Option.some.inj (htoken.symm.trans htoken')
    exact hsign
  · intro hsign
    exact ⟨gap, token, hgap, htoken, hsign⟩

theorem cut_newText (h : dialect.splice text tokens = .ok spliced) :
    dialect.cut spliced.newText
      = ⟨List.zipWith readPiece (dialect.cut text).gaps (tokens.map (·.raw.toList)),
        (dialect.cut text).rest⟩ := by
  obtain ⟨hcount, hvalues, rfl⟩ := splice_eq_ok_iff.1 h
  have hliterals : ∀ literal ∈ tokens.map (·.raw.toList), IsLiteral dialect.marker literal := by
    intro literal hmem
    obtain ⟨token, htoken, rfl⟩ := List.mem_map.1 hmem
    obtain ⟨word, hword⟩ := hvalues token htoken
    exact Token.isLiteral_of_value_eq_ok hword
  rw [Dialect.cut, String.toList_ofList]
  exact cut_fill dialect.isMarker (isExact_cut dialect.isMarker text.toList)
    (by simpa [Dialect.countLiterals] using hcount) hliterals

theorem length_gaps (dialect : Dialect) (text : String) :
    (dialect.cut text).gaps.length = dialect.countLiterals text := by
  simp [Cut.gaps, Dialect.countLiterals]

/-- A splice keeps the number of literals. -/
theorem countLiterals_newText (h : dialect.splice text tokens = .ok spliced) :
    dialect.countLiterals spliced.newText = tokens.length := by
  have hcount := (splice_eq_ok_iff.1 h).1
  have hgaps := length_gaps dialect text
  rw [Dialect.countLiterals, cut_newText h]
  simp [hgaps, hcount]

theorem pieces_newText_getElem? (h : dialect.splice text tokens = .ok spliced) {k : Nat}
    {gap : List Char} {token : Token} (hgap : (dialect.cut text).gaps[k]? = some gap)
    (htoken : tokens[k]? = some token) :
    (dialect.cut spliced.newText).pieces[k]? = some (readPiece gap token.raw.toList) := by
  rw [cut_newText h]
  exact List.getElem?_zipWith_eq_some.2 ⟨gap, token.raw.toList, hgap, by simp [htoken], rfl⟩

theorem gaps_getElem?_of_pieces {k : Nat} {piece : List Char × List Char}
    (h : (dialect.cut text).pieces[k]? = some piece) :
    (dialect.cut text).gaps[k]? = some piece.1 := by
  simp [Cut.gaps, h]

theorem literalsOf_getElem?_of_pieces {k : Nat} {piece : List Char × List Char}
    (h : (dialect.cut text).pieces[k]? = some piece) :
    (dialect.literalsOf text)[k]? = some ⟨String.ofList piece.2⟩ := by
  simp [Dialect.literalsOf, Cut.literals, h]

theorem length_literalsOf (dialect : Dialect) (text : String) :
    (dialect.literalsOf text).length = dialect.countLiterals text := by
  simp [Dialect.literalsOf, Cut.literals, Dialect.countLiterals]

/-- The element read back at a place: as it was put there, or with the sign that it took. -/
theorem literalsOf_newText_getElem? (h : dialect.splice text tokens = .ok spliced) {k : Nat}
    {gap : List Char} {token : Token} (hgap : (dialect.cut text).gaps[k]? = some gap)
    (htoken : tokens[k]? = some token) :
    (dialect.literalsOf spliced.newText)[k]?
      = some (if TakesSign gap token.raw.toList then ⟨"-" ++ token.raw⟩ else token) := by
  rw [literalsOf_getElem?_of_pieces (pieces_newText_getElem? h hgap htoken)]
  split
  · next hsign =>
    rw [readPiece_of_takesSign hsign]
    simp [String.ofList_cons]
  · next hno =>
    rw [readPiece_of_not_takesSign hno]
    simp

/-- **The elements are read back as they are exactly if no element takes a sign.** -/
theorem literalsOf_newText_eq_iff (h : dialect.splice text tokens = .ok spliced) :
    dialect.literalsOf spliced.newText = tokens ↔ ∀ k, ¬ dialect.TakesSignAt text tokens k := by
  have hlength : (dialect.cut text).gaps.length = tokens.length := by
    rw [length_gaps, (splice_eq_ok_iff.1 h).1]
  constructor
  · rintro heq k ⟨gap, token, hgap, htoken, hsign⟩
    have hread := literalsOf_newText_getElem? h hgap htoken
    rw [heq, htoken, if_pos hsign, Option.some.injEq] at hread
    have hsize := congrArg (fun token => token.raw.length) hread
    simp at hsize
  · intro hno
    refine List.ext_getElem? fun k => ?_
    cases htoken : tokens[k]? with
    | none =>
      rw [List.getElem?_eq_none_iff] at htoken ⊢
      rw [length_literalsOf, countLiterals_newText h]
      exact htoken
    | some token =>
      obtain ⟨gap, hgap⟩ : ∃ gap, (dialect.cut text).gaps[k]? = some gap := by
        have hk := (List.getElem?_eq_some_iff.1 htoken).1
        exact ⟨_, List.getElem?_eq_getElem (by omega)⟩
      rw [literalsOf_newText_getElem? h hgap htoken,
        if_neg fun hsign => hno k ⟨gap, token, hgap, htoken, hsign⟩]

theorem parse_eq_ok_iff {tokens : List Token} :
    dialect.parse text = .ok tokens ↔ tokens ≠ [] ∧ dialect.literalsOf text = tokens := by
  unfold Dialect.parse
  split
  · next hnil => simp [hnil, eq_comm]
  · next found hfound =>
    constructor
    · intro h
      cases h
      exact ⟨hfound, rfl⟩
    · rintro ⟨-, rfl⟩
      rfl

/-- **Reading back what was spliced.**  Each gap is what it was and each literal the element that
    was put there, but for the places where the gap ends in `-` and the element has no sign: there
    the `-` leaves the gap and is read as the sign.  The array itself is read back exactly if it
    has elements and there is no such place. -/
theorem splice_readBack (h : dialect.splice text tokens = .ok spliced) :
    (dialect.cut text).gaps.length = tokens.length
    ∧ dialect.countLiterals spliced.newText = tokens.length
    ∧ (dialect.cut spliced.newText).rest = (dialect.cut text).rest
    ∧ (∀ (k : Nat) (gap : List Char) (token : Token),
      (dialect.cut text).gaps[k]? = some gap → tokens[k]? = some token →
      (¬ TakesSign gap token.raw.toList →
        (dialect.cut spliced.newText).gaps[k]? = some gap
        ∧ (dialect.literalsOf spliced.newText)[k]? = some token)
      ∧ (TakesSign gap token.raw.toList →
        gap = gap.dropLast ++ ['-']
        ∧ (dialect.cut spliced.newText).gaps[k]? = some gap.dropLast
        ∧ (dialect.literalsOf spliced.newText)[k]? = some ⟨"-" ++ token.raw⟩))
    ∧ (dialect.parse spliced.newText = .ok tokens
      ↔ tokens ≠ [] ∧ ∀ k, ¬ dialect.TakesSignAt text tokens k)
    ∧ (tokens = [] → dialect.parse spliced.newText = .error .noLiterals) := by
  refine ⟨by rw [length_gaps, (splice_eq_ok_iff.1 h).1], countLiterals_newText h,
    by rw [cut_newText h], ?_, ?_, ?_⟩
  · intro k gap token hgap htoken
    have hpiece := pieces_newText_getElem? h hgap htoken
    have hliteral := literalsOf_newText_getElem? h hgap htoken
    constructor
    · intro hno
      rw [readPiece_of_not_takesSign hno] at hpiece
      rw [if_neg hno] at hliteral
      exact ⟨gaps_getElem?_of_pieces hpiece, hliteral⟩
    · intro hsign
      rw [readPiece_of_takesSign hsign] at hpiece
      rw [if_pos hsign] at hliteral
      exact ⟨hsign.dropLast_append.symm, gaps_getElem?_of_pieces hpiece, hliteral⟩
  · rw [parse_eq_ok_iff, literalsOf_newText_eq_iff h]
  · rintro rfl
    have hnone : dialect.literalsOf spliced.newText = [] := by
      rw [← List.length_eq_zero_iff, length_literalsOf, countLiterals_newText h]
      rfl
    rw [Dialect.parse, hnone]

/-- A sign is taken at the first place; the literal at the second has its own. -/
theorem splice_readBack_hyphens :
    Dialect.smaliShort.splice "--0x5s--0x6s" [⟨"0x1s"⟩, ⟨"-0x2s"⟩]
        = .ok ⟨"-0x1s--0x2s", "--0x5s--0x6s"⟩
      ∧ (Dialect.smaliShort.literalsOf "-0x1s--0x2s")[0]? = some ⟨"-0x1s"⟩
      ∧ (Dialect.smaliShort.literalsOf "-0x1s--0x2s")[1]? = some ⟨"-0x2s"⟩ := by
  have h : Dialect.smaliShort.splice "--0x5s--0x6s" [⟨"0x1s"⟩, ⟨"-0x2s"⟩]
      = .ok ⟨"-0x1s--0x2s", "--0x5s--0x6s"⟩ := by cbv
  have hgaps : (Dialect.smaliShort.cut "--0x5s--0x6s").gaps = [['-'], ['-']] := by cbv
  obtain ⟨-, -, -, hplaces, -⟩ := splice_readBack h
  have hfirst := hplaces 0 ['-'] ⟨"0x1s"⟩ (by rw [hgaps]; rfl) rfl
  have hsecond := hplaces 1 ['-'] ⟨"-0x2s"⟩ (by rw [hgaps]; rfl) rfl
  exact ⟨h, (hfirst.2 (by decide)).2.2, (hsecond.1 (by decide)).2⟩

/-- An array without elements is spliced, and there is no place where a sign is taken, but what is
    read back is no array. -/
theorem splice_without_literals :
    Dialect.smaliShort.splice "" [] = .ok ⟨"", ""⟩
      ∧ ¬ (Dialect.smaliShort.parse "" = .ok []
        ↔ ∀ k, ¬ Dialect.smaliShort.TakesSignAt "" [] k) := by
  have h : Dialect.smaliShort.parse "" = .error .noLiterals := by cbv
  refine ⟨by cbv, fun hiff => ?_⟩
  have hparse := hiff.2 (by rintro k ⟨gap, token, -, htoken, -⟩; cases htoken)
  rw [h] at hparse
  cases hparse

end ReadBack

end MaskedLiterals
