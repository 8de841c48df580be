import MaskedLiterals.Proofs.ExactCut

/-!
# The scan finds every literal

The places of a scan, its `spans`, are compared with all the places of a text at which a literal
stands, whoever looks for it (`scan_isExact`).  Nothing is missed and nothing is found twice: a
place that holds a literal is a span, or it is a span without the sign in front.

That the scan goes from left to right and never back costs nothing.  The place that is looked at
cuts the text in two, both sides have an exact cut, and the two cuts with the literal between them
are again an exact cut, so they are the cut of the whole text (`cut_append_literal_append`).
-/

namespace MaskedLiterals

/-! ### Places in a text -/

/-- A place in a text: from `start` up to but not including `stop`. -/
structure Extent where
  start : Nat
  stop : Nat
  deriving DecidableEq, Repr, Inhabited

def Extent.of (text : List Char) (span : Extent) : List Char := text.extract span.start span.stop

def Cut.spansFrom : Nat → List (List Char × List Char) → List Extent
  | _, [] => []
  | start, (gap, literal) :: pieces =>
    ⟨start + gap.length, start + gap.length + literal.length⟩
      :: spansFrom (start + gap.length + literal.length) pieces

def Cut.spans (cut : Cut) : List Extent := spansFrom 0 cut.pieces

def Cut.joinPieces (pieces : List (List Char × List Char)) : List Char :=
  pieces.flatMap fun piece => piece.1 ++ piece.2

theorem Extent.of_append (before part after : List Char) :
    Extent.of (before ++ (part ++ after)) ⟨before.length, before.length + part.length⟩ = part := by
  simp [Extent.of, List.extract]

theorem Cut.length_spansFrom (start : Nat) (pieces : List (List Char × List Char)) :
    (spansFrom start pieces).length = pieces.length := by
  induction pieces generalizing start with
  | nil => rfl
  | cons piece pieces ih => simp [spansFrom, ih]

theorem Cut.mem_spansFrom_append (front back : List (List Char × List Char))
    (gap literal : List Char) (start : Nat) :
    ⟨start + (joinPieces front ++ gap).length,
        start + (joinPieces front ++ gap).length + literal.length⟩
      ∈ spansFrom start (front ++ (gap, literal) :: back) := by
  induction front generalizing start with
  | nil => simp [spansFrom, joinPieces]
  | cons piece front ih =>
    have hrest := ih (start + piece.1.length + piece.2.length)
    refine List.mem_cons_of_mem _ ?_
    simpa [joinPieces, Nat.add_assoc] using hrest

/-- A literal in a cut stands behind the pieces and the gap in front of it. -/
theorem Cut.mem_spans_of_append {front back : List (List Char × List Char)}
    {gap literal before rest : List Char} (h : joinPieces front ++ gap = before) :
    ⟨before.length, before.length + literal.length⟩
      ∈ (Cut.mk (front ++ (gap, literal) :: back) rest).spans := by
  have hmem := mem_spansFrom_append front back gap literal 0
  rw [h] at hmem
  simpa [spans] using hmem

theorem Cut.exists_of_mem_spansFrom {start : Nat} {pieces : List (List Char × List Char)}
    {span : Extent} (h : span ∈ spansFrom start pieces) :
    ∃ front gap literal back, pieces = front ++ (gap, literal) :: back
      ∧ span.start = start + (joinPieces front).length + gap.length
      ∧ span.stop = span.start + literal.length := by
  induction pieces generalizing start with
  | nil => cases h
  | cons piece pieces ih =>
    rcases List.mem_cons.1 h with rfl | hmem
    · exact ⟨[], piece.1, piece.2, pieces, rfl, by simp [joinPieces], rfl⟩
    · obtain ⟨front, gap, literal, back, rfl, hstart, hstop⟩ := ih hmem
      refine ⟨piece :: front, gap, literal, back, rfl, ?_, hstop⟩
      simp only [joinPieces, List.flatMap_cons, List.length_append] at hstart ⊢
      omega

theorem Cut.start_le_of_mem_spansFrom {start : Nat} {pieces : List (List Char × List Char)}
    {span : Extent} (h : span ∈ spansFrom start pieces) : start ≤ span.start := by
  obtain ⟨front, gap, literal, back, -, hstart, -⟩ := exists_of_mem_spansFrom h
  omega

theorem Cut.pairwise_spansFrom (start : Nat) (pieces : List (List Char × List Char)) :
    (spansFrom start pieces).Pairwise fun span next => span.stop ≤ next.start := by
  induction pieces generalizing start with
  | nil => exact List.Pairwise.nil
  | cons piece pieces ih =>
    exact List.Pairwise.cons (fun next hnext => start_le_of_mem_spansFrom hnext) (ih _)

theorem Cut.map_of_spansFrom (before : List Char) (pieces : List (List Char × List Char))
    (rest : List Char) :
    (spansFrom before.length pieces).map (Extent.of (before ++ (joinPieces pieces ++ rest)))
      = pieces.map Prod.snd := by
  induction pieces generalizing before with
  | nil => rfl
  | cons piece pieces ih =>
    obtain ⟨gap, literal⟩ := piece
    have hothers := ih (before ++ (gap ++ literal))
    have hfirst := Extent.of_append (before ++ gap) literal (joinPieces pieces ++ rest)
    simp only [joinPieces, spansFrom, List.map_cons, List.flatMap_cons, List.append_assoc,
      List.length_append, Nat.add_assoc] at hothers hfirst ⊢
    rw [hfirst, hothers]

theorem Cut.map_of_spans (parts : Cut) :
    parts.spans.map (Extent.of parts.join) = parts.literals :=
  map_of_spansFrom [] parts.pieces parts.rest

theorem Cut.exists_of_mem_spans {parts : Cut} {span : Extent} (h : span ∈ parts.spans) :
    ∃ before literal after, (∃ gap, (gap, literal) ∈ parts.pieces)
      ∧ parts.join = before ++ (literal ++ after)
      ∧ span = ⟨before.length, before.length + literal.length⟩ := by
  obtain ⟨front, gap, literal, back, hpieces, hstart, hstop⟩ := exists_of_mem_spansFrom h
  refine ⟨joinPieces front ++ gap, literal, joinPieces back ++ parts.rest,
    ⟨gap, by simp [hpieces]⟩, ?_, ?_⟩
  · simp [join, hpieces, joinPieces]
  · obtain ⟨start, stop⟩ := span
    simp only [Nat.zero_add] at hstart hstop
    rw [hstop, hstart, List.length_append]

/-! ### Literals at places -/

section Places

variable {marker : Char} {text : List Char}

theorem Extent.exists_append {span : Extent} (hle : span.start ≤ span.stop)
    (hstop : span.stop ≤ text.length) :
    ∃ before after, text = before ++ (span.of text ++ after) ∧ before.length = span.start
      ∧ (span.of text).length = span.stop - span.start := by
  refine ⟨text.take span.start, text.drop span.stop, ?_, by simp; omega, ?_⟩
  · have hpart : span.of text ++ text.drop span.stop = text.drop span.start := by
      have hdrop : text.drop span.stop = (text.drop span.start).drop (span.stop - span.start) := by
        rw [List.drop_drop]
        congr 1
        omega
      rw [hdrop]
      exact List.take_append_drop _ _
    rw [hpart, List.take_append_drop]
  · simp [Extent.of, List.extract]
    omega

theorem isLiteral_of_mem_spans (hm : IsMarker marker) {span : Extent}
    (h : span ∈ (cut marker text).spans) : IsLiteral marker (span.of text) := by
  obtain ⟨before, literal, after, ⟨gap, hpiece⟩, hjoin, rfl⟩ := Cut.exists_of_mem_spans h
  rw [join_cut] at hjoin
  rw [hjoin, Extent.of_append]
  exact ((isExact_cut hm text).pieces (gap, literal) hpiece).isLiteral

/-- A span that begins with a sign holds a literal behind the sign too. -/
theorem isLiteral_behind_sign (hm : IsMarker marker) {start stop : Nat}
    (h : ⟨start, stop⟩ ∈ (cut marker text).spans) (hsign : text[start]? = some '-') :
    IsLiteral marker (Extent.of text ⟨start + 1, stop⟩) := by
  have hliteral := isLiteral_of_mem_spans hm h
  obtain ⟨before, literal, after, -, hjoin, hspan⟩ := Cut.exists_of_mem_spans h
  rw [join_cut] at hjoin
  obtain ⟨rfl, rfl⟩ := Extent.mk.inj hspan
  rw [hjoin, Extent.of_append] at hliteral
  obtain ⟨c, body, rfl⟩ := List.exists_cons_of_ne_nil hliteral.ne_nil
  obtain rfl : c = '-' := by simpa [hjoin] using hsign
  have hplace := Extent.of_append (before ++ ['-']) body after
  have htext : text = before ++ ['-'] ++ (body ++ after) := by rw [hjoin]; simp
  have hspan : Extent.mk (before.length + 1) (before.length + ('-' :: body).length)
      = ⟨(before ++ ['-']).length, (before ++ ['-']).length + body.length⟩ := by
    simp only [List.length_append, List.length_cons, List.length_nil]
    congr 1
    omega
  rw [hspan, htext, hplace]
  exact (isLiteral_hyphen_cons_iff.1 hliteral).1

/-- A literal between two texts stands at a span of the whole, or lacks the sign of one. -/
theorem mem_spans_append_literal_append (hm : IsMarker marker) {literal : List Char}
    (h : IsLiteral marker literal) (before after : List Char) :
    ⟨before.length, before.length + literal.length⟩
        ∈ (cut marker (before ++ (literal ++ after))).spans
      ∨ ∃ start, before.length = start + 1
        ∧ ⟨start, before.length + literal.length⟩
            ∈ (cut marker (before ++ (literal ++ after))).spans
        ∧ (before ++ (literal ++ after))[start]? = some '-' := by
  have hcut := cut_append_literal_append hm h before after
  have hjoin : Cut.joinPieces (cut marker before).pieces ++ (cut marker before).rest = before :=
    join_cut marker before
  by_cases hsign : TakesSign (cut marker before).rest literal
  · right
    rw [readPiece_of_takesSign hsign] at hcut
    obtain ⟨front, hfront⟩ : ∃ front, Cut.joinPieces (cut marker before).pieces
        ++ (cut marker before).rest.dropLast = front := ⟨_, rfl⟩
    have hbefore : before = front ++ ['-'] := by
      rw [← hfront, List.append_assoc, hsign.dropLast_append, hjoin]
    have hlength : before.length = front.length + 1 := by rw [hbefore]; simp
    refine ⟨front.length, hlength, ?_, ?_⟩
    · have hstop : before.length + literal.length = front.length + ('-' :: literal).length := by
        rw [hlength, List.length_cons]
        omega
      rw [hcut, hstop]
      exact Cut.mem_spans_of_append hfront
    · have hget : (front ++ ('-' :: (literal ++ after)))[front.length]? = some '-' := by simp
      rw [← hget, hbefore, List.append_assoc]
      rfl
  · left
    rw [readPiece_of_not_takesSign hsign] at hcut
    rw [hcut]
    exact Cut.mem_spans_of_append hjoin

/-- **A literal stands at a place exactly if the place is a span, or a span without its sign.** -/
theorem isLiteral_of_iff_mem_spans (hm : IsMarker marker) {span : Extent}
    (hstop : span.stop ≤ text.length) :
    IsLiteral marker (span.of text)
      ↔ span ∈ (cut marker text).spans
        ∨ ∃ start, span.start = start + 1 ∧ ⟨start, span.stop⟩ ∈ (cut marker text).spans
          ∧ text[start]? = some '-' := by
  constructor
  · intro h
    have hle : span.start ≤ span.stop := by
      by_cases hle : span.start ≤ span.stop
      · exact hle
      · refine absurd ?_ h.ne_nil
        simp [Extent.of, List.extract]
        omega
    obtain ⟨before, after, htext, hstart, hlength⟩ := span.exists_append hle hstop
    have hplaces := mem_spans_append_literal_append hm h before after
    rw [← htext, hstart, hlength, Nat.add_sub_cancel' hle] at hplaces
    exact hplaces
  · rintro (hmem | ⟨start, hstart, hmem, hsign⟩)
    · exact isLiteral_of_mem_spans hm hmem
    · have hbody := isLiteral_behind_sign hm hmem hsign
      rw [← hstart] at hbody
      exact hbody

theorem isLiteralFree_iff_pieces_eq_nil (hm : IsMarker marker) :
    IsLiteralFree marker text ↔ (cut marker text).pieces = [] := by
  constructor
  · intro h
    rw [cut_of_isLiteralFree hm h]
  · intro hnil
    have hjoin := join_cut marker text
    have hrest := (isExact_cut hm text).restFree
    simp only [Cut.join, hnil, List.flatMap_nil, List.nil_append] at hjoin
    rwa [hjoin] at hrest

end Places

/-! ### The scan of a dialect -/

section Dialect

variable (dialect : Dialect) (text : String)

def tokenAt (text : String) (span : Extent) : Token := ⟨String.ofList (span.of text.toList)⟩

/-- The scan of a text, set against everything that stands in the text. -/
structure Dialect.IsExactScan : Prop where
  /-- Gaps and literals in turn are the text. -/
  join_eq : (dialect.cut text).join = text.toList
  map_spans : (dialect.cut text).spans.map (Extent.of text.toList) = (dialect.cut text).literals
  isLiteral : ∀ literal ∈ (dialect.cut text).literals, IsLiteral dialect.marker literal
  inOrder : (dialect.cut text).spans.Pairwise fun span next => span.stop ≤ next.start
  /-- A literal stands at a place exactly if it is a span, or a span without its sign. -/
  isLiteral_iff : ∀ span : Extent, span.stop ≤ text.toList.length →
    (IsLiteral dialect.marker (span.of text.toList)
      ↔ span ∈ (dialect.cut text).spans
        ∨ ∃ start, span.start = start + 1 ∧ ⟨start, span.stop⟩ ∈ (dialect.cut text).spans
          ∧ text.toList[start]? = some '-')
  gapFree : ∀ gap ∈ (dialect.cut text).gaps, IsLiteralFree dialect.marker gap
  restFree : IsLiteralFree dialect.marker (dialect.cut text).rest
  count_eq : dialect.countLiterals text = (dialect.cut text).spans.length
  parse_eq_ok : ¬ IsLiteralFree dialect.marker text.toList →
    dialect.parse text = .ok ((dialect.cut text).spans.map (tokenAt text))
  parse_eq_error : IsLiteralFree dialect.marker text.toList →
    dialect.parse text = .error .noLiterals

theorem Dialect.literalsOf_eq_map_spans :
    dialect.literalsOf text = (dialect.cut text).spans.map (tokenAt text) := by
  have hspans := Cut.map_of_spans (dialect.cut text)
  rw [Dialect.cut, join_cut, ← Dialect.cut] at hspans
  rw [Dialect.literalsOf, ← hspans, List.map_map]
  rfl

/-- **Scanning is exact and unambiguous**, for every dialect and every text. -/
theorem scan_isExact : dialect.IsExactScan text where
  join_eq := join_cut dialect.marker text.toList
  map_spans := by
    have hspans := Cut.map_of_spans (dialect.cut text)
    rwa [Dialect.cut, join_cut] at hspans
  isLiteral := by
    intro literal hmem
    obtain ⟨piece, hpiece, rfl⟩ := List.mem_map.1 hmem
    exact ((isExact_cut dialect.isMarker text.toList).pieces piece hpiece).isLiteral
  inOrder := Cut.pairwise_spansFrom 0 _
  isLiteral_iff := fun _ hstop => isLiteral_of_iff_mem_spans dialect.isMarker hstop
  gapFree := by
    intro gap hmem
    obtain ⟨piece, hpiece, rfl⟩ := List.mem_map.1 hmem
    exact ((isExact_cut dialect.isMarker text.toList).pieces piece hpiece).gapFree
  restFree := (isExact_cut dialect.isMarker text.toList).restFree
  count_eq := (Cut.length_spansFrom 0 _).symm
  parse_eq_ok := by
    intro hsome
    have hpieces := mt (isLiteralFree_iff_pieces_eq_nil dialect.isMarker).2 hsome
    have htokens : dialect.literalsOf text ≠ [] := by
      simpa [Dialect.literalsOf, Cut.literals, Dialect.cut] using hpieces
    rw [← dialect.literalsOf_eq_map_spans text]
    unfold Dialect.parse
    split
    · next hnil => exact absurd hnil htokens
    · rfl
  parse_eq_error := by
    intro hfree
    have hpieces := (isLiteralFree_iff_pieces_eq_nil dialect.isMarker).1 hfree
    have htokens : dialect.literalsOf text = [] := by
      simp [Dialect.literalsOf, Cut.literals, Dialect.cut, hpieces]
    rw [Dialect.parse, htokens]

end Dialect

end MaskedLiterals
