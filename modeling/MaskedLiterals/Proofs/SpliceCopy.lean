import MaskedLiterals.Proofs.SpliceReadback

/-!
# What a splice comes to

A splice is refused for the number of elements, or else for the first of them that has no value, or
else it makes a text that has the elements between the gaps of the old one (`splice_outcome`).
Gaps and literals are those of any exact cut of the text, whoever made it.

The copy takes part after part of the text by octets.  `takenFrom` lists these parts in the order in
which they are taken, and a copy is made exactly if all of them are parts of the text
(`isSome_copyFrom?_iff`).  Since one always is made, none of them begins or ends within a character,
and they stand one behind the other because each begins where a literal ends.
-/

namespace MaskedLiterals

variable {text : String} {places : List (OctetSpan × Token)} {last : Nat}

/-! ### The parts that a copy takes -/

/-- The parts that a copy takes from the octet `last` on of a text with `size` octets. -/
def takenFrom (size last : Nat) : List (OctetSpan × Token) → List OctetSpan
  | [] => [⟨last, size⟩]
  | (span, _) :: places => ⟨last, span.start⟩ :: takenFrom size span.stop places

def Dialect.taken (dialect : Dialect) (text : String) (tokens : List Token) : List OctetSpan :=
  takenFrom text.utf8ByteSize 0 ((dialect.octetSpans text).zip tokens)

/-- The span is a part of the text, from one of its characters to another or to the end. -/
structure OctetSpan.IsPartOf (span : OctetSpan) (text : String) : Prop where
  inOrder : span.start ≤ span.stop
  inBounds : span.stop ≤ text.utf8ByteSize
  startsAtChar : (String.Pos.Raw.mk span.start).IsValid text
  stopsAtChar : (String.Pos.Raw.mk span.stop).IsValid text

theorem OctetSpan.isPartOf_iff_isSome_slice? {span : OctetSpan} :
    span.IsPartOf text ↔ (Text.slice? text span.start span.stop).isSome := by
  rw [Text.isSome_slice?_iff]
  constructor
  · intro h
    exact ⟨h.startsAtChar, h.stopsAtChar, h.inOrder⟩
  · rintro ⟨hstart, hstop, hle⟩
    exact ⟨hle, hstop.le_rawEndPos, hstart, hstop⟩

/-- **A copy is made exactly if each part that it takes is a part of the text.** -/
theorem isSome_copyFrom?_iff (made : String) :
    (copyFrom? text made last places).isSome
      ↔ ∀ part ∈ takenFrom text.utf8ByteSize last places, part.IsPartOf text := by
  induction places generalizing made last with
  | nil =>
    simp only [takenFrom, List.forall_mem_singleton, OctetSpan.isPartOf_iff_isSome_slice?]
    cases hrest : Text.slice? text last text.utf8ByteSize with
    | none => simp [copyFrom?, hrest]
    | some rest => simp [copyFrom?, hrest]
  | cons place places ih =>
    obtain ⟨span, token⟩ := place
    rw [takenFrom, List.forall_mem_cons, OctetSpan.isPartOf_iff_isSome_slice?]
    cases hgap : Text.slice? text last span.start with
    | none => simp [copyFrom?, hgap]
    | some gap =>
      have hothers := @ih span.stop (made ++ gap ++ token.raw)
      simpa [copyFrom?, hgap] using hothers

/-- The parts that a copy takes are the gaps, one after the other, and the rest. -/
theorem map_slice?_takenFrom {before rest : List Char} {pieces : List (List Char × List Char)}
    {tokens : List Token} (htext : text.toList = before ++ Cut.join ⟨pieces, rest⟩)
    (hlength : pieces.length = tokens.length) :
    (takenFrom text.utf8ByteSize (Text.octets before)
        ((Cut.octetSpansFrom (Text.octets before) pieces).zip tokens)).map
        (fun part => Text.slice? text part.start part.stop)
      = (Cut.gaps ⟨pieces, rest⟩ ++ [rest]).map fun gap => some (String.ofList gap) := by
  induction pieces generalizing before tokens with
  | nil =>
    have hrest : text.toList = before ++ (rest ++ []) := by simpa [Cut.join] using htext
    have hsize : text.utf8ByteSize = Text.octets before + Text.octets rest := by
      rw [← Text.octets_toList, hrest, List.append_nil, Text.octets_append]
    rw [Cut.octetSpansFrom, List.zip_nil_left, takenFrom, List.map_singleton, hsize,
      Text.slice?_of_toList hrest]
    rfl
  | cons piece pieces ih =>
    obtain ⟨gap, literal⟩ := piece
    cases tokens with
    | nil => cases hlength
    | cons token tokens =>
      have hgap : text.toList = before ++ (gap ++ (literal ++ Cut.join ⟨pieces, rest⟩)) := by
        simpa [Cut.join] using htext
      have hbehind : Text.octets before + Text.octets gap + Text.octets literal
          = Text.octets (before ++ gap ++ literal) := by
        rw [Text.octets_append, Text.octets_append]
      have hothers := @ih (before ++ gap ++ literal) tokens (by simpa [Cut.join] using htext)
        (by simpa using hlength)
      rw [Cut.octetSpansFrom, List.zip_cons_cons, takenFrom, List.map_cons,
        Text.slice?_of_toList hgap, hbehind, hothers]
      rfl

/-! ### Their order -/

theorem Cut.start_le_stop_of_mem_octetSpansFrom {start : Nat}
    {pieces : List (List Char × List Char)} {span : OctetSpan}
    (h : span ∈ octetSpansFrom start pieces) : span.start ≤ span.stop := by
  induction pieces generalizing start with
  | nil => cases h
  | cons piece pieces ih =>
    rcases List.mem_cons.1 h with rfl | hmem
    · exact Nat.le_add_right _ _
    · exact ih hmem

section Order

variable {size : Nat} (hspans : ∀ place ∈ places, place.1.start ≤ place.1.stop)
  (hparts : ∀ part ∈ takenFrom size last places, part.start ≤ part.stop)
include hspans hparts

theorem le_start_of_mem_takenFrom {part : OctetSpan} (h : part ∈ takenFrom size last places) :
    last ≤ part.start := by
  induction places generalizing last with
  | nil =>
    obtain rfl := List.mem_singleton.1 h
    exact Nat.le_refl last
  | cons place places ih =>
    obtain ⟨span, token⟩ := place
    obtain ⟨hspan, hothers⟩ := List.forall_mem_cons.1 hspans
    obtain ⟨hfirst, hrest⟩ := List.forall_mem_cons.1 hparts
    rcases List.mem_cons.1 h with rfl | hmem
    · exact Nat.le_refl last
    · have hbehind := ih hothers hrest hmem
      dsimp only at hspan hfirst
      omega

/-- Between two parts stands a literal, which ends behind its start. -/
theorem pairwise_takenFrom :
    (takenFrom size last places).Pairwise fun part next => part.stop ≤ next.start := by
  induction places generalizing last with
  | nil => exact List.pairwise_singleton _ _
  | cons place places ih =>
    obtain ⟨span, token⟩ := place
    obtain ⟨hspan, hothers⟩ := List.forall_mem_cons.1 hspans
    obtain ⟨-, hrest⟩ := List.forall_mem_cons.1 hparts
    refine List.Pairwise.cons (fun next hnext => ?_) (ih hothers hrest)
    have hbehind := le_start_of_mem_takenFrom hothers hrest hnext
    dsimp only at hspan ⊢
    omega

end Order

theorem Dialect.isPartOf_of_mem_taken {dialect : Dialect} {tokens : List Token} {part : OctetSpan}
    (hcount : dialect.countLiterals text = tokens.length) (h : part ∈ dialect.taken text tokens) :
    part.IsPartOf text := by
  have hcopied : (dialect.copied? text tokens).isSome := by
    rw [copied?_eq_some hcount]
    rfl
  exact (isSome_copyFrom?_iff "").1 hcopied part h

theorem Dialect.pairwise_taken {dialect : Dialect} {tokens : List Token}
    (hcount : dialect.countLiterals text = tokens.length) :
    (dialect.taken text tokens).Pairwise fun part next => part.stop ≤ next.start := by
  refine pairwise_takenFrom (fun place hplace => ?_) fun part hpart =>
    (isPartOf_of_mem_taken hcount hpart).inOrder
  exact Cut.start_le_stop_of_mem_octetSpansFrom (List.of_mem_zip hplace).1

theorem Dialect.map_slice?_taken {dialect : Dialect} {tokens : List Token}
    (hcount : dialect.countLiterals text = tokens.length) :
    (dialect.taken text tokens).map (fun part => Text.slice? text part.start part.stop)
      = ((dialect.cut text).gaps ++ [(dialect.cut text).rest]).map
        fun gap => some (String.ofList gap) := by
  have htext : text.toList = [] ++ (dialect.cut text).join :=
    (join_cut dialect.marker text.toList).symm
  exact map_slice?_takenFrom htext hcount

/-! ### The outcome -/

theorem Cut.toList_fill (parts : Cut) (tokens : List Token) :
    (String.ofList (parts.fill (tokens.map (·.raw.toList)))).toList
      = (List.zipWith (fun gap token => gap ++ token.raw.toList) parts.gaps tokens).flatten
        ++ parts.rest := by
  rw [String.toList_ofList, Cut.fill, List.zip_eq_zipWith, List.zipWith_map_right, List.flatMap_def,
    List.map_zipWith]

/-- **What a splice comes to**, for a text with this exact cut.  It is refused if there are not as
    many elements as literals, whatever the elements are.  If there are as many, it is refused for
    the first element without a value.  If all have values, the new text has each gap of the old one
    once and in its place, the element between them, and the old text is kept.  The parts that are
    copied are these gaps; they stand one behind the other, each within the text and with no
    character cut in two. -/
theorem splice_outcome (dialect : Dialect) (text : String) (tokens : List Token) (parts : Cut)
    (hjoin : parts.join = text.toList) (hexact : parts.IsExact dialect.marker) :
    (parts.pieces.length ≠ tokens.length →
      dialect.splice text tokens = .error (.countMismatch parts.pieces.length tokens.length))
    ∧ (parts.pieces.length = tokens.length → ∀ front token back, tokens = front ++ token :: back →
      (∀ before ∈ front, ∃ word, before.value dialect = .ok word) →
      (∀ word, token.value dialect ≠ .ok word) →
      dialect.splice text tokens = .error (.malformedLiteral token.raw))
    ∧ (parts.pieces.length = tokens.length →
      (∀ token ∈ tokens, ∃ word, token.value dialect = .ok word) →
      ∃ newText, dialect.splice text tokens = .ok ⟨newText, text⟩
        ∧ dialect.copied? text tokens = some newText
        ∧ newText.toList
          = (List.zipWith (fun gap token => gap ++ token.raw.toList) parts.gaps tokens).flatten
            ++ parts.rest)
    ∧ (parts.pieces.length = tokens.length →
      (∀ part ∈ dialect.taken text tokens, part.IsPartOf text)
      ∧ (dialect.taken text tokens).Pairwise (fun part next => part.stop ≤ next.start)
      ∧ (dialect.taken text tokens).map (fun part => Text.slice? text part.start part.stop)
        = (parts.gaps ++ [parts.rest]).map fun gap => some (String.ofList gap)) := by
  have hcut : dialect.cut text = parts := (cut_eq_iff dialect.isMarker).2 ⟨hjoin, hexact⟩
  have hcount : dialect.countLiterals text = parts.pieces.length := by
    rw [Dialect.countLiterals, hcut]
  rw [← hcount]
  refine ⟨fun hother => ?_, fun hsame front token back htokens hfront hvalue => ?_,
    fun hsame hvalues => ?_, fun hsame => ?_⟩
  · exact splice_eq_error_iff.2 (Or.inl ⟨hother, rfl⟩)
  · have hrefused : token.value dialect = .error (.malformedLiteral token.raw) := by
      cases hread : token.value dialect with
      | ok word => exact absurd hread (hvalue word)
      | error refusal => rw [Token.value_eq_error hread]
    exact splice_eq_error_iff.2 (Or.inr ⟨hsame, front, token, back, htokens, hfront, hrefused⟩)
  · refine ⟨_, splice_eq_ok_iff.2 ⟨hsame, hvalues, rfl⟩, Dialect.copied?_eq_some hsame, ?_⟩
    rw [Dialect.filled, hcut, Cut.toList_fill]
  · refine ⟨fun part => Dialect.isPartOf_of_mem_taken hsame, Dialect.pairwise_taken hsame, ?_⟩
    rw [← hcut]
    exact Dialect.map_slice?_taken hsame

/-- Literals that touch, characters of several octets around them and a marker of two: an element
    too many is refused even if one has no value, the first one without a value is named, and two
    with values are put between the gaps. -/
theorem splice_outcome_adjacent :
    ∃ dialect : Dialect, dialect.marker = 'é'
      ∧ dialect.splice "ß0x1é-0x2é€" [⟨"0x"⟩, ⟨"0x3é"⟩, ⟨"0x4é"⟩] = .error (.countMismatch 2 3)
      ∧ dialect.splice "ß0x1é-0x2é€" [⟨"0x3é"⟩, ⟨"0x"⟩] = .error (.malformedLiteral "0x")
      ∧ dialect.splice "ß0x1é-0x2é€" [⟨"-0xfé"⟩, ⟨"0x0003é"⟩]
        = .ok ⟨"ß-0xfé0x0003é€", "ß0x1é-0x2é€"⟩
      ∧ ∀ part ∈ dialect.taken "ß0x1é-0x2é€" [⟨"-0xfé"⟩, ⟨"0x0003é"⟩],
        part.IsPartOf "ß0x1é-0x2é€" := by
  let dialect : Dialect := ⟨'é', 4, by decide⟩
  let parts : Cut := ⟨[("ß".toList, "0x1é".toList), ([], "-0x2é".toList)], "€".toList⟩
  have hcut : cut dialect.marker "ß0x1é-0x2é€".toList = parts := by cbv
  obtain ⟨hjoin, hexact⟩ := (cut_eq_iff dialect.isMarker).1 hcut
  have hvalue (token : Token) (h : token ∈ [Token.mk "-0xfé", ⟨"0x0003é"⟩]) :
      ∃ word, token.value dialect = .ok word := by
    rcases List.mem_pair.1 h with rfl | rfl
    · exact ⟨-15, by cbv⟩
    · exact ⟨3, by cbv⟩
  have hnone (word : Word) : (Token.mk "0x").value dialect ≠ .ok word := by
    have hrefused : (Token.mk "0x").value dialect = .error (.malformedLiteral "0x") := by cbv
    rw [hrefused]
    rintro ⟨⟩
  have hfirst (token : Token) (h : token ∈ [Token.mk "0x3é"]) :
      ∃ word, token.value dialect = .ok word := by
    obtain rfl := List.mem_singleton.1 h
    exact ⟨3, by cbv⟩
  refine ⟨dialect, rfl, ?_, ?_, ?_, ?_⟩
  · exact (splice_outcome dialect _ [⟨"0x"⟩, ⟨"0x3é"⟩, ⟨"0x4é"⟩] parts hjoin hexact).1 (by decide)
  · exact (splice_outcome dialect _ [⟨"0x3é"⟩, ⟨"0x"⟩] parts hjoin hexact).2.1 rfl [⟨"0x3é"⟩] _ []
      rfl hfirst hnone
  · obtain ⟨newText, hsplice, -, htext⟩ := (splice_outcome dialect _ [⟨"-0xfé"⟩, ⟨"0x0003é"⟩] parts
      hjoin hexact).2.2.1 rfl hvalue
    have hnew : newText = "ß-0xfé0x0003é€" := String.toList_inj.1 htext
    rw [hsplice, hnew]
  · exact ((splice_outcome dialect _ [⟨"-0xfé"⟩, ⟨"0x0003é"⟩] parts hjoin hexact).2.2.2 rfl).1

end MaskedLiterals
