import MaskedLiterals.Scan
import MaskedLiterals.Text.Slice

/-!
# Putting an array back into its text

`splice` replaces the literals of a text, one by one in their order, with the elements of an array;
the gaps are copied as they are.  It is refused when the text has another number of literals than
the array has elements, and when an element has no value, since either would shift every literal
behind it.

The text is copied by octets, from where the last literal ended up to where the next one starts.
There would be no copy if one of these places were within a character or before the last;
`copied?_eq_some` says that there always is one, and that it has the gaps of the text.
-/

namespace MaskedLiterals

/-- A text with its literals replaced, and the text before. -/
structure Spliced where
  newText : String
  backupText : String
  deriving DecidableEq, Repr, Inhabited

/-- Refuses the first element that has no value. -/
def Dialect.checkValues (dialect : Dialect) : List Token → Except Refusal Unit
  | [] => .ok ()
  | token :: tokens => do
    let _ ← token.value dialect
    dialect.checkValues tokens

/-! ### Where the literals stand -/

/-- Where a literal stands in a text: from the octet `start` up to but not including `stop`. -/
structure OctetSpan where
  start : Nat
  stop : Nat
  deriving DecidableEq, Repr, Inhabited

def Cut.octetSpansFrom (start : Nat) : List (List Char × List Char) → List OctetSpan
  | [] => []
  | (gap, literal) :: pieces =>
    ⟨start + Text.octets gap, start + Text.octets gap + Text.octets literal⟩
      :: octetSpansFrom (start + Text.octets gap + Text.octets literal) pieces

def Dialect.octetSpans (dialect : Dialect) (text : String) : List OctetSpan :=
  Cut.octetSpansFrom 0 (dialect.cut text).pieces

/-! ### The copy -/

/-- Goes on with a copy of a text that was made up to the octet `last`: the text up to the next
    literal is copied, the element takes the place of the literal, and behind the last literal the
    rest is copied. -/
def copyFrom? (text made : String) (last : Nat) : List (OctetSpan × Token) → Option String
  | [] => do
    let rest ← Text.slice? text last text.utf8ByteSize
    some (made ++ rest)
  | (span, token) :: places => do
    let gap ← Text.slice? text last span.start
    copyFrom? text (made ++ gap ++ token.raw) span.stop places

/-- A copy of the text with the elements in place of its literals, as long as both last. -/
def Dialect.copied? (dialect : Dialect) (text : String) (tokens : List Token) : Option String :=
  copyFrom? text "" 0 ((dialect.octetSpans text).zip tokens)

theorem copyFrom?_octetSpansFrom {text : String} {before rest : List Char}
    {pieces : List (List Char × List Char)} {tokens : List Token} (made : String)
    (htext : text.toList = before ++ Cut.join ⟨pieces, rest⟩)
    (hlength : pieces.length = tokens.length) :
    copyFrom? text made (Text.octets before)
        ((Cut.octetSpansFrom (Text.octets before) pieces).zip tokens)
      = some (made ++ String.ofList (Cut.fill ⟨pieces, rest⟩ (tokens.map (·.raw.toList)))) := by
  induction pieces generalizing before made tokens with
  | nil =>
    have hrest : text.toList = before ++ (rest ++ []) := by simpa [Cut.join] using htext
    have hsize : text.utf8ByteSize = Text.octets before + Text.octets rest := by
      rw [← Text.octets_toList, hrest, List.append_nil, Text.octets_append]
    rw [Cut.octetSpansFrom, List.zip_nil_left, copyFrom?, hsize, Text.slice?_of_toList hrest]
    simp [Cut.fill, Cut.gaps]
  | cons piece pieces ih =>
    obtain ⟨gap, literal⟩ := piece
    cases tokens with
    | nil => cases hlength
    | cons token tokens =>
      have hgap : text.toList = before ++ (gap ++ (literal ++ Cut.join ⟨pieces, rest⟩)) := by
        simpa [Cut.join] using htext
      have hbehind : Text.octets before + Text.octets gap + Text.octets literal
          = Text.octets (before ++ gap ++ literal) := by
        rw [Text.octets_append, Text.octets_append]
      have hothers := @ih (before ++ gap ++ literal) tokens (made ++ String.ofList gap ++ token.raw)
        (by simpa [Cut.join] using htext) (by simpa using hlength)
      rw [Cut.octetSpansFrom, List.zip_cons_cons, copyFrom?, Text.slice?_of_toList hgap, hbehind]
      show copyFrom? _ _ _ _ = _
      rw [hothers]
      simp [Cut.fill, Cut.gaps, String.append_assoc, String.ofList_append]

/-- With an element for each literal there is a copy, which has the elements between the gaps. -/
theorem Dialect.copied?_eq_some {dialect : Dialect} {text : String} {tokens : List Token}
    (h : dialect.countLiterals text = tokens.length) :
    dialect.copied? text tokens
      = some (String.ofList ((dialect.cut text).fill (tokens.map (·.raw.toList)))) := by
  have htext : text.toList = [] ++ (dialect.cut text).join :=
    (join_cut dialect.marker text.toList).symm
  have hcopy := copyFrom?_octetSpansFrom "" htext h
  rwa [String.empty_append] at hcopy

/-- The text with the elements in place of its literals, whose number is checked first. -/
def Dialect.splice (dialect : Dialect) (text : String) (tokens : List Token) :
    Except Refusal Spliced :=
  if matching : dialect.countLiterals text = tokens.length then do
    dialect.checkValues tokens
    .ok {
      newText := (dialect.copied? text tokens).get (by rw [copied?_eq_some matching]; rfl)
      backupText := text }
  else .error (.countMismatch (dialect.countLiterals text) tokens.length)

/-- The copy by octets is the text with the elements between its gaps. -/
theorem Dialect.splice_eq (dialect : Dialect) (text : String) (tokens : List Token) :
    dialect.splice text tokens
      = if dialect.countLiterals text = tokens.length then do
          dialect.checkValues tokens
          .ok ⟨String.ofList ((dialect.cut text).fill (tokens.map (·.raw.toList))), text⟩
        else .error (.countMismatch (dialect.countLiterals text) tokens.length) := by
  unfold splice
  split
  · next matching =>
    simp only [copied?_eq_some matching, Option.get_some]
  · rfl

end MaskedLiterals
