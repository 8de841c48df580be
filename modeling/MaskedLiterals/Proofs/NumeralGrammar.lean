import MaskedLiterals.Numeral
import MaskedLiterals.Proofs.WholeLiteral

/-!
# The grammar of numerals

A numeral is told here by what it is made of: blanks that do not count around a body, and in the
body one of the leads that its base allows and then digits, at least one.  Nothing is said about how
it is read.  A numeral is accepted for a width exactly if it is written like this and its number is
below two to the power of the width (`parse_isGrammatical`).  The bound is on the number, so zeros
in front make no numeral too large, and a wider field accepts whatever a narrower one does.
-/

namespace MaskedLiterals

/-! ### Texts without the blanks around them -/

namespace Text

/-- What is left of a text without the blanks at its ends. -/
structure IsTrimmed (text body : List Char) : Prop where
  between : ∃ front back, text = front ++ (body ++ back)
    ∧ (∀ c ∈ front, isBlank c = true) ∧ ∀ c ∈ back, isBlank c = true
  head : ∀ c, body.head? = some c → isBlank c = false
  last : ∀ c, body.getLast? = some c → isBlank c = false

theorem dropWhile_isBlank_append {front body : List Char} (h : ∀ c ∈ front, isBlank c = true)
    (hhead : ∀ c, body.head? = some c → isBlank c = false) :
    (front ++ body).dropWhile isBlank = body := by
  rw [List.dropWhile_append_of_pos h]
  cases body with
  | nil => rfl
  | cons c body => exact List.dropWhile_cons_of_neg (by simp [hhead c rfl])

theorem trimEnd_append {body back : List Char} (h : ∀ c ∈ back, isBlank c = true)
    (hlast : ∀ c, body.getLast? = some c → isBlank c = false) : trimEnd (body ++ back) = body := by
  have hback : ∀ c ∈ back.reverse, isBlank c = true := by
    intro c hc
    exact h c (List.mem_reverse.1 hc)
  have hhead : ∀ c, body.reverse.head? = some c → isBlank c = false := by
    intro c hc
    exact hlast c (by simpa using hc)
  rw [trimEnd, List.reverse_append, dropWhile_isBlank_append hback hhead, List.reverse_reverse]

theorem isBlank_of_head?_dropWhile {text : List Char} {c : Char}
    (h : (text.dropWhile isBlank).head? = some c) : isBlank c = false := by
  have hstop := List.head?_dropWhile_not isBlank text
  rw [h] at hstop
  simpa using hstop

theorem isTrimmed_trim (text : List Char) : IsTrimmed text (trim text) := by
  have hmiddle : trim text ++ ((text.dropWhile isBlank).reverse.takeWhile isBlank).reverse
      = text.dropWhile isBlank := by
    rw [trim, trimEnd, ← List.reverse_append, List.takeWhile_append_dropWhile, List.reverse_reverse]
  refine ⟨⟨text.takeWhile isBlank, ((text.dropWhile isBlank).reverse.takeWhile isBlank).reverse,
    ?_, ?_, ?_⟩, ?_, ?_⟩
  · rw [hmiddle, List.takeWhile_append_dropWhile]
  · intro c hc
    exact List.mem_takeWhile_imp hc
  · intro c hc
    exact List.mem_takeWhile_imp (List.mem_reverse.1 hc)
  · intro c hc
    have hfirst : (text.dropWhile isBlank).head? = some c := by
      rw [← hmiddle, List.head?_append, hc]
      rfl
    exact isBlank_of_head?_dropWhile hfirst
  · intro c hc
    rw [trim, trimEnd, List.getLast?_reverse] at hc
    exact isBlank_of_head?_dropWhile hc

/-- **Trimming leaves what it should and nothing else.** -/
theorem trim_eq_iff {text body : List Char} : trim text = body ↔ IsTrimmed text body := by
  constructor
  · rintro rfl
    exact isTrimmed_trim text
  · rintro ⟨⟨front, back, rfl, hfront, hback⟩, hhead, hlast⟩
    by_cases hempty : body = []
    · -- nothing but blanks
      subst hempty
      have hall : ∀ c ∈ front ++ back, isBlank c = true := by
        intro c hc
        exact (List.mem_append.1 hc).elim (hfront c) (hback c)
      have hnone := @dropWhile_isBlank_append _ [] hall (by simp)
      rw [List.append_nil] at hnone
      rw [trim, List.nil_append, hnone]
      rfl
    · have hfirst : ∀ c, (body ++ back).head? = some c → isBlank c = false := by
        intro c hc
        rw [List.head?_append_of_ne_nil body hempty] at hc
        exact hhead c hc
      rw [trim, dropWhile_isBlank_append hfront hfirst, trimEnd_append hback hlast]

end Text

/-! ### What numerals are made of -/

namespace NumeralBase

def digits : NumeralBase → List Char
  | decimal => hexDigits.take 10
  | hex => hexDigits ++ ['A', 'B', 'C', 'D', 'E', 'F']

def leads : NumeralBase → List (List Char)
  | decimal => [[]]
  | hex => [[], ['0', 'x'], ['0', 'X']]

/-- The number that digits stand for by their places. -/
def numberOf (base : NumeralBase) (run : List Char) : Nat :=
  Nat.ofDigits base.radix (run.reverse.map hexDigitNumber)

theorem isDigit_iff_mem_digits {base : NumeralBase} {c : Char} :
    base.isDigit c = true ↔ c ∈ base.digits := by
  constructor
  · intro h
    have hall : ∀ n : Fin 128, base.isDigit (Char.ofNat n) = true → Char.ofNat n ∈ base.digits := by
      cases base <;> decide +kernel
    have hc := hall ⟨c.toNat, toNat_lt_of_isDigit h⟩
    rw [Char.ofNat_toNat] at hc
    exact hc h
  · have hall : base.digits.all base.isDigit = true := by
      cases base <;> decide
    exact List.all_eq_true.1 hall c

theorem valueOf_eq_numberOf {base : NumeralBase} {run : List Char} (h : ∀ c ∈ run, c ∈ base.digits) :
    base.valueOf run = base.numberOf run :=
  valueOf_eq_ofDigits fun c hc => isDigit_iff_mem_digits.2 (h c hc)

end NumeralBase

namespace Numeral

variable {base : NumeralBase}

/-- The text is a lead of the base and digits behind it, and the digits stand for the number. -/
def Spells (base : NumeralBase) (body : List Char) (n : Nat) : Prop :=
  ∃ lead ∈ base.leads, ∃ run, body = lead ++ run ∧ run ≠ []
    ∧ (∀ c ∈ run, c ∈ base.digits) ∧ base.numberOf run = n

/-! ### Taking the lead off -/

theorem exists_lead_append_withoutPrefix (base : NumeralBase) (body : List Char) :
    ∃ lead ∈ base.leads, body = lead ++ withoutPrefix base body := by
  unfold withoutPrefix
  split
  · exact ⟨['0', 'x'], by decide, rfl⟩
  · exact ⟨['0', 'X'], by decide, rfl⟩
  · refine ⟨[], ?_, rfl⟩
    cases base <;> decide

/-- Digits never look like a lead, so exactly the lead is taken off. -/
theorem withoutPrefix_lead_append {lead run : List Char} (hlead : lead ∈ base.leads)
    (hrun : ∀ c ∈ run, c ∈ base.digits) : withoutPrefix base (lead ++ run) = run := by
  have hfree : withoutPrefix base run = run := by
    unfold withoutPrefix
    split
    · exact absurd (hrun 'x' (by simp)) (by decide)
    · exact absurd (hrun 'X' (by simp)) (by decide)
    · rfl
  cases base with
  | decimal =>
    obtain rfl := List.mem_singleton.1 hlead
    exact hfree
  | hex =>
    simp only [NumeralBase.leads, List.mem_cons, List.not_mem_nil, or_false] at hlead
    rcases hlead with rfl | rfl | rfl
    · exact hfree
    · rfl
    · rfl

/-! ### Which numerals are read -/

/-- **A text is read as a number exactly if it spells the number between blanks.** -/
theorem read?_eq_some_iff {input : List Char} {n : Nat} :
    read? base input = some n ↔ ∃ body, Text.IsTrimmed input body ∧ Spells base body n := by
  unfold read?
  dsimp only
  constructor
  · intro h
    split at h
    · next hrun =>
      obtain ⟨hne, hdigits⟩ := hrun
      obtain ⟨lead, hlead, hbody⟩ := exists_lead_append_withoutPrefix base (Text.trim input)
      have hmem : ∀ c ∈ withoutPrefix base (Text.trim input), c ∈ base.digits := by
        intro c hc
        exact NumeralBase.isDigit_iff_mem_digits.1 (List.all_eq_true.1 hdigits c hc)
      refine ⟨Text.trim input, Text.isTrimmed_trim input, lead, hlead, _, hbody, hne, hmem, ?_⟩
      rw [← NumeralBase.valueOf_eq_numberOf hmem]
      exact Option.some.inj h
    · cases h
  · rintro ⟨body, htrimmed, lead, hlead, run, rfl, hne, hmem, rfl⟩
    have hall : run.all base.isDigit = true := by
      apply List.all_eq_true.2
      intro c hc
      exact NumeralBase.isDigit_iff_mem_digits.2 (hmem c hc)
    rw [Text.trim_eq_iff.2 htrimmed, withoutPrefix_lead_append hlead hmem, if_pos ⟨hne, hall⟩,
      NumeralBase.valueOf_eq_numberOf hmem]

/-- A refusal shows the text as it came, and names the base. -/
theorem parse_eq_error_iff {size : Nat} {input : String} {refusal : Refusal} :
    parse size base input = .error refusal
      ↔ refusal = .invalidNumeral input base
        ∧ ∀ n, read? base input.toList = some n → size ≤ n := by
  unfold parse
  split
  · next found hread =>
    split
    · next hfits => simp [hread, hfits]
    · next hlarge => simp [hread, Nat.le_of_not_lt hlarge, eq_comm]
  · next hread => simp [hread, eq_comm]

/-- **A numeral is accepted exactly if it is written as it should and its number fits.**  In all
    other cases the refusal has the text with its blanks, and the base.  Indices take 64 bits and
    keys 32, and what is accepted for some bits is accepted for more as the same number. -/
theorem parse_isGrammatical (base : NumeralBase) (input : String) :
    (∀ bits n : Nat, parse (2 ^ bits) base input = .ok n
      ↔ ∃ body, Text.IsTrimmed input.toList body ∧ Spells base body n ∧ n < 2 ^ bits)
    ∧ (∀ (bits : Nat) (refusal : Refusal), parse (2 ^ bits) base input = .error refusal
      ↔ refusal = .invalidNumeral input base
        ∧ ¬ ∃ body n, Text.IsTrimmed input.toList body ∧ Spells base body n ∧ n < 2 ^ bits)
    ∧ (∀ bits more n : Nat, bits ≤ more → parse (2 ^ bits) base input = .ok n →
      parse (2 ^ more) base input = .ok n)
    ∧ parseIndex base input = parse (2 ^ 64) base input
    ∧ ∀ key : Key, parseKey base input = .ok key ↔ parse (2 ^ 32) base input = .ok key.toNat := by
  have hok : ∀ bits n : Nat, parse (2 ^ bits) base input = .ok n
      ↔ ∃ body, Text.IsTrimmed input.toList body ∧ Spells base body n ∧ n < 2 ^ bits := by
    intro bits n
    rw [parse_eq_ok_iff, read?_eq_some_iff]
    constructor
    · rintro ⟨⟨body, htrimmed, hspells⟩, hfits⟩
      exact ⟨body, htrimmed, hspells, hfits⟩
    · rintro ⟨body, htrimmed, hspells, hfits⟩
      exact ⟨⟨body, htrimmed, hspells⟩, hfits⟩
  refine ⟨hok, ?_, ?_, rfl, ?_⟩
  · intro bits refusal
    rw [parse_eq_error_iff, and_congr_right_iff]
    rintro -
    constructor
    · rintro hlarge ⟨body, n, htrimmed, hspells, hfits⟩
      exact absurd hfits (Nat.not_lt_of_le (hlarge n (read?_eq_some_iff.2 ⟨body, htrimmed, hspells⟩)))
    · intro hnone n hread
      obtain ⟨body, htrimmed, hspells⟩ := read?_eq_some_iff.1 hread
      by_contra hfits
      exact hnone ⟨body, n, htrimmed, hspells, Nat.lt_of_not_le hfits⟩
  · intro bits more n hle haccepted
    obtain ⟨hread, hfits⟩ := parse_eq_ok_iff.1 haccepted
    exact parse_eq_ok_iff.2 ⟨hread, Nat.lt_of_lt_of_le hfits (Nat.pow_le_pow_right Nat.two_pos hle)⟩
  · intro key
    rw [parseKey, map_eq_ok_iff]
    constructor
    · rintro ⟨n, haccepted, rfl⟩
      rwa [UInt32.toNat_ofNat_of_lt' (parse_eq_ok_iff.1 haccepted).2]
    · intro haccepted
      exact ⟨key.toNat, haccepted, UInt32.ofNat_toNat⟩

/-- Blanks of several kinds, a capital lead, digits in both cases, and more zeros than a field of
    eight bits has digits. -/
theorem parse_isGrammatical_leading_zeros :
    parse (2 ^ 8) .hex "\u2003\t0X000fF\n" = .ok 255
      ∧ 8 ≤ 64 ∧ parse (2 ^ 64) .hex "\u2003\t0X000fF\n" = .ok 255 := by
  have htrimmed : Text.IsTrimmed "\u2003\t0X000fF\n".toList "0X000fF".toList :=
    Text.trim_eq_iff.1 (by cbv)
  have hspells : Spells .hex "0X000fF".toList 255 :=
    ⟨['0', 'X'], by decide, ['0', '0', '0', 'f', 'F'], by decide, by decide,
      by simp [NumeralBase.digits, hexDigits], by decide⟩
  obtain ⟨haccepted, -, hwider, -⟩ := parse_isGrammatical .hex "\u2003\t0X000fF\n"
  have hnarrow := (haccepted 8 255).2 ⟨_, htrimmed, hspells, by decide⟩
  exact ⟨hnarrow, by decide, hwider 8 64 255 (by decide) hnarrow⟩

/-- One lead is taken off, and a sign belongs to no numeral. -/
example : parse (2 ^ 8) .hex "0x0X5" = .error (.invalidNumeral "0x0X5" .hex)
    ∧ parse (2 ^ 8) .decimal "+5" = .error (.invalidNumeral "+5" .decimal) := by
  constructor <;> cbv

end Numeral

end MaskedLiterals
