import MaskedLiterals.NumeralBase
import MaskedLiterals.Toml.Value

/-!
# TOML numbers, truth values and points in time

A value without quotes and brackets is one unbroken run of characters, apart from the blank that may
stand between a date and a time.  Which kind of value it is follows from its form alone.  A number
may be written well and have no value all the same, as one that is out of range.
-/

namespace MaskedLiterals.Toml

/-! ### Numbers -/

/-- Whether every underscore in a number has a digit on either side.  `before` says whether a digit
    stands in front of the text. -/
def underscoresFit (isDigit : Char → Bool) (before : Bool) : List Char → Bool
  | [] => true
  | ['_'] => false
  | '_' :: c :: text => before && isDigit c && underscoresFit isDigit true text
  | c :: text => underscoresFit isDigit (isDigit c) text

def withoutUnderscores (text : List Char) : List Char := text.filter (· ≠ '_')

/-- The text behind a sign, and the sign. -/
def takeSign : List Char → Option Char × List Char
  | '+' :: text => (some '+', text)
  | '-' :: text => (some '-', text)
  | text => (none, text)

def withSign (sign : Option Char) (magnitude : Nat) : Int :=
  if sign = some '-' then -magnitude else magnitude

/-- The least whole number, which takes 128 bits with a sign. -/
def leastInteger : Int := -0x80000000000000000000000000000000

/-- The first number that is too great: one behind those that take 128 bits without a sign. -/
def firstTooGreat : Int := 0x100000000000000000000000000000000

def wholeNumber (value : Int) : Toml :=
  if leastInteger ≤ value ∧ value < firstTooGreat then .integer value else .invalidNumber

/-- A whole number behind the mark of its radix.  Digits may be missing, but then so is the
    value. -/
def radixInteger? (radix : Nat) (text : List Char) : Option Toml :=
  let isDigit := fun c => match NumeralBase.digitValue? c with
    | some d => decide (d < radix)
    | none => false
  if text.all (fun c => c = '_' || isDigit c) && underscoresFit isDigit false text then
    match withoutUnderscores text with
    | [] => some .invalidNumber
    | digits =>
      let value := digits.foldl
        (fun value c => radix * value + (NumeralBase.digitValue? c).getD 0) 0
      some (wholeNumber value)
  else none

/-- A whole number without a mark, a sign in front.  It does not begin with a zero, unless it is
    zero.  An underscore lets any hexadecimal digit follow, but one such digit takes the value
    away. -/
def decimalInteger? (sign : Option Char) (text : List Char) : Option Toml :=
  if text = [] ∨ (text.head? = some '0' ∧ text.length ≠ 1) then none
  else if underscoresFit NumeralBase.hex.isDigit false text then
    let digits := withoutUnderscores text
    some <|
      if digits.all NumeralBase.decimal.isDigit then
        wholeNumber (withSign sign (NumeralBase.decimal.valueOf digits))
      else .invalidNumber
  else none

def decimalRun? (text : List Char) : Option (List Char × List Char) :=
  let run := text.takeWhile fun c => c = '_' || NumeralBase.decimal.isDigit c
  if run.any NumeralBase.decimal.isDigit then
    some (withoutUnderscores run, text.drop run.length)
  else none

def fraction? : List Char → Option (List Char × List Char)
  | '.' :: text => decimalRun? text
  | text => some ([], text)

/-- The exponent that a text is; without any it is zero. -/
def exponent? : List Char → Option Int
  | [] => some 0
  | mark :: text => do
    let (sign, text) := takeSign text
    let (digits, behind) ← decimalRun? text
    if (mark = 'e' ∨ mark = 'E') ∧ behind = [] then
      some (withSign sign (NumeralBase.decimal.valueOf digits))
    else none

/-- From here on a number of double precision is infinite: half a step behind the greatest one. -/
def firstInfinite : Nat := Nat.shiftLeft 0x3fffffffffffff 970

/-- Whether digits times a power of ten are infinite in double precision.  Where the count of digits
    alone decides, no power is worked out. -/
def isInfinite (digits : List Char) (exponent : Int) : Bool :=
  let digits := digits.dropWhile (· = '0')
  let places := exponent + digits.length
  if digits = [] ∨ places < 309 then false
  else if 309 < places then true
  else
    let value := NumeralBase.decimal.valueOf digits
    match exponent with
    | .ofNat n => firstInfinite ≤ value * Nat.pow 10 n
    | .negSucc n => firstInfinite * Nat.pow 10 (n + 1) ≤ value

/-- A number with a fraction, an exponent or both, without a sign. -/
def float? (text : List Char) : Option Toml := do
  let (whole, behind) ← decimalRun? text
  let (fraction, behind) ← fraction? behind
  let exponent ← exponent? behind
  if text.head? = some '0' ∧ whole.length ≠ 1 then none
  else if underscoresFit NumeralBase.decimal.isDigit false text then
    some (if isInfinite (whole ++ fraction) (exponent - fraction.length) then .invalidNumber
      else .float)
  else none

def number? (text : List Char) : Option Toml :=
  match text with
  | '0' :: 'x' :: digits => radixInteger? 16 digits
  | '0' :: 'o' :: digits => radixInteger? 8 digits
  | '0' :: 'b' :: digits => radixInteger? 2 digits
  | _ =>
    let (sign, unsigned) := takeSign text
    if unsigned = "inf".toList ∨ unsigned = "nan".toList then some .float
    else
      let behind := unsigned.dropWhile NumeralBase.decimal.isDigit
      if behind.any fun c => c = '.' || c = 'e' || c = 'E' then float? unsigned
      else if behind = [] ∨ behind.head? = some '_' then decimalInteger? sign unsigned
      else none

/-! ### Points in time -/

/-- A number of exactly as many decimal digits as asked for, with the text behind it. -/
def fixedNumber? (width : Nat) (text : List Char) : Option (Nat × List Char) :=
  let digits := text.take width
  if digits.length = width ∧ digits.all NumeralBase.decimal.isDigit then
    some (NumeralBase.decimal.valueOf digits, text.drop width)
  else none

def after? (expected : Char) : List Char → Option (List Char)
  | c :: text => if c = expected then some text else none
  | [] => none

def daysIn (year month : Nat) : Nat :=
  if month = 2 then
    if year % 4 = 0 ∧ (year % 100 ≠ 0 ∨ year % 400 = 0) then 29 else 28
  else if month = 4 ∨ month = 6 ∨ month = 9 ∨ month = 11 then 30
  else 31

def afterDate? (text : List Char) : Option (List Char) := do
  let (year, text) ← fixedNumber? 4 text
  let (month, text) ← fixedNumber? 2 (← after? '-' text)
  let (day, text) ← fixedNumber? 2 (← after? '-' text)
  if 1 ≤ month ∧ month ≤ 12 ∧ 1 ≤ day ∧ day ≤ daysIn year month then some text else none

def afterHourMinute? (text : List Char) : Option (List Char) := do
  let (hour, text) ← fixedNumber? 2 text
  let (minute, text) ← fixedNumber? 2 (← after? ':' text)
  if hour ≤ 23 ∧ minute ≤ 59 then some text else none

/-- The text behind a time of day; seconds and their fraction may be left out. -/
def afterTime? (text : List Char) : Option (List Char) := do
  match ← afterHourMinute? text with
  | ':' :: text =>
    let (second, text) ← fixedNumber? 2 text
    if 60 < second then none
    else match text with
      | '.' :: text =>
        let fraction := text.takeWhile NumeralBase.decimal.isDigit
        if fraction = [] then none else some (text.drop fraction.length)
      | _ => some text
  | text => some text

/-- Whether a text is the distance of a local time from universal time. -/
def isOffset : List Char → Bool
  | ['Z'] | ['z'] => true
  | '+' :: text | '-' :: text => afterHourMinute? text = some []
  | _ => false

def isDateTime (text : List Char) : Bool :=
  match afterDate? text with
  | some [] => true
  | some (c :: text) =>
    (c = 'T' || c = 't' || c = ' ') &&
      match afterTime? text with
      | some [] => true
      | some offset => isOffset offset
      | none => false
  | none => afterTime? text = some []

/-! ### A run of characters as a value -/

/-- The value of a run of characters. -/
def scalar? (text : List Char) : Option Toml :=
  if text = "true".toList then some (.boolean true)
  else if text = "false".toList then some (.boolean false)
  else if isDateTime text then some .dateTime
  else number? text

def endsScalar (c : Char) : Bool :=
  c = ',' || c = '[' || c = ']' || c = '\x7b' || c = '\x7d' || c = '#' || c = '='
    || c = ' ' || c = '\t' || c = '\n' || c = '\r'

/-- The run at the start of a text with the text behind it.  A blank that has a date in front and a
    digit behind is a part of the run. -/
def takeScalar (text : List Char) : List Char × List Char :=
  let run := text.takeWhile (!endsScalar ·)
  match afterDate? run, text.drop run.length with
  | some [], ' ' :: d :: behind =>
    if NumeralBase.decimal.isDigit d then
      let time := (d :: behind).takeWhile (!endsScalar ·)
      (run ++ ' ' :: time, (d :: behind).drop time.length)
    else (run, ' ' :: d :: behind)
  | _, behind => (run, behind)

end MaskedLiterals.Toml
