import MaskedLiterals.NumeralBase

/-!
# Options and operands

Arguments are read from left to right.  An argument of two dashes and a name, or of one dash and
letters, gives options; any other is an operand or the value that an option waits for.  A value may
also be attached to its option, with or without `=` behind a letter and with `=` behind a name.  A
waiting option takes no argument that begins with a dash, unless it is the dash alone, and the
argument `--` makes operands of all that follow.

Each option may be given once, apart from the list of keys, and each value is checked when it is
read.  The first argument that breaks a rule ends the reading, and so does a call for help.
-/

namespace MaskedLiterals.CommandLine

/-- The options there are. -/
inductive Opt where
  | quiet
  | marker
  | maxSize
  | force
  | json
  | start
  | startBase
  | stop
  | stopBase
  | key
  | keyBase
  | verboseRange
  | preview
  | text
  | dryRun
  | keys
  | output
  | help
  | version
  deriving DecidableEq, Repr

namespace Opt

def name : Opt → String
  | quiet => "quiet"
  | marker => "marker"
  | maxSize => "max-size"
  | force => "force"
  | json => "json"
  | start => "start"
  | startBase => "start-base"
  | stop => "end"
  | stopBase => "end-base"
  | key => "key"
  | keyBase => "key-base"
  | verboseRange => "verbose-range"
  | preview => "preview"
  | text => "text"
  | dryRun => "dry-run"
  | keys => "keys"
  | output => "output"
  | help => "help"
  | version => "version"

def letter? : Opt → Option Char
  | quiet => some 'q'
  | marker => some 'm'
  | start => some 's'
  | stop => some 'e'
  | key => some 'k'
  | text => some 't'
  | output => some 'o'
  | help => some 'h'
  | version => some 'V'
  | _ => none

def takesValue : Opt → Bool
  | marker | maxSize | start | startBase | stop | stopBase | key | keyBase | text | keys | output =>
    true
  | quiet | force | json | verboseRange | preview | dryRun | help | version => false

def character? (value : String) : Option Char :=
  match value.toList with
  | [c] => some c
  | _ => none

/-- A number of octets: decimal digits, maybe behind a plus, for a number of 64 bits. -/
def octets? (value : String) : Option Nat :=
  let digits := match value.toList with
    | '+' :: digits => digits
    | digits => digits
  if digits ≠ [] ∧ digits.all NumeralBase.decimal.isDigit
      ∧ NumeralBase.decimal.valueOf digits < UInt64.size then
    some (NumeralBase.decimal.valueOf digits)
  else none

def base? (value : String) : Option NumeralBase :=
  if value = "hex" then some .hex
  else if value = "dec" then some .decimal
  else none

/-- Whether an option takes a value.  Numerals are not looked into here. -/
def admits (opt : Opt) (value : String) : Bool :=
  match opt with
  | marker => (character? value).isSome
  | maxSize => (octets? value).isSome
  | startBase | stopBase | keyBase => (base? value).isSome
  | output => value ≠ ""
  | _ => true

end Opt

/-- Why the reading of arguments ended before its end. -/
inductive Halt where
  | misuse
  | help
  | version
  deriving DecidableEq, Repr

/-- Which operand is expected. -/
inductive Operand where
  /-- The name of a command, behind which other rules hold. -/
  | command
  /-- One path, which is not empty. -/
  | path
  | text
  | none
  deriving DecidableEq, Repr

/-- What has been given so far: the options with their values, and the operand. -/
structure Given where
  options : List (Opt × String)
  operand : Option String
  deriving DecidableEq, Repr, Inhabited

namespace Given

def empty : Given := ⟨[], none⟩

def has (given : Given) (opt : Opt) : Bool := given.options.any (·.1 = opt)

def value? (given : Given) (opt : Opt) : Option String :=
  (given.options.find? (·.1 = opt)).map Prod.snd

def values (given : Given) (opt : Opt) : List String :=
  (given.options.filter (·.1 = opt)).map Prod.snd

/-- Adds an option.  One without a value has the empty text in its place. -/
def add (given : Given) (opt : Opt) (value : String) : Except Halt Given :=
  if opt = .help then .error .help
  else if opt = .version then .error .version
  else if !opt.admits value || (given.has opt && opt ≠ .keys) then .error .misuse
  else .ok { given with options := given.options ++ [(opt, value)] }

def addOperand (given : Given) (expected : Operand) (value : String) : Except Halt Given :=
  if given.operand.isSome || expected = .none || (expected = .path && value = "") then
    .error .misuse
  else .ok { given with operand := some value }

end Given

inductive Argument where
  /-- The argument `--`. -/
  | terminator
  /-- Two dashes, a name, and maybe `=` with a value. -/
  | named (name : String) (value : Option String)
  /-- A dash and what is behind it. -/
  | letters (characters : List Char)
  /-- Anything else, a dash alone included. -/
  | plain (text : String)
  deriving DecidableEq, Repr

def Argument.ofText (text : String) : Argument :=
  match text.toList with
  | ['-', '-'] => .terminator
  | '-' :: '-' :: characters =>
    let name := characters.takeWhile (· ≠ '=')
    .named (String.ofList name)
      (match characters.drop name.length with
        | _ :: value => some (String.ofList value)
        | [] => none)
  | '-' :: c :: characters => .letters (c :: characters)
  | _ => .plain text

/-- Adds an option given by its name; an option that still has to get its value waits. -/
def readNamed (allowed : List Opt) (given : Given) (name : String) (value : Option String) :
    Except Halt (Given × Option Opt) :=
  match allowed.find? (·.name = name) with
  | none => .error .misuse
  | some opt =>
    match opt.takesValue, value with
    | true, some value => (given.add opt value).map (·, none)
    | true, none => .ok (given, some opt)
    | false, some _ => .error .misuse
    | false, none => (given.add opt "").map (·, none)

/-- Adds options given by their letters.  What stands behind the letter of an option with a value is
    its value. -/
def readLetters (allowed : List Opt) (given : Given) : List Char → Except Halt (Given × Option Opt)
  | [] => .ok (given, none)
  | c :: characters =>
    match allowed.find? (·.letter? = some c) with
    | none => .error .misuse
    | some opt =>
      if opt.takesValue then
        match characters with
        | [] => .ok (given, some opt)
        | '=' :: value => (given.add opt (String.ofList value)).map (·, none)
        | value => (given.add opt (String.ofList value)).map (·, none)
      else do
        let given ← given.add opt ""
        readLetters allowed given characters

/-- Reads arguments, of which a waiting option takes the next for its value.  Behind the name of a
    command the reading ends, and the arguments left over are given back. -/
def readArguments (allowed : List Opt) (expected : Operand) (given : Given) (waiting : Option Opt) :
    List String → Except Halt (Given × List String)
  | [] =>
    match waiting with
    | some _ => .error .misuse
    | none => .ok (given, [])
  | argument :: arguments =>
    match Argument.ofText argument, waiting with
    | .plain text, some opt => do
      let given ← given.add opt text
      readArguments allowed expected given none arguments
    | .plain text, none => do
      let given ← given.addOperand expected text
      if expected = .command then .ok (given, arguments)
      else readArguments allowed expected given none arguments
    | _, some _ => .error .misuse
    | .terminator, none =>
      if expected = .command then .error .misuse
      else (arguments.foldlM (fun (given : Given) => given.addOperand expected) given).map (·, [])
    | .named name value, none => do
      let (given, waiting) ← readNamed allowed given name value
      readArguments allowed expected given waiting arguments
    | .letters characters, none => do
      let (given, waiting) ← readLetters allowed given characters
      readArguments allowed expected given waiting arguments

end MaskedLiterals.CommandLine
