import MaskedLiterals.CommandLine.Argument
import MaskedLiterals.Config

/-!
# What a command line asks for

The arguments name a command, give it its operand and options, and set what concerns every command.
The settings for all commands may stand before or behind the name of the command; of a value given
in both places the inner one counts.
-/

namespace MaskedLiterals.CommandLine

/-- An index or a key as it was given. -/
structure NumeralText where
  text : String
  base : NumeralBase
  deriving DecidableEq, Repr, Inhabited

structure GlobalOptions where
  quiet : Bool
  marker : Option Char
  maxSize : Nat
  force : Bool
  deriving DecidableEq, Repr, Inhabited

namespace GlobalOptions

def defaultMaxSize : Nat := 104857600

/-- The limit that is kept; zero, for no limit, if large files are allowed. -/
def sizeLimit (options : GlobalOptions) : Nat := if options.force then 0 else options.maxSize

end GlobalOptions

inductive Command where
  | extract (file : String) (json : Bool)
  | decode (file : String) (start stop key : NumeralText) (verbose : Bool)
  | encode (text : String) (key : NumeralText) (preview : Bool)
  /-- Hide a text in a range of a file; the end of the range only serves to show what was there. -/
  | edit (file : String) (start : NumeralText) (stop : Option NumeralText) (key : NumeralText)
    (text : String) (dryRun : Bool)
  | inspect (file : String) (keys : Option (List NumeralText)) (json : Bool)
  | writeListing (file output : String)
  | config (json : Bool)
  deriving DecidableEq, Repr

inductive CommandName where
  | extract
  | decode
  | encode
  | edit
  | inspect
  | writeListing
  | config
  deriving DecidableEq, Repr

namespace CommandName

def ofWord? : String → Option CommandName
  | "extract" => some extract
  | "decode" => some decode
  | "encode" => some encode
  | "edit" => some edit
  | "inspect" => some inspect
  | "export" => some writeListing
  | "config" => some config
  | _ => none

def options : CommandName → List Opt
  | extract => [.json]
  | decode => [.start, .startBase, .stop, .stopBase, .key, .keyBase, .verboseRange]
  | encode => [.key, .keyBase, .preview]
  | edit => [.start, .startBase, .stop, .stopBase, .key, .keyBase, .text, .dryRun]
  | inspect => [.keys, .keyBase, .json]
  | writeListing => [.output]
  | config => [.json]

def operand : CommandName → Operand
  | encode => .text
  | config => .none
  | extract | decode | edit | inspect | writeListing => .path

end CommandName

inductive Invocation where
  | run (options : GlobalOptions) (command : Command)
  | help
  | version
  deriving DecidableEq, Repr

namespace Invocation

def globalOptions : List Opt := [.quiet, .marker, .maxSize, .force]

/-- The base that an option names; hexadecimal if it was not given. -/
def baseOf (given : Given) (opt : Opt) : NumeralBase :=
  ((given.value? opt).bind Opt.base?).getD .hex

def numeral? (given : Given) (opt base : Opt) : Option NumeralText :=
  (given.value? opt).map fun text => ⟨text, baseOf given base⟩

/-- The list of keys, if any was given: each value holds some, with commas between them. -/
def keys? (given : Given) : Option (List NumeralText) :=
  match given.values .keys with
  | [] => none
  | values => some (values.flatMap fun value =>
      (value.toList.splitOn ',').map fun key => ⟨String.ofList key, baseOf given .keyBase⟩)

/-- What was given for every command, `inner` behind the name of the command. -/
def globalsOf (outer inner : Given) : GlobalOptions where
  quiet := outer.has .quiet || inner.has .quiet
  marker := ((inner.value? .marker).or (outer.value? .marker)).bind Opt.character?
  maxSize := (((inner.value? .maxSize).or (outer.value? .maxSize)).bind Opt.octets?).getD
    GlobalOptions.defaultMaxSize
  force := outer.has .force || inner.has .force

def command? (given : Given) : CommandName → Option Command
  | .extract => return .extract (← given.operand) (given.has .json)
  | .decode =>
    return .decode (← given.operand) (← numeral? given .start .startBase)
      (← numeral? given .stop .stopBase) (← numeral? given .key .keyBase) (given.has .verboseRange)
  | .encode =>
    return .encode (← given.operand) (← numeral? given .key .keyBase) (given.has .preview)
  | .edit =>
    return .edit (← given.operand) (← numeral? given .start .startBase)
      (numeral? given .stop .stopBase) (← numeral? given .key .keyBase) (← given.value? .text)
      (given.has .dryRun)
  | .inspect => return .inspect (← given.operand) (keys? given) (given.has .json)
  | .writeListing => return .writeListing (← given.operand) (← given.value? .output)
  | .config => return .config (given.has .json)

/-- What is asked for behind the name of a command. -/
def ofCommand (outer : Given) (name : CommandName) (arguments : List String) :
    Except Halt Invocation := do
  let (inner, _) ← readArguments (globalOptions ++ [.help] ++ name.options) name.operand .empty none
    arguments
  match command? inner name with
  | some command => .ok (.run (globalsOf outer inner) command)
  | none => .error .misuse

/-- What is asked for by the word `help`: there is help on the whole and on each command. -/
def ofHelp : List String → Except Halt Invocation
  | [] | ["help"] => .ok .help
  | [word] => if (CommandName.ofWord? word).isSome then .ok .help else .error .misuse
  | _ => .error .misuse

def read (arguments : List String) : Except Halt Invocation := do
  let (outer, behind) ← readArguments (globalOptions ++ [.help, .version]) .command .empty none
    arguments
  match outer.operand with
  | none => .error .misuse
  | some "help" => ofHelp behind
  | some word =>
    match CommandName.ofWord? word with
    | some name => ofCommand outer name behind
    | none => .error .misuse

/-- What the arguments ask for; nothing if they break a rule. -/
def ofArguments (arguments : List String) : Option Invocation :=
  match read arguments with
  | .ok invocation => some invocation
  | .error .help => some .help
  | .error .version => some .version
  | .error .misuse => none

end Invocation

end MaskedLiterals.CommandLine
