import MaskedLiterals.Command.Action

/-!
# Commands on strings

`decode` shows the string in a range of a file, `encode` shows the literals for a string.  Neither
changes the disk.
-/

namespace MaskedLiterals.Command

open CommandLine (GlobalOptions NumeralText)

/-- A masked word as it is shown: its sign and at least four hexadecimal digits. -/
def shownWord (word : Word) : String :=
  (if word.toInt < 0 then "-0x" else "0x") ++ NumeralBase.hex.padded 4 word.magnitude

/-- The masked words at the places from `start` up to but not including `stop`; places that the array
    does not have are passed over, and the first element without a value is reported. -/
def maskedWords (session : Session) (start stop : Nat) (key : Key) : Except Refusal (List String) :=
  let values := (List.range' start (stop - start)).filterMap (session.store.value? session.dialect)
  values.mapM fun value => value.map fun word => shownWord (word.mask key)

def decode (config : Config) (options : GlobalOptions) (file : String)
    (start stop : NumeralText) (keyText : NumeralText) (verbose : Bool) : Action Unit := do
  let start ← index start
  let stop ← index stop
  let key ← key keyText
  let session ← openFile config options file
  let decoded ← Action.accept (← decodeRange session start stop key)
  if verbose then
    let stop := min stop session.store.length
    let words ← Action.accept (maskedWords session start stop key)
    Action.printLine <| "Range " ++ toString start ++ "-" ++ toString stop ++ " with XOR key "
      ++ shownKey key ++ ":"
    Action.printLine ("Hex values: " ++ String.intercalate " " words)
    Action.printLine ("Decoded: " ++ decoded)
  else
    Action.printLine decoded
  Action.notice (toString decoded.length ++ " characters")

def encode (config : Config) (options : GlobalOptions) (text : String) (keyText : NumeralText)
    (preview : Bool) : Action Unit := do
  let key ← key keyText
  let dialect ← dialect config options
  if preview then
    Action.printLine (ArrayRange.preview dialect text key)
  else
    Action.print (String.join ((ArrayRange.encode dialect text key).map fun token =>
      token.raw ++ "\n"))

end MaskedLiterals.Command
