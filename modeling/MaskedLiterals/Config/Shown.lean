import MaskedLiterals.Config
import MaskedLiterals.Json
import MaskedLiterals.Toml.Written

/-!
# Settings as they are shown

The settings are shown as a TOML document, which could be used as a file of settings, or as a JSON
object.  Both have the sections and their fields in the same fixed order.
-/

namespace MaskedLiterals.Config

def toToml (config : Config) : String :=
  "[literal]\n"
    ++ "marker = " ++ Toml.writtenString config.literal.marker.toString ++ "\n"
    ++ "pad_width = " ++ toString config.literal.padWidth ++ "\n"
    ++ "\n[backup]\n"
    ++ "suffix = " ++ Toml.writtenString config.backup.suffix ++ "\n"
    ++ "\n[inspect]\n"
    ++ "candidate_keys = "
    ++ Toml.writtenArray (config.inspect.candidateKeys.map fun key => toString key.toNat) ++ "\n"

def toJson (config : Config) : Json :=
  .object [
    ("literal", .object [
      ("marker", .text config.literal.marker.toString),
      ("pad_width", .number config.literal.padWidth)]),
    ("backup", .object [("suffix", .text config.backup.suffix)]),
    ("inspect", .object [
      ("candidate_keys", .array (config.inspect.candidateKeys.map fun key => .number key.toNat))])]

end MaskedLiterals.Config
