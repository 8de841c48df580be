import MaskedLiterals.Disk
import MaskedLiterals.Refusal
import MaskedLiterals.Text.Quoted

/-!
# Why work on a file fails

Work on a file fails on the disk, or because what the file holds is refused, or because the file is
larger than allowed, or because there is no file to work on.
-/

namespace MaskedLiterals

inductive FileFailure where
  | disk (path : String) (cause : DiskError)
  | refused (refusal : Refusal)
  | tooLarge (path : String) (size limit : Nat)
  /-- The text in hand came from no file. -/
  | noBackingFile
  deriving DecidableEq, Repr, Inhabited

namespace FileFailure

def message : FileFailure → String
  | disk path cause => "I/O error on " ++ Text.quoted path ++ ": " ++ cause.message
  | refused refusal => refusal.message
  | tooLarge path size limit =>
    Text.quoted path ++ " is " ++ toString size ++ " bytes, over the " ++ toString limit
      ++ " byte limit"
  | noBackingFile => "session has no backing file"

/-- What the user may try instead; only refused literals come with advice. -/
def hint : FileFailure → Option String
  | refused refusal => refusal.hint
  | disk _ _ | tooLarge _ _ _ | noBackingFile => none

end FileFailure

end MaskedLiterals
