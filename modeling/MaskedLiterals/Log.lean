import MaskedLiterals.Text.ControlFunction

/-!
# The log

What happens behind a command is told in log entries, each at a level and with a topic.  An entry is
shown on a line of its own, without any control functions that a name in it might hold.
-/

namespace MaskedLiterals

inductive LogLevel where
  | error
  | warn
  | info
  | debug
  | trace
  deriving DecidableEq, Repr, Inhabited

namespace LogLevel

/-- The less a level matters, the higher its rank; rank zero stands for no level at all. -/
def rank : LogLevel → Nat
  | error => 1
  | warn => 2
  | info => 3
  | debug => 4
  | trace => 5

/-- The level in front of an entry, all of one width. -/
def label : LogLevel → String
  | error => "ERROR"
  | warn => "WARN "
  | info => "INFO "
  | debug => "DEBUG"
  | trace => "TRACE"

end LogLevel

inductive LogTopic where
  | settings
  /-- The literals that a text was found to hold. -/
  | scan
  | session
  | range
  /-- The literals put back into a text. -/
  | splice
  | edit
  deriving DecidableEq, Repr, Inhabited

/-- The name of a topic, by which filters know it. -/
def LogTopic.name : LogTopic → String
  | settings => "smali_xor::core::config"
  | scan => "smali_xor::core::parser"
  | session => "smali_xor::session"
  | range => "smali_xor::encoders::range"
  | splice => "smali_xor::rewriter"
  | edit => "smali_xor::cli::handlers::edit"

structure LogEntry where
  level : LogLevel
  topic : LogTopic
  text : String
  deriving DecidableEq, Repr, Inhabited

namespace LogEntry

/-- A line break within an entry is followed by four blanks. -/
def shownChar (c : Char) : List Char := if c = '\n' then "\n    ".toList else [c]

def shown (entry : LogEntry) : String :=
  Text.visible <|
    "[" ++ entry.level.label ++ "] " ++ String.ofList (entry.text.toList.flatMap shownChar) ++ "\n"

end LogEntry

end MaskedLiterals
