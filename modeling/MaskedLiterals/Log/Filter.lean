import MaskedLiterals.Log
import MaskedLiterals.Pattern.Meaning

/-!
# Filters for the log

Which entries of the log are shown is for a filter to say: a list of directives, each of which
allows the topics whose names it begins the entries up to a level.  Of several such directives the
one with the longest name decides.  A filter may also ask for a pattern that occurs in the entry.
-/

namespace MaskedLiterals

/-- Allows a topic the entries up to a rank. -/
structure LogDirective where
  topic : Option String
  rank : Nat
  deriving DecidableEq, Repr, Inhabited

/-- The directives, the one with the longest topic last, and the pattern that must occur in every
    entry, if there is one. -/
structure LogFilter where
  directives : List LogDirective
  required : Option Pattern

namespace LogFilter

/-- How long the topic of a directive is; none is shorter than any. -/
def topicLength (directive : LogDirective) : Nat :=
  match directive.topic with
  | some topic => topic.utf8ByteSize
  | none => 0

/-- Puts a directive among others.  It replaces the one for its own topic, and otherwise comes
    behind those whose topics are not longer. -/
def insert (directive : LogDirective) (directives : List LogDirective) : List LogDirective :=
  if directives.any (·.topic = directive.topic) then
    directives.map fun other => if other.topic = directive.topic then directive else other
  else directives ++ [directive]

/-- The filter of directives in the order given; without any, only errors are shown. -/
def ofDirectives (directives : List LogDirective) (required : Option Pattern) :
    LogFilter where
  directives :=
    match directives.foldl (fun known directive => insert directive known) [] with
    | [] => [⟨none, LogLevel.error.rank⟩]
    | known => known.mergeSort fun left right => topicLength left ≤ topicLength right
  required

def upTo (level : LogLevel) : LogFilter := ⟨[⟨none, level.rank⟩], none⟩

/-- Whether a directive concerns a topic: whether its own is the start of that one's name. -/
def concerns (topic : LogTopic) (directive : LogDirective) : Bool :=
  match directive.topic with
  | some start => start.toList.isPrefixOf topic.name.toList
  | none => true

def admits (filter : LogFilter) (entry : LogEntry) : Bool :=
  (match filter.directives.reverse.find? (concerns entry.topic) with
    | some directive => entry.level.rank ≤ directive.rank
    | none => false)
  && match filter.required with
    | some pattern => pattern.occursIn entry.text
    | none => true

/-! ### Filters as the user writes them -/

/-- The rank of a level by its name, in any case of letters. -/
def rank? (name : List Char) : Option Nat :=
  match String.ofList (name.map Char.toLower) with
  | "off" => some 0
  | "error" => some 1
  | "warn" => some 2
  | "info" => some 3
  | "debug" => some 4
  | "trace" => some 5
  | _ => none

/-- One directive: a level, a topic, or both with `=` between them.  Where there is no level all
    entries are meant.  A directive that cannot be read is given back. -/
def directive? (item : List Char) : Except (List Char) LogDirective :=
  match item.splitOn '=' with
  | [one] =>
    match rank? one with
    | some rank => .ok ⟨none, rank⟩
    | none => .ok ⟨some (String.ofList one), LogLevel.trace.rank⟩
  | [topic, level] =>
    let level := Text.trim level
    if level = [] then .ok ⟨some (String.ofList topic), LogLevel.trace.rank⟩
    else match rank? level with
      | some rank => .ok ⟨some (String.ofList topic), rank⟩
      | none => .error level
  | _ => .error item

/-- The complaint about a text that cannot be read, with what there is to say about it. -/
def complaint (text : List Char) (remark : String) : String :=
  "warning: invalid logging spec '" ++ String.ofList text ++ "'" ++ remark ++ ", ignoring it\n"

/-- The pattern behind the slash, if there is one, and the complaint about it. -/
def requirement (text : Option (List Char)) : Option Pattern × List String :=
  match text.map fun text => Pattern.ofText? (String.ofList text) with
  | none => (none, [])
  | some (.ok pattern) => (some pattern, [])
  | some (.error report) =>
    (none, ["warning: invalid regex filter - " ++ report ++ ", ignoring it\n"])

/-- The filter that a text stands for, and the complaints about it: directives with commas between
    them, and behind a slash a pattern that must occur in every entry. -/
def ofText (text : String) : LogFilter × List String :=
  match text.toList.splitOn '/' with
  | [] => (ofDirectives [] none, [])
  | items :: required =>
    if 2 ≤ required.length then
      (ofDirectives [] none, [complaint text.toList " (too many '/'s)"])
    else
      let read := (((items.splitOn ',').map Text.trim).filter (· ≠ [])).map directive?
      let (pattern, complaints) := requirement required.head?
      (ofDirectives (read.filterMap Except.toOption) pattern,
        (read.filterMap fun item =>
          match item with
          | .ok _ => none
          | .error part => some (complaint part "")) ++ complaints)

end LogFilter

end MaskedLiterals
