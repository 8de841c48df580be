import MaskedLiterals.Pattern.Expression
import MaskedLiterals.Text.Script
import MaskedLiterals.Text.Segmentation

/-!
# Properties by name

Patterns name sets of characters by what Unicode says of them.  A name alone is that of a property
which characters have or have not, of a general category, or of a script; a name with a value is
that of a property which has values.  How a name is written hardly matters: `plainName` is all that
counts of it, and the tables give plain names.

Unicode has more properties than can be asked for.  Their names are known all the same, so that
only their values are not.
-/

namespace MaskedLiterals.Pattern

/-- A name without what does not tell it from others: letter case, blanks, minus signs, underscores,
    and a leading `is`. -/
def plainName (name : String) : String :=
  let letters := (name.toList.filter fun c => !(c = ' ' || c = '_' || c = '-')).filterMap fun c =>
    if c.toNat < 0x80 then some c.toLower else none
  let startsIs := (name.toList.take 2).map Char.toLower = ['i', 's']
  let short := letters.drop 2
  String.ofList <| if startsIs && short ≠ ['c'] then short else letters

/-! ### Names of properties -/

def binaryNames : List (Text.Property × List String) :=
  [(.asciiHexDigit, ["ahex", "asciihexdigit"]),
   (.alphabetic, ["alpha", "alphabetic"]),
   (.bidiControl, ["bidic", "bidicontrol"]),
   (.caseIgnorable, ["ci", "caseignorable"]),
   (.cased, ["cased"]),
   (.changesWhenCasefolded, ["cwcf", "changeswhencasefolded"]),
   (.changesWhenCasemapped, ["cwcm", "changeswhencasemapped"]),
   (.changesWhenLowercased, ["cwl", "changeswhenlowercased"]),
   (.changesWhenTitlecased, ["cwt", "changeswhentitlecased"]),
   (.changesWhenUppercased, ["cwu", "changeswhenuppercased"]),
   (.dash, ["dash"]),
   (.defaultIgnorable, ["di", "defaultignorablecodepoint"]),
   (.deprecated, ["dep", "deprecated"]),
   (.diacritic, ["dia", "diacritic"]),
   (.emoji, ["emoji"]),
   (.emojiComponent, ["ecomp", "emojicomponent"]),
   (.emojiModifier, ["emod", "emojimodifier"]),
   (.emojiModifierBase, ["ebase", "emojimodifierbase"]),
   (.emojiPresentation, ["epres", "emojipresentation"]),
   (.extendedPictographic, ["extpict", "extendedpictographic"]),
   (.extender, ["ext", "extender"]),
   (.graphemeBase, ["grbase", "graphemebase"]),
   (.graphemeExtend, ["grext", "graphemeextend"]),
   (.graphemeLink, ["grlink", "graphemelink"]),
   (.hexDigit, ["hex", "hexdigit"]),
   (.hyphen, ["hyphen"]),
   (.binaryOperator, ["idsb", "idsbinaryoperator"]),
   (.trinaryOperator, ["idst", "idstrinaryoperator"]),
   (.unaryOperator, ["idsu", "idsunaryoperator"]),
   (.mathContinue, ["idcompatmathcontinue"]),
   (.mathStart, ["idcompatmathstart"]),
   (.idContinue, ["idc", "idcontinue"]),
   (.idStart, ["ids", "idstart"]),
   (.ideographic, ["ideo", "ideographic"]),
   (.joinControl, ["joinc", "joincontrol"]),
   (.logicalOrderException, ["loe", "logicalorderexception"]),
   (.lowercase, ["lower", "lowercase"]),
   (.math, ["math"]),
   (.modifierCombiningMark, ["mcm", "modifiercombiningmark"]),
   (.noncharacter, ["nchar", "noncharactercodepoint"]),
   (.otherAlphabetic, ["oalpha", "otheralphabetic"]),
   (.otherIgnorable, ["odi", "otherdefaultignorablecodepoint"]),
   (.otherGraphemeExtend, ["ogrext", "othergraphemeextend"]),
   (.otherIdContinue, ["oidc", "otheridcontinue"]),
   (.otherIdStart, ["oids", "otheridstart"]),
   (.otherLowercase, ["olower", "otherlowercase"]),
   (.otherMath, ["omath", "othermath"]),
   (.otherUppercase, ["oupper", "otheruppercase"]),
   (.patternSyntax, ["patsyn", "patternsyntax"]),
   (.patternWhiteSpace, ["patws", "patternwhitespace"]),
   (.prependedMark, ["pcm", "prependedconcatenationmark"]),
   (.quotationMark, ["qmark", "quotationmark"]),
   (.radical, ["radical"]),
   (.regionalIndicator, ["ri", "regionalindicator"]),
   (.sentenceTerminal, ["sterm", "sentenceterminal"]),
   (.softDotted, ["sd", "softdotted"]),
   (.terminalPunctuation, ["term", "terminalpunctuation"]),
   (.unifiedIdeograph, ["uideo", "unifiedideograph"]),
   (.uppercase, ["upper", "uppercase"]),
   (.variationSelector, ["vs", "variationselector"]),
   (.whiteSpace, ["wspace", "whitespace", "space"]),
   (.extendedIdContinue, ["xidc", "xidcontinue"]),
   (.extendedIdStart, ["xids", "xidstart"])]

inductive ValuedProperty where
  | generalCategory
  | script
  | usedScript
  | age
  | graphemeBreak
  | wordBreak
  | sentenceBreak
  deriving DecidableEq, Repr, Inhabited

def valuedNames : List (ValuedProperty × List String) :=
  [(.generalCategory, ["gc", "generalcategory"]),
   (.script, ["sc", "script"]),
   (.usedScript, ["scx", "scriptextensions"]),
   (.age, ["age"]),
   (.graphemeBreak, ["gcb", "graphemeclusterbreak"]),
   (.wordBreak, ["wb", "wordbreak"]),
   (.sentenceBreak, ["sb", "sentencebreak"])]

def otherNames : List String :=
  ["bc", "bidiclass", "bidim", "bidimirrored", "bidimirroringglyph", "bmg", "bidipairedbracket",
   "bpb", "bidipairedbrackettype", "bpt", "blk", "block", "canonicalcombiningclass", "ccc",
   "casefolding", "cf", "compositionexclusion", "ce", "changeswhennfkccasefolded", "cwkcf",
   "decompositionmapping", "dm", "decompositiontype", "dt", "eastasianwidth", "ea",
   "equivalentunifiedideograph", "equideo", "expandsonnfc", "xonfc", "expandsonnfd", "xonfd",
   "expandsonnfkc", "xonfkc", "expandsonnfkd", "xonfkd", "fcnfkcclosure", "fcnfkc",
   "fullcompositionexclusion", "compex", "hangulsyllabletype", "hst", "indicconjunctbreak", "incb",
   "indicpositionalcategory", "inpc", "indicsyllabiccategory", "insc", "ocomment", "isc",
   "jamoshortname", "jsn", "joininggroup", "jg", "joiningtype", "jt", "linebreak", "lb",
   "lowercasemapping", "lc", "name", "na", "namealias", "nfcquickcheck", "nfcqc", "nfdquickcheck",
   "nfdqc", "nfkccasefold", "nfkccf", "nfkcquickcheck", "nfkcqc", "nfkcsimplecasefold", "nfkcscf",
   "nfkdquickcheck", "nfkdqc", "numerictype", "nt", "numericvalue", "nv", "simplecasefolding",
   "scf", "sfc", "simplelowercasemapping", "slc", "simpletitlecasemapping", "stc",
   "simpleuppercasemapping", "suc", "titlecasemapping", "tc", "unicode1name", "na1",
   "uppercasemapping", "uc", "verticalorientation", "vo",
   "cjkaccountingnumeric", "kaccountingnumeric", "cjkcompatibilityvariant", "kcompatibilityvariant",
   "cjkiicore", "kiicore", "cjkirggsource", "kirggsource", "cjkirghsource", "kirghsource",
   "cjkirgjsource", "kirgjsource", "cjkirgkpsource", "kirgkpsource", "cjkirgksource", "kirgksource",
   "cjkirgmsource", "kirgmsource", "cjkirgssource", "kirgssource", "cjkirgtsource", "kirgtsource",
   "cjkirguksource", "kirguksource", "cjkirgusource", "kirgusource", "cjkirgvsource", "kirgvsource",
   "cjkothernumeric", "kothernumeric", "cjkprimarynumeric", "kprimarynumeric", "cjkrsunicode",
   "krsunicode", "unicoderadicalstroke", "urs",
   "kehcat", "kehcore", "kehdesc", "kehhg", "kehifao", "kehjsesh", "kehnomirror", "kehnorotate"]

/-- What has a name among some. -/
def named? {α : Type} (names : List (α × List String)) (name : String) : Option α :=
  (names.find? fun (_, names) => names.contains name).map Prod.fst

/-! ### Names of values -/

/-- The general categories with a name, which may be one that several have in common. -/
def generalCategories? : String → Option (List Text.Category)
  | "lu" | "uppercaseletter" => some [.uppercaseLetter]
  | "ll" | "lowercaseletter" => some [.lowercaseLetter]
  | "lt" | "titlecaseletter" => some [.titlecaseLetter]
  | "lc" | "casedletter" => some [.uppercaseLetter, .lowercaseLetter, .titlecaseLetter]
  | "lm" | "modifierletter" => some [.modifierLetter]
  | "lo" | "otherletter" => some [.otherLetter]
  | "l" | "letter" => some Text.letterCategories
  | "mn" | "nonspacingmark" => some [.nonspacingMark]
  | "mc" | "spacingmark" => some [.spacingMark]
  | "me" | "enclosingmark" => some [.enclosingMark]
  | "m" | "mark" | "combiningmark" => some Text.markCategories
  | "nd" | "decimalnumber" | "digit" => some [.decimalNumber]
  | "nl" | "letternumber" => some [.letterNumber]
  | "no" | "othernumber" => some [.otherNumber]
  | "n" | "number" => some Text.numberCategories
  | "pc" | "connectorpunctuation" => some [.connectorPunctuation]
  | "pd" | "dashpunctuation" => some [.dashPunctuation]
  | "ps" | "openpunctuation" => some [.openPunctuation]
  | "pe" | "closepunctuation" => some [.closePunctuation]
  | "pi" | "initialpunctuation" => some [.initialPunctuation]
  | "pf" | "finalpunctuation" => some [.finalPunctuation]
  | "po" | "otherpunctuation" => some [.otherPunctuation]
  | "p" | "punctuation" | "punct" => some
    [.connectorPunctuation, .dashPunctuation, .openPunctuation, .closePunctuation,
     .initialPunctuation, .finalPunctuation, .otherPunctuation]
  | "sm" | "mathsymbol" => some [.mathSymbol]
  | "sc" | "currencysymbol" => some [.currencySymbol]
  | "sk" | "modifiersymbol" => some [.modifierSymbol]
  | "so" | "othersymbol" => some [.otherSymbol]
  | "s" | "symbol" => some [.mathSymbol, .currencySymbol, .modifierSymbol, .otherSymbol]
  | "zs" | "spaceseparator" => some [.spaceSeparator]
  | "zl" | "lineseparator" => some [.lineSeparator]
  | "zp" | "paragraphseparator" => some [.paragraphSeparator]
  | "z" | "separator" => some [.spaceSeparator, .lineSeparator, .paragraphSeparator]
  | "cc" | "control" | "cntrl" => some [.control]
  | "cf" | "format" => some [.format]
  | "cs" | "surrogate" => some [.surrogate]
  | "co" | "privateuse" => some [.privateUse]
  | "cn" | "unassigned" => some [.unassigned]
  | "c" | "other" => some [.control, .format, .surrogate, .privateUse, .unassigned]
  | _ => none

/-- The code points that are named as a general category is.  Surrogates are no characters, and
    their category alone has none. -/
def generalCategory? (name : String) : Option (Option Text.CodeSet) :=
  match name with
  | "any" => some (some CharSet.all)
  | "assigned" => some (some (CharSet.all.diff (Text.knownCategory .unassigned)))
  | "ascii" => some (some CharSet.ascii)
  | _ => (generalCategories? name).map fun categories =>
    if categories = [.surrogate] then none else some (Text.knownCategories categories)

def script? (name : String) : Option Text.Script :=
  Text.Script.all.find? fun script => script.names.any fun other => plainName other = name

/-- The version with a name: both its numbers, with a dot between them or with a leading `v`. -/
def version? (name : String) : Option Text.UnicodeVersion :=
  (Text.UnicodeVersion.additions.map Prod.fst).find? fun version =>
    let (major, minor) := (toString version.major, toString version.minor)
    name = major ++ "." ++ minor || name = "v" ++ major ++ minor

def graphemeBreakNames : List (Text.GraphemeBreak × List String) :=
  [(.carriageReturn, ["cr"]),
   (.lineFeed, ["lf"]),
   (.control, ["cn", "control"]),
   (.extend, ["ex", "extend"]),
   (.joiner, ["zwj"]),
   (.prepend, ["pp", "prepend"]),
   (.spacingMark, ["sm", "spacingmark"]),
   (.leadingJamo, ["l"]),
   (.vowelJamo, ["v"]),
   (.trailingJamo, ["t"]),
   (.openSyllable, ["lv"]),
   (.closedSyllable, ["lvt"]),
   (.regionalIndicator, ["ri", "regionalindicator"])]

def wordBreakNames : List (Text.WordBreak × List String) :=
  [(.carriageReturn, ["cr"]),
   (.lineFeed, ["lf"]),
   (.newline, ["nl", "newline"]),
   (.extend, ["extend"]),
   (.joiner, ["zwj"]),
   (.format, ["fo", "format"]),
   (.regionalIndicator, ["ri", "regionalindicator"]),
   (.katakana, ["ka", "katakana"]),
   (.hebrewLetter, ["hl", "hebrewletter"]),
   (.letter, ["le", "aletter"]),
   (.singleQuote, ["sq", "singlequote"]),
   (.doubleQuote, ["dq", "doublequote"]),
   (.midNumLet, ["mb", "midnumlet"]),
   (.midLetter, ["ml", "midletter"]),
   (.midNum, ["mn", "midnum"]),
   (.numeric, ["nu", "numeric"]),
   (.extendNumLet, ["ex", "extendnumlet"]),
   (.spaceRun, ["wsegspace"])]

def sentenceBreakNames : List (Text.SentenceBreak × List String) :=
  [(.carriageReturn, ["cr"]),
   (.lineFeed, ["lf"]),
   (.separator, ["se", "sep"]),
   (.extend, ["ex", "extend"]),
   (.format, ["fo", "format"]),
   (.space, ["sp"]),
   (.lower, ["lo", "lower"]),
   (.upper, ["up", "upper"]),
   (.otherLetter, ["le", "oletter"]),
   (.numeric, ["nu", "numeric"]),
   (.fullStop, ["at", "aterm"]),
   (.goesOn, ["sc", "scontinue"]),
   (.terminal, ["st", "sterm"]),
   (.close, ["cl", "close"])]

/-! ### What a property stands for -/

def ValuedProperty.codes? (value : String) : ValuedProperty → Option Text.CodeSet
  | generalCategory => (generalCategory? value).bind id
  | script => (script? value).bind Text.Script.codes?
  | usedScript => (script? value).bind Text.Script.usedCodes?
  | age => (version? value).bind Text.UnicodeVersion.codes?
  | graphemeBreak => (named? graphemeBreakNames value).map Text.GraphemeBreak.codes
  | wordBreak => (named? wordBreakNames value).map Text.WordBreak.codes
  | sentenceBreak => (named? sentenceBreakNames value).map Text.SentenceBreak.codes

/-- Whether a name alone is rather that of a general category than of a property. -/
def namesCategory (name : String) : Bool := name = "cf" || name = "sc" || name = "lc"

/-- The code points that a name alone stands for; there may be none. -/
def ofPlainName (name : String) : Except PatternCause (Option Text.CodeSet) :=
  let isOther := (named? valuedNames name).isSome || otherNames.contains name
  match named? binaryNames name with
  | some property => .ok (some property.codes)
  | none =>
    if isOther && !namesCategory name then .error .unknownProperty
    else match generalCategory? name with
      | some codes => .ok codes
      | none =>
        match script? name with
        | some script => .ok script.codes?
        | none => .error .unknownProperty

/-- The code points that a name with a value stands for; there may be none. -/
def ofPlainValue (name value : String) : Except PatternCause (Option Text.CodeSet) :=
  match named? valuedNames name with
  | some property => .ok (property.codes? value)
  | none =>
    if (named? binaryNames name).isSome || otherNames.contains name then .ok none
    else .error .unknownProperty

def ofProperty (property : Property) : Except PatternCause CharSet := do
  let codes? ← match property with
    | .named name => ofPlainName (plainName name)
    | .valued name value => ofPlainValue (plainName name) (plainName value)
  match codes? with
  | some codes => return CharSet.ofCodes codes
  | none => throw .unknownPropertyValue

end MaskedLiterals.Pattern
