import MaskedLiterals.Text.Property

/-!
# Where characters, words and sentences end

To find the ends of what a reader takes for one character, of words and of sentences, Unicode sorts
code points into classes, once for each of these.  The classes mostly follow from categories and
properties; a code point in none of them is of no interest there.
-/

namespace MaskedLiterals.Text

/-! ### Characters as a reader takes them -/

def otherPrependCodes : CodeSet := CodeSet.ofLines [
  "d4e 111c2-111c3 113d1 1193f 11941 11a84-11a89 11d46 11f02"]

def standaloneMarkCodes : CodeSet := CodeSet.ofLines [
  "102b-102c 1038 1062-1064 1067-106d 1083 1087-108c 108f 109a-109c 1a61 1a63-1a64 aa7b aa7d",
  "11720-11721"]

def leadingJamoCodes : CodeSet := CodeSet.ofLines ["1100-115f a960-a97c"]

def vowelJamoCodes : CodeSet := CodeSet.ofLines ["1160-11a7 d7b0-d7c6 16d63 16d67-16d6a"]

def trailingJamoCodes : CodeSet := CodeSet.ofLines ["11a8-11ff d7cb-d7fb"]

/-- The classes for what a reader takes for one character. -/
inductive GraphemeBreak where
  | carriageReturn
  | lineFeed
  | control
  | extend
  | joiner
  | prepend
  | spacingMark
  | leadingJamo
  | vowelJamo
  | trailingJamo
  | openSyllable
  | closedSyllable
  | regionalIndicator
  deriving DecidableEq, Repr, Inhabited

namespace GraphemeBreak

def syllables : CodeSet := CodeSet.range 0xac00 0xd7a3

/-- The syllables that end in a vowel: every one of 28. -/
def openSyllables : CodeSet := CodeSet.ofRuns [⟨0xac00, 0xd7a3, 28⟩]

def extendCodes : CodeSet := Property.graphemeExtendCodes.union emojiModifierCodes

def prependCodes : CodeSet := prependedMarkCodes.union otherPrependCodes

def codes : GraphemeBreak → CodeSet
  | carriageReturn => CodeSet.singleton 0xd
  | lineFeed => CodeSet.singleton 0xa
  | control =>
    CodeSet.diff
      (CodeSet.union
        (knownCategories [.control, .format, .lineSeparator, .paragraphSeparator])
        ((knownCategory .unassigned).inter Property.ignorableCodes))
      (CodeSet.unions
        [CodeSet.ofLines ["a d 200c-200d"], prependedMarkCodes, Property.graphemeExtendCodes])
  | extend => extendCodes
  | joiner => CodeSet.singleton 0x200d
  | prepend => prependCodes
  | spacingMark =>
    CodeSet.diff ((knownCategory .spacingMark).union (CodeSet.ofLines ["e33 eb3"]))
      (extendCodes.union standaloneMarkCodes)
  | leadingJamo => leadingJamoCodes
  | vowelJamo => vowelJamoCodes
  | trailingJamo => trailingJamoCodes
  | openSyllable => openSyllables
  | closedSyllable => syllables.diff openSyllables
  | regionalIndicator => regionalIndicatorCodes

end GraphemeBreak

/-! ### Words -/

/-- What ends a line, beside carriage return and line feed. -/
def newlineCodes : CodeSet := CodeSet.ofLines ["b-c 85 2028-2029"]

def katakanaCodes : CodeSet := CodeSet.ofLines [
  "3031-3035 309b-309c 30a0-30fa 30fc-30ff 31f0-31ff 32d0-32fe 3300-3357 ff66-ff9d 1aff0-1aff3",
  "1aff5-1affb 1affd-1affe 1b000 1b120-1b122 1b155 1b164-1b167"]

def hebrewLetterCodes : CodeSet := CodeSet.ofLines [
  "5d0-5ea 5ef-5f2 fb1d fb1f-fb28 fb2a-fb36 fb38-fb3c fb3e fb40-fb41 fb43-fb44 fb46-fb4f"]

def wordlessCodes : CodeSet := CodeSet.ofLines [
  "e01-e30 e32-e33 e40-e46 e81-e82 e84 e86-e8a e8c-ea3 ea5 ea7-eb0 eb2-eb3 ebd ec0-ec4 ec6",
  "edc-edf 1000-102a 103f 1050-1055 105a-105d 1061 1065-1066 106e-1070 1075-1081 108e 1780-17b3",
  "17d7 17dc 1950-196d 1970-1974 1980-19ab 19b0-19c9 1a20-1a54 1aa7 3041-3096 309d-309f a9e0-a9e4",
  "a9e6-a9ef a9fa-a9fe aa60-aa76 aa7a aa7e-aaaf aab1 aab5-aab6 aab9-aabd aac0 aac2 aadb-aadd",
  "11700-1171a 11740-11746 1b001-1b11f 1b132 1b150-1b152"]

/-- Signs that words hold like letters. -/
def otherWordLetterCodes : CodeSet := CodeSet.ofLines [
  "2c2-2c5 2d2-2d7 2de-2df 2e5-2eb 2ed 2ef-2ff 55a-55c 55e 58a 5f3 70f a708-a716 a720-a721",
  "a789-a78a ab5b"]

def midNumCodes : CodeSet := CodeSet.ofLines [
  "2c 3b 37e 589 60c-60d 66c 7f8 2044 fe10 fe14 fe50 fe54 ff0c ff1b"]

def otherNumericCodes : CodeSet := CodeSet.ofLines ["600-605 66b 6dd 890-891 8e2 19da 110bd 110cd"]

/-- Spaces of which a run stays together. -/
def spaceRunCodes : CodeSet := CodeSet.ofLines ["20 1680 2000-2006 2008-200a 205f 3000"]

inductive WordBreak where
  | carriageReturn
  | lineFeed
  | newline
  | extend
  | joiner
  | format
  | regionalIndicator
  | katakana
  | hebrewLetter
  | letter
  | singleQuote
  | doubleQuote
  | midNumLet
  | midLetter
  | midNum
  | numeric
  | extendNumLet
  | spaceRun
  deriving DecidableEq, Repr, Inhabited

namespace WordBreak

def extendCodes : CodeSet :=
  CodeSet.diff
    (CodeSet.unions
      [Property.graphemeExtendCodes, knownCategory .spacingMark, emojiModifierCodes])
    (CodeSet.singleton 0x200d)

def numericCodes : CodeSet := (knownCategory .decimalNumber).union otherNumericCodes

def codes : WordBreak → CodeSet
  | carriageReturn => CodeSet.singleton 0xd
  | lineFeed => CodeSet.singleton 0xa
  | newline => newlineCodes
  | extend => extendCodes
  | joiner => CodeSet.singleton 0x200d
  | format =>
    CodeSet.diff (knownCategory .format)
      (CodeSet.unions [CodeSet.ofLines ["70f 200b-200d"], numericCodes, extendCodes])
  | regionalIndicator => regionalIndicatorCodes
  | katakana => katakanaCodes
  | hebrewLetter => hebrewLetterCodes
  | letter =>
    CodeSet.union otherWordLetterCodes
      (CodeSet.diff knownAlphabeticCodes
        (CodeSet.unions
          [Property.ideographic.codes, katakanaCodes, wordlessCodes, extendCodes,
           hebrewLetterCodes, numericCodes]))
  | singleQuote => CodeSet.singleton 0x27
  | doubleQuote => CodeSet.singleton 0x22
  | midNumLet => midNumLetCodes
  | midLetter => midLetterCodes
  | midNum => midNumCodes
  | numeric => numericCodes
  | extendNumLet => (knownCategory .connectorPunctuation).union (CodeSet.singleton 0x202f)
  | spaceRun => spaceRunCodes

end WordBreak

/-! ### Sentences -/

/-- Georgian letters, of which neither kind begins a sentence. -/
def caselessGeorgianCodes : CodeSet := CodeSet.ofLines ["10d0-10fa 10fd-10ff 1c90-1cba 1cbd-1cbf"]

def sentenceGoesOnCodes : CodeSet := CodeSet.ofLines [
  "2c-2d 3a-3b 37e 55d 60c-60d 7f8 1802 1808 2013-2014 3001 fe10-fe11 fe13-fe14 fe31-fe32",
  "fe50-fe51 fe54-fe55 fe58 fe63 ff0c-ff0d ff1a-ff1b ff64"]

def fullStopCodes : CodeSet := CodeSet.ofLines ["2e 2024 fe52 ff0e"]

def otherCloseCodes : CodeSet := CodeSet.ofLines [
  "22 27 275b-2760 2e00-2e01 2e06-2e08 2e0b 1f676-1f678"]

inductive SentenceBreak where
  | carriageReturn
  | lineFeed
  | separator
  | extend
  | format
  | space
  | lower
  | upper
  | otherLetter
  | numeric
  | fullStop
  | goesOn
  | terminal
  | close
  deriving DecidableEq, Repr, Inhabited

namespace SentenceBreak

def separatorCodes : CodeSet := CodeSet.ofLines ["85 2028-2029"]

def extendCodes : CodeSet :=
  (Property.graphemeExtendCodes.union (knownCategory .spacingMark)).union
    (CodeSet.singleton 0x200d)

def numericCodes : CodeSet := WordBreak.numericCodes.union (CodeSet.singleton 0x66c)

def lowerCodes : CodeSet :=
  Property.lowercaseCodes.diff (Property.graphemeExtendCodes.union caselessGeorgianCodes)

def upperCodes : CodeSet :=
  (Property.uppercaseCodes.union (knownCategory .titlecaseLetter)).diff caselessGeorgianCodes

def codes : SentenceBreak → CodeSet
  | carriageReturn => CodeSet.singleton 0xd
  | lineFeed => CodeSet.singleton 0xa
  | separator => separatorCodes
  | extend => extendCodes
  | format => (knownCategory .format).diff (numericCodes.union extendCodes)
  | space => whiteSpaceCodes.diff (separatorCodes.union (CodeSet.ofLines ["a d"]))
  | lower => lowerCodes
  | upper => upperCodes
  | otherLetter =>
    CodeSet.diff (knownAlphabeticCodes.union (CodeSet.singleton 0x5f3))
      (CodeSet.unions [lowerCodes, upperCodes, extendCodes])
  | numeric => numericCodes
  | fullStop => fullStopCodes
  | goesOn => sentenceGoesOnCodes
  | terminal => sentenceTerminalCodes.diff fullStopCodes
  | close =>
    (knownCategories
      [.openPunctuation, .closePunctuation, .initialPunctuation, .finalPunctuation]).union
      otherCloseCodes

end SentenceBreak

end MaskedLiterals.Text
