import RemoteTags.Unicode.Script
import RemoteTags.Pattern.CharClass

/-! The classes by which text is divided into the characters that a reader sees, into words and
into sentences. Each division gives a code point at most one class, and the classes are built
from the properties; only what has no common property is listed. -/

namespace RemoteTags.Pattern
open Unicode

def without (a : CharSet) (others : List CharSet) : CharSet := others.foldl .diff a

def carriageReturn : CharSet := .single '\r'

def lineFeed : CharSet := .single '\n'

def zeroWidthJoiner : CharSet := codes ["200D"]

def leadingMarks : CharSet := having .prependedConcatenationMark

namespace GraphemeBreak

def extend : CharSet := .union (having .graphemeExtend) (having .emojiModifier)

def control : CharSet :=
  without
    (.union (categories [.lineSeparator, .paragraphSeparator, .control, .format])
      (.inter unassigned (having .defaultIgnorableCodePoint)))
    [carriageReturn, lineFeed, zeroWidthJoiner, leadingMarks, extend]

def spacingMark : CharSet :=
  without (.union (categories [.spacingMark]) (codes ["E33 EB3"]))
    [codes ["102B-102C 1038 1062-1064 1067-106D 1083 1087-108C 108F 109A-109C 1A61 1A63-1A64",
       "AA7B AA7D 11720-11721"], extend]

def prepend : CharSet :=
  .union leadingMarks
    (codes ["D4E 111C2-111C3 113D1 1193F 11941 11A3A 11A84-11A89 11D46 11F02"])

def leadingConsonant : CharSet := codes ["1100-115F A960-A97C"]

def vowel : CharSet := codes ["1160-11A7 D7B0-D7C6 16D63 16D67-16D6A"]

def trailingConsonant : CharSet := codes ["11A8-11FF D7CB-D7FB"]

/-- The syllables stand in 399 rows of 28, and the first of each row has no trailing consonant. -/
def firstSyllables : List Nat := (List.range 399).map fun row => 0xAC00 + 28 * row

def openSyllable : CharSet := .ranges (firstSyllables.map fun n => ⟨n, n⟩)

def closedSyllable : CharSet := .ranges (firstSyllables.map fun n => ⟨n + 1, n + 27⟩)

def find? : String → Option CharSet
  | "cr" => some carriageReturn
  | "lf" => some lineFeed
  | "cn" | "control" => some control
  | "ex" | "extend" => some extend
  | "zwj" => some zeroWidthJoiner
  | "ri" | "regionalindicator" => some (having .regionalIndicator)
  | "pp" | "prepend" => some prepend
  | "sm" | "spacingmark" => some spacingMark
  | "l" => some leadingConsonant
  | "v" => some vowel
  | "t" => some trailingConsonant
  | "lv" => some openSyllable
  | "lvt" => some closedSyllable
  | _ => none

end GraphemeBreak

/-- The leading mark that spans a word; all others span digits. -/
def wordMark : CharSet := codes ["70F"]

def numerals : CharSet :=
  unionOf [digitSet, codes ["66B"], without leadingMarks [wordMark]]

namespace WordBreak

def extend : CharSet :=
  unionOf [having .graphemeExtend, categories [.spacingMark], having .emojiModifier]

def format : CharSet :=
  without (categories [.format]) [codes ["200B-200D"], leadingMarks, extend]

def katakana : CharSet :=
  codes ["3031-3035 309B-309C 30A0-30FA 30FC-30FF 31F0-31FF 32D0-32FE 3300-3357 FF66-FF9D",
    "1AFF0-1AFF3 1AFF5-1AFFB 1AFFD-1AFFE 1B000 1B120-1B122 1B155 1B164-1B167"]

def hebrewLetter : CharSet :=
  .inter (.ranges Script.hebrew.ranges) (categories [.otherLetter])

def unspacedLetters : CharSet :=
  codes ["E01-E30 E32-E33 E40-E46 E81-E82 E84 E86-E8A E8C-EA3 EA5 EA7-EB0 EB2-EB3 EBD EC0-EC4 EC6",
    "EDC-EDF 1000-102A 103F 1050-1055 105A-105D 1061 1065-1066 106E-1070 1075-1081 108E 1780-17B3",
    "17D7 17DC 1950-196D 1970-1974 1980-19AB 19B0-19C9 1A20-1A54 1AA7 A9E0-A9E4 A9E6-A9EF",
    "A9FA-A9FE AA60-AA76 AA7A AA7E-AAAF AAB1 AAB5-AAB6 AAB9-AABD AAC0 AAC2 AADB-AADD 11700-1171A",
    "11740-11746"]

def letterSigns : CharSet :=
  codes ["2C2-2C5 2D2-2D7 2DE-2DF 2E5-2EB 2ED 2EF-2FF 55A-55C 55E 58A 5F3 A708-A716 A720-A721",
    "A789-A78A AB5B"]

def letter : CharSet :=
  unionOf [
    without (having .alphabetic)
      [having .ideographic, katakana, unspacedLetters, .ranges Script.hiragana.ranges, extend,
       hebrewLetter],
    letterSigns, wordMark]

def find? : String → Option CharSet
  | "cr" => some carriageReturn
  | "lf" => some lineFeed
  | "nl" | "newline" => some (codes ["B-C 85 2028-2029"])
  | "extend" => some extend
  | "zwj" => some zeroWidthJoiner
  | "fo" | "format" => some format
  | "ri" | "regionalindicator" => some (having .regionalIndicator)
  | "ka" | "katakana" => some katakana
  | "hl" | "hebrewletter" => some hebrewLetter
  | "le" | "aletter" => some letter
  | "sq" | "singlequote" => some (.single '\'')
  | "dq" | "doublequote" => some (.single '"')
  | "mb" | "midnumlet" => some (codes ["2E 2018-2019 2024 FE52 FF07 FF0E"])
  | "ml" | "midletter" => some (codes ["3A B7 387 55F 5F4 2027 FE13 FE55 FF1A"])
  | "mn" | "midnum" =>
    some (codes ["2C 3B 37E 589 60C-60D 66C 7F8 2044 FE10 FE14 FE50 FE54 FF0C FF1B"])
  | "nu" | "numeric" => some numerals
  | "ex" | "extendnumlet" => some (codes ["5F 202F 203F-2040 2054 FE33-FE34 FE4D-FE4F FF3F"])
  | "wsegspace" => some (codes ["20 1680 2000-2006 2008-200A 205F 3000"])
  | _ => none

end WordBreak

namespace SentenceBreak

def extend : CharSet :=
  unionOf [having .graphemeExtend, categories [.spacingMark], zeroWidthJoiner]

def separator : CharSet := codes ["85 2028-2029"]

def format : CharSet :=
  without (categories [.format]) [without leadingMarks [wordMark], extend]

def blank : CharSet := without (having .whiteSpace) [carriageReturn, lineFeed, separator]

/-- The letters of a script whose capitals do not begin a sentence are neither lower nor upper. -/
def lower : CharSet :=
  without (having .lowercase) [having .graphemeExtend, codes ["10D0-10FA 10FD-10FF"]]

def upper : CharSet :=
  without (.union (categories [.titlecaseLetter]) (having .uppercase))
    [codes ["1C90-1CBA 1CBD-1CBF"]]

def letter : CharSet :=
  without (.union (having .alphabetic) (codes ["5F3"])) [lower, upper, extend]

def fullStop : CharSet := codes ["2E 2024 FE52 FF0E"]

def terminal : CharSet := without (having .sentenceTerminal) [fullStop]

def continuation : CharSet :=
  codes ["2C-2D 3A-3B 37E 55D 60C-60D 7F8 1802 1808 2013-2014 3001 FE10-FE11 FE13-FE14 FE31-FE32",
    "FE50-FE51 FE54-FE55 FE58 FE63 FF0C-FF0D FF1A-FF1B FF64"]

def closing : CharSet :=
  .union
    (categories [.openPunctuation, .closePunctuation, .initialPunctuation, .finalPunctuation])
    (codes ["22 27 275B-2760 2E00-2E01 2E06-2E08 2E0B 1F676-1F678"])

def find? : String → Option CharSet
  | "cr" => some carriageReturn
  | "lf" => some lineFeed
  | "se" | "sep" => some separator
  | "ex" | "extend" => some extend
  | "fo" | "format" => some format
  | "sp" => some blank
  | "lo" | "lower" => some lower
  | "up" | "upper" => some upper
  | "le" | "oletter" => some letter
  | "nu" | "numeric" => some (.union numerals (codes ["66C"]))
  | "at" | "aterm" => some fullStop
  | "st" | "sterm" => some terminal
  | "sc" | "scontinue" => some continuation
  | "cl" | "close" => some closing
  | _ => none

end SentenceBreak

end RemoteTags.Pattern
