import RemoteTags.Pattern.Basic
import RemoteTags.Unicode.Category
import RemoteTags.Unicode.Property

/-! Sets of characters: those of the general categories, the shorthands for digits, blanks and
word characters, and the bracketed ASCII classes. -/

namespace RemoteTags.Pattern
open Unicode

def codes (table : List String) : CharSet := .ranges (CodeRange.read table)

def having (p : Property) : CharSet := .ranges p.ranges

def unionOf (sets : List CharSet) : CharSet := sets.foldr .union .none

def categories (gs : List Category) : CharSet := unionOf (gs.map fun g => .ranges g.ranges)

def letters : List Category :=
  [.uppercaseLetter, .lowercaseLetter, .titlecaseLetter, .modifierLetter, .otherLetter]

def marks : List Category := [.nonspacingMark, .spacingMark, .enclosingMark]

def numbers : List Category := [.decimalNumber, .letterNumber, .otherNumber]

def punctuation : List Category :=
  [.connectorPunctuation, .dashPunctuation, .openPunctuation, .closePunctuation,
   .initialPunctuation, .finalPunctuation, .otherPunctuation]

def symbols : List Category := [.mathSymbol, .currencySymbol, .modifierSymbol, .otherSymbol]

def separators : List Category := [.spaceSeparator, .lineSeparator, .paragraphSeparator]

def unassigned : CharSet := .compl (categories Category.all)

def digitSet : CharSet := .ranges Category.decimalNumberRanges

def spaceSet : CharSet := having .whiteSpace

def wordSet : CharSet :=
  unionOf [having .alphabetic, categories marks, digitSet,
    .ranges Category.connectorPunctuationRanges, having .joinControl]

def asciiDigits : CharSet := .range '0' '9'

def asciiSpaces : CharSet := .ranges [⟨9, 13⟩, ⟨32, 32⟩]

def asciiWord : CharSet := .ranges [⟨48, 57⟩, ⟨65, 90⟩, ⟨95, 95⟩, ⟨97, 122⟩]

def bracketClass? : String → Option CharSet
  | "alnum" => some (.ranges [⟨48, 57⟩, ⟨65, 90⟩, ⟨97, 122⟩])
  | "alpha" => some (.ranges [⟨65, 90⟩, ⟨97, 122⟩])
  | "ascii" => some (.ranges [⟨0, 127⟩])
  | "blank" => some (.ranges [⟨9, 9⟩, ⟨32, 32⟩])
  | "cntrl" => some (.ranges [⟨0, 31⟩, ⟨127, 127⟩])
  | "digit" => some asciiDigits
  | "graph" => some (.ranges [⟨33, 126⟩])
  | "lower" => some (.ranges [⟨97, 122⟩])
  | "print" => some (.ranges [⟨32, 126⟩])
  | "punct" => some (.ranges [⟨33, 47⟩, ⟨58, 64⟩, ⟨91, 96⟩, ⟨123, 126⟩])
  | "space" => some asciiSpaces
  | "upper" => some (.ranges [⟨65, 90⟩])
  | "word" => some asciiWord
  | "xdigit" => some (.ranges [⟨48, 57⟩, ⟨65, 70⟩, ⟨97, 102⟩])
  | _ => none

end RemoteTags.Pattern
