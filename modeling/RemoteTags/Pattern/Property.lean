import RemoteTags.Unicode.Script
import RemoteTags.Unicode.Version
import RemoteTags.Pattern.BreakClass

/-! The properties that `\p` takes, by their names. -/

namespace RemoteTags.Pattern
open Unicode

/-- Names of properties are compared without case, blanks, hyphens and underscores, and without
an `is` in front; `isc` is a name of its own. -/
def normalName (name : List Char) : String :=
  let (hasIs, body) := match name with
    | i :: s :: rest =>
      if (i = 'i' || i = 'I') && (s = 's' || s = 'S') then (true, rest) else (false, name)
    | _ => (false, name)
  let kept := body.filterMap fun c =>
    if c = ' ' || c = '_' || c = '-' then none
    else if 'A' ≤ c && c ≤ 'Z' then some (Char.ofNat (c.toNat + 32))
    else if c.toNat < 128 then some c else none
  if hasIs && kept = ['c'] then "isc" else String.ofList kept

def categorySet? : String → Option CharSet
  | "any" => some .any
  | "ascii" => some (.ranges [⟨0, 127⟩])
  | "assigned" => some (.compl unassigned)
  | "l" | "letter" => some (categories letters)
  | "lc" | "casedletter" =>
    some (categories [.uppercaseLetter, .lowercaseLetter, .titlecaseLetter])
  | "m" | "mark" | "combiningmark" => some (categories marks)
  | "n" | "number" => some (categories numbers)
  | "p" | "punctuation" | "punct" => some (categories punctuation)
  | "s" | "symbol" => some (categories symbols)
  | "z" | "separator" => some (categories separators)
  | "c" | "other" => some (.union (categories [.control, .format, .privateUse]) unassigned)
  | "cn" | "unassigned" => some unassigned
  | "lu" | "uppercaseletter" => some (categories [.uppercaseLetter])
  | "ll" | "lowercaseletter" => some (categories [.lowercaseLetter])
  | "lt" | "titlecaseletter" => some (categories [.titlecaseLetter])
  | "lm" | "modifierletter" => some (categories [.modifierLetter])
  | "lo" | "otherletter" => some (categories [.otherLetter])
  | "mn" | "nonspacingmark" => some (categories [.nonspacingMark])
  | "mc" | "spacingmark" => some (categories [.spacingMark])
  | "me" | "enclosingmark" => some (categories [.enclosingMark])
  | "nd" | "decimalnumber" | "digit" => some digitSet
  | "nl" | "letternumber" => some (categories [.letterNumber])
  | "no" | "othernumber" => some (categories [.otherNumber])
  | "pc" | "connectorpunctuation" => some (categories [.connectorPunctuation])
  | "pd" | "dashpunctuation" => some (categories [.dashPunctuation])
  | "ps" | "openpunctuation" => some (categories [.openPunctuation])
  | "pe" | "closepunctuation" => some (categories [.closePunctuation])
  | "pi" | "initialpunctuation" => some (categories [.initialPunctuation])
  | "pf" | "finalpunctuation" => some (categories [.finalPunctuation])
  | "po" | "otherpunctuation" => some (categories [.otherPunctuation])
  | "sm" | "mathsymbol" => some (categories [.mathSymbol])
  | "sc" | "currencysymbol" => some (categories [.currencySymbol])
  | "sk" | "modifiersymbol" => some (categories [.modifierSymbol])
  | "so" | "othersymbol" => some (categories [.otherSymbol])
  | "zs" | "spaceseparator" => some (categories [.spaceSeparator])
  | "zl" | "lineseparator" => some (categories [.lineSeparator])
  | "zp" | "paragraphseparator" => some (categories [.paragraphSeparator])
  | "cc" | "control" | "cntrl" => some (categories [.control])
  | "cf" | "format" => some (categories [.format])
  | "co" | "privateuse" => some (categories [.privateUse])
  | _ => none

def binarySet? (name : String) : Option CharSet :=
  if name = "cf" || name = "sc" || name = "lc" then none
  else (Property.find? name).map having

def scriptSet? (name : String) : Option CharSet :=
  (Script.find? name).map fun s => .ranges s.ranges

/-- What was assigned in a version and those before it. -/
def ageSet? (name : String) : Option CharSet :=
  (Version.through? name).map fun vs => unionOf (vs.map fun v => .ranges v.ranges)

def propertySet? (name : List Char) : Option CharSet :=
  let name := normalName name
  binarySet? name <|> categorySet? name <|> scriptSet? name

def valueSet? (name value : List Char) : Option CharSet :=
  let value := normalName value
  match normalName name with
  | "gc" | "generalcategory" => categorySet? value
  | "sc" | "script" => scriptSet? value
  | "scx" | "scriptextensions" =>
    (Script.find? value).map fun s => .ranges s.extendedRanges
  | "age" => ageSet? value
  | "gcb" | "graphemeclusterbreak" => GraphemeBreak.find? value
  | "wb" | "wordbreak" => WordBreak.find? value
  | "sb" | "sentencebreak" => SentenceBreak.find? value
  | _ => none

end RemoteTags.Pattern
