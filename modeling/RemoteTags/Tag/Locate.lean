import RemoteTags.Pattern.Match
import RemoteTags.Pattern.Parser
import RemoteTags.Tag.Basic
import RemoteTags.Text.Blank
import RemoteTags.Text.Decimal

/-! Finding the line of a tag in the text of its file. Lines are counted from zero. -/

namespace RemoteTags.Locate
open Text

/-- Tags count lines from one; a zero is kept as the first line. -/
def lineOfNumber (number : String) : Option Nat := do
  let n ← Decimal.signed64 (trim number.toList)
  if n = 0 then some 0
  else if 0 < n then some (n - 1).toNat
  else none

/-- The first line in which the pattern matches; none, if the text of the pattern is not one. -/
def findLine (text pattern : String) : Option Nat := do
  let p ← Pattern.parse pattern.toList
  p.findLine (text.toList.splitOn '\n')

def resolve (text : String) : Address → Option Nat
  | .line number => lineOfNumber number
  | .pattern pattern => findLine text pattern

end RemoteTags.Locate
