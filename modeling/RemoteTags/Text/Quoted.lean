import RemoteTags.Text.Blank
import RemoteTags.Unicode.Category
import RemoteTags.Unicode.Property

/-! Text between quotation marks, for messages that have to show every character: what cannot be
seen is written as an escape. -/

namespace RemoteTags.Quoted
open Unicode

/-- The categories that are never shown as they are. A plain space is the one exception. -/
def hiddenCategories : List Category :=
  [.control, .format, .privateUse, .lineSeparator, .paragraphSeparator, .spaceSeparator]

def isVisible (c : Char) : Bool :=
  let n := c.toNat
  if n < 0x7F then 0x20 ≤ n
  else n < 0xE0000 && !(hiddenCategories.any fun g => g.contains n) && !isUnassigned n

def extendsGrapheme (c : Char) : Bool :=
  CodeRange.anyContains Property.graphemeExtend.ranges c.toNat

def hexText (n : Nat) : List Char := Nat.toDigits 16 n

/-- The written form of a character; `single` says that an apostrophe is escaped as well. -/
def escape (single : Bool) (c : Char) : List Char :=
  match c with
  | '\x00' => ['\\', '0']
  | '\t' => ['\\', 't']
  | '\r' => ['\\', 'r']
  | '\n' => ['\\', 'n']
  | '\\' => ['\\', '\\']
  | '"' => ['\\', '"']
  | '\'' => if single then ['\\', '\''] else ['\'']
  | c =>
    if (c.toNat < 0x7F || !extendsGrapheme c) && isVisible c then [c]
    else "\\u\x7b".toList ++ hexText c.toNat ++ ['\x7d']

def text (s : String) : String :=
  String.ofList ('"' :: s.toList.flatMap (escape false) ++ ['"'])

def path (s : String) : String :=
  String.ofList ('"' :: s.toList.flatMap (escape true) ++ ['"'])

end RemoteTags.Quoted
