import RemoteTags.Config.Load
import RemoteTags.Text.Cut

/-! Coloured output. A styled text stands between the code of its style and a reset. A reset
inside the text is followed by the code again, and padding counts to the text. -/

namespace RemoteTags.CommandLine
open Text

inductive Style where
  | bold
  | dimmed
  | green
  | yellow
  | cyan
deriving DecidableEq, Repr

namespace Style

def number : Style → Nat
  | bold => 1
  | dimmed => 2
  | green => 32
  | yellow => 33
  | cyan => 36

def escape (n : Nat) : List Char := '\x1b' :: '[' :: (toString n).toList ++ ['m']

def reset : List Char := escape 0

/-- Puts `code` behind each reset. -/
def renew (code : List Char) (s : List Char) : List Char := go s.length s
where
  go : Nat → List Char → List Char
    | 0, s => s
    | fuel + 1, s =>
      match splitAtText reset s with
      | some (before, rest) => before ++ reset ++ code ++ go fuel rest
      | none => s

def apply (style : Style) (colours : Bool) (pad : List Char → List Char) (text : String) :
    String :=
  if colours then
    let code := escape style.number
    String.ofList (code ++ pad (renew code text.toList) ++ reset)
  else String.ofList (pad text.toList)

end Style

def padRight (width : Nat) (s : List Char) : List Char :=
  s ++ List.replicate (width - s.length) ' '

def padLeft (width : Nat) (s : List Char) : List Char :=
  List.replicate (width - s.length) ' ' ++ s

def wantsColours (env : Config.Environment) : Bool :=
  match env.lookup "CLICOLOR_FORCE" with
  | some value => value ≠ "0"
  | none => false

end RemoteTags.CommandLine
