import RemoteTags.Text.Blank

/-! The flags of a pattern, as `(?imsUuRx-…)` sets them, and the blanks and comments that the
flag `x` lets a pattern hold. -/

namespace RemoteTags.Pattern
open Text

structure Flags where
  ignoreCase : Bool := false
  multiLine : Bool := false
  dotAll : Bool := false
  swapGreed : Bool := false
  unicode : Bool := true
  crlf : Bool := false
  spaced : Bool := false
deriving DecidableEq, Repr

def Flags.set? (f : Flags) (letter : Char) (on : Bool) : Option Flags :=
  match letter with
  | 'i' => some { f with ignoreCase := on }
  | 'm' => some { f with multiLine := on }
  | 's' => some { f with dotAll := on }
  | 'U' => some { f with swapGreed := on }
  | 'u' => some { f with unicode := on }
  | 'R' => some { f with crlf := on }
  | 'x' => some { f with spaced := on }
  | _ => none

structure FlagList where
  flags : Flags
  isEmpty : Bool
  opensGroup : Bool
  rest : List Char

/-- Reads flags up to a colon or a closing parenthesis. Each letter may stand once, and a single
minus in front of a letter turns off what follows. -/
def readFlags (flags : Flags) : List Char → Option FlagList :=
  go flags [] true
where
  go (flags : Flags) (seen : List Char) (on : Bool) : List Char → Option FlagList
    | [] => none
    | c :: rest =>
      if c = ':' || c = ')' then
        if seen.head? = some '-' then none
        else some ⟨flags, seen.isEmpty, c = ':', rest⟩
      else if seen.contains c then none
      else if c = '-' then go flags (c :: seen) false rest
      else match flags.set? c on with
        | some flags => go flags (c :: seen) on rest
        | none => none

/-- With the flag `x`: the rest behind blanks and comments, which reach to the end of the line. -/
def skipSpace (spaced : Bool) (s : List Char) : List Char :=
  if spaced then go false s else s
where
  go (comment : Bool) : List Char → List Char
    | [] => []
    | c :: rest =>
      if comment then go (c ≠ '\n') rest
      else if isBlank c then go false rest
      else if c = '#' then go true rest
      else c :: rest

end RemoteTags.Pattern
