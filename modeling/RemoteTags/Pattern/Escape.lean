import RemoteTags.Pattern.Flags
import RemoteTags.Pattern.Property
import RemoteTags.Text.Cut

/-! What a backslash introduces: a character, a set of characters or an assertion. -/

namespace RemoteTags.Pattern
open Unicode

inductive Escape where
  | char (c : Char)
  -- A character written with exactly two hexadecimal digits.
  | byte (c : Char)
  | set (s : CharSet)
  | look (l : Look)
deriving Repr

def isMetaCharacter (c : Char) : Bool :=
  ['\\', '.', '+', '*', '?', '(', ')', '|', '[', ']', '\x7b', '\x7d', '^', '$', '#', '&', '-',
   '~'].contains c

/-- A backslash makes these stand for themselves: ASCII characters but letters, digits, `<`, `>`. -/
def isEscapable (c : Char) : Bool :=
  isMetaCharacter c || (c.toNat < 128 && !c.isAlphanum && c ≠ '<' && c ≠ '>')

def charOfCode (n : Nat) : Option Char :=
  if n < 0xD800 || (0xDFFF < n && n < 0x110000) then some (Char.ofNat n) else none

def hexDigits (spaced : Bool) : Nat → List Char → List Char → Option (Nat × List Char)
  | 0, digits, s => some (hexValue digits.reverse, s)
  | n + 1, digits, s =>
    match s with
    | [] => none
    | c :: rest =>
      if (hexDigit c).isSome then hexDigits spaced n (c :: digits) (skipSpace spaced rest)
      else none

def bracedHex (spaced : Bool) (digits : List Char) : Nat → List Char → Option (Nat × List Char)
  | 0, _ => none
  | fuel + 1, s =>
    match skipSpace spaced s with
    | '\x7d' :: rest =>
      if digits.isEmpty then none
      else some (hexValue digits.reverse, skipSpace spaced rest)
    | c :: rest =>
      if (hexDigit c).isSome then bracedHex spaced (c :: digits) fuel rest else none
    | [] => none

def hexEscape (spaced : Bool) (width : Nat) (s : List Char) : Option (Escape × List Char) :=
  match skipSpace spaced s with
  | '\x7b' :: rest => do
    let (n, rest) ← bracedHex spaced [] (rest.length + 1) rest
    return (.char (← charOfCode n), rest)
  | s => do
    let (n, rest) ← hexDigits spaced width [] s
    let c ← charOfCode n
    return (if width = 2 then .byte c else .char c, rest)

def bracedName (spaced : Bool) (name : List Char) : Nat → List Char →
    Option (List Char × List Char)
  | 0, _ => none
  | fuel + 1, s =>
    match skipSpace spaced s with
    | '\x7d' :: rest => some (name.reverse, rest)
    | c :: rest => bracedName spaced (c :: name) fuel rest
    | [] => none

/-- The set that a braced property names, `name`, `name=value` or `name:value`, or the complement
of which it names, `name!=value`; the flag tells which. -/
def namedProperty (name : List Char) : Option (Bool × CharSet) :=
  match Text.splitAtText ['!', '='] name with
  | some (key, value) => (valueSet? key (value.drop 2)).map (true, ·)
  | none =>
    match Text.cut ':' name with
    | some (key, value) => (valueSet? key value).map (false, ·)
    | none =>
      match Text.cut '=' name with
      | some (key, value) => (valueSet? key value).map (false, ·)
      | none => (propertySet? name).map (false, ·)

def withFlags (flags : Flags) (negated : Bool) (s : CharSet) : CharSet :=
  let s := if flags.ignoreCase then (if flags.unicode then .folded s else .asciiFolded s) else s
  if negated then .compl s else s

def propertyEscape (flags : Flags) (negated : Bool) (s : List Char) :
    Option (Escape × List Char) := do
  let ((unequal, members), rest) ← match skipSpace flags.spaced s with
    | '\x7b' :: rest => do
      let (name, rest) ← bracedName flags.spaced [] (rest.length + 1) rest
      pure (← namedProperty name, rest)
    | '\\' :: _ => none
    | c :: rest => pure ((false, ← propertySet? [c]), skipSpace flags.spaced rest)
    | [] => none
  if flags.unicode then return (.set (withFlags flags (negated != unequal) members), rest)
  else none

/-- The shorthands. Without the flag `u` the negated ones could match part of a character and
are refused. -/
def shorthand (flags : Flags) (negated : Bool) (wide ascii : CharSet) : Option Escape :=
  if flags.unicode then some (.set (if negated then .compl wide else wide))
  else if negated then none
  else some (.set ascii)

def wordOf (flags : Flags) : CharSet := if flags.unicode then wordSet else asciiWord

def isBoundaryLetter (c : Char) : Bool := c.isAlpha || c = '-'

def boundaryName (spaced : Bool) (name : List Char) : Nat → List Char →
    Option (String × List Char)
  | 0, _ => none
  | fuel + 1, s =>
    match s with
    | '\x7d' :: rest => some (String.ofList name.reverse, rest)
    | c :: rest =>
      if isBoundaryLetter c then boundaryName spaced (c :: name) fuel (skipSpace spaced rest)
      else none
    | [] => none

/-- A word boundary, plain or with a name in braces. Braces that hold no name count repetitions
and are left for later. -/
def boundaryEscape (flags : Flags) (s : List Char) : Option (Escape × List Char) :=
  let w := wordOf flags
  match s with
  | '\x7b' :: inner =>
    match skipSpace flags.spaced inner with
    | [] => none
    | c :: rest =>
      if isBoundaryLetter c then do
        let (name, rest) ← boundaryName flags.spaced [] (rest.length + 2) (c :: rest)
        match name with
        | "start" => some (.look (.wordStart w), rest)
        | "end" => some (.look (.wordEnd w), rest)
        | "start-half" => some (.look (.wordStartHalf w), rest)
        | "end-half" => some (.look (.wordEndHalf w), rest)
        | _ => none
      else some (.look (.boundary w), s)
  | _ => some (.look (.boundary w), s)

def readEscape (flags : Flags) : List Char → Option (Escape × List Char)
  | [] => none
  | c :: rest =>
    let w := wordOf flags
    let spaced := flags.spaced
    match c with
    | 'x' => hexEscape spaced 2 rest
    | 'u' => hexEscape spaced 4 rest
    | 'U' => hexEscape spaced 8 rest
    | 'p' => propertyEscape flags false rest
    | 'P' => propertyEscape flags true rest
    | 'd' => (shorthand flags false digitSet asciiDigits).map (·, rest)
    | 'D' => (shorthand flags true digitSet asciiDigits).map (·, rest)
    | 's' => (shorthand flags false spaceSet asciiSpaces).map (·, rest)
    | 'S' => (shorthand flags true spaceSet asciiSpaces).map (·, rest)
    | 'w' => (shorthand flags false wordSet asciiWord).map (·, rest)
    | 'W' => (shorthand flags true wordSet asciiWord).map (·, rest)
    | 'a' => some (.char '\x07', rest)
    | 'f' => some (.char '\x0c', rest)
    | 't' => some (.char '\t', rest)
    | 'n' => some (.char '\n', rest)
    | 'r' => some (.char '\r', rest)
    | 'v' => some (.char '\x0b', rest)
    | 'A' => some (.look .textStart, rest)
    | 'z' => some (.look .textEnd, rest)
    | 'b' => boundaryEscape flags rest
    | 'B' => some (.look (.notBoundary w), rest)
    | '<' => some (.look (.wordStart w), rest)
    | '>' => some (.look (.wordEnd w), rest)
    | c => if isEscapable c then some (.char c, rest) else none

end RemoteTags.Pattern
