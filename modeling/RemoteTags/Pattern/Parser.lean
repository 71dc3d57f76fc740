import RemoteTags.Pattern.Bracket
import RemoteTags.Pattern.Cost

/-! Reading a pattern. The reader keeps the groups that are still open, each with the flags to go
back to, and for the innermost one the alternatives and the items read so far. -/

namespace RemoteTags.Pattern
open Unicode

structure Item where
  pattern : Pattern
  -- How deep sequences, alternatives, repetitions, groups and brackets are nested in it.
  depth : Nat
  -- A repetition may follow; not so behind flags.
  repeatable : Bool := true

def nestingLimit : Nat := 250

/-- Alternatives and items are held newest first. -/
structure Level where
  flags : Flags
  alternatives : List Item := []
  items : List Item := []

namespace Item

def plain (p : Pattern) : Item := ⟨p, 0, true⟩

def maxDepth (items : List Item) : Nat := items.foldl (fun n i => max n i.depth) 0

def sequence (items : List Item) : Item :=
  match items with
  | [] => ⟨.empty, 0, false⟩
  | [i] => i
  | _ => ⟨ofList (items.reverse.map (·.pattern)), 1 + maxDepth items, true⟩

def alternatives (items : List Item) : Item :=
  match items with
  | [i] => i
  | [] => ⟨.empty, 0, true⟩
  | i :: rest =>
    ⟨rest.foldl (fun p a => .alt a.pattern p) i.pattern, 1 + maxDepth items, true⟩

end Item

structure Reader where
  level : Level := { flags := {} }
  outer : List Level := []
  names : List (List Char) := []

namespace Reader

def flags (r : Reader) : Flags := r.level.flags

def add (r : Reader) (i : Item) : Reader :=
  { r with level := { r.level with items := i :: r.level.items } }

def addPattern (r : Reader) (p : Pattern) : Reader := r.add (.plain p)

def alternate (r : Reader) : Reader :=
  { r with level := { r.level with
      alternatives := .sequence r.level.items :: r.level.alternatives, items := [] } }

def whole (r : Reader) : Item :=
  .alternatives (.sequence r.level.items :: r.level.alternatives)

def openGroup (r : Reader) (flags : Flags) : Reader :=
  { r with level := { flags := flags }, outer := r.level :: r.outer }

def closeGroup? (r : Reader) : Option Reader :=
  match r.outer with
  | [] => none
  | level :: outer =>
    let inner := r.whole
    some (({ r with level := level, outer := outer } : Reader).add
      ⟨.group inner.pattern, inner.depth + 1, true⟩)

def repeatLast? (r : Reader) (least : Nat) (most : Option Nat) : Option Reader :=
  match r.level.items with
  | [] => none
  | i :: rest =>
    if i.repeatable then
      some { r with level := { r.level with
        items := ⟨.times i.pattern least most, i.depth + 1, true⟩ :: rest } }
    else none

def character (flags : Flags) (c : Char) : Pattern :=
  if !flags.ignoreCase then char c
  else if flags.unicode then
    if (foldOrbit c.toNat).length ≤ 1 then char c else .set (.folded (.single c))
  else if (CharSet.asciiOrbit c.toNat).length ≤ 1 then char c
  else .set (.asciiFolded (.single c))

def anyCharacter? (flags : Flags) : Option Pattern :=
  if !flags.unicode then none
  else if flags.dotAll then some (.set .any)
  else if flags.crlf then some (.set (.compl (.ranges [⟨10, 10⟩, ⟨13, 13⟩])))
  else some (.set (.compl (.single '\n')))

def startLook (flags : Flags) : Look :=
  if !flags.multiLine then .textStart else if flags.crlf then .lineStartCrlf else .lineStart

def endLook (flags : Flags) : Look :=
  if !flags.multiLine then .textEnd else if flags.crlf then .lineEndCrlf else .lineEnd

def escapePattern (flags : Flags) : Escape → Option Pattern
  | .char c => some (character flags c)
  | .byte c => if flags.unicode || c.toNat < 128 then some (character flags c) else none
  | .set s => some (.set s)
  | .look l => some (.look l)

end Reader

def isNameStart (c : Char) : Bool :=
  c = '_' || CodeRange.anyContains Property.alphabetic.ranges c.toNat

def isNameCharacter (c : Char) : Bool :=
  isNameStart c || c = '.' || c = '[' || c = ']' || numbers.any fun g => g.contains c.toNat

def groupName? (s : List Char) : Option (List Char × List Char) :=
  match Text.cut '>' s with
  | some (c :: name, rest) =>
    if isNameStart c && name.all isNameCharacter then some (c :: name, rest) else none
  | _ => none

def readOpening (r : Reader) (s : List Char) : Option (Reader × List Char) :=
  let named (s : List Char) : Option (Reader × List Char) := do
    let (name, rest) ← groupName? s
    if r.names.contains name then none
    else some (({ r with names := name :: r.names } : Reader).openGroup r.flags, rest)
  match s with
  | '?' :: '=' :: _ | '?' :: '!' :: _ | '?' :: '<' :: '=' :: _ | '?' :: '<' :: '!' :: _ => none
  | '?' :: 'P' :: '<' :: rest => named rest
  | '?' :: '<' :: rest => named rest
  | '?' :: rest => do
    let list ← readFlags r.flags rest
    if list.opensGroup then some (r.openGroup list.flags, list.rest)
    else if list.isEmpty then none
    else
      let r : Reader := { r with level := { r.level with flags := list.flags } }
      some (r.add ⟨.empty, 0, false⟩, list.rest)
  | rest => some (r.openGroup r.flags, rest)

def countLimit : Nat := 0xFFFFFFFF

def readCount (spaced : Bool) (s : List Char) : Option (Nat × List Char) :=
  let s := s.dropWhile Text.isBlank
  let (digits, rest) := go [] s.length s
  let rest := if spaced then skipSpace true (rest.dropWhile Text.isBlank)
    else rest.dropWhile Text.isBlank
  if digits.isEmpty then none
  else
    let n := digits.foldl (fun n c => n * 10 + (c.toNat - 48)) 0
    if n ≤ countLimit then some (n, rest) else none
where
  go (digits : List Char) : Nat → List Char → List Char × List Char
    | 0, s => (digits.reverse, s)
    | fuel + 1, s =>
      match s with
      | c :: rest =>
        if '0' ≤ c && c ≤ '9' then go (c :: digits) fuel (skipSpace spaced rest)
        else (digits.reverse, s)
      | [] => (digits.reverse, s)

def readBounds (spaced : Bool) (s : List Char) : Option (Nat × Option Nat × List Char) := do
  let (least, s) ← readCount spaced (skipSpace spaced s)
  match s with
  | ',' :: s =>
    match skipSpace spaced s with
    | '\x7d' :: rest => return (least, none, rest)
    | s =>
      let (most, s) ← readCount spaced s
      match s with
      | '\x7d' :: rest => if least ≤ most then return (least, some most, rest) else none
      | _ => none
  | '\x7d' :: rest => return (least, some least, rest)
  | _ => none

/-- A question mark behind a repetition only changes which match is preferred. -/
def skipLazy : List Char → List Char
  | '?' :: rest => rest
  | rest => rest

def readUncounted (r : Reader) (least : Nat) (most : Option Nat) (rest : List Char) :
    Option (Reader × List Char) :=
  (r.repeatLast? least most).map (·, skipLazy rest)

def readItem (r : Reader) (c : Char) (rest : List Char) : Option (Reader × List Char) :=
  let spaced := r.flags.spaced
  match c with
  | '(' => readOpening r (skipSpace spaced rest)
  | ')' => r.closeGroup?.map (·, rest)
  | '|' => some (r.alternate, rest)
  | '[' => do
    let (found, rest) ← readSet r.flags rest
    return (r.add ⟨.set found.members, found.depth, true⟩, rest)
  | '?' => readUncounted r 0 (some 1) rest
  | '*' => readUncounted r 0 none rest
  | '+' => readUncounted r 1 none rest
  | '\x7b' => do
    let (least, most, rest) ← readBounds spaced rest
    return (← r.repeatLast? least most, skipLazy (skipSpace spaced rest))
  | '.' => (Reader.anyCharacter? r.flags).map fun p => (r.addPattern p, rest)
  | '^' => some (r.addPattern (.look (Reader.startLook r.flags)), rest)
  | '$' => some (r.addPattern (.look (Reader.endLook r.flags)), rest)
  | '\\' => do
    let (e, rest) ← readEscape r.flags rest
    return (r.addPattern (← Reader.escapePattern r.flags e), rest)
  | c => some (r.addPattern (Reader.character r.flags c), rest)

/-- Reads items until the text ends. Each takes at least one character, so that `fuel`, the
length of the text, is enough. -/
def readItems : Nat → Reader → List Char → Option Reader
  | fuel, r, s =>
    match skipSpace r.flags.spaced s with
    | [] => some r
    | c :: rest =>
      match fuel with
      | 0 => none
      | fuel + 1 => do
        let (r, rest) ← readItem r c rest
        readItems fuel r rest

/-- Reads a whole pattern, or nothing if it is not one. -/
def parse (s : List Char) : Option Pattern := do
  let r ← readItems s.length {} s
  if r.outer.isEmpty then
    let item := r.whole
    if item.depth ≤ nestingLimit && item.pattern.isAffordable then some item.pattern else none
  else none

end RemoteTags.Pattern
