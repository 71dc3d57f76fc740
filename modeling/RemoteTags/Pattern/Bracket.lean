import RemoteTags.Pattern.Escape

/-! Sets in brackets: members, ranges, nested brackets, and the operators `&&`, `--` and `~~`,
which all bind equally and group to the left. -/

namespace RemoteTags.Pattern

structure Nested where
  members : CharSet
  depth : Nat

inductive SetOperator where
  | intersection
  | difference
  | symmetric
deriving DecidableEq, Repr

inductive BracketFrame where
  -- A bracket, and the members read before it in the one around it.
  | bracket (outer : List Nested) (negated : Bool)
  | operand (op : SetOperator) (left : Nested)

namespace Nested

def unite (items : List Nested) : Nested :=
  match items with
  | [] => ⟨.none, 0⟩
  | [a] => a
  | _ => ⟨unionOf (items.reverse.map (·.members)), 1 + items.foldl (fun n a => max n a.depth) 0⟩

/-- Case folding comes before an operator is applied, and again before a negation. -/
def combine (flags : Flags) (op : SetOperator) (a b : Nested) : Nested :=
  let l := withFlags flags false a.members
  let r := withFlags flags false b.members
  let members := match op with
    | .intersection => .inter l r
    | .difference => .diff l r
    | .symmetric => .symmDiff l r
  ⟨members, 1 + max a.depth b.depth⟩

end Nested

def closeOperands (flags : Flags) (right : Nested) : List BracketFrame →
    Nested × List BracketFrame
  | .operand op left :: rest => closeOperands flags (.combine flags op left right) rest
  | frames => (right, frames)

/-- Reads `[`, an optional `^`, hyphens, and a `]` that comes first and so stands for itself. -/
def openBracket (flags : Flags) (s : List Char) : Option (Bool × List Nested × List Char) :=
  let (negated, s) := match s with
    | '^' :: rest => (true, skipSpace flags.spaced rest)
    | _ => (false, s)
  let hyphen : Nested := ⟨.single '-', 0⟩
  let rec hyphens (items : List Nested) : Nat → List Char → List Nested × List Char
    | 0, s => (items, s)
    | fuel + 1, s =>
      match s with
      | '-' :: rest => hyphens (hyphen :: items) fuel (skipSpace flags.spaced rest)
      | _ => (items, s)
  let (items, s) := hyphens [] s.length s
  match items, s with
  | _, [] => none
  | [], ']' :: rest => some (negated, [⟨.single ']', 0⟩], skipSpace flags.spaced rest)
  | _, _ => some (negated, items, s)

def namedBracket (flags : Flags) (s : List Char) : Option (Option Nested × List Char) :=
  match s with
  | ':' :: s =>
    let (negated, s) := match s with
      | '^' :: rest => (true, rest)
      | _ => (false, s)
    match Text.cut ':' s with
    | some (name, ']' :: rest) =>
      (bracketClass? (String.ofList name)).map fun members =>
        if negated && !flags.unicode then (none, rest)
        else (some ⟨withFlags flags negated members, 0⟩, rest)
    | _ => none
  | _ => none

def bracketItem (flags : Flags) : List Char → Option (Escape × List Char)
  | '\\' :: rest => readEscape flags rest
  | c :: rest => some (.char c, rest)
  | [] => none

def itemChar (flags : Flags) : Escape → Option Char
  | .char c => if flags.unicode || c.toNat < 128 then some c else none
  | .byte c => if flags.unicode || c.toNat < 128 then some c else none
  | _ => none

def itemSet (flags : Flags) : Escape → Option CharSet
  | .set s => some s
  | .look _ => none
  | e => (itemChar flags e).map .single

/-- A member or a range. A hyphen before a closing bracket or another hyphen makes no range. -/
def bracketRange (flags : Flags) (s : List Char) : Option (Nested × List Char) := do
  let (first, rest) ← bracketItem flags s
  let rest := skipSpace flags.spaced rest
  match rest with
  | [] => none
  | '-' :: after =>
    let after := skipSpace flags.spaced after
    match after with
    | [] => none
    | ']' :: _ => return (⟨← itemSet flags first, 0⟩, rest)
    | '-' :: _ => return (⟨← itemSet flags first, 0⟩, rest)
    | _ =>
      let (second, rest) ← bracketItem flags after
      let a ← itemChar flags first
      let b ← itemChar flags second
      if a ≤ b then return (⟨.range a b, 0⟩, rest) else none
  | _ => return (⟨← itemSet flags first, 0⟩, rest)

def operator? : List Char → Option (SetOperator × List Char)
  | '&' :: '&' :: rest => some (.intersection, rest)
  | '-' :: '-' :: rest => some (.difference, rest)
  | '~' :: '~' :: rest => some (.symmetric, rest)
  | _ => none

def readBracket (flags : Flags) : Nat → List BracketFrame → List Nested → List Char →
    Option (Nested × List Char)
  | 0, _, _, _ => none
  | fuel + 1, frames, items, s =>
    match skipSpace flags.spaced s with
    | [] => none
    | '[' :: rest =>
      match namedBracket flags rest with
      | some (some item, rest) => readBracket flags fuel frames (item :: items) rest
      | some (none, _) => none
      | none => do
        let (negated, inner, rest) ← openBracket flags (skipSpace flags.spaced rest)
        readBracket flags fuel (.bracket items negated :: frames) inner rest
    | ']' :: rest =>
      let (whole, frames) := closeOperands flags (.unite items) frames
      match frames with
      | .bracket outer negated :: frames =>
        if negated && !flags.unicode then none
        else
          let closed : Nested := ⟨withFlags flags negated whole.members, whole.depth + 1⟩
          if frames.isEmpty then some (closed, rest)
          else readBracket flags fuel frames (closed :: outer) rest
      | _ => none
    | s =>
      match operator? s with
      | some (op, rest) =>
        let (left, frames) := closeOperands flags (.unite items) frames
        readBracket flags fuel (.operand op left :: frames) [] rest
      | none => do
        let (item, rest) ← bracketRange flags s
        readBracket flags fuel frames (item :: items) rest

def readSet (flags : Flags) (s : List Char) : Option (Nested × List Char) := do
  let (negated, items, rest) ← openBracket flags (skipSpace flags.spaced s)
  readBracket flags (rest.length + 1) [.bracket [] negated] items rest

end RemoteTags.Pattern
