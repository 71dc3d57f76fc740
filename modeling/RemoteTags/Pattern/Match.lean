import RemoteTags.Pattern.Basic

/-! Matching by sets of positions. A set of positions in a line is a number whose bit `i` says
whether position `i` belongs to it; a pattern takes the positions where a match may begin to
those where one may end. -/

namespace RemoteTags.Pattern

abbrev Positions := Nat

/-- Bit `i` says whether character `i` satisfies `p`; the lowest character comes first. -/
def bits (p : Char → Bool) : List Char → Nat
  | [] => 0
  | c :: rest => 2 * bits p rest + (p c).toNat

def wordWidth : Nat := 60

/-- The same as `bits`, built a word at a time. -/
def maskOf (p : Char → Bool) (line : List Char) : Nat :=
  if _h : line.length ≤ wordWidth then bits p line
  else bits p (line.take wordWidth) + maskOf p (line.drop wordWidth) <<< wordWidth
termination_by line.length
decreasing_by simp only [List.length_drop, wordWidth] at *; omega

/-- A line as patterns see it: its length and, for a set, the positions in front of members. -/
structure Line where
  length : Nat
  before : CharSet → Positions

namespace Line

def ofChars (line : List Char) : Line where
  length := line.length
  before s := maskOf s.contains line

/-- The same line, with the answers for `sets` worked out once. -/
def prepared (sets : List CharSet) (line : List Char) : Line :=
  let table := sets.map fun s => (s, maskOf s.contains line)
  { length := line.length
    before := fun s => match table.find? (·.1 = s) with
      | some entry => entry.2
      | none => maskOf s.contains line }

def everywhere (line : Line) : Positions := (1 <<< (line.length + 1)) - 1

def behind (line : Line) (s : CharSet) : Positions := line.before s <<< 1

def without (line : Line) (m k : Positions) : Positions := m &&& (line.everywhere ^^^ k)

def last (line : Line) : Positions := 1 <<< line.length

def satisfying (line : Line) : Look → Positions
  | .textStart => 1
  | .textEnd => line.last
  | .lineStart => 1 ||| line.behind (.single '\n')
  | .lineEnd => line.last ||| line.before (.single '\n')
  | .lineStartCrlf =>
    1 ||| line.behind (.single '\n') |||
      line.without (line.behind (.single '\r')) (line.before (.single '\n'))
  | .lineEndCrlf =>
    line.last ||| line.before (.single '\r') |||
      line.without (line.before (.single '\n')) (line.behind (.single '\r'))
  | .boundary w => line.behind w ^^^ line.before w
  | .notBoundary w => line.everywhere ^^^ (line.behind w ^^^ line.before w)
  | .wordStart w => line.without (line.before w) (line.behind w)
  | .wordEnd w => line.without (line.behind w) (line.before w)
  | .wordStartHalf w => line.everywhere ^^^ line.behind w
  | .wordEndHalf w => line.everywhere ^^^ line.before w

end Line

/-- `f` applied `n` times; a position set that `f` leaves as it is ends the count early. -/
def iterate (f : Positions → Positions) : Nat → Positions → Positions
  | 0, m => m
  | n + 1, m =>
    let next := f m
    if next = m then m else iterate f n next

/-- The union of `m`, `f m`, `f (f m)`, … with at most `n` applications. -/
def closure (f : Positions → Positions) : Nat → Positions → Positions
  | 0, m => m
  | n + 1, m =>
    let next := m ||| f m
    if next = m then m else closure f n next

/-- The positions where a match that begins in `m` may end. -/
def reach (line : Line) : Pattern → Positions → Positions
  | .empty, m => m
  | .set s, m => (m &&& line.before s) <<< 1
  | .look l, m => m &&& line.satisfying l
  | .seq a b, m =>
    let mid := a.reach line m
    if mid = 0 then 0 else b.reach line mid
  | .alt a b, m => a.reach line m ||| b.reach line m
  | .times a least most, m =>
    let start := iterate (a.reach line) least m
    match most with
    | some n => closure (a.reach line) (n - least) start
    | none => closure (a.reach line) (line.length + 1) start
  | .group a, m => a.reach line m

def matchesIn (p : Pattern) (line : Line) : Bool :=
  p.reach line line.everywhere != 0

def findLine (p : Pattern) (lines : List (List Char)) : Option Nat :=
  let sets := p.sets.eraseDups
  lines.findIdx? fun line => p.matchesIn (Line.prepared sets line)

theorem before_prepared (sets : List CharSet) (line : List Char) (s : CharSet) :
    (Line.prepared sets line).before s = (Line.ofChars line).before s := by
  simp only [Line.prepared, Line.ofChars]
  split
  · next e h =>
    have h1 := List.find?_some h
    have h2 := List.mem_of_find?_eq_some h
    simp only [decide_eq_true_eq] at h1
    simp only [List.mem_map] at h2
    obtain ⟨t, _, rfl⟩ := h2
    simp only at h1 ⊢
    rw [h1]
  · rfl

theorem prepared_eq (sets : List CharSet) (line : List Char) :
    Line.prepared sets line = Line.ofChars line := by
  have : (Line.prepared sets line).before = (Line.ofChars line).before :=
    funext (before_prepared sets line)
  cases h : Line.prepared sets line
  rw [h] at this
  simp only at this
  rw [this]
  have h' := congrArg Line.length h
  simp only [Line.prepared] at h'
  simp [Line.ofChars, h']

end RemoteTags.Pattern
