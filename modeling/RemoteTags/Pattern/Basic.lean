import RemoteTags.Unicode.Casing

/-! Patterns: regular expressions over characters, with assertions about a position. A set of
characters is kept in the form it was written in. -/

namespace RemoteTags
open Unicode

inductive CharSet where
  -- Sorted ranges of code points.
  | ranges (rs : List CodeRange)
  | union (a b : CharSet)
  | inter (a b : CharSet)
  | diff (a b : CharSet)
  | symmDiff (a b : CharSet)
  | compl (a : CharSet)
  -- All that folds to the same case as a member.
  | folded (a : CharSet)
  -- The same for the letters A to Z alone.
  | asciiFolded (a : CharSet)
deriving DecidableEq, Repr

namespace CharSet

def single (c : Char) : CharSet := .ranges [⟨c.toNat, c.toNat⟩]

def range (a b : Char) : CharSet := .ranges [⟨a.toNat, b.toNat⟩]

def none : CharSet := .ranges []

def any : CharSet := .ranges [⟨0, 0x10FFFF⟩]

def asciiOrbit (n : Nat) : List Nat :=
  if 65 ≤ n && n ≤ 90 then [n, n + 32]
  else if 97 ≤ n && n ≤ 122 then [n, n - 32]
  else [n]

def containsCode : CharSet → Nat → Bool
  | ranges rs, n => CodeRange.anyContains rs n
  | union a b, n => a.containsCode n || b.containsCode n
  | inter a b, n => a.containsCode n && b.containsCode n
  | diff a b, n => a.containsCode n && !b.containsCode n
  | symmDiff a b, n => a.containsCode n != b.containsCode n
  | compl a, n => !a.containsCode n
  | folded a, n => (foldOrbit n).any a.containsCode
  | asciiFolded a, n => (asciiOrbit n).any a.containsCode

def contains (s : CharSet) (c : Char) : Bool := s.containsCode c.toNat

@[simp] theorem contains_single (c d : Char) : (single c).contains d = decide (d = c) := by
  have h : d = c ↔ d.toNat = c.toNat := Char.toNat_inj.symm
  simp only [contains, single, containsCode, CodeRange.anyContains, Bool.or_false]
  by_cases hd : d.toNat < c.toNat
  · simp [hd, h]; omega
  · simp [hd, h]; omega

end CharSet

/-- Assertions about a position. The last six look at the characters next to it. -/
inductive Look where
  | textStart
  | textEnd
  | lineStart
  | lineEnd
  -- Line ends are a carriage return, a line feed, or both together.
  | lineStartCrlf
  | lineEndCrlf
  | boundary (word : CharSet)
  | notBoundary (word : CharSet)
  | wordStart (word : CharSet)
  | wordEnd (word : CharSet)
  | wordStartHalf (word : CharSet)
  | wordEndHalf (word : CharSet)
deriving DecidableEq, Repr

inductive Pattern where
  | empty
  | set (s : CharSet)
  | look (l : Look)
  | seq (a b : Pattern)
  | alt (a b : Pattern)
  | times (a : Pattern) (least : Nat) (most : Option Nat)
  | group (a : Pattern)
deriving DecidableEq, Repr

namespace Pattern

def ofList (items : List Pattern) : Pattern :=
  match items with
  | [] => .empty
  | _ => items.foldr seq empty

def char (c : Char) : Pattern := .set (.single c)

def literal (s : List Char) : Pattern := ofList (s.map char)

def sets : Pattern → List CharSet
  | .set s => [s]
  | .look (.boundary w) | .look (.notBoundary w) | .look (.wordStart w) | .look (.wordEnd w)
  | .look (.wordStartHalf w) | .look (.wordEndHalf w) => [w]
  | .seq a b | .alt a b => a.sets ++ b.sets
  | .times a _ _ | .group a => a.sets
  | .empty | .look _ => []

end Pattern

end RemoteTags
