import RemoteTags.Pattern.Basic
import RemoteTags.Unicode.Encoding

/-! What a pattern costs: the bytes of the two automata that read encoded text, one forwards and
one backwards, in which each repetition is written out. Literal text is charged by its bytes, a set
by the byte sequences of its ranges. The charge is approximate: the few states that every automaton
has besides, to search at any place and to record the match, are not counted. -/

namespace RemoteTags
open Unicode

/-- The automaton that reads backwards does not record where groups begin and end. -/
inductive Direction where
  | forward
  | backward
deriving DecidableEq, Repr

/-- A state, an edge of a state that has many, and one more way out of a state. -/
def stateCost : Nat := 32
def edgeCost : Nat := 8
def exitCost : Nat := 4

namespace CharSet

/-- Sets of more members are taken to be closed under case folding. -/
def foldedSize : Nat := 64

def spread (orbit : Nat → List Nat) (rs : List CodeRange) : List CodeRange :=
  if CodeRange.size rs ≤ foldedSize then
    CodeRange.ofCodes (rs.flatMap fun r => r.members.flatMap orbit)
  else rs

def ordered : CharSet → List CodeRange
  | .ranges rs => CodeRange.join rs
  | .union a b => CodeRange.union a.ordered b.ordered
  | .inter a b => CodeRange.inter a.ordered b.ordered
  | .diff a b => CodeRange.inter a.ordered (CodeRange.complement b.ordered)
  | .symmDiff a b =>
    CodeRange.union (CodeRange.inter a.ordered (CodeRange.complement b.ordered))
      (CodeRange.inter b.ordered (CodeRange.complement a.ordered))
  | .compl a => CodeRange.complement a.ordered
  | .folded a => spread foldOrbit a.ordered
  | .asciiFolded a => spread asciiOrbit a.ordered

/-- Read backwards, sequences share the states of a common beginning. Read forwards they share
those of a common ending and have fewer states with many edges, which saves about half. -/
def sequencesCost (d : Direction) (sequences : List (List CodeRange)) : Nat :=
  let full := stateCost * beginningCount [] sequences + exitCost * sequences.length
  match d with
  | .forward => full / 2
  | .backward => full

def rangesCost (d : Direction) : List CodeRange → Nat
  | [] => stateCost
  | [⟨a, b⟩] =>
    if a = b then stateCost * encodedLength a
    else if b < 0x80 then 2 * stateCost + edgeCost
    else 2 * stateCost + sequencesCost d (CodeRange.encodings ⟨a, b⟩)
  | rs =>
    if rs.all (·.last < 0x80) then 2 * stateCost + edgeCost * rs.length
    else 2 * stateCost + sequencesCost d (rs.flatMap CodeRange.encodings)

def cost (d : Direction) (s : CharSet) : Nat := rangesCost d s.ordered

end CharSet

namespace Pattern

def isEmptyOnly : Pattern → Bool
  | .empty | .look _ => true
  | .set _ => false
  | .seq a b | .alt a b => a.isEmptyOnly && b.isEmptyOnly
  | .times a _ most => most = some 0 || a.isEmptyOnly
  | .group a => a.isEmptyOnly

def forkCost : Nat := stateCost + 2 * exitCost

def choiceCost : Nat := 2 * stateCost

/-- What an alternative adds to a choice. A choice among the alternatives is the same choice. -/
def alternativeCost (p : Pattern) (cost : Nat) : Nat :=
  match p with
  | .alt _ _ => cost - choiceCost
  | _ => cost + exitCost

/-- What all copies cost. An empty match is not repeated. -/
def timesCost (emptyOnly : Bool) (each least : Nat) (most : Option Nat) : Nat :=
  if emptyOnly then each + forkCost
  else match most with
    | some most =>
      most * each + (if least < most then (most - least) * forkCost + stateCost else 0)
    | none => max least 1 * each + forkCost

def cost (d : Direction) : Pattern → Nat
  | .empty => 0
  | .set s => s.cost d
  | .look _ => stateCost
  | .seq a b => a.cost d + b.cost d
  | .alt a b => choiceCost + alternativeCost a (a.cost d) + alternativeCost b (b.cost d)
  | .times a least most => timesCost a.isEmptyOnly (a.cost d) least most
  | .group a => a.cost d + if d = .forward then 2 * stateCost else 0

def costLimit : Nat := 10 * 1024 * 1024

def isAffordable (p : Pattern) : Bool :=
  p.cost .forward ≤ costLimit && p.cost .backward ≤ costLimit

@[simp] theorem cost_char (d : Direction) (c : Char) :
    (char c).cost d = stateCost * encodedLength c.toNat := by
  simp [char, CharSet.single, cost, CharSet.cost, CharSet.ordered, CharSet.rangesCost]

theorem cost_literal (d : Direction) (s : List Char) :
    (literal s).cost d =
      s.foldr (fun c n => stateCost * encodedLength c.toNat + n) 0 := by
  have h : ∀ t : List Char, ((t.map char).foldr Pattern.seq .empty).cost d =
      t.foldr (fun c n => stateCost * encodedLength c.toNat + n) 0 := by
    intro t
    induction t with
    | nil => rfl
    | cons c t ih => simp [cost, ih]
  cases s with
  | nil => rfl
  | cons c s => exact h (c :: s)

end Pattern

end RemoteTags
