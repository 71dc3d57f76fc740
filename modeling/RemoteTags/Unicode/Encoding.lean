import RemoteTags.Unicode.CodeRange

/-! The bytes of encoded code points: a range of code points is cut into sequences of byte
ranges, in the order of the encoded text, so that each sequence encodes all its combinations. -/

namespace RemoteTags.Unicode

def encodedLength (n : Nat) : Nat :=
  if n < 0x80 then 1 else if n < 0x800 then 2 else if n < 0x10000 then 3 else 4

def capacity : Nat → Nat
  | 0 => 1
  | k + 1 => 64 * capacity k

def followingMark : Nat := 0x80

def byteSequences (mark : Nat) : Nat → Nat → Nat → List (List CodeRange)
  | 0, a, b => [[⟨mark + a, mark + b⟩]]
  | k + 1, a, b =>
    let unit := capacity (k + 1)
    let behind (first last : Nat) (tails : List (List CodeRange)) :=
      tails.map (⟨mark + first, mark + last⟩ :: ·)
    let (high, low) := (a / unit, a % unit)
    let (highEnd, lowEnd) := (b / unit, b % unit)
    if high = highEnd then behind high high (byteSequences followingMark k low lowEnd)
    else
      let begin := if low = 0 then high else high + 1
      let stop := if lowEnd + 1 = unit then highEnd + 1 else highEnd
      (if low = 0 then []
        else behind high high (byteSequences followingMark k low (unit - 1))) ++
      (if begin < stop then
          behind begin (stop - 1) (byteSequences followingMark k 0 (unit - 1))
        else []) ++
      (if lowEnd + 1 = unit then []
        else behind highEnd highEnd (byteSequences followingMark k 0 lowEnd))

/-- Code points of one encoded length: the range, the mark of the first byte, and the number of
bytes behind it. Surrogates have no encoding. -/
def encodedForms : List (CodeRange × Nat × Nat) :=
  [(⟨0, 0x7F⟩, 0, 0), (⟨0x80, 0x7FF⟩, 0xC0, 1), (⟨0x800, 0xD7FF⟩, 0xE0, 2),
   (⟨0xE000, 0xFFFF⟩, 0xE0, 2), (⟨0x10000, 0x10FFFF⟩, 0xF0, 3)]

def CodeRange.encodings (r : CodeRange) : List (List CodeRange) :=
  encodedForms.flatMap fun (form, mark, following) =>
    let a := max r.first form.first
    let b := min r.last form.last
    if a ≤ b then byteSequences mark following a b else []

def sharedLength {α : Type} [DecidableEq α] : List α → List α → Nat
  | a :: as, b :: bs => if a = b then 1 + sharedLength as bs else 0
  | _, _ => 0

/-- The number of different beginnings, the empty one apart, in an ordered list of sequences. -/
def beginningCount {α : Type} [DecidableEq α] (before : List α) : List (List α) → Nat
  | [] => 0
  | s :: rest => s.length - sharedLength before s + beginningCount s rest

end RemoteTags.Unicode
