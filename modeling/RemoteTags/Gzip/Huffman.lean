import RemoteTags.Gzip.Bits

/-! Canonical prefix codes. A code is given by the length of each symbol's word; words of one
length are consecutive numbers, and symbols of one length follow each other in order. -/

namespace RemoteTags.Gzip

def maxLength : Nat := 15

/-- A prefix code: for each length from 1 on, the symbols whose words have it. -/
structure PrefixCode where
  byLength : List (Array Nat)

namespace PrefixCode

def ofLengths (lengths : List Nat) : PrefixCode :=
  let indexed := lengths.zipIdx
  ⟨(List.range maxLength).map fun k =>
    ((indexed.filter fun e => e.1 = k + 1).map (·.2)).toArray⟩

def symbolCount (c : PrefixCode) : Nat := c.byLength.foldl (fun n symbols => n + symbols.size) 0

/-- The share of all words of the greatest length that the code uses up. -/
def weight (c : PrefixCode) : Nat :=
  c.byLength.foldl (fun total symbols => (total + symbols.size) * 2) 0

/-- Every sequence of bits begins with a word of the code, and with only one. -/
def isComplete (c : PrefixCode) : Bool := c.weight = 1 <<< (maxLength + 1)

/-- Reads the rest of a word. `code` holds the bits so far and `first` the first word of the
present length. -/
def decodeFrom (code first : Nat) : List (Array Nat) → BitReader Nat
  | [] => BitReader.fail .corrupt
  | symbols :: longer => do
    let code := code + (← BitReader.bit)
    match symbols[code - first]? with
    | some symbol =>
      if first ≤ code then return symbol
      else decodeFrom (code * 2) ((first + symbols.size) * 2) longer
    | none => decodeFrom (code * 2) ((first + symbols.size) * 2) longer

def decode (c : PrefixCode) : BitReader Nat := decodeFrom 0 0 c.byLength

end PrefixCode

end RemoteTags.Gzip
