import RemoteTags.Gzip.Huffman

/-! Decompression of a deflate stream: blocks that are stored, or coded with a fixed or a given
pair of prefix codes for literals and lengths and for distances. -/

namespace RemoteTags.Gzip

/-- The base and the number of extra bits of a length symbol, counted from 257. -/
def lengthTable : List (Nat × Nat) :=
  [(3, 0), (4, 0), (5, 0), (6, 0), (7, 0), (8, 0), (9, 0), (10, 0), (11, 1), (13, 1), (15, 1),
   (17, 1), (19, 2), (23, 2), (27, 2), (31, 2), (35, 3), (43, 3), (51, 3), (59, 3), (67, 4),
   (83, 4), (99, 4), (115, 4), (131, 5), (163, 5), (195, 5), (227, 5), (258, 0)]

def distanceTable : List (Nat × Nat) :=
  [(1, 0), (2, 0), (3, 0), (4, 0), (5, 1), (7, 1), (9, 2), (13, 2), (17, 3), (25, 3), (33, 4),
   (49, 4), (65, 5), (97, 5), (129, 6), (193, 6), (257, 7), (385, 7), (513, 8), (769, 8),
   (1025, 9), (1537, 9), (2049, 10), (3073, 10), (4097, 11), (6145, 11), (8193, 12),
   (12289, 12), (16385, 13), (24577, 13)]

/-- The order in which the lengths of the code for lengths are given. -/
def lengthOrder : List Nat :=
  [16, 17, 18, 0, 8, 7, 9, 6, 10, 5, 11, 4, 12, 3, 13, 2, 14, 1, 15]

structure CodePair where
  literals : PrefixCode
  distances : PrefixCode

def fixedCodes : CodePair :=
  ⟨.ofLengths (List.replicate 144 8 ++ List.replicate 112 9 ++ List.replicate 24 7 ++
      List.replicate 8 8),
    .ofLengths (List.replicate 32 5)⟩

/-- Repeats what was written `distance` bytes ago, `length` bytes in all. Before the beginning
there are zeros. -/
def copyBack (distance : Nat) : Nat → Array UInt8 → Array UInt8
  | 0, out => out
  | length + 1, out =>
    let b := if distance ≤ out.size then (out[out.size - distance]?).getD 0 else 0
    copyBack distance length (out.push b)

structure Halted where
  out : Array UInt8
  failure : Failure

abbrev Expander := StateT Bits (Except Halted)

namespace Expander

def fail {α : Type} (out : Array UInt8) (f : Failure) : Expander α := fun _ => .error ⟨out, f⟩

def reading {α : Type} (out : Array UInt8) (r : BitReader α) : Expander α := fun s =>
  match r s with
  | .ok a => .ok a
  | .error f => .error ⟨out, f⟩

end Expander

def readSymbols (codes : CodePair) : Nat → Array UInt8 → Expander (Array UInt8)
  | 0, out => Expander.fail out .truncated
  | fuel + 1, out => do
    let symbol ← Expander.reading out codes.literals.decode
    if symbol < 256 then readSymbols codes fuel (out.push (UInt8.ofNat symbol))
    else if symbol = 256 then return out
    else
      match lengthTable[symbol - 257]? with
      | none => Expander.fail out .corrupt
      | some (base, extra) =>
        let length := base + (← Expander.reading out (BitReader.bits extra))
        match distanceTable[← Expander.reading out codes.distances.decode]? with
        | none => Expander.fail out .corrupt
        | some (base, extra) =>
          let distance := base + (← Expander.reading out (BitReader.bits extra))
          readSymbols codes fuel (copyBack distance length out)

/-- A block of bytes as they are: their number, its complement, the bytes. -/
def readStored : BitReader Bytes := do
  BitReader.align
  let n ← BitReader.word
  let complement ← BitReader.word
  if n + complement ≠ 0xFFFF then BitReader.fail .corrupt else BitReader.take n

/-- The lengths of two codes, written with runs; `seen` holds them newest first. -/
def readLengths (code : PrefixCode) (total : Nat) : Nat → List Nat → BitReader (List Nat)
  | 0, _ => BitReader.fail .truncated
  | fuel + 1, seen => do
    if total < seen.length then BitReader.fail .corrupt
    else if seen.length = total then return seen.reverse
    else
      let symbol ← code.decode
      if symbol < 16 then readLengths code total fuel (symbol :: seen)
      else if symbol = 16 then
        match seen with
        | [] => BitReader.fail .corrupt
        | previous :: _ =>
          let n ← BitReader.bits 2
          readLengths code total fuel (List.replicate (n + 3) previous ++ seen)
      else if symbol = 17 then
        let n ← BitReader.bits 3
        readLengths code total fuel (List.replicate (n + 3) 0 ++ seen)
      else
        let n ← BitReader.bits 7
        readLengths code total fuel (List.replicate (n + 11) 0 ++ seen)

/-- A code may leave words unused only if it has a single word or none. -/
def isUsable (c : PrefixCode) : Bool := c.isComplete || c.symbolCount ≤ 1

def readCodes (fuel : Nat) : BitReader CodePair := do
  let literalCount := 257 + (← BitReader.bits 5)
  let distanceCount := 1 + (← BitReader.bits 5)
  let lengthCount := 4 + (← BitReader.bits 4)
  if 286 < literalCount || 30 < distanceCount then BitReader.fail .corrupt
  else
    let given ← (lengthOrder.take lengthCount).mapM fun symbol => do
      return (symbol, ← BitReader.bits 3)
    let code := PrefixCode.ofLengths ((List.range 19).map fun s => (given.lookup s).getD 0)
    if !code.isComplete then BitReader.fail .corrupt
    else
      let lengths ← readLengths code (literalCount + distanceCount) fuel []
      let codes : CodePair :=
        ⟨.ofLengths (lengths.take literalCount), .ofLengths (lengths.drop literalCount)⟩
      if isUsable codes.literals && isUsable codes.distances then return codes
      else BitReader.fail .corrupt

def readBlocks (fuel : Nat) : Nat → Array UInt8 → Expander (Array UInt8)
  | 0, out => Expander.fail out .truncated
  | blocks + 1, out => do
    let last ← Expander.reading out BitReader.bit
    let kind ← Expander.reading out (BitReader.bits 2)
    let out ←
      if kind = 0 then pure (out ++ (← Expander.reading out readStored).toArray)
      else if kind = 1 then readSymbols fixedCodes fuel out
      else if kind = 2 then do
        readSymbols (← Expander.reading out (readCodes fuel)) fuel out
      else Expander.fail out .corrupt
    if last = 1 then return out else readBlocks fuel blocks out

/-- Decompresses the stream that `data` begins with, and gives what follows its last byte. -/
def inflate (data : Bytes) : Except Halted (Bytes × Bytes) := do
  let fuel := 8 * data.length + 1
  let (out, s) ← ((do
    let out ← readBlocks fuel fuel #[]
    Expander.reading out BitReader.align
    return out) : Expander (Array UInt8)) ⟨data, 0⟩
  return (out.toList, s.bytes)

end RemoteTags.Gzip
