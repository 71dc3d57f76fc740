import RemoteTags.Text.Utf8

/-! Bits of a compressed stream, the lowest of each byte first. -/

namespace RemoteTags.Gzip

inductive Failure where
  | truncated
  | corrupt
deriving DecidableEq, Repr

/-- The bytes that are left, and how many bits of the first one have been used. -/
structure Bits where
  bytes : Bytes
  used : Nat := 0

abbrev BitReader := StateT Bits (Except Failure)

namespace BitReader

def fail {α : Type} (f : Failure) : BitReader α := fun _ => .error f

def bit : BitReader Nat := fun s =>
  match s.bytes with
  | [] => .error .truncated
  | b :: rest =>
    let v := b.toNat >>> s.used % 2
    .ok (v, if s.used < 7 then ⟨b :: rest, s.used + 1⟩ else ⟨rest, 0⟩)

/-- A number of `n` bits, the lowest first. -/
def bits : Nat → BitReader Nat
  | 0 => return 0
  | n + 1 => do
    let b ← bit
    let high ← bits n
    return b + 2 * high

def align : BitReader Unit := fun s =>
  .ok ((), if s.used = 0 then s else ⟨s.bytes.tail, 0⟩)

def byte : BitReader UInt8 := fun s =>
  match s.bytes with
  | [] => .error .truncated
  | b :: rest => .ok (b, ⟨rest, 0⟩)

def take (n : Nat) : BitReader Bytes := fun s =>
  let data := s.bytes.take n
  if data.length = n then .ok (data, ⟨s.bytes.drop n, 0⟩) else .error .truncated

def word : BitReader Nat := do
  let low ← byte
  let high ← byte
  return low.toNat + 256 * high.toNat

end BitReader

/-- How many bits are left; no reader needs more steps than that. -/
def Bits.left (s : Bits) : Nat := 8 * s.bytes.length - s.used

end RemoteTags.Gzip
