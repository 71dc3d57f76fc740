import RemoteTags.Gzip.Crc32
import RemoteTags.Gzip.Inflate

/-! Members of a gzip file: a header, a compressed stream, and a trailer with the check sum and
the size of the content. Only the first member of a file counts. -/

namespace RemoteTags.Gzip

inductive Error where
  | invalidHeader
  | fieldTooLong
  | unexpectedEnd
  | incomplete
  | corrupt
  | checksum
deriving DecidableEq, Repr

def Error.message : Error → String
  | .invalidHeader => "invalid gzip header"
  | .fieldTooLong => "gzip header field too long"
  | .unexpectedEnd => "unexpected end of file"
  | .incomplete => "incomplete deflate stream"
  | .corrupt => "corrupt deflate stream"
  | .checksum => "corrupt gzip stream does not have a matching checksum"

def takeBytes (n : Nat) (data : Bytes) : Except Error (Bytes × Bytes) :=
  if data.length < n then .error .unexpectedEnd else .ok (data.take n, data.drop n)

def littleEndian (bytes : Bytes) : Nat := bytes.foldr (fun b n => b.toNat + 256 * n) 0

def toLittleEndian : Nat → Nat → Bytes
  | 0, _ => []
  | width + 1, n => UInt8.ofNat n :: toLittleEndian width (n / 256)

def longestField : Nat := 65535

def skipText (data : Bytes) : Except Error Bytes :=
  let text := data.takeWhile (· ≠ 0)
  if longestField < text.length then .error .fieldTooLong
  else match data.drop text.length with
    | [] => .error .unexpectedEnd
    | _ :: rest => .ok rest

def hasFlag (flags : UInt8) (n : Nat) : Bool := flags.toNat.testBit n

def skipHeader (data : Bytes) : Except Error Bytes := do
  let (start, rest) ← takeBytes 10 data
  match start with
  | 0x1F :: 0x8B :: 8 :: flags :: _ =>
    if hasFlag flags 5 || hasFlag flags 6 || hasFlag flags 7 then .error .invalidHeader
    else
      let rest ← if hasFlag flags 2 then do
          let (size, rest) ← takeBytes 2 rest
          let (_, rest) ← takeBytes (littleEndian size) rest
          pure rest
        else pure rest
      let rest ← if hasFlag flags 3 then skipText rest else pure rest
      let rest ← if hasFlag flags 4 then skipText rest else pure rest
      if hasFlag flags 1 then
        let header := data.take (data.length - rest.length)
        let (sum, rest) ← takeBytes 2 rest
        if littleEndian sum = (crc32 header).toNat % 65536 then pure rest else .error .checksum
      else pure rest
  | _ => .error .invalidHeader

def checkTrailer (content rest : Bytes) : Except Error Unit := do
  let (sum, rest) ← takeBytes 4 rest
  let (size, _) ← takeBytes 4 rest
  if littleEndian sum = (crc32 content).toNat &&
      littleEndian size = content.length % 0x100000000 then
    .ok ()
  else .error .checksum

def Failure.error : Failure → Error
  | .truncated => .incomplete
  | .corrupt => .corrupt

structure Unfinished where
  -- What has come out of it before.
  part : Bytes
  error : Error
deriving DecidableEq, Repr

/-- The content of the first member. -/
def decode (data : Bytes) : Except Unfinished Bytes :=
  match skipHeader data with
  | .error e => .error ⟨[], e⟩
  | .ok stream =>
    match inflate stream with
    | .error halted => .error ⟨halted.out.toList, halted.failure.error⟩
    | .ok (content, rest) =>
      match checkTrailer content rest with
      | .error e => .error ⟨content, e⟩
      | .ok () => .ok content

def blockSize : Nat := 65535

def storedBlocks (data : Bytes) : Bytes :=
  if _h : data.length ≤ blockSize then block 1 data
  else block 0 (data.take blockSize) ++ storedBlocks (data.drop blockSize)
termination_by data.length
decreasing_by simp only [List.length_drop, blockSize] at *; omega
where
  block (last : UInt8) (part : Bytes) : Bytes :=
    last :: toLittleEndian 2 part.length ++ toLittleEndian 2 (0xFFFF - part.length) ++ part

/-- A gzip file with this content, not compressed. -/
def encode (data : Bytes) : Bytes :=
  [0x1F, 0x8B, 8, 0, 0, 0, 0, 0, 0, 0xFF] ++ storedBlocks data ++
    toLittleEndian 4 (crc32 data).toNat ++ toLittleEndian 4 data.length

end RemoteTags.Gzip
