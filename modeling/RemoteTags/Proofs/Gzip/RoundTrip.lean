import Mathlib.Algebra.Group.Nat.Defs
import RemoteTags.Gzip.Member

/-! What has been put into a gzip file without compression comes out of it again. -/

namespace RemoteTags.Gzip

theorem pure_apply {σ ε α : Type} (a : α) (s : σ) :
    (pure a : StateT σ (Except ε) α) s = .ok (a, s) := rfl

@[simp] theorem length_toLittleEndian (width n : Nat) : (toLittleEndian width n).length = width := by
  induction width generalizing n with
  | zero => rfl
  | succ width ih => simp [toLittleEndian, ih]

theorem littleEndian_toLittleEndian (width n : Nat) :
    littleEndian (toLittleEndian width n) = n % 256 ^ width := by
  induction width generalizing n with
  | zero => simp [toLittleEndian, littleEndian, Nat.mod_one]
  | succ width ih =>
    have step : littleEndian (toLittleEndian (width + 1) n) =
        (UInt8.ofNat n).toNat + 256 * littleEndian (toLittleEndian width (n / 256)) := rfl
    have power : 256 ^ (width + 1) = 256 * 256 ^ width := Nat.pow_succ'
    rw [step, ih, UInt8.toNat_ofNat', power]
    exact Nat.mod_mul.symm

theorem takeBytes_append (first rest : Bytes) :
    takeBytes first.length (first ++ rest) = .ok (first, rest) := by
  simp [takeBytes]

theorem takeBytes_toLittleEndian (width n : Nat) (rest : Bytes) :
    takeBytes width (toLittleEndian width n ++ rest) = .ok (toLittleEndian width n, rest) := by
  simpa using takeBytes_append (toLittleEndian width n) rest

theorem checkTrailer_written (content : Bytes) :
    checkTrailer content
      (toLittleEndian 4 (crc32 content).toNat ++ toLittleEndian 4 content.length) = .ok () := by
  have sum : littleEndian (toLittleEndian 4 (crc32 content).toNat) = (crc32 content).toNat := by
    rw [littleEndian_toLittleEndian]
    exact Nat.mod_eq_of_lt (crc32 content).toNat_lt
  have size : takeBytes 4 (toLittleEndian 4 content.length) =
      .ok (toLittleEndian 4 content.length, []) := by
    simpa using takeBytes_toLittleEndian 4 content.length []
  simp only [checkTrailer, takeBytes_toLittleEndian, size, bind, Except.bind, sum,
    littleEndian_toLittleEndian]
  simp

theorem skipHeader_written (rest : Bytes) :
    skipHeader ([0x1F, 0x8B, 8, 0, 0, 0, 0, 0, 0, 0xFF] ++ rest) = .ok rest := by
  have start := takeBytes_append [0x1F, 0x8B, 8, 0, 0, 0, 0, 0, 0, 0xFF] rest
  have clear (n : Nat) : hasFlag 0 n = false := by simp [hasFlag]
  simp only [List.length_cons, List.length_nil] at start
  simp only [skipHeader, start, bind, Except.bind, clear, pure, Except.pure]
  rfl

theorem word_written {n : Nat} (fits : n < 65536) (rest : Bytes) :
    BitReader.word ⟨toLittleEndian 2 n ++ rest, 0⟩ = .ok (n, ⟨rest, 0⟩) := by
  have value : n % 256 + 256 * (n / 256 % 256) = n := by omega
  simp [toLittleEndian, BitReader.word, BitReader.byte, bind, StateT.bind, Except.bind, pure_apply,
    value]

theorem readStored_written {part : Bytes} (fits : part.length ≤ blockSize) (b : UInt8)
    (rest : Bytes) :
    readStored ⟨b :: (toLittleEndian 2 part.length ++ (toLittleEndian 2 (0xFFFF - part.length) ++
      (part ++ rest))), 3⟩ = .ok (part, ⟨rest, 0⟩) := by
  have size : part.length < 65536 := by simp only [blockSize] at fits; omega
  have complement : part.length + (0xFFFF - part.length) = 0xFFFF := by omega
  simp only [readStored, bind, StateT.bind, Except.bind, BitReader.align, List.tail_cons]
  rw [if_neg (by decide), word_written size]
  dsimp only
  rw [word_written (show 0xFFFF - part.length < 65536 by omega)]
  dsimp only
  rw [if_neg (by simp [complement])]
  simp [BitReader.take]

/-- The first three bits of a stored block say whether it is the last one, and that it is stored. -/
theorem bits_of_stored (last : Bool) (rest : Bytes) :
    let b : UInt8 := if last then 1 else 0
    BitReader.bit ⟨b :: rest, 0⟩ = .ok (if last then 1 else 0, ⟨b :: rest, 1⟩) ∧
      BitReader.bits 2 ⟨b :: rest, 1⟩ = .ok (0, ⟨b :: rest, 3⟩) := by
  cases last <;> simp [BitReader.bits, BitReader.bit, bind, StateT.bind, Except.bind,
    pure_apply]

theorem readBlocks_block (fuel blocks : Nat) (out : Array UInt8) {part : Bytes}
    (fits : part.length ≤ blockSize) (last : Bool) (rest : Bytes) :
    readBlocks fuel (blocks + 1) out
        ⟨storedBlocks.block (if last then 1 else 0) part ++ rest, 0⟩ =
      if last then .ok (out ++ part.toArray, ⟨rest, 0⟩)
      else readBlocks fuel blocks (out ++ part.toArray) ⟨rest, 0⟩ := by
  have stored := readStored_written fits (if last then 1 else 0) rest
  obtain ⟨first, kind⟩ := bits_of_stored last
    (toLittleEndian 2 part.length ++ (toLittleEndian 2 (0xFFFF - part.length) ++ (part ++ rest)))
  simp only [storedBlocks.block, List.cons_append, List.append_assoc]
  simp only [readBlocks, bind, StateT.bind, Except.bind, Expander.reading, first, kind, stored,
    pure_apply, if_true]
  cases last <;> rfl

theorem length_le_storedBlocks (data : Bytes) : data.length ≤ (storedBlocks data).length := by
  induction data using storedBlocks.induct with
  | case1 data fits =>
    rw [storedBlocks, dif_pos fits]
    simp [storedBlocks.block]
    omega
  | case2 data exceeds ih =>
    rw [storedBlocks, dif_neg exceeds]
    simp only [storedBlocks.block, List.length_append, List.length_cons, List.length_take,
      List.length_drop] at ih ⊢
    omega

theorem readBlocks_storedBlocks (fuel : Nat) (data : Bytes) {blocks : Nat}
    (enough : data.length < blocks) (out : Array UInt8) (rest : Bytes) :
    readBlocks fuel blocks out ⟨storedBlocks data ++ rest, 0⟩ =
      .ok (out ++ data.toArray, ⟨rest, 0⟩) := by
  induction data using storedBlocks.induct generalizing blocks out with
  | case1 data fits =>
    obtain ⟨blocks, rfl⟩ := Nat.exists_eq_succ_of_ne_zero (Nat.ne_zero_of_lt enough)
    rw [storedBlocks, dif_pos fits]
    exact readBlocks_block fuel blocks out fits true rest
  | case2 data exceeds ih =>
    obtain ⟨blocks, rfl⟩ := Nat.exists_eq_succ_of_ne_zero (Nat.ne_zero_of_lt enough)
    -- One block is enough for each byte, since a block that is not the last one has some.
    have shorter : (data.drop blockSize).length < blocks := by
      simp only [List.length_drop, blockSize] at exceeds ⊢
      omega
    have fits : (data.take blockSize).length ≤ blockSize := List.length_take_le blockSize data
    rw [storedBlocks, dif_neg exceeds, List.append_assoc]
    refine (readBlocks_block fuel blocks out fits false _).trans ?_
    rw [if_neg Bool.false_ne_true, ih shorter]
    simp

theorem inflate_storedBlocks (data rest : Bytes) :
    inflate (storedBlocks data ++ rest) = .ok (data, rest) := by
  have enough : data.length < 8 * (storedBlocks data ++ rest).length + 1 := by
    have := length_le_storedBlocks data
    simp only [List.length_append]
    omega
  simp only [inflate, bind, StateT.bind, Except.bind,
    readBlocks_storedBlocks _ data enough #[] rest]
  simp only [Expander.reading, BitReader.align, pure_apply, List.append_toArray, List.nil_append]
  rfl

theorem decode_encode (data : Bytes) : decode (encode data) = .ok data := by
  simp only [encode, List.append_assoc, decode, skipHeader_written, inflate_storedBlocks,
    checkTrailer_written]

end RemoteTags.Gzip
