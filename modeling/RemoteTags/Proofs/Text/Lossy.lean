import RemoteTags.Proofs.Text.Split
import RemoteTags.Proofs.Text.Utf8

/-! A byte below 128 is a character of its own wherever it stands, also behind the first bytes of
another character. So bytes that are cut at it are decoded piece by piece, and what has to be
replaced stays within its piece. -/

namespace RemoteTags.Utf8

section Wide

variable {u : Unfinished} {b : UInt8}

/-- The next byte is at least 128, and so is the code of the character in the end. -/
structure Unfinished.Wide (u : Unfinished) : Prop where
  tail : 0x80 ≤ u.low.toNat
  next : 2 ≤ u.code * 64 + (u.low.toNat - 0x80)
  code : u.due = 1 → 2 ≤ u.code

theorem wide_of_lead (opens : lead b = .opens u) : u.Wide := by
  rcases lead_cases b with
    ascii | stray | ⟨n, byte, first, last⟩ | ⟨n, byte, last⟩ | ⟨n, byte, last⟩
  · rw [lead_one rfl ascii] at opens
    cases opens
  · rw [stray] at opens
    cases opens
  · rw [lead_two byte first last] at opens
    cases opens
    refine ⟨Nat.le_refl 0x80, ?_, fun _ => first⟩
    dsimp only
    omega
  · rw [lead_three byte last] at opens
    cases opens
    refine ⟨?_, ?_, nofun⟩
    · dsimp only
      split <;> decide
    · dsimp only
      split <;> simp <;> omega
  · rw [lead_four byte last] at opens
    cases opens
    refine ⟨?_, ?_, nofun⟩
    · dsimp only
      split <;> decide
    · dsimp only
      split <;> simp <;> omega

namespace Unfinished.Wide

theorem le_codeWith (wide : u.Wide) (takes : u.Takes b) : 2 ≤ u.codeWith b := by
  have low := UInt8.le_iff_toNat_le.1 takes.1
  have next := wide.next
  unfold codeWith
  omega

theorem continued (wide : u.Wide) (takes : u.Takes b) :
    Wide ⟨u.codeWith b, u.due - 1, 0x80, 0xBF⟩ where
  tail := Nat.le_refl 0x80
  next := by
    have least := wide.le_codeWith takes
    dsimp only
    omega
  code _ := wide.le_codeWith takes

theorem refuses (wide : u.Wide) (ascii : b.toNat < 0x80) : ¬u.Takes b := by
  intro takes
  have low := UInt8.le_iff_toNat_le.1 takes.1
  have tail := wide.tail
  omega

theorem ended (wide : u.Wide) (one : u.due = 1) : 0x80 ≤ u.codeWith b := by
  have code := wide.code one
  unfold codeWith
  omega

end Unfinished.Wide

end Wide

theorem char_of_lead {b : UInt8} {c : Char} (char : lead b = .char c) : c = Char.ofNat b.toNat := by
  by_cases ascii : b.toNat < 0x80
  · rw [lead_one rfl ascii] at char
    exact (Lead.char.inj char).symm
  · unfold lead at char
    grind

theorem eq_of_ofNat_eq_feed {n : Nat} (feed : Char.ofNat n = '\n') : n = 10 := by
  by_cases valid : n.isValidChar
  · rw [Char.ofNat, dif_pos valid] at feed
    exact congrArg Char.toNat feed
  · rw [Char.ofNat, dif_neg valid] at feed
    exact absurd feed (by decide)

namespace Decoder

variable {d e : Decoder} {b : UInt8} {older : List Char}

theorem step_cases (d : Decoder) (b : UInt8) :
    d.step b = d.finish.begin b ∨ ∃ u, d.unfinished = some u ∧ u.Takes b ∧
      d.step b = if u.due = 1 then d.emit (Char.ofNat (u.codeWith b))
        else { d with unfinished := some ⟨u.codeWith b, u.due - 1, 0x80, 0xBF⟩ } := by
  cases opens : d.unfinished with
  | none =>
    refine .inl ?_
    rw [step_idle opens, finish, opens]
    rfl
  | some u =>
    by_cases takes : u.Takes b
    · exact .inr ⟨u, rfl, takes, step_takes opens takes⟩
    · refine .inl ?_
      rw [step_refuses opens takes, finish, opens]
      rfl

def Ripe (d : Decoder) : Prop := ∀ u, d.unfinished = some u → u.Wide

theorem ripe_begin (d : Decoder) (b : UInt8) : (d.begin b).Ripe := by
  intro u opened
  unfold begin at opened
  split at opened
  · cases opened
  · rename_i opens
    rw [← Option.some.inj opened]
    exact wide_of_lead opens
  · cases opened

theorem Ripe.step (ripe : d.Ripe) (b : UInt8) : (d.step b).Ripe := by
  rcases d.step_cases b with anew | ⟨u, opens, takes, onward⟩
  · rw [anew]
    exact ripe_begin d.finish b
  · rw [onward]
    split
    · exact nofun
    · intro v continues
      rw [← Option.some.inj continues]
      exact (ripe u opens).continued takes

theorem Ripe.foldl (ripe : d.Ripe) (bytes : Bytes) : (bytes.foldl Decoder.step d).Ripe := by
  induction bytes generalizing d with
  | nil => exact ripe
  | cons b bytes ih => exact ih (ripe.step b)

theorem Ripe.step_ascii (ripe : d.Ripe) (ascii : b.toNat < 0x80) :
    d.step b = d.finish.emit (Char.ofNat b.toNat) := by
  rcases d.step_cases b with anew | ⟨u, opens, takes, _⟩
  · rw [anew, begin, lead_one rfl ascii]
  · exact absurd takes ((ripe u opens).refuses ascii)

structure Atop (older : List Char) (d e : Decoder) : Prop where
  unfinished : e.unfinished = d.unfinished
  text : e.text = d.text ++ older

namespace Atop

theorem emit (atop : Atop older d e) (c : Char) : Atop older (d.emit c) (e.emit c) :=
  ⟨rfl, congrArg (c :: ·) atop.text⟩

theorem replace (atop : Atop older d e) : Atop older d.replace e.replace :=
  ⟨rfl, congrArg (replacement :: ·) atop.text⟩

theorem finish (atop : Atop older d e) : Atop older d.finish e.finish := by
  unfold Decoder.finish
  rw [atop.unfinished]
  split
  · exact atop.replace
  · exact atop

theorem begin (atop : Atop older d e) (b : UInt8) : Atop older (d.begin b) (e.begin b) := by
  unfold Decoder.begin
  split
  · exact atop.emit _
  · exact ⟨rfl, atop.text⟩
  · exact atop.replace

theorem step (atop : Atop older d e) (b : UInt8) : Atop older (d.step b) (e.step b) := by
  unfold Decoder.step
  rw [atop.unfinished]
  split
  · exact atop.begin b
  · split
    · dsimp only
      split
      · exact atop.emit _
      · exact ⟨rfl, atop.text⟩
    · exact atop.replace.begin b

theorem foldl (atop : Atop older d e) (bytes : Bytes) :
    Atop older (bytes.foldl Decoder.step d) (bytes.foldl Decoder.step e) := by
  induction bytes generalizing d e with
  | nil => exact atop
  | cons b bytes ih => exact ih (atop.step b)

end Atop

/-- Nothing that has been read is a line feed, nor can it become one. -/
structure OneLine (d : Decoder) : Prop where
  ripe : d.Ripe
  text : '\n' ∉ d.text

namespace OneLine

theorem emit (line : d.OneLine) {n : Nat} (other : n ≠ 10) : (d.emit (Char.ofNat n)).OneLine := by
  refine ⟨nofun, ?_⟩
  rw [Decoder.emit, List.mem_cons, not_or]
  exact ⟨fun same => other (eq_of_ofNat_eq_feed same.symm), line.text⟩

theorem replace (line : d.OneLine) : d.replace.OneLine := by
  refine ⟨nofun, ?_⟩
  rw [Decoder.replace, List.mem_cons, not_or]
  exact ⟨by decide, line.text⟩

theorem finish (line : d.OneLine) : d.finish.OneLine := by
  unfold Decoder.finish
  split
  · exact line.replace
  · exact line

theorem begin (line : d.OneLine) (other : b ≠ 10) : (d.begin b).OneLine := by
  refine ⟨d.ripe_begin b, ?_⟩
  unfold Decoder.begin
  split
  · rename_i char
    rw [char_of_lead char]
    exact (line.emit fun same => other (UInt8.toNat_inj.1 same)).text
  · exact line.text
  · exact line.replace.text

theorem step (line : d.OneLine) (other : b ≠ 10) : (d.step b).OneLine := by
  rcases d.step_cases b with anew | ⟨u, opens, takes, onward⟩
  · rw [anew]
    exact line.finish.begin other
  · refine ⟨line.ripe.step b, ?_⟩
    rw [onward]
    split
    · rename_i one
      have high := (line.ripe u opens).ended (b := b) one
      exact (line.emit (by omega)).text
    · exact line.text

theorem foldl {bytes : Bytes} (line : d.OneLine) (absent : 10 ∉ bytes) :
    (bytes.foldl Decoder.step d).OneLine := by
  induction bytes generalizing d with
  | nil => exact line
  | cons b bytes ih =>
    rw [List.mem_cons, not_or] at absent
    exact ih (line.step (Ne.symm absent.1)) absent.2

end OneLine

end Decoder

theorem not_mem_decodeLossy {bytes : Bytes} (absent : 10 ∉ bytes) : '\n' ∉ decodeLossy bytes := by
  have line : Decoder.OneLine {} := ⟨nofun, List.not_mem_nil⟩
  rw [decodeLossy, List.mem_reverse]
  exact (line.foldl absent).finish.text

theorem decodeLossy_append {b : UInt8} (ascii : b.toNat < 0x80) (before after : Bytes) :
    decodeLossy (before ++ b :: after) =
      decodeLossy before ++ Char.ofNat b.toNat :: decodeLossy after := by
  have ripe : (before.foldl Decoder.step {}).Ripe := Decoder.Ripe.foldl (d := {}) nofun before
  -- What is unfinished is given up at `b`, so that `after` is read as from the beginning.
  generalize cut : Char.ofNat b.toNat :: (Decoder.run before).text = older
  have atop : Decoder.Atop older {} ((before.foldl Decoder.step {}).step b) := by
    rw [ripe.step_ascii ascii, ← cut]
    exact ⟨rfl, rfl⟩
  have whole : (Decoder.run (before ++ b :: after)).text = (Decoder.run after).text ++ older := by
    rw [Decoder.run, List.foldl_append, List.foldl_cons]
    exact (atop.foldl after).finish.text
  rw [decodeLossy, whole, List.reverse_append, ← cut, List.reverse_cons, List.append_assoc]
  rfl

theorem decodeLossy_intercalate (pieces : List Bytes) :
    decodeLossy ([10].intercalate pieces) = ['\n'].intercalate (pieces.map decodeLossy) := by
  induction pieces with
  | nil => rfl
  | cons piece pieces ih =>
    cases pieces with
    | nil => simp
    | cons next pieces =>
      rw [List.intercalate_cons_cons, List.append_assoc, List.singleton_append,
        decodeLossy_append (by decide), ih]
      simp only [List.map_cons, List.intercalate_cons_cons, List.append_assoc]
      rfl

theorem splitOn_decodeLossy (bytes : Bytes) :
    (decodeLossy bytes).splitOn '\n' = (bytes.splitOn 10).map decodeLossy := by
  have plain : ∀ line ∈ (bytes.splitOn 10).map decodeLossy, '\n' ∉ line := by
    intro line here
    obtain ⟨piece, inBytes, rfl⟩ := List.mem_map.1 here
    exact not_mem_decodeLossy (Text.not_mem_of_mem_splitOn inBytes)
  have some : (bytes.splitOn 10).map decodeLossy ≠ [] := by simp
  rw [← List.splitOn_intercalate '\n' plain some, ← decodeLossy_intercalate,
    List.intercalate_splitOn]

section Returns

def withReturns (bytes : Bytes) : Bytes := bytes.flatMap fun b => if b = 10 then [13, 10] else [b]

theorem withReturns_intercalate_cons_cons {piece : Bytes} (plain : 10 ∉ piece) (next : Bytes)
    (pieces : List Bytes) :
    withReturns ([10].intercalate (piece :: next :: pieces)) =
      piece ++ 13 :: 10 :: withReturns ([10].intercalate (next :: pieces)) := by
  simp only [withReturns, List.intercalate_cons_cons, List.flatMap_append,
    Text.flatMap_of_not_mem plain, List.append_assoc]
  rfl

theorem decodeLossy_withReturns_intercalate {pieces : List Bytes}
    (plain : ∀ piece ∈ pieces, 10 ∉ piece) :
    decodeLossy (withReturns ([10].intercalate pieces)) =
      (decodeLossy ([10].intercalate pieces)).flatMap
        fun c => if c = '\n' then ['\r', '\n'] else [c] := by
  induction pieces with
  | nil => rfl
  | cons piece pieces ih =>
    obtain ⟨first, others⟩ := List.forall_mem_cons.1 plain
    have same := Text.flatMap_of_not_mem (t := ['\r', '\n']) (not_mem_decodeLossy first)
    cases pieces with
    | nil => rw [List.intercalate_singleton, withReturns, Text.flatMap_of_not_mem first, same]
    | cons next pieces =>
      have behind := decodeLossy_append (b := 10) (by decide) []
        (withReturns ([10].intercalate (next :: pieces)))
      rw [List.nil_append] at behind
      rw [withReturns_intercalate_cons_cons first, decodeLossy_append (by decide), behind,
        ih others, List.intercalate_cons_cons, List.append_assoc, List.singleton_append,
        decodeLossy_append (by decide), List.flatMap_append, same]
      rfl

theorem decodeLossy_withReturns (bytes : Bytes) :
    decodeLossy (withReturns bytes) =
      (decodeLossy bytes).flatMap fun c => if c = '\n' then ['\r', '\n'] else [c] := by
  have whole := decodeLossy_withReturns_intercalate
    fun (piece : Bytes) (here : piece ∈ bytes.splitOn 10) => Text.not_mem_of_mem_splitOn here
  rwa [List.intercalate_splitOn] at whole

end Returns

end RemoteTags.Utf8
