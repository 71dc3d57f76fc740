import RemoteTags.Text.Utf8

/-! The decoder reads every text back from its encoding, with nothing to replace; and bytes that it
reads with nothing to replace are the encoding of the text. -/

namespace RemoteTags.Utf8

theorem toList_loop (a : ByteArray) (i : Nat) (read : List UInt8) :
    ByteArray.toList.loop a i read = read.reverse ++ a.data.toList.drop i := by
  fun_induction ByteArray.toList.loop a i read with
  | case1 i read inside ih =>
    have inside' : i < a.data.toList.length := by simpa using inside
    rw [ih, List.drop_eq_getElem_cons inside']
    simp [ByteArray.get!, inside]
  | case2 i read outside =>
    rw [List.drop_eq_nil_of_le (by simpa using Nat.le_of_not_lt outside)]
    simp

theorem encode_eq (s : String) : encode s = s.toList.flatMap String.utf8EncodeChar := by
  rw [encode, String.toUTF8_eq_toByteArray, ByteArray.toList, toList_loop,
    ← String.utf8Encode_toList, List.utf8Encode, List.toList_data_toByteArray]
  rfl

namespace Decoder

variable {d : Decoder} {u : Unfinished} {b : UInt8} {n : Nat}

theorem step_idle (idle : d.unfinished = none) (b : UInt8) : d.step b = d.begin b := by
  rw [step, idle]

theorem begin_opens (opens : lead b = .opens u) : d.begin b = { d with unfinished := some u } := by
  rw [begin, opens]

theorem step_inside (inside : d.unfinished = some u) (byte : b.toNat = n + 128)
    (low : u.low.toNat ≤ n + 128) (high : n + 128 ≤ u.high.toNat) :
    d.step b =
      if u.due = 1 then d.emit (Char.ofNat (u.code * 64 + n))
      else { d with unfinished := some ⟨u.code * 64 + n, u.due - 1, 0x80, 0xBF⟩ } := by
  rw [step, inside]
  simp [UInt8.le_iff_toNat_le, byte, low, high]

end Decoder

section Lead

variable {b : UInt8} {n : Nat}

theorem lead_one (byte : b.toNat = n) (ascii : n < 0x80) : lead b = .char (Char.ofNat n) := by
  simp [lead, byte, ascii]

theorem lead_two (byte : b.toNat = n + 0xC0) (first : 2 ≤ n) (last : n < 0x20) :
    lead b = .opens ⟨n, 1, 0x80, 0xBF⟩ := by
  unfold lead
  grind

/-- Of three bytes the second is bounded where the first is at one of its ends, so that neither a
shorter encoding nor a surrogate is read. -/
theorem lead_three (byte : b.toNat = n + 0xE0) (last : n < 0x10) :
    lead b = .opens ⟨n, 2, if n = 0 then 0xA0 else 0x80, if n = 0xD then 0x9F else 0xBF⟩ := by
  unfold lead
  grind

theorem lead_four (byte : b.toNat = n + 0xF0) (last : n < 5) :
    lead b = .opens ⟨n, 3, if n = 0 then 0x90 else 0x80, if n = 4 then 0x8F else 0xBF⟩ := by
  obtain rfl | rfl | rfl | rfl | rfl : n = 0 ∨ n = 1 ∨ n = 2 ∨ n = 3 ∨ n = 4 := by omega
  all_goals simp [lead, byte]

theorem lead_stray (byte : b.toNat = n) (stray : 0x80 ≤ n ∧ n < 0xC2 ∨ 0xF5 ≤ n) :
    lead b = .stray := by
  unfold lead
  grind

end Lead

theorem foldl_encodeChar {d : Decoder} (idle : d.unfinished = none) (c : Char) :
    (String.utf8EncodeChar c).foldl Decoder.step d = d.emit c := by
  have whole : Char.ofNat c.val.toNat = c := Char.ofNat_toNat c
  have valid : c.val.toNat < 0xD800 ∨ 0xDFFF < c.val.toNat ∧ c.val.toNat < 0x110000 := c.valid
  have byte {n : Nat} (small : n < 256) : (UInt8.ofNat n).toNat = n :=
    UInt8.toNat_ofNat_of_lt' small
  rw [String.utf8EncodeChar.eq_1]
  generalize c.val.toNat = v at whole valid ⊢
  split
  · rename_i one
    rw [List.foldl_cons, Decoder.step_idle idle, Decoder.begin,
      lead_one (byte (by omega)) (by omega), whole, List.foldl_nil]
  split
  · rename_i more two
    have code : v / 64 % 32 * 64 + v % 64 = v := by omega
    rw [List.foldl_cons, Decoder.step_idle idle,
      Decoder.begin_opens (lead_two (byte (by omega)) (by omega) (by omega)),
      List.foldl_cons, Decoder.step_inside rfl (byte (by omega)) (by simp) (by simp; omega),
      List.foldl_nil]
    simp only [if_true, code, whole, Decoder.emit]
  split
  · rename_i more two three
    have code : (v / 4096 % 16 * 64 + v / 64 % 64) * 64 + v % 64 = v := by omega
    have low : (if v / 4096 % 16 = 0 then 0xA0 else 0x80 : UInt8).toNat ≤ v / 64 % 64 + 128 := by
      split <;> simp <;> omega
    have high : v / 64 % 64 + 128 ≤ (if v / 4096 % 16 = 0xD then 0x9F else 0xBF : UInt8).toNat := by
      split <;> simp <;> omega
    rw [List.foldl_cons, Decoder.step_idle idle,
      Decoder.begin_opens (lead_three (byte (by omega)) (by omega)),
      List.foldl_cons, Decoder.step_inside rfl (byte (by omega)) low high, if_neg (by simp),
      List.foldl_cons, Decoder.step_inside rfl (byte (by omega)) (by simp) (by simp; omega),
      List.foldl_nil]
    simp only [Nat.add_one_sub_one, if_true, code, whole, Decoder.emit]
  · rename_i more two three
    have code : ((v / 262144 % 8 * 64 + v / 4096 % 64) * 64 + v / 64 % 64) * 64 + v % 64 = v := by
      omega
    have low : (if v / 262144 % 8 = 0 then 0x90 else 0x80 : UInt8).toNat ≤ v / 4096 % 64 + 128 := by
      split <;> simp <;> omega
    have high :
        v / 4096 % 64 + 128 ≤ (if v / 262144 % 8 = 4 then 0x8F else 0xBF : UInt8).toNat := by
      split <;> simp <;> omega
    rw [List.foldl_cons, Decoder.step_idle idle,
      Decoder.begin_opens (lead_four (byte (by omega)) (by omega)),
      List.foldl_cons, Decoder.step_inside rfl (byte (by omega)) low high, if_neg (by simp),
      List.foldl_cons, Decoder.step_inside rfl (byte (by omega)) (by simp) (by simp; omega),
      if_neg (by simp),
      List.foldl_cons, Decoder.step_inside rfl (byte (by omega)) (by simp) (by simp; omega),
      List.foldl_nil]
    simp only [Nat.add_one_sub_one, if_true, code, whole, Decoder.emit]

theorem foldl_encoded {d : Decoder} (idle : d.unfinished = none) (s : List Char) :
    (s.flatMap String.utf8EncodeChar).foldl Decoder.step d =
      { d with text := s.reverse ++ d.text } := by
  induction s generalizing d with
  | nil => rfl
  | cons c s ih =>
    rw [List.flatMap_cons, List.foldl_append, foldl_encodeChar idle, ih rfl]
    simp [Decoder.emit, idle]

theorem run_encode (s : String) : Decoder.run (encode s) = { text := s.toList.reverse } := by
  rw [Decoder.run, encode_eq, foldl_encoded rfl]
  simp [Decoder.finish]

theorem lossyString_encode (s : String) : lossyString (encode s) = s := by
  rw [lossyString, decodeLossy, run_encode, List.reverse_reverse, String.ofList_toList]

theorem decode?_encode (s : String) : decode? (encode s) = some s := by
  rw [decode?, run_encode]
  simp

section Unfinished

variable {u : Unfinished} {b : UInt8} {rest : Bytes} {c : Char} {v : Nat}

namespace Unfinished

def Takes (u : Unfinished) (b : UInt8) : Prop := u.low ≤ b ∧ b ≤ u.high

def codeWith (u : Unfinished) (b : UInt8) : Nat := u.code * 64 + (b.toNat - 0x80)

inductive Ends : Unfinished → Bytes → Char → Prop where
  | last {u : Unfinished} {b : UInt8} (takes : u.Takes b) (one : u.due = 1) :
      Ends u [b] (Char.ofNat (u.codeWith b))
  | more {u : Unfinished} {b : UInt8} {rest : Bytes} {c : Char} (takes : u.Takes b)
      (due : u.due ≠ 1) (ends : Ends ⟨u.codeWith b, u.due - 1, 0x80, 0xBF⟩ rest c) :
      Ends u (b :: rest) c

theorem exists_of_takes (takes : u.Takes b) (tail : 0x80 ≤ u.low.toNat) :
    ∃ m, b.toNat = m + 0x80 ∧ u.low.toNat ≤ m + 0x80 ∧ m + 0x80 ≤ u.high.toNat ∧
      u.codeWith b = u.code * 64 + m := by
  rw [Takes, UInt8.le_iff_toNat_le, UInt8.le_iff_toNat_le] at takes
  exact ⟨b.toNat - 0x80, by omega, by omega, by omega, rfl⟩

theorem Ends.of_one (ends : u.Ends rest c) (one : u.due = 1) (tail : 0x80 ≤ u.low.toNat) :
    ∃ b m, rest = [b] ∧ c = Char.ofNat (u.code * 64 + m) ∧ b.toNat = m + 0x80 ∧
      u.low.toNat ≤ m + 0x80 ∧ m + 0x80 ≤ u.high.toNat := by
  cases ends with
  | last takes =>
    obtain ⟨m, byte, low, high, code⟩ := exists_of_takes takes tail
    exact ⟨_, m, rfl, congrArg Char.ofNat code, byte, low, high⟩
  | more _ due => exact absurd one due

theorem Ends.of_more (ends : u.Ends rest c) (due : u.due ≠ 1) (tail : 0x80 ≤ u.low.toNat) :
    ∃ b others m, rest = b :: others ∧ Ends ⟨u.code * 64 + m, u.due - 1, 0x80, 0xBF⟩ others c ∧
      b.toNat = m + 0x80 ∧ u.low.toNat ≤ m + 0x80 ∧ m + 0x80 ≤ u.high.toNat := by
  cases ends with
  | last _ one => exact absurd one due
  | more takes _ ends =>
    obtain ⟨m, byte, low, high, code⟩ := exists_of_takes takes tail
    exact ⟨_, _, m, rfl, code ▸ ends, byte, low, high⟩

end Unfinished

theorem encodeChar_ofNat (valid : v.isValidChar) :
    String.utf8EncodeChar (Char.ofNat v) =
      if v ≤ 0x7F then [UInt8.ofNat v]
      else if v ≤ 0x7FF then [UInt8.ofNat (v / 64 % 32 + 0xC0), UInt8.ofNat (v % 64 + 0x80)]
      else if v ≤ 0xFFFF then
        [UInt8.ofNat (v / 4096 % 16 + 0xE0), UInt8.ofNat (v / 64 % 64 + 0x80),
          UInt8.ofNat (v % 64 + 0x80)]
      else
        [UInt8.ofNat (v / 262144 % 8 + 0xF0), UInt8.ofNat (v / 4096 % 64 + 0x80),
          UInt8.ofNat (v / 64 % 64 + 0x80), UInt8.ofNat (v % 64 + 0x80)] := by
  have code : (Char.ofNat v).val.toNat = v := by
    rw [Char.ofNat, dif_pos valid]
    rfl
  rw [String.utf8EncodeChar.eq_1, code]

theorem eq_ofNat {n : Nat} (byte : b.toNat = n) : b = UInt8.ofNat n := by
  rw [← byte, UInt8.ofNat_toNat]

theorem lead_cases (b : UInt8) :
    b.toNat < 0x80 ∨ lead b = .stray ∨ (∃ n, b.toNat = n + 0xC0 ∧ 2 ≤ n ∧ n < 0x20) ∨
      (∃ n, b.toNat = n + 0xE0 ∧ n < 0x10) ∨ ∃ n, b.toNat = n + 0xF0 ∧ n < 5 := by
  by_cases ascii : b.toNat < 0x80
  · exact .inl ascii
  by_cases stray : b.toNat < 0xC2 ∨ 0xF5 ≤ b.toNat
  · exact .inr (.inl (lead_stray rfl (by omega)))
  by_cases two : b.toNat < 0xE0
  · exact .inr (.inr (.inl ⟨b.toNat - 0xC0, by omega, by omega, by omega⟩))
  by_cases three : b.toNat < 0xF0
  · exact .inr (.inr (.inr (.inl ⟨b.toNat - 0xE0, by omega, by omega⟩)))
  · exact .inr (.inr (.inr (.inr ⟨b.toNat - 0xF0, by omega, by omega⟩)))

theorem encodeChar_of_lead (char : lead b = .char c) : String.utf8EncodeChar c = [b] := by
  rcases lead_cases b with
    ascii | stray | ⟨n, byte, first, last⟩ | ⟨n, byte, last⟩ | ⟨n, byte, last⟩
  · rw [lead_one rfl ascii] at char
    cases char
    have valid : b.toNat.isValidChar := .inl (by omega)
    rw [encodeChar_ofNat valid, if_pos (by omega), UInt8.ofNat_toNat]
  · rw [stray] at char
    cases char
  · rw [lead_two byte first last] at char
    cases char
  · rw [lead_three byte last] at char
    cases char
  · rw [lead_four byte last] at char
    cases char

theorem encodeChar_of_ends (opens : lead b = .opens u) (ends : u.Ends rest c) :
    b :: rest = String.utf8EncodeChar c := by
  rcases lead_cases b with
    ascii | stray | ⟨n, byte, first, last⟩ | ⟨n, byte, last⟩ | ⟨n, byte, last⟩
  · rw [lead_one rfl ascii] at opens
    cases opens
  · rw [stray] at opens
    cases opens
  · rw [lead_two byte first last] at opens
    cases opens
    obtain ⟨b₂, m, rfl, rfl, byte₂, low, high⟩ := ends.of_one rfl (Nat.le_refl 0x80)
    dsimp at low high ⊢
    have valid : (n * 64 + m).isValidChar := .inl (by omega)
    rw [encodeChar_ofNat valid, if_neg (by omega), if_pos (by omega), eq_ofNat byte, eq_ofNat byte₂]
    congr <;> omega
  · rw [lead_three byte last] at opens
    cases opens
    obtain ⟨b₂, _, m, rfl, ends, byte₂, low, high⟩ :=
      ends.of_more (by simp) (by dsimp only; split <;> decide)
    obtain ⟨b₃, k, rfl, rfl, byte₃, low₃, high₃⟩ := ends.of_one rfl (Nat.le_refl 0x80)
    simp only [apply_ite UInt8.toNat, UInt8.reduceToNat] at low high high₃ ⊢
    have bounds : (n = 0 → 32 ≤ m) ∧ (n = 13 → m < 32) ∧ m < 64 := by
      split at low <;> split at high <;> omega
    have valid : ((n * 64 + m) * 64 + k).isValidChar := by
      unfold Nat.isValidChar
      omega
    rw [encodeChar_ofNat valid, if_neg (by omega), if_neg (by omega), if_pos (by omega),
      eq_ofNat byte, eq_ofNat byte₂, eq_ofNat byte₃]
    congr <;> omega
  · rw [lead_four byte last] at opens
    cases opens
    obtain ⟨b₂, _, m, rfl, ends, byte₂, low, high⟩ :=
      ends.of_more (by simp) (by dsimp only; split <;> decide)
    obtain ⟨b₃, _, k, rfl, ends, byte₃, low₃, high₃⟩ := ends.of_more (by simp) (Nat.le_refl 0x80)
    obtain ⟨b₄, l, rfl, rfl, byte₄, low₄, high₄⟩ := ends.of_one rfl (Nat.le_refl 0x80)
    simp only [apply_ite UInt8.toNat, UInt8.reduceToNat] at low high high₃ high₄ ⊢
    have bounds : (n = 0 → 16 ≤ m) ∧ (n = 4 → m < 16) ∧ m < 64 := by
      split at low <;> split at high <;> omega
    have valid : (((n * 64 + m) * 64 + k) * 64 + l).isValidChar := by
      unfold Nat.isValidChar
      omega
    rw [encodeChar_ofNat valid, if_neg (by omega), if_neg (by omega), if_neg (by omega),
      eq_ofNat byte, eq_ofNat byte₂, eq_ofNat byte₃, eq_ofNat byte₄]
    congr <;> omega

end Unfinished

namespace Decoder

variable {d : Decoder} {read : Bytes}

/-- As long as nothing had to be replaced, what has been read is the encoding of the text, and
behind it what ends an unfinished character makes up the encoding of that character. -/
def Reads (read : Bytes) (d : Decoder) : Prop :=
  d.sound = true → ∃ opened, read = d.text.reverse.flatMap String.utf8EncodeChar ++ opened ∧
    match d.unfinished with
    | none => opened = []
    | some u => ∀ rest c, u.Ends rest c → opened ++ rest = String.utf8EncodeChar c

theorem sound_of_begin {b : UInt8} (sound : (d.begin b).sound = true) : d.sound = true := by
  unfold begin at sound
  split at sound
  · exact sound
  · exact sound
  · cases sound

theorem Reads.begin (reads : Reads read d) (idle : d.unfinished = none) (b : UInt8) :
    Reads (read ++ [b]) (d.begin b) := by
  intro sound
  obtain ⟨opened, rfl, none⟩ := reads (sound_of_begin sound)
  rw [idle] at none
  dsimp only at none
  subst none
  unfold Decoder.begin at sound ⊢
  cases leads : lead b with
  | char c =>
    exact ⟨[], by simp [emit, encodeChar_of_lead leads], rfl⟩
  | opens u => exact ⟨[b], by simp, fun rest c ends => encodeChar_of_ends leads ends⟩
  | stray =>
    rw [leads] at sound
    cases sound

theorem step_takes {u : Unfinished} {b : UInt8} (opens : d.unfinished = some u)
    (takes : u.Takes b) :
    d.step b =
      if u.due = 1 then d.emit (Char.ofNat (u.codeWith b))
      else { d with unfinished := some ⟨u.codeWith b, u.due - 1, 0x80, 0xBF⟩ } := by
  rw [step, opens]
  exact if_pos (Bool.and_eq_true_iff.2 (takes.imp decide_eq_true decide_eq_true))

theorem step_refuses {u : Unfinished} {b : UInt8} (opens : d.unfinished = some u)
    (refuses : ¬ u.Takes b) : d.step b = d.replace.begin b := by
  rw [step, opens]
  refine if_neg fun takes => refuses ?_
  exact (Bool.and_eq_true_iff.1 takes).imp of_decide_eq_true of_decide_eq_true

theorem Reads.step (reads : Reads read d) (b : UInt8) : Reads (read ++ [b]) (d.step b) := by
  cases opens : d.unfinished with
  | none =>
    rw [step_idle opens]
    exact reads.begin opens b
  | some u =>
    intro sound
    by_cases takes : u.Takes b
    · rw [step_takes opens takes] at sound ⊢
      by_cases one : u.due = 1
      · rw [if_pos one] at sound ⊢
        obtain ⟨opened, rfl, completes⟩ := reads sound
        rw [opens] at completes
        have whole := completes [b] _ (.last takes one)
        exact ⟨[], by simp [emit, whole], rfl⟩
      · rw [if_neg one] at sound ⊢
        obtain ⟨opened, rfl, completes⟩ := reads sound
        rw [opens] at completes
        refine ⟨opened ++ [b], by simp, fun rest c ends => ?_⟩
        rw [List.append_assoc]
        exact completes _ c (.more takes one ends)
    · rw [step_refuses opens takes] at sound
      cases sound_of_begin sound

theorem reads_foldl (reads : Reads read d) (rest : Bytes) :
    Reads (read ++ rest) (rest.foldl Decoder.step d) := by
  induction rest generalizing read d with
  | nil => simpa using reads
  | cons b rest ih => simpa using ih (reads.step b)

end Decoder

theorem decode?_eq_some_iff {bytes : Bytes} {s : String} :
    decode? bytes = some s ↔ bytes = encode s := by
  constructor
  · intro decoded
    unfold decode? Decoder.run at decoded
    have reads : Decoder.Reads bytes (bytes.foldl Decoder.step {}) :=
      Decoder.reads_foldl (fun _ => ⟨[], rfl, rfl⟩) bytes
    generalize bytes.foldl Decoder.step {} = d at decoded reads
    cases opens : d.unfinished with
    | some u => simp [Decoder.finish, opens, Decoder.replace] at decoded
    | none =>
      simp only [Decoder.finish, opens, Option.isSome_none, Bool.false_eq_true, if_false,
        Option.ite_none_right_eq_some, Option.some.injEq] at decoded
      obtain ⟨opened, rfl, none⟩ := reads decoded.1
      rw [opens] at none
      dsimp only at none
      rw [none, List.append_nil, encode_eq, ← decoded.2, String.toList_ofList]
  · rintro rfl
    exact decode?_encode s

end RemoteTags.Utf8
