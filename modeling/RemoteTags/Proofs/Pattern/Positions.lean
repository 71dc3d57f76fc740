import Mathlib.Data.List.Infix
import Mathlib.Data.Nat.Bitwise
import RemoteTags.Pattern.Match

/-! What sets of positions say. Each step of a match is described by the positions that it leads
to, so that nothing further on looks at a number. -/

namespace RemoteTags.Pattern

section Bits

variable (p : Char → Bool)

theorem testBit_bits (row : List Char) (i : Nat) :
    (bits p row).testBit i = row[i]?.any p := by
  induction row generalizing i with
  | nil => simp [bits]
  | cons c rest ih =>
    have digit : (p c).toNat ≤ 1 := Bool.toNat_le (p c)
    cases i with
    | zero =>
      rw [Nat.testBit_zero, bits, Nat.mul_add_mod, Nat.mod_eq_of_lt (by omega)]
      cases holds : p c <;> simp [holds]
    | succ i =>
      have half : bits p (c :: rest) / 2 = bits p rest := by
        rw [bits]
        omega
      rw [Nat.testBit_succ, half, ih, List.getElem?_cons_succ]

theorem bits_append (a b : List Char) :
    bits p (a ++ b) = bits p a + bits p b <<< a.length := by
  induction a with
  | nil => simp [bits]
  | cons c a ih =>
    rw [List.cons_append, bits, bits, ih, List.length_cons, Nat.shiftLeft_succ]
    omega

theorem maskOf_eq (row : List Char) : maskOf p row = bits p row := by
  fun_induction maskOf p row with
  | case1 row short => rfl
  | case2 row long ih =>
    have parts := bits_append p (row.take wordWidth) (row.drop wordWidth)
    rw [List.take_append_drop, List.length_take_of_le (by omega)] at parts
    rw [ih, parts]

end Bits

theorem Line.testBit_before (row : List Char) (s : CharSet) (i : Nat) :
    ((Line.ofChars row).before s).testBit i = row[i]?.any s.contains := by
  have mask : (Line.ofChars row).before s = bits s.contains row := maskOf_eq _ _
  rw [mask, testBit_bits]

theorem Line.testBit_everywhere (line : Line) (i : Nat) :
    line.everywhere.testBit i = decide (i ≤ line.length) := by
  rw [Line.everywhere, Nat.one_shiftLeft, Nat.testBit_two_pow_sub_one]
  exact decide_eq_decide.mpr Nat.lt_succ_iff

theorem iterate_zero {f : Positions → Positions} (none : f 0 = 0) (n : Nat) :
    iterate f n 0 = 0 := by
  cases n <;> simp [iterate, none]

theorem closure_zero {f : Positions → Positions} (none : f 0 = 0) (n : Nat) :
    closure f n 0 = 0 := by
  cases n <;> simp [closure, none]

theorem reach_zero (p : Pattern) (line : Line) : p.reach line 0 = 0 := by
  induction p with
  | empty => rfl
  | set s => simp [reach]
  | look l => simp [reach]
  | seq a b iha ihb => simp [reach, iha]
  | alt a b iha ihb => simp [reach, iha, ihb]
  | times a least most ih =>
    cases most <;> simp [reach, iterate_zero ih, closure_zero ih]
  | group a ih => simpa [reach] using ih

theorem reach_seq (a b : Pattern) (line : Line) (m : Positions) :
    (seq a b).reach line m = b.reach line (a.reach line m) := by
  rw [reach]
  split
  · rename_i stuck
    rw [stuck, reach_zero]
  · rfl

theorem testBit_reach_char (c : Char) (row : List Char) (m : Positions) (j : Nat) :
    ((char c).reach (Line.ofChars row) m).testBit j = true ↔
      ∃ i, m.testBit i = true ∧ row[i]? = some c ∧ j = i + 1 := by
  rw [char, reach, Nat.testBit_shiftLeft, Nat.testBit_and, Line.testBit_before]
  cases j with
  | zero => simp
  | succ j => simp [Option.any_eq_true, and_comm]

theorem cons_prefix_drop (c : Char) (s row : List Char) (i : Nat) :
    c :: s <+: row.drop i ↔ row[i]? = some c ∧ s <+: row.drop (i + 1) := by
  rw [← List.head?_drop, ← List.tail_drop]
  cases row.drop i with
  | nil => simp
  | cons d rest => simp [List.cons_prefix_cons, eq_comm]

theorem testBit_reach_foldr (s row : List Char) (m : Positions) (j : Nat) :
    (((s.map char).foldr seq empty).reach (Line.ofChars row) m).testBit j = true ↔
      ∃ i, m.testBit i = true ∧ s <+: row.drop i ∧ j = i + s.length := by
  induction s generalizing m with
  | nil => simp [reach]
  | cons c s ih =>
    rw [List.map_cons, List.foldr_cons, reach_seq, ih]
    simp only [testBit_reach_char, cons_prefix_drop, List.length_cons]
    constructor
    · rintro ⟨_, ⟨i, begins, here, rfl⟩, follows, rfl⟩
      exact ⟨i, begins, ⟨here, follows⟩, by omega⟩
    · rintro ⟨i, begins, ⟨here, follows⟩, rfl⟩
      exact ⟨i + 1, ⟨i, begins, here, rfl⟩, follows, by omega⟩

theorem testBit_reach_literal (s row : List Char) (m : Positions) (j : Nat) :
    ((literal s).reach (Line.ofChars row) m).testBit j = true ↔
      ∃ i, m.testBit i = true ∧ s <+: row.drop i ∧ j = i + s.length := by
  have folded := testBit_reach_foldr s row m j
  cases s with
  | nil => exact folded
  | cons c s => exact folded

theorem infix_iff_prefix_drop {s row : List Char} :
    s <:+: row ↔ ∃ i ≤ row.length, s <+: row.drop i := by
  constructor
  · rintro ⟨before, after, rfl⟩
    exact ⟨before.length, by simp, by simp [List.append_assoc]⟩
  · rintro ⟨i, _, begins⟩
    exact begins.isInfix.trans (List.drop_suffix i row).isInfix

/-- The pattern for a text matches where the text stands, and nowhere else. -/
theorem matchesIn_literal (s row : List Char) :
    (literal s).matchesIn (Line.ofChars row) = true ↔ s <:+: row := by
  have somewhere : (literal s).reach (Line.ofChars row) (Line.ofChars row).everywhere ≠ 0 ↔
      ∃ j, ((literal s).reach (Line.ofChars row)
        (Line.ofChars row).everywhere).testBit j = true := by
    constructor
    · exact Nat.exists_testBit_of_ne_zero
    · rintro ⟨j, member⟩ none
      rw [none, Nat.zero_testBit] at member
      exact Bool.false_ne_true member
  simp only [matchesIn, bne_iff_ne, somewhere, testBit_reach_literal, Line.testBit_everywhere,
    decide_eq_true_eq, infix_iff_prefix_drop]
  constructor
  · rintro ⟨_, i, inside, begins, _⟩
    exact ⟨i, inside, begins⟩
  · rintro ⟨i, inside, begins⟩
    exact ⟨_, i, inside, begins, rfl⟩

end RemoteTags.Pattern
