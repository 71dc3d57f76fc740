import Mathlib.Data.List.Induction
import Mathlib.Data.Nat.Digits.Defs
import RemoteTags.Text.Blank
import RemoteTags.Text.Decimal

/-! The digits of a number have its value, also with zeros in front of them. -/

namespace RemoteTags.Decimal

theorem isDigit_eq (c : Char) : isDigit c = c.isDigit := by
  simp [isDigit, Char.isDigit, Char.le_def]

theorem value_eq (ds : List Char) : value ds = Nat.ofDigitChars 10 ds 0 := by
  rw [Nat.ofDigitChars_eq_foldl, value]
  congr 1
  funext n c
  rw [Nat.mul_comm, digit]
  rfl

variable (width n : Nat)

theorem padded_eq : padded width n =
    List.replicate (width - (Nat.toDigits 10 n).length) '0' ++ Nat.toDigits 10 n := by
  rw [padded, Nat.toString_eq_ofList_toDigits, String.toList_ofList]

theorem value_padded : value (padded width n) = n := by
  rw [padded_eq, value_eq, Nat.ofDigitChars_append, Nat.ofDigitChars_replicate_zero, Nat.mul_zero,
    Nat.ofDigitChars_toDigits (by decide) (by decide)]

theorem padded_ne_nil : padded width n ≠ [] := by
  rw [padded_eq]
  exact List.append_ne_nil_of_right_ne_nil _ Nat.toDigits_ne_nil

theorem isDigit_of_mem_padded {width n : Nat} {c : Char} (mem : c ∈ padded width n) :
    isDigit c := by
  rw [padded_eq] at mem
  rcases List.mem_append.1 mem with zero | digit
  · rw [List.eq_of_mem_replicate zero]
    decide
  · rw [isDigit_eq]
    exact Nat.isDigit_of_mem_toDigits (by decide) (by decide) digit

theorem length_padded {width n : Nat} (wide : 0 < width) (fits : n < 10 ^ width) :
    (padded width n).length = width := by
  have short : (Nat.toDigits 10 n).length ≤ width :=
    (Nat.length_toDigits_le_iff (by decide) wide).2 fits
  rw [padded_eq, List.length_append, List.length_replicate, Nat.sub_add_cancel short]

theorem toNat_of_isDigit {c : Char} (digit : isDigit c) : 48 ≤ c.toNat ∧ c.toNat ≤ 57 := by
  simp only [isDigit, Bool.and_eq_true, decide_eq_true_eq, Char.le_def, UInt32.le_iff_toNat_le]
    at digit
  exact digit

theorem value_concat (ds : List Char) (c : Char) : value (ds ++ [c]) = value ds * 10 + digit c := by
  simp [value]

theorem value_lt {ds : List Char} (digits : ∀ c ∈ ds, isDigit c) : value ds < 10 ^ ds.length := by
  induction ds using List.reverseRecOn with
  | nil => decide
  | append_singleton ds c ih =>
    have earlier : value ds < 10 ^ ds.length := ih fun d mem => digits d (by simp [mem])
    have last := toNat_of_isDigit (digits c (by simp))
    rw [value_concat, digit, List.length_append, List.length_singleton, Nat.pow_succ]
    omega

theorem isBlank_of_isDigit {c : Char} (digit : isDigit c) : Text.isBlank c = false := by
  obtain ⟨first, last⟩ := toNat_of_isDigit digit
  simp only [Text.isBlank, Bool.or_eq_false_iff, Bool.and_eq_false_iff, decide_eq_false_iff_not]
  omega

theorem trimStart_digits {ds rest : List Char} (nonempty : ds ≠ [])
    (digits : ∀ c ∈ ds, isDigit c) : Text.trimStart (ds ++ rest) = ds ++ rest := by
  apply Text.trimStart_eq_self
  intro c first
  rw [List.head?_append, List.head?_eq_some_head nonempty, Option.some_or, Option.mem_some_iff]
    at first
  exact isBlank_of_isDigit (digits c (first ▸ List.head_mem nonempty))

end RemoteTags.Decimal
