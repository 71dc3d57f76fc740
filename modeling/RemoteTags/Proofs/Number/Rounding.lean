import Mathlib.Algebra.Order.Field.Basic
import Mathlib.Algebra.Order.Field.Power
import Mathlib.Data.Rat.Cast.Order
import Mathlib.Tactic.FieldSimp
import Mathlib.Tactic.GCongr
import Mathlib.Tactic.Linarith
import Mathlib.Tactic.Ring
import RemoteTags.Number.Binary

/-! Rounding to the nearest number is monotone, and the rounded number is near: within one half for
whole numbers, and within one part in `2 ^ 53` for numbers with 53 significant bits. -/

namespace RemoteTags

/-- A rounded quotient differs from the quotient by at most one half; by one half only if it is
even. -/
theorem roundQuotient_near (num : ℕ) {den : ℕ} (pos : 0 < den) : ∃ gap : ℚ,
    (roundQuotient num den : ℚ) = num / den + gap ∧ |gap| ≤ 1 / 2 ∧
      (|gap| = 1 / 2 → roundQuotient num den % 2 = 0) := by
  have scale : (0 : ℚ) < den := by exact_mod_cast pos
  have quotient : (num / den : ℚ) = (num / den : ℕ) + (num % den : ℕ) / den := by
    rw [div_eq_iff scale.ne', add_mul, div_mul_cancel₀ _ scale.ne', mul_comm]
    exact_mod_cast (Nat.div_add_mod num den).symm
  rw [quotient]
  have nonneg : (0 : ℚ) ≤ (num % den : ℕ) / den := by positivity
  have proper : ((num % den : ℕ) / den : ℚ) < 1 := by
    rw [div_lt_one scale]
    exact_mod_cast Nat.mod_lt num pos
  have half : (num % den : ℕ) / den < (1 / 2 : ℚ) ↔ 2 * (num % den) < den := by
    rw [div_lt_div_iff₀ scale two_pos, one_mul, mul_comm]
    exact_mod_cast Iff.rfl
  have half' : (1 / 2 : ℚ) < (num % den : ℕ) / den ↔ den < 2 * (num % den) := by
    rw [div_lt_div_iff₀ two_pos scale, one_mul, mul_comm]
    exact_mod_cast Iff.rfl
  generalize ((num % den : ℕ) / den : ℚ) = part at *
  simp only [roundQuotient, ← half, ← half']
  split_ifs with less more even
  · refine ⟨-part, by ring, ?_, ?_⟩
    · rw [abs_neg, abs_of_nonneg nonneg]
      exact less.le
    · rw [abs_neg, abs_of_nonneg nonneg]
      exact fun tie => absurd tie less.ne
  · refine ⟨1 - part, by push_cast; ring, ?_, ?_⟩
    · rw [abs_of_pos (by linarith)]
      linarith
    · rw [abs_of_pos (by linarith)]
      intro tie
      linarith
  · refine ⟨-part, by ring, ?_, fun _ => even⟩
    rw [abs_neg, abs_of_nonneg nonneg]
    exact not_lt.1 more
  · refine ⟨1 - part, by push_cast; ring, ?_, fun _ => by omega⟩
    rw [abs_of_pos (by linarith)]
    linarith [not_lt.1 less]

theorem roundQuotient_mono {num den num' den' : ℕ} (pos : 0 < den) (pos' : 0 < den')
    (le : (num / den : ℚ) ≤ num' / den') : roundQuotient num den ≤ roundQuotient num' den' := by
  obtain ⟨gap, eq, near, even⟩ := roundQuotient_near num pos
  obtain ⟨gap', eq', near', even'⟩ := roundQuotient_near num' pos'
  by_contra more
  have apart : (roundQuotient num' den' + 1 : ℚ) ≤ roundQuotient num den := by
    exact_mod_cast not_le.1 more
  have upper := (abs_le.1 near).2
  have lower := (abs_le.1 near').1
  -- Both gaps are a full half, so that the two are even and next to each other.
  have tie : gap = 1 / 2 := by linarith
  have tie' : gap' = -(1 / 2) := by linarith
  have next : (roundQuotient num den : ℚ) = (roundQuotient num' den' + 1 : ℕ) := by
    push_cast
    linarith
  have := even (by rw [tie]; norm_num)
  have := even' (by rw [tie']; norm_num)
  have : roundQuotient num den = roundQuotient num' den' + 1 := by exact_mod_cast next
  omega

theorem roundQuotient_one (n : ℕ) : roundQuotient n 1 = n := by
  simp [roundQuotient, Nat.mod_one]

theorem le_roundQuotient {k num den : ℕ} (pos : 0 < den) (le : (k : ℚ) ≤ num / den) :
    k ≤ roundQuotient num den := by
  have mono : roundQuotient k 1 ≤ roundQuotient num den :=
    roundQuotient_mono one_pos pos (by simpa using le)
  rwa [roundQuotient_one] at mono

theorem roundQuotient_le {k num den : ℕ} (pos : 0 < den) (le : (num / den : ℚ) ≤ k) :
    roundQuotient num den ≤ k := by
  have mono : roundQuotient num den ≤ roundQuotient k 1 :=
    roundQuotient_mono pos one_pos (by simpa using le)
  rwa [roundQuotient_one] at mono

namespace Binary

def value (x : Binary) : ℚ := x.significand * 2 ^ x.exponent

theorem two_zpow (e : ℤ) : (2 : ℚ) ^ e = 2 ^ e.toNat / 2 ^ (-e).toNat := by
  obtain ⟨n, rfl | rfl⟩ := e.eq_nat_or_neg <;> simp

theorem denominator_pos (x : Binary) : 0 < x.denominator := by
  simp [denominator, Nat.shiftLeft_eq]

theorem numerator_div_denominator (x : Binary) :
    (x.numerator / x.denominator : ℚ) = x.value := by
  simp only [numerator, denominator, value, Nat.shiftLeft_eq, two_zpow x.exponent]
  push_cast
  rw [one_mul, mul_div_assoc]


theorem shifted (num den : ℕ) (e : ℤ) :
    ((num <<< (-e).toNat : ℕ) / (den <<< e.toNat : ℕ) : ℚ) = num / den / 2 ^ e := by
  rw [Nat.shiftLeft_eq, Nat.shiftLeft_eq, two_zpow e]
  push_cast
  field_simp

theorem zpow_log2_le {n : ℕ} (pos : 0 < n) : (2 : ℚ) ^ (n.log2 : ℤ) ≤ n := by
  exact_mod_cast Nat.log2_self_le pos.ne'

theorem lt_zpow_log2 (n : ℕ) : (n : ℚ) < 2 ^ (n.log2 + 1 : ℤ) := by
  exact_mod_cast Nat.lt_log2_self

theorem quotient_bounds {num den : ℕ} (num_pos : 0 < num) (den_pos : 0 < den) {guess : ℤ}
    (guessed : guess = num.log2 - den.log2 - precision) :
    (2 : ℚ) ^ 52 ≤ num / den / 2 ^ guess ∧ (num / den / 2 ^ guess : ℚ) < 2 ^ 54 := by
  have exponent : guess + den.log2 + 53 = num.log2 := by
    simp only [guessed, precision]
    omega
  have den_pos' : (0 : ℚ) < den := by exact_mod_cast den_pos
  have unit_pos : (0 : ℚ) < 2 ^ guess := by positivity
  rw [div_div, le_div_iff₀ (by positivity), div_lt_iff₀ (by positivity)]
  constructor
  · calc (2 : ℚ) ^ 52 * (den * 2 ^ guess)
        ≤ 2 ^ (52 : ℤ) * (2 ^ (den.log2 + 1 : ℤ) * 2 ^ guess) := by
          gcongr
          · norm_num
          · exact (lt_zpow_log2 den).le
      _ = 2 ^ (num.log2 : ℤ) := by
          rw [← zpow_add₀ two_ne_zero, ← zpow_add₀ two_ne_zero]
          congr 1
          omega
      _ ≤ num := zpow_log2_le num_pos
  · calc (num : ℚ) < 2 ^ (num.log2 + 1 : ℤ) := lt_zpow_log2 num
      _ = 2 ^ (54 : ℤ) * (2 ^ (den.log2 : ℤ) * 2 ^ guess) := by
          rw [← zpow_add₀ two_ne_zero, ← zpow_add₀ two_ne_zero]
          congr 1
          omega
      _ ≤ 2 ^ 54 * (den * 2 ^ guess) := by
          gcongr
          · norm_num
          · exact zpow_log2_le den_pos

theorem ofQuotient_scaled {num den : ℕ} (num_pos : 0 < num) (den_pos : 0 < den) : ∃ n d : ℕ,
    0 < d ∧ (ofQuotient num den).significand = roundQuotient n d ∧
      (num / den : ℚ) = n / d * 2 ^ (ofQuotient num den).exponent ∧
      (2 : ℚ) ^ 52 ≤ n / d ∧ (n / d : ℚ) < 2 ^ 53 := by
  have positive (e : ℤ) : 0 < den <<< e.toNat := by simp [Nat.shiftLeft_eq, den_pos]
  have fits (e : ℤ) : (num <<< (-e).toNat) / (den <<< e.toNat) < 1 <<< precision ↔
      (num / den / 2 ^ e : ℚ) < 2 ^ 53 := by
    have pos : (0 : ℚ) < (den <<< e.toNat : ℕ) := by exact_mod_cast positive e
    rw [Nat.div_lt_iff_lt_mul (positive e), ← shifted, div_lt_iff₀ pos, precision,
      Nat.one_shiftLeft]
    exact_mod_cast Iff.rfl
  obtain ⟨lower, upper⟩ := quotient_bounds num_pos den_pos rfl
  obtain ⟨e, eq, lower, upper⟩ : ∃ e : ℤ,
      ofQuotient num den = ⟨roundQuotient (num <<< (-e).toNat) (den <<< e.toNat), e⟩ ∧
        (2 : ℚ) ^ 52 ≤ num / den / 2 ^ e ∧ (num / den / 2 ^ e : ℚ) < 2 ^ 53 := by
    rw [ofQuotient, if_neg num_pos.ne']
    dsimp only
    split
    case isTrue short => exact ⟨_, rfl, lower, (fits _).1 short⟩
    case isFalse long =>
      have long := not_lt.1 (mt (fits _).2 long)
      refine ⟨_, rfl, ?_⟩
      rw [zpow_add_one₀ two_ne_zero, ← div_div]
      constructor <;> linarith
  refine ⟨num <<< (-e).toNat, den <<< e.toNat, positive e, by rw [eq], ?_, ?_⟩
  · rw [shifted, eq, div_mul_cancel₀ _ (by positivity)]
  · rw [shifted]
    exact ⟨lower, upper⟩

variable {num den num' den' : ℕ}

theorem abs_value_ofQuotient_sub_le (den_pos : 0 < den) :
    |(ofQuotient num den).value - num / den| ≤ num / den / 2 ^ 53 := by
  rcases num.eq_zero_or_pos with rfl | num_pos
  · simp [ofQuotient, value]
  · obtain ⟨n, d, d_pos, significand, quotient, lower, -⟩ := ofQuotient_scaled num_pos den_pos
    obtain ⟨gap, rounded, near, -⟩ := roundQuotient_near n d_pos
    rw [value, significand, quotient, rounded, add_mul, add_sub_cancel_left, abs_mul,
      abs_of_pos (by positivity : (0 : ℚ) < 2 ^ (ofQuotient num den).exponent), mul_div_right_comm]
    gcongr
    linarith


theorem value_ofQuotient_mono (den_pos : 0 < den) (den_pos' : 0 < den')
    (le : (num / den : ℚ) ≤ num' / den') :
    (ofQuotient num den).value ≤ (ofQuotient num' den').value := by
  rcases num.eq_zero_or_pos with rfl | num_pos
  · simp only [ofQuotient, value, if_true, Nat.cast_zero, zero_mul]
    positivity
  have num_pos' : 0 < num' := by
    have : (0 : ℚ) < num' / den' := lt_of_lt_of_le (by positivity) le
    contrapose! this
    simp [Nat.le_zero.1 this]
  obtain ⟨n, d, d_pos, significand, quotient, lower, upper⟩ := ofQuotient_scaled num_pos den_pos
  obtain ⟨n', d', d_pos', significand', quotient', lower', upper'⟩ :=
    ofQuotient_scaled num_pos' den_pos'
  rw [value, value, significand, significand']
  rw [quotient, quotient'] at le
  generalize (ofQuotient num den).exponent = e at *
  generalize (ofQuotient num' den').exponent = e' at *
  have binades {e e' : ℤ} (less : e < e') : (2 : ℚ) ^ 53 * 2 ^ e ≤ 2 ^ 52 * 2 ^ e' := by
    have double : (2 : ℚ) ^ (e + 1) ≤ 2 ^ e' := zpow_le_zpow_right₀ one_le_two less
    rw [zpow_add_one₀ two_ne_zero] at double
    linarith
  have unit (e : ℤ) : (0 : ℚ) < 2 ^ e := by positivity
  rcases lt_trichotomy e e' with less | rfl | more
  · calc (roundQuotient n d : ℚ) * 2 ^ e ≤ 2 ^ 53 * 2 ^ e := by
          gcongr
          exact_mod_cast roundQuotient_le (k := 2 ^ 53) d_pos (by exact_mod_cast upper.le)
      _ ≤ 2 ^ 52 * 2 ^ e' := binades less
      _ ≤ roundQuotient n' d' * 2 ^ e' := by
          gcongr
          exact_mod_cast le_roundQuotient (k := 2 ^ 52) d_pos' (by exact_mod_cast lower')
  · gcongr
    exact roundQuotient_mono d_pos d_pos' (le_of_mul_le_mul_right le (unit e))
  · exfalso
    have above := mul_le_mul_of_nonneg_right lower (unit e).le
    have below := mul_lt_mul_of_pos_right upper' (unit e')
    linarith [binades more]

variable {x y : Binary} {k : ℕ}

theorem quotient_of_divNat (x : Binary) (k : ℕ) :
    (x.numerator / (x.denominator * k : ℕ) : ℚ) = x.value / k := by
  rw [Nat.cast_mul, ← div_div, numerator_div_denominator]

theorem value_divNat_mono (k_pos : 0 < k) (le : x.value ≤ y.value) :
    (x.divNat k).value ≤ (y.divNat k).value := by
  apply value_ofQuotient_mono (Nat.mul_pos x.denominator_pos k_pos)
    (Nat.mul_pos y.denominator_pos k_pos)
  rw [quotient_of_divNat, quotient_of_divNat]
  gcongr

theorem abs_value_divNat_sub_le (x : Binary) (k_pos : 0 < k) :
    |(x.divNat k).value - x.value / k| ≤ x.value / k / 2 ^ 53 := by
  rw [← quotient_of_divNat]
  exact abs_value_ofQuotient_sub_le (Nat.mul_pos x.denominator_pos k_pos)

theorem value_ofNat_mono {m n : ℕ} (le : m ≤ n) : (ofNat m).value ≤ (ofNat n).value := by
  apply value_ofQuotient_mono one_pos one_pos
  gcongr

theorem abs_value_ofNat_sub_le (n : ℕ) : |(ofNat n).value - n| ≤ n / 2 ^ 53 := by
  have near : |(ofQuotient n 1).value - n / (1 : ℕ)| ≤ n / (1 : ℕ) / 2 ^ 53 :=
    abs_value_ofQuotient_sub_le one_pos
  simpa [ofNat] using near

theorem atLeast_iff : x.atLeast k ↔ k ≤ x.value := by
  have pos : (0 : ℚ) < x.denominator := by exact_mod_cast x.denominator_pos
  rw [atLeast, decide_eq_true_eq, ← numerator_div_denominator, le_div_iff₀ pos]
  exact_mod_cast Iff.rfl

theorem quotient_of_hundredths (x : Binary) :
    ((x.numerator * 100 : ℕ) / x.denominator : ℚ) = 100 * x.value := by
  rw [← numerator_div_denominator]
  push_cast
  ring

theorem hundredths_mono (le : x.value ≤ y.value) : x.hundredths ≤ y.hundredths := by
  apply roundQuotient_mono x.denominator_pos y.denominator_pos
  rw [quotient_of_hundredths, quotient_of_hundredths]
  gcongr

theorem abs_hundredths_sub_le (x : Binary) : |(x.hundredths : ℚ) - 100 * x.value| ≤ 1 / 2 := by
  obtain ⟨gap, eq, near, -⟩ := roundQuotient_near (x.numerator * 100) x.denominator_pos
  rw [hundredths, eq, quotient_of_hundredths, add_sub_cancel_left]
  exact near

end Binary
end RemoteTags
