import Mathlib.Data.Nat.Find
import Mathlib.Tactic.IntervalCases
import RemoteTags.Proofs.Number.Rounding
import RemoteTags.Proofs.Text.Decimal
import RemoteTags.Size

/-! A readable size has the unit of which it holds at least one and less than a thousand, and its two
places are right to within one hundredth. Rounding to two places can still bring it up to a thousand
of its unit. Where that begins, and where the next unit begins, is known to the byte: both follow
from one run at the border, as all the rounding on the way is monotone. -/

namespace RemoteTags.Size

/-- `text` writes `x` in decimal notation with two places. -/
def TwoDecimals (text : String) (x : ℚ) : Prop :=
  ∃ (whole : ℕ) (tenths hundredths : Char),
    text = toString whole ++ "." ++ String.ofList [tenths, hundredths] ∧
      Decimal.isDigit tenths ∧ Decimal.isDigit hundredths ∧
      x = whole + Decimal.digit tenths / 10 + Decimal.digit hundredths / 100

theorem twoDecimals_twoPlaces (h : ℕ) : TwoDecimals (twoPlaces h) (h / 100) := by
  have less : h % 100 < 10 ^ 2 := Nat.mod_lt h (by decide)
  obtain ⟨a, b, places⟩ := List.length_eq_two.1 (Decimal.length_padded (by decide) less)
  have digits {c : Char} (mem : c ∈ [a, b]) : Decimal.isDigit c :=
    Decimal.isDigit_of_mem_padded (places ▸ mem)
  have value : Decimal.digit a * 10 + Decimal.digit b = h % 100 := by
    have all := Decimal.value_padded 2 (h % 100)
    simpa [places, Decimal.value] using all
  refine ⟨h / 100, a, b, ?_, digits (by simp), digits (by simp), ?_⟩
  · rw [twoPlaces, places]
  · have split : h = 100 * (h / 100) + (Decimal.digit a * 10 + Decimal.digit b) := by omega
    have cast : (h : ℚ) = 100 * (h / 100 : ℕ) + (Decimal.digit a * 10 + Decimal.digit b) := by
      exact_mod_cast split
    rw [cast]
    ring

/-- `n` after `k` divisions by a thousand, each of them rounded. -/
def reduced (n : ℕ) : ℕ → Binary
  | 0 => .ofNat n
  | k + 1 => (reduced n k).divNat 1000

/-- How far below `1000 ^ k` a size of 64 bits already counts as that power. Right below `1000 ^ 6`
the numbers with 53 bits are 128 apart; at the lower powers every whole number is one of them. -/
def early (k : ℕ) : ℕ := if k = 6 then 64 else 0

section Reduced

variable {m n k : ℕ}

theorem reduced_mono (le : m ≤ n) (k : ℕ) : (reduced m k).value ≤ (reduced n k).value := by
  induction k with
  | zero => exact Binary.value_ofNat_mono le
  | succ k ih => exact Binary.value_divNat_mono (by decide) ih

theorem abs_reduced_sub_le (n : ℕ) (few : k < 2 ^ 52) :
    |(reduced n k).value * 1000 ^ k - n| ≤ (k + 1) * n / 2 ^ 52 := by
  have positive : (0 : ℚ) ≤ n := by positivity
  induction k with
  | zero =>
    have whole := Binary.abs_value_ofNat_sub_le n
    simp only [reduced, pow_zero, mul_one, Nat.cast_zero, zero_add, one_mul]
    linarith
  | succ k ih =>
    have earlier := ih (by omega)
    have divided := Binary.abs_value_divNat_sub_le (reduced n k) (k := 1000) (by decide)
    simp only [reduced]
    generalize (reduced n k).value = v at *
    generalize ((reduced n k).divNat 1000).value = v' at *
    have step : |(v' - v / 1000) * 1000 ^ (k + 1)| ≤ v * 1000 ^ k / 2 ^ 53 := by
      rw [abs_mul, abs_of_pos (by positivity : (0 : ℚ) < 1000 ^ (k + 1))]
      calc |v' - v / 1000| * 1000 ^ (k + 1) ≤ v / 1000 / 2 ^ 53 * 1000 ^ (k + 1) := by
            gcongr
            exact_mod_cast divided
        _ = v * 1000 ^ k / 2 ^ 53 := by ring
    have double : v * 1000 ^ k ≤ 2 * n := by
      have factor : (k + 1 : ℚ) ≤ 2 ^ 52 := by exact_mod_cast few.le
      have small : (k + 1) * n ≤ 2 ^ 52 * (n : ℚ) := by gcongr
      linarith [(abs_le.1 earlier).2]
    calc |v' * 1000 ^ (k + 1) - n|
        = |(v' - v / 1000) * 1000 ^ (k + 1) + (v * 1000 ^ k - n)| := by ring_nf
      _ ≤ |(v' - v / 1000) * 1000 ^ (k + 1)| + |v * 1000 ^ k - n| := abs_add_le _ _
      _ ≤ ((k + 1 : ℕ) + 1) * n / 2 ^ 52 := by
          push_cast
          linarith

/-- What stays true of larger numbers, and is false right before `first`, begins there. -/
theorem iff_first_le {P : ℕ → Prop} (up : ∀ {m n}, m ≤ n → P m → P n) {first : ℕ}
    (here : P first) (before : ¬ P (first - 1)) : P n ↔ first ≤ n := by
  refine ⟨fun holds => ?_, fun le => up le here⟩
  by_contra less
  exact before (up (by omega) holds)

theorem atLeast_reduced_iff (few : k < 7) (bits : n < 2 ^ 64) :
    (reduced n k).atLeast 1000 ↔ 1000 ^ (k + 1) ≤ n + early (k + 1) := by
  -- The sizes on either side of each border decide it for all others.
  have frontier : ∀ k < 6, (reduced (1000 ^ (k + 1) - early (k + 1)) k).atLeast 1000 ∧
      ¬ (reduced (1000 ^ (k + 1) - early (k + 1) - 1) k).atLeast 1000 := by
    decide +kernel
  have up {m n : ℕ} (le : m ≤ n) (above : (reduced m k).atLeast 1000) :
      (reduced n k).atLeast 1000 := by
    rw [Binary.atLeast_iff] at above ⊢
    exact above.trans (reduced_mono le k)
  rcases (Nat.le_of_lt_succ few).lt_or_eq with less | rfl
  · obtain ⟨here, before⟩ := frontier k less
    rw [← Nat.sub_le_iff_le_add]
    exact iff_first_le (P := fun n => (reduced n k).atLeast 1000) up here before
  · -- The border of the last unit lies beyond all sizes.
    have greatest : ¬ (reduced (2 ^ 64 - 1) 6).atLeast 1000 := by decide +kernel
    refine iff_of_false (fun above => greatest (up (by omega) above)) ?_
    simp [early]
    omega

theorem atLeast_of_reached (few : k < 7) (bits : n < 2 ^ 64) (reached : 1000 ^ k ≤ n + early k)
    {i : ℕ} (less : i < k) : (reduced n i).atLeast 1000 := by
  have apart : ∀ k < 7, ∀ i < k, 1000 ^ (i + 1) + early k ≤ 1000 ^ k + early (i + 1) := by decide
  rw [atLeast_reduced_iff (by omega) bits]
  linarith [apart k few i less]

theorem hundredths_reduced_lt_iff (divided : 0 < k) (few : k < 7) (bits : n < 2 ^ 64) :
    (reduced n k).hundredths < 100000 ↔
      n + early (k + 1) + 5 * 1000 ^ (k - 1) < 1000 ^ (k + 1) := by
  have frontier : ∀ k < 6, 0 < k →
      let first := 1000 ^ (k + 1) - 5 * 1000 ^ (k - 1) - early (k + 1)
      100000 ≤ (reduced first k).hundredths ∧ ¬ 100000 ≤ (reduced (first - 1) k).hundredths := by
    decide +kernel
  have up {m n : ℕ} (le : m ≤ n) : (reduced m k).hundredths ≤ (reduced n k).hundredths :=
    Binary.hundredths_mono (reduced_mono le k)
  rcases (Nat.le_of_lt_succ few).lt_or_eq with less | rfl
  · obtain ⟨here, before⟩ := frontier k less divided
    have rounded := iff_first_le (n := n) (P := fun n => 100000 ≤ (reduced n k).hundredths)
      (fun le above => above.trans (up le)) here before
    omega
  · have greatest : (reduced (2 ^ 64 - 1) 6).hundredths < 100000 := by decide +kernel
    refine iff_of_true ((up (by omega)).trans_lt greatest) ?_
    simp [early]
    omega

end Reduced

section Units

variable {n k j : ℕ} {unit shown : String} {rest : List String}

theorem scale_reduced (le : k ≤ j) (above : ∀ i, k ≤ i → i < j → (reduced n i).atLeast 1000)
    (below : ¬ (reduced n j).atLeast 1000) (found : (unit :: rest)[j - k]? = some shown) :
    scale (reduced n k) unit rest = (reduced n j, shown) := by
  induction rest generalizing k unit with
  | nil =>
    obtain ⟨last, rfl⟩ := List.getElem?_eq_some_iff.1 found
    obtain rfl : k = j := by simp at last; omega
    simp [scale]
  | cons larger rest ih =>
    rw [scale]
    split
    case isTrue more =>
      have less : k < j := lt_of_le_of_ne le fun same => below (same ▸ more)
      apply ih less fun i after => above i (by omega)
      rwa [show j - k = j - (k + 1) + 1 by omega, List.getElem?_cons_succ] at found
    case isFalse less =>
      obtain rfl : k = j := by
        by_contra other
        exact less (above k le_rfl (by omega))
      simpa using found

theorem format_of_unit (large : 1000 ≤ n) (above : ∀ i < k, (reduced n i).atLeast 1000)
    (below : ¬ (reduced n k).atLeast 1000) (found : units[k]? = some shown) :
    format n = twoPlaces (reduced n k).hundredths ++ " " ++ shown := by
  have scaled : scale (Binary.ofNat n) "B" units.tail = (reduced n k, shown) :=
    scale_reduced k.zero_le (fun i _ => above i) below found
  rw [format, if_neg (by omega), scaled]

theorem exists_unit (large : 1000 ≤ n) (bits : n < 2 ^ 64) : ∃ k, 0 < k ∧ k < 7 ∧
    1000 ^ k ≤ n + early k ∧ n + early (k + 1) < 1000 ^ (k + 1) := by
  let reaches (k : ℕ) : Prop := 1000 ^ k ≤ n + early k
  have one : reaches 1 := large
  have spec := Nat.findGreatest_spec (P := reaches) (by decide : 1 ≤ 6) one
  have positive := Nat.le_findGreatest (P := reaches) (by decide : 1 ≤ 6) one
  have le := Nat.findGreatest_le (P := reaches) 6
  have greatest {k : ℕ} := Nat.findGreatest_is_greatest (P := reaches) (n := 6) (k := k)
  generalize Nat.findGreatest reaches 6 = k at *
  refine ⟨k, positive, by omega, spec, ?_⟩
  by_contra more
  rcases le.lt_or_eq with less | rfl
  · exact greatest k.lt_succ_self less (not_lt.1 more)
  · simp [early] at more
    omega

end Units

section Shown

variable {n k : ℕ}

theorem hundredths_reduced_range (above : (reduced n k).atLeast 1000)
    (below : ¬ (reduced n (k + 1)).atLeast 1000) :
    100 ≤ (reduced n (k + 1)).hundredths ∧ (reduced n (k + 1)).hundredths ≤ 100000 := by
  rw [Binary.atLeast_iff] at above below
  have divided := Binary.abs_value_divNat_sub_le (reduced n k) (k := 1000) (by decide)
  have near := Binary.abs_hundredths_sub_le (reduced n (k + 1))
  change |(reduced n (k + 1)).value - _| ≤ _ at divided
  generalize (reduced n (k + 1)).value = v at *
  generalize (reduced n (k + 1)).hundredths = h at *
  have lower : 1 - 1 / 2 ^ 53 ≤ v := by
    have := (abs_le.1 divided).1
    push_cast at above this
    linarith
  have upper : v < 1000 := by exact_mod_cast not_le.1 below
  constructor
  · by_contra small
    have : (h : ℚ) ≤ 99 := by exact_mod_cast Nat.le_of_lt_succ (not_le.1 small)
    linarith [(abs_le.1 near).1]
  · by_contra large
    have : (100001 : ℚ) ≤ h := by exact_mod_cast not_le.1 large
    linarith [(abs_le.1 near).2]

/-- The number that is shown is off by a hundredth at most: half of one for the two places, and far
less for the divisions. -/
theorem abs_hundredths_reduced_sub_le (few : k < 7) (below : ¬ (reduced n k).atLeast 1000) :
    |((reduced n k).hundredths / 100 * 1000 ^ k - n : ℚ)| ≤ 1000 ^ k / 100 := by
  have near := Binary.abs_hundredths_sub_le (reduced n k)
  have rounding := abs_reduced_sub_le n (by omega : k < 2 ^ 52)
  have upper : (reduced n k).value ≤ 1000 := by
    rw [Binary.atLeast_iff] at below
    exact_mod_cast (not_le.1 below).le
  have unit : (0 : ℚ) < 1000 ^ k := by positivity
  generalize (reduced n k).value = v at *
  generalize (reduced n k).hundredths = h at *
  generalize (1000 : ℚ) ^ k = M at *
  have error : |v * M - n| ≤ 7 * n / 2 ^ 52 := by
    refine rounding.trans ?_
    gcongr
    exact_mod_cast few
  have size : (n : ℚ) ≤ 2000 * M := by
    have := mul_le_mul_of_nonneg_right upper unit.le
    linarith [(abs_le.1 error).1]
  calc |h / 100 * M - n| = |(h - 100 * v) * (M / 100) + (v * M - n)| := by ring_nf
    _ ≤ |(h - 100 * v) * (M / 100)| + |v * M - n| := abs_add_le _ _
    _ = |h - 100 * v| * (M / 100) + |v * M - n| := by
        rw [abs_mul, abs_of_pos (by positivity : 0 < M / 100)]
    _ ≤ 1 / 2 * (M / 100) + 7 * n / 2 ^ 52 := by gcongr
    _ ≤ M / 100 := by linarith

end Shown

/-- A size below a thousand is written as it is. Any other has a unit of which it holds at least one
and less than a thousand (but for the few bytes that are `early`), and a number with two places that
is off by one hundredth at most. The number is at least one. It is less than a thousand, except for
the sizes that miss the next unit by no more than half a hundredth: there it is a thousand, and the
unit is still the smaller one. -/
theorem format_within_hundredth (n : UInt64) :
    n.toNat < 1000 ∧ format n.toNat = toString n.toNat ++ " B" ∨
    1000 ≤ n.toNat ∧ ∃ k unit number x, 0 < k ∧ units[k]? = some unit ∧
      1000 ^ k ≤ n.toNat + early k ∧ n.toNat + early (k + 1) < 1000 ^ (k + 1) ∧
      format n.toNat = number ++ " " ++ unit ∧ TwoDecimals number x ∧
      |x * 1000 ^ k - n.toNat| ≤ 1000 ^ k / 100 ∧ 1 ≤ x ∧ x ≤ 1000 ∧
      (x < 1000 ↔ n.toNat + early (k + 1) + 5 * 1000 ^ (k - 1) < 1000 ^ (k + 1)) := by
  have bits : n.toNat < 2 ^ 64 := n.toNat_lt
  generalize n.toNat = n at *
  rcases Nat.lt_or_ge n 1000 with small | large
  · exact .inl ⟨small, by rw [format, if_pos small]⟩
  obtain ⟨k, divided, few, reached, short⟩ := exists_unit large bits
  have above {i : ℕ} (less : i < k) : (reduced n i).atLeast 1000 :=
    atLeast_of_reached few bits reached less
  have below : ¬ (reduced n k).atLeast 1000 := by
    rw [atLeast_reduced_iff few bits]
    exact not_le.2 short
  obtain ⟨unit, found⟩ : ∃ unit, units[k]? = some unit := by
    have : k < units.length := by simp [units]; omega
    exact ⟨_, List.getElem?_eq_getElem this⟩
  have margin := hundredths_reduced_lt_iff divided few bits
  have range := hundredths_reduced_range (k := k - 1) (above (by omega))
  rw [Nat.sub_add_cancel divided] at range
  obtain ⟨least, most⟩ := range below
  refine .inr ⟨large, k, unit, _, _, divided, found, reached, short,
    format_of_unit large (fun _ => above) below found, twoDecimals_twoPlaces _,
    abs_hundredths_reduced_sub_le few below, ?_, ?_, ?_⟩
  · rw [le_div_iff₀ (by norm_num)]
    exact_mod_cast least
  · rw [div_le_iff₀ (by norm_num)]
    exact_mod_cast most
  · rw [← margin, div_lt_iff₀ (by norm_num)]
    norm_cast

/-- One byte less than a megabyte shows as a thousand kilobytes. -/
theorem format_within_hundredth_brim :
    ∃ number x, format 999999 = number ++ " " ++ "kB" ∧ TwoDecimals number x ∧ x = 1000 := by
  rcases format_within_hundredth 999999 with ⟨small, -⟩ | ⟨-, k, unit, number, x, rest⟩
  · exact absurd small (by decide)
  · obtain ⟨divided, found, reached, short, shown, written, -, -, le, margin⟩ := rest
    change 1000 ^ k ≤ 999999 + early k at reached
    change 999999 + early (k + 1) < 1000 ^ (k + 1) at short
    obtain rfl : k = 1 := by
      obtain ⟨few, -⟩ := List.getElem?_eq_some_iff.1 found
      change k < 9 at few
      interval_cases k <;> simp [early] at reached ⊢
    obtain rfl : "kB" = unit := Option.some.inj found
    have brim : ¬ x < 1000 := by
      rw [margin]
      decide
    exact ⟨number, x, shown, written, le.antisymm (not_lt.1 brim)⟩

end RemoteTags.Size
