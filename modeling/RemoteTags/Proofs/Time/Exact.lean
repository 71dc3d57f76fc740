import Mathlib.Algebra.BigOperators.Intervals
import Mathlib.Data.Rat.Floor
import Mathlib.Tactic.Ring
import RemoteTags.Proofs.Time.Stamp

/-! The number of a day is what one gets by counting: the days of the years that are over, those of
the months of the year that are over, and those of the month. With these a stamp tells a point in
time exactly, down to its fraction of a second, and the reader takes the whole second before it. -/

namespace RemoteTags.Time
open Finset

def yearLength (year : Nat) : Nat := ∑ month ∈ Ico 1 13, daysInMonth year month

/-- The days between the beginning of the year 0 and a date. -/
def daysUntil (year month day : Nat) : Nat :=
  ∑ y ∈ range year, yearLength y + ∑ m ∈ Ico 1 month, daysInMonth year m + (day - 1)

section Step

variable {y : Int} {month day : Nat}

theorem dayNumber_of_day (first : 1 ≤ day) :
    dayNumber ⟨y, month, day⟩ = dayNumber ⟨y, month, 1⟩ + (day - 1 : Nat) := by
  simp only [dayNumber]
  omega

theorem dayNumber_of_month (january : 1 ≤ month) (december : month < 12) :
    dayNumber ⟨y, month + 1, 1⟩ = dayNumber ⟨y, month, 1⟩ + daysInMonth y month := by
  unfold dayNumber daysInMonth
  interval_cases month
  case «2» =>
    -- The leap day falls between the two first days here, and nowhere else.
    have leap : isLeapYear y = true ↔ y % 4 = 0 ∧ (y % 100 ≠ 0 ∨ y % 400 = 0) := by
      simp [isLeapYear]
    simp
    split
    · have := leap.1 ‹_›
      omega
    · have := mt leap.2 ‹_›
      omega
  all_goals
    simp
    omega

theorem dayNumber_of_year : dayNumber ⟨y + 1, 1, 1⟩ = dayNumber ⟨y, 12, 1⟩ + daysInMonth y 12 := by
  simp [dayNumber, daysInMonth]
  omega

end Step

theorem dayNumber_of_months (y : Int) {month : Nat} (january : 1 ≤ month) (december : month ≤ 12) :
    dayNumber ⟨y, month, 1⟩ = dayNumber ⟨y, 1, 1⟩ + (∑ m ∈ Ico 1 month, daysInMonth y m : Nat) := by
  induction month, january using Nat.le_induction with
  | base => simp
  | succ month january ih =>
    rw [dayNumber_of_month january december, ih (Nat.le_of_lt december),
      sum_Ico_succ_top january, Nat.cast_add, add_assoc]

theorem dayNumber_of_years (year : Nat) :
    dayNumber ⟨year, 1, 1⟩ = dayNumber ⟨0, 1, 1⟩ + (∑ y ∈ range year, yearLength y : Nat) := by
  induction year with
  | zero => simp
  | succ year ih =>
    have months : dayNumber ⟨year, 12, 1⟩ =
        dayNumber ⟨year, 1, 1⟩ + (∑ m ∈ Ico 1 12, daysInMonth year m : Nat) :=
      dayNumber_of_months year (by decide) (by decide)
    have length : yearLength year =
        ∑ m ∈ Ico 1 12, daysInMonth year m + daysInMonth year 12 :=
      sum_Ico_succ_top (by decide) _
    rw [Nat.cast_succ, dayNumber_of_year, months, ih, sum_range_succ, length]
    push_cast
    ring

theorem dayNumber_of_year_zero {year month day : Nat}
    (valid : (⟨year, month, day⟩ : Date).isValid) :
    dayNumber ⟨year, month, day⟩ = dayNumber ⟨0, 1, 1⟩ + daysUntil year month day := by
  simp only [Date.isValid, Bool.and_eq_true, decide_eq_true_eq] at valid
  obtain ⟨⟨⟨january, december⟩, first⟩, -⟩ := valid
  rw [dayNumber_of_day first, dayNumber_of_months year january december, dayNumber_of_years,
    daysUntil]
  push_cast
  ring

theorem dayNumber_eq {year month day : Nat} (valid : (⟨year, month, day⟩ : Date).isValid) :
    dayNumber ⟨year, month, day⟩ = (daysUntil year month day : Int) - daysUntil 1970 1 1 := by
  have beginning : dayNumber ⟨(1970 : Nat), 1, 1⟩ = 0 := by decide
  have since : dayNumber ⟨(1970 : Nat), 1, 1⟩ = dayNumber ⟨0, 1, 1⟩ + daysUntil 1970 1 1 :=
    dayNumber_of_year_zero (by decide)
  have counted := dayNumber_of_year_zero valid
  omega

/-- A stamp as it is written: a date of the calendar, a time of day, a fraction of a second and a
distance from universal time. -/
structure Stamp where
  year : Nat
  month : Nat
  day : Nat
  hour : Nat
  minute : Nat
  second : Nat
  -- The digits behind the point. Without digits there is no point.
  fraction : List Char
  offset : Offset
  year_le : year ≤ 9999
  date : (⟨year, month, day⟩ : Date).isValid
  hour_lt : hour < 24
  minute_lt : minute < 60
  second_lt : second < 60
  digits : ∀ c ∈ fraction, Decimal.isDigit c

namespace Stamp

variable (s : Stamp)

def fractionText : List Char := if s.fraction.isEmpty then [] else '.' :: s.fraction

/-- `YYYY-MM-DD hh:mm:ss[.fraction] +hhmm`. -/
def text : List Char :=
  Decimal.padded 4 s.year ++ '-' :: Decimal.padded 2 s.month ++ '-' :: Decimal.padded 2 s.day ++
    ' ' :: Decimal.padded 2 s.hour ++ ':' :: Decimal.padded 2 s.minute ++
    ':' :: Decimal.padded 2 s.second ++ s.fractionText ++ ' ' :: s.offset.text

def partOfSecond : ℚ := Decimal.value s.fraction / 10 ^ s.fraction.length

def time : ℚ :=
  ((daysUntil s.year s.month s.day : ℚ) - daysUntil 1970 1 1) * 86400 + s.hour * 3600 +
    s.minute * 60 + s.second + s.partOfSecond - s.offset.seconds

def moment : Moment := ⟨⟨s.year, s.month, s.day⟩, s.hour, s.minute, s.second⟩

theorem fraction_fractionText : Fraction s.fractionText := by
  unfold fractionText
  split
  · exact .none
  · rename_i nonempty
    exact .digits (by simpa using nonempty) s.digits

theorem text_eq : s.text = s.moment.text s.fractionText s.offset := by
  have year : yearText s.year = Decimal.padded 4 s.year := by
    have := s.year_le
    rw [yearText, if_pos (by simp; omega), Int.toNat_natCast]
  simp [text, Moment.text, Moment.minuteText, dateText, moment, year]

theorem valid : s.moment.Valid where
  date := s.date
  first := by
    dsimp only [firstYear, moment]
    omega
  last := by
    have := s.year_le
    dsimp only [lastYear, moment]
    omega
  hour := s.hour_lt
  minute := s.minute_lt
  second := s.second_lt

theorem isRepresentable_day :
    isRepresentable ((s.moment.seconds - s.offset.seconds) / secondsPerDay) := by
  have := s.hour_lt
  have := s.minute_lt
  have := s.second_lt
  have clock : s.hour * 3600 + s.minute * 60 + s.second < 86400 := by omega
  obtain ⟨west, east⟩ := s.offset.bounds
  have inYear := dayNumber_inYear s.date
  have first : dayNumber ⟨firstYear, 12, 31⟩ < dayNumber ⟨s.year, 1, 1⟩ :=
    dayNumber_lt_of_year_lt (by unfold firstYear; omega)
  have last : dayNumber ⟨s.year, 12, 31⟩ < dayNumber ⟨lastYear, 1, 1⟩ := by
    have := s.year_le
    exact dayNumber_lt_of_year_lt (by unfold lastYear; omega)
  have long : dayNumber ⟨firstYear, 1, 1⟩ < dayNumber ⟨firstYear, 12, 31⟩ ∧
      dayNumber ⟨lastYear, 1, 1⟩ < dayNumber ⟨lastYear, 12, 31⟩ := by decide
  rw [isRepresentable, Bool.and_eq_true, decide_eq_true_eq, decide_eq_true_eq]
  dsimp only [Moment.seconds, moment, secondsPerDay] at west east inYear ⊢
  omega

theorem partOfSecond_bounds : 0 ≤ s.partOfSecond ∧ s.partOfSecond < 1 := by
  have less : (Decimal.value s.fraction : ℚ) < 10 ^ s.fraction.length := by
    exact_mod_cast Decimal.value_lt s.digits
  have positive : (0 : ℚ) < 10 ^ s.fraction.length := pow_pos (by norm_num) _
  exact ⟨div_nonneg (Nat.cast_nonneg _) positive.le, (div_lt_one positive).2 less⟩

theorem floor_time : ⌊s.time⌋ = s.moment.seconds - s.offset.seconds := by
  have split : s.time = ((s.moment.seconds - s.offset.seconds : ℤ) : ℚ) + s.partOfSecond := by
    rw [time, Moment.seconds, moment, dayNumber_eq s.date, secondsPerDay]
    push_cast
    ring
  rw [split, Int.floor_intCast_add, Int.floor_eq_zero_iff.2 s.partOfSecond_bounds, add_zero]

theorem readStamp_eq : readStamp s.text = some ⌊s.time⌋ := by
  rw [text_eq, readStamp_text s.valid s.fraction_fractionText, if_pos s.isRepresentable_day,
    floor_time]

theorem text_start : ∀ c ∈ s.text.head?, Decimal.isDigit c := by
  intro c first
  have nonempty := Decimal.padded_ne_nil 4 s.year
  rw [text] at first
  simp only [List.append_assoc, List.head?_append, List.head?_eq_some_head nonempty, Option.some_or,
    Option.mem_some_iff] at first
  exact Decimal.isDigit_of_mem_padded (first ▸ List.head_mem nonempty)

theorem compact : Compact s.text := s.text_eq ▸ compact_text s.moment s.fraction_fractionText _

end Stamp

end RemoteTags.Time
