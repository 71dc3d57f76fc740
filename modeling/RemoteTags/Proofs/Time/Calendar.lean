import Mathlib.Tactic.IntervalCases
import RemoteTags.Time.Civil

/-! Days and dates are the same thing: the date of a day is a date of the calendar and has the
number of that day. So a moment shows the very seconds that it was made from. -/

namespace RemoteTags.Time

/-- A day in cycles of 400, 100, 4 and 1 years, each beginning with a first of March. -/
structure Cycles where
  cycle : Int
  century : Nat
  four : Nat
  one : Nat
  inYear : Nat
  century_le : century ≤ 3
  four_le : four ≤ 24
  one_le : one ≤ 3
  inYear_le : inYear ≤ 365
  -- A year with a leap day is the last one of four, and of a century only every fourth time.
  leap : inYear = 365 → one = 3 ∧ (four = 24 → century = 3)

namespace Cycles

/-- The year that the last March before the day belongs to. -/
def year (s : Cycles) : Int := s.cycle * 400 + s.century * 100 + s.four * 4 + s.one

def day (s : Cycles) : Int :=
  146097 * s.cycle + 36524 * s.century + 1461 * s.four + 365 * s.one + s.inYear - 719468

def month (s : Cycles) : Nat := (5 * s.inYear + 2) / 153

def date (s : Cycles) : Date :=
  let month := if s.month < 10 then s.month + 3 else s.month - 9
  ⟨if month ≤ 2 then s.year + 1 else s.year, month, s.inYear - (153 * s.month + 2) / 5 + 1⟩

theorem month_le (s : Cycles) : s.month ≤ 11 := by
  have bound := s.inYear_le
  unfold month
  omega

theorem inMonth (s : Cycles) : (153 * s.month + 2) / 5 ≤ s.inYear := by
  unfold month
  omega

theorem dayNumber_date (s : Cycles) : dayNumber s.date = s.day := by
  have centuries : s.year / 100 = 4 * s.cycle + s.century := by
    have := s.four_le
    have := s.one_le
    unfold year
    omega
  have fours : s.year / 4 = 100 * s.cycle + 25 * s.century + s.four := by
    have := s.one_le
    unfold year
    omega
  have cycles : s.year / 400 = s.cycle := by
    have := s.century_le
    have := s.four_le
    have := s.one_le
    unfold year
    omega
  have count : 365 * s.year + s.year / 4 - s.year / 100 + s.year / 400 =
      146097 * s.cycle + 36524 * s.century + 1461 * s.four + 365 * s.one := by
    rw [centuries, fours, cycles, year]
    omega
  have months := s.month_le
  have begun := s.inMonth
  unfold dayNumber date
  by_cases early : s.month < 10
  · have march : ¬ s.month + 3 ≤ 2 := by omega
    simp only [early, if_true, march, if_false, Nat.add_sub_cancel, count, day]
    omega
  · have january : s.month - 9 ≤ 2 := by omega
    have back : s.month - 9 + 9 = s.month := by omega
    simp only [early, if_false, january, if_true, Int.add_sub_cancel, back, count, day]
    omega

theorem isLeapYear_date (s : Cycles) (leapDay : s.inYear = 365) : isLeapYear (s.year + 1) := by
  obtain ⟨last, fourth⟩ := s.leap leapDay
  have fours : (s.year + 1) % 4 = 0 := by
    unfold year
    omega
  have centuries : (s.year + 1) % 100 ≠ 0 ∨ (s.year + 1) % 400 = 0 := by
    have := s.four_le
    by_cases end' : s.four = 24
    · have := fourth end'
      unfold year
      omega
    · unfold year
      omega
  simpa [isLeapYear, fours] using centuries

theorem isValid_date (s : Cycles) : s.date.isValid := by
  have bound := s.inYear_le
  have months := s.month_le
  have begun := s.inMonth
  have ends : s.inYear < (153 * (s.month + 1) + 2) / 5 := by
    unfold month
    omega
  have leap := s.isLeapYear_date
  unfold date Date.isValid daysInMonth
  generalize s.month = m at months begun ends ⊢
  interval_cases m
  case «11» =>
    -- February, which has its 29th day in a leap year only.
    by_cases leapDay : s.inYear = 365
    · simp [leapDay, leap leapDay]
    · simp only [Nat.reduceMul, Nat.reduceAdd, Nat.reduceDiv] at begun
      simp
      split <;> omega
  all_goals
    simp at begun ends ⊢
    omega

end Cycles

theorem exists_cycles (n : Int) : ∃ s : Cycles, s.day = n ∧ dateOfDay n = s.date := by
  let z := n + 719468
  have inCycle_lt : (z % 146097).toNat < 146097 := by omega
  have whole : 146097 * (z / 146097) + (z % 146097).toNat = z := by omega
  obtain ⟨inCycle, inCycle_eq⟩ : ∃ i, (z % 146097).toNat = i := ⟨_, rfl⟩
  obtain ⟨century, century_eq⟩ : ∃ c, min 3 (inCycle / 36524) = c := ⟨_, rfl⟩
  obtain ⟨inCentury, inCentury_eq⟩ : ∃ i, inCycle - century * 36524 = i := ⟨_, rfl⟩
  obtain ⟨four, four_eq⟩ : ∃ f, inCentury / 1461 = f := ⟨_, rfl⟩
  obtain ⟨inFour, inFour_eq⟩ : ∃ i, inCentury - four * 1461 = i := ⟨_, rfl⟩
  obtain ⟨one, one_eq⟩ : ∃ o, min 3 (inFour / 365) = o := ⟨_, rfl⟩
  rw [inCycle_eq] at inCycle_lt whole
  have century_long : inCentury ≤ 36524 ∧ (inCentury = 36524 → century = 3) := by omega
  have four_long : four ≤ 24 ∧ inFour ≤ 1460 := by omega
  have one_long : inFour - one * 365 ≤ 365 ∧ (inFour - one * 365 = 365 → inFour = 1460) := by omega
  refine ⟨⟨z / 146097, century, four, one, inFour - one * 365, by omega, four_long.1, by omega,
    one_long.1, fun leapDay => ⟨by omega, fun last => ?_⟩⟩, ?_, ?_⟩
  · exact century_long.2 (by have := one_long.2 leapDay; omega)
  · simp only [Cycles.day]
    omega
  · subst one_eq inFour_eq four_eq inCentury_eq century_eq inCycle_eq
    rfl

theorem dayNumber_dateOfDay (n : Int) : dayNumber (dateOfDay n) = n := by
  obtain ⟨s, day, date⟩ := exists_cycles n
  rw [date, s.dayNumber_date, day]

theorem isValid_dateOfDay (n : Int) : (dateOfDay n).isValid := by
  obtain ⟨s, -, date⟩ := exists_cycles n
  rw [date]
  exact s.isValid_date

theorem daysInMonth_le (y : Int) (month : Nat) : daysInMonth y month ≤ 31 := by
  unfold daysInMonth
  split
  · split <;> decide
  · split <;> decide

theorem dayNumber_inYear {d : Date} (valid : d.isValid) :
    dayNumber ⟨d.year, 1, 1⟩ ≤ dayNumber d ∧ dayNumber d ≤ dayNumber ⟨d.year, 12, 31⟩ := by
  obtain ⟨y, month, day⟩ := d
  simp only [Date.isValid, Bool.and_eq_true, decide_eq_true_eq] at valid
  obtain ⟨⟨⟨january, december⟩, first⟩, last⟩ := valid
  have short : day ≤ 31 := Nat.le_trans last (daysInMonth_le y month)
  unfold dayNumber
  interval_cases month <;> simp <;> omega

theorem dayNumber_lt_of_year_lt {y z : Int} (before : y < z) :
    dayNumber ⟨y, 12, 31⟩ < dayNumber ⟨z, 1, 1⟩ := by
  simp only [dayNumber, Nat.reduceLeDiff, if_true, if_false]
  omega

structure Moment.Valid (m : Moment) : Prop where
  date : m.date.isValid
  first : firstYear ≤ m.date.year
  last : m.date.year ≤ lastYear
  hour : m.hour < 24
  minute : m.minute < 60
  second : m.second < 60

theorem year_of_isRepresentable {d : Date} (valid : d.isValid)
    (reached : isRepresentable (dayNumber d)) : firstYear ≤ d.year ∧ d.year ≤ lastYear := by
  obtain ⟨first, last⟩ := dayNumber_inYear valid
  simp only [isRepresentable, Bool.and_eq_true, decide_eq_true_eq] at reached
  refine ⟨Int.not_lt.1 fun before => ?_, Int.not_lt.1 fun after => ?_⟩
  · have := dayNumber_lt_of_year_lt before
    omega
  · have := dayNumber_lt_of_year_lt after
    omega

theorem moment?_eq_some {t : Int} {m : Moment} (shown : moment? t = some m) :
    m.Valid ∧ m.seconds = t ∧ isRepresentable (t / secondsPerDay) := by
  simp only [moment?, Option.ite_none_right_eq_some, Option.some.injEq] at shown
  obtain ⟨reached, rfl⟩ := shown
  have clock : (t % secondsPerDay).toNat < 86400 := by
    unfold secondsPerDay
    omega
  obtain ⟨first, last⟩ := year_of_isRepresentable (isValid_dateOfDay (t / secondsPerDay))
    (by rwa [dayNumber_dateOfDay])
  refine ⟨⟨isValid_dateOfDay _, first, last, ?_, ?_, ?_⟩, ?_, reached⟩
  · exact Nat.div_lt_of_lt_mul clock
  · exact Nat.mod_lt _ (by decide)
  · exact Nat.mod_lt _ (by decide)
  · rw [Moment.seconds, dayNumber_dateOfDay]
    dsimp only [secondsPerDay]
    omega

end RemoteTags.Time
