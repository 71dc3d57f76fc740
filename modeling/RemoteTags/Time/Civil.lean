/-! The proleptic Gregorian calendar: days counted from 1970-01-01, and the date of a day. Years
are counted from March inside, so that the leap day is the last day of its year. -/

namespace RemoteTags.Time

structure Date where
  year : Int
  month : Nat
  day : Nat
deriving DecidableEq, Repr

def isLeapYear (y : Int) : Bool := y % 4 = 0 && (y % 100 ≠ 0 || y % 400 = 0)

def daysInMonth (y : Int) (month : Nat) : Nat :=
  if month = 2 then (if isLeapYear y then 29 else 28)
  else if month = 4 || month = 6 || month = 9 || month = 11 then 30
  else 31

def Date.isValid (d : Date) : Bool :=
  1 ≤ d.month && d.month ≤ 12 && 1 ≤ d.day && d.day ≤ daysInMonth d.year d.month

/-- The number of a date's day; day 0 is 1970-01-01. -/
def dayNumber (d : Date) : Int :=
  -- Months from March, and the year that began with that March.
  let y := if d.month ≤ 2 then d.year - 1 else d.year
  let m := if d.month ≤ 2 then d.month + 9 else d.month - 3
  365 * y + y / 4 - y / 100 + y / 400 + ((153 * m + 2) / 5 : Nat) + d.day - 1 - 719468

/-- The date of a day. Cycles of 400, 100, 4 and 1 years are taken off in turn; the last century
of a cycle and the last year of four are one day longer. -/
def dateOfDay (n : Int) : Date :=
  let z := n + 719468
  let cycle := z / 146097
  let inCycle := (z % 146097).toNat
  let century := min 3 (inCycle / 36524)
  let inCentury := inCycle - century * 36524
  let four := inCentury / 1461
  let inFour := inCentury - four * 1461
  let one := min 3 (inFour / 365)
  let inYear := inFour - one * 365
  let m := (5 * inYear + 2) / 153
  let day := inYear - (153 * m + 2) / 5 + 1
  let month := if m < 10 then m + 3 else m - 9
  let year := cycle * 400 + century * 100 + four * 4 + one
  ⟨if month ≤ 2 then year + 1 else year, month, day⟩

def firstYear : Int := -262143

def lastYear : Int := 262142

def secondsPerDay : Int := 86400

structure Moment where
  date : Date
  hour : Nat
  minute : Nat
  second : Nat
deriving DecidableEq, Repr

def isRepresentable (day : Int) : Bool :=
  dayNumber ⟨firstYear, 1, 1⟩ ≤ day && day ≤ dayNumber ⟨lastYear, 12, 31⟩

def moment? (seconds : Int) : Option Moment :=
  let day := seconds / secondsPerDay
  let clock := (seconds % secondsPerDay).toNat
  if isRepresentable day then
    some ⟨dateOfDay day, clock / 3600, clock / 60 % 60, clock % 60⟩
  else none

def Moment.seconds (m : Moment) : Int :=
  dayNumber m.date * secondsPerDay + (m.hour * 3600 + m.minute * 60 + m.second : Nat)

end RemoteTags.Time
