import RemoteTags.Text.Blank
import RemoteTags.Text.Cut
import RemoteTags.Text.Decimal
import RemoteTags.Time.Civil

/-! Time stamps as text: `YYYY-MM-DD hh:mm:ss[.fraction] +hhmm`. The reader allows blanks in
front of each number and of the offset, single digits, and signed years of any length. -/

namespace RemoteTags.Time
open Text

/-- Years outside 0 to 9999 are written with their sign. -/
def yearText (y : Int) : List Char :=
  if 0 ≤ y && y ≤ 9999 then Decimal.padded 4 y.toNat
  else (if y < 0 then '-' else '+') :: Decimal.padded 4 y.natAbs

def dateText (d : Date) : List Char :=
  yearText d.year ++ '-' :: Decimal.padded 2 d.month ++ '-' :: Decimal.padded 2 d.day

/-- `YYYY-MM-DD hh:mm`. -/
def Moment.minuteText (m : Moment) : List Char :=
  dateText m.date ++ ' ' :: Decimal.padded 2 m.hour ++ ':' :: Decimal.padded 2 m.minute

/-- `YYYY-MM-DD hh:mm:ss.000000000`. -/
def Moment.stampText (m : Moment) : List Char :=
  m.minuteText ++ ':' :: Decimal.padded 2 m.second ++ '.' :: List.replicate 9 '0'

def readNumber (most : Nat) (s : List Char) : Option (Nat × List Char) :=
  let digits := (s.take most).takeWhile Decimal.isDigit
  if digits.isEmpty then none else some (Decimal.value digits, s.drop digits.length)

def readLongNumber (s : List Char) : Option (Nat × List Char) := do
  let (n, rest) ← readNumber s.length s
  if n < 0x8000000000000000 then some (n, rest) else none

def readField (low high : Nat) (s : List Char) : Option (Nat × List Char) := do
  let (n, rest) ← readNumber 2 (trimStart s)
  if low ≤ n && n ≤ high then some (n, rest) else none

/-- A year has up to four digits, or a sign and any number of them. -/
def readYear (s : List Char) : Option (Int × List Char) :=
  match trimStart s with
  | '-' :: rest => (readLongNumber rest).map fun (n, rest) => (-(n : Int), rest)
  | '+' :: rest => (readLongNumber rest).map fun (n, rest) => ((n : Int), rest)
  | s => (readNumber 4 s).map fun (n, rest) => ((n : Int), rest)

def skipFraction : List Char → Option (List Char)
  | '.' :: s =>
    let rest := s.dropWhile Decimal.isDigit
    if rest.length < s.length then some rest else none
  | s => some s

/-- A sign; the true minus sign counts as one. -/
def readSign : List Char → Option (Bool × List Char)
  | '+' :: rest => some (false, rest)
  | '-' :: rest => some (true, rest)
  | '−' :: rest => some (true, rest)
  | _ => none

def readPair : List Char → Option (Nat × List Char)
  | a :: b :: rest =>
    if Decimal.isDigit a && Decimal.isDigit b then some (Decimal.value [a, b], rest) else none
  | _ => none

/-- An offset from universal time in seconds: a sign, two digits of hours, colons or blanks, two
digits of minutes. -/
def readOffset (s : List Char) : Option (Int × List Char) := do
  let (negative, s) ← readSign (trimStart s)
  let (hours, s) ← readPair s
  let (minutes, s) ← readPair (s.dropWhile fun c => c = ':' || isBlank c)
  if 60 ≤ minutes then none
  else
    let n : Int := (hours * 3600 + minutes * 60 : Nat)
    some (if negative then -n else n, s)

/-- The seconds since 1970 of a whole stamp. The second 60 counts as the one before it. -/
def readStamp (s : List Char) : Option Int := do
  let (year, s) ← readYear s
  let s ← afterStart ['-'] s
  let (month, s) ← readField 1 12 s
  let s ← afterStart ['-'] s
  let (day, s) ← readField 1 31 s
  let (hour, s) ← readField 0 23 (trimStart s)
  let s ← afterStart [':'] s
  let (minute, s) ← readField 0 59 s
  let s ← afterStart [':'] s
  let (second, s) ← readField 0 60 s
  let s ← skipFraction s
  let (offset, s) ← readOffset s
  let date : Date := ⟨year, month, day⟩
  let m : Moment := ⟨date, hour, minute, min second 59⟩
  let seconds := m.seconds - offset
  if s.isEmpty && firstYear ≤ year && year ≤ lastYear && date.isValid &&
      -secondsPerDay < offset && offset < secondsPerDay &&
      isRepresentable (seconds / secondsPerDay) then
    some seconds
  else none

end RemoteTags.Time
