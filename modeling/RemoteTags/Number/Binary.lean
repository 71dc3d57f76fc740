/-! Binary numbers with 53 significant bits and no bound on the exponent: rounding a quotient to
the nearest of them, and writing one with a fixed number of decimals. -/

namespace RemoteTags

/-- The whole number nearest to `num / den`; of two equally near ones, the even one. -/
def roundQuotient (num den : Nat) : Nat :=
  let q := num / den
  let r := num % den
  if 2 * r < den then q
  else if den < 2 * r then q + 1
  else if q % 2 = 0 then q else q + 1

/-- The non-negative number `significand * 2 ^ exponent`. -/
structure Binary where
  significand : Nat
  exponent : Int
deriving DecidableEq, Repr

namespace Binary

def precision : Nat := 53

def numerator (x : Binary) : Nat := x.significand <<< x.exponent.toNat

def denominator (x : Binary) : Nat := 1 <<< (-x.exponent).toNat

/-- The nearest number to `num / den` with 53 significant bits, the even one of two. -/
def ofQuotient (num den : Nat) : Binary :=
  if num = 0 then ⟨0, 0⟩
  else
    -- With this shift the quotient has at least 53 bits and at most 54 before the cut.
    let guess : Int := (num.log2 : Int) - (den.log2 : Int) - (precision : Int)
    let scaled (e : Int) : Nat × Nat := (num <<< (-e).toNat, den <<< e.toNat)
    let (n, d) := scaled guess
    let e := if n / d < 1 <<< precision then guess else guess + 1
    let (n, d) := scaled e
    ⟨roundQuotient n d, e⟩

def ofNat (n : Nat) : Binary := ofQuotient n 1

def divNat (x : Binary) (k : Nat) : Binary := ofQuotient x.numerator (x.denominator * k)

def atLeast (x : Binary) (k : Nat) : Bool := k * x.denominator ≤ x.numerator

/-- Hundredths, rounded to the nearest; the exact value decides, a tie goes to the even one. -/
def hundredths (x : Binary) : Nat := roundQuotient (x.numerator * 100) x.denominator

end Binary

end RemoteTags
