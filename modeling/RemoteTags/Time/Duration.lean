import RemoteTags.Text.Blank
import RemoteTags.Text.Decimal

/-! Spans of time, to the nanosecond. Whole seconds and milliseconds are counted downwards. -/

namespace RemoteTags
open Text

structure Duration where
  nanoseconds : Nat
deriving DecidableEq, Repr

namespace Duration

def ofSeconds (n : Nat) : Duration := ⟨n * 1000000000⟩

def seconds (d : Duration) : Nat := d.nanoseconds / 1000000000

def milliseconds (d : Duration) : Nat := d.nanoseconds / 1000000

def inUnits (whole places fraction : Nat) (unit : String) : String :=
  let digits := dropTrailing (· = '0') (Decimal.padded places fraction)
  let point := if digits.isEmpty then "" else "."
  toString whole ++ point ++ String.ofList digits ++ unit

/-- The span in the largest unit, of four, that leaves at least one. -/
def describe (d : Duration) : String :=
  let n := d.nanoseconds
  if 1000000000 ≤ n then inUnits d.seconds 9 (n % 1000000000) "s"
  else if 1000000 ≤ n then inUnits d.milliseconds 6 (n % 1000000) "ms"
  else if 1000 ≤ n then inUnits (n / 1000) 3 (n % 1000) "µs"
  else toString n ++ "ns"

example : (Duration.mk 1500000000).describe = "1.5s" := by decide +kernel

end Duration

end RemoteTags
