import RemoteTags.Number.Binary
import RemoteTags.Text.Decimal

/-! Sizes for people: a number of bytes in the largest decimal unit that leaves at least one. -/

namespace RemoteTags.Size

def units : List String := ["B", "kB", "MB", "GB", "TB", "PB", "EB", "ZB", "YB"]

/-- Divides by a thousand while a larger unit is left and the value has four digits or more. -/
def scale (value : Binary) (unit : String) : List String → Binary × String
  | [] => (value, unit)
  | larger :: rest =>
    if value.atLeast 1000 then scale (value.divNat 1000) larger rest else (value, unit)

def twoPlaces (hundredths : Nat) : String :=
  toString (hundredths / 100) ++ "." ++ String.ofList (Decimal.padded 2 (hundredths % 100))

def format (bytes : Nat) : String :=
  if bytes < 1000 then toString bytes ++ " B"
  else
    let (value, unit) := scale (Binary.ofNat bytes) "B" units.tail
    twoPlaces value.hundredths ++ " " ++ unit

end RemoteTags.Size
