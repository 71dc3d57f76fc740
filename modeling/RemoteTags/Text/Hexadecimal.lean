/-! Hexadecimal numerals with lowercase digits. -/

namespace RemoteTags.Hexadecimal

def digits (n : Nat) : List Char := Nat.toDigits 16 n

def text (n : Nat) : String := String.ofList (digits n)

def padded (width n : Nat) : String :=
  let ds := digits n
  String.ofList (List.replicate (width - ds.length) '0' ++ ds)

end RemoteTags.Hexadecimal
