/-! Closed ranges of code points, and the sorted lists of them that tables are made of.
A table is written as rows of text, `41-5A 61-7A AA`: hexadecimal ends, one number for a range of one. -/

namespace RemoteTags.Unicode

structure CodeRange where
  first : Nat
  last : Nat
deriving DecidableEq, Repr

def hexDigit (c : Char) : Option Nat :=
  if '0' ≤ c && c ≤ '9' then some (c.toNat - 48)
  else if 'A' ≤ c && c ≤ 'F' then some (c.toNat - 55)
  else if 'a' ≤ c && c ≤ 'f' then some (c.toNat - 87)
  else none

def hexValue (ds : List Char) : Nat :=
  ds.foldl (fun n c => n * 16 + (hexDigit c).getD 0) 0

namespace CodeRange

def ofPiece (piece : List Char) : CodeRange :=
  match piece.splitOn '-' with
  | [a, b] => ⟨hexValue a, hexValue b⟩
  | _ => ⟨hexValue piece, hexValue piece⟩

def read (table : List String) : List CodeRange :=
  table.flatMap fun row => (row.toList.splitOn ' ').map ofPiece

def lastCode : Nat := 0x10FFFF

def join : List CodeRange → List CodeRange
  | [] => []
  | r :: rest => joinTo r rest
where
  joinTo (r : CodeRange) : List CodeRange → List CodeRange
    | [] => [r]
    | s :: rest =>
      if s.first ≤ r.last + 1 then joinTo ⟨r.first, max r.last s.last⟩ rest
      else r :: joinTo s rest

def union (a b : List CodeRange) : List CodeRange :=
  join (List.merge a b fun r s => r.first ≤ s.first)

def gaps (first : Nat) : List CodeRange → List CodeRange
  | [] => if first ≤ lastCode then [⟨first, lastCode⟩] else []
  | r :: rest =>
    let others := gaps (max first (r.last + 1)) rest
    if first < r.first then ⟨first, r.first - 1⟩ :: others else others

def complement (a : List CodeRange) : List CodeRange := gaps 0 a

def inter (a b : List CodeRange) : List CodeRange :=
  complement (union (complement a) (complement b))

def members (r : CodeRange) : List Nat := List.range' r.first (r.last + 1 - r.first)

def size (rs : List CodeRange) : Nat := rs.foldr (fun r n => r.last + 1 - r.first + n) 0

def ofCodes (codes : List Nat) : List CodeRange :=
  join ((codes.mergeSort fun m n => m ≤ n).map fun n => ⟨n, n⟩)

@[simp] theorem join_single (r : CodeRange) : join [r] = [r] := rfl

def holds (r : CodeRange) (n : Nat) : Bool := r.first ≤ n && n ≤ r.last

/-- Membership in a sorted list: the search stops at the first range that begins too late. -/
def anyContains : List CodeRange → Nat → Bool
  | [], _ => false
  | r :: rest, n => if n < r.first then false else n ≤ r.last || anyContains rest n

end CodeRange

end RemoteTags.Unicode
