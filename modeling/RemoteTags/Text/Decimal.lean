/-! Decimal numerals: digits, whole numbers in a range, and fixed-width fields. -/

namespace RemoteTags.Decimal

def isDigit (c : Char) : Bool := '0' ≤ c && c ≤ '9'

def digit (c : Char) : Nat := c.toNat - 48

def value (ds : List Char) : Nat := ds.foldl (fun n c => n * 10 + digit c) 0

def natural (ds : List Char) : Option Nat :=
  if ds.isEmpty || !ds.all isDigit then none else some (value ds)

def unsigned (max : Nat) (s : List Char) : Option Nat := do
  let n ← natural (match s with
    | '+' :: r => r
    | _ => s)
  if n ≤ max then some n else none

def signedBound : Int := 0x8000000000000000

def integer : List Char → Option Int
  | '-' :: ds => (natural ds).map fun n => -Int.ofNat n
  | '+' :: ds => (natural ds).map Int.ofNat
  | ds => (natural ds).map Int.ofNat

def signed64 (s : List Char) : Option Int :=
  (integer s).filter fun n => -signedBound ≤ n && n < signedBound

def padded (width n : Nat) : List Char :=
  let ds := (toString n).toList
  List.replicate (width - ds.length) '0' ++ ds

/-- `s` writes a whole number: digits, behind a sign or not. -/
inductive Writes : List Char → Int → Prop where
  | bare {ds : List Char} (nonempty : ds ≠ []) (digits : ∀ c ∈ ds, isDigit c) : Writes ds (value ds)
  | plus {ds : List Char} (nonempty : ds ≠ []) (digits : ∀ c ∈ ds, isDigit c) :
      Writes ('+' :: ds) (value ds)
  | minus {ds : List Char} (nonempty : ds ≠ []) (digits : ∀ c ∈ ds, isDigit c) :
      Writes ('-' :: ds) (-value ds)

theorem natural_eq_some_iff {ds : List Char} {n : Nat} :
    natural ds = some n ↔ (ds ≠ [] ∧ ∀ c ∈ ds, isDigit c) ∧ value ds = n := by
  unfold natural
  by_cases written : ds ≠ [] ∧ ∀ c ∈ ds, isDigit c
  · simp [written, List.isEmpty_iff]
  · have no : (ds.isEmpty || !ds.all isDigit) = true := by grind
    simp [no, written]

theorem integer_of_digits {ds : List Char} (nonempty : ds ≠ []) (digits : ∀ c ∈ ds, isDigit c) :
    integer ds = some (value ds : Int) := by
  have plain := natural_eq_some_iff.2 ⟨⟨nonempty, digits⟩, rfl⟩
  unfold integer
  split
  · exact absurd (digits '-' List.mem_cons_self) (by decide)
  · exact absurd (digits '+' List.mem_cons_self) (by decide)
  · rw [plain, Option.map_some]
    rfl

theorem integer_eq_some_iff {s : List Char} {n : Int} : integer s = some n ↔ Writes s n := by
  constructor
  · intro read
    unfold integer at read
    split at read
    all_goals
      obtain ⟨k, digits, rfl⟩ := Option.map_eq_some_iff.1 read
      obtain ⟨⟨nonempty, only⟩, rfl⟩ := natural_eq_some_iff.1 digits
    · exact .minus nonempty only
    · exact .plus nonempty only
    · exact .bare nonempty only
  · intro writes
    cases writes with
    | bare nonempty digits => exact integer_of_digits nonempty digits
    | plus nonempty digits | minus nonempty digits =>
      rw [integer, natural_eq_some_iff.2 ⟨⟨nonempty, digits⟩, rfl⟩, Option.map_some]
      rfl

theorem signed64_eq_some_iff {s : List Char} {n : Int} :
    signed64 s = some n ↔ Writes s n ∧ -signedBound ≤ n ∧ n < signedBound := by
  simp [signed64, Option.filter_eq_some_iff, integer_eq_some_iff]

theorem Writes.not_mem {s : List Char} {n : Int} (w : Writes s n) {c : Char}
    (other : isDigit c = false ∧ c ≠ '+' ∧ c ≠ '-') : c ∉ s := by
  intro here
  cases w with
  | bare _ digits => simp_all
  | plus _ digits | minus _ digits =>
    rcases List.mem_cons.1 here with sign | digit
    · simp_all
    · simp_all

end RemoteTags.Decimal
