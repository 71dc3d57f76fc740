/-! Cutting text at a character or at a piece of text: the first cut, the last cut, all cuts. -/

namespace RemoteTags.Text

def cut (c : Char) (s : List Char) : Option (List Char × List Char) :=
  match s.dropWhile (· ≠ c) with
  | [] => none
  | _ :: rest => some (s.takeWhile (· ≠ c), rest)

def cutLast (c : Char) (s : List Char) : Option (List Char × List Char) :=
  (cut c s.reverse).map fun (a, b) => (b.reverse, a.reverse)

def afterStart (start s : List Char) : Option (List Char) := start.isPrefixOf? s

def beforeEnd (ending s : List Char) : Option (List Char) :=
  (ending.reverse.isPrefixOf? s.reverse).map List.reverse

def withoutStart (start s : List Char) : List Char := (afterStart start s).getD s

def withoutEnd (ending s : List Char) : List Char := (beforeEnd ending s).getD s

def positionFrom (needle : List Char) (start : Nat) : List Char → Option Nat
  | [] => if needle.isEmpty then some start else none
  | x :: xs =>
    if needle.isPrefixOf (x :: xs) then some start else positionFrom needle (start + 1) xs

/-- Cuts `s` where `needle` first begins; the second part begins with `needle`. -/
def splitAtText (needle s : List Char) : Option (List Char × List Char) :=
  (positionFrom needle 0 s).map s.splitAt

def containsText (needle : List Char) : List Char → Bool
  | [] => needle.isEmpty
  | x :: xs => needle.isPrefixOf (x :: xs) || containsText needle xs

def contains (s needle : String) : Bool := containsText needle.toList s.toList

/-- The lines of `s`: what lies between line feeds, the last piece included. -/
def lines (s : String) : List String :=
  (s.toList.splitOn '\n').map String.ofList

theorem containsText_iff {needle s : List Char} :
    containsText needle s = true ↔ needle <:+: s := by
  induction s with
  | nil => simp [containsText]
  | cons x xs ih =>
    simp only [containsText, Bool.or_eq_true, List.isPrefixOf_iff_prefix, ih, List.infix_cons_iff]

theorem cut_cons (c x : Char) (xs : List Char) :
    cut c (x :: xs) = if x = c then some ([], xs) else (cut c xs).map fun p => (x :: p.1, p.2) := by
  by_cases h : x = c
  · simp [cut, h]
  · simp only [cut, List.dropWhile_cons, List.takeWhile_cons, ne_eq, h, not_false_eq_true,
      decide_true, ↓reduceIte]
    split <;> simp [*]

theorem cut_append {c : Char} {a : List Char} (b : List Char) (h : c ∉ a) :
    cut c (a ++ c :: b) = some (a, b) := by
  induction a with
  | nil => simp [cut_cons]
  | cons x a ih =>
    simp only [List.mem_cons, not_or] at h
    simp [cut_cons, ih h.2, Ne.symm h.1]

theorem cut_eq_none_iff {c : Char} {s : List Char} : cut c s = none ↔ c ∉ s := by
  induction s with
  | nil => simp [cut]
  | cons x s ih =>
    by_cases h : x = c
    · simp [cut_cons, h]
    · simp [cut_cons, h, ih, Ne.symm h]

theorem eq_of_cut {c : Char} {s a b : List Char} (h : cut c s = some (a, b)) :
    s = a ++ c :: b ∧ c ∉ a := by
  induction s generalizing a with
  | nil => simp [cut] at h
  | cons x s ih =>
    by_cases hx : x = c
    · simp only [cut_cons, hx, ↓reduceIte, Option.some.injEq, Prod.mk.injEq] at h
      obtain ⟨rfl, rfl⟩ := h
      simp [hx]
    · simp only [cut_cons, hx, ↓reduceIte, Option.map_eq_some_iff, Prod.exists,
        Prod.mk.injEq] at h
      obtain ⟨a', b', h, rfl, rfl⟩ := h
      obtain ⟨rfl, hn⟩ := ih h
      simp [hn, Ne.symm hx]

theorem afterStart_append (start rest : List Char) :
    afterStart start (start ++ rest) = some rest := by
  induction start with
  | nil => rfl
  | cons c start ih =>
    have step : afterStart (c :: start) (c :: start ++ rest) =
        if c == c then afterStart start (start ++ rest) else none := rfl
    rw [step, beq_self_eq_true, if_pos rfl, ih]

theorem withoutStart_append (start rest : List Char) :
    withoutStart start (start ++ rest) = rest := by
  rw [withoutStart, afterStart_append, Option.getD_some]

theorem beforeEnd_append (s ending : List Char) : beforeEnd ending (s ++ ending) = some s := by
  have reversed := afterStart_append ending.reverse s.reverse
  rw [afterStart] at reversed
  rw [beforeEnd, List.reverse_append, reversed, Option.map_some, List.reverse_reverse]

theorem withoutEnd_append (s ending : List Char) : withoutEnd ending (s ++ ending) = s := by
  rw [withoutEnd, beforeEnd_append, Option.getD_some]

theorem positionFrom_append {c : Char} {needle a : List Char} (b : List Char) (start : Nat)
    (absent : c ∉ a) :
    positionFrom (c :: needle) start (a ++ (c :: needle ++ b)) = some (start + a.length) := by
  induction a generalizing start with
  | nil => simp [positionFrom]
  | cons x a ih =>
    simp only [List.mem_cons, not_or] at absent
    have other : (c == x) = false := by simpa using absent.1
    rw [List.cons_append, positionFrom, List.isPrefixOf, other, Bool.false_and,
      if_neg Bool.false_ne_true, ih _ absent.2, List.length_cons, Nat.add_assoc, Nat.add_comm 1]

theorem positionFrom_eq_none {c : Char} {needle s : List Char} (start : Nat) (absent : c ∉ s) :
    positionFrom (c :: needle) start s = none := by
  induction s generalizing start with
  | nil => rfl
  | cons x s ih =>
    simp only [List.mem_cons, not_or] at absent
    have other : (c == x) = false := by simpa using absent.1
    rw [positionFrom, List.isPrefixOf, other, Bool.false_and, if_neg Bool.false_ne_true,
      ih _ absent.2]

theorem splitAtText_append {c : Char} {needle a : List Char} (b : List Char) (absent : c ∉ a) :
    splitAtText (c :: needle) (a ++ (c :: needle ++ b)) = some (a, c :: needle ++ b) := by
  rw [splitAtText, positionFrom_append b 0 absent, Option.map_some, Nat.zero_add,
    List.splitAt_eq, List.take_left, List.drop_left]

theorem pair_infix_cons {c d x : Char} {a : List Char} :
    [c, d] <:+: x :: a ↔ (c = x ∧ a.head? = some d) ∨ [c, d] <:+: a := by
  rw [List.infix_cons_iff, List.cons_prefix_cons]
  cases a with
  | nil => simp
  | cons y a => simp [List.cons_prefix_cons, eq_comm]

theorem splitAtText_pair {c d : Char} {a : List Char} (b : List Char) (distinct : c ≠ d)
    (absent : ¬ [c, d] <:+: a) : splitAtText [c, d] (a ++ ([c, d] ++ b)) = some (a, [c, d] ++ b) := by
  have position (start : Nat) :
      positionFrom [c, d] start (a ++ ([c, d] ++ b)) = some (start + a.length) := by
    induction a generalizing start with
    | nil => simp [positionFrom]
    | cons x a ih =>
      rw [pair_infix_cons, not_or] at absent
      have later : ¬ [c, d] <+: x :: (a ++ ([c, d] ++ b)) := by
        rw [List.cons_prefix_cons]
        rintro ⟨first, second⟩
        cases a with
        | nil => exact distinct (by simpa [List.cons_prefix_cons, eq_comm] using second)
        | cons y a =>
          exact absent.1 ⟨first, by simpa [List.cons_prefix_cons, eq_comm] using second⟩
      rw [List.cons_append, positionFrom, if_neg (by rwa [List.isPrefixOf_iff_prefix]),
        ih absent.2, List.length_cons, Nat.add_assoc, Nat.add_comm 1]
  rw [splitAtText, position, Option.map_some, Nat.zero_add, List.splitAt_eq, List.take_left,
    List.drop_left]

theorem splitAtText_eq_none {c : Char} {needle s : List Char} (absent : c ∉ s) :
    splitAtText (c :: needle) s = none := by
  rw [splitAtText, positionFrom_eq_none 0 absent, Option.map_none]

end RemoteTags.Text
