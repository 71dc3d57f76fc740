/-! Blank characters and trimming. A character is blank when it has the property White_Space,
so that no-break and ideographic spaces count as well as tabs and line ends. -/

namespace RemoteTags.Text

def isBlank (c : Char) : Bool :=
  let n := c.toNat
  (9 ≤ n && n ≤ 13) || n = 0x20 || n = 0x85 || n = 0xA0 || n = 0x1680 ||
    (0x2000 ≤ n && n ≤ 0x200A) || n = 0x2028 || n = 0x2029 || n = 0x202F || n = 0x205F ||
    n = 0x3000

def dropTrailing {α : Type} (p : α → Bool) (l : List α) : List α :=
  (l.reverse.dropWhile p).reverse

def trimStart (s : List Char) : List Char := s.dropWhile isBlank

def trimEnd (s : List Char) : List Char := dropTrailing isBlank s

def trim (s : List Char) : List Char := trimEnd (trimStart s)

def trimmed (s : String) : String := String.ofList (trim s.toList)

def isBlankText (s : String) : Bool := s.toList.all isBlank

theorem dropTrailing_append_of_all {α : Type} {p : α → Bool} (l : List α) {t : List α}
    (h : t.all p) : dropTrailing p (l ++ t) = dropTrailing p l := by
  have : t.reverse.all p := by simpa using h
  simp only [dropTrailing, List.reverse_append]
  congr 1
  generalize t.reverse = r at this
  induction r with
  | nil => rfl
  | cons a r ih =>
    simp only [List.all_cons, Bool.and_eq_true] at this
    simp [this.1, ih this.2]

theorem dropTrailing_append_of_not {α : Type} {p : α → Bool} (l : List α) {a : α}
    (h : p a = false) : dropTrailing p (l ++ [a]) = l ++ [a] := by
  simp [dropTrailing, h]

theorem dropTrailing_append_cons_of_not {α : Type} {p : α → Bool} (l t : List α) {a : α}
    (h : p a = false) : dropTrailing p (l ++ a :: t) = l ++ a :: dropTrailing p t := by
  rw [dropTrailing, List.reverse_append, List.reverse_cons, List.append_assoc,
    List.dropWhile_append]
  split
  · rename_i all
    have whole : dropTrailing p t = [] := by
      rw [dropTrailing, List.isEmpty_iff.1 all, List.reverse_nil]
    simp [h, whole]
  · simp [dropTrailing]

theorem trimStart_eq_self {s : List Char} (start : ∀ c ∈ s.head?, isBlank c = false) :
    trimStart s = s := by
  cases s with
  | nil => rfl
  | cons c s => simp [trimStart, start c rfl]

theorem trimEnd_eq_self {s : List Char} (ending : ∀ c ∈ s.getLast?, isBlank c = false) :
    trimEnd s = s := by
  have reversed : s.reverse.dropWhile isBlank = s.reverse :=
    trimStart_eq_self (by simpa [List.head?_reverse] using ending)
  rw [trimEnd, dropTrailing, reversed, List.reverse_reverse]

end RemoteTags.Text
