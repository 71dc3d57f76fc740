import Mathlib.Data.Nat.Notation
import Mathlib.Tactic.SplitIfs
import RemoteTags.Path.Collapse

/-! A path that is too long loses one run of characters to an ellipsis, and is then just as wide as
it may be. Differences of numbers and cuts of a text stop at zero and at the end in `collapseChars`;
a version that checks them instead shows that neither ever happens. -/

namespace RemoteTags.Path

def slice? (cs : List Char) (start stop : ℕ) : Option (List Char) :=
  if start ≤ stop ∧ stop ≤ cs.length then some ((cs.take stop).drop start) else none

def minus? (m n : ℕ) : Option ℕ := if n ≤ m then some (m - n) else none

/-- `collapseChars` with a check before each difference and each cut; without an answer if one of
them fails. -/
def collapseChecked? (width : ℕ) (e : Elision) (path : List Char) : Option (List Char) :=
  if path.length ≤ width then some path
  else if width = 0 then some []
  else do
    let shown ← minus? width 1
    match e with
    | .left =>
      let start ← minus? path.length shown
      let back ← slice? path start path.length
      return ellipsis :: back
    | .center =>
      let start ← minus? path.length (width / 2)
      let front ← slice? path 0 (shown / 2)
      let back ← slice? path start path.length
      return front ++ ellipsis :: back
    | .right =>
      let front ← slice? path 0 shown
      return front ++ [ellipsis]

variable {width : ℕ} {path : List Char}

theorem minus?_of_le {m n : ℕ} (le : n ≤ m) : minus? m n = some (m - n) := if_pos le

theorem slice?_front {stop : ℕ} (le : stop ≤ path.length) :
    slice? path 0 stop = some (path.take stop) := by
  simp [slice?, le]

theorem slice?_back {start : ℕ} (le : start ≤ path.length) :
    slice? path start path.length = some (path.drop start) := by
  simp [slice?, le]

theorem collapseChecked?_eq (width : ℕ) (e : Elision) (path : List Char) :
    collapseChecked? width e path = some (collapseChars width e path) := by
  unfold collapseChecked? collapseChars
  split_ifs with fits empty
  · rfl
  · rfl
  · have one : 1 ≤ width := by omega
    rw [minus?_of_le one]
    cases e with
    | left =>
      have front : width - 1 ≤ path.length := by omega
      simp [Elision.kept, minus?_of_le front, slice?_back]
    | center =>
      have back : width / 2 ≤ path.length := by omega
      have front : (width - 1) / 2 ≤ path.length := by omega
      simp [Elision.kept, minus?_of_le back, slice?_front front, slice?_back]
    | right =>
      have front : width - 1 ≤ path.length := by omega
      simp [Elision.kept, slice?_front front]

/-- Which parts an elision leaves: none in front, none behind, or both, where the part behind is as
long as the other one or longer by one. -/
def Elision.Leaves : Elision → List Char → List Char → Prop
  | .left, front, _ => front = []
  | .center, front, back => front.length ≤ back.length ∧ back.length ≤ front.length + 1
  | .right, _, back => back = []

/-- `shown` is `path` with one run of at least two characters replaced by an ellipsis. -/
def Elided (e : Elision) (path shown : List Char) : Prop :=
  ∃ front run back, path = front ++ run ++ back ∧ shown = front ++ ellipsis :: back ∧
    2 ≤ run.length ∧ e.Leaves front back

theorem collapseChars_of_le (e : Elision) (fits : path.length ≤ width) :
    collapseChars width e path = path := if_pos fits

theorem collapseChars_zero (e : Elision) (long : 0 < path.length) : collapseChars 0 e path = [] := by
  simp [collapseChars, Nat.ne_of_gt long]

theorem collapseChars_of_lt (e : Elision) (pos : 0 < width) (long : width < path.length) :
    collapseChars width e path = path.take (e.kept width).1 ++
      ellipsis :: path.drop (path.length - (e.kept width).2) := by
  simp [collapseChars, Nat.not_le.2 long, Nat.ne_of_gt pos]

theorem length_collapseChars (e : Elision) (pos : 0 < width) (long : width < path.length) :
    (collapseChars width e path).length = width := by
  have places := e.kept_add pos
  simp only [collapseChars_of_lt e pos long, List.length_append, List.length_cons, List.length_take,
    List.length_drop]
  omega

theorem length_collapseChars_le (width : ℕ) (e : Elision) (path : List Char) :
    (collapseChars width e path).length ≤ width := by
  by_cases fits : path.length ≤ width
  · rwa [collapseChars_of_le e fits]
  · have long := Nat.not_le.1 fits
    rcases width.eq_zero_or_pos with rfl | pos
    · simp [collapseChars_zero e long]
    · exact Nat.le_of_eq (length_collapseChars e pos long)

theorem elided_collapseChars (e : Elision) (pos : 0 < width) (long : width < path.length) :
    Elided e path (collapseChars width e path) := by
  have places := e.kept_add pos
  have apart : (e.kept width).1 ≤ path.length - (e.kept width).2 := by omega
  refine ⟨path.take (e.kept width).1,
    (path.take (path.length - (e.kept width).2)).drop (e.kept width).1,
    path.drop (path.length - (e.kept width).2), ?_, collapseChars_of_lt e pos long, ?_, ?_⟩
  · have front : (path.take (path.length - (e.kept width).2)).take (e.kept width).1 =
        path.take (e.kept width).1 := by
      rw [List.take_take, Nat.min_eq_left apart]
    rw [← front, List.take_append_drop, List.take_append_drop]
  · rw [List.length_drop, List.length_take]
    omega
  · cases e <;> simp [Elision.Leaves, Elision.kept]
    omega

/-- No difference and no cut on the way fails. A path that fits stays as it is. A longer one is
empty if there is no width; otherwise it takes the whole width, and one run of at least two of its
characters has given way to an ellipsis. A second time nothing changes. -/
theorem collapse_elides (width : ℕ) (e : Elision) (path : String) :
    collapseChecked? width e path.toList = some (collapse width e path).toList ∧
    (path.length ≤ width ∧ collapse width e path = path ∨
      width < path.length ∧
        (width = 0 ∧ collapse width e path = "" ∨
          0 < width ∧ (collapse width e path).length = width ∧
            Elided e path.toList (collapse width e path).toList)) ∧
    collapse width e (collapse width e path) = collapse width e path := by
  have chars : (collapse width e path).toList = collapseChars width e path.toList :=
    String.toList_ofList
  have again : collapse width e (collapse width e path) = collapse width e path := by
    rw [collapse, chars, collapseChars_of_le e (length_collapseChars_le width e _), ← chars,
      String.ofList_toList]
  refine ⟨by rw [collapseChecked?_eq, chars], ?_, again⟩
  rw [chars, ← String.length_toList, ← String.length_toList, chars]
  rcases Nat.lt_or_ge width path.toList.length with long | fits
  · refine .inr ⟨long, ?_⟩
    rcases width.eq_zero_or_pos with rfl | pos
    · exact .inl ⟨rfl, by rw [collapse, collapseChars_zero e long]⟩
    · exact .inr ⟨pos, length_collapseChars e pos long, elided_collapseChars e pos long⟩
  · exact .inl ⟨fits, by rw [collapse, collapseChars_of_le e fits, String.ofList_toList]⟩

end RemoteTags.Path
