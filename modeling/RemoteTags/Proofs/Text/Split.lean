import RemoteTags.Text.Blank

/-! The pieces of a list that is cut at every `c`. None of them holds `c`, and those that a further
`c` at the end brings are empty. -/

namespace RemoteTags.Text

variable {α : Type} [BEq α] [LawfulBEq α] {c : α}

theorem not_mem_of_mem_splitOn {s piece : List α} (here : piece ∈ s.splitOn c) : c ∉ piece := by
  induction s generalizing piece with
  | nil => simp_all
  | cons d s ih =>
    rw [List.splitOn_cons_eq_if_modifyHead] at here
    obtain ⟨first, others, pieces⟩ := List.exists_cons_of_ne_nil (List.splitOn_ne_nil c s)
    rw [pieces] at here ih
    split at here
    · rcases List.mem_cons.1 here with rfl | here
      · exact List.not_mem_nil
      · exact ih here
    · rename_i other
      rcases List.mem_cons.1 here with rfl | here
      · have plain : c ∉ first := ih List.mem_cons_self
        rw [List.mem_cons, not_or]
        exact ⟨fun same => other (by simp [same]), plain⟩
      · exact ih (List.mem_cons_of_mem _ here)

theorem filter_splitOn_dropTrailing {counts : List α → Bool} (empty : counts [] = false)
    (s : List α) :
    ((dropTrailing (· == c) s).splitOn c).filter counts = (s.splitOn c).filter counts := by
  generalize reversed : s.reverse = r
  obtain rfl : s = r.reverse := by rw [← reversed, List.reverse_reverse]
  clear reversed
  induction r with
  | nil => rfl
  | cons d r ih =>
    rw [List.reverse_cons]
    by_cases trails : d = c
    · subst trails
      rw [dropTrailing_append_of_all _ (by simp), ih, List.splitOn_append_cons_self]
      simp [empty]
    · rw [dropTrailing_append_of_not _ (by simpa using trails)]

theorem flatMap_of_not_mem {α : Type} [DecidableEq α] {c : α} {s t : List α} (absent : c ∉ s) :
    (s.flatMap fun d => if d = c then t else [d]) = s := by
  induction s with
  | nil => rfl
  | cons d s ih =>
    rw [List.mem_cons, not_or] at absent
    rw [List.flatMap_cons, if_neg (Ne.symm absent.1), ih absent.2, List.singleton_append]

omit [BEq α] [LawfulBEq α] in
theorem dropTrailing_prefix (p : α → Bool) (s : List α) : dropTrailing p s <+: s := by
  rw [← List.reverse_suffix, dropTrailing, List.reverse_reverse]
  exact List.dropWhile_suffix p

end RemoteTags.Text
