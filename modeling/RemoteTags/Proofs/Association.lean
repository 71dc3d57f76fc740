import Mathlib.Data.List.Basic

/-! Association lists, in which the first entry of a key counts. -/

namespace RemoteTags

variable {α β : Type} [BEq α] [LawfulBEq α] [DecidableEq α]

theorem lookup_cons_ite (k : α) (v : β) (entries : List (α × β)) (m : α) :
    ((k, v) :: entries).lookup m = if m = k then some v else entries.lookup m := by
  by_cases atK : m = k
  · subst atK
    simp
  · simp [List.lookup_cons, beq_false_of_ne atK, atK]

theorem lookup_filter_ne (entries : List (α × β)) (l m : α) :
    (entries.filter fun e => e.1 ≠ l).lookup m = if m = l then none else entries.lookup m := by
  induction entries with
  | nil => simp
  | cons e entries ih =>
    obtain ⟨k, v⟩ := e
    by_cases atK : k = l
    · subst atK
      rw [List.filter_cons_of_neg (by simp), ih, lookup_cons_ite]
      by_cases mK : m = k <;> simp [mK]
    · rw [List.filter_cons_of_pos (by simpa using atK), lookup_cons_ite, lookup_cons_ite, ih]
      by_cases mK : m = k
      · simp [mK, atK]
      · simp [mK]

end RemoteTags
