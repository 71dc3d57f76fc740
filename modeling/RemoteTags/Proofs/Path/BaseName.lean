import RemoteTags.Path.Remote
import RemoteTags.Proofs.Path.Extension
import RemoteTags.Proofs.Text.Split

/-! The last name of a path is its last piece that is not empty, unless this is `.` or `..`. It can
therefore be taken for the name of a file. -/

namespace RemoteTags.Path
open Text

def lastFilled (path : String) : Option String :=
  (((path.toList.splitOn slash).filter (· ≠ [])).getLast?).map String.ofList

/-- The path ends in this name, and it names a file in whatever directory it is looked for. -/
structure IsLastName (path name : String) : Prop where
  last : lastFilled path = some name
  filled : name ≠ ""
  whole : slash ∉ name.toList
  here : name ≠ "."
  parent : name ≠ ".."

theorem getLast?_splitOn (path : List Char) :
    (path.splitOn slash).getLast? = some (lastPiece path) := by
  obtain ⟨directory, whole, opens, plain⟩ := exists_lastPiece path
  generalize lastPiece path = name at whole plain ⊢
  subst whole
  have alone : name.splitOn slash = [name] := List.splitOn_eq_singleton plain
  rcases List.eq_nil_or_concat directory with rfl | ⟨before, c, rfl⟩
  · rw [List.nil_append, alone]
    rfl
  · obtain rfl : c = slash := opens c (by simp)
    rw [List.concat_eq_append, List.append_assoc, List.singleton_append,
      List.splitOn_append_cons_self, alone, List.getLast?_concat]

theorem lastPiece_dropTrailing (path : List Char) :
    lastPiece (dropTrailing (· = slash) path) = [] ↔ dropTrailing (· = slash) path = [] := by
  have stopped := List.head?_dropWhile_not (· = slash) path.reverse
  unfold lastPiece dropTrailing
  rw [List.reverse_reverse]
  generalize path.reverse.dropWhile (· = slash) = rest at stopped ⊢
  cases rest with
  | nil => simp
  | cons c rest =>
    have other : c ≠ slash := by simpa using stopped
    simp [other]

theorem lastFilled_eq (path : String) :
    lastFilled path =
      if lastPiece (dropTrailing (· = slash) path.toList) = [] then none
      else some (String.ofList (lastPiece (dropTrailing (· = slash) path.toList))) := by
  have same : ((dropTrailing (· = slash) path.toList).splitOn slash).filter (· ≠ []) =
      (path.toList.splitOn slash).filter (· ≠ []) :=
    filter_splitOn_dropTrailing rfl path.toList
  have nothing := lastPiece_dropTrailing path.toList
  rw [lastFilled, ← same]
  generalize dropTrailing (· = slash) path.toList = kept at nothing ⊢
  by_cases empty : lastPiece kept = []
  · obtain rfl := nothing.1 empty
    rw [if_pos empty]
    rfl
  · obtain ⟨before, pieces⟩ := List.getLast?_eq_some_iff.1 (getLast?_splitOn kept)
    rw [if_neg empty, pieces, List.filter_append]
    simp [empty]

theorem lastFilled_spec {path name : String} (last : lastFilled path = some name) :
    name ≠ "" ∧ slash ∉ name.toList := by
  obtain ⟨piece, found, rfl⟩ := Option.map_eq_some_iff.1 last
  obtain ⟨inPath, filled⟩ := List.mem_filter.1 (List.mem_of_getLast? found)
  rw [String.toList_ofList]
  exact ⟨by simpa using filled, not_mem_of_mem_splitOn inPath⟩

theorem baseName?_eq (path : String) :
    baseName? path = (lastFilled path).filter fun name => name ≠ "." ∧ name ≠ ".." := by
  have plain (piece : List Char) : (String.ofList piece ≠ "." ∧ String.ofList piece ≠ "..") ↔
      piece ≠ ['.'] ∧ piece ≠ ['.', '.'] := by
    simp [String.ext_iff]
  rw [baseName?, lastFilled_eq]
  generalize lastPiece (dropTrailing (· = slash) path.toList) = piece
  by_cases empty : piece = []
  · simp [empty]
  · simp only [empty, if_false, Option.filter_some, plain]
    by_cases dots : piece = ['.'] ∨ piece = ['.', '.']
    · rcases dots with rfl | rfl <;> simp
    · rw [not_or] at dots
      simp [dots]

theorem baseName?_eq_some_iff {path name : String} :
    baseName? path = some name ↔ IsLastName path name := by
  rw [baseName?_eq, Option.filter_eq_some_iff, decide_eq_true_eq]
  constructor
  · rintro ⟨last, here, parent⟩
    obtain ⟨filled, whole⟩ := lastFilled_spec last
    exact ⟨last, filled, whole, here, parent⟩
  · rintro ⟨last, _, _, here, parent⟩
    exact ⟨last, here, parent⟩

end RemoteTags.Path
