import RemoteTags.Path.Extension

/-! Which extension a path has, and which items of a list are kept by theirs. -/

namespace RemoteTags

namespace Text

theorem cutLast_eq_some_iff {c : Char} {s a b : List Char} :
    cutLast c s = some (a, b) ↔ s = a ++ c :: b ∧ c ∉ b := by
  simp only [cutLast, Option.map_eq_some_iff, Prod.exists, Prod.mk.injEq]
  constructor
  · rintro ⟨x, y, found, rfl, rfl⟩
    obtain ⟨same, absent⟩ := eq_of_cut found
    refine ⟨?_, by simpa using absent⟩
    rw [← List.reverse_reverse s, same]
    simp
  · rintro ⟨rfl, absent⟩
    refine ⟨b.reverse, a.reverse, ?_, by simp, by simp⟩
    rw [← cut_append a.reverse (a := b.reverse) (by simpa using absent)]
    simp

end Text

namespace Path
open Text

/-- The text is empty or ends in a slash, so that a name can follow. -/
def Opens (directory : List Char) : Prop := ∀ c ∈ directory.getLast?, c = slash

theorem lastPiece_append {directory name : List Char} (opens : Opens directory)
    (plain : slash ∉ name) : lastPiece (directory ++ name) = name := by
  have all : ∀ c ∈ name.reverse, decide (c ≠ slash) = true := by
    simp only [List.mem_reverse, decide_eq_true_eq]
    rintro c inName rfl
    exact plain inName
  unfold lastPiece
  rw [List.reverse_append, List.takeWhile_append_of_pos all]
  cases last : directory.reverse with
  | nil => simp
  | cons c rest =>
    have slashed : c = slash := opens c (by rw [← List.head?_reverse, last]; rfl)
    simp [slashed]

theorem exists_lastPiece (path : List Char) :
    ∃ directory, path = directory ++ lastPiece path ∧ Opens directory ∧
      slash ∉ lastPiece path := by
  refine ⟨(path.reverse.dropWhile (· ≠ slash)).reverse, ?_, ?_, ?_⟩
  · rw [lastPiece, ← List.reverse_append, List.takeWhile_append_dropWhile, List.reverse_reverse]
  · intro c last
    have stopped := List.head?_dropWhile_not (· ≠ slash) path.reverse
    rw [List.getLast?_reverse] at last
    rw [last] at stopped
    simpa using stopped
  · have all : (path.reverse.takeWhile (· ≠ slash)).all (· ≠ slash) = true := List.all_takeWhile
    simp only [List.all_eq_true, decide_eq_true_eq] at all
    rw [lastPiece, List.mem_reverse]
    exact fun inPiece => all slash inPiece rfl

/-- The last name of the path ends in a dot and the extension, and does not begin with this dot.
Capital letters count as small ones. -/
def HasExtension (path extension : String) : Prop :=
  ∃ directory stem ext : List Char, path.toList = directory ++ (stem ++ '.' :: ext) ∧
    Opens directory ∧ slash ∉ stem ∧ slash ∉ ext ∧ '.' ∉ ext ∧ stem ≠ [] ∧ ext ≠ [] ∧
    extension = Unicode.lowercase (String.ofList ext)

theorem extension?_eq_some_iff {path extension : String} :
    extension? path = some extension ↔ HasExtension path extension := by
  constructor
  · intro found
    unfold extension? at found
    split at found
    · rename_i stem ext cutAt
      split at found
      · cases found
      · rename_i named
        obtain ⟨same, plain⟩ := cutLast_eq_some_iff.1 cutAt
        obtain ⟨directory, whole, opens, unslashed⟩ := exists_lastPiece path.toList
        rw [same] at whole unslashed
        simp only [List.mem_append, List.mem_cons, not_or] at unslashed
        simp only [Bool.or_eq_true, decide_eq_true_eq, not_or] at named
        exact ⟨directory, stem, ext, whole, opens, unslashed.1, unslashed.2.2, plain, named.1,
          named.2, (Option.some.inj found).symm⟩
    · cases found
  · rintro ⟨directory, stem, ext, whole, opens, inStem, inExt, plain, named, ends, rfl⟩
    have undotted : slash ≠ '.' := by decide
    have unslashed : slash ∉ stem ++ '.' :: ext := by simp [inStem, inExt, undotted]
    have cutAt : cutLast '.' (lastPiece path.toList) = some (stem, ext) := by
      rw [whole, lastPiece_append opens unslashed]
      exact cutLast_eq_some_iff.2 ⟨rfl, plain⟩
    simp [extension?, cutAt, named, ends]

instance (path extension : String) : Decidable (HasExtension path extension) :=
  decidable_of_iff _ extension?_eq_some_iff

theorem hasExtension_iff {extensions : List String} {path : String} :
    hasExtension extensions path = true ↔ ∃ x ∈ extensions, HasExtension path x := by
  unfold hasExtension
  split
  · rename_i ext found
    simp [← extension?_eq_some_iff, found]
  · rename_i missing
    simp [← extension?_eq_some_iff, missing]

theorem filterByExtension_eq {α : Type} (extensions : List String) (pathOf : α → String)
    (items : List α) :
    let listed := items.filter fun a => ∃ x ∈ extensions, HasExtension (pathOf a) x
    filterByExtension extensions pathOf items = if listed = [] then items else listed := by
  have same : (items.filter fun a => hasExtension extensions (pathOf a)) =
      items.filter fun a => ∃ x ∈ extensions, HasExtension (pathOf a) x := by
    refine List.filter_congr fun a _ => ?_
    rw [Bool.eq_iff_iff, hasExtension_iff, decide_eq_true_eq]
  simp only [filterByExtension, same, List.isEmpty_iff]

end Path

end RemoteTags
