import RemoteTags.Proofs.Local.Faults
import RemoteTags.Proofs.Text.Split

/-! The directories above the place of a file. A path that leads to the place of a file goes through
all of them, so that they are there. -/

namespace RemoteTags.Local

variable {absolute : Bool} {ps qs : List (List Char)} {path p : String}

theorem not_mem_piecesOf (path : String) : ∀ piece ∈ piecesOf path, '/' ∉ piece := by
  unfold piecesOf
  split <;> exact fun piece here => Text.not_mem_of_mem_splitOn here

theorem prefix_dropIdle (absolute : Bool) (ps : List (List Char)) :
    dropIdle absolute ps <+: ps := by
  have go (rs : List (List Char)) : dropIdle.go absolute rs <+: rs.reverse := by
    induction rs with
    | nil => exact List.nil_prefix
    | cons r rs ih =>
      rw [dropIdle.go]
      split
      · rw [List.reverse_cons]
        exact ih.trans (List.prefix_append _ _)
      · exact List.prefix_rfl
  simpa [dropIdle] using go ps.reverse

theorem dropLast_prefix_dropLast {α : Type} {xs ys : List α} (first : xs <+: ys) :
    xs.dropLast <+: ys.dropLast := by
  refine List.prefix_of_prefix_length_le ((List.dropLast_prefix xs).trans first)
    (List.dropLast_prefix ys) ?_
  have shorter := first.length_le
  simp only [List.length_dropLast]
  omega

/-- The path is written with these pieces, behind the root or the working directory. -/
structure Spells (absolute : Bool) (qs : List (List Char)) (path : String) : Prop where
  absolute : isAbsolute path = absolute
  pieces : piecesOf path = qs

theorem spells_rejoin (nonempty : qs ≠ []) (plain : ∀ piece ∈ qs, '/' ∉ piece)
    (headed : absolute = false → qs.head? ≠ some []) : Spells absolute qs (rejoin absolute qs) := by
  have split : (['/'].intercalate qs).splitOn '/' = qs :=
    List.splitOn_intercalate '/' plain nonempty
  cases absolute with
  | true =>
    constructor
    · simp [isAbsolute, rejoin]
    · simp [piecesOf, rejoin, split]
  | false =>
    obtain ⟨first, others, rfl⟩ := List.exists_cons_of_ne_nil nonempty
    have filled : first ≠ [] := fun none => headed rfl (by simp [none])
    obtain ⟨c, rest, rfl⟩ := List.exists_cons_of_ne_nil filled
    have other : c ≠ '/' := by
      rintro rfl
      exact plain _ List.mem_cons_self List.mem_cons_self
    obtain ⟨behind, text⟩ : ∃ behind, ['/'].intercalate ((c :: rest) :: others) = c :: behind := by
      cases others with
      | nil => exact ⟨rest, by simp⟩
      | cons next others => exact ⟨_, by simp [List.intercalate_cons_cons]; rfl⟩
    rw [text] at split
    constructor
    · simp [isAbsolute, rejoin, text, other]
    · simp only [piecesOf, rejoin, text, Bool.false_eq_true, if_false, String.toList_ofList]
      split
      · rename_i same
        injection same with same
        exact absurd same other
      · assumption

/-- What the directories above a path with pieces `ps` are written as: with some of the first of
these pieces, or with none. -/
inductive Higher (absolute : Bool) (ps : List (List Char)) : String → Prop where
  | root : Higher absolute ps "/"
  | here : Higher absolute ps "."
  | nowhere : Higher absolute ps ""
  | spelled {p : String} {qs : List (List Char)} (nonempty : qs ≠ []) (first : qs <+: ps)
      (spells : Spells absolute qs p) : Higher absolute ps p

section Higher

variable (plain : ∀ piece ∈ ps, '/' ∉ piece) (headed : absolute = false → ps.head? ≠ some [])
include plain headed

theorem higher_rejoin (first : qs <+: ps) : Higher absolute ps (rejoin absolute qs) := by
  by_cases nonempty : qs = []
  · subst nonempty
    cases absolute with
    | true => exact .root
    | false => exact .nowhere
  · refine .spelled nonempty first (spells_rejoin nonempty ?_ fun relative => ?_)
    · exact fun piece inQs => plain piece (first.subset inQs)
    · obtain ⟨rest, rfl⟩ := first
      rw [← List.head?_append_of_ne_nil qs nonempty]
      exact headed relative

theorem Higher.parent {q : String} (higher : Higher absolute ps p) (up : parent? p = some q) :
    Higher absolute ps q := by
  cases higher with
  | root =>
    have none : parent? "/" = none := by decide +kernel
    cases none.symm.trans up
  | here =>
    have up' : parent? "." = some "" := by decide +kernel
    cases up'.symm.trans up
    exact .nowhere
  | nowhere =>
    have none : parent? "" = none := by decide +kernel
    cases none.symm.trans up
  | spelled nonempty first spells =>
    rw [parent?, spells.absolute, spells.pieces] at up
    split at up
    · cases up
    · injection up with up
      rw [← up]
      refine higher_rejoin plain headed ?_
      exact ((prefix_dropIdle _ _).trans (List.dropLast_prefix _)).trans
        ((prefix_dropIdle _ _).trans first)

theorem Higher.above {q : String} (higher : Higher absolute ps p) (above : Above p q) :
    Higher absolute ps q := by
  induction above with
  | self => exact higher
  | parent _ up ih => exact ih.parent plain headed up

end Higher

theorem head?_piecesOf (path : String) (relative : isAbsolute path = false) :
    (piecesOf path).dropLast.head? ≠ some [] := by
  unfold piecesOf
  unfold isAbsolute at relative
  generalize path.toList = text at relative ⊢
  cases text with
  | nil => simp
  | cons c s =>
    have other : c ≠ '/' := by simpa using relative
    split
    · rename_i same
      injection same with same
      exact absurd same other
    · obtain ⟨first, others, pieces⟩ := List.exists_cons_of_ne_nil (List.splitOn_ne_nil '/' s)
      rw [List.splitOn_cons_eq_if_modifyHead, pieces]
      cases others <;> simp [other]

namespace Disk

variable {d d' : Disk} {k l m : Location} {t : Target} {xs ys : List String}

theorem exists_find_of_walk {path : String} (admissible : Admissible path)
    (walked : d.walk (d.start path) ((piecesOf path).map String.ofList) = .ok m)
    (ends : d.node? m = some .directory) : ∃ t, d.find path = .ok t ∧ t.location = m := by
  obtain ⟨idle, whole, all, stopped⟩ := body_spec path
  rw [whole] at walked
  obtain ⟨k, reached, directory, idly⟩ := exists_walk_of_append walked ends
  obtain rfl : k = m := by
    rw [walk_idle directory all] at idly
    exact Except.ok.inj idly
  suffices reaches : ∃ t, Reaches d path t ∧ t.location = k by
    obtain ⟨t, reaches, place⟩ := reaches
    exact ⟨t, find_eq_ok_iff.2 ⟨admissible, reaches⟩, place⟩
  cases ending : (body path).getLast? with
  | none =>
    have nothing : body path = [] := List.getLast?_eq_none_iff.1 ending
    rw [nothing] at reached
    cases reached
    exact ⟨_, .start nothing, rfl⟩
  | some last =>
    obtain ⟨before, pieces⟩ := List.getLast?_eq_some_iff.1 ending
    rw [pieces] at reached
    obtain ⟨j, walkedBefore, here, onward⟩ := exists_walk_of_append reached directory
    rw [walk_cons, requireDirectory_eq_ok.2 here] at onward
    have filled : last ≠ "" := fun none => stopped (by rw [ending, none])
    simp only [bind, Except.bind, filled, decide_false, Bool.false_or, decide_eq_true_eq] at onward
    split_ifs at onward with dot up long there
    · cases onward
      exact ⟨_, .here (dot ▸ pieces) walkedBefore here, rfl⟩
    · cases onward
      exact ⟨_, .up (up ▸ pieces) walkedBefore here, rfl⟩
    · cases onward
      exact ⟨_, .name pieces ⟨dot, up⟩ long walkedBefore here, rfl⟩

theorem exists_find_dot (here : d.node? d.workingDirectory = some .directory) :
    ∃ t, d.find "." = .ok t ∧ t.location = d.workingDirectory := by
  have spells : isAbsolute "." = false ∧ piecesOf "." = [['.']] := by decide +kernel
  have admissible : Admissible "." := ⟨by decide +kernel, by decide +kernel, by decide +kernel⟩
  refine exists_find_of_walk admissible ?_ here
  rw [start, spells.1, spells.2, List.map_singleton, walk_cons, if_neg Bool.false_ne_true,
    requireDirectory_eq_ok.2 here]
  rfl

theorem Leads.walk {path : String} (leads : d.Leads path l) :
    ∃ last k, (piecesOf path).getLast? = some last ∧
      d.walk (d.start path) ((piecesOf path).dropLast.map String.ofList) = .ok k ∧
      d.node? k = some .directory ∧ l = k ++ [String.ofList last] := by
  obtain ⟨_, reaches⟩ := find_eq_ok_iff.1 leads
  generalize target : Target.mk l false true = t at reaches
  cases reaches with
  | start | here | up => cases target
  | @name before last k pieces _ _ walked directory =>
    injection target with place slashed _
    -- Nothing is left out at the end, as the path does not ask for a directory.
    obtain ⟨idle, whole, -⟩ := body_spec path
    have all : body path = (piecesOf path).map String.ofList :=
      (show body path <+: _ from ⟨idle, whole.symm⟩).eq_of_length_le
        (by simpa only [List.length_map, Nat.not_lt, decide_eq_false_iff_not] using slashed.symm)
    rw [all] at pieces
    have ends : ((piecesOf path).map String.ofList).getLast? = some last := by simp [pieces]
    rw [List.getLast?_map, Option.map_eq_some_iff] at ends
    obtain ⟨piece, ends, rfl⟩ := ends
    refine ⟨piece, k, ends, ?_, directory, place⟩
    rwa [List.map_dropLast, pieces, List.dropLast_concat]

theorem exists_spelled {path : String} (higher : Higher absolute ps path)
    (found : d.find path = .ok t) (named : t.named = true) :
    ∃ qs, qs ≠ [] ∧ qs <+: ps ∧ Spells absolute qs path := by
  cases higher with
  | root =>
    cases found
    cases named
  | here =>
    have body : body "." = ["."] := by decide +kernel
    cases (find_eq_ok_iff.1 found).2 with
    | start | here | up => cases named
    | @name before _ _ pieces moves =>
      obtain ⟨_, same⟩ : before = [] ∧ _ = "." := by simpa [body, List.append_eq_singleton_iff,
        eq_comm] using pieces
      exact absurd same moves.1
  | nowhere => cases found
  | spelled nonempty first spells => exact ⟨_, nonempty, first, spells⟩

theorem prefix_dropIdle_body (path : String) (absolute : Bool) :
    (dropIdle absolute (piecesOf path)).map String.ofList <+: body path := by
  have skips (rs : List (List Char)) :
      dropIdle.go absolute (rs.dropWhile (· = [])) = dropIdle.go absolute rs := by
    induction rs with
    | nil => rfl
    | cons r rs ih =>
      by_cases empty : r = []
      · rw [List.dropWhile_cons_of_pos (by simpa using empty), ih]
        simp [dropIdle.go, empty]
      · rw [List.dropWhile_cons_of_neg (by simpa using empty)]
  have filled : (fun piece : String => decide (piece = "")) ∘ String.ofList =
      fun piece => decide (piece = []) := by
    funext piece
    simp
  have less := prefix_dropIdle absolute ((piecesOf path).reverse.dropWhile (· = [])).reverse
  rw [dropIdle, List.reverse_reverse, skips] at less
  unfold body
  rw [← List.map_reverse, List.dropWhile_map, filled, ← List.map_reverse]
  exact less.map String.ofList

/-- Where a path leads, the directories above it are there, wherever else they may be looked for. -/
theorem exists_directory_of_find {path p : String} {u : Target} {qs : List (List Char)}
    (found : d.find path = .ok t) (nonempty : qs ≠ [])
    (first : qs <+: (dropIdle (isAbsolute path) (piecesOf path)).dropLast)
    (spells : Spells (isAbsolute path) qs p) (elsewhere : d'.find p = .ok u) :
    ∃ u, d.find p = .ok u ∧ d.node? u.location = some .directory := by
  obtain ⟨_, reaches⟩ := find_eq_ok_iff.1 found
  have within : qs.map String.ofList <+: (body path).dropLast := by
    refine (first.map String.ofList).trans ?_
    rw [List.map_dropLast]
    exact dropLast_prefix_dropLast (prefix_dropIdle_body path _)
  have walked : ∃ k, d.walk (d.start path) (body path).dropLast = .ok k ∧
      d.node? k = some .directory := by
    cases reaches with
    | start nothing => simp [nothing, nonempty] at within
    | here pieces walked directory | up pieces walked directory
    | name pieces _ _ walked directory =>
      exact ⟨_, by rwa [pieces, List.dropLast_concat], directory⟩
  obtain ⟨k, walked, directory⟩ := walked
  obtain ⟨rest, whole⟩ := within
  rw [← whole] at walked
  obtain ⟨j, walked, here, -⟩ := exists_walk_of_append walked directory
  rw [← spells.pieces, start, ← spells.absolute] at walked
  obtain ⟨u, foundP, place⟩ := exists_find_of_walk (admissible_of_find elsewhere) walked here
  exact ⟨u, foundP, place ▸ here⟩

end Disk

end RemoteTags.Local
