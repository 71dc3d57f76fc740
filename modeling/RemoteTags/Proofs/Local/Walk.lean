import Mathlib.Tactic.SplitIfs
import RemoteTags.Local.Disk

/-! How a path is followed. Its pieces but the last are walked, from the root or from the working
directory, through directories only; the last one decides where the path leads. -/

namespace RemoteTags.Local.Disk

variable {d : Disk} {k l m : Location} {path : String} {t : Target} {pieces xs ys : List String}

theorem requireDirectory_eq_ok : d.requireDirectory l = .ok () ↔ d.node? l = some .directory := by
  unfold requireDirectory
  split <;> simp_all

theorem walk_cons (d : Disk) (l : Location) (piece : String) (rest : List String) :
    d.walk l (piece :: rest) = (do
      d.requireDirectory l
      if piece = "" || piece = "." then d.walk l rest
      else if piece = ".." then d.walk l.dropLast rest
      else if piece.utf8ByteSize > 255 then .error .nameTooLong
      else if (d.node? (l ++ [piece])).isSome then d.walk (l ++ [piece]) rest
      else .error .noEntry) := rfl

theorem directory_of_walk (walked : d.walk l pieces = .ok m) (ends : d.node? m = some .directory) :
    d.node? l = some .directory := by
  cases pieces with
  | nil =>
    cases walked
    exact ends
  | cons piece rest =>
    rw [walk_cons] at walked
    cases required : d.requireDirectory l with
    | error e =>
      rw [required] at walked
      cases walked
    | ok => exact requireDirectory_eq_ok.mp required

theorem walk_append (first : d.walk l xs = .ok k) (second : d.walk k ys = .ok m) :
    d.walk l (xs ++ ys) = .ok m := by
  induction xs generalizing l with
  | nil =>
    cases first
    exact second
  | cons piece xs ih =>
    rw [walk_cons] at first
    rw [List.cons_append, walk_cons]
    cases here : d.requireDirectory l with
    | error e =>
      rw [here] at first
      cases first
    | ok _ =>
      rw [here] at first
      simp only [bind, Except.bind] at first ⊢
      split_ifs at first ⊢ <;> exact ih first

theorem exists_walk_of_append (walked : d.walk l (xs ++ ys) = .ok m)
    (ends : d.node? m = some .directory) :
    ∃ k, d.walk l xs = .ok k ∧ d.node? k = some .directory ∧ d.walk k ys = .ok m := by
  induction xs generalizing l with
  | nil => exact ⟨l, rfl, directory_of_walk walked ends, walked⟩
  | cons piece xs ih =>
    have here := requireDirectory_eq_ok.mpr (directory_of_walk walked ends)
    rw [List.cons_append, walk_cons, here] at walked
    rw [walk_cons, here]
    simp only [bind, Except.bind] at walked ⊢
    split_ifs at walked ⊢ <;> exact ih walked

theorem walk_idle (here : d.node? l = some .directory) (idle : ∀ piece ∈ xs, piece = "") :
    d.walk l xs = .ok l := by
  induction xs with
  | nil => rfl
  | cons piece xs ih =>
    obtain ⟨rfl, others⟩ := List.forall_mem_cons.1 idle
    rw [walk_cons, requireDirectory_eq_ok.2 here]
    exact ih others

def start (d : Disk) (path : String) : Location :=
  if isAbsolute path then [] else d.workingDirectory

/-- The pieces of a path up to the last one that is not empty. -/
def body (path : String) : List String :=
  (((piecesOf path).map String.ofList).reverse.dropWhile (· = "")).reverse

theorem body_spec (path : String) :
    ∃ idle, (piecesOf path).map String.ofList = body path ++ idle ∧ (∀ piece ∈ idle, piece = "") ∧
      (body path).getLast? ≠ some "" := by
  unfold body
  generalize (piecesOf path).map String.ofList = pieces
  refine ⟨(pieces.reverse.takeWhile (· = "")).reverse, ?_, ?_, ?_⟩
  · rw [← List.reverse_append, List.takeWhile_append_dropWhile, List.reverse_reverse]
  · intro piece inIdle
    have all : (pieces.reverse.takeWhile (· = "")).all (· = "") = true := List.all_takeWhile
    simpa using List.all_eq_true.1 all piece (List.mem_reverse.1 inIdle)
  · intro last
    have filled := List.head?_dropWhile_not (· = "") pieces.reverse
    rw [List.getLast?_reverse] at last
    simp [last] at filled

structure Admissible (path : String) : Prop where
  plain : path.toList.contains '\x00' = false
  filled : path.isEmpty = false
  short : ¬longestPath ≤ path.utf8ByteSize

/-- The path is followed to a target. -/
inductive Reaches (d : Disk) (path : String) : Target → Prop where
  | start (nothing : body path = []) : Reaches d path ⟨d.start path, true, false⟩
  | here {before : List String} {k : Location} (pieces : body path = before ++ ["."])
      (walked : d.walk (d.start path) before = .ok k) (directory : d.node? k = some .directory) :
      Reaches d path ⟨k, true, false⟩
  | up {before : List String} {k : Location} (pieces : body path = before ++ [".."])
      (walked : d.walk (d.start path) before = .ok k) (directory : d.node? k = some .directory) :
      Reaches d path ⟨k.dropLast, true, false⟩
  | name {before : List String} {last : String} {k : Location}
      (pieces : body path = before ++ [last]) (moves : last ≠ "." ∧ last ≠ "..")
      (short : ¬last.utf8ByteSize > 255) (walked : d.walk (d.start path) before = .ok k)
      (directory : d.node? k = some .directory) :
      Reaches d path ⟨k ++ [last], decide ((body path).length < (piecesOf path).length), true⟩

theorem admissible_of_find (found : d.find path = .ok t) : Admissible path := by
  unfold find at found
  split_ifs at found with null empty long
  all_goals exact ⟨by simpa using null, by simpa using empty, long⟩

theorem find_eq (admissible : Admissible path) (d : Disk) :
    d.find path = match (body path).getLast? with
      | none => .ok ⟨d.start path, true, false⟩
      | some last =>
        match d.walk (d.start path) (body path).dropLast with
        | .error e => .error (.os e)
        | .ok l =>
          match d.requireDirectory l with
          | .error e => .error (.os e)
          | .ok () =>
            if last = "." then .ok ⟨l, true, false⟩
            else if last = ".." then .ok ⟨l.dropLast, true, false⟩
            else if last.utf8ByteSize > 255 then .error (.os .nameTooLong)
            else .ok ⟨l ++ [last], decide ((body path).length < (piecesOf path).length), true⟩ := by
  have pieces : ((piecesOf path).map String.ofList).length = (piecesOf path).length :=
    List.length_map String.ofList
  unfold find
  rw [admissible.plain, admissible.filled, if_neg admissible.short, ← pieces]
  rfl

theorem find_eq_ok_iff : d.find path = .ok t ↔ Admissible path ∧ Reaches d path t := by
  constructor
  · intro found
    have admissible := admissible_of_find found
    refine ⟨admissible, ?_⟩
    rw [find_eq admissible] at found
    split at found
    · rename_i nothing
      cases found
      exact .start (List.getLast?_eq_none_iff.1 nothing)
    · rename_i last ends
      obtain ⟨before, pieces⟩ := List.getLast?_eq_some_iff.1 ends
      split at found
      · cases found
      · rename_i k walked
        rw [pieces, List.dropLast_concat] at walked
        split at found
        · cases found
        · rename_i required
          have directory := requireDirectory_eq_ok.1 required
          split_ifs at found with here up long
          · cases found
            exact .here (here ▸ pieces) walked directory
          · cases found
            exact .up (up ▸ pieces) walked directory
          · cases found
            exact .name pieces ⟨here, up⟩ long walked directory
  · rintro ⟨admissible, reaches⟩
    rw [find_eq admissible]
    cases reaches with
    | start nothing =>
      rw [nothing]
      rfl
    | here pieces walked directory | up pieces walked directory =>
      simp [pieces, walked, requireDirectory_eq_ok.2 directory]
    | name pieces moves short walked directory =>
      simp [pieces, walked, requireDirectory_eq_ok.2 directory, moves, short]

theorem location_ne_nil (found : d.find path = .ok t) (named : t.named = true) :
    t.location ≠ [] := by
  cases (find_eq_ok_iff.1 found).2 with
  | name => simp
  | start | here | up => cases named

end RemoteTags.Local.Disk
