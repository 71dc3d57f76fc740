import Mathlib.Data.List.Induction
import RemoteTags.Proofs.Local.Parent

/-! Paths that never go up. Such a path leads to the place that its names tell, which lies below
all directories above it; and on a disk where whatever is there lies in a directory, it leads to
whatever is at this place. -/

namespace RemoteTags.Local

variable {pieces xs ys : List String} {path : String}

def Straight (path : String) : Prop := ['.', '.'] ∉ piecesOf path

instance (path : String) : Decidable (Straight path) :=
  inferInstanceAs (Decidable (['.', '.'] ∉ piecesOf path))

def isName (piece : String) : Bool := piece ≠ "" && piece ≠ "."

def names (pieces : List String) : List String := pieces.filter isName

@[simp] theorem names_append (xs ys : List String) : names (xs ++ ys) = names xs ++ names ys :=
  List.filter_append ..

theorem names_of_idle (idle : ∀ piece ∈ xs, piece = "") : names xs = [] := by
  rw [names, List.filter_eq_nil_iff]
  intro piece here
  simp [isName, idle piece here]

def namesOf (path : String) : List String := names ((piecesOf path).map String.ofList)

theorem namesOf_eq (path : String) : namesOf path = names (Disk.body path) := by
  obtain ⟨idle, whole, empty, -⟩ := Disk.body_spec path
  rw [namesOf, whole, names_append, names_of_idle empty, List.append_nil]

theorem Straight.not_mem {last : String} (straight : Straight path)
    (pieces : Disk.body path = xs ++ [last]) : ".." ∉ xs ∧ last ≠ ".." := by
  obtain ⟨idle, whole, -⟩ := Disk.body_spec path
  have down : ".." ∉ Disk.body path := by
    intro up
    have within : ".." ∈ (piecesOf path).map String.ofList := whole ▸ List.mem_append_left idle up
    obtain ⟨piece, here, same⟩ := List.mem_map.1 within
    obtain rfl : piece = ['.', '.'] := String.ofList_injective same
    exact straight here
  rw [pieces, List.mem_append, List.mem_singleton] at down
  exact ⟨fun up => down (.inl up), fun up => down (.inr up.symm)⟩

theorem dropIdle_ends (absolute : Bool) (ps : List (List Char)) :
    dropIdle absolute ps = [] ∨ ∃ before last, dropIdle absolute ps = before ++ [last] ∧
      (before ≠ [] → isName (String.ofList last) = true) := by
  have go (rs : List (List Char)) : dropIdle.go absolute rs = [] ∨
      ∃ before last, dropIdle.go absolute rs = before ++ [last] ∧
        (before ≠ [] → isName (String.ofList last) = true) := by
    induction rs with
    | nil => exact .inl rfl
    | cons p rest ih =>
      rw [dropIdle.go]
      split
      · exact ih
      · rename_i kept
        refine .inr ⟨rest.reverse, p, List.reverse_cons, fun others => ?_⟩
        simp_all [isName, String.ext_iff]
  exact go ps.reverse

theorem length_names_above {absolute : Bool} {ps qs : List (List Char)} (nonempty : qs ≠ [])
    (first : qs <+: (dropIdle absolute ps).dropLast) :
    (names (qs.map String.ofList)).length < (names (ps.map String.ofList)).length := by
  obtain ⟨rest, whole⟩ := prefix_dropIdle absolute ps
  rcases dropIdle_ends absolute ps with none | ⟨before, last, split, named⟩
  · simp [none, nonempty] at first
  · rw [split, List.dropLast_concat] at first
    obtain ⟨between, rfl⟩ := first
    have name := named (by simp [nonempty])
    have last : names [String.ofList last] = [String.ofList last] := by simp [names, name]
    rw [← whole, split]
    simp only [List.map_append, List.map_cons, List.map_nil, names_append, last,
      List.length_append, List.length_singleton]
    omega

namespace Disk

variable {d d' : Disk} {k l m : Location} {t u : Target} {n : Node}

theorem walk_straight (straight : ".." ∉ pieces) (walked : d.walk l pieces = .ok m) :
    m = l ++ names pieces := by
  induction pieces generalizing l with
  | nil =>
    cases walked
    simp [names]
  | cons piece rest ih =>
    obtain ⟨down, onward⟩ := not_or.1 (List.mem_cons.not.1 straight)
    rw [walk_cons] at walked
    cases required : d.requireDirectory l with
    | error e =>
      rw [required] at walked
      cases walked
    | ok =>
      simp only [required, bind, Except.bind] at walked
      split_ifs at walked with idle up long there
      · rw [ih onward walked]
        have no : isName piece = false := by grind [isName]
        simp [names, no]
      · exact absurd (by simpa using up.symm) down
      · rw [ih onward walked]
        have name : isName piece = true := by simpa [isName] using idle
        simp [names, name]

/-- A path that never goes up leads to the place that its names tell. -/
theorem location_of_straight (straight : Straight path) (found : d.find path = .ok t) :
    t.location = d.start path ++ namesOf path := by
  rw [namesOf_eq]
  cases (find_eq_ok_iff.1 found).2 with
  | start nothing => simp [nothing, names]
  | here pieces walked _ =>
    simp [walk_straight (straight.not_mem pieces).1 walked, pieces, names, isName]
  | up pieces => exact absurd rfl (straight.not_mem pieces).2
  | @name before last k pieces moves _ walked _ =>
    have filled : last ≠ "" := by
      rintro rfl
      obtain ⟨_, _, _, stopped⟩ := body_spec path
      simp [pieces] at stopped
    simp [walk_straight (straight.not_mem pieces).1 walked, pieces, names, isName, moves.1, filled]

theorem ne_location_of_above {qs : List (List Char)} {p : String} (straight : Straight path)
    (found : d.find path = .ok t) (nonempty : qs ≠ [])
    (first : qs <+: (dropIdle (isAbsolute path) (piecesOf path)).dropLast)
    (spells : Spells (isAbsolute path) qs p) (foundP : d.find p = .ok u) :
    u.location ≠ t.location := by
  have straightP : Straight p := by
    unfold Straight
    rw [spells.pieces]
    exact fun up => straight ((prefix_dropIdle _ _).subset
      (List.dropLast_subset _ (first.subset up)))
  have fewer := length_names_above nonempty first
  rw [location_of_straight straight found, location_of_straight straightP foundP, start, start,
    spells.absolute, namesOf, namesOf, spells.pieces]
  intro same
  rw [List.append_cancel_left same] at fewer
  exact Nat.lt_irrefl _ fewer

/-- Whatever is there lies in a directory. -/
def Rooted (d : Disk) : Prop :=
  ∀ l n, d.node? l = some n → l ≠ [] → d.node? l.dropLast = some .directory

theorem Rooted.above (rooted : d.Rooted) (there : d.node? m = some .directory) (above : l <+: m) :
    d.node? l = some .directory := by
  obtain ⟨rest, rfl⟩ := above
  induction rest using List.reverseRecOn with
  | nil => simpa using there
  | append_singleton rest last ih =>
    have higher := rooted _ _ there (by simp)
    rw [← List.append_assoc, List.dropLast_concat] at higher
    exact ih higher

theorem walk_of_rooted (rooted : d'.Rooted) (straight : ".." ∉ pieces)
    (walked : d.walk l pieces = .ok m) (ends : d'.node? m = some .directory) :
    d'.walk l pieces = .ok m := by
  induction pieces generalizing l with
  | nil => exact walked
  | cons piece rest ih =>
    obtain ⟨down, onward⟩ := not_or.1 (List.mem_cons.not.1 straight)
    have here := rooted.above ends ⟨_, (walk_straight straight walked).symm⟩
    rw [walk_cons] at walked
    rw [walk_cons, requireDirectory_eq_ok.2 here]
    cases required : d.requireDirectory l with
    | error e =>
      rw [required] at walked
      cases walked
    | ok =>
      simp only [required, bind, Except.bind] at walked ⊢
      split_ifs at walked with idle up long there
      · rw [if_pos idle]
        exact ih onward walked
      · exact absurd (by simpa using up.symm) down
      · have next := rooted.above ends ⟨_, (walk_straight onward walked).symm⟩
        rw [if_neg idle, if_neg up, if_neg long, next, Option.isSome_some, if_pos rfl]
        exact ih onward walked

/-- A path that never goes up leads to whatever there is at a place, if it does so on another disk
that has the same there. -/
theorem find_of_rooted (rooted : d'.Rooted) (straight : Straight path)
    (found : d.find path = .ok t) (begins : d'.workingDirectory = d.workingDirectory)
    (there : d'.node? t.location = some n) (same : d.node? t.location = d'.node? t.location) :
    d'.find path = .ok t := by
  obtain ⟨admissible, reaches⟩ := find_eq_ok_iff.1 found
  refine find_eq_ok_iff.2 ⟨admissible, ?_⟩
  have begins : d'.start path = d.start path := by
    unfold start
    rw [begins]
  cases reaches with
  | start nothing => exact begins ▸ .start nothing
  | here pieces walked directory =>
    have directory := same.symm.trans directory
    have walked := walk_of_rooted rooted (straight.not_mem pieces).1 walked directory
    exact .here pieces (begins ▸ walked) directory
  | up pieces => exact absurd rfl (straight.not_mem pieces).2
  | name pieces moves short walked _ =>
    have directory := rooted _ _ there (by simp)
    rw [List.dropLast_concat] at directory
    have walked := walk_of_rooted rooted (straight.not_mem pieces).1 walked directory
    exact .name pieces moves short (begins ▸ walked) directory

/-- What a path leads to, if anything is there. -/
def at? (d : Disk) (path : String) : Option Node :=
  match d.find path with
  | .ok t => d.node? t.location
  | .error _ => none

theorem at?_of_find (found : d.find path = .ok t) : d.at? path = d.node? t.location := by
  simp only [at?, found]

theorem at?_of_error (lost : ∀ t, d.find path ≠ .ok t) : d.at? path = none := by
  unfold at?
  split
  · rename_i t found
    exact absurd found (lost t)
  · rfl

/-- A path that never goes up leads to the same as before, or to nothing as before, as long as
nothing changes where it leads to. -/
theorem at?_of_keeps (keeps : Keeps d d') (rooted : d.Rooted) (straight : Straight path)
    (same : ∀ t, d'.find path = .ok t → d'.node? t.location = d.node? t.location) :
    d'.at? path = d.at? path := by
  by_cases before : ∃ t, d.find path = .ok t
  · obtain ⟨t, before⟩ := before
    have after := find_of_keeps keeps before
    rw [at?_of_find before, at?_of_find after, same t after]
  rw [at?_of_error (not_exists.1 before)]
  cases after : d'.find path with
  | error e => exact at?_of_error (by simp [after])
  | ok t =>
    rw [at?_of_find after, same t after]
    cases there : d.node? t.location with
    | none => rfl
    | some n =>
      exact absurd ⟨t, find_of_rooted rooted straight after keeps.workingDirectory.symm there
        (same t after)⟩ before

end Disk

end RemoteTags.Local
