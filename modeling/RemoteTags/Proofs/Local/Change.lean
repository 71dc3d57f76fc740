import RemoteTags.Local.Call
import RemoteTags.Proofs.Association
import RemoteTags.Proofs.Local.Walk

/-! What the operations on a disk change: one node at most, and never so that a directory goes away.
A path that leads somewhere therefore leads there afterwards as well. -/

namespace RemoteTags.Local

structure ChangesAt (l : Location) (d d' : Disk) : Prop where
  elsewhere : ∀ m, m ≠ l → d'.node? m = d.node? m
  workingDirectory : d'.workingDirectory = d.workingDirectory

/-- Whatever else changes, directories stay. -/
structure Keeps (d d' : Disk) : Prop where
  directory : ∀ l, d.node? l = some .directory → d'.node? l = some .directory
  workingDirectory : d'.workingDirectory = d.workingDirectory

namespace Disk

variable {d d' : Disk} {l m : Location} {n : Node} {path : String} {t : Target} {c data : Bytes}

theorem node?_of_ne_nil (named : l ≠ []) : d.node? l = d.nodes.lookup l := by
  cases l with
  | nil => exact absurd rfl named
  | cons _ _ => rfl

theorem lookup_map_put (nodes : List (Location × Node)) (l : Location) (n : Node) (m : Location) :
    (nodes.map fun e => if e.1 = l then (l, n) else e).lookup m =
      if m = l ∧ (nodes.lookup l).isSome then some n else nodes.lookup m := by
  induction nodes with
  | nil => simp
  | cons e nodes ih =>
    obtain ⟨k, v⟩ := e
    rw [List.map_cons, lookup_cons_ite k v nodes l, lookup_cons_ite k v nodes m]
    by_cases atK : k = l
    · subst atK
      rw [if_pos rfl, lookup_cons_ite, ih]
      by_cases mK : m = k <;> simp [mK]
    · rw [if_neg atK, lookup_cons_ite, ih, if_neg (Ne.symm atK)]
      by_cases mK : m = k
      · simp [mK, atK]
      · simp [mK]

theorem node?_put (named : l ≠ []) (d : Disk) (n : Node) (m : Location) :
    (d.put l n).node? m = if m = l then some n else d.node? m := by
  by_cases root : m = []
  · subst root
    rw [if_neg (Ne.symm named)]
    rfl
  rw [node?_of_ne_nil root, node?_of_ne_nil root]
  unfold put
  by_cases there : (d.nodes.lookup l).isSome
  · rw [if_pos there]
    simp only [lookup_map_put, there, and_true]
  · rw [if_neg there]
    have absent : d.nodes.lookup l = none := Option.not_isSome_iff_eq_none.mp there
    simp only [List.lookup_append, lookup_cons_ite, List.lookup_nil]
    by_cases atL : m = l
    · simp [atL, absent]
    · simp [atL]

theorem node?_erase (named : l ≠ []) (d : Disk) (m : Location) :
    (d.erase l).node? m = if m = l then none else d.node? m := by
  by_cases root : m = []
  · subst root
    rw [if_neg (Ne.symm named)]
    rfl
  rw [node?_of_ne_nil root, node?_of_ne_nil root]
  exact lookup_filter_ne d.nodes l m

@[simp] theorem workingDirectory_put (d : Disk) (l : Location) (n : Node) :
    (d.put l n).workingDirectory = d.workingDirectory := by
  unfold put
  split <;> rfl

theorem changesAt_put (named : l ≠ []) (d : Disk) (n : Node) : ChangesAt l d (d.put l n) where
  elsewhere m other := by rw [node?_put named, if_neg other]
  workingDirectory := workingDirectory_put d l n

theorem changesAt_erase (named : l ≠ []) (d : Disk) : ChangesAt l d (d.erase l) where
  elsewhere m other := by rw [node?_erase named, if_neg other]
  workingDirectory := rfl

end Disk

namespace ChangesAt

variable {d d' d'' : Disk} {l : Location}

theorem refl (l : Location) (d : Disk) : ChangesAt l d d := ⟨fun _ _ => rfl, rfl⟩

theorem trans (first : ChangesAt l d d') (second : ChangesAt l d' d'') : ChangesAt l d d'' where
  elsewhere m other := (second.elsewhere m other).trans (first.elsewhere m other)
  workingDirectory := second.workingDirectory.trans first.workingDirectory

theorem keeps (changes : ChangesAt l d d') (free : d.node? l ≠ some .directory) : Keeps d d' where
  directory m directory := by
    have other : m ≠ l := by
      rintro rfl
      exact free directory
    rw [changes.elsewhere m other, directory]
  workingDirectory := changes.workingDirectory

end ChangesAt

namespace Keeps

variable {d d' d'' : Disk} {path : String} {t : Target} {l m : Location} {pieces : List String}

theorem refl (d : Disk) : Keeps d d := ⟨fun _ h => h, rfl⟩

theorem trans (first : Keeps d d') (second : Keeps d' d'') : Keeps d d'' where
  directory l directory := second.directory l (first.directory l directory)
  workingDirectory := second.workingDirectory.trans first.workingDirectory

end Keeps

namespace Disk

variable {d d' : Disk} {l m : Location} {path : String} {t : Target} {pieces : List String}
  {c : Bytes}

theorem walk_of_keeps (keeps : Keeps d d') (walked : d.walk l pieces = .ok m)
    (ends : d.node? m = some .directory) : d'.walk l pieces = .ok m := by
  induction pieces generalizing l with
  | nil => exact walked
  | cons piece rest ih =>
    have here := directory_of_walk walked ends
    rw [walk_cons, requireDirectory_eq_ok.mpr here] at walked
    rw [walk_cons, requireDirectory_eq_ok.mpr (keeps.directory l here)]
    simp only [bind, Except.bind] at walked ⊢
    split_ifs at walked with idle up long there
    · rw [if_pos idle]
      exact ih walked
    · rw [if_neg idle, if_pos up]
      exact ih walked
    · -- The next piece is a directory, since the walk ends in one: it stays.
      have next := keeps.directory _ (directory_of_walk walked ends)
      rw [if_neg idle, if_neg up, if_neg long, next, Option.isSome_some, if_pos rfl]
      exact ih walked

theorem find_of_keeps (keeps : Keeps d d') (found : d.find path = .ok t) : d'.find path = .ok t := by
  obtain ⟨admissible, reaches⟩ := find_eq_ok_iff.1 found
  refine find_eq_ok_iff.2 ⟨admissible, ?_⟩
  have begins : d'.start path = d.start path := by
    unfold start
    rw [keeps.workingDirectory]
  cases reaches with
  | start nothing => exact begins ▸ .start nothing
  | here pieces walked directory =>
    exact .here pieces (begins ▸ walk_of_keeps keeps walked directory) (keeps.directory _ directory)
  | up pieces walked directory =>
    exact .up pieces (begins ▸ walk_of_keeps keeps walked directory) (keeps.directory _ directory)
  | name pieces moves short walked directory =>
    exact .name pieces moves short (begins ▸ walk_of_keeps keeps walked directory)
      (keeps.directory _ directory)

/-- The path leads to the place of a file. -/
def Leads (d : Disk) (path : String) (l : Location) : Prop := d.find path = .ok ⟨l, false, true⟩

theorem Leads.of_keeps (leads : d.Leads path l) (keeps : Keeps d d') : d'.Leads path l :=
  find_of_keeps keeps leads

theorem Leads.unique (leads : d.Leads path l) (also : d.Leads path m) : m = l := by
  have same := also.symm.trans leads
  injection same with same
  injection same

theorem Leads.ne_nil (leads : d.Leads path l) : l ≠ [] := location_ne_nil leads rfl

theorem createNew_eq_ok (created : d.createNew path = .ok d') :
    ∃ l, d.Leads path l ∧ d.node? l = none ∧ d' = d.put l (.file []) := by
  unfold createNew at created
  cases found : d.find path with
  | error e => simp [found, bind, Except.bind] at created
  | ok t =>
    obtain ⟨l, asDirectory, named⟩ := t
    simp only [found, bind, Except.bind] at created
    split_ifs at created with taken slashed
    injection created with created
    obtain ⟨rfl, absent⟩ : named = true ∧ d.node? l = none := by simpa using taken
    obtain rfl : asDirectory = false := by simpa using slashed
    exact ⟨l, found, absent, created.symm⟩

theorem createScratch_cons (d : Disk) (directory suffix token : String) (others : List String) :
    d.createScratch directory suffix (token :: others) =
      let path := scratchPath d.currentDirectory directory token suffix
      match d.createNew path with
      | .ok d => .ok (path, d)
      | .error e =>
        if e = .os .exists then d.createScratch directory suffix others
        else .error (e.atPath path) := by
  delta createScratch
  rfl

theorem createScratch_eq_ok {directory suffix : String} {tokens : List String}
    (created : d.createScratch directory suffix tokens = .ok (path, d')) :
    d.createNew path = .ok d' := by
  induction tokens with
  | nil => cases created
  | cons token others ih =>
    rw [createScratch_cons] at created
    dsimp only at created
    split at created
    · rename_i made
      cases created
      exact made
    · split_ifs at created
      exact ih created

theorem read_of_file (leads : d.Leads path l) (file : d.node? l = some (.file c)) :
    d.read path = .ok c := by
  simp only [read, show d.find path = _ from leads, bind, Except.bind, file]
  rfl

theorem read_of_nothing (leads : d.Leads path l) (nothing : d.node? l = none) :
    d.read path = .error (.os .noEntry) := by
  simp only [read, show d.find path = _ from leads, bind, Except.bind, nothing]

theorem append_of_file (leads : d.Leads path l) (file : d.node? l = some (.file c))
    (data : Bytes) : d.append path data = .ok (d.put l (.file (c ++ data))) := by
  simp only [append, show d.find path = _ from leads, bind, Except.bind, file]

theorem remove_of_file (leads : d.Leads path l) (file : d.node? l = some (.file c)) :
    d.remove path = .ok (d.erase l) := by
  simp only [remove, show d.find path = _ from leads, bind, Except.bind, file]
  rfl

theorem remove_of_nothing (leads : d.Leads path l) (nothing : d.node? l = none) :
    d.remove path = .error (.os .noEntry) := by
  simp only [remove, show d.find path = _ from leads, bind, Except.bind, nothing]

theorem rename_eq_ok {source target : String} (leads : d.Leads source l)
    (file : d.node? l = some (.file c)) (renamed : d.rename source target = .ok d') :
    ∃ m, d.Leads target m ∧ d.node? m ≠ some .directory ∧
      d' = (d.erase l).put m (.file c) := by
  unfold rename at renamed
  rw [show d.find source = _ from leads] at renamed
  cases found : d.find target with
  | error e => simp [found, bind, Except.bind] at renamed
  | ok t =>
    obtain ⟨m, asDirectory, named⟩ := t
    simp only [found, bind, Except.bind, file] at renamed
    split_ifs at renamed with unnamed slashed
    · split at renamed <;> cases renamed
    · obtain rfl : named = true := by simpa using unnamed
      obtain rfl : asDirectory = false := by simpa using slashed
      split at renamed
      · cases renamed
      · rename_i free
        injection renamed with renamed
        exact ⟨m, found, free, renamed.symm⟩

theorem makeDirectory_eq_ok (made : d.makeDirectory path = .ok d') :
    ∃ t, d.find path = .ok t ∧ t.named = true ∧ d.node? t.location = none ∧
      d' = d.put t.location .directory := by
  unfold makeDirectory at made
  cases found : d.find path with
  | error e => simp [found, bind, Except.bind] at made
  | ok t =>
    simp only [found, bind, Except.bind] at made
    split_ifs at made with taken
    injection made with made
    obtain ⟨absent, named⟩ : d.node? t.location = none ∧ t.named = true := by simpa using taken
    exact ⟨t, rfl, named, absent, made.symm⟩

end Disk

end RemoteTags.Local
