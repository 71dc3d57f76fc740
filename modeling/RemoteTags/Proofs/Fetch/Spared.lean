import RemoteTags.Fetch.Pipeline
import RemoteTags.Proofs.Local.Straight

/-! What a fetch makes of the places on the local disk, and of the one that its target leads to,
until the new file is there. Missing parents of the target are made, and scratch files. The target
itself is spared; only if it goes through one of these parents and up again, it may lead to what it
did not lead to before. -/

namespace RemoteTags.Fetch
open Local

variable {target : String} {P P' : String → Prop} {d₀ d d' : Disk} {l : Location} {t : Target}

/-- What may have become of a place: nothing, a parent directory of the target, or one of the
scratch files `P`. The last two only where nothing was before. -/
inductive Kept (target : String) (P : String → Prop) (d₀ d : Disk) (l : Location) : Prop where
  | same (same : d.node? l = d₀.node? l)
  | parent {p : String} {t : Target} (absent : d₀.node? l = none)
      (made : d.node? l = some .directory) (above : Above (directoryOf target) p)
      (found : d.find p = .ok t) (named : t.named = true) (here : t.location = l)
  | scratch {path : String} {c : Bytes} (absent : d₀.node? l = none)
      (file : d.node? l = some (.file c)) (leads : d.Leads path l) (left : P path)

namespace Kept

theorem of_existing {n : Node} (kept : Kept target P d₀ d l) (existing : d₀.node? l = some n) :
    d.node? l = some n := by
  cases kept with
  | same same => rw [same, existing]
  | parent absent => simp [absent] at existing
  | scratch absent => simp [absent] at existing

theorem of_nothing (kept : Kept target P d₀ d l) (nothing : d.node? l = none) :
    d₀.node? l = none := by
  cases kept with
  | same same => rw [← same, nothing]
  | parent absent => exact absent
  | scratch absent => exact absent

theorem elsewhere (kept : Kept target P d₀ d l) (same : d'.node? l = d.node? l)
    (keeps : Keeps d d') (left : ∀ path, P path → d.Leads path l → P' path) :
    Kept target P' d₀ d' l := by
  cases kept with
  | same before => exact .same (same.trans before)
  | parent absent made above found named here =>
    exact .parent absent (same.trans made) above (Disk.find_of_keeps keeps found) named here
  | scratch absent file leads inP =>
    exact .scratch absent (same.trans file) (leads.of_keeps keeps) (left _ inP leads)

end Kept

/-- Here is what was here before, or one of the scratch files `P` where nothing was. -/
inductive Remains (P : String → Prop) (d₀ d : Disk) (l : Location) : Prop where
  | same (same : d.node? l = d₀.node? l)
  | scratch {path : String} {c : Bytes} (absent : d₀.node? l = none)
      (file : d.node? l = some (.file c)) (leads : d.Leads path l) (left : P path)

/-- The target is as it was, and so is whatever was on the disk. -/
structure Spared (target : String) (P : String → Prop) (d₀ d : Disk) : Prop where
  -- Where the target led to, it leads to still.
  found : ∀ t, d₀.find target = .ok t → d.find target = .ok t ∧ Remains P d₀ d t.location
  -- A target that never goes up leads to what it led to, and to nothing if it led to nothing.
  straight : Straight target → d₀.Rooted → d.at? target = d₀.at? target ∨
    d₀.at? target = none ∧
      ∃ t path, d.find target = .ok t ∧ d.Leads path t.location ∧ P path
  -- One that goes up from a parent of its own that was missing leads to what was there as well, or to
  -- such a parent, which is a new directory.
  leads : ∀ t, d.find target = .ok t → Remains P d₀ d t.location ∨
    ¬Straight target ∧ (∀ u, d₀.find target ≠ .ok u) ∧
      d₀.node? t.location = none ∧ d.node? t.location = some .directory ∧
      ∃ p u, Above (directoryOf target) p ∧ d.find p = .ok u ∧ u.location = t.location
  existing : ∀ l n, d₀.node? l = some n → d.node? l = some n
  elsewhere : ∀ l, Kept target P d₀ d l

section Parents

variable (target : String)

theorem above_prefix_piecesOf :
    (dropIdle (isAbsolute target) (piecesOf target)).dropLast <+: (piecesOf target).dropLast :=
  dropLast_prefix_dropLast (prefix_dropIdle (isAbsolute target) (piecesOf target))

theorem slash_notMem_above :
    ∀ piece ∈ (dropIdle (isAbsolute target) (piecesOf target)).dropLast, '/' ∉ piece := by
  intro piece here
  exact not_mem_piecesOf target piece
    (List.dropLast_subset _ ((above_prefix_piecesOf target).subset here))

theorem head?_above (relative : isAbsolute target = false) :
    (dropIdle (isAbsolute target) (piecesOf target)).dropLast.head? ≠ some [] := by
  have filled := head?_piecesOf target relative
  have first := above_prefix_piecesOf target
  generalize (dropIdle (isAbsolute target) (piecesOf target)).dropLast = ps at first ⊢
  obtain ⟨rest, whole⟩ := first
  rw [← whole] at filled
  cases ps with
  | nil => simp
  | cons p ps => exact filled

theorem higher_directoryOf :
    Higher (isAbsolute target) (dropIdle (isAbsolute target) (piecesOf target)).dropLast
      (directoryOf target) := by
  have higher := higher_rejoin (slash_notMem_above target) (head?_above target)
    (prefix_dropIdle (isAbsolute target) _)
  unfold directoryOf parent?
  dsimp only
  generalize rejoin _ _ = parent at higher ⊢
  split
  · exact .here
  · exact .here
  · rename_i same
    split_ifs at same
    cases same
    exact higher

end Parents

theorem exists_spelled_of_above {p : String} (above : Above (directoryOf target) p)
    (found : d.find p = .ok t) (named : t.named = true) :
    ∃ qs, qs ≠ [] ∧ qs <+: (dropIdle (isAbsolute target) (piecesOf target)).dropLast ∧
      Spells (isAbsolute target) qs p :=
  have higher := higher_directoryOf target
  Disk.exists_spelled (higher.above (slash_notMem_above target) (head?_above target) above)
    found named

/-- This holds of every place, and nothing that was there has been lost. -/
structure Since (target : String) (P : String → Prop) (d₀ d : Disk) : Prop where
  keeps : Keeps d₀ d
  kept : ∀ l, Kept target P d₀ d l

namespace Since

theorem refl (d : Disk) : Since target P d d := ⟨.refl d, fun _ => .same rfl⟩

theorem grow (grown : Grown (directoryOf target) d d') : Since target P d d' := by
  refine ⟨grown.keeps, fun l => ?_⟩
  rcases grown.node? l with same | ⟨absent, made, p, t, above, found, named, here⟩
  · exact .same same
  · exact .parent absent made above found named here

theorem at_target (since : Since target P d₀ d) (found : d₀.find target = .ok t) :
    d.find target = .ok t ∧ Remains P d₀ d t.location := by
  refine ⟨Disk.find_of_keeps since.keeps found, ?_⟩
  cases since.kept t.location with
  | same same => exact .same same
  | scratch absent file leads left => exact .scratch absent file leads left
  | @parent p u absent _ above foundP named here =>
    -- All parents of the target were there before.
    obtain ⟨qs, nonempty, first, spells⟩ := exists_spelled_of_above above foundP named
    obtain ⟨u₀, found₀, directory⟩ :=
      Disk.exists_directory_of_find found nonempty first spells foundP
    have same := foundP.symm.trans (Disk.find_of_keeps since.keeps found₀)
    injection same with same
    rw [← same, here, absent] at directory
    cases directory

theorem at_straight (since : Since target P d₀ d) (straight : Straight target)
    (found : d.find target = .ok t) : Remains P d₀ d t.location := by
  cases since.kept t.location with
  | same same => exact .same same
  | scratch absent file leads left => exact .scratch absent file leads left
  | @parent p u _ _ above foundP named here =>
    obtain ⟨qs, nonempty, first, spells⟩ := exists_spelled_of_above above foundP named
    exact absurd here (Disk.ne_location_of_above straight found nonempty first spells foundP)

theorem spared (since : Since target P d₀ d) : Spared target P d₀ d where
  found _ found := since.at_target found
  straight := by
    intro straight rooted
    by_cases left : ∃ t path, d.find target = .ok t ∧ d.Leads path t.location ∧ P path ∧
        d₀.node? t.location = none
    · obtain ⟨t, path, found, leads, inP, absent⟩ := left
      refine .inr ⟨?_, t, path, found, leads, inP⟩
      by_cases before : ∃ u, d₀.find target = .ok u
      · obtain ⟨u, before⟩ := before
        cases found.symm.trans (Disk.find_of_keeps since.keeps before)
        rw [Disk.at?_of_find before, absent]
      · exact Disk.at?_of_error (not_exists.1 before)
    · refine .inl (Disk.at?_of_keeps since.keeps rooted straight fun t found => ?_)
      cases since.at_straight straight found with
      | same same => exact same
      | scratch absent _ leads inP => exact absurd ⟨t, _, found, leads, inP, absent⟩ left
  leads t found := by
    by_cases straight : Straight target
    · exact .inl (since.at_straight straight found)
    by_cases before : ∃ u, d₀.find target = .ok u
    · obtain ⟨u, before⟩ := before
      obtain ⟨after, remains⟩ := since.at_target before
      cases after.symm.trans found
      exact .inl remains
    cases since.kept t.location with
    | same same => exact .inl (.same same)
    | scratch absent file leads left => exact .inl (.scratch absent file leads left)
    | @parent p u absent made above foundP _ here =>
      exact .inr ⟨straight, not_exists.1 before, absent, made, p, u, above, foundP, here⟩
  existing l n existing := (since.kept l).of_existing existing
  elsewhere := since.kept

end Since

end RemoteTags.Fetch
