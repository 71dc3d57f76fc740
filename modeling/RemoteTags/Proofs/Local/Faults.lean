import RemoteTags.Proofs.Local.Change

/-! Calls on the local disk that may fail for reasons of their own: a full disk, missing rights, a
broken device. A call that fails so has not done its work; only new directories and the first
bytes of what was to be written may be there already. -/

namespace RemoteTags.Local

inductive Above (path : String) : String → Prop where
  | self : Above path path
  | parent {p q : String} (above : Above path p) (up : parent? p = some q) : Above path q

theorem Above.trans {path p q : String} (first : Above path p) (second : Above p q) :
    Above path q := by
  induction second with
  | self => exact first
  | parent _ up ih => exact .parent ih up

/-- Some of the directories that lead to `path` have been made. -/
inductive Grown (path : String) : Disk → Disk → Prop where
  | same (d : Disk) : Grown path d d
  | make {d d' d'' : Disk} {p : String} (before : Grown path d d') (above : Above path p)
      (made : d'.makeDirectory p = .ok d'') : Grown path d d''

namespace Grown

variable {d d' d'' : Disk} {path p : String}

theorem of_above (grown : Grown p d d') (above : Above path p) : Grown path d d' := by
  induction grown with
  | same => exact .same d
  | make _ higher made ih => exact .make ih (above.trans higher) made

theorem trans (first : Grown path d d') (second : Grown path d' d'') : Grown path d d'' := by
  induction second with
  | same => exact first
  | make _ above made ih => exact .make ih above made

theorem keeps (grown : Grown path d d') : Keeps d d' := by
  induction grown with
  | same => exact .refl d
  | make _ _ made ih =>
    obtain ⟨t, found, named, absent, rfl⟩ := Disk.makeDirectory_eq_ok made
    have nonempty := Disk.location_ne_nil found named
    exact ih.trans ((Disk.changesAt_put nonempty _ _).keeps (by simp [absent]))

theorem node? (grown : Grown path d d') (l : Location) :
    d'.node? l = d.node? l ∨ d.node? l = none ∧ d'.node? l = some .directory ∧
      ∃ p t, Above path p ∧ d'.find p = .ok t ∧ t.named = true ∧ t.location = l := by
  induction grown with
  | same => exact .inl rfl
  | @make d' d'' p before above made ih =>
    have keeps := (Grown.make (.same d') above made).keeps
    obtain ⟨t, found, named, absent, rfl⟩ := Disk.makeDirectory_eq_ok made
    have found' := Disk.find_of_keeps keeps found
    have nonempty := Disk.location_ne_nil found named
    by_cases here : l = t.location
    · subst here
      have there := Disk.node?_put nonempty d' .directory t.location
      rw [if_pos rfl] at there
      rcases ih with same | ⟨absentBefore, _⟩
      · exact .inr ⟨same.symm.trans absent, there, p, t, above, found', named, rfl⟩
      · exact .inr ⟨absentBefore, there, p, t, above, found', named, rfl⟩
    · have elsewhere := (Disk.changesAt_put nonempty d' .directory).elsewhere l here
      rw [elsewhere]
      refine ih.imp_right fun ⟨absentBefore, made, q, u, higher, foundQ, atL⟩ => ?_
      exact ⟨absentBefore, made, q, u, higher, Disk.find_of_keeps keeps foundQ, atL⟩

end Grown

namespace Disk

variable {d d' : Disk} {path : String}

theorem make_grown (d : Disk) (path : String) : Grown path d (makeTree.make d path).2 := by
  unfold makeTree.make
  split
  · rename_i made
    exact .make (.same d) .self made
  · split <;> exact .same d

theorem makeTree_grown (d : Disk) (path : String) : Grown path d (d.makeTree path).2 := by
  unfold makeTree
  generalize path.utf8ByteSize = fuel
  induction fuel generalizing path with
  | zero => exact .same d
  | succ fuel ih =>
    unfold makeTree.go
    split
    · exact .same d
    · split
      · rename_i made
        exact .make (.same d) .self made
      · split
        · exact .same d
        · rename_i p up
          have grown := (ih p).of_above (.parent .self up)
          split
          · rename_i went
            rwa [went] at grown
          · rename_i went
            rw [went] at grown
            exact grown.trans (make_grown _ path)
      · exact make_grown d path

end Disk

/-- How a call may fail, whatever the disk holds; files can be unlinked without fail if `unlinks`. -/
def Call.Fails (unlinks : Prop) (d : Disk) : (c : Call) → c.Reply → Disk → Prop
  | .read _, r, d' | .readNearest _, r, d' | .createScratch _ _, r, d' | .create _, r, d'
  | .sync _, r, d' | .rename _ _, r, d' => (∃ e, r = .error e) ∧ d' = d
  | .pathExists _, _, _ => False
  | .makeDirectories path, r, d' => (∃ e, r = .error e) ∧ Grown path d d'
  | .append path data, r, d' =>
    (∃ e, r = .error e) ∧ (d' = d ∨ ∃ n, d.append path (data.take n) = .ok d')
  | .remove _, r, d' => ¬unlinks ∧ (∃ e, r = .error e) ∧ d' = d

def Call.Answers (unlinks : Prop) (d : Disk) (c : Call) (r : c.Reply) (d' : Disk) : Prop :=
  (∃ tokens, d.answer tokens c = (r, d')) ∨ c.Fails unlinks d r d'

namespace Call.Answers

variable {unlinks : Prop} {d d' : Disk} {path : String} {l : Location} {c : Bytes}

theorem read {r : Except IoError Bytes} (answers : Answers unlinks d (.read path) r d') :
    d' = d ∧ ∀ data, r = .ok data → d.read path = .ok data := by
  rcases answers with ⟨_, answer⟩ | ⟨⟨e, rfl⟩, rfl⟩
  · cases answer
    exact ⟨rfl, fun _ h => h⟩
  · exact ⟨rfl, nofun⟩

theorem makeDirectories {r : Except IoError Unit}
    (answers : Answers unlinks d (.makeDirectories path) r d') : Grown path d d' := by
  rcases answers with ⟨_, answer⟩ | ⟨_, grown⟩
  · have at' : d' = (d.makeTree path).2 := (congrArg Prod.snd answer).symm
    exact at' ▸ Disk.makeTree_grown d path
  · exact grown

theorem createScratch {directory suffix : String} {r : Except IoError String} :
    Answers unlinks d (.createScratch directory suffix) r d' →
      match r with
      | .ok path => d.createNew path = .ok d'
      | .error _ => d' = d := by
  intro answers
  rcases answers with ⟨tokens, answer⟩ | ⟨⟨e, rfl⟩, rfl⟩
  · simp only [Disk.answer] at answer
    split at answer
    · rename_i created
      cases answer
      exact Disk.createScratch_eq_ok created
    · cases answer
      rfl
  · rfl

/-- A file that is written to keeps its old bytes, and gets all the new ones if that goes well. -/
theorem append {data : Bytes} {r : Except IoError Unit} (leads : d.Leads path l)
    (file : d.node? l = some (.file c)) :
    Answers unlinks d (.append path data) r d' →
      match r with
      | .ok () => d' = d.put l (.file (c ++ data))
      | .error _ => d' = d ∨ ∃ n, d' = d.put l (.file (c ++ data.take n)) := by
  intro answers
  rcases answers with ⟨_, answer⟩ | ⟨⟨e, rfl⟩, rfl | ⟨n, partly⟩⟩
  · simp only [Disk.answer, Disk.append_of_file leads file, Disk.attempt] at answer
    cases answer
    rfl
  · exact .inl rfl
  · rw [Disk.append_of_file leads file] at partly
    cases partly
    exact .inr ⟨n, rfl⟩

theorem sync {r : Except IoError Unit} (answers : Answers unlinks d (.sync path) r d') :
    d' = d := by
  rcases answers with ⟨_, answer⟩ | ⟨_, rfl⟩
  · cases answer
    rfl
  · rfl

theorem remove {r : Except IoError Unit} (leads : d.Leads path l)
    (file : d.node? l = none ∨ ∃ c, d.node? l = some (.file c)) :
    Answers unlinks d (.remove path) r d' →
      match r with
      | .ok () => d' = d.erase l
      | .error _ => d' = d ∧ (unlinks → d.node? l = none) := by
  intro answers
  rcases answers with ⟨_, answer⟩ | ⟨fails, ⟨e, rfl⟩, rfl⟩
  · rcases file with nothing | ⟨c, file⟩
    · simp only [Disk.answer, Disk.remove_of_nothing leads nothing, Disk.attempt] at answer
      cases answer
      exact ⟨rfl, fun _ => nothing⟩
    · simp only [Disk.answer, Disk.remove_of_file leads file, Disk.attempt] at answer
      cases answer
      rfl
  · exact ⟨rfl, fun unlinks => absurd unlinks fails⟩

theorem rename {target : String} {r : Except IoError Unit} (leads : d.Leads path l)
    (file : d.node? l = some (.file c)) :
    Answers unlinks d (.rename path target) r d' →
      match r with
      | .ok () => ∃ m, d.Leads target m ∧ d.node? m ≠ some .directory ∧
          d' = (d.erase l).put m (.file c)
      | .error _ => d' = d := by
  intro answers
  rcases answers with ⟨_, answer⟩ | ⟨⟨e, rfl⟩, rfl⟩
  · cases renamed : d.rename path target with
    | error e =>
      simp only [Disk.answer, renamed, Disk.attempt] at answer
      cases answer
      rfl
    | ok d'' =>
      simp only [Disk.answer, renamed, Disk.attempt] at answer
      cases answer
      exact Disk.rename_eq_ok leads file renamed
  · rfl

end Call.Answers

end RemoteTags.Local
