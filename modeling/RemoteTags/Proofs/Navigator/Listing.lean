import Mathlib.Data.List.Pairwise
import RemoteTags.Memory.Server
import RemoteTags.Navigator.Operation
import RemoteTags.Proofs.Fetch.Host
import RemoteTags.Proofs.Path.Extension

/-! The list of tags files. Which files are in it, and in which order, does not depend on the order
in which the server lists its directory. -/

namespace RemoteTags

/-- The directory listings that a server has given. -/
def listings : List (Program.Exchange Action Action.Reply) → List (List Remote.Entry) :=
  List.filterMap fun e => match e with
    | ⟨.remote (.readDir _ _), .ok entries⟩ => some entries
    | _ => none

theorem listings_append (σ τ : List (Program.Exchange Action Action.Reply)) :
    listings (σ ++ τ) = listings σ ++ listings τ :=
  List.filterMap_append

section Runs

variable {S : Type} {R : S → (q : Action) → q.Reply → S → Prop} {s t : S}
  {σ : List (Program.Exchange Action Action.Reply)}

theorem Session.readDir_runs {path : String} {r : Except SessionError (List Remote.Entry)}
    (run : (Session.readDir path).Runs R s σ r t) :
    (∃ e, r = .error e ∧ listings σ = []) ∨
      ∃ entries, r = .ok entries ∧ listings σ = [entries] := by
  obtain ⟨_, _, _, _, looks, rfl⟩ := run.of_ask
  obtain ⟨current, _, _, _, works, rfl⟩ := looks.of_ask
  cases current with
  | none =>
    obtain ⟨_, _, _, _, done, rfl⟩ := works.of_ask
    obtain ⟨rfl, rfl, _⟩ := done.of_done
    exact .inl ⟨_, rfl, rfl⟩
  | some link =>
    obtain ⟨reply, _, _, _, ends, rfl⟩ := works.of_ask
    cases reply with
    | ok entries =>
      obtain ⟨_, _, _, _, done, rfl⟩ := ends.of_ask
      obtain ⟨rfl, rfl, _⟩ := done.of_done
      exact .inr ⟨entries, rfl, rfl⟩
    | error cause =>
      refine .inl ?_
      simp only [Program.done_bind, Program.pure_eq, Outcome.ofAttempt, Outcome.ofError,
        Outcome.failure] at ends
      cases broken : cause.isLinkFailure with
      | false =>
        rw [broken] at ends
        obtain ⟨_, _, _, _, done, rfl⟩ := ends.of_ask
        obtain ⟨rfl, rfl, _⟩ := done.of_done
        exact ⟨_, rfl, rfl⟩
      | true =>
        -- The link is closed and taken out of the session before the slot is given back.
        rw [broken] at ends
        obtain ⟨_, _, _, _, closed, rfl⟩ := ends.of_ask
        obtain ⟨next, _, _, _, dropped, rfl⟩ := closed.of_ask
        obtain ⟨_, _, _, _, released, rfl⟩ := dropped.of_ask
        cases next with
        | none =>
          obtain ⟨rfl, rfl, _⟩ := released.of_done
          exact ⟨_, rfl, rfl⟩
        | some again =>
          obtain ⟨_, _, _, _, done, rfl⟩ := released.of_ask
          obtain ⟨rfl, rfl, _⟩ := done.of_done
          exact ⟨_, rfl, rfl⟩

namespace Navigator

variable {n : Navigator}

theorem tagsDirectory_listings {r : Except NavigateError String}
    (run : n.tagsDirectory.Runs R s σ r t) : listings σ = [] := by
  unfold tagsDirectory at run
  split at run
  · obtain ⟨rfl, _⟩ := run.of_done
    rfl
  · obtain ⟨status, _, _, _, rest, rfl⟩ := run.of_ask
    simp only [Program.done_bind, Program.pure_eq] at rest
    cases home : status.home with
    | none =>
      rw [home] at rest
      obtain ⟨rfl, _⟩ := rest.of_done
      rfl
    | some home =>
      rw [home] at rest
      obtain ⟨rfl, _⟩ := rest.of_done
      rfl

theorem listTagFiles_runs {r : Except NavigateError (List Remote.Entry)}
    (run : n.listTagFiles.Runs R s σ r t) :
    (∃ e, r = .error e ∧ listings σ = []) ∨
      ∃ entries, r = .ok (tagFiles n.settings.tagsExtensions entries) ∧ listings σ = [entries] := by
  obtain ⟨_, directory, _, _, first, rest, rfl⟩ := run.of_bind
  rw [listings_append, tagsDirectory_listings first, List.nil_append]
  cases directory with
  | error e =>
    obtain ⟨rfl, rfl, _⟩ := rest.of_done
    exact .inl ⟨_, rfl, rfl⟩
  | ok directory =>
    obtain ⟨_, read, _, _, lists, done, rfl⟩ := rest.of_bind
    rw [listings_append]
    rcases Session.readDir_runs lists with ⟨e, rfl, none⟩ | ⟨entries, rfl, one⟩
    · obtain ⟨rfl, rfl, _⟩ := done.of_done
      exact .inl ⟨_, rfl, by rw [none]; rfl⟩
    · obtain ⟨rfl, rfl, _⟩ := done.of_done
      exact .inr ⟨entries, rfl, by rw [one]; rfl⟩

theorem result_of_listing {r : Except NavigateError (List Remote.Entry)}
    {entries : List Remote.Entry} (run : n.listTagFiles.Runs R s σ r t)
    (listed : entries ∈ listings σ) : r = .ok (tagFiles n.settings.tagsExtensions entries) := by
  rcases listTagFiles_runs run with ⟨_, _, none⟩ | ⟨_, rfl, one⟩
  · simp [none] at listed
  · rw [one, List.mem_singleton] at listed
    rw [listed]

/-- The regular files with a listed extension, or all if no file has one. -/
def chosen (extensions : List String) (entries : List Remote.Entry) : List Remote.Entry :=
  let regular := entries.filter (·.isFile)
  let listed := regular.filter fun e => ∃ x ∈ extensions, Path.HasExtension e.name x
  if listed = [] then regular else listed

theorem tagFiles_eq (extensions : List String) (entries : List Remote.Entry) :
    tagFiles extensions entries =
      (chosen extensions entries).mergeSort fun a b => a.name ≤ b.name := by
  rw [tagFiles, Path.filterByExtension_eq]
  rfl

theorem tagFiles_perm_chosen (extensions : List String) (entries : List Remote.Entry) :
    (tagFiles extensions entries).Perm (chosen extensions entries) := by
  rw [tagFiles_eq]
  exact List.mergeSort_perm _ _

theorem chosen_sublist (extensions : List String) (entries : List Remote.Entry) :
    (chosen extensions entries).Sublist entries := by
  unfold chosen
  dsimp only
  split
  · exact List.filter_sublist
  · exact List.filter_sublist.trans List.filter_sublist

theorem perm_chosen {entries entries' : List Remote.Entry} (same : entries'.Perm entries)
    (extensions : List String) :
    (chosen extensions entries').Perm (chosen extensions entries) := by
  have regular := same.filter (·.isFile)
  have listed := regular.filter fun e => ∃ x ∈ extensions, Path.HasExtension e.name x
  unfold chosen
  dsimp only
  -- Either listing has a file with a listed extension if the other one has.
  by_cases nothing : ((entries.filter (·.isFile)).filter fun e =>
      ∃ x ∈ extensions, Path.HasExtension e.name x) = []
  · rw [if_pos nothing, if_pos (by rwa [nothing, List.perm_nil] at listed)]
    exact regular
  · rw [if_neg nothing, if_neg]
    · exact listed
    · intro none
      rw [none, List.nil_perm] at listed
      exact nothing listed

theorem tagFiles_increasing {entries : List Remote.Entry}
    (distinct : (entries.map (·.name)).Nodup) (extensions : List String) :
    (tagFiles extensions entries).Pairwise fun a b => a.name < b.name := by
  have sorted : (tagFiles extensions entries).Pairwise fun a b => decide (a.name ≤ b.name) := by
    rw [tagFiles_eq]
    refine List.pairwise_mergeSort (fun a b c first second => ?_) (fun a b => ?_) _
    · exact decide_eq_true (String.le_trans (of_decide_eq_true first) (of_decide_eq_true second))
    · simpa using String.le_total a.name b.name
  have names : ((tagFiles extensions entries).map (·.name)).Nodup :=
    ((tagFiles_perm_chosen extensions entries).map (·.name)).nodup_iff.2
      (distinct.sublist ((chosen_sublist extensions entries).map (·.name)))
  refine sorted.imp₂ (fun a b below other => ?_) (List.pairwise_map.1 names)
  exact String.not_le.1 fun above => other (String.le_antisymm (of_decide_eq_true below) above)

theorem tagFiles_of_perm {entries entries' : List Remote.Entry} (same : entries'.Perm entries)
    (distinct : (entries.map (·.name)).Nodup) (extensions : List String) :
    tagFiles extensions entries' = tagFiles extensions entries := by
  have alike : (tagFiles extensions entries').Perm (tagFiles extensions entries) :=
    (tagFiles_perm_chosen extensions entries').trans
      ((perm_chosen same extensions).trans (tagFiles_perm_chosen extensions entries).symm)
  have distinct' : (entries'.map (·.name)).Nodup := (same.map (·.name)).nodup_iff.2 distinct
  refine alike.eq_of_pairwise (fun a b _ _ below above => ?_)
    (tagFiles_increasing distinct' extensions) (tagFiles_increasing distinct extensions)
  exact absurd above (String.lt_asymm below)

/-- Whoever answers, and whatever else they answer: the list of tags files depends on the entries of
the directory only, and not on their order. It has the files that the extensions choose, each of
them once, and their names increase. -/
theorem listTagFiles_of_perm {S' : Type} {R' : S' → (q : Action) → q.Reply → S' → Prop}
    {s' t' : S'} {σ' : List (Program.Exchange Action Action.Reply)}
    {r r' : Except NavigateError (List Remote.Entry)} {entries entries' : List Remote.Entry}
    (run : n.listTagFiles.Runs R s σ r t) (run' : n.listTagFiles.Runs R' s' σ' r' t')
    (listed : entries ∈ listings σ) (listed' : entries' ∈ listings σ')
    (same : entries'.Perm entries) (distinct : (entries.map (·.name)).Nodup) :
    ∃ files, r = .ok files ∧ r' = .ok files ∧
      files.Perm (chosen n.settings.tagsExtensions entries) ∧ files.Nodup ∧
      files.Pairwise fun a b => a.name < b.name := by
  have first := result_of_listing run listed
  have second := result_of_listing run' listed'
  rw [tagFiles_of_perm same distinct] at second
  have increasing := tagFiles_increasing distinct n.settings.tagsExtensions
  refine ⟨_, first, second, tagFiles_perm_chosen _ _, increasing.imp fun below same => ?_,
    increasing⟩
  rw [same] at below
  exact String.lt_irrefl _ below

end Navigator

end Runs

namespace Navigator

def tagsWorld (names : List String) : World Memory.Server where
  session := {
    status := ⟨.connected, none, some "/home/dev", 1⟩
    slot := some ⟨1, "/home/dev", false, {}, 1⟩
  }
  host := { files := names.map fun name => ("/tags/" ++ name, ⟨[10], 7⟩) }

def lister : Navigator where
  settings := { tagsDirectory := "/tags", tagsExtensions := ["c"] }

theorem listTagFiles_of_perm_turned :
    let w := tagsWorld ["b.c", "x.h", "a.C", "d.c/e"]
    let w' := tagsWorld ["d.c/e", "a.C", "b.c", "x.h"]
    ∃ files, (w.run Memory.Server.answer lister.listTagFiles).1 = .ok files ∧
      (w'.run Memory.Server.answer lister.listTagFiles).1 = .ok files ∧
      files.Perm [⟨"b.c", true, 1, 7⟩, ⟨"a.C", true, 1, 7⟩] ∧ files.Nodup ∧
      files.Pairwise fun a b => a.name < b.name := by
  intro w w'
  have run (w : World Memory.Server) := Fetch.runs_log Memory.Server.answer
    Memory.Server.relation (fun _ _ => rfl) True lister.listTagFiles w
  have listed : [⟨"b.c", true, 1, 7⟩, ⟨"x.h", true, 1, 7⟩, ⟨"a.C", true, 1, 7⟩,
      ⟨"d.c", false, 0, 0⟩] ∈
        listings (lister.listTagFiles.log (World.answer Memory.Server.answer) w) := by
    decide +kernel
  have listed' : [⟨"a.C", true, 1, 7⟩, ⟨"b.c", true, 1, 7⟩, ⟨"x.h", true, 1, 7⟩,
      ⟨"d.c", false, 0, 0⟩] ∈
        listings (lister.listTagFiles.log (World.answer Memory.Server.answer) w') := by
    decide +kernel
  obtain ⟨files, first, second, chosen, once, increasing⟩ :=
    listTagFiles_of_perm (run w) (run w') listed listed' (by decide) (by decide)
  have both : Navigator.chosen ["c"] [⟨"b.c", true, 1, 7⟩, ⟨"x.h", true, 1, 7⟩,
      ⟨"a.C", true, 1, 7⟩, ⟨"d.c", false, 0, 0⟩] =
        [⟨"b.c", true, 1, 7⟩, ⟨"a.C", true, 1, 7⟩] := by
    decide +kernel
  exact ⟨files, first, second, both ▸ chosen, once, increasing⟩

end Navigator

end RemoteTags
