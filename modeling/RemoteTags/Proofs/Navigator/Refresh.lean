import RemoteTags.Proofs.Fetch.Install
import RemoteTags.Proofs.Navigator.Candidates
import RemoteTags.Proofs.Navigator.History
import RemoteTags.Proofs.Session.Terms

/-! A refresh of the tags replaces the local file, the index and the store together, or nothing. The
store belongs to the navigator; the session may be in any state whenever it is looked at, and calls
on the host and on the disk may fail anywhere. -/

namespace RemoteTags

theorem Aloof.cache {α : Type} {p : Act α} {c c' : Cache} {a : α}
    {τ : List (Program.Exchange Action Action.Reply)} (aloof : Aloof p)
    (run : p.Runs Cache.Replies c τ a c') : c' = c := by
  refine (aloof.runs (I := (· = c)) (fun {c₁ q r c₂} asked same reply => ⟨trivial, ?_⟩) run rfl).2
  cases q with
  | cache | opening => exact asked.elim
  | session | remote | disk | clock | random => exact Eq.trans reply same

namespace Navigator
open Local

variable {H : Type} {host : Fetch.HostRelation H} {unlinks : Prop} {n n' : Navigator}
  {s s' : Cache × H × Disk} {σ : List (Program.Exchange Action Action.Reply)}
  {fileName localTags path : String}

/-- How an action may be answered: the store does as it does, the host and the disk as in a
fetch. -/
def Acts (host : Fetch.HostRelation H) (unlinks : Prop) (s : Cache × H × Disk) (q : Action)
    (r : q.Reply) (s' : Cache × H × Disk) : Prop :=
  Cache.Replies s.1 q r s'.1 ∧ Fetch.Acts host unlinks s.2 q r s'.2

theorem runs_of_world {α : Type} (host : Host H) (relation : Fetch.HostRelation H)
    (answers : ∀ s k, relation s k (host k s).1 (host k s).2) (unlinks : Prop) (p : Act α)
    (w : World H) :
    ∃ σ, p.Runs (Acts relation unlinks) (w.cache, w.host, w.disk) σ (w.run host p).1
      ((w.run host p).2.cache, (w.run host p).2.host, (w.run host p).2.disk) := by
  let seen (w : World H) : Cache × H × Disk := (w.cache, w.host, w.disk)
  exact Program.Runs.of_run seen (fun q w => ⟨Cache.replies_answer host q w,
    Fetch.acts_answer host relation answers unlinks q w⟩) p w

def tagsFile (n : Navigator) (home : Option String) (fileName : String) : String :=
  Path.join (home.elim n.settings.tagsDirectory (Path.expandHome · n.settings.tagsDirectory))
    fileName

theorem tagsDirectory_runs {r : Except NavigateError String} (fileName : String)
    (run : n.tagsDirectory.Runs (Acts host unlinks) s σ r s') :
    s' = s ∧ (n.settings.tagsDirectory = "" ∧ r = .error .noTagsDirectory ∨
      n.settings.tagsDirectory ≠ "" ∧ ∃ status, σ = [⟨.session .status, status⟩] ∧
        ∃ below, r = .ok below ∧ Path.join below fileName = n.tagsFile status.home fileName) := by
  unfold tagsDirectory at run
  split at run
  · rename_i unset
    obtain ⟨_, rfl, rfl⟩ := run.of_done
    exact ⟨rfl, .inl ⟨unset, rfl⟩⟩
  · rename_i set
    obtain ⟨_, below, _, _, expands, rest, rfl⟩ := run.of_bind
    obtain ⟨rfl, rfl, rfl⟩ := rest.of_done
    obtain ⟨_, home, t, _, asked, expanded, rfl⟩ := expands.of_bind
    obtain ⟨_, status, u, _, looked, known, rfl⟩ := asked.of_bind
    obtain ⟨rfl, rfl, rfl⟩ := known.of_done
    obtain ⟨⟨store, others⟩, rfl⟩ := looked.of_query
    have same : t = s := Prod.ext store others
    unfold tagsFile
    generalize told : status.home = home at expanded
    cases home with
    | none =>
      obtain ⟨rfl, rfl, rfl⟩ := expanded.of_done
      exact ⟨same, .inr ⟨set, status, rfl, _, rfl, by rw [told]; rfl⟩⟩
    | some home =>
      obtain ⟨rfl, rfl, rfl⟩ := expanded.of_done
      exact ⟨same, .inr ⟨set, status, rfl, _, rfl, by rw [told]; rfl⟩⟩

theorem fetchTo_runs {remoteFile target : String} {r : Except FetchError Fetch.Report}
    (run : (Fetch.fetchTo remoteFile target).Runs (Acts host unlinks) s σ r s') :
    s'.1 = s.1 ∧ ∃ τ, Fetch.Run host unlinks remoteFile target s.2 τ r s'.2 :=
  ⟨(aloof_fetchTo remoteFile target).cache (run.map Prod.fst fun acts => acts.1),
    Fetch.Run.of_fetchTo (run.map Prod.snd fun acts => acts.2)⟩

theorem load_runs {r : Except TagIndexError TagIndex}
    (run : (TagIndex.load path).Runs (Acts host unlinks) s σ r s') :
    s' = s ∧ ∀ index, r = .ok index →
      ∃ content, s.2.2.read path = .ok content ∧ index = .ofBytes content := by
  obtain ⟨_, read, _, _, asked, rest, _⟩ := run.of_bind
  obtain ⟨_, rfl, rfl⟩ := rest.of_done
  obtain ⟨store, alone, answers⟩ := asked.of_query.1
  obtain ⟨disk, content⟩ := answers.read
  refine ⟨Prod.ext store (Prod.ext alone disk), fun index loaded => ?_⟩
  cases read with
  | error e => cases loaded
  | ok bytes => exact ⟨bytes, content bytes rfl, (Except.ok.inj loaded).symm⟩

/-- The tags are now those of a file, and no others. All else is as it was. -/
structure Reindexed (content : Bytes) (n n' : Navigator) : Prop where
  index : n' = { n with index := .ofLines ((TagIndex.fileLines content).map Utf8.lossyString) }
  only : ∀ symbol, ∀ tag ∈ (n'.candidates symbol).toList, tag.name = symbol ∧
    ∃ line ∈ TagIndex.fileLines content, Record.parse (Utf8.lossyString line) = some tag

theorem reindexed_ofBytes (n : Navigator) (content : Bytes) :
    Reindexed content n { n with index := .ofBytes content } := by
  refine ⟨rfl, fun symbol tag here => ?_⟩
  rw [TagIndex.ofBytes, candidates_ofLines, Candidates.toList_ofList] at here
  have named : tag ∈ (((TagIndex.fileLines content).map Utf8.lossyString).filterMap
      Record.parse).filter (·.name = symbol) := by
    split at here
    · exact here
    · exact (List.mem_filter.1 here).1
  obtain ⟨record, named⟩ := List.mem_filter.1 named
  obtain ⟨_, line, parsed⟩ := List.mem_filterMap.1 record
  obtain ⟨bytes, inFile, rfl⟩ := List.mem_map.1 line
  exact ⟨by simpa using named, bytes, inFile, parsed⟩

/-- Without a directory of tags files nothing happens at all. If the fetch fails, the navigator and
its store are as before, and so is the local file. If it ends well, the local file has the content
of the remote one, the tags are those of its lines, and the store is empty; only where the new file
cannot be read, the navigator and its store are as before. -/
theorem refreshTags_all_or_nothing {c c' : Cache} {s s' : H × Disk}
    {result : Except NavigateError Fetch.Report} (tidy : Fetch.Tidy host)
    (run : (n.refreshTags fileName localTags).Runs (Acts host unlinks) (c, s) σ (result, n')
      (c', s')) :
    (n.settings.tagsDirectory = "" ∧ result = .error .noTagsDirectory ∧
      n' = n ∧ c' = c ∧ s' = s) ∨
    n.settings.tagsDirectory ≠ "" ∧ ∃ status τ fetched, ⟨.session .status, status⟩ ∈ σ ∧
      Fetch.Run host unlinks (n.tagsFile status.home fileName) localTags s τ fetched s' ∧
      match fetched with
      | .error e => result = .error (.fetch e) ∧ n' = n ∧ c' = c ∧
          Fetch.Spared localTags (fun path => ¬unlinks ∧ Fetch.Made τ path) s.2 s'.2
      | .ok report => ∃ m content, Fetch.Installed localTags τ report content m s'.2 ∧
          (∀ l, l ≠ m →
            Fetch.Kept localTags (fun path => ¬unlinks ∧ Fetch.Made τ path) s.2 s'.2 l) ∧
          (∃ home token, ⟨.home, some home⟩ ∈ τ ∧ ⟨.random Fetch.tokenBound, token⟩ ∈ τ ∧
            let remote := Path.expandHome home (n.tagsFile status.home fileName)
            ∀ view, Fetch.Honest host view remote (Fetch.scratchFile home token) →
              view s.1 remote = some content) ∧
          ((∃ e, result = .error (.tagIndex e) ∧ n' = n ∧ c' = c) ∨
            result = .ok report ∧ s'.2.read localTags = .ok content ∧
              Reindexed content n n' ∧ c'.entries = []) := by
  obtain ⟨_, directory, _, _, asked, rest, rfl⟩ := run.of_bind
  obtain ⟨rfl, ⟨unset, rfl⟩ | ⟨set, status, rfl, below, rfl, lies⟩⟩ :=
    tagsDirectory_runs fileName asked
  · obtain ⟨_, same, after⟩ := rest.of_done
    cases same
    cases after
    exact .inl ⟨unset, rfl, rfl, rfl, rfl⟩
  obtain ⟨_, fetched, t, _, fetches, rest, _⟩ := rest.of_bind
  obtain ⟨store, τ, ran⟩ := fetchTo_runs fetches
  rw [lies] at ran
  have since := (Fetch.course_runs ran).since tidy
  cases fetched with
  | error e =>
    obtain ⟨_, same, after⟩ := rest.of_done
    cases same
    cases after
    exact .inr ⟨set, status, τ, _, List.mem_cons_self, ran, rfl, rfl, store, since.spared⟩
  | ok report =>
    obtain ⟨_, loaded, u, _, loads, rest, _⟩ := rest.of_bind
    obtain ⟨rfl, read⟩ := load_runs loads
    obtain ⟨m, content, installed, others, honestly⟩ := since
    cases loaded with
    | error e =>
      obtain ⟨_, same, after⟩ := rest.of_done
      cases same
      cases after
      exact .inr ⟨set, status, τ, _, List.mem_cons_self, ran, m, content, installed, others, honestly,
        .inl ⟨e, rfl, rfl, store⟩⟩
    | ok index =>
      obtain ⟨_, _, v, _, flushes, rest, _⟩ := rest.of_bind
      obtain ⟨flushed, alone⟩ := flushes.of_query.1
      obtain ⟨_, same, after⟩ := rest.of_done
      cases same
      cases after
      obtain rfl : s' = u.2 := alone
      obtain ⟨bytes, at_target, rfl⟩ := read index rfl
      have whole := Disk.read_of_file installed.leads installed.file
      obtain rfl : bytes = content := Except.ok.inj (at_target.symm.trans whole)
      refine .inr ⟨set, status, τ, _, List.mem_cons_self, ran, m, bytes, installed, others, honestly,
        .inr ⟨rfl, whole, reindexed_ofBytes n bytes, ?_⟩⟩
      cases flushed
      rfl

def renewed : World Memory.Server :=
  { Fetch.sample with
    cache := { entries := [⟨"/a.c", 7, 0, 0, ""⟩] }
    host := { files := [("/tags/p", ⟨[102, 9, 97, 9, 49], 0⟩)] } }

def outdated : Navigator where
  index := .ofLines ["g\tb\t2"]
  settings := { tagsDirectory := "/tags" }
  history := [origin]

/-- A tags file is fetched over an older one. If there is none of the name, all is as it was. -/
theorem refreshTags_all_or_nothing_renewed :
    (let ended := renewed.run Memory.Server.answer (outdated.refreshTags "p" "/d/a")
     ended.2.disk.read "/d/a" = .ok [102, 9, 97, 9, 49] ∧
       ended.1.2.candidates "f" = .single ⟨"f", "a", .line "1", none, []⟩ ∧
       ended.1.2.candidates "g" = .missing ∧ ended.1.2.history = [origin] ∧
       ended.2.cache.entries = []) ∧
    (let ended := renewed.run Memory.Server.answer (outdated.refreshTags "q" "/d/a")
     ended.1.1 matches .error (.fetch _) ∧ ended.1.2 = outdated ∧
       ended.2.cache = renewed.cache ∧ ended.2.disk.at? "/d/a" = some (.file [1, 2, 3])) := by
  have ran (fileName : String) := runs_of_world Memory.Server.answer Memory.Server.relation
    (fun _ _ => rfl) True (outdated.refreshTags fileName "/d/a") renewed
  constructor
  · have well : (renewed.run Memory.Server.answer (outdated.refreshTags "p" "/d/a")).1.1.toOption =
        some ⟨"/d/a", 28, 5, [], 0⟩ := by
      decide +kernel
    obtain ⟨σ, run⟩ := ran "p"
    dsimp only
    generalize renewed.run Memory.Server.answer (outdated.refreshTags "p" "/d/a") = ended
      at well run ⊢
    obtain ⟨⟨result, n'⟩, w⟩ := ended
    rcases refreshTags_all_or_nothing Memory.Server.tidy run with
      ⟨_, failed, _⟩ | ⟨_, status, τ, fetched, _, _, ended⟩
    · cases failed
      cases well
    cases fetched with
    | error e =>
      obtain ⟨failed, _⟩ := ended
      cases failed
      cases well
    | ok report =>
      obtain ⟨m, content, _, _, ⟨home, token, _, _, honestly⟩,
        ⟨e, failed, _⟩ | ⟨_, read, tags, empty⟩⟩ := ended
      · cases failed
        cases well
      · have joined : Path.join "/tags" "p" = "/tags/p" := by decide +kernel
        have remote (known : Option String) : outdated.tagsFile known "p" = "/tags/p" := by
          cases known <;> exact joined
        rw [remote] at honestly
        have same := honestly _ (Memory.Server.honest _ _)
        have held : renewed.host.content? (Path.expandHome home "/tags/p") =
            some [102, 9, 97, 9, 49] := rfl
        obtain rfl : [102, 9, 97, 9, 49] = content := by simpa [held] using same
        refine ⟨read, ?_, ?_, ?_, empty⟩
        · rw [tags.index, candidates_ofLines]
          decide +kernel
        · rw [tags.index, candidates_ofLines]
          decide +kernel
        · rw [tags.index]
          rfl
  · have ill : (renewed.run Memory.Server.answer (outdated.refreshTags "q" "/d/a")).1.1 matches
        .error (.fetch _) := by
      decide +kernel
    obtain ⟨σ, run⟩ := ran "q"
    dsimp only
    generalize renewed.run Memory.Server.answer (outdated.refreshTags "q" "/d/a") = ended
      at ill run ⊢
    obtain ⟨⟨result, n'⟩, w⟩ := ended
    rcases refreshTags_all_or_nothing Memory.Server.tidy run with
      ⟨_, failed, _⟩ | ⟨_, status, τ, fetched, _, _, ended⟩
    · cases failed
      cases ill
    cases fetched with
    | ok report =>
      obtain ⟨m, content, _, _, _, ⟨e, failed, _⟩ | ⟨well, _⟩⟩ := ended
      · cases failed
        cases ill
      · cases well
        cases ill
    | error e =>
      obtain ⟨_, kept, cache, spared⟩ := ended
      have held : renewed.disk.at? "/d/a" = some (.file [1, 2, 3]) := by decide +kernel
      have straight : Local.Straight "/d/a" := by decide +kernel
      rcases spared.straight straight Fetch.rooted_sample with same | ⟨_, _, _, _, _, left⟩
      · exact ⟨ill, kept, cache, same.trans held⟩
      · exact absurd trivial left.1

/-- The local tags file is told by way of a missing directory. It leads to this directory afterwards,
although the fetch has failed. -/
theorem refreshTags_through_missing :
    let ended := renewed.run Memory.Server.answer (outdated.refreshTags "p" "/d/x/../x")
    ended.1.1 = .error (.fetch (.step .install (.io (.os .isDirectory)) [])) ∧
      renewed.disk.at? "/d/x/../x" = none ∧
      ended.2.disk.at? "/d/x/../x" = some .directory := by
  decide +kernel

end Navigator

end RemoteTags
