import RemoteTags.Memory.Server
import RemoteTags.Proofs.Fetch.Install
import RemoteTags.Proofs.Local.Child
import RemoteTags.Proofs.Path.BaseName

/-! A fetch into a directory. The name of the file is cut out of the remote path, which may be
anything; still the file lies in the directory itself, or nothing is fetched. -/

namespace RemoteTags.Fetch
open Local

section Steps

variable {S : Type} {R : S → (q : Action) → q.Reply → S → Prop} {s s' : S}
  {remoteFile directory : String} {σ : List (Program.Exchange Action Action.Reply)}
  {result : Except FetchError Report}

/-- Why nothing is fetched. -/
inductive Refuses (remoteFile : String) : Option String → FetchError → Prop where
  | homeless : Refuses remoteFile none .notConnected
  | nameless {home : String}
      (nameless : ∀ name, ¬Path.IsLastName (Path.expandHome home remoteFile) name) :
      Refuses remoteFile (some home) (.invalidRemotePath remoteFile)

theorem fetch_runs (run : (fetch remoteFile directory).Runs R s σ result s') :
    ∃ status t rest, R s (.session .status) status t ∧ σ = ⟨.session .status, status⟩ :: rest ∧
      ((∃ e, Refuses remoteFile status.home e ∧ rest = [] ∧ result = .error e ∧ s' = t) ∨
        ∃ home name, status.home = some home ∧
          Path.IsLastName (Path.expandHome home remoteFile) name ∧
          (fetchTo remoteFile (join directory name)).Runs R t rest result s') := by
  obtain ⟨status, t, rest, looked, onward, rfl⟩ := run.of_ask
  simp only [Program.done_bind, Program.pure_eq] at onward
  refine ⟨status, t, rest, looked, rfl, ?_⟩
  cases known : status.home with
  | none =>
    rw [known] at onward
    obtain ⟨rfl, rfl, rfl⟩ := onward.of_done
    exact .inl ⟨_, .homeless, rfl, rfl, rfl⟩
  | some home =>
    rw [known] at onward
    cases named : Path.baseName? (Path.expandHome home remoteFile) with
    | none =>
      simp only [named] at onward
      obtain ⟨rfl, rfl, rfl⟩ := onward.of_done
      refine .inl ⟨_, .nameless fun name last => ?_, rfl, rfl, rfl⟩
      cases named.symm.trans (Path.baseName?_eq_some_iff.2 last)
    | some name =>
      simp only [named] at onward
      exact .inr ⟨home, name, rfl, Path.baseName?_eq_some_iff.1 named, onward⟩

end Steps

variable {H : Type} {host : HostRelation H} {unlinks : Prop} {s s' : H × Disk}
  {remoteFile directory target : String} {τ : Trace} {result : Except FetchError Report}

theorem Carries.step_of_error {S : Type} {R : S → (q : Ask) → q.Reply → S → Prop} {s s' : S}
    {p : Plan} {start : Nat} {e : FetchError}
    (carries : Carries R p target start s τ (.error e) s') :
    ∃ step cause cleanup, e = .step step cause cleanup := by
  cases carries with
  | compress failed => cases failed; exact ⟨_, _, _, rfl⟩
  | transfer _ failed => cases failed <;> exact ⟨_, _, _, rfl⟩
  | decompress _ _ failed => cases failed; exact ⟨_, _, _, rfl⟩
  | install _ _ _ failed => cases failed; exact ⟨_, _, _, rfl⟩

theorem Goes.unchanged {e : FetchError} (goes : Goes (Asks host unlinks) remoteFile target s τ
    (.error e) s') (early : e = .notConnected ∨ e = .invalidRemotePath remoteFile) : s' = s := by
  generalize failed : Except.error e = result at goes
  cases goes with
  | disconnected clock disconnected => rw [disconnected.of_connected, clock.of_clock]
  | homeless clock connected homeless =>
    rw [homeless.of_home, connected.of_connected, clock.of_clock]
  | nameless clock connected atHome =>
    rw [atHome.of_home, connected.of_connected, clock.of_clock]
  | placeless =>
    cases failed
    simp at early
  | carried _ _ _ _ _ _ carries =>
    subst failed
    obtain ⟨_, _, _, rfl⟩ := carries.step_of_error
    simp at early

/-- Whatever the remote path, the home directory and the local directory are: there is no file to be
fetched, and nothing has been asked for but the home directory; or the file goes by the last name of
the path into the directory itself. Of all other places none has changed, but for missing parents of
the file and for scratch files that cannot be unlinked. -/
theorem installs_in_directory {σ : List (Program.Exchange Action Action.Reply)} (tidy : Tidy host)
    (run : (fetch remoteFile directory).Runs (Acts host unlinks) s σ result s') :
    ∃ status rest, σ = ⟨.session .status, status⟩ :: rest ∧
      ((∃ e, Refuses remoteFile status.home e ∧ rest = [] ∧ result = .error e ∧ s' = s) ∨
        ∃ home name, status.home = some home ∧
          Path.IsLastName (Path.expandHome home remoteFile) name ∧
          (fetchTo remoteFile (join directory name)).Runs (Acts host unlinks) s rest result s' ∧
          match result with
          | .error e => (∀ l, Kept (join directory name) (fun _ => ¬unlinks) s.2 s'.2 l) ∧
              (e = .notConnected ∨ e = .invalidRemotePath remoteFile → s' = s)
          | .ok report => report.localPath = join directory name ∧ ∃ t content,
              s'.2.find (orHere directory) = .ok t ∧ s'.2.node? t.location = some .directory ∧
              s'.2.node? (t.location ++ [name]) = some (.file content) ∧
              ∀ l, l ≠ t.location ++ [name] →
                Kept (join directory name) (fun _ => ¬unlinks) s.2 s'.2 l) := by
  obtain ⟨status, t, rest, same, rfl, course⟩ := fetch_runs run
  obtain rfl : t = s := same
  refine ⟨status, rest, rfl, course.imp_right ?_⟩
  rintro ⟨home, name, atHome, named, run⟩
  refine ⟨home, name, atHome, named, run, ?_⟩
  obtain ⟨τ, run⟩ := Run.of_fetchTo run
  have goes := course_runs run
  have since := goes.since tidy
  have weaker {l : Location}
      (kept : Kept (join directory name) (fun path => ¬unlinks ∧ Made τ path) t.2 s'.2 l) :
      Kept (join directory name) (fun _ => ¬unlinks) t.2 s'.2 l :=
    kept.elsewhere rfl (.refl s'.2) fun _ left _ => left.1
  cases result with
  | error e => exact ⟨fun l => weaker (since.kept l), goes.unchanged⟩
  | ok report =>
    obtain ⟨m, content, installed, others, _⟩ := since
    obtain ⟨place, found, isDirectory, rfl⟩ := installed.leads.of_join named.whole
    exact ⟨installed.localPath, place, content, found, isDirectory, installed.file,
      fun l other => weaker (others l other)⟩

/-- The directory is written with a slash behind it. -/
theorem installs_in_directory_sample :
    let ended := sample.run Memory.Server.answer (fetch "/a" "/d/")
    ∃ report, ended.1 = .ok report ∧ report.localPath = "/d/a" ∧
      (∃ content, ended.2.disk.node? ["d", "a"] = some (.file content)) ∧
      ∀ l, l ≠ ["d", "a"] → Kept "/d/a" (fun _ => ¬True) sample.disk ended.2.disk l := by
  have well : (sample.run Memory.Server.answer (fetch "/a" "/d/")).1.toOption =
      some ⟨"/d/a", 25, 2, [], 0⟩ := by
    decide +kernel
  have there : ((sample.run Memory.Server.answer (fetch "/a" "/d/")).2.disk.find "/d/").toOption =
      some ⟨["d"], true, true⟩ := by
    decide +kernel
  have run := runs_log Memory.Server.answer Memory.Server.relation (fun _ _ => rfl) True
    (fetch "/a" "/d/") sample
  generalize (fetch "/a" "/d/").log (World.answer Memory.Server.answer) sample = σ at run
  dsimp only
  generalize sample.run Memory.Server.answer (fetch "/a" "/d/") = ended at well there run ⊢
  obtain ⟨result, w⟩ := ended
  obtain ⟨_, _, _, ⟨e, _, _, rfl, _⟩ | ⟨home, name, _, named, _, installed⟩⟩ :=
    installs_in_directory Memory.Server.tidy run
  · cases well
  cases result with
  | error e => cases well
  | ok report =>
    obtain rfl : report = ⟨"/d/a", 25, 2, [], 0⟩ := Option.some.inj well
    obtain ⟨joined, t, content, found, _, file, others⟩ := installed
    obtain rfl : t = ⟨["d"], true, true⟩ := by
      rw [show w.disk.find "/d/" = .ok t from found] at there
      exact Option.some.inj there
    have behind : join "/d/" name = "/d/" ++ name := by
      rw [join, isAbsolute_of_plain named.whole]
      rfl
    obtain rfl : "a" = name := by simpa [behind, String.ext_iff] using joined
    exact ⟨_, rfl, rfl, ⟨content, file⟩, others⟩

end RemoteTags.Fetch
