import RemoteTags.Memory.Fault
import RemoteTags.Proofs.Association
import RemoteTags.Proofs.Shell.Quoting

/-! What a call on the host leaves as it is. A command writes the file that is its last word, and a
removal takes away the one that it names; no other call changes a file, and no fault does it in
another place. -/

namespace RemoteTags

/-- The commands that write one file, with this file. -/
inductive Shell.Redirects : String → String → Prop where
  | stat (path output : String) : Redirects (statCommand path output) output
  | gzip (source output : String) : Redirects (gzipCommand source output) output

/-- The call has nothing to do with the file at `path`, but may read it. -/
def Remote.Call.Spares (path : String) : Remote.Call → Prop
  | .exec _ command _ => ∃ output, Shell.Redirects command output ∧ path ≠ output
  | .remove _ other => path ≠ other
  | _ => True

namespace Memory

namespace Server

variable {s s' s'' : Server} {path other command output : String}

structure Agree (path : String) (s s' : Server) : Prop where
  file : s'.file? path = s.file? path
  home : s'.home = s.home

theorem Agree.refl (path : String) (s : Server) : Agree path s s := ⟨rfl, rfl⟩

theorem Agree.trans (first : Agree path s s') (second : Agree path s' s'') : Agree path s s'' :=
  ⟨second.file.trans first.file, second.home.trans first.home⟩

theorem file?_erase (s : Server) (other path : String) :
    (s.erase other).file? path = if path = other then none else s.file? path :=
  lookup_filter_ne s.files other path

theorem file?_put (s : Server) (other path : String) (f : File) :
    (s.put other f).file? path = if path = other then some f else s.file? path := by
  have erased := s.file?_erase other path
  unfold file? at erased ⊢
  rw [put, lookup_cons_ite, erased]
  split <;> rfl

theorem erase_agree (ne : path ≠ other) : Agree path s (s.erase other) :=
  ⟨by rw [file?_erase, if_neg ne], rfl⟩

theorem put_agree (ne : path ≠ other) (f : File) : Agree path s (s.put other f) :=
  ⟨by rw [file?_put, if_neg ne], rfl⟩

theorem perform_agree (writes : Shell.Redirects command output) (ne : path ≠ output) :
    ∃ words, Shell.split command = some words ∧ Agree path s (s.perform words).2 := by
  cases writes with
  | stat source =>
    refine ⟨_, Shell.split_statCommand source output, ?_⟩
    simp only [perform]
    split
    · exact .refl path s
    · split
      · exact .refl path s
      · exact put_agree ne _
  | gzip source =>
    refine ⟨_, Shell.split_gzipCommand source output, ?_⟩
    simp only [perform]
    split
    · exact .refl path s
    · exact put_agree ne _

theorem exec_agree (writes : Shell.Redirects command output) (ne : path ≠ output) :
    Agree path s (s.exec command).2 := by
  obtain ⟨words, split, agree⟩ :=
    perform_agree (s := { s with execs := command :: s.execs }) writes ne
  unfold exec
  dsimp only
  rw [split]
  split
  · exact ⟨rfl, rfl⟩
  · exact ⟨agree.file, agree.home⟩

theorem remove_agree (ne : path ≠ other) : Agree path s (s.remove other).2 := by
  unfold remove
  split
  · exact .refl path s
  · split
    · exact .refl path s
    · have erased : Agree path s (s.erase other) := erase_agree ne
      exact ⟨erased.file, erased.home⟩

theorem dial_agree (c : Connection) : Agree path s (s.dial c).2 := by
  unfold dial
  dsimp only
  split <;> exact ⟨rfl, rfl⟩

theorem stat_agree (other : String) : Agree path s (s.stat other).2 := by
  unfold stat
  dsimp only
  split
  · exact ⟨rfl, rfl⟩
  · split <;> exact ⟨rfl, rfl⟩

theorem read_agree (other : String) : Agree path s (s.read other).2 := by
  unfold read
  dsimp only
  split
  · exact ⟨rfl, rfl⟩
  · split <;> exact ⟨rfl, rfl⟩

theorem readDir_agree (other : String) : Agree path s (s.readDir other).2 := by
  unfold readDir
  split <;> exact .refl path s

theorem fastGet_agree (remote localPath : String) (d : Local.Disk) :
    Agree path s (s.fastGet remote localPath d).2.1 := by
  unfold fastGet
  split
  · exact .refl path s
  · dsimp only
    split
    · exact ⟨rfl, rfl⟩
    · split
      · exact ⟨rfl, rfl⟩
      · split <;> exact ⟨rfl, rfl⟩

theorem onLive_agree {α : Type} {answer : Server → Remote.Attempt α × Server}
    (agree : Agree path s (answer s).2) : Agree path s (s.onLive answer).2 := by
  unfold onLive
  split
  · exact .refl path s
  · exact agree

theorem answer_agree {c : Remote.Call} (spares : c.Spares path) (d : Local.Disk) :
    Agree path s (answer c (s, d)).2.1 := by
  cases c with
  | dial c => exact dial_agree c
  | stat _ other => exact onLive_agree (stat_agree other)
  | read _ other => exact onLive_agree (read_agree other)
  | readDir _ other => exact onLive_agree (readDir_agree other)
  | exec _ command =>
    obtain ⟨output, writes, ne⟩ := spares
    exact onLive_agree (exec_agree writes ne)
  | fastGet _ remote localPath => exact fastGet_agree remote localPath d
  | remove _ other => exact onLive_agree (remove_agree spares)
  | home | close | abandon => exact ⟨rfl, rfl⟩

end Server

namespace Rig
open Server

variable {r : Rig} {d : Local.Disk} {path command output : String} {c : Remote.Call}

theorem lastWord_of_redirects (writes : Shell.Redirects command output) :
    lastWord? command = some output := by
  cases writes with
  | stat source =>
    rw [lastWord?, Shell.split_statCommand]
    rfl
  | gzip source =>
    rw [lastWord?, Shell.split_gzipCommand]
    rfl

theorem receive_server (c : Remote.Call) (r : Rig) : (r.receive c).2.server = r.server := by
  unfold receive
  split <;> rfl

theorem pass_agree (spares : c.Spares path) (r : Rig) (d : Local.Disk) :
    Agree path r.server (pass c r d).2.1.server :=
  answer_agree spares d

theorem execUnder_agree {l : Remote.LinkId} {n : Duration}
    (spares : (Remote.Call.exec l command n).Spares path) (e : Effect) :
    Agree path r.server (execUnder e l command n r d).2.1.server := by
  cases e with
  | fail | outcome => exact .refl path _
  | write content =>
    obtain ⟨output, writes, ne⟩ := spares
    simp only [execUnder, lastWord_of_redirects writes]
    exact put_agree ne _
  | loseDirectory | refuseDial | loseFile => exact pass_agree spares r _

theorem fastGetUnder_agree (e : Effect) (l : Remote.LinkId) (remote localPath : String) (n : Duration) :
    Agree path r.server (fastGetUnder e l remote localPath n r d).2.1.server := by
  have passed : Agree path r.server (pass (.fastGet l remote localPath n) r d).2.1.server :=
    pass_agree (c := .fastGet l remote localPath n) trivial r d
  cases e with
  | fail => exact .refl path _
  | loseFile e =>
    cases e with
    | none => exact passed
    | some e => exact .refl path _
  | refuseDial | outcome | write | loseDirectory => exact passed

theorem failUnder_agree {α : Type} {passed : Remote.Attempt α × Rig × Local.Disk}
    (agree : Agree path r.server passed.2.1.server) (e : Effect) :
    Agree path r.server (failUnder e r d passed).2.1.server := by
  cases e with
  | fail => exact .refl path _
  | refuseDial | outcome | write | loseDirectory | loseFile => exact agree

theorem under_agree (spares : c.Spares path) (e : Effect) :
    Agree path r.server (under e c r d).2.1.server := by
  have passed := pass_agree spares r d
  cases c with
  | dial c =>
    cases e with
    | refuseDial => exact .refl path _
    | fail | outcome | write | loseDirectory | loseFile => exact passed
  | exec => exact execUnder_agree spares e
  | fastGet => exact fastGetUnder_agree e _ _ _ _
  | abandon => exact passed
  | home | stat | read | readDir | remove | close => exact failUnder_agree passed e

theorem answer_cases (c : Remote.Call) (r : Rig) (d : Local.Disk) :
    (∃ e, answer c (r, d) = under e c (r.receive c).2 d) ∨
      answer c (r, d) = pass c (r.receive c).2 d := by
  unfold answer
  dsimp only
  match r.receive c with
  | (some e, r) => exact .inl ⟨e, rfl⟩
  | (none, r) => exact .inr rfl

/-- Faults or not, a call leaves a file that it spares as it is. -/
theorem answer_agree (spares : c.Spares path) :
    Agree path r.server (answer c (r, d)).2.1.server := by
  rw [← receive_server c r]
  rcases answer_cases c r d with ⟨e, same⟩ | same
  · rw [same]
    exact under_agree spares e
  · rw [same]
    exact pass_agree spares _ d

theorem home_of_answer {l : Remote.LinkId} {home : String}
    (told : (answer (.home l) (r, d)).1 = .ok home) : home = r.server.home := by
  rw [← receive_server (.home l) r]
  have passed : ∀ {r' : Rig}, (pass (.home l) r' d).1 = .ok home → home = r'.server.home := by
    intro r' told
    cases told
    rfl
  rcases answer_cases (.home l) r d with ⟨e, same⟩ | same
  · rw [same] at told
    cases e with
    | fail => cases told
    | refuseDial | outcome | write | loseDirectory | loseFile => exact passed told
  · rw [same] at told
    exact passed told

theorem server_of_keep {r' : Rig} (kept : keep? c r = some r') : r'.server = r.server := by
  unfold keep? at kept
  split at kept
  · cases kept
    exact receive_server c r
  · cases kept

end Rig

end Memory

end RemoteTags
