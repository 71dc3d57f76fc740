import RemoteTags.Proofs.CommandLine.Farewell
import RemoteTags.Proofs.Effect.Alone

/-! A run of the program from beginning to end is one of the runs with turns: the one in which
nobody but the program has a turn. -/

namespace RemoteTags

open Ssh (Watched Answering)

section View

variable {L : Type} (lib : Answering L)

def World.unwatched (w : World (Watched L)) : World (Ssh.Client L) :=
  { session := w.session, cache := w.cache, disk := w.disk, host := w.host.client, time := w.time
    tokens := w.tokens }

theorem World.call_unwatched (w : World (Watched L)) (k : Remote.Call) :
    w.unwatched.call (Ssh.Client.answer lib) k =
      ((w.call (Ssh.Client.watch lib) k).1, (w.call (Ssh.Client.watch lib) k).2.unwatched) :=
  w.unwatched.call_eq _ (Ssh.Client.watch_eq lib (w.host, w.disk) k)

theorem World.answer_unwatched (q : Action) (w : World (Watched L)) :
    w.unwatched.answer (Ssh.Client.answer lib) q =
      ((w.answer (Ssh.Client.watch lib) q).1, (w.answer (Ssh.Client.watch lib) q).2.unwatched) := by
  cases q with
  | remote k => exact w.call_unwatched lib k
  | opening c g =>
    have ran := Program.run_view World.unwatched (fun k w => w.call_unwatched lib k)
      (Session.openLink c g) w
    dsimp only [World.answer]
    unfold World.openWithin
    rw [ran]
    dsimp only
    split
    · split
      · rw [World.call_unwatched]
      · rfl
    · rfl
  | _ => rfl

theorem World.run_unwatched {α : Type} (p : Act α) (w : World (Watched L)) :
    w.unwatched.run (Ssh.Client.answer lib) p =
      ((w.run (Ssh.Client.watch lib) p).1, (w.run (Ssh.Client.watch lib) p).2.unwatched) :=
  Program.run_view World.unwatched (World.answer_unwatched lib) p w

end View

section Brackets

open Session

theorem Session.Role.holdsAfter_iff {ρ : Role} {q : Action} {held : Bool} (allowed : ρ.Allows q)
    (r : q.Reply) (holds : held = true ↔ ρ.Holds) :
    q.holdsAfter held = true ↔ (ρ.after q r).Holds := by
  by_cases takes : q = .session .hold
  · subst takes
    cases ρ with
    | idle => exact ⟨fun _ => trivial, fun _ => rfl⟩
    | _ => exact allowed.elim
  · by_cases releases : q = .session .release
    · subst releases
      exact ⟨nofun, fun still => absurd still (Role.not_holds_of_release allowed r)⟩
    · have stays : q.holdsAfter held = held := by
        fun_cases Action.holdsAfter q held with
        | case1 => exact absurd rfl takes
        | case2 => exact absurd rfl releases
        | case3 => rfl
      rw [stays, holds]
      exact ⟨fun holds => Role.holds_after holds releases r,
        fun still => (Role.holds_of_after still).resolve_right takes⟩

theorem brackets_of_keeps {α : Type} {ends : Role → α → Prop} {ρ : Role} {held : Bool} {p : Act α}
    (keeps : Keeps ends ρ p) (holds : held = true ↔ ρ.Holds)
    (givesBack : ∀ ρ a, ends ρ a → ¬ ρ.Holds) : Brackets held p := by
  induction p generalizing ρ held with
  | done a =>
    have free := givesBack ρ a keeps
    rw [← holds] at free
    exact Bool.eq_false_iff.2 free
  | ask q next ih =>
    obtain ⟨allowed, rest⟩ := keeps
    refine ⟨fun waits => ?_, fun r => ih r (rest r) (Role.holdsAfter_iff allowed r holds)⟩
    refine Bool.eq_false_iff.2 fun here => ?_
    rcases Role.of_holds (holds.1 here) allowed with ⟨k, rfl⟩ | ⟨x, rfl, goes⟩
    · cases waits
    · cases goes.symm.trans waits

theorem brackets_request (r : Request) : Brackets false r.program := by
  refine brackets_of_keeps r.keeps ⟨nofun, False.elim⟩ fun ρ a ends holds => ?_
  have mayEnd := ends.1
  cases ρ with
  | idle | overtaken | refused | finished | parting => exact holds
  | _ => exact mayEnd

theorem brackets_works {α : Type} {p : Act α} (works : Works p) : Brackets false p := by
  induction works with
  | done a => rfl
  | @apart q next apart _ ih =>
    cases q with
    | session | remote | opening => exact apart.elim
    | _ => exact ⟨nofun, ih⟩
  | operate o _ ih => exact (brackets_request (.operate o)).bind ih
  | connected _ ih | home _ ih => exact ⟨nofun, fun _ => ih _⟩

end Brackets

namespace CommandLine

section Brackets

theorem brackets_connected (c : Config) (index : TagIndex) :
    Brackets false (connected c index) := by
  unfold connected
  split
  · rfl
  · refine (brackets_request (.connect _)).bind fun r => ?_
    cases r <;> rfl

theorem brackets_parting (o : Outcome) :
    Brackets false (Session.disconnect.bind fun _ => .done o) :=
  (brackets_request .disconnect).bind fun _ => rfl

theorem brackets_goTo (c : Config) (tagsPath symbol : String) (pick : Option Nat)
    (colours : Bool) : Brackets false (goTo c tagsPath symbol pick colours) := by
  refine (brackets_works (works_loadTags tagsPath)).bind fun r => ?_
  cases r with
  | error f => rfl
  | ok index =>
    refine (brackets_connected c index).bind fun r => ?_
    cases r with
    | error f => rfl
    | ok n =>
      dsimp only
      split
      · rfl
      · refine (brackets_works (Navigator.works_goTo n _ none)).bind fun went => ?_
        obtain ⟨landed, -⟩ := went
        cases landed <;> exact brackets_parting _

theorem brackets_cat (c : Config) (path : String) : Brackets false (cat c path) := by
  refine (brackets_connected c {}).bind fun r => ?_
  cases r with
  | error f => rfl
  | ok n =>
    refine (brackets_works (Cache.works_preload path)).bind fun loaded => ⟨nofun, fun content => ?_⟩
    cases loaded <;> exact brackets_parting _

theorem brackets_listTags (c : Config) (colours : Bool) : Brackets false (listTags c colours) := by
  refine (brackets_connected c {}).bind fun r => ?_
  cases r with
  | error f => rfl
  | ok n =>
    refine (brackets_works (Navigator.works_listTagFiles n)).bind fun listing => ?_
    cases listing <;> exact brackets_parting _

theorem brackets_fetchTags (c : Config) (tagsPath fileName : String) (colours : Bool) :
    Brackets false (fetchTags c tagsPath fileName colours) := by
  refine (brackets_connected c {}).bind fun r => ?_
  cases r with
  | error f => rfl
  | ok n =>
    refine (brackets_works (Navigator.works_refreshTags n fileName tagsPath)).bind fun fetched => ?_
    obtain ⟨fetched, n⟩ := fetched
    cases fetched <;> exact brackets_parting _

theorem brackets_execute (env : Config.Environment) (a : Arguments) :
    Brackets false (execute env a) := by
  refine (brackets_works (works_loadConfig env a.config)).bind fun r => ?_
  cases r with
  | error e => rfl
  | ok c =>
    dsimp only
    split
    · exact brackets_works (works_lookup c _ _ _ _)
    · exact brackets_goTo c _ _ _ _
    · exact brackets_cat c _
    · exact brackets_listTags c _
    · exact brackets_fetchTags c _ _ _

theorem brackets_giveUpLink : Brackets false Session.giveUpLink := by
  refine ⟨nofun, fun status => ⟨fun _ => rfl, fun older => ?_⟩⟩
  cases older with
  | none => rfl
  | some link => exact ⟨nofun, fun _ => rfl⟩

theorem brackets_run (env : Config.Environment) (args : List String) :
    Brackets false (run env args) := by
  have starts : ∀ env, Brackets false (started env args) := by
    intro env
    unfold started
    split
    · rfl
    · exact (brackets_execute env _).bind fun _ => brackets_giveUpLink.bind fun _ => rfl
  refine ⟨nofun, fun content => ?_⟩
  cases content with
  | ok content => exact starts (EnvFile.load content env)
  | error e => exact starts env

end Brackets

/-- What the program does from beginning to end, it also does in some run with turns: it exits
alike, and the client, the session, the cache and the local disk are the same afterwards. -/
theorem exists_played_eq_run {L : Type} (lib : Answering L) (l : L) (env : Config.Environment)
    (args : List String) (d : Local.Disk) :
    ∃ turns, let played := played lib l env args d turns
      let ran := World.run (Ssh.Client.answer lib) (run env args)
        { host := { library := l }, disk := d }
      played.main.rest.result? = some ran.1 ∧ played.world.unwatched = ran.2 := by
  let w : World (Watched L) := { host := { client := { library := l } }, disk := d }
  have reaches : (Process.start w (run env args)).Reaches (Ssh.Client.watch lib)
      (w.run (Ssh.Client.watch lib) (run env args)).2
      { rest := .done (w.run (Ssh.Client.watch lib) (run env args)).1 } :=
    Process.reaches_run rfl (brackets_run env args)
  obtain ⟨turns, world, main⟩ := reaches
  have ran : World.run (Ssh.Client.answer lib) (run env args) w.unwatched = _ :=
    World.run_unwatched lib (run env args) w
  refine ⟨turns, ?_, ?_⟩
  · change (played lib l env args d turns).main = _ at main
    rw [main]
    exact congrArg (fun ran => some ran.1) ran.symm
  · exact (congrArg World.unwatched world).trans (congrArg Prod.snd ran).symm

end CommandLine

end RemoteTags
