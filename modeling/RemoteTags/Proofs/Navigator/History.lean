import RemoteTags.Memory.Fault
import RemoteTags.Navigator.Operation
import RemoteTags.Proofs.Cache.Plan
import RemoteTags.Proofs.Effect.Runs

/-! The history of a navigator over any sequence of calls. The store of file contents belongs to the
navigator and answers as it does; the session, the remote host, the local disk and the clock may
answer every question in any way, so that faults, changes of the host and reconnects may come at any
moment. What the history is depends on the answers of the calls alone. -/

namespace RemoteTags

namespace Cache

/-- The store answers its own questions. All others are answered in any way and leave it alone. -/
def Replies (c : Cache) : (a : Action) → a.Reply → Cache → Prop
  | .cache x, r, c' => (r, c') = x.answer c
  | .opening _ _, _, _ => True
  | .session _, _, c' | .remote _, _, c' | .disk _, _, c' | .clock, _, c' | .random _, _, c' =>
    c' = c

theorem replies_answer {H : Type} (host : Host H) (q : Action) (w : World H) :
    Replies w.cache q (World.answer host q w).1 (World.answer host q w).2.cache := by
  cases q with
  | opening => trivial
  | session | cache | remote | disk | clock | random => rfl

variable {c c' : Cache} {path : String} {mtime : Int} {r : Except SessionError Unit}
  {τ : List (Program.Exchange Action Action.Reply)}

theorem content_of_keep {bytes : Bytes}
    (run : (expand (keep path mtime bytes)).Runs Replies c τ r c') :
    (c'.content? path).isSome := by
  obtain ⟨_, time, c₁, _, _, rest, _⟩ := Program.Runs.of_bind run
  obtain ⟨_, _, c₂, _, stored, rest, _⟩ := Program.Runs.of_bind rest
  have inserted := stored.of_query.1
  cases inserted
  obtain ⟨_, _, rfl⟩ := rest.of_done
  rw [content?, file?_insert, if_pos rfl]
  rfl

theorem content_of_fetch (run : (expand (fetch path mtime)).Runs Replies c τ (.ok ()) c') :
    (c'.content? path).isSome := by
  obtain ⟨_, got, c₁, _, _, rest, _⟩ := Program.Runs.of_bind run
  cases got with
  | error e => cases rest.of_done.2.1
  | ok bytes => exact content_of_keep rest

theorem content_of_check (run : (expand (check path mtime)).Runs Replies c τ (.ok ()) c') :
    (c'.content? path).isSome := by
  obtain ⟨_, time, c₁, _, _, rest, _⟩ := Program.Runs.of_bind run
  obtain ⟨_, hit, c₂, _, checked, rest, _⟩ := Program.Runs.of_bind rest
  cases hit with
  | false => exact content_of_fetch rest
  | true =>
    obtain ⟨e, _, _, content⟩ := validate_of_hit checked.of_query.1
    obtain ⟨_, _, rfl⟩ := rest.of_done
    rw [content]
    rfl

theorem content_of_preload (run : (preload path).Runs Replies c τ (.ok ()) c') :
    (c'.content? path).isSome := by
  rw [preload_eq_plan] at run
  obtain ⟨_, connected, c₁, _, _, rest, _⟩ := Program.Runs.of_bind run
  cases connected with
  | false => cases rest.of_done.2.1
  | true =>
    obtain ⟨_, observed, c₂, _, _, rest, _⟩ := Program.Runs.of_bind rest
    match observed with
    | .ok mtime => exact content_of_check rest
    | .error (.unavailable reason) => cases rest.of_done.2.1
    | .error (.notFound _) | .error (.refused _) | .error (.exec _ _) | .error (.transfer _ _)
    | .error (.timeout _ _) => exact content_of_check rest

end Cache

namespace Navigator
open Cache (Replies)

variable {n n' : Navigator} {c c' : Cache} {τ : List (Program.Exchange Action Action.Reply)}

theorem locate_ne_notPreloaded {v : Path.Virtual} {tag : Tag} {content : Option String}
    (there : content.isSome) (path : String) :
    locate v tag content ≠ .error (.notPreloaded path) := by
  cases content with
  | none => cases there
  | some text =>
    rw [locate]
    split <;> exact nofun

/-- The remote path of a tag's file, with or without a home directory for the source root. -/
def LiesAt (n : Navigator) (tag : Tag) (path : String) : Prop :=
  match n.settings.sourceRoot with
  | none => path = tag.file
  | some root => ∃ below, (below = root ∨ ∃ home, below = Path.expandHome home root) ∧
      path = Path.join below tag.file

theorem liesAt_of_runs {tag : Tag} {path : String}
    (run : (n.remotePathOf tag).Runs Replies c τ path c') : n.LiesAt tag path := by
  unfold remotePathOf at run
  unfold LiesAt
  generalize n.settings.sourceRoot = source at run ⊢
  cases source with
  | none => exact run.of_done.2.1
  | some root =>
    obtain ⟨_, below, _, _, expands, rest, _⟩ := run.of_bind
    obtain ⟨_, home, _, _, _, expanded, _⟩ := expands.of_bind
    refine ⟨below, ?_, rest.of_done.2.1⟩
    cases home with
    | none => exact .inl expanded.of_done.2.1
    | some home => exact .inr ⟨home, expanded.of_done.2.1⟩

theorem visit_runs {tag : Tag} {landed : Except NavigateError Location}
    (run : (n.visit tag).Runs Replies c τ landed c') :
    (∃ e, landed = .error (.session e)) ∨
      ∃ v text, n.LiesAt tag v.remotePath ∧ c'.content? v.remotePath = some text ∧
        landed = locate v tag (some text) := by
  obtain ⟨_, file, _, _, places, rest, _⟩ := run.of_bind
  obtain ⟨_, token, _, _, _, rest, _⟩ := rest.of_bind
  obtain ⟨_, loaded, c₁, _, preloads, rest, _⟩ := rest.of_bind
  cases loaded with
  | error e => exact .inl ⟨e, rest.of_done.2.1⟩
  | ok =>
    obtain ⟨text, there⟩ := Option.isSome_iff_exists.1 (Cache.content_of_preload preloads)
    obtain ⟨_, content, c₂, _, asked, rest, _⟩ := rest.of_bind
    cases asked.of_query.1
    obtain ⟨_, same, rfl⟩ := rest.of_done
    rw [there] at same
    exact .inr ⟨_, text, liesAt_of_runs places, there, same⟩

theorem visit_ne_notPreloaded {tag : Tag} {landed : Except NavigateError Location}
    (run : (n.visit tag).Runs Replies c τ landed c') (path : String) :
    landed ≠ .error (.notPreloaded path) := by
  rcases visit_runs run with ⟨e, rfl⟩ | ⟨v, text, _, _, rfl⟩
  · exact nofun
  · exact locate_ne_notPreloaded rfl path

theorem goTo_runs {tag : Tag} {origin : Option Origin} {landed : Except NavigateError Location}
    (run : (n.goTo tag origin).Runs Replies c τ (landed, n') c') :
    n' = n.remember origin landed ∧ ∀ path, landed ≠ .error (.notPreloaded path) := by
  obtain ⟨_, found, _, _, visits, rest, _⟩ := run.of_bind
  obtain ⟨_, same, _⟩ := rest.of_done
  cases same
  exact ⟨rfl, visit_ne_notPreloaded visits⟩

theorem back_runs {r : Except NavigateError (Option Origin)}
    (run : n.back.Runs Replies c τ (r, n') c') :
    (∃ e, r = .error e ∧ n'.history = n.history) ∨
      r = .ok n.history.head? ∧ n'.history = n.history.tail := by
  unfold back at run
  split at run
  · rename_i empty
    obtain ⟨_, same, _⟩ := run.of_done
    cases same
    exact .inr ⟨by rw [empty]; rfl, by rw [empty]; rfl⟩
  · rename_i o rest history
    obtain ⟨_, revisited, _, _, _, left, _⟩ := run.of_bind
    cases revisited with
    | error e =>
      obtain ⟨_, same, _⟩ := left.of_done
      cases same
      exact .inl ⟨e, rfl, rfl⟩
    | ok =>
      obtain ⟨_, same, _⟩ := left.of_done
      cases same
      exact .inr ⟨by rw [history]; rfl, by rw [history]; rfl⟩

theorem refreshTags_runs {fileName localTags : String} {r : Except NavigateError Fetch.Report}
    (run : (n.refreshTags fileName localTags).Runs Replies c τ (r, n') c') :
    n'.history = n.history := by
  obtain ⟨_, directory, _, _, _, rest, _⟩ := run.of_bind
  cases directory with
  | error e =>
    cases rest.of_done.2.1
    rfl
  | ok directory =>
    obtain ⟨_, report, _, _, _, rest, _⟩ := rest.of_bind
    cases report with
    | error e =>
      cases rest.of_done.2.1
      rfl
    | ok report =>
      obtain ⟨_, index, _, _, _, rest, _⟩ := rest.of_bind
      cases index with
      | error e =>
        cases rest.of_done.2.1
        rfl
      | ok index =>
        obtain ⟨_, _, _, _, _, rest, _⟩ := rest.of_bind
        cases rest.of_done.2.1
        rfl

inductive Call where
  | goTo (tag : Tag) (origin : Option Origin)
  | back
  | listTagFiles
  | refreshTags (fileName localTags : String)
  | replaceIndex (index : TagIndex)

namespace Call

@[reducible] def Answer : Call → Type
  | .goTo _ _ => Except NavigateError Location
  | .back => Except NavigateError (Option Origin)
  | .listTagFiles => Except NavigateError (List Remote.Entry)
  | .refreshTags _ _ => Except NavigateError Fetch.Report
  | .replaceIndex _ => Unit

def program (n : Navigator) : (k : Call) → Act (k.Answer × Navigator)
  | .goTo tag origin => n.goTo tag origin
  | .back => n.back
  | .listTagFiles => n.listTagFiles.bind fun r => .done (r, n)
  | .refreshTags fileName localTags => n.refreshTags fileName localTags
  | .replaceIndex index => .done ((), n.replaceIndex index)

end Call

abbrev Turn := Σ k : Call, k.Answer

def Turn.Failed : Turn → Prop
  | ⟨.goTo _ _, .error _⟩ | ⟨.back, .error _⟩ | ⟨.listTagFiles, .error _⟩
  | ⟨.refreshTags _ _, .error _⟩ => True
  | _ => False

/-- A jump that succeeds puts its origin on the stack, and a way back takes one from it. -/
def stackAfter (stack : List Origin) : Turn → List Origin
  | ⟨.goTo _ (some o), .ok _⟩ => o :: stack
  | ⟨.back, .ok (some _)⟩ => stack.tail
  | _ => stack

structure Desk where
  cache : Cache := {}
  navigator : Navigator := {}

def Step (s : Desk) (turn : Turn) (t : Desk) : Prop :=
  ∃ τ, (turn.1.program s.navigator).Runs Replies s.cache τ (turn.2, t.navigator) t.cache

inductive Run : Desk → List Turn → Desk → Prop where
  | refl (s : Desk) : Run s [] s
  | step {s t u : Desk} {turn : Turn} {turns : List Turn} (first : Step s turn t)
      (rest : Run t turns u) : Run s (turn :: turns) u

variable {s t : Desk} {turn : Turn} {turns : List Turn}

/-- What a world does in answer to a call is such a step. -/
theorem Step.of_world {H : Type} (host : Host H) (n : Navigator) (k : Call) (w : World H) :
    Step ⟨w.cache, n⟩ ⟨k, (w.run host (k.program n)).1.1⟩
      ⟨(w.run host (k.program n)).2.cache, (w.run host (k.program n)).1.2⟩ :=
  Program.Runs.of_run World.cache (Cache.replies_answer host) (k.program n) w

def play {H : Type} (host : Host H) : List Call → Navigator → World H →
    List Turn × Navigator × World H
  | [], n, w => ([], n, w)
  | k :: calls, n, w =>
    let ((r, n), w) := w.run host (k.program n)
    let (turns, n, w) := play host calls n w
    (⟨k, r⟩ :: turns, n, w)

theorem Run.of_world {H : Type} (host : Host H) (calls : List Call) (n : Navigator) (w : World H) :
    Run ⟨w.cache, n⟩ (play host calls n w).1
      ⟨(play host calls n w).2.2.cache, (play host calls n w).2.1⟩ := by
  induction calls generalizing n w with
  | nil => exact .refl _
  | cons k calls ih => exact .step (.of_world host n k w) (ih _ _)

theorem Step.history (step : Step s turn t) :
    t.navigator.history = stackAfter s.navigator.history turn ∧
      (turn.Failed → t.navigator.history = s.navigator.history) ∧
      (∀ found, turn = ⟨.back, .ok found⟩ → found = s.navigator.history.head?) ∧
      ∀ tag origin path, turn ≠ ⟨.goTo tag origin, .error (.notPreloaded path)⟩ := by
  obtain ⟨⟨k, r⟩, τ, run⟩ := turn, step
  cases k with
  | goTo tag origin =>
    obtain ⟨after, preloaded⟩ := goTo_runs run
    rw [after]
    refine ⟨?_, ?_, nofun, fun _ _ path same => ?_⟩
    · cases r <;> cases origin <;> rfl
    · intro failed
      cases r with
      | error e => rfl
      | ok landed => exact failed.elim
    · cases same
      exact preloaded path rfl
  | back =>
    rcases back_runs run with ⟨e, rfl, kept⟩ | ⟨rfl, popped⟩
    · exact ⟨kept, fun _ => kept, nofun, nofun⟩
    · refine ⟨?_, False.elim, fun found same => ?_, nofun⟩
      · rw [popped]
        cases s.navigator.history <;> rfl
      · cases same
        rfl
  | listTagFiles =>
    obtain ⟨_, _, _, _, _, rest, _⟩ := run.of_bind
    obtain ⟨_, same, _⟩ := rest.of_done
    have kept : t.navigator = s.navigator := congrArg Prod.snd same
    rw [kept]
    exact ⟨rfl, fun _ => rfl, nofun, nofun⟩
  | refreshTags fileName localTags =>
    have kept := refreshTags_runs run
    exact ⟨kept, fun _ => kept, nofun, nofun⟩
  | replaceIndex index =>
    obtain ⟨_, same, _⟩ := run.of_done
    have kept : t.navigator = s.navigator.replaceIndex index := congrArg Prod.snd same
    rw [kept]
    exact ⟨rfl, fun _ => rfl, nofun, nofun⟩

theorem Run.history (run : Run s turns t) :
    t.navigator.history = turns.foldl stackAfter s.navigator.history := by
  induction run with
  | refl => rfl
  | step first _ ih => rw [ih, first.history.1, List.foldl_cons]

theorem Run.split {earlier later : List Turn} (run : Run s (earlier ++ turn :: later) t) :
    ∃ u v, Run s earlier u ∧ Step u turn v ∧ Run v later t := by
  induction earlier generalizing s with
  | nil =>
    cases run with
    | step first rest => exact ⟨_, _, .refl s, first, rest⟩
  | cons turn' earlier ih =>
    cases run with
    | step first rest =>
      obtain ⟨u, v, before, here, after⟩ := ih rest
      exact ⟨u, v, .step first before, here, after⟩

/-- The history is the stack that the answers tell of. A way back leads to the origin on top of it,
if there is one; a call that fails leaves it alone; and no jump ever misses the content of the file
that it has loaded. -/
theorem history_is_stack (run : Run s turns t) :
    t.navigator.history = turns.foldl stackAfter s.navigator.history ∧
      ∀ earlier turn later, turns = earlier ++ turn :: later →
        (∃ u v, Run s earlier u ∧ Step u turn v ∧ Run v later t ∧
          (turn.Failed → v.navigator.history = u.navigator.history)) ∧
        (∀ found, turn = ⟨.back, .ok found⟩ →
          found = (earlier.foldl stackAfter s.navigator.history).head?) ∧
        ∀ tag origin path, turn ≠ ⟨.goTo tag origin, .error (.notPreloaded path)⟩ := by
  refine ⟨run.history, fun earlier turn later same => ?_⟩
  subst same
  obtain ⟨u, v, before, here, after⟩ := run.split
  obtain ⟨-, failed, back, preloaded⟩ := here.history
  refine ⟨⟨u, v, before, here, after, failed⟩, fun found same => ?_, preloaded⟩
  rw [← before.history]
  exact back found same

def shelf : World Memory.Rig where
  session :=
    { status := ⟨.connected, some { host := "host", user := "user" }, some "/home/dev", 1⟩
      slot := some ⟨1, "/home/dev", false, {}, 1⟩ }
  host := { server := { files := [("/a.c", ⟨[104, 10, 105], 7⟩), ("/b.c", ⟨[], 7⟩)] } }

def origin : Origin := ⟨"ctagsshvf:2a$/b.c", 0⟩

def jumps : List Turn :=
  [⟨.goTo ⟨"f", "/a.c", .line "2", none, []⟩ (some origin),
      .ok ⟨"ctagsshvf:0$/a.c", "/a.c", 1, "i"⟩⟩,
    ⟨.goTo ⟨"g", "/a.c", .line "-1", none, []⟩ (some ⟨"ctagsshvf:0$/a.c", 1⟩),
      .error (.patternNotFound "g" "/a.c")⟩]

/-- The way back leads into the document of the first. -/
theorem history_is_stack_return :
    ∃ t, Run {} (jumps ++ [⟨.back, .ok (some origin)⟩]) t ∧ t.navigator.history = [] ∧
      some origin = (jumps.foldl stackAfter []).head? := by
  have run : Run {} (jumps ++ [⟨.back, .ok (some origin)⟩]) _ :=
    Run.of_world Memory.Rig.answer
      [.goTo ⟨"f", "/a.c", .line "2", none, []⟩ (some origin),
        .goTo ⟨"g", "/a.c", .line "-1", none, []⟩ (some ⟨"ctagsshvf:0$/a.c", 1⟩), .back] {} shelf
  obtain ⟨history, each⟩ := history_is_stack run
  obtain ⟨-, back, -⟩ := each jumps _ [] rfl
  exact ⟨_, run, history.trans rfl, back (some origin) rfl⟩

end Navigator

end RemoteTags
