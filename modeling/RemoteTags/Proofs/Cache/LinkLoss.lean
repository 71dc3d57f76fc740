import RemoteTags.Proofs.Cache.Plan
import RemoteTags.Proofs.Session.Solo

/-! What a preload makes of a link that breaks while it asks for the modify time. There are three
calls in which this can happen. The loss in two of them is told as such; a loss during the command
of the shell is told as a failure of the command, and the preload takes it for a time that is not
known. -/

namespace RemoteTags

namespace World

variable {H : Type} (host : Host H) (w : World H)

theorem run_isConnected :
    w.run host Session.isConnected = (decide (w.session.status.phase = .connected), w) := rfl

end World

namespace Session

inductive StatCall where
  | native
  | command
  | report
deriving DecidableEq, Repr

variable {H : Type} (host : Host H) (link : Link) (path : String)

/-- The call that breaks the link while the shell is asked. -/
def shellLoss (s : H × Local.Disk) : Option StatCall :=
  let scratch := Shell.scratchBase link.home
  match host (.exec link.id (Shell.statCommand path scratch) link.timeouts.exec) s with
  | (.error e, _) => if e.isLinkFailure then some .command else none
  | (.ok out, s) =>
    if out.exitStatus = 0 then
      match (host (.read link.id scratch) s).1 with
      | .error e => if e.isLinkFailure then some .report else none
      | .ok _ => none
    else none

/-- The call that breaks the link while a modify time is asked for. -/
def statLoss (s : H × Local.Disk) : Option StatCall :=
  if link.shellStat then shellLoss host link path s
  else match host (.stat link.id path) s with
    | (.ok _, _) => none
    | (.error (.unsupported _), s) => shellLoss host link path s
    | (.error e, _) => if e.isLinkFailure then some .native else none

def Tells : Option StatCall → Outcome Int → Prop
  | none, .lost _ => False
  | none, _ => True
  | some .command, .lost e => ∀ reason, e ≠ .unavailable reason
  | some _, .lost e => ∃ reason, e = .unavailable reason
  | some _, _ => False

theorem tells_ofError (call : StatCall) (other : call ≠ .command) (e : TransportError) :
    Tells (if e.isLinkFailure then some call else none) (Outcome.ofError e) := by
  cases e <;> cases call <;> first | exact trivial | exact ⟨_, rfl⟩ | exact absurd rfl other

variable (w : World H)

theorem run_shellStat :
    let o := w.run host (shellStat link path)
    o.2.session = w.session ∧ o.2.cache = w.cache ∧
      Tells (shellLoss host link path (w.host, w.disk)) o.1 := by
  unfold shellStat runCommand shellLoss
  simp only [Act.remote, Program.query, Program.bind_eq, Program.ask_bind, Program.done_bind,
    World.run_remote]
  cases replied : host (.exec link.id (Shell.statCommand path (Shell.scratchBase link.home))
    link.timeouts.exec) (w.host, w.disk) with
  | mk r s =>
    rw [World.call_eq host w replied]
    cases r with
    | error e =>
      dsimp only
      cases e with
      | timedOut | io =>
        refine ⟨rfl, rfl, ?_⟩
        rintro reason ⟨⟩
      | _ => exact ⟨rfl, rfl, trivial⟩
    | ok out =>
      dsimp only
      by_cases well : out.exitStatus = 0
      · simp only [if_pos well, Program.pure_eq, Program.done_bind]
        cases answered : host (.read link.id (Shell.scratchBase link.home)) s with
        | mk r s' =>
          rw [World.run_remote, World.call_eq host { w with host := s.1, disk := s.2 } answered]
          cases r with
          | error e => exact ⟨rfl, rfl, tells_ofError .report (by decide) e⟩
          | ok report =>
            dsimp only
            cases Shell.modifyTime (Utf8.lossyString report) <;> exact ⟨rfl, rfl, trivial⟩
      · simp only [if_neg well, Program.pure_eq, Program.done_bind]
        exact ⟨rfl, rfl, trivial⟩

theorem run_statOn :
    let o := w.run host (statOn path link)
    (o.2.session = w.session ∨ o.2.session = w.session.useShellStat) ∧ o.2.cache = w.cache ∧
      Tells (statLoss host link path (w.host, w.disk)) o.1 := by
  unfold statOn statLoss
  by_cases shell : link.shellStat
  · rw [if_pos shell, if_pos shell]
    obtain ⟨session, cache, tells⟩ := run_shellStat host link path w
    exact ⟨.inl session, cache, tells⟩
  · rw [if_neg shell, if_neg shell]
    simp only [Act.remote, Act.session, Program.query, Program.bind_eq, Program.ask_bind,
      Program.done_bind, World.run_remote]
    cases replied : host (.stat link.id path) (w.host, w.disk) with
    | mk r s =>
      rw [World.call_eq host w replied]
      cases r with
      | ok t => exact ⟨.inl rfl, rfl, trivial⟩
      | error e =>
        cases e with
        | unsupported reason =>
          obtain ⟨session, cache, tells⟩ := run_shellStat host link path
            { w with host := s.1, disk := s.2, session := w.session.useShellStat }
          exact ⟨.inr session, cache, tells⟩
        | _ => exact ⟨.inl rfl, rfl, tells_ofError .native (by decide) _⟩

theorem run_stat (inSlot : w.session.slot = some link)
    (newest : link.generation = w.session.status.generation) :
    let r := w.run host (stat path)
    r.2.cache = w.cache ∧ match statLoss host link path (w.host, w.disk) with
      | none => r.2.session.slot ≠ none
      | some call => r.2.session.slot = none ∧
          ∃ e, r.1 = .error e ∧ Tells (some call) (.lost e) := by
  have current : w.session.current = some link := by
    rw [current, inSlot]
    simp [newest]
  obtain ⟨session, cache, tells⟩ := run_statOn host link path
    { w with session := { w.session with held := true } }
  obtain ⟨cache', ends⟩ := run_onLink host link w .reconnect (statOn path) current
  refine ⟨cache'.trans cache, ?_⟩
  have slot : ((({ w with session := { w.session with held := true } } : World H).run host
      (statOn path link)).2.session.slot) ≠ none := by
    rcases session with same | same
    · rw [same]
      simp [inSlot]
    · rw [same]
      simp [useShellStat, inSlot]
  dsimp only at tells ends
  generalize (({ w with session := { w.session with held := true } } : World H).run host
    (statOn path link)) = o at tells ends slot
  cases which : statLoss host link path (w.host, w.disk) with
  | none =>
    rw [which] at tells
    dsimp only
    cases outcome : o.1 with
    | value a | refusal e =>
      rw [outcome] at ends
      rw [show (w.run host (stat path)).2.session = _ from ends.2]
      exact slot
    | lost e =>
      rw [outcome] at tells
      exact tells.elim
  | some call =>
    rw [which] at tells
    dsimp only
    cases outcome : o.1 with
    | value a | refusal e =>
      rw [outcome] at tells
      cases call <;> exact tells.elim
    | lost e =>
      rw [outcome] at tells ends
      exact ⟨ends.2.1, e, ends.1, tells⟩

theorem run_read_of_none (none : w.session.slot = none) :
    (w.run host (Session.read path)).1 = .error .notConnected := by
  have current : w.session.current = .none := by
    rw [Session.current, none]
    rfl
  simp only [Session.read, onLink, Act.session, Program.query, Program.bind_eq, Program.ask_bind,
    Program.done_bind, World.run_session, Section.answer]
  rw [show ({ w.session with held := true } : Session).current = .none from current]
  rfl

end Session

namespace Cache
open Session

variable {H : Type} (host : Host H) (path : String)

theorem run_expand {α : Type} (a : Ask) (next : a.Reply → Plan α) (w : World H) :
    w.run host (expand (.ask a next)) =
      (w.run host a.program).2.run host (expand (next (w.run host a.program).1)) :=
  World.run_bind host w _ _

theorem run_check_of_none (w : World H) (none : w.session.slot = none) :
    let r := w.run host (expand (check path 0))
    (r.1 = .ok () ∧ r.2.cache.content? path = w.cache.content? path ∧
      ∃ e, w.cache.file? path = some e ∧ 0 ≤ e.mtime) ∨
    (r.1 = .error .notConnected ∧ ¬ ∃ e, w.cache.file? path = some e ∧ 0 ≤ e.mtime) := by
  intro r
  have checked : r = w.run host (expand (check path 0)) := rfl
  rw [check, run_expand, Ask.program, World.run_clock, validated, run_expand, Ask.program,
    World.run_cache] at checked
  dsimp only [Section.answer] at checked
  by_cases fresh : ∃ e, w.cache.file? path = some e ∧ 0 ≤ e.mtime
  · obtain ⟨e, found, newer⟩ := fresh
    rw [validate_of_newer found newer] at checked
    rw [checked]
    exact .inl ⟨rfl, content?_touch .., e, found, newer⟩
  · rw [validate_of_older fresh] at checked
    dsimp only at checked
    rw [fetch, run_expand, Ask.program, run_read_of_none] at checked
    · rw [checked]
      exact .inr ⟨rfl, fresh⟩
    · exact none

theorem run_preload_of_loss (w : World H) (link : Link)
    (connected : w.session.status.phase = .connected) (inSlot : w.session.slot = some link)
    (newest : link.generation = w.session.status.generation) {call : StatCall}
    (breaks : statLoss host link path (w.host, w.disk) = some call) :
    let fresh := call = .command ∧ ∃ e, w.cache.file? path = some e ∧ 0 ≤ e.mtime
    let r := w.run host (preload path)
    (fresh ∧ r.1 = .ok () ∧ r.2.cache.content? path = w.cache.content? path) ∨
      (¬ fresh ∧ ∃ reason, r.1 = .error (.unavailable reason)) := by
  intro fresh r
  obtain ⟨cache, ends⟩ := run_stat host link path w inSlot newest
  rw [breaks] at ends
  obtain ⟨lost, e, failed, tells⟩ := ends
  have asked : r = w.run host (preload path) := rfl
  rw [preload_eq_plan, plan, run_expand, Ask.program, World.run_isConnected,
    decide_eq_true connected] at asked
  dsimp only at asked
  rw [look, run_expand, Ask.program, failed] at asked
  cases call with
  | native | report =>
    obtain ⟨reason, rfl⟩ := tells
    have ill : r.1 = .error (.unavailable reason) := by
      rw [asked]
      rfl
    exact .inr ⟨fun ⟨other, _⟩ => (nomatch other), reason, ill⟩
  | command =>
    have unknown : r = (w.run host (Session.stat path)).2.run host (expand (check path 0)) := by
      cases e with
      | unavailable reason => exact absurd rfl (tells reason)
      | _ => exact asked
    have checked := run_check_of_none host path (w.run host (Session.stat path)).2 lost
    dsimp only at checked
    rw [← unknown, cache] at checked
    rcases checked with ⟨well, content, entry⟩ | ⟨told, stale⟩
    · exact .inl ⟨⟨rfl, entry⟩, well, content⟩
    · exact .inr ⟨fun at' => stale at'.2, _, told⟩

/-- The link is lost while a preload that runs alone asks for the modify time, and the reconnect that
this sets going does not end before the file would be read again. It is exactly when the loss comes
during the command of the shell, and there is an entry with a time of 0 or later, that the preload
succeeds nevertheless, with the entry as it is. Otherwise the session is told to be unavailable. -/
theorem preload_of_link_loss (w : World H) (link : Link)
    (connected : w.session.status.phase = .connected) (inSlot : w.session.slot = some link)
    (newest : link.generation = w.session.status.generation)
    (lost : (w.run host (Session.stat path)).2.session.slot = none) :
    let r := w.run host (preload path)
    ∃ call, statLoss host link path (w.host, w.disk) = some call ∧
      (r.1 = .ok () ↔ call = .command ∧ ∃ e, w.cache.file? path = some e ∧ 0 ≤ e.mtime) ∧
      (r.1 = .ok () → r.2.cache.content? path = w.cache.content? path) ∧
      (r.1 ≠ .ok () → ∃ reason, r.1 = .error (.unavailable reason)) := by
  intro r
  cases breaks : statLoss host link path (w.host, w.disk) with
  | none =>
    have ends := (run_stat host link path w inSlot newest).2
    rw [breaks] at ends
    exact absurd lost ends
  | some call =>
    refine ⟨call, rfl, ?_⟩
    rcases run_preload_of_loss host path w link connected inSlot newest breaks with
      ⟨fresh, well, content⟩ | ⟨stale, reason, told⟩
    · exact ⟨⟨fun _ => fresh, fun _ => well⟩, fun _ => content, fun ill => absurd well ill⟩
    · have ill : r.1 ≠ .ok () := by
        rw [show r.1 = _ from told]
        exact nofun
      exact ⟨⟨fun well => absurd well ill, fun fresh => absurd fresh stale⟩,
        fun well => absurd well ill, fun _ => ⟨reason, told⟩⟩

def deadHost : Host Unit := fun c s =>
  (match c with
    | .abandon _ => ()
    | .dial _ => .error .superseded
    | .home _ | .stat _ _ | .read _ _ | .readDir _ _ | .exec _ _ _ | .fastGet _ _ _ _ | .remove _ _
    | .close _ => .error (.io "connection reset by peer"), s)

/-- A session that asks the shell for modify times, on a host that is gone. -/
theorem preload_of_dead_command :
    ∃ w : World Unit, (w.run deadHost (Session.stat "tags")).2.session.slot = none ∧
      (w.run deadHost (preload "tags")).1 = .ok () := by
  let link : Link := ⟨0, "/home/user", true, {}, 1⟩
  let w : World Unit :=
    { session :=
        { status := ⟨.connected, some { host := "host", user := "user" }, some link.home, 1⟩
          slot := some link }
      cache := ⟨[⟨"tags", 7, 1, 1, "old"⟩]⟩
      host := () }
  have lost : (w.run deadHost (Session.stat "tags")).2.session.slot = none := rfl
  obtain ⟨call, breaks, well, -⟩ := preload_of_link_loss deadHost "tags" w link rfl rfl rfl lost
  cases breaks
  exact ⟨w, lost, well.2 ⟨rfl, _, rfl, by decide⟩⟩

end Cache

end RemoteTags
