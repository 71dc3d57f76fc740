import RemoteTags.Session.Operation

/-! An operation of the session that nothing comes between. As long as its calls do not break the
link, it leaves the session as it was. A call that breaks the link of the newest connect ends the
connection. -/

namespace RemoteTags

namespace Session

variable {H : Type} (host : Host H) (link : Link) (w : World H)

theorem slot_drop (s : Session) : s.drop.2.slot = none := by
  unfold drop
  split
  · assumption
  · dsimp only
    split <;> rfl

theorem status_drop {s : Session} (current : s.current = some link) :
    s.drop.2.status = ⟨.disconnected, s.status.config, none, s.status.generation + 1⟩ := by
  obtain ⟨inSlot, newest⟩ := Option.filter_eq_some_iff.1 current
  unfold drop
  rw [inSlot]
  dsimp only
  rw [if_neg (not_not_intro (of_decide_eq_true newest).symm)]

/-- How an operation ends for its caller, and how it leaves the session. -/
theorem run_onLink {α : Type} (after : AfterLoss) (op : Link → Act (Outcome α))
    (current : w.session.current = some link) :
    let o := ({ w with session := { w.session with held := true } } : World H).run host (op link)
    let r := w.run host (onLink after op)
    r.2.cache = o.2.cache ∧ match o.1 with
      | .value a => r.1 = .ok a ∧ r.2.session = { o.2.session with held := false }
      | .refusal e => r.1 = .error e ∧ r.2.session = { o.2.session with held := false }
      | .lost e => r.1 = .error e ∧ r.2.session.slot = none ∧
          r.2.session.status = o.2.session.drop.2.status := by
  intro o r
  have run : r = w.run host (onLink after op) := rfl
  simp only [onLink, Act.session, Program.query, Program.bind_eq, Program.ask_bind,
    Program.done_bind, World.run_session, Section.answer] at run
  rw [show ({ w.session with held := true } : Session).current = some link from current] at run
  dsimp only at run
  rw [World.run_bind] at run
  change r = o.2.run host _ at run
  rw [run]
  cases o.1 with
  | value a => exact ⟨rfl, rfl, rfl⟩
  | refusal e => exact ⟨rfl, rfl, rfl⟩
  | lost e =>
    have cache : (World.call host (.close link.id) o.2).2.cache = o.2.cache := rfl
    have session : (World.call host (.close link.id) o.2).2.session = o.2.session := rfl
    simp only [closeLink, Act.remote, Program.query, Program.bind_eq, Program.ask_bind,
      Program.done_bind, Program.pure_eq, World.run_remote, World.run_session, Section.answer]
    generalize (World.call host (.close link.id) o.2).2 = v at cache session ⊢
    have slot := slot_drop v.session
    rw [← session]
    cases after <;> cases v.session.drop.1 <;> exact ⟨cache, rfl, slot, rfl⟩

def Stays (s t : Session) : Prop := t = { s with held := false }

structure Ended (s t : Session) : Prop where
  slot : t.slot = none
  status : t.status = ⟨.disconnected, s.status.config, none, s.status.generation + 1⟩

def EndsAs {α : Type} (s : Session) : Outcome α → Except SessionError α → Session → Prop
  | .value a, r, t => r = .ok a ∧ Stays s t
  | .refusal e, r, t => r = .error e ∧ Stays s t
  | .lost e, r, t => r = .error e ∧ Ended s t

theorem endsAs_of_run {α : Type} (after : AfterLoss) (op : Link → Act (Outcome α))
    (current : w.session.current = some link)
    (own : ∀ v : World H, (v.run host (op link)).2.session = v.session) :
    let o := ({ w with session := { w.session with held := true } } : World H).run host (op link)
    let r := w.run host (onLink after op)
    EndsAs w.session o.1 r.1 r.2.session := by
  intro o r
  have ends := (run_onLink host link w after op current).2
  have same := own { w with session := { w.session with held := true } }
  have dropped := status_drop (s := { w.session with held := true }) link current
  dsimp only at ends
  rw [same] at ends
  change EndsAs w.session (World.run host (op link) _).1 _ _
  cases outcome : (World.run host (op link)
    { w with session := { w.session with held := true } }).1 with
  | value a =>
    rw [outcome] at ends
    exact ends
  | refusal e =>
    rw [outcome] at ends
    exact ends
  | lost e =>
    rw [outcome] at ends
    exact ⟨ends.1, ends.2.1, ends.2.2.trans dropped⟩

theorem EndsAs.of_failure {α : Type} {s t : Session} {cause : TransportError} {e : SessionError}
    {r : Except SessionError α} (ends : EndsAs s (.failure cause e) r t) :
    r = .error e ∧ (cause.isLinkFailure = true → Ended s t) ∧
      (¬ cause.isLinkFailure = true → Stays s t) := by
  unfold Outcome.failure at ends
  split at ends
  · rename_i broke
    exact ⟨ends.1, fun _ => ends.2, fun spared => absurd broke spared⟩
  · rename_i spared
    exact ⟨ends.1, fun broke => absurd broke spared, fun _ => ends.2⟩

theorem endsAs_call {α : Type} (after : AfterLoss) (k : Link → Remote.Call)
    (f : (link : Link) → (k link).Reply → Outcome α) (current : w.session.current = some link) :
    let r := w.run host (onLink after fun link => .ask (.remote (k link)) fun r => .done (f link r))
    EndsAs w.session (f link (host (k link) (w.host, w.disk)).1) r.1 r.2.session :=
  endsAs_of_run host link w after (fun link => .ask (.remote (k link)) fun r => .done (f link r))
    current fun _ => rfl

def commandOutcome (command : String) (link : Link) :
    Remote.Attempt Remote.Output → Outcome Remote.Output
  | .error e => .failure e <| match e with
      | .timedOut _ => .timeout ("`" ++ command ++ "`") link.timeouts.exec.seconds
      | _ => .exec command e.message
  | .ok out =>
    if out.exitStatus = 0 then .value out else .refusal (.exec command (exitReason out))

theorem commandOutcome_ok (command : String) (out : Remote.Output) :
    commandOutcome command link (.ok out) =
      if out.exitStatus = 0 then .value out else .refusal (.exec command (exitReason out)) := rfl

theorem exec_eq (command : String) :
    exec command = onLink .stay fun link =>
      .ask (.remote (.exec link.id command link.timeouts.exec)) fun r =>
        .done (commandOutcome command link r) := by
  refine congrArg (onLink .stay) (funext fun link => congrArg (Program.ask _) (funext fun r => ?_))
  cases r with
  | error e => rfl
  | ok out =>
    unfold commandOutcome
    dsimp only [Program.done_bind]
    split <;> rfl

def transferOutcome (remote : String) (link : Link) : Remote.Attempt Nat → Outcome Nat
  | .error e => .failure e <| match e with
      | .timedOut _ => .timeout ("transfer of " ++ remote) link.timeouts.transfer.seconds
      | _ => .transfer remote e.message
  | .ok n => .value n

theorem fastGet_eq (remote localPath : String) :
    fastGet remote localPath = onLink .stay fun link =>
      .ask (.remote (.fastGet link.id remote localPath link.timeouts.transfer)) fun r =>
        .done (transferOutcome remote link r) := by
  refine congrArg (onLink .stay) (funext fun link => congrArg (Program.ask _) (funext fun r => ?_))
  cases r <;> rfl

section Single

variable {host link w} (current : w.session.current = some link)

include current

theorem endsAs_exec (command : String) :
    let r := w.run host (exec command)
    EndsAs w.session (commandOutcome command link
      (host (.exec link.id command link.timeouts.exec) (w.host, w.disk)).1) r.1 r.2.session := by
  rw [exec_eq]
  exact endsAs_call host link w .stay (fun link => .exec link.id command link.timeouts.exec)
    (commandOutcome command) current

theorem endsAs_fastGet (remote localPath : String) :
    let r := w.run host (fastGet remote localPath)
    EndsAs w.session (transferOutcome remote link
      (host (.fastGet link.id remote localPath link.timeouts.transfer) (w.host, w.disk)).1)
      r.1 r.2.session := by
  rw [fastGet_eq]
  exact endsAs_call host link w .stay
    (fun link => .fastGet link.id remote localPath link.timeouts.transfer)
    (transferOutcome remote) current

theorem endsAs_read (path : String) :
    let r := w.run host (Session.read path)
    EndsAs w.session (.ofAttempt (host (.read link.id path) (w.host, w.disk)).1) r.1 r.2.session :=
  endsAs_call host link w .reconnect (fun link => .read link.id path)
    (fun _ => Outcome.ofAttempt) current

end Single

end Session

end RemoteTags
