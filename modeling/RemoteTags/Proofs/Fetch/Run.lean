import RemoteTags.Fetch.Pipeline
import RemoteTags.Proofs.Effect.Runs
import RemoteTags.Proofs.Local.Faults

/-! Runs of a fetch. The remote host is a relation between states, so that a call may be answered
in more than one way; the local disk may fail at every call; and the session may be in any state
whenever it is looked at, since others use it as well. -/

namespace RemoteTags.Fetch

variable {H : Type}

/-- How calls may be answered by a host, and what they do to it and to the local disk. -/
abbrev HostRelation (H : Type) :=
  H × Local.Disk → (k : Remote.Call) → k.Reply → H × Local.Disk → Prop

def Acts (host : HostRelation H) (unlinks : Prop) (s : H × Local.Disk) :
    (q : Action) → q.Reply → H × Local.Disk → Prop
  | .remote k, r, s' => host s k r s'
  | .disk c, r, s' => s'.1 = s.1 ∧ c.Answers unlinks s.2 r s'.2
  | .opening _ _, _, _ => True
  | .session _, _, s' | .cache _, _, s' | .clock, _, s' | .random _, _, s' => s' = s

/-- How a question on the way may be answered: by a run of the program that stands for it. -/
def Asks (host : HostRelation H) (unlinks : Prop) (s : H × Local.Disk) (q : Ask) (r : q.Reply)
    (s' : H × Local.Disk) : Prop :=
  ∃ σ, q.program.Runs (Acts host unlinks) s σ r s'

abbrev Trace := List (Program.Exchange Ask Ask.Reply)

/-- A fetch, with what was asked on the way. -/
def Run (host : HostRelation H) (unlinks : Prop) (remoteFile target : String) (s : H × Local.Disk)
    (τ : Trace) (result : Except FetchError Report) (s' : H × Local.Disk) : Prop :=
  (course remoteFile target).Runs (Asks host unlinks) s τ result s'

variable {host : HostRelation H} {unlinks : Prop} {s s' : H × Local.Disk}

theorem Run.of_fetchTo {remoteFile target : String} {result : Except FetchError Report}
    {σ : List (Program.Exchange Action Action.Reply)}
    (run : (fetchTo remoteFile target).Runs (Acts host unlinks) s σ result s') :
    ∃ τ, Run host unlinks remoteFile target s τ result s' :=
  run.of_handle

section World

variable (host : Host H) (relation : HostRelation H)
  (answers : ∀ s k, relation s k (host k s).1 (host k s).2) (unlinks : Prop)
include answers

theorem acts_answer (q : Action) (w : World H) :
    Acts relation unlinks (w.host, w.disk) q (World.answer host q w).1
      ((World.answer host q w).2.host, (World.answer host q w).2.disk) := by
  cases q with
  | remote k => exact answers (w.host, w.disk) k
  | opening c g => trivial
  | disk c => exact ⟨rfl, .inl ⟨w.tokensAhead, rfl⟩⟩
  | session | cache | clock | random => rfl

theorem runs_log {α : Type} (p : Act α) (w : World H) :
    p.Runs (Acts relation unlinks) (w.host, w.disk) (p.log (World.answer host) w) (w.run host p).1
      ((w.run host p).2.host, (w.run host p).2.disk) :=
  Program.Runs.of_log (fun w : World H => (w.host, w.disk))
    (acts_answer host relation answers unlinks) p w

theorem Run.of_world (remoteFile target : String) (w : World H) :
    ∃ τ, Run relation unlinks remoteFile target (w.host, w.disk) τ
      (w.run host (fetchTo remoteFile target)).1
      ((w.run host (fetchTo remoteFile target)).2.host,
        (w.run host (fetchTo remoteFile target)).2.disk) :=
  of_fetchTo (runs_log host relation answers unlinks (fetchTo remoteFile target) w)

end World

def Ends {α : Type} (host : HostRelation H) (link : Link) (u : H × Local.Disk) :
    Session.Outcome α → Except SessionError α → H × Local.Disk → Prop
  | .value a, r, s' => r = .ok a ∧ s' = u
  | .refusal e, r, s' => r = .error e ∧ s' = u
  | .lost e, r, s' => r = .error e ∧ ∃ x, host u (.close link.id) x s'

theorem of_onLink {α : Type} {op : Link → Act (Session.Outcome α)} {r : Except SessionError α}
    {σ : List (Program.Exchange Action Action.Reply)}
    (run : (Session.onLink .stay op).Runs (Acts host unlinks) s σ r s') :
    (r = .error .notConnected ∧ s' = s) ∨
      ∃ link σ' outcome u, (op link).Runs (Acts host unlinks) s σ' outcome u ∧
        Ends host link u outcome r s' := by
  obtain ⟨_, _, s₁, _, held, rest, _⟩ := run.of_bind
  obtain rfl : s₁ = s := held.of_query.1
  obtain ⟨_, current, s₂, _, looked, rest₁, _⟩ := rest.of_bind
  obtain rfl : s₂ = s₁ := looked.of_query.1
  cases current with
  | none =>
    obtain ⟨_, _, s₃, _, released, done, _⟩ := rest₁.of_bind
    obtain rfl : s₃ = s₂ := released.of_query.1
    obtain ⟨_, rfl, rfl⟩ := done.of_done
    exact .inl ⟨rfl, rfl⟩
  | some link =>
    obtain ⟨σ', outcome, u, _, ran, rest₂, _⟩ := rest₁.of_bind
    refine .inr ⟨link, σ', outcome, u, ran, ?_⟩
    cases outcome with
    | value a =>
      obtain ⟨_, _, s₃, _, released, done, _⟩ := rest₂.of_bind
      obtain rfl : s₃ = u := released.of_query.1
      obtain ⟨_, rfl, rfl⟩ := done.of_done
      exact ⟨rfl, rfl⟩
    | refusal e =>
      obtain ⟨_, _, s₃, _, released, done, _⟩ := rest₂.of_bind
      obtain rfl : s₃ = u := released.of_query.1
      obtain ⟨_, rfl, rfl⟩ := done.of_done
      exact ⟨rfl, rfl⟩
    | lost e =>
      obtain ⟨_, _, s₃, _, close, rest₃, _⟩ := rest₂.of_bind
      obtain ⟨_, x, s₄, _, closed, left, _⟩ := close.of_bind
      obtain ⟨_, _, rfl⟩ := left.of_done
      have closed : host u (.close link.id) x s₃ := closed.of_query.1
      obtain ⟨_, _, s₅, _, dropped, rest₄, _⟩ := rest₃.of_bind
      obtain rfl : s₅ = s₃ := dropped.of_query.1
      obtain ⟨_, _, s₆, _, released, done, _⟩ := rest₄.of_bind
      obtain rfl : s₆ = s₅ := released.of_query.1
      obtain ⟨_, rfl, rfl⟩ := done.of_done
      exact ⟨rfl, x, closed⟩

/-- After a call that failed the link may be closed. -/
def MayClose (host : HostRelation H) (link : Remote.LinkId) (u s' : H × Local.Disk) : Prop :=
  s' = u ∨ ∃ x, host u (.close link) x s'

theorem Ends.of_failure {α : Type} {link : Link} {u : H × Local.Disk} {cause : TransportError}
    {e : SessionError} {r : Except SessionError α}
    (ends : Ends host link u (.failure cause e) r s') :
    r = .error e ∧ MayClose host link.id u s' := by
  unfold Session.Outcome.failure at ends
  cases broken : cause.isLinkFailure with
  | true =>
    rw [broken] at ends
    exact ⟨ends.1, .inr ends.2⟩
  | false =>
    rw [broken] at ends
    exact ⟨ends.1, .inl ends.2⟩

namespace Asks

theorem of_disk {c : Local.Call} {r : c.Reply} (asks : Asks host unlinks s (.disk c) r s') :
    s'.1 = s.1 ∧ c.Answers unlinks s.2 r s'.2 := by
  obtain ⟨σ, run⟩ := asks
  exact run.of_query.1

theorem of_connected {r : Bool} (asks : Asks host unlinks s .connected r s') : s' = s := by
  obtain ⟨σ, run⟩ := asks
  obtain ⟨_, _, _, _, looked, done, _⟩ := run.of_bind
  obtain ⟨_, _, rfl⟩ := done.of_done
  exact looked.of_query.1

theorem of_home {r : Option String} (asks : Asks host unlinks s .home r s') : s' = s := by
  obtain ⟨σ, run⟩ := asks
  obtain ⟨_, _, _, _, looked, done, _⟩ := run.of_bind
  obtain ⟨_, _, rfl⟩ := done.of_done
  exact looked.of_query.1

theorem of_clock {r : Nat} (asks : Asks host unlinks s .clock r s') : s' = s := by
  obtain ⟨σ, run⟩ := asks
  exact run.of_query.1

theorem of_random {bound r : Nat} (asks : Asks host unlinks s (.random bound) r s') : s' = s := by
  obtain ⟨σ, run⟩ := asks
  exact run.of_query.1

theorem of_exec {command : String} {r : Except SessionError Remote.Output}
    (asks : Asks host unlinks s (.exec command) r s') :
    (∃ e, r = .error e ∧ s' = s) ∨
    (∃ link n out, host s (.exec link command n) (.ok out) s' ∧ out.exitStatus = 0 ∧
      r = .ok out) ∨
    ∃ link n x u e, host s (.exec link command n) x u ∧ r = .error e ∧ MayClose host link u s' := by
  obtain ⟨σ, run⟩ := asks
  rcases of_onLink run with ⟨rfl, rfl⟩ | ⟨link, _, outcome, u, ran, ends⟩
  · exact .inl ⟨_, rfl, rfl⟩
  obtain ⟨_, x, u', _, called, rest, _⟩ := ran.of_bind
  have called : host s (.exec link.id command link.timeouts.exec) x u' := called.of_query.1
  cases x with
  | error cause =>
    obtain ⟨_, rfl, rfl⟩ := rest.of_done
    obtain ⟨rfl, closes⟩ := ends.of_failure
    exact .inr (.inr ⟨_, _, _, _, _, called, rfl, closes⟩)
  | ok out =>
    dsimp only at rest
    split at rest
    · rename_i zero
      obtain ⟨_, rfl, rfl⟩ := rest.of_done
      obtain ⟨rfl, rfl⟩ := ends
      exact .inr (.inl ⟨_, _, _, called, zero, rfl⟩)
    · obtain ⟨_, rfl, rfl⟩ := rest.of_done
      obtain ⟨rfl, rfl⟩ := ends
      exact .inr (.inr ⟨_, _, _, _, _, called, rfl, .inl rfl⟩)

theorem of_fastGet {remote path : String} {r : Except SessionError Nat}
    (asks : Asks host unlinks s (.fastGet remote path) r s') :
    (∃ e, r = .error e ∧ s' = s) ∨
    (∃ link n k, host s (.fastGet link remote path n) (.ok k) s' ∧ r = .ok k) ∨
    ∃ link n x u e, host s (.fastGet link remote path n) (.error x) u ∧ r = .error e ∧
      MayClose host link u s' := by
  obtain ⟨σ, run⟩ := asks
  rcases of_onLink run with ⟨rfl, rfl⟩ | ⟨link, _, outcome, u, ran, ends⟩
  · exact .inl ⟨_, rfl, rfl⟩
  obtain ⟨_, x, u', _, called, rest, _⟩ := ran.of_bind
  have called : host s (.fastGet link.id remote path link.timeouts.transfer) x u' :=
    called.of_query.1
  cases x with
  | error cause =>
    obtain ⟨_, rfl, rfl⟩ := rest.of_done
    obtain ⟨rfl, closes⟩ := ends.of_failure
    exact .inr (.inr ⟨_, _, _, _, _, called, rfl, closes⟩)
  | ok k =>
    obtain ⟨_, rfl, rfl⟩ := rest.of_done
    obtain ⟨rfl, rfl⟩ := ends
    exact .inr (.inl ⟨_, _, _, called, rfl⟩)

theorem of_remove {path : String} {r : Except SessionError Unit}
    (asks : Asks host unlinks s (.remove path) r s') :
    (∃ link, host s (.remove link path) (.ok ()) s' ∧ r = .ok ()) ∨
    ∃ e, r = .error e ∧ (s' = s ∧ e = .notConnected ∨
      ∃ link x u, host s (.remove link path) (.error x) u ∧ e = .ofTransport x ∧
        MayClose host link u s') := by
  obtain ⟨σ, run⟩ := asks
  rcases of_onLink run with ⟨rfl, rfl⟩ | ⟨link, _, outcome, u, ran, ends⟩
  · exact .inr ⟨_, rfl, .inl ⟨rfl, rfl⟩⟩
  obtain ⟨_, x, u', _, called, rest, _⟩ := ran.of_bind
  have called : host s (.remove link.id path) x u' := called.of_query.1
  obtain ⟨_, rfl, rfl⟩ := rest.of_done
  cases x with
  | error cause =>
    obtain ⟨rfl, closes⟩ := Ends.of_failure ends
    exact .inr ⟨_, rfl, .inr ⟨_, _, _, called, rfl, closes⟩⟩
  | ok _ =>
    obtain ⟨rfl, rfl⟩ := ends
    exact .inl ⟨_, called, rfl⟩

end Asks

end RemoteTags.Fetch
