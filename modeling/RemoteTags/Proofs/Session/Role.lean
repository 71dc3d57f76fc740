import RemoteTags.Proofs.Session.Traffic

/-! The part that a caller plays. What a caller may do next depends only on the replies that it has
got so far; its role holds this. Every program of the session keeps to its role, so that the
invariants of a run need to look at roles only and never at a program. -/

namespace RemoteTags.Session

inductive Role where
  | idle
  | clearing (c : Connection) (g : Nat)
  | retiring (c : Connection) (g : Nat) (link : Link)
  | opening (c : Connection) (g : Nat)
  | settling (g : Nat) (link : Option Link)
  -- A newer request took over, and the new link has to go.
  | dismissing (link : Link)
  | overtaken
  | sweeping (g : Nat)
  | shutting (link : Link)
  -- An operation holds the slot and looks whether the link is the newest.
  | checking
  | refusing
  | refused
  | working (link : Link)
  | broken (link : Link)
  | dropping
  | leaving (next : Option Reconnect)
  | parting (r : Reconnect)
  | finished
deriving DecidableEq

def operatesOn (id : Remote.LinkId) : Remote.Call → Prop
  | .stat l _ | .read l _ | .readDir l _ | .exec l _ _ | .fastGet l _ _ _ | .remove l _ => l = id
  | _ => False

def tellsLoss {α : Type} : Remote.Attempt α → Bool
  | .error e => e.isLinkFailure
  | .ok _ => false

def breaks : (k : Remote.Call) → k.Reply → Bool
  | .stat _ _, r | .read _ _, r | .readDir _ _, r | .exec _ _ _, r | .fastGet _ _ _ _, r
  | .remove _ _, r => tellsLoss r
  | _, _ => false

namespace Role

def Allows : Role → Action → Prop
  | idle, .session .status | idle, .session (.begin _ _) | idle, .session .beginDisconnect
  | idle, .session .hold => True
  | clearing _ g, .session (.takeOlder n) | sweeping g, .session (.takeOlder n) => n = g
  | retiring _ _ link, .remote (.close id) | dismissing link, .remote (.close id)
  | shutting link, .remote (.close id) | broken link, .remote (.close id) => id = link.id
  | opening c g, .opening d n => d = c ∧ n = g
  | settling g link, .session (.install n o) => n = g ∧ o.toOption = link
  | checking, .session .current | refusing, .session .release | leaving _, .session .release
  | dropping, .session .drop | working _, .session .useShellStat
  | working _, .session .release => True
  | working link, .remote k => operatesOn link.id k
  | parting r, .session (.schedule s) => s = r
  | _, _ => False

def after : Role → (q : Action) → q.Reply → Role
  | idle, .session (.begin c _), some g => clearing c g
  | idle, .session (.begin _ _), none => overtaken
  | idle, .session .beginDisconnect, g => sweeping g
  | idle, .session .hold, _ => checking
  | clearing c g, .session (.takeOlder _), some link => retiring c g link
  | clearing c g, .session (.takeOlder _), none => opening c g
  | retiring c g _, .remote _, _ => opening c g
  | opening _ g, .opening _ _, some (.ok link) => settling g (some link)
  | opening _ g, .opening _ _, _ => settling g none
  | settling _ _, .session (.install _ _), .stale (some link) => dismissing link
  | settling _ _, .session (.install _ _), .stale none => overtaken
  | settling _ _, .session (.install _ _), _ => finished
  | dismissing _, .remote _, _ => overtaken
  | sweeping _, .session (.takeOlder _), some link => shutting link
  | sweeping _, .session (.takeOlder _), none => finished
  | shutting _, .remote _, _ => finished
  | checking, .session .current, some link => working link
  | checking, .session .current, none => refusing
  | refusing, .session .release, _ => refused
  | working link, .remote k, r => if breaks k r then broken link else working link
  | working _, .session .release, _ => finished
  | broken _, .remote _, _ => dropping
  | dropping, .session .drop, next => leaving next
  | leaving (some r), .session .release, _ => parting r
  | leaving none, .session .release, _ => finished
  | parting _, .session (.schedule _), _ => finished
  | ρ, _, _ => ρ

/-- The generation of a connect that has begun and has not been decided. -/
def attempt? : Role → Option Nat
  | clearing _ g | retiring _ g _ | opening _ g | settling g _ => some g
  | _ => none

/-- The generation that a connect or a disconnect has taken and still acts on. -/
def number? : Role → Option Nat
  | clearing _ g | retiring _ g _ | opening _ g | settling g _ | sweeping g => some g
  | _ => none

def fresh? : Role → Option Link
  | settling _ link => link
  | _ => none

def Holds : Role → Prop
  | checking | refusing | working _ | broken _ | dropping | leaving _ => True
  | _ => False

def MayEnd : Role → Prop
  | idle | overtaken | refused | finished | parting _ => True
  | _ => False

end Role

/-- A program keeps to a role, and ends as `ends` tells. -/
def Keeps {α : Type} (ends : Role → α → Prop) : Role → Act α → Prop
  | ρ, .done a => ends ρ a
  | ρ, .ask q next => ρ.Allows q ∧ ∀ r, Keeps ends (ρ.after q r) (next r)

def Request.Ends (r : Request) (ρ : Role) (a : r.Answer) : Prop :=
  ρ.MayEnd ∧ (ρ = .overtaken → r.Overtaken a) ∧ (ρ = .refused → r.Refused a)

theorem Keeps.bind {α β : Type} {mid : Role → α → Prop} {ends : Role → β → Prop} {ρ : Role}
    {p : Act α} {f : α → Act β} (h : Keeps mid ρ p)
    (hf : ∀ ρ a, mid ρ a → Keeps ends ρ (f a)) : Keeps ends ρ (p.bind f) := by
  induction p generalizing ρ with
  | done a => exact hf ρ a h
  | ask q next ih => exact ⟨h.1, fun r => ih r (h.2 r)⟩

section Connect

variable {ends : Role → Except ConnectError Unit → Prop} (finished : ∀ a, ends .finished a)
  (overtaken : ends .overtaken (.error .superseded))
include finished overtaken

theorem keeps_conclude (g : Nat) (o : Except ConnectError Link) :
    Keeps ends (.settling g o.toOption) (conclude g o) := by
  refine ⟨⟨rfl, rfl⟩, fun r => ?_⟩
  match r with
  | .connected => exact finished _
  | .failed e => exact finished _
  | .stale none => exact overtaken
  | .stale (some link) => exact ⟨rfl, fun _ => overtaken⟩

theorem keeps_connectAs (c : Connection) (expected : Option Nat) :
    Keeps ends .idle (connectAs c expected) := by
  refine ⟨trivial, fun r => ?_⟩
  cases r with
  | none => exact overtaken
  | some g =>
    refine ⟨rfl, fun link => ?_⟩
    cases link with
    | none =>
      refine ⟨⟨rfl, rfl⟩, fun r => ?_⟩
      rcases r with _ | _ | _ <;> exact keeps_conclude finished overtaken g _
    | some link =>
      refine ⟨rfl, fun _ => ⟨⟨rfl, rfl⟩, fun r => ?_⟩⟩
      rcases r with _ | _ | _ <;> exact keeps_conclude finished overtaken g _

theorem keeps_reconnect (idle : ∀ a, ends .idle a) : Keeps ends .idle reconnect := by
  refine ⟨trivial, fun status => ?_⟩
  dsimp only [Program.done_bind]
  cases status.config with
  | some c => exact keeps_connectAs finished overtaken c none
  | none => exact idle _

end Connect

theorem keeps_disconnect {ends : Role → Unit → Prop} (finished : ends .finished ()) :
    Keeps ends .idle disconnect := by
  refine ⟨trivial, fun g => ⟨rfl, fun link => ?_⟩⟩
  match link with
  | none => exact finished
  | some link => exact ⟨rfl, fun _ => finished⟩

def Outcome.role {α : Type} (link : Link) : Outcome α → Role
  | .lost _ => .broken link
  | .value _ | .refusal _ => .working link

abbrev WorksOn {α : Type} (link : Link) (p : Act (Outcome α)) : Prop :=
  Keeps (fun ρ o => ρ = o.role link) (.working link) p

section Operate

variable {α : Type} {link : Link}

theorem role_failure (cause : TransportError) (e : SessionError) :
    (Outcome.failure cause e : Outcome α).role link =
      if cause.isLinkFailure then .broken link else .working link := by
  unfold Outcome.failure
  split <;> rfl

theorem worksOn_call (k : Remote.Call) (onIt : operatesOn link.id k) (f : k.Reply → Outcome α)
    (hf : ∀ r, (f r).role link = if breaks k r then .broken link else .working link) :
    WorksOn link (.ask (.remote k) fun r => .done (f r)) :=
  ⟨onIt, fun r => (hf r).symm⟩

theorem role_ofAttempt (r : Remote.Attempt α) :
    (Outcome.ofAttempt r).role link = if tellsLoss r then .broken link else .working link := by
  cases r with
  | ok a => rfl
  | error e => exact role_failure e _

theorem worksOn_runCommand (command : String) : WorksOn link (runCommand link command) := by
  refine ⟨rfl, fun r => ?_⟩
  match r with
  | .error e => exact (role_failure e _).symm
  | .ok out =>
    change Keeps _ (.working link) (if out.exitStatus = 0 then .done (Outcome.value out) else _)
    split <;> rfl

theorem worksOn_shellStat (path : String) : WorksOn link (shellStat link path) := by
  refine (worksOn_runCommand _).bind fun ρ outcome left => ?_
  subst left
  match outcome with
  | .lost e => exact rfl
  | .refusal e => exact rfl
  | .value _ =>
    refine ⟨rfl, fun r => ?_⟩
    match r with
    | .error e => exact (role_failure e _).symm
    | .ok report =>
      dsimp only [Program.done_bind]
      cases Shell.modifyTime (Utf8.lossyString report) <;> exact rfl

theorem worksOn_statOn (path : String) : WorksOn link (statOn path link) := by
  unfold statOn
  split
  · exact worksOn_shellStat path
  · refine ⟨rfl, fun r => ?_⟩
    match r with
    | .ok t => exact rfl
    | .error (.unsupported _) => exact ⟨trivial, fun _ => worksOn_shellStat path⟩
    | .error (.notFound _) | .error (.refused _) | .error (.localFailure _)
    | .error (.timedOut _) | .error (.io _) => exact rfl

end Operate

theorem keeps_onLink {α : Type} {ends : Role → Except SessionError α → Prop} (after : AfterLoss)
    {op : Link → Act (Outcome α)} (works : ∀ link, WorksOn link (op link))
    (finished : ∀ a, ends .finished a) (parting : ∀ r a, ends (.parting r) a)
    (refused : ends .refused (.error .notConnected)) : Keeps ends .idle (onLink after op) := by
  refine ⟨trivial, fun _ => ⟨trivial, fun link => ?_⟩⟩
  match link with
  | none => exact ⟨trivial, fun _ => refused⟩
  | some link =>
    refine (works link).bind fun ρ outcome left => ?_
    subst left
    match outcome with
    | .value a => exact ⟨trivial, fun _ => finished _⟩
    | .refusal e => exact ⟨trivial, fun _ => finished _⟩
    | .lost e =>
      refine ⟨rfl, fun _ => ⟨trivial, fun next => ⟨trivial, fun _ => ?_⟩⟩⟩
      match after, next with
      | .reconnect, some r => exact ⟨rfl, fun _ => finished _⟩
      | .stay, some r => exact parting r _
      | .reconnect, none => exact finished _
      | .stay, none => exact finished _

theorem Operation.keeps (o : Operation) : Keeps (Request.operate o).Ends .idle o.program := by
  have finished : ∀ a, (Request.operate o).Ends .finished a := fun a => ⟨trivial, nofun, nofun⟩
  have parting : ∀ r a, (Request.operate o).Ends (.parting r) a :=
    fun r a => ⟨trivial, nofun, nofun⟩
  have refused : (Request.operate o).Ends .refused (.error .notConnected) :=
    ⟨trivial, nofun, fun _ => rfl⟩
  cases o with
  | stat path =>
    exact keeps_onLink .reconnect (fun _ => worksOn_statOn path) finished parting refused
  | read path =>
    exact keeps_onLink .reconnect
      (fun link => worksOn_call (.read link.id path) rfl _ role_ofAttempt) finished parting refused
  | readDir path =>
    exact keeps_onLink .reconnect
      (fun link => worksOn_call (.readDir link.id path) rfl _ role_ofAttempt) finished parting refused
  | exec command =>
    exact keeps_onLink .stay (fun _ => worksOn_runCommand command) finished parting refused
  | fastGet remote localPath =>
    refine keeps_onLink .stay (fun _ => ⟨rfl, fun r => ?_⟩) finished parting refused
    match r with
    | .ok n => exact rfl
    | .error e => exact (role_failure e _).symm
  | remove path =>
    exact keeps_onLink .stay
      (fun link => worksOn_call (.remove link.id path) rfl _ role_ofAttempt) finished parting refused

theorem Request.keeps (r : Request) : Keeps r.Ends .idle r.program := by
  cases r with
  | connect c =>
    exact keeps_connectAs (fun a => ⟨trivial, nofun, nofun⟩) ⟨trivial, fun _ => rfl, nofun⟩ c none
  | reconnect =>
    exact keeps_reconnect (fun a => ⟨trivial, nofun, nofun⟩) ⟨trivial, fun _ => rfl, nofun⟩
      fun a => ⟨trivial, nofun, nofun⟩
  | resume r =>
    exact keeps_connectAs (fun a => ⟨trivial, nofun, nofun⟩) ⟨trivial, fun _ => rfl, nofun⟩ _ _
  | disconnect => exact keeps_disconnect ⟨trivial, nofun, nofun⟩
  | operate o => exact o.keeps

def Event.Answers : Event → Nat → Prop
  | .answered j _ _, i => j = i
  | _, _ => False

theorem Event.Answers.caller {e : Event} {i : Nat} (heard : e.Answers i) : e.caller = i := by
  cases e with
  | answered => exact heard
  | _ => exact heard.elim

def Event.InSession : Event → Prop
  | .answered _ (.session _) _ => True
  | _ => False

def roleOf (i : Nat) : List Event → Role
  | .answered j q r :: h => if j = i then (roleOf i h).after q r else roleOf i h
  | _ :: h => roleOf i h
  | [] => .idle

@[simp] theorem roleOf_heard (i : Nat) (q : Action) (r : q.Reply) (h : List Event) :
    roleOf i (.answered i q r :: h) = (roleOf i h).after q r := by
  simp [roleOf]

theorem roleOf_quiet {i : Nat} {e : Event} (h : List Event) (quiet : ¬ e.Answers i) :
    roleOf i (e :: h) = roleOf i h := by
  cases e with
  | answered j q r => exact if_neg quiet
  | _ => rfl

theorem roleOf_other {i j : Nat} (ne : j ≠ i) (q : Action) (r : q.Reply) (h : List Event) :
    roleOf j (.answered i q r :: h) = roleOf j h :=
  roleOf_quiet h fun heard : i = j => ne heard.symm

def Brings (P : Link → Prop) : Opener → Prop
  | .done o => ∀ link, o = .ok link → P link
  | .ask _ next => ∀ r, Brings P (next r)

theorem brings_giveUp (P : Link → Prop) (id : Remote.LinkId) (reason : String) :
    Brings P (giveUp id reason) := fun _ _ => nofun

theorem brings_openLink {P : Link → Prop} {c : Connection} {g : Nat}
    (fresh : ∀ id home, P ⟨id, home, false, c.timeouts, g⟩) : Brings P (openLink c g) := by
  intro r
  match r with
  | .error e => exact nofun
  | .ok id =>
    intro r
    match r with
    | .error e => exact brings_giveUp P id _
    | .ok home =>
      change Brings P (if Text.isBlankText home then giveUp id _ else .done (.ok _))
      split
      · exact brings_giveUp P id _
      · rintro link ⟨⟩
        exact fresh id _

abbrev Opens (g : Nat) : Opener → Prop := Brings fun link => link.generation = g

theorem opens_openLink (c : Connection) (g : Nat) : Opens g (openLink c g) :=
  brings_openLink fun _ _ => rfl

inductive Moves (e : Event) (i : Nat) (c : Caller) : Caller → Prop where
  -- At most the open that it has stopped waiting for goes on.
  | wait (s : Option Opener) (quiet : ¬ e.Answers i) : Moves e i c { c with stray := s }
  | launch {d : Connection} {g : Nat}
      {next : Option (Except ConnectError Link) → Act c.request.Answer}
      (asks : c.rest = .ask (.opening d g) next) (quiet : ¬ e.Answers i) :
      Moves e i c { c with opener := some (openLink d g) }
  | proceed {k : Remote.Call} {next : k.Reply → Opener} (asks : c.opener = some (.ask k next))
      (r : k.Reply) (quiet : ¬ e.Answers i) : Moves e i c { c with opener := some (next r) }
  | hear {q : Action} {r : q.Reply} {next : q.Reply → Act c.request.Answer}
      (heard : e = .answered i q r) (asks : c.rest = .ask q next) {o : Option Opener}
      (left : o = none ∨ o = c.opener ∧ ∀ d g, q ≠ .opening d g) (s : Option Opener) :
      Moves e i c { c with rest := next r, opener := o, stray := s }

theorem Moves.request {e : Event} {i : Nat} {c d : Caller} (m : Moves e i c d) :
    d.request = c.request := by
  cases m <;> rfl

namespace Traffic

variable {t u v : Traffic} {h : List Event} {e : Event} {i j : Nat} {c d : Caller}

theorem get?_set_append {cs new : List Caller} (found : (cs.set i c ++ new)[j]? = some d) :
    (j = i ∧ d = c ∧ i < cs.length) ∨ (j ≠ i ∧ cs[j]? = some d) ∨ (cs.length ≤ j ∧ d ∈ new) := by
  rw [List.getElem?_append, List.length_set] at found
  split at found
  · rw [List.getElem?_set] at found
    grind
  · exact .inr (.inr ⟨by omega, List.mem_of_getElem? found⟩)

theorem Step.callers (s : Step t e u) :
    (∃ r, e = .arrived t.callers.length ∧ u.callers = t.callers ++ [.start r]) ∨
      ∃ c d new, t.callers[e.caller]? = some c ∧ Moves e e.caller c d ∧
        u.callers = t.callers.set e.caller d ++ new ∧ ∀ f ∈ new, ∃ r, f = Caller.start r := by
  cases s with
  | arrive r _ => exact .inl ⟨r, rfl, rfl⟩
  | @run i c x next present asks _ =>
    refine .inr ⟨c, _, x.followers, present, .hear rfl asks (.inr ⟨rfl, nofun⟩) c.stray, rfl, ?_⟩
    intro f new
    cases x with
    | schedule r => exact ⟨.resume r, List.mem_singleton.1 new⟩
    | _ => exact absurd new List.not_mem_nil
  | call present asks r =>
    exact .inr ⟨_, _, [], present, .hear rfl asks (.inr ⟨rfl, nofun⟩) _,
      (List.append_nil _).symm, by simp⟩
  | launch present asks _ =>
    exact .inr ⟨_, _, [], present, .launch asks id, (List.append_nil _).symm, by simp⟩
  | proceed present asks r _ =>
    exact .inr ⟨_, _, [], present, .proceed asks r id, (List.append_nil _).symm, by simp⟩
  | opened present asks _ =>
    exact .inr ⟨_, _, [], present, .hear rfl asks (.inl rfl) _,
      (List.append_nil _).symm, by simp⟩
  | expire present asks _ =>
    exact .inr ⟨_, _, [], present, .hear rfl asks (.inl rfl) _,
      (List.append_nil _).symm, by simp⟩
  | stray present _ r _ =>
    exact .inr ⟨_, _, [], present, .wait _ id, (List.append_nil _).symm, by simp⟩
  | discard present _ =>
    exact .inr ⟨_, _, [], present, .wait _ id, (List.append_nil _).symm, by simp⟩

theorem Step.origin (s : Step t e u) (present : u.callers[i]? = some d) :
    (t.callers.length ≤ i ∧ ¬ e.Answers i ∧ ∃ r, d = .start r) ∨
      ∃ c, t.callers[i]? = some c ∧ Moves e i c d := by
  rcases s.callers with ⟨r, rfl, came⟩ | ⟨c, d', new, was, moves, came, starts⟩
  · rw [came, List.getElem?_append] at present
    split at present
    · exact .inr ⟨d, present, .wait d.stray id⟩
    · have : d = .start r := by
        simpa using List.mem_of_getElem? present
      exact .inl ⟨by omega, id, r, this⟩
  · rw [came] at present
    have within : e.caller < t.callers.length := (List.getElem?_eq_some_iff.1 was).1
    rcases get?_set_append present with ⟨rfl, rfl, _⟩ | ⟨other, same⟩ | ⟨beyond, isNew⟩
    · exact .inr ⟨c, was, moves⟩
    · exact .inr ⟨d, same, .wait d.stray fun heard => other heard.caller.symm⟩
    · refine .inl ⟨beyond, fun heard => ?_, starts d isNew⟩
      rw [heard.caller] at within
      omega

structure Plays (h : List Event) (t : Traffic) : Prop where
  keeps : ∀ (i : Nat) (c : Caller), t.callers[i]? = some c →
    Keeps c.request.Ends (roleOf i h) c.rest
  absent : ∀ i, t.callers.length ≤ i → roleOf i h = .idle
  opens : ∀ (i : Nat) (c : Caller) (p : Opener), t.callers[i]? = some c → c.opener = some p →
    ∃ d g next, c.rest = .ask (.opening d g) next ∧ Opens g p

theorem Step.length_le (s : Step t e u) : t.callers.length ≤ u.callers.length := by
  rcases s.callers with ⟨r, -, came⟩ | ⟨c, d, new, -, -, came, -⟩ <;> simp [came]

theorem Step.quiet_of_absent (s : Step t e u) (absent : t.callers.length ≤ i) :
    ¬ e.Answers i := by
  intro heard
  rcases s.callers with ⟨_, rfl, -⟩ | ⟨c, _, _, was, -⟩
  · exact heard
  · have within := (List.getElem?_eq_some_iff.1 was).1
    rw [heard.caller] at within
    omega

theorem Plays.step (p : Plays h t) (s : Step t e u) : Plays (e :: h) u where
  keeps i d present := by
    rcases s.origin present with ⟨beyond, quiet, r, rfl⟩ | ⟨c, was, moves⟩
    · rw [roleOf_quiet h quiet, p.absent i beyond]
      exact r.keeps
    · have before := p.keeps i c was
      cases moves with
      | wait s quiet => simpa only [roleOf_quiet h quiet] using before
      | launch asks quiet => simpa only [roleOf_quiet h quiet] using before
      | proceed asks r quiet => simpa only [roleOf_quiet h quiet] using before
      | hear heard asks left s =>
        rw [asks] at before
        rw [heard, roleOf_heard]
        exact before.2 _
  absent i beyond := by
    have absent : t.callers.length ≤ i := Nat.le_trans s.length_le beyond
    rw [roleOf_quiet h (s.quiet_of_absent absent), p.absent i absent]
  opens i d o present open' := by
    rcases s.origin present with ⟨-, -, r, rfl⟩ | ⟨c, was, moves⟩
    · cases open'
    · cases moves with
      | wait s quiet => exact p.opens i c o was open'
      | launch asks quiet =>
        cases open'
        exact ⟨_, _, _, asks, opens_openLink _ _⟩
      | proceed asks r quiet =>
        cases open'
        obtain ⟨d, g, next, waits, sound⟩ := p.opens i c _ was asks
        exact ⟨d, g, next, waits, sound r⟩
      | hear heard asks left s =>
        rcases left with rfl | ⟨rfl, other⟩
        · cases open'
        · obtain ⟨d, g, next, waits, -⟩ := p.opens i c o was open'
          rw [asks] at waits
          cases waits
          exact absurd rfl (other d g)

theorem Run.plays (run : Run h t) : Plays h t := by
  induction run with
  | refl => exact ⟨by simp, fun _ _ => rfl, by simp⟩
  | step _ last ih => exact ih.step last

theorem Step.asks {q : Action} {r : q.Reply} (s : Step t (.answered i q r) u) :
    ∃ c next, t.callers[i]? = some c ∧ c.rest = .ask q next := by
  cases s <;> exact ⟨_, _, ‹_›, ‹_›⟩

theorem Plays.allows {q : Action} {r : q.Reply} (p : Plays h t) (s : Step t (.answered i q r) u) :
    (roleOf i h).Allows q := by
  obtain ⟨c, next, present, asks⟩ := s.asks
  have keeps := p.keeps i c present
  rw [asks] at keeps
  exact keeps.1

theorem Plays.generation_of_opened {d : Connection} {g : Nat} {link : Link} (p : Plays h t)
    (s : Step t (.answered i (.opening d g) (some (.ok link))) u) : link.generation = g := by
  cases s with
  | opened present asks ended =>
    obtain ⟨d', g', next, waits, sound⟩ := p.opens _ _ _ present ended
    rw [asks] at waits
    cases waits
    exact sound link rfl

theorem Step.session_cases (s : Step t e u) :
    (u.session = t.session ∧ ¬ e.InSession) ∨
      ∃ i x, e = .answered i (.session x) (x.answer t.session).1 ∧
        u.session = (x.answer t.session).2 ∧ (x.waits && t.session.held) = false := by
  cases s with
  | run present asks free => exact .inr ⟨_, _, rfl, rfl, free⟩
  | _ => exact .inl ⟨rfl, id⟩

end Traffic

end RemoteTags.Session
