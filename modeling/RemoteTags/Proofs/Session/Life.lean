import RemoteTags.Proofs.Session.Progress

/-! The life of a link, as the calls of a run have it: it is dialled, tells its home, works, and is
closed. An open brings a link through the first part of its life, stage by stage; while a link
works, it stays in the slot, which one caller at most holds. -/

namespace RemoteTags.Session

def linkOn : Remote.Call → Option Remote.LinkId
  | .dial _ => none
  | .home l | .stat l _ | .read l _ | .readDir l _ | .exec l _ _ | .fastGet l _ _ _ | .remove l _
  | .close l | .abandon l => some l

def linkOf : (k : Remote.Call) → k.Reply → Option Remote.LinkId
  | .dial _, r => r.toOption
  | k, _ => linkOn k

theorem linkOf_eq {k : Remote.Call} {l : Remote.LinkId} (on : linkOn k = some l) (r : k.Reply) :
    linkOf k r = some l := by
  cases k with
  | dial => cases on
  | _ => exact on

theorem linkOn_of_operatesOn {k : Remote.Call} {l : Remote.LinkId} (op : operatesOn l k) :
    linkOn k = some l := by
  cases k with
  | stat | read | readDir | exec | fastGet | remove => exact congrArg some op
  | _ => exact op.elim

namespace Event

def call? : Event → Option (Σ k : Remote.Call, k.Reply)
  | .answered _ (.remote k) r | .opening _ k r | .straying _ k r => some ⟨k, r⟩
  | _ => none

def callOn? (l : Remote.LinkId) (e : Event) : Option Remote.Call :=
  e.call?.bind fun ⟨k, r⟩ => if linkOf k r = some l then some k else none

variable {e : Event} {k : Remote.Call} {r : k.Reply} {l : Remote.LinkId}

theorem callOn?_eq (calls : e.call? = some ⟨k, r⟩) (on : linkOf k r = some l) :
    e.callOn? l = some k := by
  simp [callOn?, calls, on]

theorem callOn?_ne (calls : e.call? = some ⟨k, r⟩) (off : linkOf k r ≠ some l) :
    e.callOn? l = none := by
  simp [callOn?, calls, off]

end Event

def log (l : Remote.LinkId) (h : List Event) : List Remote.Call := h.filterMap (Event.callOn? l)

inductive Life where
  | unborn
  | dialled
  | live
  | closed
deriving DecidableEq

namespace Life

/-- The calls that suit a life of link `l`. -/
def Allows (l : Remote.LinkId) : Life → Remote.Call → Prop
  | unborn, .dial _ => True
  | dialled, .home m => m = l
  | live, k => operatesOn l k ∨ k = .close l
  | _, _ => False

def after : Life → Remote.Call → Life
  | _, .dial _ => dialled
  | _, .home _ => live
  | _, .close _ | _, .abandon _ => closed
  | a, _ => a

theorem after_of_operatesOn {l : Remote.LinkId} {k : Remote.Call} (op : operatesOn l k) (a : Life) :
    a.after k = a := by
  cases k with
  | stat | read | readDir | exec | fastGet | remove => rfl
  | _ => exact op.elim

end Life

def lifeOf (l : Remote.LinkId) : List Event → Life
  | e :: h =>
    match e.callOn? l with
    | some k => (lifeOf l h).after k
    | none => lifeOf l h
  | [] => .unborn

section Life

variable {l : Remote.LinkId} {e : Event} {k : Remote.Call} {h : List Event}

theorem lifeOf_quiet (quiet : e.callOn? l = none) : lifeOf l (e :: h) = lifeOf l h := by
  simp [lifeOf, quiet]

theorem lifeOf_call (calls : e.callOn? l = some k) : lifeOf l (e :: h) = (lifeOf l h).after k := by
  simp [lifeOf, calls]

end Life

inductive Stage where
  | dialling
  | asking (l : Remote.LinkId)
  | ending (l : Remote.LinkId)
  | finished

namespace Stage

def Allows : Stage → Remote.Call → Prop
  | dialling, .dial _ => True
  | asking l, .home m | ending l, .close m => m = l
  | _, _ => False

def after : Stage → (k : Remote.Call) → k.Reply → Stage
  | dialling, .dial _, .ok l => asking l
  | dialling, .dial _, .error _ => finished
  | asking l, _, _ => ending l
  | ending _, _, _ => finished
  | s, _, _ => s

/-- An open ends with its link, unless it never had one or has closed it. -/
def Ends : Stage → Except ConnectError Link → Prop
  | ending l, .ok link => link.id = l
  | finished, .error _ => True
  | _, _ => False

def owned? : Stage → Option (Remote.LinkId × Life)
  | asking l => some (l, .dialled)
  | ending l => some (l, .live)
  | _ => none

end Stage

def Tends : Stage → Opener → Prop
  | s, .done o => s.Ends o
  | s, .ask k next => s.Allows k ∧ ∀ r, Tends (s.after k r) (next r)

theorem tends_giveUp (l : Remote.LinkId) (reason : String) : Tends (.ending l) (giveUp l reason) :=
  ⟨rfl, fun _ => trivial⟩

theorem tends_openLink (c : Connection) (g : Nat) : Tends .dialling (openLink c g) := by
  refine ⟨trivial, fun r => ?_⟩
  match r with
  | .error e => exact trivial
  | .ok l =>
    refine ⟨rfl, fun r => ?_⟩
    match r with
    | .error e => exact tends_giveUp l _
    | .ok home =>
      change Tends (.ending l)
        (if Text.isBlankText home then giveUp l _ else .done (.ok ⟨l, _, _, _, _⟩))
      split
      · exact tends_giveUp l _
      · exact rfl

def ownedBy : Opener → Option (Remote.LinkId × Life)
  | .done (.ok link) => some (link.id, .live)
  | .ask (.home l) _ => some (l, .dialled)
  | .ask (.close l) _ => some (l, .live)
  | _ => none

theorem ownedBy_of_tends {s : Stage} {p : Opener} (tends : Tends s p) : ownedBy p = s.owned? := by
  cases p with
  | done o =>
    match s, o, tends with
    | .ending l, .ok link, same => exact congrArg (fun l => some (l, _)) same
    | .finished, .error _, _ => rfl
  | ask k next =>
    match s, k, tends.1 with
    | .dialling, .dial _, _ => rfl
    | .asking l, .home m, same => exact congrArg (fun l => some (l, _)) same
    | .ending l, .close m, same => exact congrArg (fun l => some (l, _)) same

inductive Side where
  | awaited
  | stray
deriving DecidableEq

def Caller.opens (c : Caller) : Side → Option Opener
  | .awaited => c.opener
  | .stray => c.stray

def AwaitsOpen : Action → Prop
  | .opening _ _ => True
  | _ => False

def Gives : Action → Prop
  | .session (.takeOlder _) | .session (.install _ _) | .opening _ _ => True
  | _ => False

namespace Role

/-- The link that nobody but this caller has. -/
def owned? : Role → Option Link
  | retiring _ _ link | dismissing link | shutting link => some link
  | settling _ link => link
  | _ => none

/-- The link in the slot, while this caller works on it. -/
def used? : Role → Option Link
  | working link | broken link => some link
  | _ => none

variable {ρ : Role} {q : Action}

theorem holds_of_after {r : q.Reply} (holds : (ρ.after q r).Holds) :
    ρ.Holds ∨ q = .session .hold := by
  fun_cases Role.after ρ q r <;> simp_all [after, Holds]

theorem holds_of_used? {link : Link} (uses : ρ.used? = some link) : ρ.Holds := by
  cases ρ with
  | working | broken => trivial
  | _ => cases uses

theorem used?_of_after {r : q.Reply} {link : Link} (uses : (ρ.after q r).used? = some link) :
    ρ.used? = some link ∨
      (⟨q, r⟩ : Σ q : Action, q.Reply) = ⟨.session .current, some link⟩ := by
  fun_cases Role.after ρ q r <;> simp_all [after, used?]

theorem owned?_taken {g : Nat} (allowed : ρ.Allows (.session (.takeOlder g))) (r : Option Link) :
    (ρ.after (.session (.takeOlder g)) r).owned? = r := by
  rcases eq_of_takeOlder allowed with ⟨c, rfl⟩ | rfl <;> cases r <;> rfl

theorem owned?_stale {g : Nat} {o : Except ConnectError Link}
    (allowed : ρ.Allows (.session (.install g o))) (link : Option Link) :
    (ρ.after (.session (.install g o)) (.stale link)).owned? = link := by
  rw [eq_settling allowed]
  cases link <;> rfl

theorem owned?_opened {c : Connection} {g : Nat} (allowed : ρ.Allows (.opening c g))
    (r : Option (Except ConnectError Link)) :
    (ρ.after (.opening c g) r).owned? = r.bind Except.toOption := by
  cases ρ with
  | opening =>
    match r with
    | none | some (.error _) | some (.ok _) => rfl
  | _ => exact allowed.elim

theorem owned?_of_after {r : q.Reply} {link : Link} (owns : (ρ.after q r).owned? = some link)
    (other : ¬ Gives q) : ρ.owned? = some link := by
  fun_cases Role.after ρ q r <;> simp_all [after, owned?, Gives]

theorem allows_dropping (allowed : dropping.Allows q) : q = .session .drop := by
  cases q with
  | session x =>
    cases x with
    | drop => rfl
    | _ => exact allowed.elim
  | _ => exact allowed.elim

theorem eq_dropping (allowed : ρ.Allows (.session .drop)) : ρ = .dropping := by
  cases ρ with
  | dropping => rfl
  | _ => exact allowed.elim

theorem holds_of_release (allowed : ρ.Allows (.session .release)) : ρ.Holds := by
  cases ρ with
  | refusing | working | leaving => trivial
  | _ => exact allowed.elim

theorem not_holds_of_release (allowed : ρ.Allows (.session .release)) (r : Section.release.Reply) :
    ¬ (ρ.after (.session .release) r).Holds := by
  cases ρ with
  | refusing | working link => exact id
  | leaving next => cases next <;> exact id
  | _ => exact allowed.elim

theorem allows_remote {k : Remote.Call} (allowed : ρ.Allows (.remote k)) :
    (∃ link, ρ.owned? = some link ∧ k = .close link.id ∧
        ∀ r, (ρ.after (.remote k) r).owned? = none) ∨
      ∃ link, ρ.used? = some link ∧ (∀ r, (ρ.after (.remote k) r).owned? = none) ∧
        (operatesOn link.id k ∨
          k = .close link.id ∧ ∀ r, ρ.after (.remote k) r = .dropping) := by
  cases ρ with
  | retiring | dismissing | shutting =>
    cases k with
    | close id =>
      cases (show id = _ from allowed)
      exact .inl ⟨_, rfl, rfl, fun _ => rfl⟩
    | _ => exact allowed.elim
  | broken link =>
    cases k with
    | close id =>
      cases (show id = link.id from allowed)
      exact .inr ⟨link, rfl, fun _ => rfl, .inr ⟨rfl, fun _ => rfl⟩⟩
    | _ => exact allowed.elim
  | working link =>
    refine .inr ⟨link, rfl, fun r => ?_, .inl allowed⟩
    change (if breaks k r then broken link else working link).owned? = none
    split <;> rfl
  | _ => exact allowed.elim

end Role

section Slot

variable {x : Section} {s : Session} {link : Link}

theorem slot_before (other : x ≠ .useShellStat) (inSlot : (x.answer s).2.slot = some link) :
    s.slot = some link ∨ x = .install s.status.generation (.ok link) := by
  cases x with
  | begin c x =>
    dsimp only [Section.answer, begin] at inSlot
    split at inSlot <;> exact .inl inSlot
  | takeOlder g =>
    dsimp only [Section.answer] at inSlot
    rcases s.takeOlder_cases g with same | taken
    · exact .inl (same ▸ inSlot)
    · rw [taken] at inSlot
      cases inSlot
  | install g o =>
    by_cases newest : s.status.generation = g
    · subst newest
      cases o with
      | ok fresh =>
        rw [Section.answer, install_newest] at inSlot
        cases inSlot
        exact .inr rfl
      | error e =>
        rw [Section.answer, install_newest_failed] at inSlot
        exact .inl inSlot
    · rw [Section.answer, s.install_of_ne newest] at inSlot
      exact .inl inSlot
  | useShellStat => exact absurd rfl other
  | drop =>
    dsimp only [Section.answer] at inSlot
    rcases s.drop_cases with ⟨-, empty⟩ | ⟨_, -, -, dropped⟩
    · rw [empty] at inSlot
      cases inSlot
    · rw [dropped] at inSlot
      cases inSlot
  | _ => exact .inl inSlot

theorem slot_of_answer (inSlot : (x.answer s).2.slot = some link) :
    (∃ old, s.slot = some old ∧ old.id = link.id) ∨
      x = .install s.status.generation (.ok link) := by
  by_cases turns : x = .useShellStat
  · subst turns
    obtain ⟨old, was, rfl⟩ := Option.map_eq_some_iff.1 inSlot
    exact .inl ⟨old, was, rfl⟩
  · exact (slot_before turns inSlot).imp_left fun was => ⟨link, was, rfl⟩

theorem slot_after (goes : x.waits = false) (other : x ≠ .drop) (turns : x ≠ .useShellStat) :
    (x.answer s).2.slot = s.slot := by
  cases x with
  | takeOlder | install | hold => cases goes
  | drop => exact absurd rfl other
  | useShellStat => exact absurd rfl turns
  | begin c x =>
    dsimp only [Section.answer, begin]
    split <;> rfl
  | _ => rfl

theorem answer_slot (goes : x.waits = false) (other : x ≠ .drop) (inSlot : s.slot = some link) :
    ∃ same, (x.answer s).2.slot = some same ∧ same.id = link.id := by
  by_cases turns : x = .useShellStat
  · subst turns
    exact ⟨{ link with shellStat := true }, by simp [Section.answer, useShellStat, inSlot], rfl⟩
  · exact ⟨link, (slot_after goes other turns).trans inSlot, rfl⟩

end Slot

namespace Traffic

variable {t u : Traffic} {h : List Event} {e : Event} {i j : Nat}

def followersOf : Action → List Caller
  | .session x => x.followers
  | _ => []

theorem starts_followers (q : Action) : ∀ f ∈ followersOf q, ∃ r, f = Caller.start r := by
  intro f came
  cases q with
  | session x =>
    cases x with
    | schedule r => exact ⟨.resume r, List.mem_singleton.1 came⟩
    | _ => cases came
  | _ => cases came

/-- One caller at most holds the slot, and the link that it works on stays there. -/
structure Manned (h : List Event) (t : Traffic) : Prop where
  one : ∀ i j, (roleOf i h).Holds → (roleOf j h).Holds → i = j
  held : ∀ i, (roleOf i h).Holds → t.session.held
  inSlot : ∀ i link, (roleOf i h).used? = some link →
    ∃ here, t.session.slot = some here ∧ here.id = link.id

theorem holds_of_step {q : Action} {r : q.Reply}
    (holds : (roleOf j (.answered i q r :: h)).Holds) :
    (roleOf j h).Holds ∨ j = i ∧ q = .session .hold := by
  by_cases here : j = i
  · subst here
    rw [roleOf_heard] at holds
    exact (Role.holds_of_after holds).imp_right fun asked => ⟨rfl, asked⟩
  · rw [roleOf_other here] at holds
    exact .inl holds

theorem used?_of_step {q : Action} {r : q.Reply} {link : Link}
    (uses : (roleOf j (.answered i q r :: h)).used? = some link) :
    (roleOf j h).used? = some link ∨
      j = i ∧ (⟨q, r⟩ : Σ q : Action, q.Reply) = ⟨.session .current, some link⟩ := by
  by_cases here : j = i
  · subst here
    rw [roleOf_heard] at uses
    exact (Role.used?_of_after uses).imp_right fun asked => ⟨rfl, asked⟩
  · rw [roleOf_other here] at uses
    exact .inl uses

theorem Manned.run {x : Section} {r : x.Reply} (m : Manned h t) (p : Plays h t)
    (s : Step t (.answered i (.session x) r) u) (free : (x.waits && t.session.held) = false) :
    Manned (.answered i (.session x) r :: h) u := by
  have allowed := p.allows s
  obtain ⟨reply, after⟩ := s.of_section
  -- A section that waits finds nobody at the slot.
  have nobody : x.waits = true → ∀ j, ¬ (roleOf j h).Holds := by
    intro waits j holds
    rw [waits, m.held j holds] at free
    cases free
  constructor
  · intro j k holds holds'
    rcases holds_of_step holds with before | ⟨rfl, asked⟩
    · rcases holds_of_step holds' with before' | ⟨rfl, asked⟩
      · exact m.one j k before before'
      · cases asked
        exact absurd before (nobody rfl j)
    · cases asked
      rcases holds_of_step holds' with before' | ⟨rfl, -⟩
      · exact absurd before' (nobody rfl k)
      · rfl
  · intro j holds
    rw [after]
    rcases holds_of_step holds with before | ⟨-, asked⟩
    · have takes : x ≠ .hold := by
        rintro rfl
        exact nobody rfl j before
      have keeps : x ≠ .release := by
        rintro rfl
        cases m.one j i before (Role.holds_of_release allowed)
        rw [roleOf_heard] at holds
        exact Role.not_holds_of_release allowed r holds
      rw [answer_held x _ takes keeps, m.held j before]
    · cases asked
      rfl
  · intro j link uses
    rw [after]
    rcases used?_of_step uses with before | ⟨-, asked⟩
    · obtain ⟨here, inSlot, same⟩ := m.inSlot j link before
      have holds := Role.holds_of_used? before
      have goes : x.waits = false := Bool.eq_false_iff.2 fun waits => nobody waits j holds
      have other : x ≠ .drop := by
        rintro rfl
        have dropping := Role.eq_dropping allowed
        cases m.one j i holds (by rw [dropping]; trivial)
        rw [dropping] at before
        cases before
      obtain ⟨now, inSlot', same'⟩ := answer_slot goes other inSlot
      exact ⟨now, inSlot', same'.trans same⟩
    · cases asked
      exact ⟨link, (Option.filter_eq_some_iff.1 reply.symm).1, rfl⟩

theorem Manned.step (m : Manned h t) (p : Plays h t) (s : Step t e u) : Manned (e :: h) u := by
  rcases s.session_cases with ⟨same, outside⟩ | ⟨i, x, rfl, -, free⟩
  · have still : ∀ j, ((roleOf j (e :: h)).Holds → (roleOf j h).Holds) ∧
        ∀ link, (roleOf j (e :: h)).used? = some link → (roleOf j h).used? = some link := by
      intro j
      cases e with
      | answered i q r =>
        refine ⟨fun holds => ?_, fun link uses => ?_⟩
        · rcases holds_of_step holds with before | ⟨-, rfl⟩
          · exact before
          · exact absurd trivial outside
        · rcases used?_of_step uses with before | ⟨-, asked⟩
          · exact before
          · cases asked
            exact absurd trivial outside
      | _ => exact ⟨id, fun _ => id⟩
    constructor
    · exact fun j k holds holds' => m.one j k ((still j).1 holds) ((still k).1 holds')
    · exact fun j holds => same ▸ m.held j ((still j).1 holds)
    · exact fun j link uses => same ▸ m.inSlot j link ((still j).2 link uses)
  · exact m.run p s free

theorem Run.manned (run : Run h t) : Manned h t := by
  induction run with
  | refl =>
    constructor
    all_goals simp [roleOf, Role.Holds, Role.used?]
  | step path last ih => exact ih.step (Run.plays path) last

/-- Every open keeps to its stages, also when nobody waits for it any more. -/
def Tended (t : Traffic) : Prop :=
  ∀ (i : Nat) (c : Caller) (side : Side) (p : Opener), t.callers[i]? = some c →
    c.opens side = some p → ∃ s, Tends s p

theorem opens_of_set {cs new : List Caller} {c d : Caller} {side : Side} {p : Opener}
    (found : (cs.set i c ++ new)[j]? = some d) (opens : d.opens side = some p)
    (starts : ∀ f ∈ new, ∃ r, f = Caller.start r) :
    (j = i ∧ d = c) ∨ (j ≠ i ∧ cs[j]? = some d) := by
  rcases get?_set_append found with ⟨here, same, -⟩ | other | ⟨-, came⟩
  · exact .inl ⟨here, same⟩
  · exact .inr other
  · obtain ⟨r, rfl⟩ := starts d came
    cases side <;> cases opens

inductive Descends (t : Traffic) (i : Nat) : Side → Opener → Prop where
  | same {c : Caller} {side : Side} {p : Opener} (present : t.callers[i]? = some c)
      (opens : c.opens side = some p) : Descends t i side p
  | launched {c : Caller} {q : Connection} {g : Nat}
      {next : Option (Except ConnectError Link) → Act c.request.Answer}
      (present : t.callers[i]? = some c) (asks : c.rest = .ask (.opening q g) next) :
      Descends t i .awaited (openLink q g)
  | goesOn {c : Caller} (side : Side) {k : Remote.Call} {next : k.Reply → Opener}
      (present : t.callers[i]? = some c) (asks : c.opens side = some (.ask k next))
      (r : k.Reply) : Descends t i side (next r)
  | left {c : Caller} {p : Opener} (present : t.callers[i]? = some c)
      (running : c.opener = some p) : Descends t i .stray p

theorem Step.descends {d : Caller} {side : Side} {p : Opener} (s : Step t e u)
    (there : u.callers[j]? = some d) (opens : d.opens side = some p) : Descends t j side p := by
  -- A step changes one caller, whose opens are told by `here`.
  have one : ∀ {i : Nat} {c' : Caller} {new : List Caller},
      u.callers = t.callers.set i c' ++ new → (∀ f ∈ new, ∃ r, f = Caller.start r) →
      (c'.opens side = some p → Descends t i side p) → Descends t j side p := by
    intro i c' new came starts here
    rw [came] at there
    rcases opens_of_set there opens starts with ⟨rfl, rfl⟩ | ⟨-, was⟩
    · exact here opens
    · exact .same was opens
  have nobody : ∀ {cs : List Caller}, cs = cs ++ [] := (List.append_nil _).symm
  cases s with
  | arrive r _ =>
    rw [List.getElem?_append] at there
    split at there
    · exact .same there opens
    · cases List.mem_singleton.1 (List.mem_of_getElem? there)
      cases side <;> cases opens
  | @run _ _ x _ present =>
    refine one rfl (starts_followers (.session x)) fun opens => .same present ?_
    cases side <;> exact opens
  | call present =>
    refine one nobody nofun fun opens => .same present ?_
    cases side <;> exact opens
  | launch present asks =>
    refine one nobody nofun fun opens => ?_
    cases side with
    | awaited =>
      cases opens
      exact .launched present asks
    | stray => exact .same present opens
  | proceed present asks r =>
    refine one nobody nofun fun opens => ?_
    cases side with
    | awaited =>
      cases opens
      exact .goesOn .awaited present asks r
    | stray => exact .same present opens
  | opened present =>
    refine one nobody nofun fun opens => ?_
    cases side with
    | awaited => cases opens
    | stray => exact .same present opens
  | expire present asks running =>
    refine one nobody nofun fun opens => ?_
    cases side with
    | awaited => cases opens
    | stray =>
      cases opens
      exact .left present running
  | stray present asks r =>
    refine one nobody nofun fun opens => ?_
    cases side with
    | awaited => exact .same present opens
    | stray =>
      cases opens
      exact .goesOn .stray present asks r
  | discard present =>
    refine one nobody nofun fun opens => ?_
    cases side with
    | awaited => exact .same present opens
    | stray => cases opens

theorem Tended.step (n : Tended t) (s : Step t e u) : Tended u := by
  intro i d side p there opens
  cases s.descends there opens with
  | same present opens => exact n i _ side p present opens
  | launched => exact ⟨.dialling, tends_openLink _ _⟩
  | goesOn _ present asks r =>
    obtain ⟨stage, -, goes⟩ := n i _ side _ present asks
    exact ⟨_, goes r⟩
  | left present running => exact n i _ .awaited p present running

theorem Run.tended (run : Run h t) : Tended t := by
  induction run with
  | refl => exact nofun
  | step path last ih => exact ih.step last

end Traffic

end RemoteTags.Session
