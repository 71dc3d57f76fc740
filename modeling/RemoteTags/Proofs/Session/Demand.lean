import RemoteTags.Proofs.Session.Consistency

/-! The newest request decides. Every connect and every disconnect takes a number of its own when
its first section runs, and the numbers only grow. Until the next one does so, the session does
what the newest request wants, whatever the older ones still have to do. -/

namespace RemoteTags.Session

/-- A connect or a disconnect whose first section has run. -/
structure Demand where
  caller : Nat
  -- A disconnect has none.
  config : Option Connection
  generation : Nat
deriving DecidableEq

def Event.demand? : Event → Option Demand
  | .answered i (.session (.begin c _)) (some g) => some ⟨i, some c, g⟩
  | .answered i (.session .beginDisconnect) g => some ⟨i, none, g⟩
  | _ => none

def latest? (h : List Event) : Option Demand := h.findSome? Event.demand?

def NoNewLink (s s' : Session) : Prop :=
  ∀ link, s'.slot = some link →
    ∃ old b, s.slot = some old ∧ link = { old with shellStat := b }

theorem noNewLink_of_slot {s s' : Session} (same : s'.slot = s.slot) : NoNewLink s s' :=
  fun link inSlot => ⟨link, link.shellStat, same ▸ inSlot, rfl⟩

theorem noNewLink_of_none {s s' : Session} (none : s'.slot = none) : NoNewLink s s' := by
  intro link inSlot
  rw [none] at inSlot
  cases inSlot

theorem takeOlder_eq (s : Session) (g : Nat) :
    s.takeOlder g = (none, s) ∨
      ∃ link, s.slot = some link ∧ s.takeOlder g = (some link, { s with slot := none }) := by
  unfold takeOlder
  split
  · rename_i link inSlot
    split
    · exact .inr ⟨link, inSlot, rfl⟩
    · exact .inl rfl
  · exact .inl rfl

theorem takeOlder_cases (s : Session) (g : Nat) :
    (s.takeOlder g).2 = s ∨ (s.takeOlder g).2 = { s with slot := none } := by
  rcases s.takeOlder_eq g with kept | ⟨link, -, taken⟩
  · exact .inl (congrArg Prod.snd kept)
  · exact .inr (congrArg Prod.snd taken)

theorem drop_cases (s : Session) :
    (s.drop.2.status = s.status ∧ s.drop.2.slot = none) ∨
      ∃ link, s.slot = some link ∧ link.generation = s.status.generation ∧
        s.drop.2 = { s with
          slot := none
          status := ⟨.disconnected, s.status.config, none, s.status.generation + 1⟩ } := by
  unfold drop
  split
  · exact .inl ⟨rfl, by assumption⟩
  · rename_i link inSlot
    dsimp only
    split
    · exact .inl ⟨rfl, rfl⟩
    · exact .inr ⟨link, inSlot, by omega, rfl⟩

theorem install_of_ne (s : Session) {g : Nat} (older : s.status.generation ≠ g)
    (o : Except ConnectError Link) : s.install g o = (.stale o.toOption, s) :=
  if_pos older

theorem install_newest (s : Session) (link : Link) :
    s.install s.status.generation (.ok link) = (.connected, { s with
      status := { s.status with phase := .connected, home := some link.home }
      slot := some link }) :=
  if_neg (not_not_intro rfl)

theorem install_newest_failed (s : Session) (e : ConnectError) :
    s.install s.status.generation (.error e) =
      (.failed e, { s with status := { s.status with phase := .disconnected } }) :=
  if_neg (not_not_intro rfl)

theorem install_newest_ne_stale (s : Session) (o : Except ConnectError Link)
    (link : Option Link) : (s.install s.status.generation o).1 ≠ .stale link := by
  cases o with
  | ok fresh => simp [install_newest]
  | error e => simp [install_newest_failed]

theorem install_generation (s : Session) (g : Nat) (o : Except ConnectError Link) :
    (s.install g o).2.status.generation = s.status.generation := by
  unfold install
  split
  · rfl
  · split <;> rfl

theorem install_config (s : Session) (g : Nat) (o : Except ConnectError Link) :
    (s.install g o).2.status.config = s.status.config := by
  unfold install
  split
  · rfl
  · split <;> rfl

namespace Role

variable {ρ : Role} {q : Action} {r : q.Reply}

theorem attempt?_of_after {g : Nat} (h : (ρ.after q r).attempt? = some g) :
    ρ.attempt? = some g ∨
      ∃ c x, (⟨q, r⟩ : Σ q : Action, q.Reply) = ⟨.session (.begin c x), some g⟩ := by
  fun_cases Role.after ρ q r <;> simp_all [after, attempt?]

theorem not_mayEnd_of_attempt? {g : Nat} (pending : ρ.attempt? = some g) : ¬ ρ.MayEnd := by
  cases ρ with
  | clearing | retiring | opening | settling => exact id
  | _ => cases pending

theorem allows_clearing {c : Connection} {g : Nat} (h : (clearing c g).Allows q) :
    q = .session (.takeOlder g) := by
  cases q with
  | session x =>
    cases x with
    | takeOlder n => rw [show n = g from h]
    | _ => exact h.elim
  | _ => exact h.elim

theorem allows_retiring {c : Connection} {g : Nat} {link : Link}
    (h : (retiring c g link).Allows q) : q = .remote (.close link.id) := by
  cases q with
  | remote k =>
    cases k with
    | close id => rw [show id = link.id from h]
    | _ => exact h.elim
  | _ => exact h.elim

theorem allows_opening {c : Connection} {g : Nat} (h : (opening c g).Allows q) :
    q = .opening c g := by
  cases q with
  | opening d n => rw [h.1, h.2]
  | _ => exact h.elim

theorem allows_settling {g : Nat} {link : Option Link} (h : (settling g link).Allows q) :
    ∃ o, q = .session (.install g o) ∧ o.toOption = link := by
  cases q with
  | session x =>
    cases x with
    | install n o => exact ⟨o, by rw [h.1], h.2⟩
    | _ => exact h.elim
  | _ => exact h.elim

theorem allows_dismissing {link : Link} (h : (dismissing link).Allows q) :
    q = .remote (.close link.id) := by
  cases q with
  | remote k =>
    cases k with
    | close id => rw [show id = link.id from h]
    | _ => exact h.elim
  | _ => exact h.elim

end Role

def Demand.Pursued (d : Demand) (c : Connection) (h : List Event) : Role → Prop
  | .clearing c' g | .retiring c' g _ | .opening c' g => c' = c ∧ g = d.generation
  | .settling g link => g = d.generation ∧
      ∀ l, link = some l → .answered d.caller (.opening c g) (some (.ok l)) ∈ h
  | .finished => True
  | _ => False

theorem Demand.Pursued.pending_or_finished {d : Demand} {c : Connection} {h : List Event} {ρ : Role}
    (p : d.Pursued c h ρ) : ρ.attempt? = some d.generation ∨ ρ = .finished := by
  cases ρ with
  | clearing c' g | opening c' g => exact .inl (congrArg some p.2)
  | retiring c' g link => exact .inl (congrArg some p.2)
  | settling g link => exact .inl (congrArg some p.1)
  | finished => exact .inr rfl
  | _ => exact p.elim

theorem Demand.Pursued.mono {d : Demand} {c : Connection} {h : List Event} {ρ : Role} (e : Event)
    (p : d.Pursued c h ρ) : d.Pursued c (e :: h) ρ := by
  cases ρ with
  | settling g link => exact ⟨p.1, fun l opened => List.mem_cons_of_mem e (p.2 l opened)⟩
  | _ => exact p

theorem Demand.Pursued.after {d : Demand} {c : Connection} {h : List Event} {ρ : Role}
    {q : Action} {r : q.Reply} (p : d.Pursued c h ρ) (allowed : ρ.Allows q)
    (inTime : ∀ o link, (⟨q, r⟩ : Σ q : Action, q.Reply) ≠
      ⟨.session (.install d.generation o), .stale link⟩) :
    d.Pursued c (.answered d.caller q r :: h) (ρ.after q r) := by
  cases ρ with
  | clearing c' g =>
    cases Role.allows_clearing allowed
    cases r <;> exact p
  | retiring c' g link =>
    cases Role.allows_retiring allowed
    exact p
  | opening c' g =>
    cases Role.allows_opening allowed
    obtain ⟨rfl, rfl⟩ := p
    match r with
    | none | some (.error _) => exact ⟨rfl, nofun⟩
    | some (.ok link) =>
      refine ⟨rfl, ?_⟩
      rintro l ⟨⟩
      exact List.mem_cons_self
  | settling g link =>
    obtain ⟨o, rfl, -⟩ := Role.allows_settling allowed
    obtain ⟨rfl, -⟩ := p
    match r with
    | .connected | .failed _ => trivial
    | .stale link => exact absurd rfl (inTime o link)
  | finished => exact allowed.elim
  | _ => exact p.elim

namespace Traffic

variable {t u v : Traffic} {h : List Event} {e : Event} {d : Demand} {i : Nat}

theorem Step.of_demand (s : Step t e u) (demands : e.demand? = some d) :
    d.generation = t.session.status.generation + 1 ∧
      ((∃ c x, d.config = some c ∧
          e = .answered d.caller (.session (.begin c x)) (some d.generation) ∧
          u.session = { t.session with status := ⟨.connecting, some c, none, d.generation⟩ }) ∨
        d.config = none ∧ e = .answered d.caller (.session .beginDisconnect) d.generation ∧
          u.session = { t.session with
            status := ⟨.disconnected, t.session.status.config, none, d.generation⟩ }) := by
  rcases s.session_cases with ⟨-, outside⟩ | ⟨i, x, rfl, after, -⟩
  · unfold Event.demand? at demands
    split at demands
    · exact absurd trivial outside
    · exact absurd trivial outside
    · cases demands
  · rw [after]
    cases x with
    | begin c x =>
      dsimp only [Section.answer] at demands ⊢
      unfold Session.begin at demands ⊢
      split at demands
      · cases demands
      · rename_i onTime
        rw [if_neg onTime]
        cases demands
        exact ⟨rfl, .inl ⟨c, x, rfl, rfl, rfl⟩⟩
    | beginDisconnect =>
      cases demands
      exact ⟨rfl, .inr ⟨rfl, rfl, rfl⟩⟩
    | _ => cases demands

theorem Step.cases_of_quiet (s : Step t e u) (quiet : e.demand? = none) :
    (u.session.status = t.session.status ∧ NoNewLink t.session u.session) ∨
      (∃ i o, e = .answered i (.session (.install t.session.status.generation o))
          (t.session.install t.session.status.generation o).1 ∧
        u.session = (t.session.install t.session.status.generation o).2) ∨
      ((∃ link, t.session.slot = some link ∧ link.generation = t.session.status.generation) ∧
        u.session = { t.session with
          slot := none
          status := ⟨.disconnected, t.session.status.config, none,
            t.session.status.generation + 1⟩ }) := by
  rcases s.session_cases with ⟨same, -⟩ | ⟨i, x, rfl, after, -⟩
  · rw [same]
    exact .inl ⟨rfl, noNewLink_of_slot rfl⟩
  · rw [after]
    cases x with
    | begin c x =>
      dsimp only [Section.answer] at quiet ⊢
      unfold Session.begin at quiet ⊢
      split
      · exact .inl ⟨rfl, noNewLink_of_slot rfl⟩
      · rename_i onTime
        rw [if_neg onTime] at quiet
        cases quiet
    | beginDisconnect => cases quiet
    | takeOlder g =>
      refine .inl ?_
      dsimp only [Section.answer]
      rcases t.session.takeOlder_cases g with same | taken
      · rw [same]
        exact ⟨rfl, noNewLink_of_slot rfl⟩
      · rw [taken]
        exact ⟨rfl, noNewLink_of_none rfl⟩
    | install g o =>
      by_cases newest : t.session.status.generation = g
      · subst newest
        exact .inr (.inl ⟨i, o, rfl, rfl⟩)
      · have stale := t.session.install_of_ne newest o
        exact .inl ⟨congrArg (·.2.status) stale, noNewLink_of_slot (congrArg (·.2.slot) stale)⟩
    | drop =>
      rcases t.session.drop_cases with ⟨same, none⟩ | ⟨link, inSlot, newest, dropped⟩
      · exact .inl ⟨same, noNewLink_of_none none⟩
      · exact .inr (.inr ⟨⟨link, inSlot, newest⟩, dropped⟩)
    | useShellStat =>
      refine .inl ⟨rfl, fun link inSlot => ?_⟩
      obtain ⟨old, was, rfl⟩ := Option.map_eq_some_iff.1 inSlot
      exact ⟨old, true, was, rfl⟩
    | hold | release | schedule | current | status => exact .inl ⟨rfl, noNewLink_of_slot rfl⟩

theorem Step.generation_le (s : Step t e u) :
    t.session.status.generation ≤ u.session.status.generation := by
  cases demands : e.demand? with
  | some d =>
    obtain ⟨next, ⟨_, _, _, _, after⟩ | ⟨_, _, after⟩⟩ := s.of_demand demands
    all_goals
      rw [after]
      exact next ▸ Nat.le_succ _
  | none =>
    rcases s.cases_of_quiet demands with ⟨same, -⟩ | ⟨i, o, -, after⟩ | ⟨-, after⟩
    · exact Nat.le_of_eq (congrArg (·.generation) same).symm
    · have kept : u.session.status.generation = t.session.status.generation := by
        rw [after, install_generation]
      exact Nat.le_of_eq kept.symm
    · rw [after]
      exact Nat.le_succ _

theorem Step.of_section {x : Section} {r : x.Reply} (s : Step t (.answered i (.session x) r) u) :
    r = (x.answer t.session).1 ∧ u.session = (x.answer t.session).2 := by
  rcases s.session_cases with ⟨-, outside⟩ | ⟨j, y, same, after, -⟩
  · exact absurd trivial outside
  · cases same
    exact ⟨rfl, after⟩

theorem Step.of_look {link : Link} (s : Step t (.answered i (.session .current) (some link)) u) :
    t.session.slot = some link ∧ u.session = t.session := by
  obtain ⟨reply, after⟩ := s.of_section
  exact ⟨(Option.filter_eq_some_iff.1 reply.symm).1, after⟩

theorem attempt?_of_quiet {g : Nat} (quiet : e.demand? = none)
    (pending : (roleOf i (e :: h)).attempt? = some g) : (roleOf i h).attempt? = some g := by
  cases e with
  | answered j q r =>
    by_cases here : j = i
    · subst here
      rw [roleOf_heard] at pending
      rcases Role.attempt?_of_after pending with before | ⟨c, x, asked⟩
      · exact before
      · cases asked
        cases quiet
    · rwa [roleOf_other (Ne.symm here)] at pending
  | _ => exact pending

/-- What holds while the newest request is the connect `d`, which wants `c`. -/
structure Pursues (d : Demand) (c : Connection) (h : List Event) (t : Traffic) : Prop where
  role : d.Pursued c h (roleOf d.caller h)
  unique : ∀ i, (roleOf i h).attempt? = some d.generation → i = d.caller
  config : t.session.status.config = some c
  newest : t.session.status.phase ≠ .disconnected → t.session.status.generation = d.generation
  pending : (roleOf d.caller h).attempt? = some d.generation →
    t.session.status.generation = d.generation
  opened : ∀ link, t.session.slot = some link → link.generation = d.generation →
    ∃ old b, .answered d.caller (.opening c d.generation) (some (.ok old)) ∈ h ∧
      link = { old with shellStat := b }

theorem attempt?_of_install {g : Nat} {o : Except ConnectError Link} {r : Installed}
    (p : Plays h t) (s : Step t (.answered i (.session (.install g o)) r) u) :
    (roleOf i h).attempt? = some g := by
  rw [Role.eq_settling (p.allows s)]
  rfl

theorem Pursues.of_install {c : Connection} {o : Except ConnectError Link} {r : Installed}
    (w : Pursues d c h t) (p : Plays h t) (a : Agrees (roleOf · h) t.session)
    (s : Step t (.answered i (.session (.install t.session.status.generation o)) r) u) :
    t.session.status.generation = d.generation ∧ i = d.caller := by
  have pending := attempt?_of_install p s
  have connecting := a.connecting.2 ⟨i, pending⟩
  have newest := w.newest (by simp [connecting])
  exact ⟨newest, w.unique i (newest ▸ pending)⟩

theorem Pursues.step {c : Connection} (w : Pursues d c h t) (p : Plays h t)
    (a : Agrees (roleOf · h) t.session) (s : Step t e u) (quiet : e.demand? = none) :
    Pursues d c (e :: h) u where
  role := by
    by_cases heard : e.Answers d.caller
    · cases e with
      | answered i q r =>
        cases (show i = d.caller from heard)
        rw [roleOf_heard]
        refine w.role.after (p.allows s) fun o link late => ?_
        cases late
        have newest := w.pending (attempt?_of_install p s)
        have reply := s.of_section.1
        rw [← newest] at reply
        exact absurd reply.symm (t.session.install_newest_ne_stale o link)
      | _ => exact heard.elim
    · rw [roleOf_quiet h heard]
      exact w.role.mono e
  unique i taken := w.unique i (attempt?_of_quiet quiet taken)
  config := by
    rcases s.cases_of_quiet quiet with ⟨same, -⟩ | ⟨i, o, -, after⟩ | ⟨-, after⟩
    · rw [same, w.config]
    · rw [after, install_config, w.config]
    · rw [after, w.config]
  newest connected := by
    rcases s.cases_of_quiet quiet with ⟨same, -⟩ | ⟨i, o, rfl, after⟩ | ⟨-, after⟩
    · rw [same] at connected ⊢
      exact w.newest connected
    · rw [after, install_generation]
      exact (w.of_install p a s).1
    · rw [after] at connected
      exact absurd rfl connected
  pending taken := by
    have before := attempt?_of_quiet quiet taken
    have newest := w.pending before
    rcases s.cases_of_quiet quiet with ⟨same, -⟩ | ⟨i, o, rfl, after⟩ | ⟨inSlot, -⟩
    · rw [same, newest]
    · rw [after, install_generation, newest]
    · have connecting := a.connecting.2 ⟨d.caller, newest ▸ before⟩
      rw [a.connected.2 inSlot] at connecting
      cases connecting
  opened link inSlot newest := by
    have earlier : ∀ old, t.session.slot = some old → old.generation = d.generation →
        ∃ first b, .answered d.caller (.opening c d.generation) (some (.ok first)) ∈ e :: h ∧
          old = { first with shellStat := b } := by
      intro old was number
      obtain ⟨first, b, opened, same⟩ := w.opened old was number
      exact ⟨first, b, List.mem_cons_of_mem e opened, same⟩
    rcases s.cases_of_quiet quiet with ⟨-, noNew⟩ | ⟨i, o, rfl, after⟩ | ⟨-, after⟩
    · obtain ⟨old, b, was, rfl⟩ := noNew link inSlot
      obtain ⟨first, b', opened, rfl⟩ := earlier old was newest
      exact ⟨first, b, opened, rfl⟩
    · obtain ⟨current, rfl⟩ := w.of_install p a s
      cases o with
      | ok fresh =>
        rw [after, install_newest] at inSlot
        cases inSlot
        have role := w.role
        rw [Role.eq_settling (p.allows s)] at role
        exact ⟨link, link.shellStat, List.mem_cons_of_mem _ (current ▸ role.2 link rfl), rfl⟩
      | error failure =>
        rw [after, install_newest_failed] at inSlot
        exact earlier link inSlot newest
    · rw [after] at inSlot
      cases inSlot

theorem roleOf_of_demand {c : Connection} (p : Plays h t) (s : Step t e u)
    (demands : e.demand? = some d) (wants : d.config = some c) :
    roleOf d.caller (e :: h) = .clearing c d.generation := by
  obtain ⟨-, ⟨c', x, wants', rfl, -⟩ | ⟨wants', -⟩⟩ := s.of_demand demands
  · cases wants.symm.trans wants'
    rw [roleOf_heard, Role.eq_idle_of_begin (p.allows s)]
    rfl
  · cases wants.symm.trans wants'

theorem Pursues.begin {c : Connection} (p : Plays h t) (a : Agrees (roleOf · h) t.session)
    (s : Step t e u) (demands : e.demand? = some d) (wants : d.config = some c) :
    Pursues d c (e :: h) u := by
  have role := roleOf_of_demand p s demands wants
  obtain ⟨next, ⟨c', x, wants', rfl, after⟩ | ⟨wants', -⟩⟩ := s.of_demand demands
  · cases wants.symm.trans wants'
    exact {
      role := by
        rw [role]
        exact ⟨rfl, rfl⟩
      unique := fun i pending => by
        by_cases other : i = d.caller
        · exact other
        · rw [roleOf_other other] at pending
          have := a.attempt_le i _ pending
          omega
      config := by rw [after]
      newest := fun _ => by rw [after]
      pending := fun _ => by rw [after]
      opened := fun link inSlot newest => by
        rw [after] at inSlot
        have := a.slot_le link inSlot
        omega }
  · cases wants.symm.trans wants'

theorem latest?_of_quiet (quiet : e.demand? = none) : latest? (e :: h) = latest? h := by
  simp [latest?, quiet]

theorem latest?_of_demand (demands : e.demand? = some d) : latest? (e :: h) = some d := by
  simp [latest?, demands]

theorem Run.pursues {c : Connection} (run : Run h t) (latest : latest? h = some d)
    (wants : d.config = some c) : Pursues d c h t := by
  induction run with
  | refl => cases latest
  | @step h u v e path last ih =>
    have p := Run.plays path
    have a := Run.agrees path
    cases demands : e.demand? with
    | some d' =>
      cases (latest?_of_demand demands).symm.trans latest
      exact .begin p a last demands wants
    | none =>
      rw [latest?_of_quiet demands] at latest
      exact (ih latest).step p a last demands

theorem Run.disconnected (run : Run h t)
    (latest : ∀ d, latest? h = some d → d.config = none) :
    t.session.status.phase = .disconnected := by
  induction run with
  | refl => rfl
  | @step h u v e path last ih =>
    cases demands : e.demand? with
    | some d =>
      have wants := latest d (latest?_of_demand demands)
      obtain ⟨-, ⟨_, _, wants', -⟩ | ⟨-, -, after⟩⟩ := last.of_demand demands
      · rw [wants] at wants'
        cases wants'
      · rw [after]
    | none =>
      rw [latest?_of_quiet demands] at latest
      have before := ih latest
      rcases last.cases_of_quiet demands with ⟨same, -⟩ | ⟨i, o, rfl, -⟩ | ⟨-, after⟩
      · rw [same, before]
      · have pending := attempt?_of_install (Run.plays path) last
        rw [(Run.agrees path).connecting.2 ⟨i, pending⟩] at before
        cases before
      · rw [after]

theorem Plays.present (p : Plays h t) (begun : roleOf i h ≠ .idle) :
    ∃ c, t.callers[i]? = some c := by
  have within : i < t.callers.length := Nat.lt_of_not_le fun absent => begun (p.absent i absent)
  exact ⟨_, List.getElem?_eq_getElem within⟩

theorem Plays.done_of_finished (p : Plays h t) (finished : roleOf i h = .finished) :
    Done t i := by
  obtain ⟨c, present⟩ := p.present (i := i) (by rw [finished]; exact nofun)
  have keeps := p.keeps i c present
  cases rest : c.rest with
  | done a => exact ⟨c, a, present, rest⟩
  | ask q next =>
    rw [rest, finished] at keeps
    exact keeps.1.elim

theorem Plays.mayEnd_of_done (p : Plays h t) (done : Done t i) : (roleOf i h).MayEnd := by
  obtain ⟨c, a, present, rest⟩ := done
  have keeps := p.keeps i c present
  rw [rest] at keeps
  exact keeps.1

/-- The newest request decides: a disconnect keeps the session disconnected; a connect has its own
connection configured, is under way exactly while the session is connecting, and has opened the
link of a connected session. -/
def DecidedBy (d : Demand) (h : List Event) (t : Traffic) : Prop :=
  match d.config with
  | none => t.session.status.phase = .disconnected
  | some c => t.session.status.config = some c ∧
    (t.session.status.phase = .connecting ↔ ¬ Done t d.caller) ∧
    (t.session.status.phase = .connected → ∃ link b,
      .answered d.caller (.opening c d.generation) (some (.ok link)) ∈ h ∧
        t.session.slot = some { link with shellStat := b })

theorem Pursues.connecting_iff {c : Connection} (w : Pursues d c h t) (p : Plays h t)
    (a : Agrees (roleOf · h) t.session) :
    t.session.status.phase = .connecting ↔ ¬ Done t d.caller := by
  constructor
  · intro connecting done
    obtain ⟨i, pending⟩ := a.connecting.1 connecting
    have newest := w.newest (by simp [connecting])
    cases w.unique i (newest ▸ pending)
    exact Role.not_mayEnd_of_attempt? pending (p.mayEnd_of_done done)
  · intro unfinished
    rcases w.role.pending_or_finished with pending | finished
    · exact a.connecting.2 ⟨d.caller, w.pending pending ▸ pending⟩
    · exact absurd (p.done_of_finished finished) unfinished

theorem Run.decided (run : Run h t) (latest : latest? h = some d) : DecidedBy d h t := by
  unfold DecidedBy
  split
  · rename_i wants
    refine run.disconnected fun d' latest' => ?_
    cases latest.symm.trans latest'
    exact wants
  · rename_i c wants
    have w := run.pursues latest wants
    have a := run.agrees
    refine ⟨w.config, w.connecting_iff run.plays a, fun connected => ?_⟩
    obtain ⟨link, inSlot, number⟩ := a.connected.1 connected
    have newest := w.newest (by simp [connected])
    obtain ⟨old, b, opened, rfl⟩ := w.opened link inSlot (number.trans newest)
    exact ⟨old, b, opened, inSlot⟩

end Traffic

end RemoteTags.Session
