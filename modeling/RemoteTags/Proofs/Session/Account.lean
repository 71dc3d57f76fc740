import RemoteTags.Proofs.Session.Lifecycle

/-! Every link that has been dialled is accounted for. A step leaves it where it is, or hands it to
another place, or closes it; only an open that has been left alone gives it up. For the slot this
rests on the numbers: an attempt that may fill it has emptied it before, and no other one could
have filled it since. -/

namespace RemoteTags.Session

namespace Role

variable {ρ : Role} {q : Action}

def swept? : Role → Option Nat
  | retiring _ g _ | opening _ g | settling g _ => some g
  | _ => none

def Patient : Role → Prop
  | idle | clearing _ _ | retiring _ _ _ | opening _ _ => True
  | _ => False

theorem attempt?_of_swept? {g : Nat} (swept : ρ.swept? = some g) : ρ.attempt? = some g := by
  cases ρ <;> simp_all [swept?, attempt?]

theorem swept?_of_after {r : q.Reply} {g : Nat} (swept : (ρ.after q r).swept? = some g) :
    ρ.swept? = some g ∨ (∃ c, ρ = .clearing c g) ∧ ∃ n, q = .session (.takeOlder n) := by
  fun_cases Role.after ρ q r <;> simp_all [after, swept?]

theorem patient_of_after {r : q.Reply} (patient : (ρ.after q r).Patient) : ρ.Patient := by
  fun_cases Role.after ρ q r <;> simp_all [after, Patient]

theorem eq_opening {c : Connection} {g : Nat} (allowed : ρ.Allows (.opening c g)) :
    ρ = .opening c g := by
  cases ρ with
  | opening d n => rw [allowed.1, allowed.2]
  | _ => exact allowed.elim

theorem not_patient_of_opening {c : Connection} {g : Nat} (allowed : ρ.Allows (.opening c g))
    (r : Option (Except ConnectError Link)) : ¬ (ρ.after (.opening c g) r).Patient := by
  rw [eq_opening allowed]
  match r with
  | none | some (.error _) | some (.ok _) => exact id

theorem of_after_dropping {r : q.Reply} (dropping : ρ.after q r = .dropping)
    (other : ρ ≠ .dropping) (allowed : ρ.Allows q) :
    ∃ link, ρ = .broken link ∧ q = .remote (.close link.id) := by
  fun_cases Role.after ρ q r
  case case23 link k r =>
    cases k with
    | close id => exact ⟨link, rfl, by rw [show id = link.id from allowed]⟩
    | _ => exact allowed.elim
  all_goals simp_all [after]

theorem asks_of_owned? {link : Link} (owns : ρ.owned? = some link) (allowed : ρ.Allows q) :
    q = .remote (.close link.id) ∨
      ∃ g, ρ = .settling g (some link) ∧ q = .session (.install g (.ok link)) := by
  cases ρ with
  | retiring c g own =>
    cases owns
    exact .inl (allows_retiring allowed)
  | dismissing own =>
    cases owns
    exact .inl (allows_dismissing allowed)
  | shutting own =>
    cases owns
    cases q with
    | remote k =>
      cases k with
      | close id => exact .inl (by rw [show id = link.id from allowed])
      | _ => exact allowed.elim
    | _ => exact allowed.elim
  | settling g own =>
    cases (show own = some link from owns)
    obtain ⟨o, rfl, opened⟩ := allows_settling allowed
    cases o with
    | ok fresh =>
      cases opened
      exact .inr ⟨g, rfl, rfl⟩
    | error e => cases opened
  | _ => cases owns

end Role

theorem takeOlder_slot {s : Session} {g : Nat} {link : Link}
    (inSlot : (s.takeOlder g).2.slot = some link) : g ≤ link.generation := by
  unfold takeOlder at inSlot
  split at inSlot
  · rename_i old was
    split at inSlot
    · cases inSlot
    · cases was.symm.trans inSlot
      omega
  · rename_i empty
    cases empty.symm.trans inSlot

theorem linkOf_of_ownedBy {k : Remote.Call} {next : k.Reply → Opener} {l : Remote.LinkId} {a : Life}
    (owns : ownedBy (.ask k next) = some (l, a)) (r : k.Reply) : linkOf k r = some l := by
  cases k with
  | home | close =>
    cases owns
    rfl
  | _ => cases owns

namespace Traffic

variable {t u : Traffic} {h : List Event} {e : Event} {i j : Nat} {l : Remote.LinkId} {a : Life}
  {c d : Caller} {side : Side} {p : Opener} {link : Link}

/-- What is in the slot was there before, or is brought in by an attempt of the newest number. -/
theorem Step.slot_cases (s : Step t e u) (inSlot : u.session.slot = some link) :
    (∃ old b, t.session.slot = some old ∧ link = { old with shellStat := b }) ∨
      ∃ i, e = .answered i (.session (.install t.session.status.generation (.ok link)))
        .connected := by
  cases demands : e.demand? with
  | some d =>
    refine .inl ⟨link, link.shellStat, ?_, rfl⟩
    obtain ⟨-, ⟨_, _, -, -, after⟩ | ⟨-, -, after⟩⟩ := s.of_demand demands
    all_goals
      rw [after] at inSlot
      exact inSlot
  | none =>
    rcases s.cases_of_quiet demands with ⟨-, noNew⟩ | ⟨i, o, rfl, after⟩ | ⟨-, after⟩
    · exact .inl (noNew link inSlot)
    · rw [after] at inSlot
      cases o with
      | ok fresh =>
        rw [install_newest] at inSlot
        cases inSlot
        exact .inr ⟨i, by rw [install_newest]⟩
      | error e =>
        rw [install_newest_failed] at inSlot
        exact .inl ⟨link, link.shellStat, inSlot, rfl⟩
    · rw [after] at inSlot
      cases inSlot

/-- An attempt that has looked for an older link finds none from then on. -/
def Swept (h : List Event) (t : Traffic) : Prop :=
  ∀ i g, (roleOf i h).swept? = some g → ∀ link, t.session.slot = some link → g ≤ link.generation

theorem Swept.step (w : Swept h t) (p : Plays h t) (a : Agrees (roleOf · h) t.session)
    (s : Step t e u) : Swept (e :: h) u := by
  intro i g swept link inSlot
  have kept : (roleOf i h).swept? = some g → g ≤ link.generation := by
    intro before
    rcases s.slot_cases inSlot with ⟨old, b, was, rfl⟩ | ⟨j, rfl⟩
    · exact w i g before old was
    · have settles := Role.eq_settling (p.allows s)
      have fresh : (roleOf j h).fresh? = some link := by rw [settles]; rfl
      have pending : (roleOf j h).attempt? = some t.session.status.generation := by
        rw [settles]; rfl
      have newest := Option.some.inj ((a.fresh_eq j link fresh).symm.trans pending)
      exact newest ▸ a.attempt_le i g (Role.attempt?_of_swept? before)
  by_cases heard : e.Answers i
  · cases e with
    | answered k q r =>
      cases (show k = i from heard)
      rw [roleOf_heard] at swept
      rcases Role.swept?_of_after swept with before | ⟨⟨c, clearing⟩, n, rfl⟩
      · exact kept before
      · have same := p.allows s
        rw [clearing] at same
        cases (show n = g from same)
        exact takeOlder_slot (s.of_section.2 ▸ inSlot)
    | _ => exact heard.elim
  · exact kept (roleOf_quiet h heard ▸ swept)

theorem Run.swept (run : Run h t) : Swept h t := by
  induction run with
  | refl => exact fun i g swept => nomatch swept
  | step path last ih => exact ih.step (Run.plays path) (Run.agrees path) last

theorem Step.stray_before (s : Step t e u) (there : u.callers[j]? = some d)
    (strays : d.stray ≠ none) :
    (∃ c, t.callers[j]? = some c ∧ c.stray ≠ none) ∨
      ∃ q g, e = .answered j (.opening q g) none := by
  have one : ∀ {i : Nat} {c' : Caller} {new : List Caller},
      u.callers = t.callers.set i c' ++ new → (∀ f ∈ new, ∃ r, f = Caller.start r) →
      (c'.stray ≠ none → (∃ c, t.callers[i]? = some c ∧ c.stray ≠ none) ∨
        ∃ q g, e = .answered i (.opening q g) none) →
      (∃ c, t.callers[j]? = some c ∧ c.stray ≠ none) ∨
        ∃ q g, e = .answered j (.opening q g) none := by
    intro i c' new came starts here
    rw [came] at there
    rcases get?_set_append there with ⟨rfl, rfl, -⟩ | ⟨-, was⟩ | ⟨-, isNew⟩
    · exact here strays
    · exact .inl ⟨d, was, strays⟩
    · obtain ⟨r, rfl⟩ := starts d isNew
      exact absurd rfl strays
  have nobody : ∀ {cs : List Caller}, cs = cs ++ [] := (List.append_nil _).symm
  cases s with
  | arrive r _ =>
    rw [List.getElem?_append] at there
    split at there
    · exact .inl ⟨d, there, strays⟩
    · cases List.mem_singleton.1 (List.mem_of_getElem? there)
      exact absurd rfl strays
  | @run _ _ x _ present =>
    exact one rfl (starts_followers (.session x)) fun strays => .inl ⟨_, present, strays⟩
  | call present | launch present | proceed present | opened present =>
    exact one nobody nofun fun strays => .inl ⟨_, present, strays⟩
  | expire present => exact one nobody nofun fun _ => .inr ⟨_, _, rfl⟩
  | stray present asks => exact one nobody nofun fun _ => .inl ⟨_, present, by simp [asks]⟩
  | discard present => exact one nobody nofun fun strays => absurd rfl strays

theorem Run.not_patient (run : Run h t) (present : t.callers[i]? = some c)
    (strays : c.stray ≠ none) : ¬ (roleOf i h).Patient := by
  intro patient
  induction run generalizing c with
  | refl => cases present
  | @step h t u e path last ih =>
    rcases last.stray_before present strays with ⟨c', was, strays'⟩ | ⟨q, g, rfl⟩
    · refine ih was strays' ?_
      by_cases heard : e.Answers i
      · cases e with
        | answered k q r =>
          cases (show k = i from heard)
          rw [roleOf_heard] at patient
          exact Role.patient_of_after patient
        | _ => exact heard.elim
      · exact roleOf_quiet h heard ▸ patient
    · rw [roleOf_heard] at patient
      exact Role.not_patient_of_opening ((Run.plays path).allows last) none patient

theorem Run.told (run : Run h t) (present : t.callers[i]? = some c) (strays : c.stray ≠ none) :
    ∃ q g, .answered i (.opening q g) none ∈ h := by
  induction run generalizing c with
  | refl => cases present
  | @step h t u e path last ih =>
    rcases last.stray_before present strays with ⟨c', was, strays'⟩ | ⟨q, g, rfl⟩
    · obtain ⟨q, g, told⟩ := ih was strays'
      exact ⟨q, g, List.mem_cons_of_mem e told⟩
    · exact ⟨q, g, List.mem_cons_self⟩

/-- The link was given up: the open that ended with it had been left alone. -/
def Discarded (l : Remote.LinkId) (h : List Event) : Prop :=
  ∃ i link, link.id = l ∧ .discarded i (.ok link) ∈ h

/-- Link `l` has been closed, or is somewhere, or has been given up. -/
def Accounted (l : Remote.LinkId) (h : List Event) (t : Traffic) : Prop :=
  lifeOf l h = .closed ∨ (∃ x a, Has h t x l a) ∨ Discarded l h

theorem accounted_of_close {r : Remote.Attempt Unit} (calls : e.call? = some ⟨.close l, r⟩) :
    Accounted l (e :: h) t :=
  .inl (lifeOf_call (Event.callOn?_eq calls rfl))

theorem Run.slot_of_install {o : Except ConnectError Link} {r : Installed} (run : Run h t)
    (s : Step t (.answered i (.session (.install t.session.status.generation o)) r) u)
    (link : Link) : t.session.slot ≠ some link := by
  intro inSlot
  have settles := Role.eq_settling (run.plays.allows s)
  have pending : (roleOf i h).attempt? = some t.session.status.generation := by
    rw [settles]
    rfl
  have least := run.swept i _ (by rw [settles]; rfl) link inSlot
  have most := run.agrees.slot_le link inSlot
  have same := Nat.le_antisymm least most
  exact run.agrees.slot_ne link i inSlot (pending.trans (congrArg some same))

theorem Step.free_of_waits {x : Section} {r : x.Reply}
    (s : Step t (.answered i (.session x) r) u) (waits : x.waits = true) :
    t.session.held = false := by
  rcases s.session_cases with ⟨-, outside⟩ | ⟨_, _, same, -, free⟩
  · exact absurd trivial outside
  · cases same
    rwa [waits, Bool.true_and] at free

theorem Manned.nobody (m : Manned h t) (free : t.session.held = false) (j : Nat) :
    ¬ (roleOf j h).Holds := by
  intro holds
  cases free.symm.trans (m.held j holds)

theorem Run.accounted_slot (run : Run h t) (s : Step t e u) (has : Has h t .slot l a) :
    Accounted l (e :: h) u := by
  have p := run.plays
  have m := run.manned
  cases has with
  | @slot link inSlot sound =>
    by_cases dropping : ∃ i, roleOf i (e :: h) = .dropping
    · obtain ⟨i, drops⟩ := dropping
      by_cases heard : e.Answers i
      · cases e with
        | answered k q r =>
          cases (show k = i from heard)
          rw [roleOf_heard] at drops
          obtain ⟨own, broken, rfl⟩ := Role.of_after_dropping drops (sound i) (p.allows s)
          obtain ⟨here, inSlot', same⟩ := m.inSlot i own (by rw [broken]; rfl)
          cases inSlot.symm.trans inSlot'
          exact same ▸ accounted_of_close rfl
        | _ => exact heard.elim
      · exact absurd (roleOf_quiet h heard ▸ drops) (sound i)
    · have stays : ∀ here : Link, u.session.slot = some here → here.id = link.id →
          Accounted link.id (e :: h) u := fun here there same =>
        .inr (.inl ⟨.slot, .live, same ▸ .slot there fun i drops => dropping ⟨i, drops⟩⟩)
      rcases s.session_cases with ⟨same, -⟩ | ⟨i, y, rfl, after, free⟩
      · exact stays link (same ▸ inSlot) rfl
      · have allowed := p.allows s
        cases waits : y.waits with
        | false =>
          have other : y ≠ .drop := by
            rintro rfl
            exact sound i (Role.eq_dropping allowed)
          obtain ⟨here, there, same⟩ := answer_slot waits other inSlot
          exact stays here (after ▸ there) same
        | true =>
          cases y with
          | takeOlder g =>
            rcases t.session.takeOlder_eq g with kept | ⟨old, was, taken⟩
            · exact stays link (by rw [after, Section.answer, kept, inSlot]) rfl
            · cases inSlot.symm.trans was
              refine .inr (.inl ⟨.caller i, .live, .caller ?_⟩)
              rw [roleOf_heard, Role.owned?_taken allowed, Section.answer, taken]
          | install g o =>
            refine stays link ?_ rfl
            by_cases newest : t.session.status.generation = g
            · subst newest
              cases o with
              | ok fresh => exact absurd inSlot (run.slot_of_install s link)
              | error failure => rw [after, Section.answer, install_newest_failed, inSlot]
            · rw [after, Section.answer, t.session.install_of_ne newest o, inSlot]
          | hold => exact stays link (by rw [after]; exact inSlot) rfl
          | _ => cases waits

theorem Run.accounted_caller (run : Run h t) (s : Step t e u)
    (owns : (roleOf i h).owned? = some link) : Accounted link.id (e :: h) u := by
  have p := run.plays
  by_cases heard : e.Answers i
  · cases e with
    | answered k q r =>
      cases (show k = i from heard)
      rcases Role.asks_of_owned? owns (p.allows s) with rfl | ⟨g, settles, rfl⟩
      · exact accounted_of_close rfl
      · obtain ⟨reply, after⟩ := s.of_section
        by_cases newest : t.session.status.generation = g
        · subst newest
          rw [Section.answer, install_newest] at after
          refine .inr (.inl ⟨.slot, .live, .slot (by rw [after]) fun j drops => ?_⟩)
          have holds := (congrArg Role.Holds drops).mpr trivial
          rcases holds_of_step holds with before | ⟨-, asked⟩
          · exact run.manned.nobody (s.free_of_waits rfl) j before
          · cases asked
        · have stale := t.session.install_of_ne newest (.ok link)
          rw [Section.answer, stale] at reply
          subst reply
          refine .inr (.inl ⟨.caller i, .live, .caller ?_⟩)
          rw [roleOf_heard, Role.owned?_stale (p.allows s)]
          rfl
    | _ => exact heard.elim
  · exact .inr (.inl ⟨.caller i, .live, .caller (roleOf_quiet h heard ▸ owns)⟩)

theorem Tended.accounted (side : Side) {k : Remote.Call} {r : k.Reply} {next : k.Reply → Opener}
    (n : Tended t) (present : t.callers[i]? = some c) (asks : c.opens side = some (.ask k next))
    (calls : e.call? = some ⟨k, r⟩) (on : linkOf k r = some l) (there : u.callers[i]? = some d)
    (goesOn : d.opens side = some (next r)) : Accounted l (e :: h) u := by
  obtain ⟨stage, allowed, goes⟩ := n i c side _ present asks
  have owns := ownedBy_of_tends (goes r)
  match stage, k, allowed, r with
  | .dialling, .dial _, _, .ok m =>
    cases (show some m = some l from on)
    exact .inr (.inl ⟨_, _, .opener side there goesOn owns⟩)
  | .dialling, .dial _, _, .error _ => cases on
  | .asking m, .home _, rfl, _ =>
    cases on
    exact .inr (.inl ⟨_, _, .opener side there goesOn owns⟩)
  | .ending m, .close _, rfl, _ =>
    cases on
    exact accounted_of_close calls

/-- What becomes of an open of caller `i`, in one step. -/
inductive Becomes (e : Event) (u : Traffic) (i : Nat) : Side → Opener → Prop where
  | same {d : Caller} {side : Side} {p : Opener} (there : u.callers[i]? = some d)
      (opens : d.opens side = some p) : Becomes e u i side p
  | goesOn {d : Caller} {side : Side} {k : Remote.Call} {next : k.Reply → Opener} (r : k.Reply)
      (calls : e.call? = some ⟨k, r⟩) (there : u.callers[i]? = some d)
      (opens : d.opens side = some (next r)) : Becomes e u i side (.ask k next)
  | heard {q : Connection} {g : Nat} {o : Except ConnectError Link}
      (told : e = .answered i (.opening q g) (some o)) : Becomes e u i .awaited (.done o)
  | left {d : Caller} {q : Connection} {g : Nat} {p : Opener}
      (told : e = .answered i (.opening q g) none) (there : u.callers[i]? = some d)
      (strays : d.stray = some p) : Becomes e u i .awaited p
  -- Another open is left alone in its place.
  | replaced {q : Connection} {g : Nat} {p : Opener}
      (told : e = .answered i (.opening q g) none) : Becomes e u i .stray p
  | discarded {o : Except ConnectError Link} (gone : e = .discarded i o) :
      Becomes e u i .stray (.done o)

theorem Step.becomes (s : Step t e u) (present : t.callers[i]? = some c)
    (opens : c.opens side = some p) : Becomes e u i side p := by
  by_cases own : i = e.caller
  · subst own
    cases s with
    | arrive => exact .same (get?_append present) opens
    | run present' =>
      cases present.symm.trans present'
      exact .same (get?_append (get?_set present)) (by cases side <;> exact opens)
    | call present' =>
      cases present.symm.trans present'
      exact .same (get?_set present) (by cases side <;> exact opens)
    | launch present' asks idle =>
      cases present.symm.trans present'
      cases side with
      | awaited => cases idle.symm.trans opens
      | stray => exact .same (get?_set present) opens
    | proceed present' asks r =>
      cases present.symm.trans present'
      cases side with
      | awaited =>
        cases opens.symm.trans asks
        exact .goesOn r rfl (get?_set present) rfl
      | stray => exact .same (get?_set present) opens
    | opened present' asks ended =>
      cases present.symm.trans present'
      cases side with
      | awaited =>
        cases opens.symm.trans ended
        exact .heard rfl
      | stray => exact .same (get?_set present) opens
    | expire present' asks running =>
      cases present.symm.trans present'
      cases side with
      | awaited =>
        cases opens.symm.trans running
        exact .left rfl (get?_set present) rfl
      | stray => exact .replaced rfl
    | stray present' asks r =>
      cases present.symm.trans present'
      cases side with
      | awaited => exact .same (get?_set present) opens
      | stray =>
        cases opens.symm.trans asks
        exact .goesOn r rfl (get?_set present) rfl
    | discard present' ended =>
      cases present.symm.trans present'
      cases side with
      | awaited => exact .same (get?_set present) opens
      | stray =>
        cases opens.symm.trans ended
        exact .discarded rfl
  · exact .same (s.still own present) opens

theorem Run.stray_eq_none {q : Connection} {g : Nat} {r : Option (Except ConnectError Link)}
    (run : Run h t) (s : Step t (.answered i (.opening q g) r) u)
    (present : t.callers[i]? = some c) : c.stray = none := by
  have patient : (roleOf i h).Patient := by
    rw [Role.eq_opening (run.plays.allows s)]
    trivial
  cases strays : c.stray with
  | none => rfl
  | some f => exact absurd patient (run.not_patient present (by rw [strays]; exact nofun))

theorem Run.accounted_opener (run : Run h t) (s : Step t e u) (present : t.callers[i]? = some c)
    (opens : c.opens side = some p) (owns : ownedBy p = some (l, a)) : Accounted l (e :: h) u := by
  cases s.becomes present opens with
  | same there opens' => exact .inr (.inl ⟨_, a, .opener side there opens' owns⟩)
  | goesOn r calls there goesOn =>
    exact run.tended.accounted side present opens calls (linkOf_of_ownedBy owns r) there goesOn
  | @heard _ _ o told =>
    subst told
    cases o with
    | ok link =>
      cases owns
      refine .inr (.inl ⟨.caller i, .live, .caller ?_⟩)
      rw [roleOf_heard, Role.owned?_opened (run.plays.allows s)]
      rfl
    | error failure => cases owns
  | left told there strays => exact .inr (.inl ⟨_, a, .opener .stray there strays owns⟩)
  | replaced told =>
    subst told
    cases (run.stray_eq_none s present).symm.trans opens
  | @discarded o gone =>
    subst gone
    cases o with
    | ok link =>
      cases owns
      exact .inr (.inr ⟨i, link, rfl, List.mem_cons_self⟩)
    | error failure => cases owns

theorem Plays.not_dial {q : Connection} {r : Except ConnectError Remote.LinkId} (p : Plays h t) :
    ¬ Step t (.answered i (.remote (.dial q)) r) u := by
  intro s
  rcases Role.allows_remote (p.allows s) with ⟨_, -, ⟨⟩, -⟩ | ⟨_, -, -, op | ⟨⟨⟩, -⟩⟩
  exact op

theorem Run.has_of_callOn? {k : Remote.Call} (run : Run h t) (s : Step t e u)
    (calls : e.callOn? l = some k) :
    (∃ x a, Has h t x l a ∧ a.Allows l k) ∨ lifeOf l h = .unborn ∧ ∃ c, k = .dial c := by
  rcases s.inFlight run.plays calls with ⟨x, flies, on⟩ | ⟨dials, rfl⟩
  · obtain ⟨y, a, has, allowed, -⟩ := run.manned.exists_has run.tended run.plays flies on
    exact .inl ⟨y, a, has, allowed⟩
  · exact .inr ⟨run.owned.unborn _ (Nat.le_refl _), dials⟩

theorem of_callOn? {k k' : Remote.Call} {r : k'.Reply} (made : e.call? = some ⟨k', r⟩)
    (calls : e.callOn? l = some k) : k' = k ∧ linkOf k' r = some l := by
  simp only [Event.callOn?, made, Option.bind_some] at calls
  split at calls
  · rename_i on
    exact ⟨Option.some.inj calls, on⟩
  · cases calls

theorem Run.accounted_dial {k : Remote.Call} (run : Run h t) (s : Step t e u)
    (unborn : lifeOf l h = .unborn) (calls : e.callOn? l = some k) : Accounted l (e :: h) u := by
  rcases run.has_of_callOn? s calls with ⟨x, a, has, -⟩ | ⟨-, c, rfl⟩
  · exact absurd ((run.owned.lives x l a has).symm.trans unborn) has.born
  · have step := s
    cases s with
    | call present asks r =>
      obtain ⟨rfl, -⟩ := of_callOn? rfl calls
      exact absurd step run.plays.not_dial
    | proceed present asks r =>
      exact run.tended.accounted .awaited present asks rfl (of_callOn? rfl calls).2
        (get?_set present) rfl
    | stray present asks r =>
      exact run.tended.accounted .stray present asks rfl (of_callOn? rfl calls).2
        (get?_set present) rfl
    | _ => cases calls

theorem Run.accounted (run : Run h t) (born : lifeOf l h ≠ .unborn) : Accounted l h t := by
  induction run with
  | refl => exact absurd rfl born
  | @step h t u e path last ih =>
    by_cases unborn : lifeOf l h = .unborn
    · cases calls : e.callOn? l with
      | none => exact absurd ((lifeOf_quiet calls).trans unborn) born
      | some k => exact Run.accounted_dial path last unborn calls
    · rcases ih unborn with closed | ⟨x, a, has⟩ | ⟨i, link, same, discarded⟩
      · refine .inl ?_
        cases calls : e.callOn? l with
        | none => rw [lifeOf_quiet calls, closed]
        | some k =>
          rcases Run.has_of_callOn? path last calls with ⟨x, a, has, allowed⟩ | ⟨new, -⟩
          · cases closed.symm.trans ((Run.owned path).lives x l a has)
            exact allowed.elim
          · exact absurd new unborn
      · cases x with
        | slot => exact Run.accounted_slot path last has
        | caller i =>
          cases has with
          | caller owns => exact Run.accounted_caller path last owns
        | opener i side =>
          cases has with
          | opener _ present opens owns => exact Run.accounted_opener path last present opens owns
      · exact .inr (.inr ⟨i, link, same, List.mem_cons_of_mem e discarded⟩)

end Traffic

end RemoteTags.Session
