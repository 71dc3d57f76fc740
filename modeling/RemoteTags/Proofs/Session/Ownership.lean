import RemoteTags.Proofs.Session.Life

/-! Who has a link. At any time an open link is in one place: in the slot, with a caller that is to
close it or to bring it in, or with an open that is under way. It is called from there only, so
that its calls follow its life. -/

namespace RemoteTags.Session

inductive Place where
  | slot
  | caller (i : Nat)
  | opener (i : Nat) (s : Side)
deriving DecidableEq

namespace Traffic

variable {t u : Traffic} {h : List Event} {e : Event} {i j : Nat}

/-- Who has link `l`, and the life of the link that fits. -/
inductive Has (h : List Event) (t : Traffic) : Place → Remote.LinkId → Life → Prop where
  -- A link that is about to be taken out of the slot is closed already.
  | slot {link : Link} (inSlot : t.session.slot = some link)
      (sound : ∀ i, roleOf i h ≠ .dropping) : Has h t .slot link.id .live
  | caller {i : Nat} {link : Link} (owns : (roleOf i h).owned? = some link) :
      Has h t (.caller i) link.id .live
  | opener {i : Nat} (side : Side) {c : Caller} {p : Opener} {l : Remote.LinkId} {a : Life}
      (present : t.callers[i]? = some c) (opens : c.opens side = some p)
      (owns : ownedBy p = some (l, a)) : Has h t (.opener i side) l a

theorem Has.born {x : Place} {l : Remote.LinkId} {a : Life} (has : Has h t x l a) :
    a ≠ .unborn := by
  cases has with
  | slot | caller => exact nofun
  | opener _ present opens owns =>
    unfold ownedBy at owns
    split at owns <;> cases owns <;> exact nofun

theorem Manned.has_slot {link : Link} (m : Manned h t) (uses : (roleOf i h).used? = some link) :
    Has h t .slot link.id .live := by
  obtain ⟨here, inSlot, same⟩ := m.inSlot i link uses
  refine same ▸ .slot inSlot fun j dropping => ?_
  cases m.one i j (Role.holds_of_used? uses) (dropping ▸ trivial)
  rw [dropping] at uses
  cases uses

/-- No link is in two places, and the life of each is as its place has it. -/
structure Owned (h : List Event) (t : Traffic) : Prop where
  lives : ∀ x l a, Has h t x l a → lifeOf l h = a
  unique : ∀ x y l a b, Has h t x l a → Has h t y l b → x = y
  unborn : ∀ l, t.dialled ≤ l → lifeOf l h = .unborn

section Before

variable {l : Remote.LinkId} {a : Life} {side : Side} {c d : Caller} {new : List Caller}

theorem Has.slot_before (p : Plays h t) (s : Step t e u) (has : Has (e :: h) u .slot l a)
    (kept : ∀ link, u.session.slot = some link →
      ∃ old, t.session.slot = some old ∧ old.id = link.id) : Has h t .slot l a := by
  cases has with
  | @slot link inSlot sound =>
    obtain ⟨old, was, same⟩ := kept link inSlot
    refine same ▸ .slot was fun j dropping => ?_
    by_cases heard : e.Answers j
    · cases e with
      | answered k q r =>
        cases (show k = j from heard)
        have allowed := p.allows s
        rw [dropping] at allowed
        cases Role.allows_dropping allowed
        rw [s.of_section.2] at inSlot
        dsimp only [Section.answer] at inSlot
        rcases t.session.drop_cases with ⟨-, empty⟩ | ⟨_, -, -, dropped⟩
        · rw [empty] at inSlot
          cases inSlot
        · rw [dropped] at inSlot
          cases inSlot
      | _ => exact heard
    · exact sound j (roleOf_quiet h heard ▸ dropping)

theorem Has.caller_before (has : Has (e :: h) u (.caller j) l a) (quiet : ¬ e.Answers j) :
    Has h t (.caller j) l a := by
  cases has with
  | caller owns => exact .caller (roleOf_quiet h quiet ▸ owns)

theorem Has.opener_before (has : Has (e :: h) u (.opener j side) l a)
    (came : u.callers = t.callers.set i d ++ new)
    (starts : ∀ f ∈ new, ∃ r, f = Caller.start r) :
    (j = i ∧ ∃ p, d.opens side = some p ∧ ownedBy p = some (l, a)) ∨
      (j ≠ i ∧ Has h t (.opener j side) l a) := by
  cases has with
  | opener _ there opens owns =>
    rw [came] at there
    rcases opens_of_set there opens starts with ⟨here, rfl⟩ | ⟨other, was⟩
    · exact .inl ⟨here, _, opens, owns⟩
    · exact .inr ⟨other, .opener _ was opens owns⟩

theorem Has.opener_of_set (has : Has (e :: h) u (.opener i side) l a)
    (came : u.callers = t.callers.set i d) :
    ∃ p, d.opens side = some p ∧ ownedBy p = some (l, a) := by
  rcases has.opener_before (came.trans (List.append_nil _).symm) nofun with ⟨-, now⟩ | ⟨other, -⟩
  · exact now
  · exact absurd rfl other

theorem Has.opened {q : Connection} {g : Nat} {r : Option (Except ConnectError Link)}
    (has : Has (.answered i (.opening q g) r :: h) u (.caller i) l a) (p : Plays h t)
    (s : Step t (.answered i (.opening q g) r) u) :
    ∃ link, r = some (.ok link) ∧ l = link.id ∧ a = .live := by
  cases has with
  | @caller _ link owns =>
    rw [roleOf_heard, Role.owned?_opened (p.allows s)] at owns
    match r, owns with
    | some (.ok _), rfl => exact ⟨link, rfl, rfl, rfl⟩

theorem Has.opener_of_answer {q : Action} {r : q.Reply} (s : Step t (.answered i q r) u)
    (other : ¬ AwaitsOpen q) (has : Has (.answered i q r :: h) u (.opener j side) l a) :
    Has h t (.opener j side) l a := by
  have same : ∀ {c : Caller} {p : Act c.request.Answer}, t.callers[i]? = some c →
      u.callers = t.callers.set i { c with rest := p } ++ followersOf q →
      Has h t (.opener j side) l a := by
    intro c p present came
    rcases has.opener_before came (starts_followers q) with ⟨rfl, p, opens, owns⟩ | ⟨-, before⟩
    · refine .opener _ present ?_ owns
      cases side <;> exact opens
    · exact before
  cases s with
  | run present => exact same present rfl
  | call present => exact same present (List.append_nil _).symm
  | opened | expire => exact absurd trivial other

theorem Has.not_caller {q : Action} {r : q.Reply}
    (none : ((roleOf i h).after q r).owned? = none) :
    ¬ Has (.answered i q r :: h) u (.caller i) l a := by
  intro has
  cases has with
  | caller owns =>
    rw [roleOf_heard, none] at owns
    cases owns

theorem Step.session_of_call {k : Remote.Call} {r : k.Reply}
    (s : Step t (.answered i (.remote k) r) u) : u.session = t.session := by
  cases s
  rfl

theorem Has.before_call {k : Remote.Call} {r : k.Reply} {z : Place} (p : Plays h t)
    (s : Step t (.answered i (.remote k) r) u) (other : z ≠ .caller i)
    (has : Has (.answered i (.remote k) r :: h) u z l a) : Has h t z l a := by
  cases z with
  | slot => exact has.slot_before p s fun link there => ⟨link, s.session_of_call ▸ there, rfl⟩
  | caller j =>
    refine has.caller_before ?_
    rintro (rfl : i = j)
    exact other rfl
  | opener j side => exact has.opener_of_answer s id

theorem Step.dialled_of_answer {q : Action} {r : q.Reply} (s : Step t (.answered i q r) u) :
    u.dialled = t.dialled := by
  cases s <;> rfl

end Before

namespace Owned

variable {x y : Place}

theorem pass (o : Owned h t) (quiet : ∀ l, e.callOn? l = none) (dialled : u.dialled = t.dialled)
    (there : ∀ l a, Has (e :: h) u y l a → Has h t x l a)
    (others : ∀ z l a, z ≠ y → Has (e :: h) u z l a → Has h t z l a ∧ z ≠ x) :
    Owned (e :: h) u where
  lives z l a has := by
    rw [lifeOf_quiet (quiet l)]
    by_cases here : z = y
    · subst here
      exact o.lives x l a (there l a has)
    · exact o.lives z l a (others z l a here has).1
  unique z z' l a b has has' := by
    by_cases here : z = y <;> by_cases here' : z' = y
    · exact here.trans here'.symm
    · subst here
      obtain ⟨before, other⟩ := others z' l b here' has'
      exact absurd (o.unique z' x l b a before (there l a has)) other
    · subst here'
      obtain ⟨before, other⟩ := others z l a here has
      exact absurd (o.unique z x l a b before (there l b has')) other
    · exact o.unique z z' l a b (others z l a here has).1 (others z' l b here' has').1
  unborn l new := by
    rw [lifeOf_quiet (quiet l)]
    exact o.unborn l (dialled ▸ new)

theorem less (o : Owned h t) (quiet : ∀ l, e.callOn? l = none) (dialled : u.dialled = t.dialled)
    (before : ∀ z l a, Has (e :: h) u z l a → Has h t z l a) : Owned (e :: h) u :=
  o.pass (x := .slot) (y := .slot) quiet dialled (before .slot)
    fun z l a other has => ⟨before z l a has, other⟩

theorem one (o : Owned h t) {l : Remote.LinkId} (quiet : ∀ m, m ≠ l → e.callOn? m = none)
    (there : ∀ m a, Has (e :: h) u y m a → m = l ∧ lifeOf l (e :: h) = a)
    (others : ∀ z m a, z ≠ y → Has (e :: h) u z m a → Has h t z m a ∧ m ≠ l)
    (unborn : ∀ m, u.dialled ≤ m → t.dialled ≤ m ∧ m ≠ l) : Owned (e :: h) u where
  lives z m a has := by
    by_cases here : z = y
    · subst here
      obtain ⟨rfl, life⟩ := there m a has
      exact life
    · obtain ⟨before, other⟩ := others z m a here has
      rw [lifeOf_quiet (quiet m other)]
      exact o.lives z m a before
  unique z z' m a b has has' := by
    by_cases here : z = y <;> by_cases here' : z' = y
    · exact here.trans here'.symm
    · subst here
      exact absurd (there m a has).1 (others z' m b here' has').2
    · subst here'
      exact absurd (there m b has').1 (others z m a here has).2
    · exact o.unique z z' m a b (others z m a here has).1 (others z' m b here' has').1
  unborn m new := by
    obtain ⟨new', other⟩ := unborn m new
    rw [lifeOf_quiet (quiet m other)]
    exact o.unborn m new'

theorem call {k : Remote.Call} {r : k.Reply} {l : Remote.LinkId} {a : Life} (o : Owned h t)
    (has : Has h t x l a) (calls : e.call? = some ⟨k, r⟩) (on : linkOn k = some l)
    (dialled : u.dialled = t.dialled)
    (there : ∀ m a, Has (e :: h) u x m a → m = l ∧ lifeOf l (e :: h) = a)
    (before : ∀ z m a, z ≠ x → Has (e :: h) u z m a → Has h t z m a) : Owned (e :: h) u := by
  have quiet : ∀ m, m ≠ l → e.callOn? m = none := by
    intro m other
    refine Event.callOn?_ne calls ?_
    rw [linkOf_eq on]
    exact fun same => other (Option.some.inj same).symm
  refine o.one quiet there ?_ ?_
  · intro z m b other now
    refine ⟨before z m b other now, ?_⟩
    rintro rfl
    exact other (o.unique z x _ b a (before z _ b other now) has)
  · intro m new
    rw [dialled] at new
    refine ⟨new, ?_⟩
    rintro rfl
    exact has.born ((o.lives x _ a has).symm.trans (o.unborn _ new))

theorem dial {q : Connection} (o : Owned h t) (calls : e.call? = some ⟨.dial q, .ok t.dialled⟩)
    (dialled : u.dialled = t.dialled + 1)
    (there : ∀ m a, Has (e :: h) u y m a → m = t.dialled ∧ a = .dialled)
    (before : ∀ z m a, z ≠ y → Has (e :: h) u z m a → Has h t z m a) : Owned (e :: h) u := by
  have new := o.unborn t.dialled (Nat.le_refl _)
  refine o.one (l := t.dialled) (y := y) ?_ ?_ ?_ ?_
  · exact fun m other => Event.callOn?_ne calls fun same => other (Option.some.inj same).symm
  · intro m a has
    obtain ⟨rfl, rfl⟩ := there m a has
    exact ⟨rfl, lifeOf_call (Event.callOn?_eq calls rfl)⟩
  · intro z m a other has
    have was := before z m a other has
    refine ⟨was, ?_⟩
    rintro rfl
    exact was.born ((o.lives z _ a was).symm.trans new)
  · intro m le
    rw [dialled] at le
    exact ⟨Nat.le_of_succ_le le, Nat.ne_of_gt le⟩

theorem arrive {r : Request} (o : Owned h t) (p : Plays h t)
    (s : Step t (.arrived t.callers.length) { t with callers := t.callers ++ [.start r] }) :
    Owned (.arrived t.callers.length :: h) { t with callers := t.callers ++ [.start r] } := by
  refine o.less (fun _ => rfl) rfl fun z l a has => ?_
  cases z with
  | slot => exact has.slot_before p s fun link inSlot => ⟨link, inSlot, rfl⟩
  | caller j => exact has.caller_before id
  | opener j side =>
    cases has with
    | opener _ there opens owns =>
      rw [List.getElem?_append] at there
      split at there
      · exact .opener _ there opens owns
      · cases List.mem_singleton.1 (List.mem_of_getElem? there)
        cases side <;> cases opens

theorem taken {g : Nat} {link : Link} (o : Owned h t) (m : Manned h t) (p : Plays h t)
    (s : Step t (.answered i (.session (.takeOlder g)) (some link)) u)
    (free : t.session.held = false) :
    Owned (.answered i (.session (.takeOlder g)) (some link) :: h) u := by
  obtain ⟨reply, after⟩ := s.of_section
  obtain ⟨inSlot, empty⟩ : t.session.slot = some link ∧ u.session.slot = none := by
    rw [after]
    dsimp only [Section.answer] at reply ⊢
    rcases t.session.takeOlder_eq g with kept | ⟨old, was, gone⟩
    · rw [kept] at reply
      cases reply
    · rw [gone] at reply ⊢
      cases reply
      exact ⟨was, rfl⟩
  refine o.pass (x := .slot) (y := .caller i) (fun _ => rfl) s.dialled_of_answer ?_ ?_
  · intro l a has
    cases has with
    | caller owns =>
      rw [roleOf_heard, Role.owned?_taken (p.allows s)] at owns
      cases owns
      refine .slot inSlot fun j dropping => ?_
      have held := m.held j (dropping ▸ trivial)
      rw [free] at held
      cases held
  · intro z l a other has
    cases z with
    | slot =>
      cases has with
      | slot there =>
        rw [empty] at there
        cases there
    | caller j =>
      refine ⟨has.caller_before ?_, nofun⟩
      rintro (rfl : i = j)
      exact other rfl
    | opener j side => exact ⟨has.opener_of_answer s id, nofun⟩

theorem installed {link : Link} (o : Owned h t) (p : Plays h t)
    (s : Step t (.answered i (.session (.install t.session.status.generation (.ok link)))
      .connected) u) :
    Owned (.answered i (.session (.install t.session.status.generation (.ok link)))
      .connected :: h) u := by
  have allowed := p.allows s
  obtain ⟨-, after⟩ := s.of_section
  rw [Section.answer, install_newest] at after
  refine o.pass (x := .caller i) (y := .slot) (fun _ => rfl) s.dialled_of_answer ?_ ?_
  · intro l a has
    cases has with
    | slot there =>
      rw [after] at there
      cases there
      exact .caller (by rw [Role.eq_settling allowed]; rfl)
  · intro z l a other has
    cases z with
    | slot => exact absurd rfl other
    | caller j =>
      by_cases here : i = j
      · subst here
        cases has with
        | caller owns =>
          rw [roleOf_heard, Role.eq_settling allowed] at owns
          cases owns
      · refine ⟨has.caller_before here, ?_⟩
        rintro ⟨⟩
        exact here rfl
    | opener j side => exact ⟨has.opener_of_answer s id, by rintro ⟨⟩⟩

theorem kept {x : Section} {r : x.Reply} (o : Owned h t) (p : Plays h t)
    (s : Step t (.answered i (.session x) r) u)
    (slot : ∀ link, u.session.slot = some link →
      ∃ old, t.session.slot = some old ∧ old.id = link.id)
    (caller : ∀ link, ((roleOf i h).after (.session x) r).owned? = some link →
      (roleOf i h).owned? = some link) :
    Owned (.answered i (.session x) r :: h) u := by
  refine o.less (fun _ => rfl) s.dialled_of_answer fun z l a has => ?_
  cases z with
  | slot => exact has.slot_before p s slot
  | caller j =>
    by_cases here : i = j
    · subst here
      cases has with
      | caller owns =>
        rw [roleOf_heard] at owns
        exact .caller (caller _ owns)
    · exact has.caller_before here
  | opener j side => exact has.opener_of_answer s id

theorem «section» {x : Section} {r : x.Reply} (o : Owned h t) (m : Manned h t) (p : Plays h t)
    (s : Step t (.answered i (.session x) r) u) (free : (x.waits && t.session.held) = false) :
    Owned (.answered i (.session x) r :: h) u := by
  obtain ⟨reply, after⟩ := s.of_section
  have slot := fun link (there : u.session.slot = some link) =>
    slot_of_answer (s := t.session) (x := x) (after ▸ there)
  cases x with
  | takeOlder g =>
    cases r with
    | some link => exact o.taken m p s free
    | none =>
      refine o.kept p s (fun link there => (slot link there).resolve_right (by rintro ⟨⟩)) ?_
      intro link owns
      rw [Role.owned?_taken (p.allows s)] at owns
      cases owns
  | install g opened =>
    by_cases newest : t.session.status.generation = g
    · subst newest
      cases opened with
      | ok link =>
        rw [Section.answer, install_newest] at reply
        subst reply
        exact o.installed p s
      | error e =>
        rw [Section.answer, install_newest_failed] at reply
        subst reply
        refine o.kept p s (fun link there => (slot link there).resolve_right (by rintro ⟨⟩)) ?_
        intro link owns
        rw [Role.eq_settling (p.allows s)] at owns
        cases owns
    · have stale := t.session.install_of_ne newest opened
      rw [Section.answer, stale] at reply after
      subst reply
      refine o.kept p s (fun link there => ⟨link, by rwa [after] at there, rfl⟩) ?_
      intro link owns
      rw [Role.owned?_stale (p.allows s)] at owns
      rw [Role.eq_settling (p.allows s)]
      exact owns
  | _ =>
    refine o.kept p s (fun link there => (slot link there).resolve_right (by rintro ⟨⟩)) ?_
    exact fun link owns => Role.owned?_of_after owns id

theorem closedOwn {link : Link} {r : Remote.Call.Reply (.close link.id)} (o : Owned h t)
    (p : Plays h t) (s : Step t (.answered i (.remote (.close link.id)) r) u)
    (owns : (roleOf i h).owned? = some link)
    (none : ((roleOf i h).after (.remote (.close link.id)) r).owned? = none) :
    Owned (.answered i (.remote (.close link.id)) r :: h) u :=
  o.call (.caller owns) rfl rfl s.dialled_of_answer
    (fun _ _ has => absurd has (Has.not_caller none)) fun _ _ _ other has => has.before_call p s other

theorem used {k : Remote.Call} {r : k.Reply} {link : Link} (o : Owned h t) (m : Manned h t)
    (p : Plays h t) (s : Step t (.answered i (.remote k) r) u)
    (uses : (roleOf i h).used? = some link)
    (none : ((roleOf i h).after (.remote k) r).owned? = none)
    (calls : operatesOn link.id k ∨
      k = .close link.id ∧ (roleOf i h).after (.remote k) r = .dropping) :
    Owned (.answered i (.remote k) r :: h) u := by
  have has := m.has_slot uses
  have on : linkOn k = some link.id := by
    rcases calls with op | ⟨rfl, -⟩
    · exact linkOn_of_operatesOn op
    · rfl
  refine o.call has rfl on s.dialled_of_answer ?_ fun z l a _ now => now.before_call p s ?_
  · intro l a now
    rcases calls with op | ⟨rfl, drops⟩
    · have was : Has h t .slot l a := now.before_call p s nofun
      cases was with
      | slot there =>
        obtain ⟨here, inSlot, same⟩ := m.inSlot i link uses
        cases inSlot.symm.trans there
        refine ⟨same, ?_⟩
        rw [lifeOf_call (Event.callOn?_eq rfl (linkOf_eq on r)), Life.after_of_operatesOn op]
        exact o.lives _ _ _ has
    · cases now with
      | slot _ sound =>
        refine absurd ?_ (sound i)
        rw [roleOf_heard, drops]
  · rintro rfl
    exact Has.not_caller none now

theorem called {k : Remote.Call} {r : k.Reply} (o : Owned h t) (m : Manned h t) (p : Plays h t)
    (s : Step t (.answered i (.remote k) r) u) : Owned (.answered i (.remote k) r :: h) u := by
  rcases Role.allows_remote (p.allows s) with
    ⟨link, owns, rfl, none⟩ | ⟨link, uses, none, calls⟩
  · exact o.closedOwn p s owns (none r)
  · refine o.used m p s uses (none r) ?_
    exact calls.imp_right fun ⟨closes, drops⟩ => ⟨closes, drops r⟩

section Opens

variable {c d : Caller}

theorem elsewhere (p : Plays h t) (s : Step t e u) (session : u.session = t.session)
    (came : u.callers = t.callers.set i d) {z : Place} {l : Remote.LinkId} {a : Life}
    (heard : ∀ j, z = .caller j → ¬ e.Answers j) (other : ∀ side, z ≠ .opener i side)
    (has : Has (e :: h) u z l a) : Has h t z l a := by
  cases z with
  | slot => exact has.slot_before p s fun link there => ⟨link, session ▸ there, rfl⟩
  | caller j => exact has.caller_before (heard j rfl)
  | opener j side =>
    rcases has.opener_before (came.trans (List.append_nil _).symm) nofun with
      ⟨rfl, -⟩ | ⟨-, before⟩
    · exact absurd rfl (other side)
    · exact before

theorem launched {q : Connection} {g : Nat} (o : Owned h t) (p : Plays h t)
    (present : t.callers[i]? = some c) (s : Step t (.launched i) u) (session : u.session = t.session)
    (dialled : u.dialled = t.dialled)
    (came : u.callers = t.callers.set i { c with opener := some (openLink q g) }) :
    Owned (.launched i :: h) u := by
  refine o.less (fun _ => rfl) dialled fun z l a has => ?_
  by_cases here : ∃ side, z = .opener i side
  · obtain ⟨side, rfl⟩ := here
    obtain ⟨p, opens, owns⟩ := has.opener_of_set came
    cases side with
    | awaited =>
      cases opens
      cases owns
    | stray => exact .opener _ present opens owns
  · exact elsewhere p s session came (fun _ _ => id) (fun side same => here ⟨side, same⟩) has

theorem opening (side : Side) {k : Remote.Call} {r : k.Reply} {next : k.Reply → Opener}
    (o : Owned h t) (n : Tended t) (p : Plays h t) (s : Step t e u) (calls : e.call? = some ⟨k, r⟩)
    (quiet : ∀ j, ¬ e.Answers j) (present : t.callers[i]? = some c)
    (asks : c.opens side = some (.ask k next)) (names : Names t.dialled k r)
    (session : u.session = t.session) (dialled : u.dialled = dialledAfter t.dialled k r)
    (came : u.callers = t.callers.set i d) (goesOn : d.opens side = some (next r))
    (still : ∀ other, other ≠ side → d.opens other = c.opens other) : Owned (e :: h) u := by
  obtain ⟨stage, allowed, goes⟩ := n i c side _ present asks
  have before : ∀ z l a, z ≠ .opener i side → Has (e :: h) u z l a → Has h t z l a := by
    intro z l a other has
    by_cases here : ∃ side', z = .opener i side'
    · obtain ⟨side', rfl⟩ := here
      have otherSide : side' ≠ side := by
        rintro rfl
        exact other rfl
      obtain ⟨p, opens, owns⟩ := has.opener_of_set came
      exact .opener _ present (still side' otherSide ▸ opens) owns
    · exact elsewhere p s session came (fun _ _ => quiet _) (fun side same => here ⟨side, same⟩) has
  have there : ∀ l a, Has (e :: h) u (.opener i side) l a →
      (stage.after k r).owned? = some (l, a) := by
    intro l a has
    obtain ⟨p, opens, owns⟩ := has.opener_of_set came
    cases goesOn.symm.trans opens
    rw [← ownedBy_of_tends (goes r), owns]
  match stage, k, allowed, r with
  | .dialling, .dial q, _, .error failure =>
    refine o.less (fun l => Event.callOn?_ne calls nofun) dialled fun z l a has => ?_
    by_cases here : z = .opener i side
    · subst here
      cases there l a has
    · exact before z l a here has
  | .dialling, .dial q, _, .ok l =>
    cases (show l = t.dialled from names)
    refine o.dial calls dialled (fun m a has => ?_) before
    cases there m a has
    exact ⟨rfl, rfl⟩
  | .asking l, .home _, rfl, r =>
    have has : Has h t (.opener i side) l .dialled := .opener _ present asks rfl
    refine o.call has calls rfl dialled ?_ before
    intro m a now
    cases there m a now
    exact ⟨rfl, lifeOf_call (Event.callOn?_eq calls rfl)⟩
  | .ending l, .close _, rfl, r =>
    have has : Has h t (.opener i side) l .live := .opener _ present asks rfl
    refine o.call has calls rfl dialled ?_ before
    intro m a now
    cases there m a now

theorem unawaited {q : Connection} {g : Nat} {r : Option (Except ConnectError Link)}
    (p : Plays h t) (s : Step t (.answered i (.opening q g) r) u) (session : u.session = t.session)
    (came : u.callers = t.callers.set i d) (awaited : d.opener = none) {z : Place}
    {l : Remote.LinkId} {a : Life} (notCaller : z ≠ .caller i) (notStray : z ≠ .opener i .stray)
    (has : Has (.answered i (.opening q g) r :: h) u z l a) :
    Has h t z l a ∧ z ≠ .opener i .awaited := by
  have other : ∀ side, z ≠ .opener i side := by
    rintro side rfl
    cases side with
    | awaited =>
      obtain ⟨f, opens, -⟩ := has.opener_of_set came
      cases awaited.symm.trans opens
    | stray => exact notStray rfl
  refine ⟨elsewhere p s session came ?_ other has, other .awaited⟩
  rintro j rfl (rfl : i = j)
  exact notCaller rfl

theorem heard {q : Connection} {g : Nat} {o' : Except ConnectError Link} (o : Owned h t)
    (p : Plays h t) (s : Step t (.answered i (.opening q g) (some o')) u)
    (present : t.callers[i]? = some c) (ended : c.opener = some (.done o'))
    (session : u.session = t.session) (came : u.callers = t.callers.set i d)
    (awaited : d.opener = none) (stray : d.stray = c.stray) :
    Owned (.answered i (.opening q g) (some o') :: h) u := by
  refine o.pass (x := .opener i .awaited) (y := .caller i) (fun _ => rfl) s.dialled_of_answer ?_ ?_
  · intro l a has
    obtain ⟨link, told, rfl, rfl⟩ := has.opened p s
    cases told
    exact .opener .awaited present ended rfl
  · intro z l a other has
    by_cases here : z = .opener i .stray
    · subst here
      obtain ⟨f, strays, owns⟩ := has.opener_of_set came
      exact ⟨.opener .stray present (stray.symm.trans strays) owns, nofun⟩
    · exact unawaited p s session came awaited other here has

theorem expired {q : Connection} {g : Nat} {f : Opener} (o : Owned h t) (p : Plays h t)
    (s : Step t (.answered i (.opening q g) none) u) (present : t.callers[i]? = some c)
    (running : c.opener = some f) (session : u.session = t.session)
    (came : u.callers = t.callers.set i d) (awaited : d.opener = none) (left : d.stray = some f) :
    Owned (.answered i (.opening q g) none :: h) u := by
  refine o.pass (x := .opener i .awaited) (y := .opener i .stray) (fun _ => rfl)
    s.dialled_of_answer ?_ ?_
  · intro l a has
    obtain ⟨f', strays, owns⟩ := has.opener_of_set came
    cases left.symm.trans strays
    exact .opener .awaited present running owns
  · intro z l a other has
    by_cases here : z = .caller i
    · subst here
      obtain ⟨_, told, -⟩ := has.opened p s
      cases told
    · exact unawaited p s session came awaited here other has

theorem discarded {r : Except ConnectError Link} (o : Owned h t) (p : Plays h t)
    (present : t.callers[i]? = some c) (s : Step t (.discarded i r) u)
    (session : u.session = t.session) (dialled : u.dialled = t.dialled)
    (came : u.callers = t.callers.set i { c with stray := none }) :
    Owned (.discarded i r :: h) u := by
  refine o.less (fun _ => rfl) dialled fun z l a has => ?_
  by_cases here : ∃ side, z = .opener i side
  · obtain ⟨side, rfl⟩ := here
    obtain ⟨p, opens, owns⟩ := has.opener_of_set came
    cases side with
    | awaited => exact .opener _ present opens owns
    | stray => cases opens
  · exact elsewhere p s session came (fun _ _ => id) (fun side same => here ⟨side, same⟩) has

end Opens

theorem step (o : Owned h t) (m : Manned h t) (n : Tended t) (p : Plays h t) (s : Step t e u) :
    Owned (e :: h) u := by
  have step := s
  cases s with
  | arrive r _ => exact o.arrive p step
  | run present asks free => exact o.section m p step free
  | call present asks r => exact o.called m p step
  | launch present asks idle => exact o.launched p present step rfl rfl rfl
  | proceed present asks r names =>
    exact o.opening .awaited n p step rfl (fun _ => id) present asks names rfl rfl rfl rfl
      fun other ne => by cases other <;> first | rfl | exact absurd rfl ne
  | opened present asks ended =>
    exact o.heard p step present ended rfl rfl rfl rfl
  | expire present asks running =>
    exact o.expired p step present running rfl rfl rfl rfl
  | stray present asks r names =>
    exact o.opening .stray n p step rfl (fun _ => id) present asks names rfl rfl rfl rfl
      fun other ne => by cases other <;> first | rfl | exact absurd rfl ne
  | discard present ended => exact o.discarded p present step rfl rfl rfl

end Owned

theorem Run.owned (run : Run h t) : Owned h t := by
  induction run with
  | refl =>
    have none : ∀ x l a, ¬ Has [] {} x l a := by
      intro x l a has
      cases has with
      | slot inSlot => cases inSlot
      | caller owns => cases owns
      | opener _ present => cases present
    exact ⟨fun x l a has => absurd has (none x l a), fun x y l a b has => absurd has (none x l a),
      fun _ _ => rfl⟩
  | step path last ih => exact ih.step (Run.manned path) (Run.tended path) (Run.plays path) last

end Traffic

end RemoteTags.Session
