import RemoteTags.Proofs.Session.Leak
import RemoteTags.Proofs.Session.Sequence

/-! How modify times are asked for. Each link begins with the native question and turns to the shell
when its server answers that it does not support the question. The turn is marked in the link, and
the mark is set in the middle of an operation; nobody looks at the link in between, since the
operation holds the slot. -/

namespace RemoteTags.Session

abbrev Native : Opener → Prop := Brings fun link => link.shellStat = false

theorem Role.eq_working {ρ : Role} {l : Remote.LinkId} {path : String}
    (allowed : ρ.Allows (.remote (.stat l path))) : ∃ link, ρ = .working link ∧ link.id = l := by
  cases ρ with
  | working link => exact ⟨link, rfl, (show l = link.id from allowed).symm⟩
  | _ => exact allowed.elim

theorem Role.eq_working_of_turn {ρ : Role} (allowed : ρ.Allows (.session .useShellStat)) :
    ∃ link, ρ = .working link := by
  cases ρ with
  | working link => exact ⟨link, rfl⟩
  | _ => exact allowed.elim

theorem Role.owned?_of_fresh? {ρ : Role} {link : Link} (fresh : ρ.fresh? = some link) :
    ρ.owned? = some link := by
  cases ρ with
  | settling => exact fresh
  | _ => cases fresh

/-- The server of link `l` has answered that it does not support the question for a modify time. -/
def Unsupported (l : Remote.LinkId) (h : List Event) : Prop :=
  ∃ i path reason, .answered i (.remote (.stat l path)) (.error (.unsupported reason)) ∈ h

section Unsupported

variable {l : Remote.LinkId} {e : Event} {h : List Event} {i : Nat} {x : Heard}

theorem Unsupported.later (denied : Unsupported l h) (e : Event) : Unsupported l (e :: h) := by
  obtain ⟨i, path, reason, mem⟩ := denied
  exact ⟨i, path, reason, List.mem_cons_of_mem e mem⟩

theorem Unsupported.of_cons (denied : Unsupported l (e :: h)) :
    Unsupported l h ∨ ∃ i path reason,
      e = .answered i (.remote (.stat l path)) (.error (.unsupported reason)) := by
  obtain ⟨i, path, reason, mem⟩ := denied
  rcases List.mem_cons.1 mem with rfl | earlier
  · exact .inr ⟨i, path, reason, rfl⟩
  · exact .inl ⟨i, path, reason, earlier⟩

theorem unsupported_of_denied (denied : Denied l x) (mem : x ∈ heard i h) : Unsupported l h := by
  cases denied with
  | stat path reason => exact ⟨i, path, reason, mem_heard.1 mem⟩

theorem Unsupported.mem_log (denied : Unsupported l h) : ∃ path, .stat l path ∈ log l h := by
  obtain ⟨i, path, reason, mem⟩ := denied
  exact ⟨path, List.mem_filterMap.2 ⟨_, mem, Event.callOn?_eq (k := .stat l path) rfl rfl⟩⟩

theorem Fits.not_unsupported (fits : Fits l .dialled (log l h)) : ¬ Unsupported l h := by
  intro denied
  obtain ⟨path, mem⟩ := denied.mem_log
  generalize log l h = ks at fits mem
  cases fits with
  | dialled => simp at mem

end Unsupported

namespace Traffic

variable {t u : Traffic} {h : List Event} {e : Event} {i j : Nat} {l : Remote.LinkId} {a : Life}
  {side : Side} {link : Link} {c : Caller} {p : Opener} {x : Heard}

theorem Run.native (side : Side) (run : Run h t) (present : t.callers[i]? = some c)
    (opens : c.opens side = some p) : Native p := by
  induction run generalizing i c side p with
  | refl => cases present
  | step path last ih =>
    cases last.descends present opens with
    | same present opens => exact ih side present opens
    | launched => exact brings_openLink fun _ _ => rfl
    | goesOn _ present asks r => exact ih side present asks r
    | left present running => exact ih .awaited present running

theorem Run.role_of_head? (run : Run h t) (newest : (heard i h).head? = some x) :
    ∃ ρ : Role, ρ.Allows x.1 ∧ roleOf i h = ρ.after x.1 x.2 := by
  induction run with
  | refl => cases newest
  | @step h t u e path last ih =>
    by_cases told : e.Answers i
    · cases e with
      | answered k q r =>
        cases (show k = i from told)
        rw [heard_answered] at newest
        cases newest
        exact ⟨roleOf i h, (Run.plays path).allows last, roleOf_heard i q r h⟩
      | _ => exact told.elim
    · rw [heard_quiet h told] at newest
      rw [roleOf_quiet h told]
      exact ih newest

theorem Run.working_of_looked (run : Run h t)
    (looked : (heard i h).head? = some ⟨.session .current, some link⟩) :
    roleOf i h = .working link := by
  obtain ⟨ρ, allowed, after⟩ := run.role_of_head? looked
  rw [after, Role.eq_checking allowed]
  rfl

theorem Run.working_of_denied (run : Run h t) (newest : (heard i h).head? = some x)
    (denied : Denied l x) : ∃ link, roleOf i h = .working link ∧ link.id = l := by
  obtain ⟨ρ, allowed, after⟩ := run.role_of_head? newest
  cases denied with
  | stat path reason =>
    obtain ⟨link, rfl, same⟩ := Role.eq_working allowed
    exact ⟨link, after, same⟩

theorem Run.has_of_denied {path reason : String} (run : Run h t)
    (s : Step t (.answered i (.remote (.stat l path)) (.error (.unsupported reason))) u) :
    Has h t .slot l .live := by
  obtain ⟨link, working, rfl⟩ := Role.eq_working (run.plays.allows s)
  exact run.manned.has_slot (i := i) (by rw [working]; rfl)

theorem Run.unsupported_before {y : Place} (run : Run h t) (s : Step t e u) (has : Has h t y l a)
    (other : y ≠ .slot) (denied : Unsupported l (e :: h)) : Unsupported l h := by
  rcases denied.of_cons with before | ⟨i, path, reason, rfl⟩
  · exact before
  · exact absurd (run.owned.unique y .slot l a .live has (run.has_of_denied s)) other

theorem Run.not_unsupported_of_opener (run : Run h t) (has : Has h t (.opener i side) l a) :
    ¬ Unsupported l h := by
  induction run generalizing side a with
  | refl =>
    cases has with
    | opener _ present => cases present
  | @step h t u e path last ih =>
    intro denied
    have run : Run (e :: h) u := path.step last
    rcases has.opener_origin path last with rfl | ⟨side, b, before⟩
    · have fits := run.fits l
      rw [run.owned.lives _ _ _ has] at fits
      exact fits.not_unsupported denied
    · exact ih before (Run.unsupported_before path last before nofun denied)

theorem Run.new_of_opened {q : Connection} {g : Nat} (run : Run h t)
    (s : Step t (.answered i (.opening q g) (some (.ok link))) u) :
    link.shellStat = false ∧ ¬ Unsupported link.id h := by
  refine ⟨?_, run.not_unsupported_of_opener s.has_of_opened⟩
  cases s with
  | opened present asks ended => exact run.native .awaited present ended link rfl

theorem Run.new_of_fresh? (run : Run h t) (fresh : (roleOf i h).fresh? = some link) :
    link.shellStat = false ∧ ¬ Unsupported link.id h := by
  induction run with
  | refl => cases fresh
  | @step h t u e path last ih =>
    have still : (roleOf i h).fresh? = some link →
        link.shellStat = false ∧ ¬ Unsupported link.id (e :: h) := fun before =>
      ⟨(ih before).1, fun denied => (ih before).2 <|
        Run.unsupported_before path last (.caller (Role.owned?_of_fresh? before)) nofun denied⟩
    by_cases told : e.Answers i
    · cases e with
      | answered k q r =>
        cases (show k = i from told)
        rw [roleOf_heard] at fresh
        rcases Role.fresh?_of_after fresh with before | ⟨-, -, d, n, -, opened⟩
        · exact still before
        · cases opened
          obtain ⟨native, unasked⟩ := Run.new_of_opened path last
          refine ⟨native, fun denied => ?_⟩
          rcases denied.of_cons with before | ⟨_, _, _, ⟨⟩⟩
          exact unasked before
      | _ => exact told.elim
    · rw [roleOf_quiet h told] at fresh
      exact still fresh

/-- The mark in the link agrees with the answers of its server, as far as the turn is not just being
made by the caller that has been told. -/
structure Marked (h : List Event) (t : Traffic) : Prop where
  looked : ∀ i link, (heard i h).head? = some ⟨.session .current, some link⟩ →
    link.shellStat = false → t.session.slot = some link ∧ ¬ Unsupported link.id h
  marked : ∀ link, t.session.slot = some link → link.shellStat = true → Unsupported link.id h
  told : ∀ link, t.session.slot = some link → link.shellStat = false → Unsupported link.id h →
    ∃ i, ¬ Settled (heard i h).head?

theorem Run.holds_of_looked (run : Run h t)
    (looked : (heard i h).head? = some ⟨.session .current, some link⟩) : (roleOf i h).Holds := by
  rw [run.working_of_looked looked]
  trivial

theorem Run.of_not_settled (run : Run h t) (told : ¬ Settled (heard i h).head?) :
    ∃ link, roleOf i h = .working link ∧ Unsupported link.id h := by
  obtain ⟨l, x, newest, denied⟩ : ∃ l x, (heard i h).head? = some x ∧ Denied l x := by
    simpa [Settled] using told
  obtain ⟨link, working, rfl⟩ := run.working_of_denied newest denied
  exact ⟨link, working, unsupported_of_denied denied (List.mem_of_mem_head? newest)⟩

theorem Run.holds_of_not_settled (run : Run h t) (told : ¬ Settled (heard i h).head?) :
    (roleOf i h).Holds := by
  obtain ⟨link, working, -⟩ := run.of_not_settled told
  rw [working]
  trivial

theorem Run.slot_of_other (run : Run h t) (s : Step t e u) (holds : (roleOf j h).Holds)
    (quiet : ¬ e.Answers j) : u.session.slot = t.session.slot := by
  rcases s.session_cases with ⟨same, -⟩ | ⟨i, x, rfl, after, free⟩
  · rw [same]
  · have allowed := run.plays.allows s
    have idle : ¬ (roleOf i h).Holds := fun busy => quiet (run.manned.one i j busy holds)
    rw [run.manned.held j holds, Bool.and_true] at free
    rw [after]
    refine slot_after free ?_ ?_
    · rintro rfl
      exact idle (by rw [Role.eq_dropping allowed]; trivial)
    · rintro rfl
      obtain ⟨link, working⟩ := Role.eq_working_of_turn allowed
      exact idle (by rw [working]; trivial)

theorem Run.unsupported_of_other (run : Run h t) (s : Step t e u) (holds : (roleOf j h).Holds)
    (quiet : ¬ e.Answers j) (denied : Unsupported l (e :: h)) : Unsupported l h := by
  rcases denied.of_cons with before | ⟨i, path, reason, rfl⟩
  · exact before
  · obtain ⟨link, working, -⟩ := Role.eq_working (run.plays.allows s)
    exact absurd (run.manned.one i j (by rw [working]; trivial) holds) quiet

theorem Run.slot_cases (run : Run h t) (s : Step t e u) (inSlot : u.session.slot = some link) :
    (t.session.slot = some link ∧ ∀ i, e ≠ .answered i (.session .useShellStat) ()) ∨
      (link.shellStat = true ∧ Unsupported link.id h) ∨
      link.shellStat = false ∧ ¬ Unsupported link.id (e :: h) := by
  rcases s.session_cases with ⟨same, outside⟩ | ⟨i, x, rfl, after, -⟩
  · refine .inl ⟨same ▸ inSlot, ?_⟩
    rintro i rfl
    exact outside trivial
  · rw [after] at inSlot
    by_cases turns : x = .useShellStat
    · subst turns
      obtain ⟨old, was, rfl⟩ := Option.map_eq_some_iff.1 inSlot
      obtain ⟨own, working, denied⟩ := run.of_not_settled ((run.due_of_step s).change.1 rfl)
      obtain ⟨here, there, same⟩ := run.manned.inSlot i own (by rw [working]; rfl)
      cases was.symm.trans there
      exact .inr (.inl ⟨rfl, same ▸ denied⟩)
    · rcases slot_before turns inSlot with was | rfl
      · refine .inl ⟨was, ?_⟩
        rintro j ⟨⟩
        exact turns rfl
      · have fresh : (roleOf i h).fresh? = some link := by
          rw [Role.eq_settling (run.plays.allows s)]
          rfl
        obtain ⟨native, unasked⟩ := run.new_of_fresh? fresh
        refine .inr (.inr ⟨native, fun denied => ?_⟩)
        rcases denied.of_cons with before | ⟨_, _, _, ⟨⟩⟩
        exact unasked before

theorem Run.not_settled_step (run : Run h t) (s : Step t e u)
    (told : ¬ Settled (heard i h).head?)
    (other : ∀ i, e ≠ .answered i (.session .useShellStat) ()) :
    ¬ Settled (heard i (e :: h)).head? := by
  have quiet : ¬ e.Answers i := by
    intro own
    cases e with
    | answered k q r =>
      cases (show k = i from own)
      cases (run.due_of_step s).change.2 told
      exact other i rfl
    | _ => exact own
  rwa [heard_quiet h quiet]

theorem Marked.of_look (m : Marked h t) (run : Run h t)
    (s : Step t (.answered i (.session .current) (some link)) u) :
    link.shellStat = true ↔ Unsupported link.id h := by
  obtain ⟨inSlot, -⟩ := s.of_look
  refine ⟨m.marked link inSlot, fun denied => Bool.of_not_eq_false fun native => ?_⟩
  -- Nobody else has been told and not turned yet, since this caller holds the slot.
  obtain ⟨j, told⟩ := m.told link inSlot native denied
  have checking := Role.eq_checking (run.plays.allows s)
  cases run.manned.one j i (run.holds_of_not_settled told) (by rw [checking]; trivial)
  obtain ⟨own, working, -⟩ := run.of_not_settled told
  cases checking.symm.trans working

theorem Marked.step (m : Marked h t) (run : Run h t) (s : Step t e u) : Marked (e :: h) u where
  looked j link looked native := by
    by_cases own : e.Answers j
    · cases e with
      | answered k q r =>
        cases (show k = j from own)
        rw [heard_answered] at looked
        cases looked
        obtain ⟨inSlot, same⟩ := s.of_look
        refine ⟨by rw [same]; exact inSlot, fun denied => ?_⟩
        rcases denied.of_cons with before | ⟨_, _, _, ⟨⟩⟩
        cases native.symm.trans ((m.of_look run s).2 before)
      | _ => exact own.elim
    · rw [heard_quiet h own] at looked
      obtain ⟨inSlot, unasked⟩ := m.looked j link looked native
      have holds := run.holds_of_looked looked
      exact ⟨(run.slot_of_other s holds own).trans inSlot,
        fun denied => unasked (run.unsupported_of_other s holds own denied)⟩
  marked link inSlot marked := by
    rcases run.slot_cases s inSlot with ⟨was, -⟩ | ⟨-, denied⟩ | ⟨native, -⟩
    · exact (m.marked link was marked).later e
    · exact denied.later e
    · cases native.symm.trans marked
  told link inSlot native denied := by
    rcases run.slot_cases s inSlot with ⟨was, other⟩ | ⟨marked, -⟩ | ⟨-, unasked⟩
    · rcases denied.of_cons with before | ⟨i, path, reason, rfl⟩
      · obtain ⟨i, told⟩ := m.told link was native before
        exact ⟨i, run.not_settled_step s told other⟩
      · refine ⟨i, fun settled => ?_⟩
        rw [heard_answered] at settled
        exact settled link.id _ rfl (.stat path reason)
    · cases native.symm.trans marked
    · exact absurd denied unasked

theorem Run.marked (run : Run h t) : Marked h t := by
  induction run with
  | refl => exact ⟨nofun, nofun, nofun⟩
  | step path last ih => exact ih.step path last

theorem Run.marked_of_free (run : Run h t) (inSlot : t.session.slot = some link)
    (free : t.session.held = false) : link.shellStat = true ↔ Unsupported link.id h := by
  refine ⟨run.marked.marked link inSlot, fun denied => Bool.of_not_eq_false fun native => ?_⟩
  obtain ⟨i, told⟩ := run.marked.told link inSlot native denied
  exact run.manned.nobody free i (run.holds_of_not_settled told)

theorem Run.not_unsupported_of_stat {x : Place} {path : String} (run : Run h t)
    (flies : InFlight t x (.stat l path)) : ¬ Unsupported l h := by
  cases x with
  | slot => exact flies.elim
  | caller i =>
    obtain ⟨c, next, present, asks⟩ := flies
    obtain ⟨link, looked, rfl, native⟩ := (run.due present asks).native l path rfl
    exact (run.marked.looked i link looked native).2
  | opener i side =>
    obtain ⟨c, next, present, asks⟩ := flies
    obtain ⟨stage, allowed, -⟩ := run.tended i c side _ present asks
    cases stage <;> exact allowed.elim

end Traffic

end RemoteTags.Session
