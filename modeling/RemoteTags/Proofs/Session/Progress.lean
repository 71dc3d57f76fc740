import RemoteTags.Proofs.Session.Demand

/-! The slot gets free again. An operation that holds the slot can always go on, and in the end it
gives the slot back. -/

namespace RemoteTags.Session

theorem answer_held (x : Section) (s : Session) (other : x ≠ .hold) (keeps : x ≠ .release) :
    (x.answer s).2.held = s.held := by
  cases x with
  | hold => exact absurd rfl other
  | release => exact absurd rfl keeps
  | begin c x =>
    dsimp only [Section.answer, begin]
    split <;> rfl
  | takeOlder g =>
    dsimp only [Section.answer]
    rcases s.takeOlder_cases g with same | taken
    · rw [same]
    · rw [taken]
  | install g o =>
    dsimp only [Section.answer, install]
    split
    · rfl
    · split <;> rfl
  | drop =>
    dsimp only [Section.answer]
    unfold drop
    split
    · rfl
    · dsimp only
      split <;> rfl
  | _ => rfl

theorem held_answer (x : Section) (s : Session) (other : x ≠ .hold) (held : (x.answer s).2.held) :
    s.held ∧ x ≠ .release := by
  by_cases gives : x = .release
  · subst gives
    cases held
  · exact ⟨answer_held x s other gives ▸ held, gives⟩

namespace Role

variable {ρ : Role} {q : Action}

theorem holds_after (holds : ρ.Holds) (other : q ≠ .session .release) (r : q.Reply) :
    (ρ.after q r).Holds := by
  fun_cases Role.after ρ q r <;> simp_all [Holds]

theorem of_holds (holds : ρ.Holds) (allowed : ρ.Allows q) :
    (∃ k, q = .remote k) ∨ ∃ x, q = .session x ∧ x.waits = false := by
  cases q with
  | remote k => exact .inl ⟨k, rfl⟩
  | session x =>
    refine .inr ⟨x, rfl, ?_⟩
    cases x with
    | takeOlder | install | hold => cases ρ <;> first | exact holds.elim | exact allowed.elim
    | _ => rfl
  | _ => cases ρ <;> first | exact holds.elim | exact allowed.elim

theorem eq_idle_of_hold (h : ρ.Allows (.session .hold)) : ρ = .idle := by
  cases ρ with
  | idle => rfl
  | _ => exact h.elim

end Role

instance (k : Remote.Call) : Nonempty k.Reply := by
  cases k with
  | dial => exact ⟨.error noConnection⟩
  | abandon => exact ⟨()⟩
  | _ => exact ⟨.error (.io "")⟩

namespace Traffic

variable {t u v : Traffic} {h h' : List Event} {e : Event} {i : Nat}

theorem Path.append (p : Path t h u) (q : Path u h' v) : Path t (h' ++ h) v := by
  induction q with
  | refl => exact p
  | step _ last ih => exact ih.step last

theorem exists_holds_of_other {j : Nat} {q : Action} {r : q.Reply} (holds : (roleOf j h).Holds)
    (other : q ≠ .session .release) : ∃ j, (roleOf j (.answered i q r :: h)).Holds := by
  refine ⟨j, ?_⟩
  by_cases here : j = i
  · subst here
    rw [roleOf_heard]
    exact Role.holds_after holds other r
  · rwa [roleOf_other here]

theorem Run.exists_holder (run : Run h t) (held : t.session.held) :
    ∃ i, (roleOf i h).Holds := by
  induction run with
  | refl => cases held
  | @step h t u e path last ih =>
    rcases last.session_cases with ⟨same, outside⟩ | ⟨i, x, rfl, after, -⟩
    · obtain ⟨j, holds⟩ := ih (same ▸ held)
      cases e with
      | answered i q r =>
        refine exists_holds_of_other holds ?_
        rintro rfl
        exact outside trivial
      | _ => exact ⟨j, holds⟩
    · rw [after] at held
      by_cases takes : x = .hold
      · subst takes
        refine ⟨i, ?_⟩
        rw [roleOf_heard, Role.eq_idle_of_hold ((Run.plays path).allows last)]
        trivial
      · obtain ⟨before, keeps⟩ := held_answer x _ takes held
        obtain ⟨j, holds⟩ := ih before
        refine exists_holds_of_other holds ?_
        rintro ⟨⟩
        exact keeps rfl

theorem get?_append {cs new : List Caller} {c : Caller} (there : cs[i]? = some c) :
    (cs ++ new)[i]? = some c := by
  rw [List.getElem?_append_left (List.getElem?_eq_some_iff.1 there).1, there]

theorem get?_set {cs : List Caller} {c d : Caller} (there : cs[i]? = some d) :
    (cs.set i c)[i]? = some c :=
  List.getElem?_set_self (List.getElem?_eq_some_iff.1 there).1

theorem Step.still {c : Caller} (s : Step t e u) (other : i ≠ e.caller)
    (there : t.callers[i]? = some c) : u.callers[i]? = some c := by
  rcases s.callers with ⟨r, -, came⟩ | ⟨_, d, new, -, -, came, -⟩
  · rw [came, get?_append there]
  · rw [came]
    refine get?_append ?_
    rw [List.getElem?_set_ne (Ne.symm other), there]

/-- The holder can go on until the slot is free, with nobody else moving. -/
theorem Run.release {q : Request} {p : Act q.Answer} {o s : Option Opener} (run : Run h t)
    (present : t.callers[i]? = some ⟨q, p, o, s⟩) (holds : (roleOf i h).Holds) :
    ∃ h' u, Path t h' u ∧ u.session.held = false ∧
      ∀ j c, j ≠ i → t.callers[j]? = some c → u.callers[j]? = some c := by
  induction p generalizing h t with
  | done a =>
    have may : (roleOf i h).MayEnd := (run.plays.keeps i _ present).1
    cases now : roleOf i h <;> rw [now] at may holds <;> first | exact may.elim | exact holds.elim
  | ask a next ih =>
    have allowed : (roleOf i h).Allows a := (run.plays.keeps i _ present).1
    -- Any step but the release leaves the slot with this caller.
    have goOn : ∀ {r : a.Reply} {u : Traffic}, Step t (.answered i a r) u →
        u.callers[i]? = some ⟨q, next r, o, s⟩ → a ≠ .session .release →
        ∃ h' v, Path t h' v ∧ v.session.held = false ∧
          ∀ j c, j ≠ i → t.callers[j]? = some c → v.callers[j]? = some c := by
      intro r u step there other
      have holds' : (roleOf i (.answered i a r :: h)).Holds := by
        rw [roleOf_heard]
        exact Role.holds_after holds other r
      obtain ⟨h', v, path, free, still⟩ := ih r (run.step step) there holds'
      exact ⟨_, v, (Path.refl.step step).append path, free,
        fun j c ne was => still j c ne (step.still ne was)⟩
    rcases Role.of_holds holds allowed with ⟨k, rfl⟩ | ⟨x, rfl, goes⟩
    · obtain ⟨r⟩ : Nonempty k.Reply := inferInstance
      exact goOn (.call present rfl r) (get?_set present) nofun
    · have step : Step t _ _ := .run present rfl (by rw [goes]; rfl)
      by_cases gives : x = .release
      · subst gives
        exact ⟨_, _, Path.refl.step step, rfl, fun j c ne was => step.still ne was⟩
      · exact goOn step (get?_append (get?_set present)) (by rintro ⟨⟩; exact gives rfl)

/-- Whoever waits for the slot gets it in some continuation. -/
theorem Run.exists_free {c : Caller} (run : Run h t) (there : t.callers[i]? = some c)
    (waits : ¬ (roleOf i h).Holds) :
    ∃ h' u, Path t h' u ∧ u.session.held = false ∧ u.callers[i]? = some c := by
  cases held : t.session.held with
  | false => exact ⟨[], t, .refl, held, there⟩
  | true =>
    obtain ⟨j, holds⟩ := run.exists_holder held
    have begun : roleOf j h ≠ .idle := fun idle => by
      rw [idle] at holds
      exact holds
    obtain ⟨d, present⟩ := run.plays.present begun
    obtain ⟨h', u, path, free, still⟩ := Run.release run (o := d.opener) present holds
    refine ⟨h', u, path, free, still i c ?_ there⟩
    rintro rfl
    exact waits holds

end Traffic

end RemoteTags.Session
