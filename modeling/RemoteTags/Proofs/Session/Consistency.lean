import RemoteTags.Proofs.Session.Role

/-! The status and the slot agree. The two parts of the session are changed by sections of many
callers, in any order. That they fit together in the end rests on the numbers: no two attempts
have the same one, none is newer than the status, and a link in the slot was brought in by an
attempt that is over. -/

namespace RemoteTags.Session

/-- An action that begins or decides an attempt. -/
def Decides : Action → Prop
  | .session (.begin _ _) | .session .beginDisconnect | .session (.install _ _) => True
  | _ => False

namespace Role

variable {ρ : Role} {q : Action}

theorem number?_of_attempt? {g : Nat} (h : ρ.attempt? = some g) : ρ.number? = some g := by
  cases ρ <;> simp_all [attempt?, number?]

theorem attempt?_after (other : ¬ Decides q) (r : q.Reply) :
    (ρ.after q r).attempt? = ρ.attempt? := by
  fun_cases Role.after ρ q r <;> first | rfl | exact absurd trivial other

theorem number?_of_after {r : q.Reply} {g : Nat} (other : ¬ Decides q)
    (h : (ρ.after q r).number? = some g) : ρ.number? = some g := by
  fun_cases Role.after ρ q r <;> simp_all [after, number?, Decides]

theorem fresh?_of_after {r : q.Reply} {link : Link} (h : (ρ.after q r).fresh? = some link) :
    ρ.fresh? = some link ∨ ∃ c g d n, ρ = .opening c g ∧
      (⟨q, r⟩ : Σ q : Action, q.Reply) = ⟨.opening d n, some (.ok link)⟩ := by
  fun_cases Role.after ρ q r <;> simp_all [after, fresh?]

theorem eq_of_takeOlder {g : Nat} (h : ρ.Allows (.session (.takeOlder g))) :
    (∃ c, ρ = .clearing c g) ∨ ρ = .sweeping g := by
  cases ρ with
  | clearing c n => exact .inl ⟨c, by rw [show g = n from h]⟩
  | sweeping n => exact .inr (by rw [show g = n from h])
  | _ => exact h.elim

theorem eq_settling {g : Nat} {o : Except ConnectError Link}
    (h : ρ.Allows (.session (.install g o))) : ρ = .settling g o.toOption := by
  cases ρ with
  | settling n link => exact h.1 ▸ h.2 ▸ rfl
  | _ => exact h.elim

theorem eq_idle_of_begin {c : Connection} {expected : Option Nat}
    (h : ρ.Allows (.session (.begin c expected))) : ρ = .idle := by
  cases ρ with
  | idle => rfl
  | _ => exact h.elim

theorem eq_idle_of_beginDisconnect (h : ρ.Allows (.session .beginDisconnect)) : ρ = .idle := by
  cases ρ with
  | idle => rfl
  | _ => exact h.elim

theorem after_install (g n : Nat) (link : Option Link) (o : Except ConnectError Link)
    (r : Installed) :
    ((settling g link).after (.session (.install n o)) r).number? = none ∧
      ((settling g link).after (.session (.install n o)) r).fresh? = none := by
  match r with
  | .connected | .failed _ | .stale none | .stale (some _) => exact ⟨rfl, rfl⟩

end Role

structure Agrees (ρ : Nat → Role) (s : Session) : Prop where
  home_isSome : s.status.home.isSome ↔ s.status.phase = .connected
  connecting : s.status.phase = .connecting ↔ ∃ i, (ρ i).attempt? = some s.status.generation
  connected : s.status.phase = .connected ↔
    ∃ link, s.slot = some link ∧ link.generation = s.status.generation
  home_eq : ∀ link, s.slot = some link → link.generation = s.status.generation →
    s.status.home = some link.home
  slot_le : ∀ link, s.slot = some link → link.generation ≤ s.status.generation
  number_le : ∀ i g, (ρ i).number? = some g → g ≤ s.status.generation
  attempt_inj : ∀ i j g, (ρ i).attempt? = some g → (ρ j).attempt? = some g → i = j
  slot_ne : ∀ link i, s.slot = some link → (ρ i).attempt? ≠ some link.generation
  fresh_eq : ∀ i link, (ρ i).fresh? = some link → (ρ i).attempt? = some link.generation

namespace Agrees

variable {ρ ρ' : Nat → Role} {s s' : Session} {i : Nat}

theorem attempt_le (a : Agrees ρ s) (i g : Nat) (h : (ρ i).attempt? = some g) :
    g ≤ s.status.generation :=
  a.number_le i g (Role.number?_of_attempt? h)

theorem congr (a : Agrees ρ s) (status : s'.status = s.status) (slot : s'.slot = s.slot) :
    Agrees ρ s' where
  home_isSome := by simpa only [status] using a.home_isSome
  connecting := by simpa only [status] using a.connecting
  connected := by simpa only [status, slot] using a.connected
  home_eq := by simpa only [status, slot] using a.home_eq
  slot_le := by simpa only [status, slot] using a.slot_le
  number_le := by simpa only [status] using a.number_le
  attempt_inj := a.attempt_inj
  slot_ne := by simpa only [slot] using a.slot_ne
  fresh_eq := a.fresh_eq

theorem takeOlder (a : Agrees ρ s) {g : Nat} (taken : g ≤ s.status.generation) :
    Agrees ρ (s.takeOlder g).2 := by
  unfold Session.takeOlder
  split
  · split
    · rename_i link inSlot older
      have notConnected : s.status.phase ≠ .connected := by
        intro connected
        obtain ⟨link', inSlot', current⟩ := a.connected.1 connected
        rw [inSlot] at inSlot'
        cases inSlot'
        omega
      exact {
        home_isSome := a.home_isSome
        connecting := a.connecting
        connected := by simpa using notConnected
        home_eq := nofun
        slot_le := nofun
        number_le := a.number_le
        attempt_inj := a.attempt_inj
        slot_ne := nofun
        fresh_eq := a.fresh_eq }
    · exact a
  · exact a

theorem useShellStat (a : Agrees ρ s) : Agrees ρ s.useShellStat where
  home_isSome := a.home_isSome
  connecting := a.connecting
  connected := by
    refine a.connected.trans ⟨fun ⟨link, inSlot, newest⟩ => ?_, fun ⟨link, inSlot, newest⟩ => ?_⟩
    · exact ⟨{ link with shellStat := true }, by simp [Session.useShellStat, inSlot], newest⟩
    · obtain ⟨old, was, rfl⟩ := Option.map_eq_some_iff.1 inSlot
      exact ⟨old, was, newest⟩
  home_eq link inSlot := by
    obtain ⟨old, was, rfl⟩ := Option.map_eq_some_iff.1 inSlot
    exact a.home_eq old was
  slot_le link inSlot := by
    obtain ⟨old, was, rfl⟩ := Option.map_eq_some_iff.1 inSlot
    exact a.slot_le old was
  number_le := a.number_le
  attempt_inj := a.attempt_inj
  slot_ne link i inSlot := by
    obtain ⟨old, was, rfl⟩ := Option.map_eq_some_iff.1 inSlot
    exact a.slot_ne old i was
  fresh_eq := a.fresh_eq

theorem drop (a : Agrees ρ s) : Agrees ρ s.drop.2 := by
  unfold Session.drop
  split
  · exact a
  · rename_i link inSlot
    dsimp only
    split
    · rename_i older
      have notConnected : s.status.phase ≠ .connected := by
        intro connected
        obtain ⟨link', inSlot', current⟩ := a.connected.1 connected
        grind
      exact { a with
        connected := by simpa using notConnected
        home_eq := nofun
        slot_le := nofun
        slot_ne := nofun }
    · have unpending : ∀ i, (ρ i).attempt? ≠ some (s.status.generation + 1) := by
        intro i pending
        have := a.attempt_le i _ pending
        omega
      exact { a with
        home_isSome := by simp
        connecting := by simpa using unpending
        connected := by simp
        home_eq := nofun
        slot_le := nofun
        number_le := fun i g taken => Nat.le_succ_of_le (a.number_le i g taken)
        slot_ne := nofun }

section Decided

variable (others : ∀ j, j ≠ i → ρ' j = ρ j)
include others

theorem goOn (a : Agrees ρ s) (attempt : (ρ' i).attempt? = (ρ i).attempt?)
    (number : ∀ g, (ρ' i).number? = some g → (ρ i).number? = some g)
    (fresh : ∀ link, (ρ' i).fresh? = some link → (ρ i).attempt? = some link.generation) :
    Agrees ρ' s := by
  have attempts : ∀ j, (ρ' j).attempt? = (ρ j).attempt? := by
    intro j
    by_cases same : j = i
    · rw [same, attempt]
    · rw [others j same]
  exact { a with
    connecting := by simpa only [attempts] using a.connecting
    number_le := fun j g taken => by
      by_cases same : j = i
      · subst same
        exact a.number_le j g (number g taken)
      · exact a.number_le j g (others j same ▸ taken)
    attempt_inj := by simpa only [attempts] using a.attempt_inj
    slot_ne := by simpa only [attempts] using a.slot_ne
    fresh_eq := fun j link opened => by
      rw [attempts]
      by_cases same : j = i
      · subst same
        exact fresh link opened
      · exact a.fresh_eq j link (others j same ▸ opened) }

theorem begin (a : Agrees ρ s) (c : Connection)
    (here : ρ' i = .clearing c (s.status.generation + 1)) :
    Agrees ρ' { s with status := ⟨.connecting, some c, none, s.status.generation + 1⟩ } := by
  have attempt : (ρ' i).attempt? = some (s.status.generation + 1) := by simp [here, Role.attempt?]
  have number : (ρ' i).number? = some (s.status.generation + 1) := by simp [here, Role.number?]
  have fresh : (ρ' i).fresh? = none := by simp [here, Role.fresh?]
  have older := a.attempt_le
  have ⟨_, _, _, _, slot_le, number_le, inj, slot_ne, fresh_eq⟩ := a
  constructor
  · simp
  · simpa using ⟨i, attempt⟩
  all_goals grind

theorem beginDisconnect (a : Agrees ρ s) (here : ρ' i = .sweeping (s.status.generation + 1)) :
    Agrees ρ' s.beginDisconnect.2 := by
  have attempt : (ρ' i).attempt? = none := by simp [here, Role.attempt?]
  have number : (ρ' i).number? = some (s.status.generation + 1) := by simp [here, Role.number?]
  have fresh : (ρ' i).fresh? = none := by simp [here, Role.fresh?]
  have older := a.attempt_le
  have ⟨_, _, _, _, slot_le, number_le, inj, slot_ne, fresh_eq⟩ := a
  unfold Session.beginDisconnect
  constructor
  · simp
  all_goals grind

/-- An attempt that is still the newest decides the state; any other changes nothing. -/
theorem install (a : Agrees ρ s) {g : Nat} {o : Except ConnectError Link}
    (was : ρ i = .settling g o.toOption) (number : (ρ' i).number? = none)
    (fresh : (ρ' i).fresh? = none) : Agrees ρ' (s.install g o).2 := by
  have decided : (ρ' i).attempt? = none := by
    cases pending : (ρ' i).attempt? with
    | none => rfl
    | some n => simp [Role.number?_of_attempt? pending] at number
  have pending : (ρ i).attempt? = some g := by simp [was, Role.attempt?]
  have opened : (ρ i).fresh? = o.toOption := by simp [was, Role.fresh?]
  have older := a.attempt_le
  have ⟨home, connecting, connected, home_eq, slot_le, number_le, inj, slot_ne, fresh_eq⟩ := a
  unfold Session.install
  split
  · constructor
    all_goals grind
  · rename_i newest
    split
    · rename_i link
      have : link.generation = g := by
        have := fresh_eq i link opened
        grind
      constructor
      all_goals grind
    · have : s.status.phase = .connecting := by grind
      constructor
      all_goals grind

theorem run (a : Agrees ρ s) (x : Section) (allowed : (ρ i).Allows (.session x))
    (here : ρ' i = (ρ i).after (.session x) (x.answer s).1) : Agrees ρ' (x.answer s).2 := by
  have goOn : ∀ {s : Session}, Agrees ρ s → ¬ Decides (.session x) → Agrees ρ' s := by
    intro s a other
    refine a.goOn others (by rw [here, Role.attempt?_after other])
      (fun g taken => Role.number?_of_after other (here ▸ taken)) fun link opened => ?_
    rw [here] at opened
    rcases Role.fresh?_of_after opened with fresh | ⟨_, _, _, _, _, asked⟩
    · exact a.fresh_eq i link fresh
    · cases asked
  cases x with
  | begin c expected =>
    rw [Role.eq_idle_of_begin allowed] at here
    change ρ' i = Role.idle.after (.session (.begin c expected)) (s.begin c expected).1 at here
    change Agrees ρ' (s.begin c expected).2
    unfold Session.begin at here ⊢
    split at here
    · rename_i late
      rw [if_pos late]
      have idle : ρ i = .idle := Role.eq_idle_of_begin allowed
      refine a.goOn others ?_ ?_ ?_
      all_goals simp [here, idle, Role.after, Role.attempt?, Role.number?, Role.fresh?]
    · rename_i onTime
      rw [if_neg onTime]
      exact a.begin others c here
  | beginDisconnect =>
    rw [Role.eq_idle_of_beginDisconnect allowed] at here
    exact a.beginDisconnect others here
  | takeOlder g =>
    have taken : (ρ i).number? = some g := by
      rcases Role.eq_of_takeOlder allowed with ⟨c, was⟩ | was <;> rw [was] <;> rfl
    exact goOn (a.takeOlder (a.number_le i g taken)) id
  | install g o =>
    have was := Role.eq_settling allowed
    have ⟨number, fresh⟩ := Role.after_install g g o.toOption o (s.install g o).1
    rw [was] at here
    exact a.install others was (here ▸ number) (here ▸ fresh)
  | drop => exact goOn a.drop id
  | useShellStat => exact goOn a.useShellStat id
  | hold | release | schedule => exact goOn (a.congr rfl rfl) id
  | current | status => exact goOn a id

end Decided

end Agrees

namespace Traffic

variable {t u : Traffic} {h : List Event} {e : Event}

theorem agrees_of_reply {i : Nat} {q : Action} {r : q.Reply} (p : Plays h t)
    (a : Agrees (roleOf · h) t.session) (s : Step t (.answered i q r) u)
    (other : ∀ x, q ≠ .session x) : Agrees (roleOf · (.answered i q r :: h)) t.session := by
  have undecided : ¬ Decides q := by
    cases q with
    | session x => exact absurd rfl (other x)
    | _ => exact id
  refine a.goOn (i := i) (fun j ne => roleOf_other ne _ _ h) ?_ ?_ ?_
  · rw [roleOf_heard, Role.attempt?_after undecided]
  · intro g taken
    rw [roleOf_heard] at taken
    exact Role.number?_of_after undecided taken
  · intro link opened
    rw [roleOf_heard] at opened
    rcases Role.fresh?_of_after opened with fresh | ⟨c, g, d, n, was, asked⟩
    · exact a.fresh_eq i link fresh
    · cases asked
      have allowed := p.allows s
      rw [was] at allowed ⊢
      rw [p.generation_of_opened s, allowed.2]
      rfl

theorem Plays.agrees_step (p : Plays h t) (a : Agrees (roleOf · h) t.session) (s : Step t e u) :
    Agrees (roleOf · (e :: h)) u.session := by
  rcases s.session_cases with ⟨same, outside⟩ | ⟨i, x, rfl, after, -⟩
  · rw [same]
    cases e with
    | answered i q r =>
      refine agrees_of_reply p a s ?_
      rintro x rfl
      exact outside trivial
    | _ => exact a
  · rw [after]
    exact a.run (fun j ne => roleOf_other ne _ _ h) x (p.allows s)
      (roleOf_heard ..)

theorem Run.agrees (run : Run h t) : Agrees (roleOf · h) t.session := by
  induction run with
  | refl =>
    constructor
    all_goals simp [roleOf, Role.attempt?, Role.number?, Role.fresh?]
  | step path last ih => exact (Run.plays path).agrees_step ih last

/-- The home is known exactly while the session is connected. Whenever nobody holds the slot, the
session is connected exactly if the slot has a link of the newest generation, and the home is the
one of this link. -/
theorem home_and_slot_agree (run : Run h t) :
    (t.session.status.home.isSome ↔ t.session.status.phase = .connected) ∧
      (t.session.held = false →
        (t.session.status.phase = .connected ↔
          ∃ link, t.session.slot = some link ∧ link.generation = t.session.status.generation) ∧
        ∀ link, t.session.slot = some link → t.session.status.phase = .connected →
          t.session.status.home = some link.home) := by
  have a := run.agrees
  refine ⟨a.home_isSome, fun _ => ⟨a.connected, fun link inSlot connected => ?_⟩⟩
  obtain ⟨link', inSlot', newest⟩ := a.connected.1 connected
  rw [inSlot] at inSlot'
  cases inSlot'
  exact a.home_eq link inSlot newest

/-- After a connect. -/
theorem home_and_slot_agree_connected :
    ∃ h t, Run h t ∧ t.session.held = false ∧ t.session.status.phase = .connected ∧
      t.session.status.home.isSome ∧
      ∃ link, t.session.slot = some link ∧ link.generation = t.session.status.generation ∧
        t.session.status.home = some link.home := by
  have known : Text.isBlankText "/home/user" = false := by decide
  obtain ⟨h, run⟩ := exists_run_connected { host := "host", user := "user" } known
  have ⟨home, agree⟩ := home_and_slot_agree run
  obtain ⟨link, inSlot, newest⟩ := (agree rfl).1.1 rfl
  exact ⟨h, _, run, rfl, rfl, home.2 rfl, link, inSlot, newest, (agree rfl).2 link inSlot rfl⟩

end Traffic

end RemoteTags.Session
