import RemoteTags.Proofs.Session.Ownership

/-! The calls on a link come in order, one at a time, and an operation that comes too late for its
link makes none. -/

namespace RemoteTags.Session

/-- The calls on link `l` have been dialling, asking for the home, operations, and closing, in this
order, as far as they have come; the newest comes first. -/
def Ordered (l : Remote.LinkId) (ks : List Remote.Call) : Prop :=
  ∃ c ops, (∀ k ∈ ops, operatesOn l k) ∧ ks <:+ .close l :: (ops ++ [.home l, .dial c])

inductive Fits (l : Remote.LinkId) : Life → List Remote.Call → Prop where
  | unborn : Fits l .unborn []
  | dialled (c : Connection) : Fits l .dialled [.dial c]
  | live (c : Connection) (ops : List Remote.Call) (operate : ∀ k ∈ ops, operatesOn l k) :
      Fits l .live (ops ++ [.home l, .dial c])
  | closed (c : Connection) (ops : List Remote.Call) (operate : ∀ k ∈ ops, operatesOn l k) :
      Fits l .closed (.close l :: (ops ++ [.home l, .dial c]))

namespace Fits

variable {l : Remote.LinkId} {a : Life} {k : Remote.Call} {ks : List Remote.Call}

theorem ordered (fits : Fits l a ks) : Ordered l ks := by
  cases fits with
  | unborn => exact ⟨{ host := "", user := "" }, [], nofun, List.nil_suffix⟩
  | dialled c => exact ⟨c, [], nofun, [.close l, .home l], rfl⟩
  | live c ops operate => exact ⟨c, ops, operate, [.close l], rfl⟩
  | closed c ops operate => exact ⟨c, ops, operate, List.suffix_refl _⟩

theorem call (fits : Fits l a ks) (allowed : a.Allows l k) : Fits l (a.after k) (k :: ks) := by
  cases fits with
  | unborn =>
    cases k with
    | dial c => exact .dialled c
    | _ => exact allowed.elim
  | dialled c =>
    cases k with
    | home m =>
      cases (show m = l from allowed)
      exact .live c [] nofun
    | _ => exact allowed.elim
  | live c ops operate =>
    rcases allowed with op | rfl
    · rw [Life.after_of_operatesOn op]
      refine .live c (k :: ops) fun k' mem => ?_
      rcases List.mem_cons.1 mem with rfl | earlier
      · exact op
      · exact operate k' earlier
    · exact .closed c ops operate
  | closed => cases k <;> exact allowed.elim

end Fits

def Role.Silent : Role → Prop
  | idle | checking | refusing | refused => True
  | _ => False

def Role.TurnsBack : Role → Prop
  | refusing | refused => True
  | _ => False

namespace Role

variable {ρ : Role} {q : Action}

theorem TurnsBack.silent (turns : ρ.TurnsBack) : ρ.Silent := by
  cases ρ with
  | refusing | refused => trivial
  | _ => exact turns.elim

theorem Silent.asks (silent : ρ.Silent) (allowed : ρ.Allows q) : ∃ x, q = .session x := by
  cases q with
  | session x => exact ⟨x, rfl⟩
  | _ =>
    cases ρ with
    | idle | checking | refusing | refused => exact allowed.elim
    | _ => exact silent.elim

theorem TurnsBack.asks (turns : ρ.TurnsBack) (allowed : ρ.Allows q) : q = .session .release := by
  cases ρ with
  | refusing =>
    cases q with
    | session x =>
      cases x with
      | release => rfl
      | _ => exact allowed.elim
    | _ => exact allowed.elim
  | refused => exact allowed.elim
  | _ => exact turns.elim

theorem TurnsBack.after (turns : ρ.TurnsBack) (r : Section.release.Reply) :
    ρ.after (.session .release) r = .refused := by
  cases ρ with
  | refusing | refused => rfl
  | _ => exact turns.elim

theorem eq_checking (allowed : ρ.Allows (.session .current)) : ρ = .checking := by
  cases ρ with
  | checking => rfl
  | _ => exact allowed.elim

theorem silent_of_after {r : q.Reply} (silent : (ρ.after q r).Silent) (allowed : ρ.Allows q) :
    ρ.Silent := by
  fun_cases Role.after ρ q r <;> simp_all [after, Silent, Allows]

end Role

theorem linkOf_cases {k : Remote.Call} {r : k.Reply} {l : Remote.LinkId}
    (on : linkOf k r = some l) :
    linkOn k = some l ∨ ∃ c, (⟨k, r⟩ : Σ k : Remote.Call, k.Reply) = ⟨.dial c, .ok l⟩ := by
  cases k with
  | dial c =>
    match r, on with
    | .ok _, rfl => exact .inr ⟨c, rfl⟩
  | _ => exact .inl on

namespace Traffic

variable {t u v : Traffic} {h h' : List Event} {e : Event} {d : Demand} {i : Nat} {x y : Place}
  {k k' : Remote.Call} {l : Remote.LinkId}

/-- A call has been made, or is about to be made, and there is no reply yet. -/
def InFlight (t : Traffic) : Place → Remote.Call → Prop
  | .slot, _ => False
  | .caller i, k => ∃ c next, t.callers[i]? = some c ∧ c.rest = .ask (.remote k) next
  | .opener i side, k => ∃ c next, t.callers[i]? = some c ∧ c.opens side = some (.ask k next)

theorem Manned.exists_has (m : Manned h t) (n : Tended t) (p : Plays h t)
    (flies : InFlight t x k) (on : linkOn k = some l) :
    ∃ y a, Has h t y l a ∧ a.Allows l k ∧
      (y = x ∨ y = .slot ∧ ∃ i, x = .caller i ∧ (roleOf i h).Holds) := by
  cases x with
  | slot => exact flies.elim
  | caller i =>
    obtain ⟨c, next, present, asks⟩ := flies
    have keeps := p.keeps i c present
    rw [asks] at keeps
    rcases Role.allows_remote keeps.1 with ⟨link, owns, rfl, -⟩ | ⟨link, uses, -, calls⟩
    · cases on
      exact ⟨.caller i, .live, .caller owns, .inr rfl, .inl rfl⟩
    · have same : link.id = l := by
        rcases calls with op | ⟨rfl, -⟩
        · exact Option.some.inj ((linkOn_of_operatesOn op).symm.trans on)
        · exact Option.some.inj on
      subst same
      refine ⟨.slot, .live, m.has_slot uses, ?_, .inr ⟨rfl, i, rfl, Role.holds_of_used? uses⟩⟩
      exact calls.imp_right And.left
  | opener i side =>
    obtain ⟨c, next, present, asks⟩ := flies
    obtain ⟨stage, allowed, -⟩ := n i c side _ present asks
    match stage, k, allowed with
    | .dialling, .dial _, _ => cases on
    | .asking _, .home _, rfl =>
      cases on
      exact ⟨_, .dialled, .opener _ present asks rfl, rfl, .inl rfl⟩
    | .ending _, .close _, rfl =>
      cases on
      exact ⟨_, .live, .opener _ present asks rfl, .inr rfl, .inl rfl⟩

theorem Step.inFlight (p : Plays h t) (s : Step t e u) (calls : e.callOn? l = some k) :
    (∃ x, InFlight t x k ∧ linkOn k = some l) ∨ (∃ c, k = .dial c) ∧ l = t.dialled := by
  have made : ∀ {k' : Remote.Call} {r : k'.Reply} {x : Place}, e.call? = some ⟨k', r⟩ →
      InFlight t x k' → Names t.dialled k' r →
      (∃ x, InFlight t x k ∧ linkOn k = some l) ∨ (∃ c, k = .dial c) ∧ l = t.dialled := by
    intro k' r x made flies names
    simp only [Event.callOn?, made, Option.bind_some] at calls
    split at calls
    · rename_i on
      cases calls
      rcases linkOf_cases on with on | ⟨c, dials⟩
      · exact .inl ⟨x, flies, on⟩
      · cases dials
        exact .inr ⟨⟨c, rfl⟩, names⟩
    · cases calls
  have step := s
  cases s with
  | @call i c k' next present asks r =>
    refine made (x := .caller i) rfl ⟨c, next, present, asks⟩ ?_
    cases k' with
    | dial =>
      rcases Role.allows_remote (p.allows step) with ⟨_, -, ⟨⟩, -⟩ | ⟨_, -, -, op | ⟨⟨⟩, -⟩⟩
      exact op.elim
    | _ => exact trivial
  | @proceed i c k' next present asks r names =>
    exact made (x := .opener i .awaited) rfl ⟨c, next, present, asks⟩ names
  | @stray i c k' next present asks r names =>
    exact made (x := .opener i .stray) rfl ⟨c, next, present, asks⟩ names
  | _ => cases calls

theorem Run.fits (run : Run h t) (l : Remote.LinkId) : Fits l (lifeOf l h) (log l h) := by
  induction run with
  | refl => exact .unborn
  | @step h t u e path last ih =>
    have o := Run.owned path
    have p := Run.plays path
    cases calls : e.callOn? l with
    | none =>
      rw [lifeOf_quiet calls, log, List.filterMap_cons_none calls]
      exact ih
    | some k =>
      rw [lifeOf_call calls, log, List.filterMap_cons_some calls]
      refine ih.call ?_
      rcases last.inFlight p calls with ⟨x, flies, on⟩ | ⟨⟨c, rfl⟩, rfl⟩
      · obtain ⟨y, a, has, allowed, -⟩ :=
          (Run.manned path).exists_has (Run.tended path) p flies on
        exact o.lives y l a has ▸ allowed
      · rw [o.unborn _ (Nat.le_refl _)]
        trivial

/-- No two calls on one link overlap. -/
theorem Run.unique (run : Run h t) (flies : InFlight t x k) (flies' : InFlight t y k')
    (on : linkOn k = some l) (on' : linkOn k' = some l) : x = y := by
  have o := run.owned
  have m := run.manned
  obtain ⟨z, a, has, -, place⟩ := m.exists_has run.tended run.plays flies on
  obtain ⟨z', a', has', -, place'⟩ := m.exists_has run.tended run.plays flies' on'
  cases o.unique z z' l a a' has has'
  rcases place with rfl | ⟨rfl, i, rfl, holds⟩
  · rcases place' with same | ⟨rfl, -⟩
    · exact same
    · exact flies.elim
  · rcases place' with rfl | ⟨-, j, rfl, holds'⟩
    · exact flies'.elim
    · rw [m.one i j holds holds']

theorem silent_of_step (p : Plays h t) (s : Step t e u) (silent : (roleOf i (e :: h)).Silent) :
    (roleOf i h).Silent := by
  by_cases heard : e.Answers i
  · cases e with
    | answered j q r =>
      cases (show j = i from heard)
      rw [roleOf_heard] at silent
      exact Role.silent_of_after silent (p.allows s)
    | _ => exact heard.elim
  · rwa [roleOf_quiet h heard] at silent

theorem Run.not_silent {c : Caller} (side : Side) {f : Opener} (run : Run h t)
    (present : t.callers[i]? = some c) (opens : c.opens side = some f) :
    ¬ (roleOf i h).Silent := by
  induction run generalizing c side f with
  | refl => cases present
  | @step h t u e path last ih =>
    have p := Run.plays path
    have before : ¬ (roleOf i h).Silent := by
      cases last.descends present opens with
      | same there opens => exact ih side there opens
      | launched there asks =>
        have keeps := p.keeps i _ there
        rw [asks] at keeps
        exact fun silent => nomatch Role.Silent.asks silent keeps.1
      | goesOn _ there asks => exact ih side there asks
      | left there running => exact ih .awaited there running
    exact fun silent => before (silent_of_step p last silent)

theorem Run.silent (run : Run h t) (silent : (roleOf i h).Silent) :
    ∀ e ∈ h, e.caller = i → e.call? = none := by
  induction run with
  | refl => exact fun e mem => absurd mem List.not_mem_nil
  | @step h t u e path last ih =>
    have before := silent_of_step (Run.plays path) last silent
    intro e' mem own
    rcases List.mem_cons.1 mem with rfl | earlier
    · cases own
      have step := last
      cases last with
      | call present asks r =>
        exact nomatch Role.Silent.asks before ((Run.plays path).allows step)
      | proceed present asks =>
        exact absurd before (Run.not_silent .awaited path present asks)
      | stray present asks =>
        exact absurd before (Run.not_silent .stray path present asks)
      | _ => rfl
    · exact ih before e' earlier own

theorem Path.turnsBack (path : Path t h' u) (run : Run h t) (turns : (roleOf i h).TurnsBack) :
    (roleOf i (h' ++ h)).TurnsBack := by
  induction path with
  | refl => exact turns
  | @step h' u v e before last ih =>
    by_cases heard : e.Answers i
    · cases e with
      | answered j q r =>
        cases (show j = i from heard)
        cases ih.asks ((Run.plays (run.append before)).allows last)
        rw [List.cons_append, roleOf_heard, ih.after r]
        trivial
      | _ => exact heard.elim
    · rwa [List.cons_append, roleOf_quiet _ heard]

theorem Plays.refused (p : Plays h t) (turns : (roleOf i h).TurnsBack) (done : Done t i) :
    Refused t i := by
  have may := p.mayEnd_of_done done
  obtain ⟨c, a, present, rest⟩ := done
  have ends := p.keeps i c present
  rw [rest] at ends
  refine ⟨c, a, present, rest, ends.2.2 ?_⟩
  cases now : roleOf i h <;> rw [now] at may turns <;>
    first | rfl | exact may.elim | exact turns.elim

theorem Run.exists_refused (run : Run h t) (turns : (roleOf i h).TurnsBack)
    (unfinished : ¬ Done t i) : ∃ e u, Step t e u ∧ e.caller = i ∧ Refused u i := by
  have begun : roleOf i h ≠ .idle := by
    intro idle
    rw [idle] at turns
    exact turns
  obtain ⟨c, present⟩ := run.plays.present begun
  have keeps := run.plays.keeps i c present
  cases rest : c.rest with
  | done a => exact absurd ⟨c, a, present, rest⟩ unfinished
  | ask q next =>
    rw [rest] at keeps
    cases turns.asks keeps.1
    have step : Step t _ _ := .run present rest rfl
    have after := run.step step
    have turned : roleOf i (.answered i (.session .release) () :: h) = .refused := by
      rw [roleOf_heard, turns.after]
    have ended : ∃ a, next () = .done a := by
      have keeps' := keeps.2 ()
      rw [turns.after] at keeps'
      cases left : next () with
      | done a => exact ⟨a, rfl⟩
      | ask q next' =>
        rw [left] at keeps'
        exact keeps'.1.elim
    obtain ⟨a, ended⟩ := ended
    exact ⟨_, _, step, rfl, (Run.plays after).refused (turned ▸ trivial)
      ⟨{ c with rest := next () }, a, get?_append (get?_set present), ended⟩⟩

/-- A newer request has come than the one that opened the link in the slot. -/
def Outdated (h : List Event) (t : Traffic) : Prop :=
  ∃ e ∈ h, ∃ d, e.demand? = some d ∧
    ∀ link, t.session.slot = some link → link.generation < d.generation

/-- Caller `i` calls nobody, and its operation ends with the news that there is no link, in its
next step if it has not ended. -/
structure TurnedBack (i : Nat) (h : List Event) (t : Traffic) : Prop where
  silent : ∀ e ∈ h, e.caller = i → e.call? = none
  told : Done t i → Refused t i
  ends : Done t i ∨ ∃ e u, Step t e u ∧ e.caller = i ∧ Refused u i

theorem Run.generation_le_of_demand (run : Run h t) (began : e ∈ h) (demands : e.demand? = some d) :
    d.generation ≤ t.session.status.generation := by
  induction run with
  | refl => cases began
  | @step h t u e' path last ih =>
    rcases List.mem_cons.1 began with rfl | earlier
    · obtain ⟨-, ⟨_, _, -, -, after⟩ | ⟨-, -, after⟩⟩ := last.of_demand demands <;>
        exact after ▸ Nat.le_refl _
    · exact Nat.le_trans (ih earlier) last.generation_le

theorem Run.current_of_outdated (run : Run h t) (outdated : Outdated h t) :
    t.session.current = none := by
  obtain ⟨e, began, d, demands, older⟩ := outdated
  have newest := run.generation_le_of_demand began demands
  rw [current, Option.filter_eq_none_iff]
  intro link inSlot
  have := older link inSlot
  simp only [decide_eq_true_eq]
  omega

/-- The calls on each link are dialling it, asking for its home, operations, and closing it once at
most, in this order; no two of them overlap; and an operation that looks for its link after a newer
request has come makes no call and is told that there is no link. -/
theorem calls_in_order :
    (∀ h t l, Run h t → Ordered l (log l h)) ∧
    (∀ h t x y k k' l, Run h t → InFlight t x k → InFlight t y k' → linkOn k = some l →
      linkOn k' = some l → x = y) ∧
    ∀ h t i r u, Run h t → Outdated h t → Step t (.answered i (.session .current) r) u →
      r = none ∧ ∀ h' v, Path u h' v →
        TurnedBack i (h' ++ .answered i (.session .current) r :: h) v := by
  refine ⟨fun h t l run => (run.fits l).ordered,
    fun h t x y k k' l run flies flies' on on' => run.unique flies flies' on on', ?_⟩
  intro h t i r u run outdated looks
  have none : r = none := looks.of_section.1.trans (run.current_of_outdated outdated)
  refine ⟨none, fun h' v path => ?_⟩
  have turns : (roleOf i (.answered i (.session .current) r :: h)).TurnsBack := by
    rw [roleOf_heard, Role.eq_checking (run.plays.allows looks), none]
    trivial
  have after : Run _ v := (run.step looks).append path
  have turns' := path.turnsBack (run.step looks) turns
  refine ⟨Run.silent after turns'.silent, (Run.plays after).refused turns', ?_⟩
  by_cases done : Done v i
  · exact .inl done
  · exact .inr (Run.exists_refused after turns' done)

/-- A read works on the link; another one comes too late for it, since a disconnect has begun. -/
theorem calls_in_order_disconnect :
    (∃ h t k, Run h t ∧ Ordered 0 (log 0 h) ∧ InFlight t (.caller 1) k ∧
      ∀ x, InFlight t x k → x = .caller 1) ∧
    ∃ h t h' u, Run h t ∧ Outdated h t ∧ Path t h' u ∧ TurnedBack 1 (h' ++ h) u := by
  have known : Text.isBlankText "/home/user" = false := by decide
  obtain ⟨h, connected⟩ := exists_run_connected { host := "host", user := "user" } known
  have called := connected.step (.arrive (.operate (.read "tags")) trivial)
  dsimp at called
  have holding := called.step (.run (i := 1) rfl rfl rfl)
  dsimp [Section.answer, Section.followers] at holding
  constructor
  · have looked := holding.step (.run (i := 1) rfl rfl rfl)
    dsimp [Section.answer, Section.followers, current] at looked
    refine ⟨_, _, .read 0 "tags", looked, calls_in_order.1 _ _ 0 looked, ⟨_, _, rfl, rfl⟩, ?_⟩
    exact fun x flies =>
      calls_in_order.2.1 _ _ x (.caller 1) _ _ 0 looked flies ⟨_, _, rfl, rfl⟩ rfl rfl
  · have quits := holding.step (.arrive .disconnect trivial)
    dsimp at quits
    have stopped := quits.step (.run (i := 2) rfl rfl rfl)
    dsimp [Section.answer, Section.followers, beginDisconnect] at stopped
    obtain ⟨h', t', u, run, outdated, looks⟩ : ∃ h t u, Run h t ∧ Outdated h t ∧
        Step t (.answered 1 (.session .current) none) u :=
      ⟨_, _, _, stopped, ⟨_, List.mem_cons_self, ⟨2, none, 2⟩, rfl, by rintro _ ⟨⟩; decide⟩,
        .run rfl rfl rfl⟩
    have turned := (calls_in_order.2.2 h' t' 1 none u run outdated looks).2 [] u .refl
    exact ⟨h', t', _, u, run, outdated, .step .refl looks, turned⟩

end Traffic

end RemoteTags.Session
