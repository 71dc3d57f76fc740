import RemoteTags.Proofs.Session.Leak
import RemoteTags.Proofs.Session.Succession
import RemoteTags.Proofs.Session.Trace

/-! What an operation does to the session. As long as its calls do not break the link, it leaves the
status and the slot alone. A call that breaks the link makes it close the link, take it out of the
slot and, if nobody has asked for anything newer meanwhile, end the connection. -/

namespace RemoteTags.Session

theorem drop_newest {s : Session} {link : Link} (inSlot : s.slot = some link)
    (newest : s.status.generation = link.generation) :
    s.drop = (s.status.config.map fun c => ⟨c, s.status.generation + 1⟩, { s with
      slot := none
      status := ⟨.disconnected, s.status.config, none, s.status.generation + 1⟩ }) := by
  unfold drop
  rw [inSlot]
  exact if_neg (not_not_intro newest)

theorem drop_older {s : Session} {link : Link} (inSlot : s.slot = some link)
    (older : s.status.generation ≠ link.generation) :
    s.drop = (none, { s with slot := none }) := by
  unfold drop
  rw [inSlot]
  exact if_pos older

theorem drop_slot {s : Session} {link : Link} (inSlot : s.slot = some link) :
    s.drop.2.slot = none := by
  unfold drop
  rw [inSlot]
  dsimp only
  split <;> rfl

namespace Role

variable {ρ : Role} {q : Action}

def Uses (link : Link) : Role → Prop
  | working own | broken own => own = link
  | dropping => True
  | _ => False

def Busy : Role → Prop
  | checking | refusing | refused | working _ | broken _ | dropping | leaving _ | parting _
  | finished => True
  | _ => False

theorem Uses.holds {link : Link} (uses : ρ.Uses link) : ρ.Holds := by
  cases ρ with
  | working | broken | dropping => trivial
  | _ => exact uses.elim

theorem Uses.after {link : Link} (uses : ρ.Uses link) (allowed : ρ.Allows q)
    (notDrop : q ≠ .session .drop) (notRelease : q ≠ .session .release) (r : q.Reply) :
    (ρ.after q r).Uses link := by
  cases ρ with
  | working own =>
    cases q with
    | session x =>
      cases x with
      | useShellStat => exact uses
      | release => exact absurd rfl notRelease
      | _ => exact allowed.elim
    | remote k =>
      change (if breaks k r then broken own else working own).Uses link
      split <;> exact uses
    | _ => exact allowed.elim
  | broken own =>
    cases q with
    | remote k => trivial
    | _ => exact allowed.elim
  | dropping => exact absurd (allows_dropping allowed) notDrop
  | _ => exact uses.elim

theorem Busy.after (busy : ρ.Busy) (allowed : ρ.Allows q) (r : q.Reply) : (ρ.after q r).Busy := by
  fun_cases Role.after ρ q r <;> simp_all [Busy, Allows]

theorem Busy.asks (busy : ρ.Busy) (allowed : ρ.Allows q) :
    (∃ k, q = .remote k) ∨ ∃ x, q = .session x ∧ x.waits = false := by
  cases q with
  | remote k => exact .inl ⟨k, rfl⟩
  | session x =>
    refine .inr ⟨x, rfl, ?_⟩
    cases x with
    | takeOlder | install | hold => cases ρ <;> first | exact busy.elim | exact allowed.elim
    | _ => rfl
  | _ => cases ρ <;> first | exact busy.elim | exact allowed.elim

end Role

def Event.Quits (i : Nat) : Event → Prop
  | .answered j (.session .drop) _ | .answered j (.session .release) _ => j = i
  | _ => False

namespace Traffic

variable {t u v w : Traffic} {h h' H : List Event} {e : Event} {i : Nat} {link : Link}
  {status : Status}

/-- How the session is while caller `i` holds the slot with `link`, and since `h'` began. -/
structure Tenure (i : Nat) (link : Link) (status : Status) (h' H : List Event) (v : Traffic) :
    Prop where
  uses : (roleOf i (h' ++ H)).Uses link
  slot : ∃ b, v.session.slot = some { link with shellStat := b }
  status : (∀ e ∈ h', e.demand? = none) → v.session.status = status

theorem Tenure.begin {r : Option Link} (run : Run H t)
    (looks : Step t (.answered i (.session .current) r) u) (found : r = some link) :
    Tenure i link t.session.status [] (.answered i (.session .current) r :: H) u := by
  subst found
  obtain ⟨inSlot, same⟩ := looks.of_look
  refine ⟨?_, ⟨link.shellStat, by rw [same]; exact inSlot⟩, fun _ => by rw [same]⟩
  rw [List.nil_append, roleOf_heard, Role.eq_checking (run.plays.allows looks)]
  exact rfl

theorem uses_of_step {h : List Event} (p : Plays h v) (uses : (roleOf i h).Uses link)
    (s : Step v e w) (stays : ¬ e.Quits i) : (roleOf i (e :: h)).Uses link := by
  by_cases heard : e.Answers i
  · cases e with
    | answered j q r =>
      cases (show j = i from heard)
      rw [roleOf_heard]
      refine uses.after (p.allows s) ?_ ?_ r
      · rintro rfl
        exact stays rfl
      · rintro rfl
        exact stays rfl
    | _ => exact heard.elim
  · rw [roleOf_quiet _ heard]
    exact uses

namespace Tenure

theorem goes {j : Nat} {x : Section} {r : x.Reply} (tenure : Tenure i link status h' H v)
    (run : Run (h' ++ H) v) (s : Step v (.answered j (.session x) r) w)
    (stays : ¬ (Event.answered j (.session x) r).Quits i) : x.waits = false ∧ x ≠ .drop := by
  have holds := tenure.uses.holds
  constructor
  · refine Bool.eq_false_iff.2 fun waits => ?_
    cases (run.manned.held i holds).symm.trans (s.free_of_waits waits)
  · rintro rfl
    have dropping := Role.eq_dropping (run.plays.allows s)
    exact stays (run.manned.one j i (by rw [dropping]; trivial) holds)

theorem slot_of_step (tenure : Tenure i link status h' H v) (run : Run (h' ++ H) v)
    (s : Step v e w) (stays : ¬ e.Quits i) :
    ∃ b, w.session.slot = some { link with shellStat := b } := by
  obtain ⟨b, inSlot⟩ := tenure.slot
  rcases s.session_cases with ⟨same, -⟩ | ⟨j, x, rfl, after, -⟩
  · exact ⟨b, same ▸ inSlot⟩
  · obtain ⟨waits, other⟩ := tenure.goes run s stays
    obtain ⟨here, there, -⟩ := answer_slot waits other inSlot
    rw [← after] at there
    rcases s.slot_cases there with ⟨old, b', was, rfl⟩ | ⟨k, same⟩
    · cases inSlot.symm.trans was
      exact ⟨b', there⟩
    · cases (Event.answered.inj same).2.1
      cases waits

theorem step (tenure : Tenure i link status h' H v) (run : Run (h' ++ H) v) (s : Step v e w)
    (stays : ¬ e.Quits i) : Tenure i link status (e :: h') H w := by
  have slot := tenure.slot_of_step run s stays
  refine ⟨uses_of_step run.plays tenure.uses s stays, slot, fun quiet => ?_⟩
  obtain ⟨now, before⟩ := List.forall_mem_cons.1 quiet
  rcases s.cases_of_quiet now with ⟨same, -⟩ | ⟨j, o, rfl, -⟩ | ⟨-, after⟩
  · rw [same, tenure.status before]
  · cases (tenure.goes run s stays).1
  · obtain ⟨b', there⟩ := slot
    rw [after] at there
    cases there

end Tenure

theorem Path.tenure (path : Path u h' v) (run : Run H u) (start : Tenure i link status [] H u)
    (stays : ∀ e ∈ h', ¬ e.Quits i) : Tenure i link status h' H v := by
  induction path with
  | refl => exact start
  | step before last ih =>
    obtain ⟨now, earlier⟩ := List.forall_mem_cons.1 stays
    exact (ih earlier).step (run.append before) last now

/-- An operation that has begun can always go on to its end. -/
theorem Run.exists_done {q : Request} {p : Act q.Answer} {o s : Option Opener} (run : Run h t)
    (present : t.callers[i]? = some ⟨q, p, o, s⟩) (busy : (roleOf i h).Busy) :
    ∃ h' u, Path t h' u ∧ Done u i := by
  induction p generalizing h t with
  | done a => exact ⟨[], t, .refl, _, a, present, rfl⟩
  | ask a next ih =>
    have allowed : (roleOf i h).Allows a := (run.plays.keeps i _ present).1
    have goOn : ∀ {r : a.Reply} {u : Traffic}, Step t (.answered i a r) u →
        u.callers[i]? = some ⟨q, next r, o, s⟩ → ∃ h' u, Path t h' u ∧ Done u i := by
      intro r u step there
      have busy' : (roleOf i (.answered i a r :: h)).Busy := by
        rw [roleOf_heard]
        exact busy.after allowed r
      obtain ⟨h', v, path, done⟩ := ih r (run.step step) there busy'
      exact ⟨_, v, (Path.refl.step step).append path, done⟩
    rcases busy.asks allowed with ⟨k, rfl⟩ | ⟨x, rfl, goes⟩
    · obtain ⟨r⟩ : Nonempty k.Reply := inferInstance
      exact goOn (.call present rfl r) (get?_set present)
    · exact goOn (.run present rfl (by rw [goes]; rfl)) (get?_append (get?_set present))

theorem Path.busy (path : Path u h' v) (run : Run H u) (busy : (roleOf i H).Busy) :
    (roleOf i (h' ++ H)).Busy := by
  induction path with
  | refl => exact busy
  | @step h' u v e before last ih =>
    by_cases heard : e.Answers i
    · cases e with
      | answered j q r =>
        cases (show j = i from heard)
        rw [List.cons_append, roleOf_heard]
        exact ih.after ((Run.plays (run.append before)).allows last) r
      | _ => exact heard.elim
    · rwa [List.cons_append, roleOf_quiet _ heard]

theorem Run.begun {o : Operation} {p : Act (Request.operate o).Answer} {f s : Option Opener}
    (run : Run h t) (present : t.callers[i]? = some ⟨.operate o, p, f, s⟩) :
    roleOf i h = .idle ∧ p = o.program ∨ (roleOf i h).Busy := by
  induction run generalizing p f s with
  | refl => cases present
  | @step h t u e path last ih =>
    have plays := Run.plays path
    rcases last.origin present with ⟨beyond, quiet, r, same⟩ | ⟨⟨q, p', f', s'⟩, was, moves⟩
    · cases same
      exact .inl ⟨(roleOf_quiet h quiet).trans (plays.absent i beyond), rfl⟩
    · cases moves.request
      have before := ih was
      cases moves with
      | wait _ quiet => rwa [roleOf_quiet h quiet]
      | launch asks quiet => rwa [roleOf_quiet h quiet]
      | proceed asks r quiet => rwa [roleOf_quiet h quiet]
      | @hear q r next told asks left _ =>
        subst told
        have allowed := plays.allows last
        refine .inr ?_
        rw [roleOf_heard]
        rcases before with ⟨idle, fresh⟩ | busy
        · obtain ⟨_, begins⟩ := o.exists_hold
          cases asks.symm.trans (fresh.trans begins)
          rw [idle]
          trivial
        · exact busy.after allowed r

theorem Run.exists_end {o : Operation} {p : Act (Request.operate o).Answer} {f s : Option Opener}
    (run : Run h t) (present : t.callers[i]? = some ⟨.operate o, p, f, s⟩) :
    ∃ h' u, Path t h' u ∧ Done u i := by
  rcases run.begun present with ⟨idle, rfl⟩ | busy
  · obtain ⟨h', u, path, free, there⟩ := run.exists_free present (by rw [idle]; exact id)
    obtain ⟨next, begins⟩ := o.exists_hold
    have holding : Step u (.answered i (.session .hold) ()) _ := .run there begins (by simp [free])
    have waited : Run (h' ++ h) u := run.append path
    have role : roleOf i (.answered i (.session .hold) () :: (h' ++ h)) = .checking := by
      rw [roleOf_heard, Role.eq_idle_of_hold (waited.plays.allows holding)]
      rfl
    obtain ⟨h'', v, later, done⟩ := Run.exists_done (waited.step holding)
      (get?_append (get?_set there)) (by rw [role]; trivial)
    exact ⟨_, v, (path.step holding).append later, done⟩
  · exact run.exists_done present busy

def OpenedWith (c : Connection) (link : Link) (h : List Event) : Prop :=
  ∃ j old b, .answered j (.opening c link.generation) (some (.ok old)) ∈ h ∧
    link = { old with shellStat := b }

theorem Run.opened_with (run : Run h t) (connected : t.session.status.phase = .connected) :
    ∃ link c, t.session.slot = some link ∧ link.generation = t.session.status.generation ∧
      t.session.status.config = some c ∧ OpenedWith c link h := by
  have disconnected : ¬ ∀ d, latest? h = some d → d.config = none := by
    intro none
    cases connected.symm.trans (run.disconnected none)
  cases latest : latest? h with
  | none => exact absurd (fun d found => nomatch latest.symm.trans found) disconnected
  | some d =>
    cases wants : d.config with
    | none =>
      refine absurd (fun d' found => ?_) disconnected
      cases latest.symm.trans found
      exact wants
    | some c =>
      have pursues := run.pursues latest wants
      have newest := pursues.newest (by rw [connected]; exact nofun)
      obtain ⟨link, inSlot, number⟩ := run.agrees.connected.1 connected
      obtain ⟨old, b, opened, same⟩ := pursues.opened link inSlot (number.trans newest)
      refine ⟨link, c, inSlot, number, pursues.config, d.caller, old, b, ?_, same⟩
      rw [number, newest]
      exact opened

end Traffic

def Heard.reconnect? : Heard → Option Reconnect
  | ⟨.session (.schedule r), _⟩ => some r
  | _ => none

def reconnectsBy (i : Nat) (h : List Event) : List Reconnect :=
  (heard i h).reverse.filterMap Heard.reconnect?

def Broke (i : Nat) (h : List Event) : Prop :=
  ∃ k r, .answered i (.remote k) r ∈ h ∧ breaks k r = true

/-- What the operation schedules when it loses the link of the newest connect. -/
def Operation.resumes : Operation → Reconnect → List Reconnect
  | .stat _, r | .read _, r | .readDir _, r => [r]
  | .exec _, _ | .fastGet _ _, _ | .remove _, _ => []

section Heard

variable {h h' h'' : List Event} {i : Nat} {link : Link} {σ : List Heard} {x : Heard}

theorem heard_split {q : Action} {r : q.Reply} (split : h = h'' ++ .answered i q r :: h') :
    (heard i h).reverse = (heard i h').reverse ++ ⟨q, r⟩ :: (heard i h'').reverse := by
  rw [split, heard_append, heard_answered, List.reverse_append, List.reverse_cons,
    List.append_assoc]
  rfl

theorem not_quits (calm : ∀ y r, ⟨.session y, r⟩ ∈ heard i h → y = .useShellStat) :
    ∀ e ∈ h, ¬ e.Quits i := by
  intro e mem quits
  unfold Event.Quits at quits
  split at quits
  · subst quits
    cases calm _ _ (mem_heard.2 mem)
  · subst quits
    cases calm _ _ (mem_heard.2 mem)
  · exact quits

theorem mem_of_append_concat {α : Type} {A R P : List α} {a b : α}
    (same : A ++ a :: R = P ++ [b]) : ∀ z ∈ A, z ∈ P := by
  intro z mem
  have shorter := congrArg List.dropLast same
  rw [List.dropLast_concat, List.dropLast_append_of_ne_nil (by simp)] at shorter
  rw [← shorter]
  exact List.mem_append_left _ mem

theorem Asked.section {y : Section} {r : y.Reply} (asked : Asked link ⟨.session y, r⟩) :
    y = .useShellStat ∨ y = .drop ∨ y = .release ∨ ∃ r, y = .schedule r := by
  cases asked with
  | sound sound => exact .inl sound.eq_useShellStat
  | breaks broke => cases broke
  | drops => exact .inr (.inl rfl)
  | leaves => exact .inr (.inr (.inl rfl))
  | schedules r => exact .inr (.inr (.inr ⟨r, rfl⟩))

theorem Sound.reconnect?_eq_none (sound : Sound link x) : x.reconnect? = none := by
  cases sound <;> rfl

theorem Breaks.reconnect?_eq_none (broke : Breaks link x) : x.reconnect? = none := by
  cases broke
  rfl

theorem Sound.not_breaks {k : Remote.Call} {r : k.Reply} (sound : Sound link ⟨.remote k, r⟩) :
    breaks k r = false := by
  cases sound with
  | call _ kept => exact kept

theorem Sound.not_closes {l : Remote.LinkId} {r : Remote.Attempt Unit} :
    ¬ Sound link ⟨.remote (.close l), r⟩ := by
  rintro ⟨⟩
  contradiction

theorem reconnects_of_resumption (o : Operation) (r : Reconnect) :
    (resumption o.afterLoss (some r)).filterMap Heard.reconnect? = o.resumes r := by
  cases o <;> rfl

theorem resumption_none (after : AfterLoss) : resumption after none = [] := by
  cases after <;> rfl

end Heard

theorem Fits.count_close {l : Remote.LinkId} {a : Life} {ks : List Remote.Call} (fits : Fits l a ks)
    (closed : .close l ∈ ks) : ks.count (.close l) = 1 := by
  cases fits with
  | unborn => cases closed
  | dialled => simp at closed
  | live c ops operate => exact absurd closed (Fits.live c ops operate).not_close_mem
  | closed c ops operate =>
    rw [List.count_cons_self, List.count_eq_zero.2 (Fits.live c ops operate).not_close_mem]

namespace Traffic

variable {t t₀ t₁ u v w : Traffic} {h h₀ h' H : List Event} {e : Event} {i : Nat} {link : Link}
  {status : Status} {q : Action} {r : q.Reply} {σ : List Heard} {c : Connection}

theorem Path.split {after before : List Event} (path : Path t (after ++ e :: before) u) :
    ∃ v w, Path t before v ∧ Step v e w ∧ Path w after u := by
  induction after generalizing u with
  | nil =>
    cases path with
    | step path last => exact ⟨_, _, path, last, .refl⟩
  | cons e' after ih =>
    cases path with
    | step path last =>
      obtain ⟨v, w, early, here, late⟩ := ih path
      exact ⟨v, w, early, here, late.step last⟩

theorem Step.leaves_of_asked (asked : Asked link ⟨q, r⟩) (s : Step v (.answered i q r) w)
    (other : q ≠ .session .drop) : w.session.status = v.session.status ∧
      ∀ b, v.session.slot = some { link with shellStat := b } →
        ∃ b, w.session.slot = some { link with shellStat := b } := by
  rcases s.session_cases with ⟨same, -⟩ | ⟨j, y, same, after, -⟩
  · rw [same]
    exact ⟨rfl, fun b inSlot => ⟨b, inSlot⟩⟩
  · cases same
    rw [after]
    rcases asked.section with rfl | rfl | rfl | ⟨r, rfl⟩
    · refine ⟨rfl, fun b inSlot => ⟨true, ?_⟩⟩
      dsimp only [Section.answer, useShellStat]
      rw [inSlot]
      rfl
    · exact absurd rfl other
    · exact ⟨rfl, fun b inSlot => ⟨b, inSlot⟩⟩
    · exact ⟨rfl, fun b inSlot => ⟨b, inSlot⟩⟩

/-- The operation of caller `i` leaves the status and the link in the slot, closes nothing and
schedules nothing. -/
structure Unharmed (i : Nat) (link : Link) (t : Traffic) (h : List Event) : Prop where
  steps : ∀ h' v q r w h'', h = h'' ++ .answered i q r :: h' → Path t h' v →
    Step v (.answered i q r) w → w.session.status = v.session.status ∧
      ∃ b, w.session.slot = some { link with shellStat := b }
  not_closed : ∀ l r, .answered i (.remote (.close l)) r ∉ h
  not_scheduled : reconnectsBy i h = []

theorem unharmed_of_sound (run : Run H t) (start : Tenure i link status [] H t)
    (sound : ∀ x ∈ σ, Sound link x) (told : (heard i h).reverse = σ ++ [⟨.session .release, ()⟩]) :
    Unharmed i link t h := by
  have mem : ∀ {q : Action} {r : q.Reply}, .answered i q r ∈ h →
      Sound link ⟨q, r⟩ ∨ q = .session .release := by
    intro q r mem
    have asked := List.mem_reverse.2 (mem_heard.2 mem)
    rw [told] at asked
    rcases List.mem_append.1 asked with worked | left
    · exact .inl (sound _ worked)
    · cases List.mem_singleton.1 left
      exact .inr rfl
  refine ⟨fun h' v q r w h'' split path s => ?_, fun l r closed => ?_, ?_⟩
  · have before : ∀ x ∈ heard i h', Sound link x := fun x asked =>
      sound x (mem_of_append_concat ((heard_split split).symm.trans told) x
        (List.mem_reverse.2 asked))
    have calm := not_quits fun y r asked => (before _ asked).eq_useShellStat
    obtain ⟨b, inSlot⟩ := (path.tenure run start calm).slot
    have present : .answered i q r ∈ h := by simp [split]
    have leaves : Asked link ⟨q, r⟩ ∧ q ≠ .session .drop := by
      rcases mem present with sound | rfl
      · refine ⟨.sound sound, ?_⟩
        rintro rfl
        cases sound
      · exact ⟨.leaves, nofun⟩
    obtain ⟨status, slot⟩ := s.leaves_of_asked leaves.1 leaves.2
    exact ⟨status, slot b inSlot⟩
  · rcases mem closed with sound | other
    · exact Sound.not_closes sound
    · cases other
  · rw [reconnectsBy, told, List.filterMap_append, List.filterMap_eq_nil_iff.2 fun x worked =>
      (sound x worked).reconnect?_eq_none]
    rfl

/-- What caller `i` does about the loss of its link: it takes the link out of the slot. If nobody
has asked for anything newer before that, the connection ends and may be taken up again. With all
its other steps it leaves the status alone. -/
def LossHandled (o : Operation) (i : Nat) (link : Link) (c : Connection) (t : Traffic)
    (h : List Event) (u : Traffic) : Prop :=
  ∃ before next after v w, h = after ++ .answered i (.session .drop) next :: before ∧
    Path t before v ∧ Step v (.answered i (.session .drop) next) w ∧ Path w after u ∧
    w.session.slot = none ∧
    ((∀ e ∈ before, e.demand? = none) →
      w.session.status = ⟨.disconnected, some c, none, link.generation + 1⟩ ∧
      reconnectsBy i h = o.resumes ⟨c, link.generation + 1⟩) ∧
    ((∃ e ∈ before, e.demand? ≠ none) →
      w.session.status = v.session.status ∧ reconnectsBy i h = []) ∧
    ∀ h' v q r w h'', h = h'' ++ .answered i q r :: h' → h' ≠ before → Path t h' v →
      Step v (.answered i q r) w → w.session.status = v.session.status

section Lost

variable {o : Operation} {last : Heard} {closed : Remote.Attempt Unit} {next : Option Reconnect}
  {a : (Request.operate o).Answer}

abbrev lostCourse (after : AfterLoss) (link : Link) (σ : List Heard) (last : Heard)
    (closed : Remote.Attempt Unit) (next : Option Reconnect) : List Heard :=
  σ ++ last :: ⟨.remote (.close link.id), closed⟩ :: ⟨.session .drop, next⟩ ::
    ⟨.session .release, ()⟩ :: resumption after next

theorem reconnectsBy_of_lost (sound : ∀ x ∈ σ, Sound link x) (broke : Breaks link last)
    (told : (heard i h).reverse = lostCourse o.afterLoss link σ last closed next) :
    reconnectsBy i h = (resumption o.afterLoss next).filterMap Heard.reconnect? := by
  rw [reconnectsBy, told, List.filterMap_append, List.filterMap_eq_nil_iff.2 fun x worked =>
    (sound x worked).reconnect?_eq_none, List.nil_append,
    List.filterMap_cons_none broke.reconnect?_eq_none]
  rfl

theorem eq_useShellStat_of_lost {y : Section} {r : y.Reply} (sound : ∀ x ∈ σ, Sound link x)
    (broke : Breaks link last)
    (mem : ⟨.session y, r⟩ ∈ σ ++ [last, ⟨.remote (.close link.id), closed⟩]) :
    y = .useShellStat := by
  simp only [List.mem_append, List.mem_cons, List.not_mem_nil, or_false] at mem
  rcases mem with worked | rfl | closes
  · exact (sound _ worked).eq_useShellStat
  · cases broke
  · cases closes

theorem not_mem_resumption (after : AfterLoss) (next r : Option Reconnect) :
    (⟨.session .drop, r⟩ : Heard) ∉ ⟨.session .release, ()⟩ :: resumption after next := by
  intro drops
  rcases List.mem_cons.1 drops with releases | resumed
  · cases releases
  · obtain ⟨r, -, -, schedules⟩ := mem_resumption resumed
    cases schedules

theorem drop_split {after : AfterLoss} (sound : ∀ x ∈ σ, Sound link x) (broke : Breaks link last)
    (told : (heard i h).reverse = lostCourse after link σ last closed next) :
    ∃ later earlier, h = later ++ .answered i (.session .drop) next :: earlier ∧
      (∀ e ∈ earlier, ¬ e.Quits i) ∧ ∀ r, .answered i (.session .drop) r ∉ later := by
  have whole : lostCourse after link σ last closed next =
      (σ ++ [last, ⟨.remote (.close link.id), closed⟩]) ++ ⟨.session .drop, next⟩ ::
        ⟨.session .release, ()⟩ :: resumption after next := by
    simp only [lostCourse, List.append_assoc, List.cons_append, List.nil_append]
  have drops : .answered i (.session .drop) next ∈ h := by
    rw [← mem_heard, ← List.mem_reverse, told]
    simp
  have before : (⟨.session .drop, next⟩ : Heard) ∉
      σ ++ [last, ⟨.remote (.close link.id), closed⟩] :=
    fun mem => by cases eq_useShellStat_of_lost sound broke mem
  obtain ⟨later, earlier, split⟩ := List.append_of_mem drops
  rw [heard_split split, whole] at told
  obtain ⟨own, -, rest⟩ :=
    (List.append_cons_inj_of_notMem before (not_mem_resumption after next next)).1 told.symm
  refine ⟨later, earlier, split, not_quits fun y r mem => ?_, fun r mem => ?_⟩
  · exact eq_useShellStat_of_lost sound broke (own ▸ List.mem_reverse.2 mem)
  · exact not_mem_resumption after next r (rest ▸ List.mem_reverse.2 (mem_heard.2 mem))

theorem handled_of_lost (run : Run H t) (path : Path t h u)
    (start : Tenure i link t.session.status [] H t)
    (newest : t.session.status.generation = link.generation)
    (config : t.session.status.config = some c) (sound : ∀ x ∈ σ, Sound link x)
    (broke : Breaks link last)
    (told : (heard i h).reverse = lostCourse o.afterLoss link σ last closed next) :
    LossHandled o i link c t h u := by
  have asked : ∀ {q : Action} {r : q.Reply}, .answered i q r ∈ h → Asked link ⟨q, r⟩ :=
    fun mem => Aftermath.asked (α := Unit) (.lost sound broke closed next .notConnected)
      (told ▸ List.mem_reverse.2 (mem_heard.2 mem))
  obtain ⟨later, earlier, split, calm, once⟩ := drop_split sound broke told
  rw [split] at path
  obtain ⟨v, w, early, here, late⟩ := path.split
  -- Up to the drop the caller has worked on the link and closed it, and so held the slot.
  have tenure := early.tenure run start calm
  obtain ⟨b, inSlot⟩ := tenure.slot
  obtain ⟨reply, session⟩ := here.of_section
  have reconnects := reconnectsBy_of_lost sound broke told
  refine ⟨earlier, next, later, v, w, split, early, here, late, ?_, fun quiet => ?_,
    fun ⟨e, mem, demands⟩ => ?_, fun h' v q r w h'' same elsewhere path s => ?_⟩
  · rw [session]
    exact drop_slot inSlot
  · have dropped := drop_newest inSlot (by rw [tenure.status quiet]; exact newest)
    rw [tenure.status quiet, config, newest] at dropped
    subst reply
    dsimp only [Section.answer] at session reconnects
    rw [dropped] at session reconnects
    rw [session, reconnects]
    exact ⟨rfl, reconnects_of_resumption o _⟩
  · obtain ⟨d, demands⟩ := Option.ne_none_iff_exists'.1 demands
    have later := early.generation_lt mem demands
    rw [newest] at later
    have dropped := drop_older inSlot (Nat.ne_of_gt later)
    subst reply
    dsimp only [Section.answer] at session reconnects
    rw [dropped] at session reconnects
    rw [session, reconnects, resumption_none]
    exact ⟨rfl, rfl⟩
  · refine (s.leaves_of_asked (asked (same ▸ by simp)) ?_).1
    rintro rfl
    have absent : .answered i (.session .drop) r ∉ earlier := fun mem => calm _ mem rfl
    have only := (List.append_cons_inj_of_notMem (once r) absent).1 (split.symm.trans same)
    exact elsewhere only.2.2.symm

end Lost

theorem not_broke_of_sound (sound : ∀ x ∈ σ, Sound link x)
    (told : (heard i h).reverse = σ ++ [⟨.session .release, ()⟩]) : ¬ Broke i h := by
  rintro ⟨k, r, mem, broke⟩
  have asked := List.mem_reverse.2 (mem_heard.2 mem)
  rw [told] at asked
  rcases List.mem_append.1 asked with worked | left
  · cases broke.symm.trans (sound _ worked).not_breaks
  · cases List.mem_singleton.1 left

theorem broke_of_breaks {x : Heard} (breaks : Breaks link x) (mem : x ∈ heard i h) : Broke i h := by
  cases breaks with
  | call _ broke => exact ⟨_, _, mem_heard.1 mem, broke⟩

theorem Run.closed_once {l : Remote.LinkId} {r : Remote.Attempt Unit} (run : Run h t)
    (closed : .answered i (.remote (.close l)) r ∈ h) : (log l h).count (.close l) = 1 := by
  refine (run.fits l).count_close (List.mem_filterMap.2 ⟨_, closed, ?_⟩)
  exact Event.callOn?_eq (r := r) rfl rfl

/-- An operation of a connected session, from the moment when it gets the link. It comes to an end.
If no call has broken the link, it leaves the session as it is. Otherwise it fails, the link is
closed once, and the session is disconnected by this operation only as long as nobody has asked for
anything newer. -/
theorem link_loss_policy {r : Option Link} (run : Run h₀ t₀)
    (connected : t₀.session.status.phase = .connected)
    (looks : Step t₀ (.answered i (.session .current) r) t₁) :
    ∃ link c, r = some link ∧ t₀.session.slot = some link ∧ OpenedWith c link h₀ ∧
      ∀ h t, Path t₁ h t → (∃ h' u, Path t h' u ∧ Done u i) ∧
        ∀ o a p s, t.callers[i]? = some ⟨.operate o, .done a, p, s⟩ →
          (¬ Broke i h → Unharmed i link t₁ h) ∧
          (Broke i h → (∃ e, a = .error e) ∧
            (log link.id (h ++ .answered i (.session .current) r :: h₀)).count
              (.close link.id) = 1 ∧
            LossHandled o i link c t₁ h t) := by
  obtain ⟨link, c, inSlot, number, config, opened⟩ := run.opened_with connected
  obtain ⟨reply, session⟩ := looks.of_section
  have found : r = some link := by
    rw [reply]
    exact Option.filter_eq_some_iff.2 ⟨inSlot, decide_eq_true number⟩
  subst found
  have run₁ := run.step looks
  have start := Tenure.begin run looks rfl
  have same : t₀.session.status = t₁.session.status := by rw [session]; rfl
  rw [same] at number config start
  refine ⟨link, c, rfl, inSlot, opened, fun h t path => ?_⟩
  have whole : Run _ t := run₁.append path
  refine ⟨?_, fun o a p s done => ?_⟩
  · have role : roleOf i (.answered i (.session .current) (some link) :: h₀) = .working link := by
      rw [roleOf_heard, Role.eq_checking (run.plays.allows looks)]
      rfl
    have busy := path.busy run₁ (by rw [role]; trivial)
    have begun : roleOf i (h ++ .answered i (.session .current) (some link) :: h₀) ≠ .idle := by
      intro idle
      rw [idle] at busy
      exact busy
    obtain ⟨d, present⟩ := whole.plays.present begun
    exact whole.exists_done present busy
  · have aftermath := whole.aftermath done
    generalize told : (heard i h).reverse = asked at aftermath
    cases aftermath with
    | kept sound =>
      exact ⟨fun _ => unharmed_of_sound run₁ start sound told,
        fun broke => absurd broke (not_broke_of_sound sound told)⟩
    | lost sound broke closed next e =>
      have mem : ∀ x ∈ lostCourse o.afterLoss link _ _ closed next, x ∈ heard i h :=
        fun x there => List.mem_reverse.1 (told ▸ there)
      refine ⟨fun kept => absurd (broke_of_breaks broke (mem _ (by simp))) kept,
        fun _ => ⟨⟨e, rfl⟩, ?_, ?_⟩⟩
      · refine whole.closed_once (i := i) (r := closed) ?_
        exact List.mem_append_left _ (mem_heard.1 (mem _ (by simp)))
      · exact handled_of_lost run₁ path start number.symm config sound broke told

theorem exists_run_reset (c : Connection) {home : String} (known : Text.isBlankText home = false) :
    ∃ h₀ t₀ t₁ h t a p s, Run h₀ t₀ ∧ t₀.session.status.phase = .connected ∧
      Step t₀ (.answered 1 (.session .current) t₀.session.current) t₁ ∧ Path t₁ h t ∧
      t.callers[1]? = some ⟨.operate (.read "tags"), .done a, p, s⟩ ∧ Broke 1 h := by
  obtain ⟨h, connected⟩ := exists_run_connected c known
  have called := connected.step (.arrive (.operate (.read "tags")) trivial)
  dsimp at called
  have holding := called.step (.run (i := 1) rfl rfl rfl)
  dsimp [Section.answer, Section.followers] at holding
  refine ⟨_, _, _, _, _, _, _, _, holding, rfl, .run (i := 1) rfl rfl rfl,
    .step (.step (.step (.step (.step .refl
      (.call (i := 1) (k := .read 0 "tags") rfl rfl (.error (.io "reset"))))
      (.call (i := 1) (k := .close 0) rfl rfl (.ok ())))
      (.run (i := 1) rfl rfl rfl)) (.run (i := 1) rfl rfl rfl)) (.run (i := 1) rfl rfl rfl),
    rfl, ?_⟩
  exact ⟨_, _, .tail _ (.tail _ (.tail _ (.tail _ (.head _)))), rfl⟩

theorem link_loss_policy_reset :
    ∃ h₀ t₀ r t₁ h t link c, Run h₀ t₀ ∧ t₀.session.status.phase = .connected ∧
      Step t₀ (.answered 1 (.session .current) r) t₁ ∧ Path t₁ h t ∧ Broke 1 h ∧
      LossHandled (.read "tags") 1 link c t₁ h t := by
  have known : Text.isBlankText "/home/user" = false := by decide
  obtain ⟨h₀, t₀, t₁, h, t, a, p, s, run, connected, looks, path, done, broke⟩ :=
    exists_run_reset { host := "host", user := "user" } known
  obtain ⟨link, c, -, -, -, policy⟩ := link_loss_policy run connected looks
  have handled := ((policy h t path).2 _ a p s done).2 broke
  exact ⟨h₀, t₀, _, t₁, h, t, link, c, run, connected, looks, path, broke, handled.2.2⟩

end Traffic

end RemoteTags.Session
