import RemoteTags.Proofs.Session.Progress

/-! The last request wins. A connect that a newer request overtakes changes nothing from then on
and ends with the news; so does a reconnect that comes too late to begin. -/

namespace RemoteTags.Session

def Role.Connects (g : Nat) : Role → Prop
  | clearing _ n | retiring _ n _ | opening _ n | settling n _ => n = g
  | dismissing _ | overtaken | finished => True
  | _ => False

def Role.Late (g : Nat) : Role → Prop
  | clearing _ n | retiring _ n _ | opening _ n | settling n _ => n < g
  | dismissing _ | overtaken => True
  | _ => False

namespace Role

variable {ρ : Role} {q : Action} {g : Nat}

theorem Late.mono {g' : Nat} (late : ρ.Late g) (le : g ≤ g') : ρ.Late g' := by
  cases ρ with
  | clearing | retiring | opening | settling => exact Nat.lt_of_lt_of_le late le
  | _ => exact late

theorem Connects.after (c : ρ.Connects g) (allowed : ρ.Allows q) (r : q.Reply) :
    (ρ.after q r).Connects g := by
  cases ρ with
  | clearing c' n =>
    cases allows_clearing allowed
    cases r <;> exact c
  | retiring c' n link =>
    cases allows_retiring allowed
    exact c
  | opening c' n =>
    cases allows_opening allowed
    match r with
    | none | some (.error _) | some (.ok _) => exact c
  | settling n link =>
    obtain ⟨o, rfl, -⟩ := allows_settling allowed
    match r with
    | .connected | .failed _ | .stale none | .stale (some _) => trivial
  | dismissing link =>
    cases allows_dismissing allowed
    trivial
  | overtaken | finished => exact allowed.elim
  | _ => exact c.elim

theorem Late.after (late : ρ.Late g) (allowed : ρ.Allows q) (r : q.Reply)
    (told : ∀ n o a, (⟨q, r⟩ : Σ q : Action, q.Reply) = ⟨.session (.install n o), a⟩ →
      ∃ link, a = .stale link) : (ρ.after q r).Late g := by
  cases ρ with
  | clearing c' n =>
    cases allows_clearing allowed
    cases r <;> exact late
  | retiring c' n link =>
    cases allows_retiring allowed
    exact late
  | opening c' n =>
    cases allows_opening allowed
    match r with
    | none | some (.error _) | some (.ok _) => exact late
  | settling n link =>
    obtain ⟨o, rfl, -⟩ := allows_settling allowed
    obtain ⟨link, rfl⟩ := told n o r rfl
    cases link <;> trivial
  | dismissing link =>
    cases allows_dismissing allowed
    trivial
  | overtaken => exact allowed.elim
  | _ => exact late.elim

theorem allows_cases (h : ρ.Allows q) :
    (∃ k, q = .remote k) ∨ (∃ x, q = .session x) ∨ ∃ c n, q = .opening c n := by
  cases q with
  | remote k => exact .inl ⟨k, rfl⟩
  | session x => exact .inr (.inl ⟨x, rfl⟩)
  | opening c n => exact .inr (.inr ⟨c, n, rfl⟩)
  | _ => cases ρ <;> exact h.elim

theorem Late.not_holds (late : ρ.Late g) : ¬ ρ.Holds := by
  cases ρ with
  | clearing | retiring | opening | settling | dismissing | overtaken => exact id
  | _ => exact late.elim

theorem Late.section {x : Section} (late : ρ.Late g) (allowed : ρ.Allows (.session x)) :
    (∃ n, x = .takeOlder n) ∨ ∃ n o, x = .install n o ∧ n < g := by
  cases ρ with
  | clearing c n =>
    cases allows_clearing allowed
    exact .inl ⟨n, rfl⟩
  | settling n link =>
    obtain ⟨o, same, -⟩ := allows_settling allowed
    cases same
    exact .inr ⟨n, o, rfl, late⟩
  | retiring => cases allows_retiring allowed
  | opening => cases allows_opening allowed
  | dismissing => cases allows_dismissing allowed
  | overtaken => exact allowed.elim
  | _ => exact late.elim

end Role

namespace Traffic

variable {t u v : Traffic} {h h' : List Event} {e : Event} {d d' : Demand} {i : Nat}

theorem Plays.overtaken (p : Plays h t) {g : Nat} (late : (roleOf i h).Late g) (done : Done t i) :
    Overtaken t i := by
  have may := p.mayEnd_of_done done
  obtain ⟨c, a, present, rest⟩ := done
  have ends := p.keeps i c present
  rw [rest] at ends
  refine ⟨c, a, present, rest, ends.2.1 ?_⟩
  cases now : roleOf i h <;> rw [now] at may late <;> first | rfl | exact may.elim | exact late.elim

/-- A late connect touches nothing but older links, and goes on being late. -/
theorem Plays.late_step (p : Plays h t)
    (late : (roleOf i h).Late t.session.status.generation) (s : Step t e u) :
    (roleOf i (e :: h)).Late u.session.status.generation ∧
      (e.caller = i → u.session.status = t.session.status ∧
        (u.session.slot = t.session.slot ∨ u.session.slot = none)) := by
  constructor
  · refine Role.Late.mono ?_ s.generation_le
    by_cases heard : e.Answers i
    · cases e with
      | answered j q r =>
        cases (show j = i from heard)
        rw [roleOf_heard]
        refine late.after (p.allows s) r ?_
        rintro n o a asked
        cases asked
        rw [s.of_section.1]
        have allowed := p.allows s
        rw [Role.eq_settling allowed] at late
        exact ⟨_, congrArg Prod.fst (t.session.install_of_ne (Nat.ne_of_gt late) o)⟩
      | _ => exact heard.elim
    · rwa [roleOf_quiet h heard]
  · rintro rfl
    rcases s.session_cases with ⟨same, -⟩ | ⟨j, x, rfl, after, -⟩
    · rw [same]
      exact ⟨rfl, .inl rfl⟩
    · rw [after]
      rcases Role.Late.section late (p.allows s) with ⟨n, rfl⟩ | ⟨n, o, rfl, older⟩
      · dsimp only [Section.answer]
        rcases t.session.takeOlder_cases n with same | taken
        · rw [same]
          exact ⟨rfl, .inl rfl⟩
        · rw [taken]
          exact ⟨rfl, .inr rfl⟩
      · dsimp only [Section.answer]
        rw [t.session.install_of_ne (Nat.ne_of_gt older) o]
        exact ⟨rfl, .inl rfl⟩

theorem Path.late (path : Path t h' u) (run : Run h t)
    (late : (roleOf i h).Late t.session.status.generation) :
    (roleOf i (h' ++ h)).Late u.session.status.generation := by
  induction path with
  | refl => exact late
  | step before last ih => exact ((Run.plays (run.append before)).late_step ih last).1

theorem Run.exists_overtaken {q : Request} {p : Act q.Answer} {o s : Option Opener}
    (run : Run h t) (late : (roleOf i h).Late t.session.status.generation)
    (present : t.callers[i]? = some ⟨q, p, o, s⟩) :
    ∃ h' u, Path t h' u ∧ Overtaken u i := by
  induction p generalizing h t o s with
  | done a => exact ⟨[], t, .refl, run.plays.overtaken late ⟨_, a, present, rfl⟩⟩
  | ask a next ih =>
    have allowed : (roleOf i h).Allows a := (run.plays.keeps i _ present).1
    have goOn : ∀ {h' : List Event} {u : Traffic} {r : a.Reply} {o s : Option Opener},
        Path t h' u → u.callers[i]? = some ⟨q, next r, o, s⟩ →
        ∃ h' u, Path t h' u ∧ Overtaken u i := by
      intro h' u r o s path there
      obtain ⟨h'', v, path', overtaken⟩ := ih r (run.append path) (path.late run late) there
      exact ⟨_, v, path.append path', overtaken⟩
    rcases Role.allows_cases allowed with ⟨k, rfl⟩ | ⟨x, rfl⟩ | ⟨c, n, rfl⟩
    · obtain ⟨r⟩ : Nonempty k.Reply := inferInstance
      exact goOn (Path.refl.step (.call present rfl r)) (get?_set present)
    · obtain ⟨h', u, path, free, there⟩ := run.exists_free present late.not_holds
      exact goOn (path.step (.run there rfl (by rw [free, Bool.and_false])))
        (get?_append (get?_set there))
    · cases o with
      | some opener =>
        exact goOn (Path.refl.step (.expire present rfl rfl)) (get?_set present)
      | none =>
        have launched := Path.refl.step (.launch present rfl rfl)
        have expired := launched.step (.expire (get?_set present) rfl rfl)
        exact goOn expired (get?_set (get?_set present))

theorem Step.generation_lt (s : Step t e u) (demands : e.demand? = some d) :
    t.session.status.generation < u.session.status.generation := by
  obtain ⟨next, ⟨_, _, -, -, after⟩ | ⟨-, -, after⟩⟩ := s.of_demand demands <;>
    exact after ▸ next ▸ Nat.lt_succ_self _

theorem Run.connects {c : Connection} (run : Run h t) (began : e ∈ h)
    (demands : e.demand? = some d) (wants : d.config = some c) :
    (roleOf d.caller h).Connects d.generation := by
  induction run with
  | refl => cases began
  | @step h t u e' path last ih =>
    have p := Run.plays path
    rcases List.mem_cons.1 began with rfl | before
    · rw [roleOf_of_demand p last demands wants]
      exact rfl
    · by_cases heard : e'.Answers d.caller
      · cases e' with
        | answered j q r =>
          cases (show j = d.caller from heard)
          rw [roleOf_heard]
          exact (ih before).after (p.allows last) r
        | _ => exact heard.elim
      · rw [roleOf_quiet h heard]
        exact ih before

theorem idle_of_demand (p : Plays h t) (s : Step t e u) (demands : e.demand? = some d) :
    roleOf d.caller h = .idle := by
  obtain ⟨-, ⟨c, x, -, rfl, -⟩ | ⟨-, rfl, -⟩⟩ := s.of_demand demands
  · exact Role.eq_idle_of_begin (p.allows s)
  · exact Role.eq_idle_of_beginDisconnect (p.allows s)

theorem Run.late_of_demand {c : Connection} {e' : Event} (run : Run h t) (began : e ∈ h)
    (demands : e.demand? = some d) (wants : d.config = some c) (unfinished : ¬ Done t d.caller)
    (s : Step t e' u) (newer : e'.demand? = some d') :
    (roleOf d.caller (e' :: h)).Late u.session.status.generation := by
  have p := run.plays
  have connects := run.connects began demands wants
  have other : d.caller ≠ d'.caller := by
    intro same
    rw [same, idle_of_demand p s newer] at connects
    exact connects
  have still : roleOf d.caller (e' :: h) = roleOf d.caller h := by
    obtain ⟨-, ⟨_, _, -, rfl, -⟩ | ⟨-, rfl, -⟩⟩ := s.of_demand newer <;> exact roleOf_other other ..
  have grows := s.generation_lt newer
  rw [still]
  have older : ∀ n, (roleOf d.caller h).attempt? = some n → n < u.session.status.generation :=
    fun n taken => Nat.lt_of_le_of_lt (run.agrees.attempt_le _ n taken) grows
  cases now : roleOf d.caller h with
  | clearing c n | retiring c n link | opening c n => exact older n (by rw [now]; rfl)
  | settling n link => exact older n (by rw [now]; rfl)
  | dismissing | overtaken => trivial
  | finished => exact absurd (p.done_of_finished now) unfinished
  | _ => exact (now ▸ connects).elim

/-- A connect that has been overtaken: it ends with the news, which it can always do, and none of
its steps touches the status or brings a link into the slot. -/
structure Outrun (i : Nat) (t : Traffic) : Prop where
  told : Done t i → Overtaken t i
  ends : ∃ h u, Path t h u ∧ Overtaken u i
  harmless : ∀ e u, Step t e u → e.caller = i →
    u.session.status = t.session.status ∧
      (u.session.slot = t.session.slot ∨ u.session.slot = none)

theorem Run.outrun (run : Run h t)
    (late : (roleOf i h).Late t.session.status.generation) : Outrun i t where
  told := run.plays.overtaken late
  ends := by
    have begun : roleOf i h ≠ .idle := by
      intro idle
      rw [idle] at late
      exact late
    obtain ⟨c, present⟩ := run.plays.present begun
    exact run.exists_overtaken late (o := c.opener) present
  harmless e u step own := (run.plays.late_step late step).2 own

theorem Path.generation_le (path : Path t h u) :
    t.session.status.generation ≤ u.session.status.generation := by
  induction path with
  | refl => exact Nat.le_refl _
  | step _ last ih => exact Nat.le_trans ih last.generation_le

theorem Path.generation_lt (path : Path t h u) (began : e ∈ h) (demands : e.demand? = some d) :
    t.session.status.generation < u.session.status.generation := by
  induction path with
  | refl => cases began
  | step before last ih =>
    rcases List.mem_cons.1 began with rfl | earlier
    · exact Nat.lt_of_le_of_lt before.generation_le (last.generation_lt demands)
    · exact Nat.lt_of_lt_of_le (ih earlier) last.generation_le

theorem generation_of_drop {s : Session} {r : Reconnect} (follows : s.drop.1 = some r) :
    s.drop.2.status.generation = r.generation := by
  unfold drop at follows ⊢
  split at follows
  · cases follows
  · dsimp only at follows ⊢
    split at follows
    · cases follows
    · rename_i current
      rw [if_neg current]
      obtain ⟨c, -, rfl⟩ := Option.map_eq_some_iff.1 follows
      rfl

/-- A reconnect that has not begun, or has been told that it is too late. -/
inductive Belated (r : Reconnect) : Caller → Prop where
  | before : Belated r (.start (.resume r))
  | after : Belated r { request := .resume r, rest := .done (.error .superseded) }

theorem Step.belated {r : Reconnect} {c : Caller} (b : Belated r c)
    (late : r.generation < t.session.status.generation) (there : t.callers[i]? = some c)
    (s : Step t e u) :
    (∃ c', u.callers[i]? = some c' ∧ Belated r c') ∧
      (e.caller = i → e = .answered i (.session (.begin r.config (some r.generation))) none ∧
        u.session = t.session ∧ Overtaken u i) := by
  by_cases own : e.caller = i
  · cases own
    cases s with
    | arrive q _ =>
      have := (List.getElem?_eq_some_iff.1 there).1
      exact absurd this (Nat.lt_irrefl _)
    | run present asks free =>
      cases present.symm.trans there
      cases b with
      | before =>
        cases asks
        have turned : t.session.begin r.config (some r.generation) = (none, t.session) :=
          if_pos (by simpa using Nat.ne_of_lt late)
        dsimp only [Section.answer]
        rw [turned]
        exact ⟨⟨_, get?_append (get?_set present), .after⟩,
          fun _ => ⟨rfl, rfl, _, _, get?_append (get?_set present), rfl, rfl⟩⟩
      | after => cases asks
    | call present asks | launch present asks | opened present asks | expire present asks =>
      cases present.symm.trans there
      cases b <;> cases asks
    | proceed present asks | stray present asks | discard present asks =>
      cases present.symm.trans there
      cases b <;> cases asks
  · exact ⟨⟨c, s.still (Ne.symm own) there, b⟩, fun same => absurd same own⟩

theorem Path.belated {r : Reconnect} {c : Caller} (b : Belated r c)
    (late : r.generation < t.session.status.generation) (there : t.callers[i]? = some c)
    (path : Path t h u) : ∃ c', u.callers[i]? = some c' ∧ Belated r c' := by
  induction path with
  | refl => exact ⟨c, there, b⟩
  | step before last ih =>
    obtain ⟨c', there', b'⟩ := ih
    exact (last.belated b' (Nat.lt_of_lt_of_le late before.generation_le) there').1

theorem Run.generation_of_loss {j : Nat} {r : Reconnect}
    (run : Run (.answered j (.session .drop) (some r) :: h) t) :
    t.session.status.generation = r.generation := by
  cases run with
  | step path last =>
    obtain ⟨reply, after⟩ := last.of_section
    rw [after]
    exact generation_of_drop reply.symm

/-- The last request wins. The newest request decides the session until there is a newer one. A
connect that has not ended when a newer request comes is outrun for good. A reconnect that follows
the loss of a link, but begins after a newer request, changes nothing, opens nothing and is told
so at once. -/
theorem last_request_wins :
    (∀ h t d h' u, Run h t → latest? h = some d → Path t h' u →
      (∀ e ∈ h', e.demand? = none) → DecidedBy d (h' ++ h) u) ∧
    (∀ h t e d e' d' u h' v, Run h t → e ∈ h → e.demand? = some d → d.config.isSome →
      ¬ Done t d.caller → Step t e' u → e'.demand? = some d' → Path u h' v →
      Outrun d.caller v) ∧
    ∀ h t j r h' u e d i, Run (.answered j (.session .drop) (some r) :: h) t →
      Path t h' u → e ∈ h' → e.demand? = some d → u.callers[i]? = some (.start (.resume r)) →
      (∃ e' v, Step u e' v ∧ e'.caller = i) ∧
        ∀ h'' v e' w, Path u h'' v → Step v e' w → e'.caller = i →
          e' = .answered i (.session (.begin r.config (some r.generation))) none ∧
            w.session = v.session ∧ Overtaken w i := by
  refine ⟨?_, ?_, ?_⟩
  · intro h t d h' u run latest path quiet
    refine Run.decided (run.append path) ?_
    rw [latest?, List.findSome?_append, List.findSome?_eq_none_iff.2 quiet]
    exact latest
  · intro h t e d e' d' u h' v run began demands wants unfinished s newer path
    obtain ⟨c, wants⟩ := Option.isSome_iff_exists.1 wants
    have late := run.late_of_demand began demands wants unfinished s newer
    exact Run.outrun ((run.step s).append path) (path.late (run.step s) late)
  · intro h t j r h' u e d i run path began demands there
    have late : r.generation < u.session.status.generation := by
      rw [← run.generation_of_loss]
      exact path.generation_lt began demands
    refine ⟨⟨_, _, .run there rfl rfl, rfl⟩, fun h'' v e' w path' s own => ?_⟩
    obtain ⟨c, there', b⟩ := path'.belated .before late there
    exact (s.belated b (Nat.lt_of_lt_of_le late path'.generation_le) there').2 own

theorem exists_run_lost (c : Connection) {home : String} (known : Text.isBlankText home = false) :
    ∃ h t h' u, Run (.answered 1 (.session .drop) (some ⟨c, 2⟩) :: h) t ∧ Path t h' u ∧
      u.callers.length = 3 ∧ u.callers[2]? = some (.start (.resume ⟨c, 2⟩)) := by
  obtain ⟨h, connected⟩ := exists_run_connected c known
  have called := connected.step (.arrive (.operate (.read "tags")) trivial)
  dsimp at called
  have holding := called.step (.run (i := 1) rfl rfl rfl)
  dsimp [Section.answer, Section.followers] at holding
  have looked := holding.step (.run (i := 1) rfl rfl rfl)
  dsimp [Section.answer, Section.followers, current] at looked
  have failed := looked.step (.call (i := 1) (k := .read 0 "tags") rfl rfl (.error (.io "reset")))
  dsimp at failed
  have closed := failed.step (.call (i := 1) (k := .close 0) rfl rfl (.ok ()))
  dsimp at closed
  have lost := closed.step (.run (i := 1) rfl rfl rfl)
  dsimp [Section.answer, Section.followers, drop] at lost
  refine ⟨_, _, _, _, lost, .step (.step .refl (.run (i := 1) rfl rfl rfl))
    (.run (i := 1) rfl rfl rfl), rfl, rfl⟩

/-- A disconnect overtakes a connect, and another one a reconnect. -/
theorem last_request_wins_disconnect :
    (∃ h t d, Run h t ∧ d.config.isSome ∧ DecidedBy d h t) ∧ (∃ h t, Run h t ∧ Outrun 0 t) ∧
      ∃ h t e u, Run h t ∧ Step t e u ∧ u.session = t.session ∧ Overtaken u 2 := by
  let c : Connection := { host := "host", user := "user" }
  have called : Run _ { callers := [.start (.connect c)] } :=
    Path.refl.step (.arrive (.connect c) trivial)
  have begun := called.step (.run (i := 0) rfl rfl rfl)
  dsimp [Section.answer, begin, Section.followers] at begun
  have decided := last_request_wins.1 _ _ ⟨0, some c, 1⟩ [] _ begun rfl .refl (by simp)
  refine ⟨⟨_, _, _, begun, rfl, decided⟩, ?_, ?_⟩
  · have quits := begun.step (.arrive .disconnect trivial)
    dsimp at quits
    have stopped := quits.step (.run (i := 1) rfl rfl rfl)
    refine ⟨_, _, stopped, ?_⟩
    refine last_request_wins.2.1 _ _ (.answered 0 (.session (.begin c none)) (some 1))
      ⟨0, some c, 1⟩ _ ⟨1, none, 2⟩ _ [] _ quits (by simp) rfl rfl ?_
      (.run (i := 1) rfl rfl rfl) rfl .refl
    rintro ⟨_, _, ⟨⟩, ⟨⟩⟩
  · have known : Text.isBlankText "/home/user" = false := by decide
    obtain ⟨h, t, h', u, lost, path, count, there⟩ := exists_run_lost c known
    have last : (u.callers ++ [Caller.start .disconnect])[3]? = some (.start .disconnect) := by
      rw [List.getElem?_append_right (Nat.le_of_eq count), count]
      rfl
    have begins := Step.run (t := { u with callers := u.callers ++ [.start .disconnect] })
      last rfl rfl
    have quits := (path.step (.arrive .disconnect trivial)).step begins
    obtain ⟨⟨e, v, s, own⟩, turned⟩ := last_request_wins.2.2 _ _ _ _ _ _
      _ ⟨3, none, _⟩ 2 lost quits List.mem_cons_self rfl
      (begins.still nofun (get?_append there))
    exact ⟨_, _, e, v, lost.append quits, s, (turned _ _ e v .refl s own).2⟩

end Traffic

end RemoteTags.Session
