import RemoteTags.Proofs.Session.Account

/-! What becomes of the links that have been dialled. When all is quiet, each of them is in the slot
or has been closed, but for the link of an open that went on after its caller had stopped waiting:
that one is given up, and stays open for good. -/

namespace RemoteTags.Session

theorem Role.not_mayEnd_of_owned? {ρ : Role} {link : Link} (owns : ρ.owned? = some link) :
    ¬ ρ.MayEnd := by
  cases ρ with
  | retiring | dismissing | shutting | settling => exact id
  | _ => cases owns

namespace Fits

variable {l : Remote.LinkId} {a : Life} {k : Remote.Call} {ks : List Remote.Call}

theorem born (fits : Fits l a ks) (called : k ∈ ks) : a ≠ .unborn := by
  cases fits with
  | unborn => cases called
  | _ => exact nofun

theorem close_mem (fits : Fits l .closed ks) : .close l ∈ ks := by
  cases fits
  exact List.mem_cons_self

theorem not_close_mem (fits : Fits l .live ks) : .close l ∉ ks := by
  cases fits with
  | live c ops operate =>
    intro closed
    rcases List.mem_append.1 closed with op | begins
    · exact operate _ op
    · simp at begins

end Fits

namespace Traffic

variable {t u : Traffic} {h : List Event} {e : Event} {i j : Nat} {l : Remote.LinkId} {a : Life}
  {side : Side} {link : Link}

/-- The link is open, and nobody has it. -/
structure Lost (l : Remote.LinkId) (h : List Event) (t : Traffic) : Prop where
  live : lifeOf l h = .live
  nowhere : ∀ x a, ¬ Has h t x l a

theorem Lost.quiet (lost : Lost l h t) (run : Run h t) (s : Step t e u) : e.callOn? l = none := by
  cases calls : e.callOn? l with
  | none => rfl
  | some k =>
    rcases run.has_of_callOn? s calls with ⟨x, a, has, -⟩ | ⟨unborn, -⟩
    · exact absurd has (lost.nowhere x a)
    · cases lost.live.symm.trans unborn

theorem Has.slot_origin (run : Run h t) (s : Step t e u) (has : Has (e :: h) u .slot l a) :
    ∃ x b, Has h t x l b := by
  cases has with
  | @slot link inSlot sound =>
    rcases s.slot_cases inSlot with ⟨old, b, was, rfl⟩ | ⟨i, rfl⟩
    · refine ⟨.slot, .live, Has.slot_before run.plays s (.slot inSlot sound) fun other there => ?_⟩
      cases inSlot.symm.trans there
      exact ⟨old, was, rfl⟩
    · refine ⟨.caller i, .live, .caller ?_⟩
      rw [Role.eq_settling (run.plays.allows s)]
      rfl

theorem Run.has_of_taken {g : Nat} (run : Run h t)
    (s : Step t (.answered i (.session (.takeOlder g)) (some link)) u) :
    Has h t .slot link.id .live := by
  have reply := s.of_section.1
  dsimp only [Section.answer] at reply
  rcases t.session.takeOlder_eq g with kept | ⟨old, was, taken⟩
  · rw [kept] at reply
    cases reply
  · rw [taken] at reply
    cases reply
    refine .slot was fun j drops => ?_
    have holds := (congrArg Role.Holds drops).mpr trivial
    exact run.manned.nobody (s.free_of_waits rfl) j holds

theorem Run.has_of_stale {g : Nat} {o : Except ConnectError Link} (run : Run h t)
    (s : Step t (.answered i (.session (.install g o)) (.stale (some link))) u) :
    Has h t (.caller i) link.id .live := by
  have reply := s.of_section.1
  dsimp only [Section.answer] at reply
  by_cases newest : t.session.status.generation = g
  · subst newest
    exact absurd reply.symm (t.session.install_newest_ne_stale o _)
  · rw [t.session.install_of_ne newest o] at reply
    refine .caller ?_
    rw [Role.eq_settling (run.plays.allows s)]
    exact (Installed.stale.inj reply).symm

theorem Step.has_of_opened {q : Connection} {g : Nat}
    (s : Step t (.answered i (.opening q g) (some (.ok link))) u) :
    Has h t (.opener i .awaited) link.id .live := by
  cases s with
  | opened present asks ended => exact .opener .awaited present ended rfl

theorem Has.caller_origin (run : Run h t) (s : Step t e u) (has : Has (e :: h) u (.caller i) l a) :
    ∃ x b, Has h t x l b := by
  by_cases heard : e.Answers i
  · cases e with
    | answered k q r =>
      cases (show k = i from heard)
      have allowed := run.plays.allows s
      cases has with
      | @caller _ link owns =>
        rw [roleOf_heard] at owns
        by_cases gives : Gives q
        · match q, r, gives with
          | .session (.takeOlder g), r, _ =>
            rw [Role.owned?_taken allowed] at owns
            subst owns
            exact ⟨_, _, run.has_of_taken s⟩
          | .session (.install g o), .stale stale, _ =>
            rw [Role.owned?_stale allowed] at owns
            subst owns
            exact ⟨_, _, run.has_of_stale s⟩
          | .session (.install g o), .connected, _ | .session (.install g o), .failed _, _ =>
            rw [Role.eq_settling allowed] at owns
            cases owns
          | .opening q g, r, _ =>
            rw [Role.owned?_opened allowed] at owns
            match r, owns with
            | some (.ok _), rfl => exact ⟨_, _, s.has_of_opened⟩
        · exact ⟨.caller i, .live, .caller (Role.owned?_of_after owns gives)⟩
    | _ => exact heard.elim
  · exact ⟨_, _, has.caller_before heard⟩

theorem Has.opener_origin (run : Run h t) (s : Step t e u)
    (has : Has (e :: h) u (.opener i side) l a) :
    a = .dialled ∨ ∃ side b, Has h t (.opener i side) l b := by
  cases has with
  | opener _ there opens owns =>
    cases s.descends there opens with
    | same present opens => exact .inr ⟨side, a, .opener side present opens owns⟩
    | launched => cases owns
    | left present running => exact .inr ⟨.awaited, a, .opener .awaited present running owns⟩
    | @goesOn _ _ k _ present asks r =>
      obtain ⟨stage, allowed, goes⟩ := run.tended i _ side _ present asks
      rw [ownedBy_of_tends (goes r)] at owns
      match stage, k, allowed, r with
      | .dialling, .dial _, _, .ok _ =>
        cases owns
        exact .inl rfl
      | .dialling, .dial _, _, .error _ => cases owns
      | .asking m, .home _, rfl, _ =>
        cases owns
        exact .inr ⟨side, .dialled, .opener side present asks rfl⟩
      | .ending m, .close _, rfl, _ => cases owns

theorem Lost.step (lost : Lost l h t) (run : Run h t) (s : Step t e u) : Lost l (e :: h) u := by
  have live : lifeOf l (e :: h) = .live := (lifeOf_quiet (lost.quiet run s)).trans lost.live
  refine ⟨live, fun x a has => ?_⟩
  cases ((Run.owned (run.step s)).lives x l a has).symm.trans live
  have ⟨y, b, before⟩ : ∃ y b, Has h t y l b := by
    cases x with
    | slot => exact has.slot_origin run s
    | caller i => exact has.caller_origin run s
    | opener i side =>
      obtain ⟨side, b, before⟩ := (has.opener_origin run s).resolve_left nofun
      exact ⟨_, b, before⟩
  exact lost.nowhere y b before

theorem Run.lost_of_discard (run : Run h t) (s : Step t (.discarded i (.ok link)) u) :
    Lost link.id (.discarded i (.ok link) :: h) u := by
  have step := s
  cases s with
  | @discard _ c _ present ended =>
    have has : Has h t (.opener i .stray) link.id .live := .opener .stray present ended rfl
    refine ⟨(lifeOf_quiet rfl).trans (run.owned.lives _ _ _ has), fun x a now => ?_⟩
    have only : ∀ y, Has h t y link.id a → y = .opener i .stray :=
      fun y before => run.owned.unique y _ _ a .live before has
    cases x with
    | slot => cases only _ (now.slot_before run.plays step fun link there => ⟨link, there, rfl⟩)
    | caller j => cases only _ (now.caller_before id)
    | opener j side =>
      rcases now.opener_before (List.append_nil _).symm nofun with
        ⟨rfl, p, opens, owns⟩ | ⟨other, before⟩
      · cases side with
        | awaited => cases only _ (.opener .awaited present opens owns)
        | stray => cases opens
      · cases only _ before
        exact other rfl

theorem Run.lost (run : Run h t) (discarded : Discarded l h) : Lost l h t := by
  obtain ⟨i, link, rfl, gone⟩ := discarded
  induction run with
  | refl => cases gone
  | @step h t u e path last ih =>
    rcases List.mem_cons.1 gone with rfl | earlier
    · exact Run.lost_of_discard path last
    · exact (ih earlier).step path last

/-- Nothing is under way any more: every caller has returned, and no open is left. -/
def Quiet (t : Traffic) : Prop :=
  ∀ (i : Nat) (c : Caller), t.callers[i]? = some c →
    (∃ a, c.rest = .done a) ∧ c.opener = none ∧ c.stray = none

def HandedOut (l : Remote.LinkId) (h : List Event) : Prop := ∃ c, .dial c ∈ log l h

def Kept (l : Remote.LinkId) (h : List Event) (t : Traffic) : Prop :=
  (∃ link, t.session.slot = some link ∧ link.id = l) ∨ .close l ∈ log l h

/-- The open of link `l` ended after its caller had been told that the time was up. -/
def CameLate (l : Remote.LinkId) (h : List Event) : Prop :=
  ∃ i link c g, link.id = l ∧ .discarded i (.ok link) ∈ h ∧ .answered i (.opening c g) none ∈ h

theorem Run.told_of_discard {o : Except ConnectError Link} (run : Run h t)
    (gone : .discarded i o ∈ h) : ∃ c g, .answered i (.opening c g) none ∈ h := by
  induction run with
  | refl => cases gone
  | @step h t u e path last ih =>
    have told : ∃ c g, .answered i (.opening c g) none ∈ h := by
      rcases List.mem_cons.1 gone with rfl | earlier
      · cases last with
        | discard present ended => exact Run.told path present (by rw [ended]; exact nofun)
      · exact ih earlier
    obtain ⟨c, g, told⟩ := told
    exact ⟨c, g, List.mem_cons_of_mem e told⟩

theorem Run.mayEnd_of_quiet (run : Run h t) (quiet : Quiet t) (i : Nat) : (roleOf i h).MayEnd := by
  by_cases idle : roleOf i h = .idle
  · rw [idle]
    trivial
  · obtain ⟨c, present⟩ := run.plays.present idle
    obtain ⟨a, rest⟩ := (quiet i c present).1
    exact run.plays.mayEnd_of_done ⟨c, a, present, rest⟩

/-- When all is quiet, every link that has been handed out is in the slot or has been closed, except
for the links of those opens that ended when their callers had been told that the time was up. -/
theorem kept_unless_late (run : Run h t) (quiet : Quiet t) (out : HandedOut l h) :
    ¬ Kept l h t ↔ CameLate l h := by
  have fits := run.fits l
  constructor
  · intro leaked
    obtain ⟨c, dials⟩ := out
    rcases run.accounted (fits.born dials) with closed | ⟨x, a, has⟩ | ⟨i, link, same, gone⟩
    · exact absurd (.inr ((closed ▸ fits).close_mem)) leaked
    · cases has with
      | slot inSlot => exact absurd (.inl ⟨_, inSlot, rfl⟩) leaked
      | @caller i _ owns =>
        exact absurd (run.mayEnd_of_quiet quiet i) (Role.not_mayEnd_of_owned? owns)
      | opener side present opens =>
        obtain ⟨-, awaited, stray⟩ := quiet _ _ present
        cases side with
        | awaited => cases awaited.symm.trans opens
        | stray => cases stray.symm.trans opens
    · obtain ⟨c, g, told⟩ := run.told_of_discard gone
      exact ⟨i, link, c, g, same, gone, told⟩
  · rintro ⟨i, link, -, -, same, gone, -⟩ (⟨here, inSlot, rfl⟩ | closed)
    · refine (run.lost ⟨i, link, same, gone⟩).nowhere .slot .live (.slot inSlot fun j drops => ?_)
      have may := run.mayEnd_of_quiet quiet j
      rw [drops] at may
      exact may
    · rw [(run.lost ⟨i, link, same, gone⟩).live] at fits
      exact fits.not_close_mem closed

/-- The time is up before the link has been dialled. -/
theorem kept_unless_late_dialled :
    ∃ h t, Run h t ∧ Quiet t ∧ HandedOut 0 h ∧ ¬ Kept 0 h t := by
  let c : Connection := { host := "host", user := "user" }
  have called : Run _ { callers := [.start (.connect c)] } :=
    Path.refl.step (.arrive (.connect c) trivial)
  have begun := called.step (.run (i := 0) rfl rfl rfl)
  dsimp [Section.answer, begin, Section.followers] at begun
  have cleared := begun.step (.run (i := 0) rfl rfl rfl)
  dsimp [Section.answer, takeOlder, Section.followers] at cleared
  have launched := cleared.step (.launch (i := 0) rfl rfl rfl)
  dsimp at launched
  have expired := launched.step (.expire (i := 0) rfl rfl rfl)
  dsimp at expired
  have told := expired.step (.run (i := 0) rfl rfl rfl)
  dsimp [Section.answer, install, Section.followers] at told
  have dialled := told.step (.stray (i := 0) (k := .dial c) rfl rfl (.ok 0) rfl)
  dsimp at dialled
  have homed := dialled.step (.stray (i := 0) (k := .home 0) rfl rfl (.ok "/home/user") trivial)
  have discarded := homed.step (.discard (i := 0) rfl rfl)
  dsimp at discarded
  obtain ⟨h, t, run, quiet, out, late⟩ :
      ∃ h t, Run h t ∧ Quiet t ∧ HandedOut 0 h ∧ CameLate 0 h := by
    refine ⟨_, _, discarded, fun i d present => ?_, ⟨c, ?_⟩, ?_⟩
    · cases i with
      | zero =>
        cases present
        exact ⟨⟨_, rfl⟩, rfl, rfl⟩
      | succ i => cases present
    · exact List.mem_filterMap.2 ⟨.straying 0 (.dial c) (.ok 0), by simp, rfl⟩
    · exact ⟨0, ⟨0, _, false, _, 1⟩, c, 1, rfl, List.mem_cons_self, by simp⟩
  exact ⟨h, t, run, quiet, out, (kept_unless_late run quiet out).2 late⟩

end Traffic

end RemoteTags.Session
