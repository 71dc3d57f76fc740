import RemoteTags.Proofs.Effect.Process
import RemoteTags.Proofs.Session.Progress

/-! A process in which only the main program has its turns. As the program never waits for a slot
that it holds itself, nothing stops it: the process then does what the program does when it is run
from beginning to end. -/

namespace RemoteTags

namespace Action

def waits : Action → Bool
  | .session x => x.waits
  | _ => false

def holdsAfter : Action → Bool → Bool
  | .session .hold, _ => true
  | .session .release, _ => false
  | _, held => held

end Action

/-- The program, which holds the slot if `held`, waits for it only while it does not hold it, and
gives it back in the end. -/
def Brackets {α : Type} : Bool → Act α → Prop
  | held, .done _ => held = false
  | held, .ask q next =>
    (q.waits = true → held = false) ∧ ∀ r, Brackets (q.holdsAfter held) (next r)

theorem Brackets.bind {α β : Type} {held : Bool} {p : Act α} {f : α → Act β}
    (brackets : Brackets held p) (follows : ∀ a, Brackets false (f a)) :
    Brackets held (p.bind f) := by
  induction p generalizing held with
  | done a =>
    obtain rfl : held = false := brackets
    exact follows a
  | ask q next ih => exact ⟨brackets.1, fun r => ih r (brackets.2 r)⟩

namespace World

variable {H : Type} (host : Host H) (w : World H)

theorem session_run_call {α : Type} (p : Remote.Task α) :
    (p.run (call host) w).2.session = w.session := by
  induction p generalizing w with
  | done a => rfl
  | ask k next ih => exact ih _ _

theorem session_openWithin (c : Connection) (g : Nat) :
    (w.openWithin host c g).2.session = w.session := by
  have same := session_run_call host w (Session.openLink c g)
  unfold openWithin
  dsimp only
  split
  · split <;> exact same
  · exact same

theorem held_answer (q : Action) :
    (w.answer host q).2.session.held = q.holdsAfter w.session.held := by
  cases q with
  | session x =>
    by_cases holds : x = .hold
    · subst holds
      rfl
    · by_cases releases : x = .release
      · subst releases
        rfl
      · cases x with
        | hold => exact absurd rfl holds
        | release => exact absurd rfl releases
        | _ => exact Session.answer_held _ _ holds releases
  | opening c g => exact congrArg Session.held (session_openWithin host w c g)
  | _ => rfl

theorem reply?_of_free {q : Action} (other : ∀ c g, q ≠ .opening c g)
    (free : q.waits = true → w.session.held = false) :
    w.reply? host none q = (some (w.answer host q).1, (w.answer host q).2) := by
  cases q with
  | session x =>
    have goes : (x.waits && w.session.held) = false := by
      cases waits : x.waits with
      | false => rfl
      | true => exact free waits
    dsimp only [reply?]
    rw [goes]
    rfl
  | opening c g => exact absurd rfl (other c g)
  | _ => rfl

end World

namespace Process

variable {H α : Type} {host : Host H} {p : Process H α} {w : World H} {t : Task α}

def Reaches (host : Host H) (p : Process H α) (w : World H) (t : Task α) : Prop :=
  ∃ turns, (p.play host turns).world = w ∧ (p.play host turns).main = t

theorem Reaches.after (turn : Turn) (reaches : (p.step host turn).Reaches host w t) :
    p.Reaches host w t := by
  obtain ⟨turns, leads⟩ := reaches
  exact ⟨turn :: turns, leads⟩

def now (p : Process H α) (mover : Mover) (late : Bool) : Turn :=
  { mover := mover, late := late, time := p.world.time, tokens := p.world.tokens }

theorem reaches_of_move {m : Moved H α} (late : Bool)
    (moves : p.main.move host (p.now .main late) p.world = m)
    (follows : (p.moved m).Reaches host w t) : p.Reaches host w t := by
  refine .after (p.now .main late) ?_
  subst moves
  exact follows

theorem reaches_of_stray {i : Nat} {o : Session.Opener} (present : p.strays[i]? = some o)
    (follows : (p.movedStray host i o p.world).Reaches host w t) : p.Reaches host w t := by
  refine .after (p.now (.stray i) false) ?_
  dsimp only [step, now]
  rw [present]
  exact follows

section Opening

variable {c : Connection} {g : Nat} {next : Option (Except ConnectError Link) → Act α}

theorem reaches_of_opener {o : Session.Opener} (runs : p.main = ⟨.ask (.opening c g) next, some o⟩)
    (follows : ∀ p' : Process H α,
      p'.main = ⟨.ask (.opening c g) next, some (.done (o.run (World.call host) p.world).1)⟩ →
      p'.world = (o.run (World.call host) p.world).2 → p'.Reaches host w t) :
    p.Reaches host w t := by
  induction o generalizing p with
  | done opened => exact follows p runs rfl
  | ask k resume ih =>
    refine reaches_of_move false (by rw [runs]) ?_
    exact ih _ rfl follows

theorem reaches_of_opening (asks : p.main = { rest := .ask (.opening c g) next })
    (follows : ∀ p' : Process H α,
      p'.main = { rest := next (p.world.openWithin host c g).1 } →
      p'.world = (p.world.openWithin host c g).2 → p'.Reaches host w t) :
    p.Reaches host w t := by
  refine reaches_of_move (m := ⟨⟨.ask (.opening c g) next, some (Session.openLink c g)⟩, p.world,
    none, none⟩) false (by rw [asks]; rfl) ?_
  refine reaches_of_opener rfl fun p' runs world => ?_
  unfold World.openWithin at follows
  dsimp only [moved] at runs world follows
  generalize (Session.openLink c g).run (World.call host) p.world = ran at runs world follows
  obtain ⟨o, w'⟩ := ran
  dsimp only at runs world follows
  subst world
  by_cases late : c.timeouts.connect = .ofSeconds 0
  · -- The open comes too late: it is left behind, and ends on its own.
    rw [if_pos late] at follows
    refine reaches_of_move (m := ⟨{ rest := next none }, p'.world, some ⟨.opening c g, none⟩,
      some (.done o)⟩) true (by rw [runs]; rfl) ?_
    refine reaches_of_stray (i := p'.strays.length) (o := .done o) (by simp [moved]) ?_
    cases o with
    | ok link => exact follows _ rfl rfl
    | error e => exact follows _ rfl rfl
  · rw [if_neg late] at follows
    refine reaches_of_move (m := ⟨{ rest := next (some o) }, p'.world, some ⟨.opening c g, some o⟩,
      none⟩) false (by rw [runs]; rfl) ?_
    exact follows _ rfl rfl

end Opening

/-- Alone, the main program does what it does when it is run from beginning to end. -/
theorem reaches_run {program : Act α} (main : p.main = { rest := program })
    (brackets : Brackets p.world.session.held program) :
    p.Reaches host (p.world.run host program).2 { rest := .done (p.world.run host program).1 } := by
  induction program generalizing p with
  | done a => exact ⟨[], rfl, main⟩
  | ask q next ih =>
    obtain ⟨free, rest⟩ := brackets
    have goesOn : ∀ p' : Process H α, p'.main = { rest := next (p.world.answer host q).1 } →
        p'.world = (p.world.answer host q).2 →
        p'.Reaches host (p.world.run host (.ask q next)).2
          { rest := .done (p.world.run host (.ask q next)).1 } := by
      intro p' main world
      have brackets := rest (p.world.answer host q).1
      rw [← World.held_answer host, ← world] at brackets
      have reaches := ih _ main brackets
      rwa [world] at reaches
    by_cases opens : ∃ c g, q = .opening c g
    · obtain ⟨c, g, rfl⟩ := opens
      exact reaches_of_opening main goesOn
    · have other : ∀ c g, q ≠ .opening c g := fun c g same => opens ⟨c, g, same⟩
      have reply := p.world.reply?_of_free host other free
      refine reaches_of_move false (Task.move_of_ask host _ _ _ (by rw [main]) other) ?_
      dsimp only [now]
      rw [reply]
      exact goesOn _ (by rw [main]; rfl) rfl

end Process

end RemoteTags
