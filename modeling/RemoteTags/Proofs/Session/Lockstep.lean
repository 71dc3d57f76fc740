import Mathlib.Data.List.Forall2
import RemoteTags.Proofs.Effect.Process
import RemoteTags.Proofs.Session.Rekeying

/-! Two processes that differ in the secret alone and take the same turns. Whatever one of them does
in a turn, the other one does as well, with the other secret. -/

namespace RemoteTags

section Pairs

variable {α β : Type} {R : α → β → Prop} {l : List α} {l' : List β} {a : α} {b : β}

theorem rel_getElem? (pairs : List.Forall₂ R l l') (i : Nat) : Option.Rel R l[i]? l'[i]? := by
  induction pairs generalizing i with
  | nil => exact .none
  | cons pair _ ih =>
    cases i with
    | zero => exact .some pair
    | succ i => exact ih i

theorem forall₂_set (pairs : List.Forall₂ R l l') (pair : R a b) (i : Nat) :
    List.Forall₂ R (l.set i a) (l'.set i b) := by
  induction pairs generalizing i with
  | nil => exact .nil
  | cons first rest ih =>
    cases i with
    | zero => exact .cons pair rest
    | succ i => exact .cons first (ih i)

theorem forall₂_eraseIdx (pairs : List.Forall₂ R l l') (i : Nat) :
    List.Forall₂ R (l.eraseIdx i) (l'.eraseIdx i) := by
  induction pairs generalizing i with
  | nil => exact .nil
  | cons first rest ih =>
    cases i with
    | zero => exact rest
    | succ i => exact .cons first (ih i)

theorem forall₂_toList {o : Option α} {o' : Option β} (same : Option.Rel R o o') :
    List.Forall₂ R o.toList o'.toList := by
  cases same with
  | none => exact .nil
  | some pair => exact .cons pair .nil

end Pairs

namespace Rekeying

open Program (Translates translates_done)
open Session (Opener)

variable (κ : Rekeying) {H α : Type} {host : Host H} {sim : H → H → Prop}

inductive Worlds (sim : H → H → Prop) (w : World H) : World H → Prop where
  | intro {h : H} (same : sim w.host h) :
      Worlds sim w { w with session := κ.session w.session, host := h }

theorem host_worlds {w w' : World H} (worlds : κ.Worlds sim w w') : sim w.host w'.host := by
  obtain @⟨h, same⟩ := worlds
  exact same

structure Tasks (t t' : Task α) : Prop where
  rest : Translates κ.onAction Eq t.rest t'.rest
  opener : Option.Rel (Translates κ.onRemote Eq) t.opener t'.opener

variable {w w' : World H} {turn : Turn}

theorem worlds_call (agrees : κ.onRemote.Agrees host (Beside sim)) (worlds : κ.Worlds sim w w')
    (k : Remote.Call) :
    (w'.call host (κ.remote k)).1 = κ.onRemote.reply k (w.call host k).1 ∧
      κ.Worlds sim (w.call host k).2 (w'.call host (κ.remote k)).2 := by
  obtain @⟨h, same⟩ := worlds
  have beside : Beside sim (w.host, w.disk) (h, w.disk) := ⟨same, rfl⟩
  refine ⟨agrees.reply beside k, ?_⟩
  obtain ⟨after, disk⟩ := agrees.state beside k
  change κ.Worlds sim _ { w with
    session := κ.session w.session
    host := (host (κ.onRemote.question k) (h, w.disk)).2.1
    disk := (host (κ.onRemote.question k) (h, w.disk)).2.2 }
  rw [disk]
  exact .intro after

theorem worlds_reply? (agrees : κ.onRemote.Agrees host (Beside sim)) (worlds : κ.Worlds sim w w')
    (refusal : Option Local.IoError) {q : Action} (other : ∀ c g, q ≠ .opening c g) :
    (w'.reply? host refusal (κ.onAction.question q)).1 =
        (w.reply? host refusal q).1.map (κ.onAction.reply q) ∧
      κ.Worlds sim (w.reply? host refusal q).2
        (w'.reply? host refusal (κ.onAction.question q)).2 := by
  cases q with
  | remote k =>
    obtain ⟨reply, after⟩ := κ.worlds_call agrees worlds k
    exact ⟨congrArg some reply, after⟩
  | opening c g => exact absurd rfl (other c g)
  | session x =>
    obtain @⟨h, same⟩ := worlds
    have held : (κ.session w.session).held = w.session.held := rfl
    dsimp only [World.reply?, onAction]
    rw [κ.waits_section x, κ.answer_section x w.session, held]
    split
    · exact ⟨rfl, .intro same⟩
    · exact ⟨rfl, .intro same⟩
  | disk c =>
    obtain @⟨h, same⟩ := worlds
    dsimp only [World.reply?, onAction]
    split
    · exact ⟨rfl, .intro same⟩
    · exact ⟨rfl, .intro same⟩
  | cache | clock | random =>
    obtain @⟨h, same⟩ := worlds
    exact ⟨rfl, .intro same⟩

def exchange (e : Program.Exchange Action Action.Reply) : Program.Exchange Action Action.Reply :=
  ⟨κ.onAction.question e.1, κ.onAction.reply e.1 e.2⟩

structure Moves (sim : H → H → Prop) (m m' : Moved H α) : Prop where
  task : κ.Tasks m.task m'.task
  world : κ.Worlds sim m.world m'.world
  heard : m'.heard = m.heard.map κ.exchange
  stray : Option.Rel (Translates κ.onRemote Eq) m.stray m'.stray

theorem opening_question {q : Action} (other : ∀ c g, q ≠ .opening c g) (c : Connection) (g : Nat) :
    κ.onAction.question q ≠ .opening c g := by
  cases q with
  | opening c g => exact absurd rfl (other c g)
  | _ => exact nofun

theorem moves_opening (agrees : κ.onRemote.Agrees host (Beside sim)) (worlds : κ.Worlds sim w w')
    {c : Connection} {g : Nat} {next next' : Option (Except ConnectError Link) → Act α}
    (same : ∀ r, Translates κ.onAction Eq (next r) (next' r)) {o o' : Option Opener}
    (openers : Option.Rel (Translates κ.onRemote Eq) o o') :
    κ.Moves sim (Task.move host turn ⟨.ask (.opening c g) next, o⟩ w)
      (Task.move host turn ⟨.ask (.opening (κ.connection c) g) next', o'⟩ w') := by
  have rest : Translates κ.onAction Eq (.ask (.opening c g) next)
      (.ask (.opening (κ.connection c) g) next') := ⟨next', rfl, same⟩
  cases openers with
  | none => exact ⟨⟨rest, .some (κ.translates_openLink c g)⟩, worlds, rfl, .none⟩
  | @some o o' opener =>
    dsimp only [Task.move]
    split
    · exact ⟨⟨same none, .none⟩, worlds, rfl, .some opener⟩
    · cases o with
      | done opened =>
        obtain ⟨_, rfl, rfl⟩ := opener
        exact ⟨⟨same (some opened), .none⟩, worlds, rfl, .none⟩
      | ask k resume =>
        obtain ⟨resume', rfl, resumes⟩ := opener
        obtain ⟨reply, after⟩ := κ.worlds_call agrees worlds k
        refine ⟨⟨rest, .some ?_⟩, after, rfl, .none⟩
        have goes := resumes (w.call host k).1
        rw [← reply] at goes
        exact goes

theorem moves_move (agrees : κ.onRemote.Agrees host (Beside sim)) (worlds : κ.Worlds sim w w')
    {t t' : Task α} (tasks : κ.Tasks t t') :
    κ.Moves sim (t.move host turn w) (t'.move host turn w') := by
  obtain ⟨rest, opener⟩ := t
  obtain ⟨rest', opener'⟩ := t'
  obtain ⟨same, openers⟩ := tasks
  cases rest with
  | done a =>
    obtain ⟨_, rfl, rfl⟩ := same
    exact ⟨⟨translates_done rfl, openers⟩, worlds, rfl, .none⟩
  | ask q next =>
    obtain ⟨next', rfl, same⟩ := same
    by_cases opens : ∃ c g, q = .opening c g
    · obtain ⟨c, g, rfl⟩ := opens
      exact κ.moves_opening agrees worlds same openers
    · have other : ∀ c g, q ≠ .opening c g := fun c g same => opens ⟨c, g, same⟩
      obtain ⟨reply, after⟩ := κ.worlds_reply? agrees worlds turn.refusal other
      rw [Task.move_of_ask host turn _ w rfl other,
        Task.move_of_ask host turn _ w' rfl (κ.opening_question other)]
      generalize w.reply? host turn.refusal q = r at reply after ⊢
      generalize w'.reply? host turn.refusal (κ.onAction.question q) = r' at reply after ⊢
      obtain ⟨r, v⟩ := r
      obtain ⟨r', v'⟩ := r'
      dsimp only at reply
      subst reply
      cases r with
      | none => exact ⟨⟨⟨next', rfl, same⟩, openers⟩, after, rfl, .none⟩
      | some r => exact ⟨⟨same r, openers⟩, after, rfl, .none⟩

theorem tasks_started (e : Program.Exchange Action Action.Reply) :
    List.Forall₂ κ.Tasks (startedBy (some e)) (startedBy (some (κ.exchange e))) := by
  obtain ⟨q, r⟩ := e
  cases q with
  | session x =>
    cases x with
    | schedule next =>
      exact .cons ⟨κ.translates_connectAs next.config (some next.generation), .none⟩ .nil
    | _ => exact .nil
  | _ => exact .nil

theorem tasks_startedBy {e e' : Option (Program.Exchange Action Action.Reply)}
    (same : e' = e.map κ.exchange) : List.Forall₂ κ.Tasks (startedBy e) (startedBy e') := by
  subst same
  cases e with
  | none => exact .nil
  | some e => exact κ.tasks_started e

structure Lockstep (sim : H → H → Prop) (p p' : Process H α) : Prop where
  world : κ.Worlds sim p.world p'.world
  main : κ.Tasks p.main p'.main
  followers : List.Forall₂ κ.Tasks p.followers p'.followers
  strays : List.Forall₂ (Translates κ.onRemote Eq) p.strays p'.strays

variable {p p' : Process H α}

theorem lockstep_moved (lockstep : κ.Lockstep sim p p') {m m' : Moved H α}
    (moves : κ.Moves sim m m') : κ.Lockstep sim (p.moved m) (p'.moved m') where
  world := moves.world
  main := moves.task
  followers := List.rel_append lockstep.followers (κ.tasks_startedBy moves.heard)
  strays := List.rel_append lockstep.strays (forall₂_toList moves.stray)

theorem lockstep_movedFollower (lockstep : κ.Lockstep sim p p')
    {m m' : Moved H (Except ConnectError Unit)} (moves : κ.Moves sim m m') (i : Nat) :
    κ.Lockstep sim (p.movedFollower i m) (p'.movedFollower i m') where
  world := moves.world
  main := lockstep.main
  followers := List.rel_append (forall₂_set lockstep.followers moves.task i)
    (κ.tasks_startedBy moves.heard)
  strays := List.rel_append lockstep.strays (forall₂_toList moves.stray)

theorem lockstep_movedStray (agrees : κ.onRemote.Agrees host (Beside sim))
    (lockstep : κ.Lockstep sim p p') (worlds : κ.Worlds sim w w') {o o' : Opener}
    (same : Translates κ.onRemote Eq o o') (i : Nat) :
    κ.Lockstep sim (p.movedStray host i o w) (p'.movedStray host i o' w') := by
  match o, same with
  | .ask k resume, same =>
    obtain ⟨resume', rfl, resumes⟩ := same
    obtain ⟨reply, after⟩ := κ.worlds_call agrees worlds k
    have goes := resumes (w.call host k).1
    rw [← reply] at goes
    exact ⟨after, lockstep.main, lockstep.followers, forall₂_set lockstep.strays goes i⟩
  | .done (.ok link), same =>
    obtain ⟨_, rfl, rfl⟩ := same
    exact ⟨(κ.worlds_call agrees worlds (.abandon link.id)).2, lockstep.main, lockstep.followers,
      forall₂_eraseIdx lockstep.strays i⟩
  | .done (.error e), same =>
    obtain ⟨_, rfl, rfl⟩ := same
    exact ⟨worlds, lockstep.main, lockstep.followers, forall₂_eraseIdx lockstep.strays i⟩

theorem Lockstep.step (agrees : κ.onRemote.Agrees host (Beside sim))
    (lockstep : κ.Lockstep sim p p') (turn : Turn) :
    κ.Lockstep sim (p.step host turn) (p'.step host turn) := by
  have worlds : κ.Worlds sim { p.world with time := turn.time, tokens := turn.tokens }
      { p'.world with time := turn.time, tokens := turn.tokens } := by
    have worlds := lockstep.world
    generalize p.world = w at worlds ⊢
    generalize p'.world = w' at worlds ⊢
    obtain @⟨h, same⟩ := worlds
    exact .intro same
  unfold Process.step
  cases turn.mover with
  | main => exact κ.lockstep_moved lockstep (κ.moves_move agrees worlds lockstep.main)
  | follower i =>
    have there := rel_getElem? lockstep.followers i
    dsimp only
    generalize p.followers[i]? = f at there ⊢
    generalize p'.followers[i]? = f' at there ⊢
    cases there with
    | none => exact lockstep
    | some tasks => exact κ.lockstep_movedFollower lockstep (κ.moves_move agrees worlds tasks) i
  | stray i =>
    have there := rel_getElem? lockstep.strays i
    dsimp only
    generalize p.strays[i]? = o at there ⊢
    generalize p'.strays[i]? = o' at there ⊢
    cases there with
    | none => exact lockstep
    | some same => exact κ.lockstep_movedStray agrees lockstep worlds same i

theorem Lockstep.play (agrees : κ.onRemote.Agrees host (Beside sim)) (turns : List Turn)
    (lockstep : κ.Lockstep sim p p') : κ.Lockstep sim (p.play host turns) (p'.play host turns) := by
  induction turns generalizing p p' with
  | nil => exact lockstep
  | cons turn turns ih => exact ih (lockstep.step κ agrees turn)

end Rekeying

end RemoteTags
