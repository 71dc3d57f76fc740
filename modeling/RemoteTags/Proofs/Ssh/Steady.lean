import RemoteTags.Proofs.Effect.Terms
import RemoteTags.Ssh.Transport

/-! The library calls that a request consists of. They leave the session as it is: none of them
begins or ends a session, logs in or sets a timeout. -/

namespace RemoteTags.Ssh

def isDisconnect : Call → Bool
  | .library (.disconnect _) => true
  | _ => false

def isLogin : Call → Bool
  | .library (.authPassword _ _) | .library (.authKey _ _ _) => true
  | _ => false

def setsTimeout : Call → Bool
  | .library .newSession | .library (.setTimeout _) => true
  | _ => false

def steady : Terms Call Call.Reply where
  asks c := (isLogin c || isDisconnect c || setsTimeout c) = false
  tells _ _ := True

abbrev Steady {α : Type} (p : Wire α) : Prop := p.Meets steady fun _ => True

variable {α β : Type} {p : Wire α}

theorem Steady.bind {f : α → Wire β} (first : Steady p) (follows : ∀ a, Steady (f a)) :
    Steady (p.bind f) :=
  Program.Meets.bind first fun a _ => follows a

theorem steady_query {c : Call} (other : (isLogin c || isDisconnect c || setsTimeout c) = false) :
    Steady (.query c) :=
  ⟨other, fun _ _ => trivial⟩

theorem steady_ask (subject : String) {call : Wire (Attempt α)} (steady : Steady call) :
    Steady (ask subject call) := by
  refine steady.bind fun r => ?_
  cases r <;> trivial

namespace Transport

variable (t : Transport)

theorem steady_onSftp {call : Wire (Remote.Attempt α)} (steady : Steady call) :
    Steady (t.onSftp call) := by
  unfold onSftp
  split
  · exact steady
  · trivial

theorem steady_home : Steady t.home := t.steady_onSftp (steady_ask _ (steady_query rfl))

theorem steady_stat (path : String) : Steady (t.stat path) := by
  refine t.steady_onSftp ((steady_ask _ (steady_query rfl)).bind fun r => ?_)
  cases r with
  | error e => trivial
  | ok a =>
    dsimp only
    split <;> trivial

theorem steady_read (path : String) : Steady (t.read path) := by
  refine t.steady_onSftp ((steady_ask _ (steady_query rfl)).bind fun r => ?_)
  cases r with
  | error e => trivial
  | ok =>
    refine (steady_query rfl).bind fun s => ?_
    split <;> trivial

theorem steady_readDir (path : String) : Steady (t.readDir path) := by
  refine t.steady_onSftp ((steady_ask _ (steady_query rfl)).bind fun r => ?_)
  cases r <;> trivial

theorem steady_exitStatus (command : String) : Steady (exitStatus command) := by
  refine (steady_ask _ (steady_query rfl)).bind fun r => ?_
  cases r with
  | error e => trivial
  | ok => exact steady_ask _ (steady_query rfl)

theorem steady_collect (command : String) : Steady (collect command) := by
  refine (steady_query rfl).bind fun s => ?_
  split
  · trivial
  · refine (steady_query rfl).bind fun s => ?_
    split
    · trivial
    · refine (steady_exitStatus command).bind fun r => ?_
      cases r <;> trivial

theorem steady_runCommand (command : String) : Steady (runCommand command) := by
  refine (steady_ask _ (steady_query rfl)).bind fun r => ?_
  cases r with
  | error e => trivial
  | ok =>
    refine (steady_ask _ (steady_query rfl)).bind fun r => ?_
    cases r with
    | error e => trivial
    | ok => exact steady_collect command

theorem steady_copy (remote localPath : String) : Steady (copy remote localPath) := by
  refine (steady_query rfl).bind fun s => (steady_query rfl).bind fun r => ?_
  cases r with
  | error e => trivial
  | ok =>
    dsimp only
    split
    · trivial
    · refine (steady_query rfl).bind fun r => ?_
      cases r <;> trivial

theorem exists_steady_fastGet (remote localPath : String) :
    ∃ p, Steady p ∧ ∀ n, t.fastGet remote localPath n = t.within n p := by
  refine ⟨_, t.steady_onSftp ((steady_ask _ (steady_query rfl)).bind fun r => ?_), fun _ => rfl⟩
  cases r with
  | error e => trivial
  | ok =>
    refine (steady_query rfl).bind fun r => ?_
    cases r with
    | error e => trivial
    | ok => exact steady_copy remote localPath

theorem steady_remove (path : String) : Steady (t.remove path) :=
  t.steady_onSftp (steady_ask _ (steady_query rfl))

theorem steady_shut : Steady t.shut := by
  unfold shut
  split
  · exact steady_query rfl
  · trivial

end Transport

end RemoteTags.Ssh
