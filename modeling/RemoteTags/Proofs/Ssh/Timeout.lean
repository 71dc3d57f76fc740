import RemoteTags.Proofs.Effect.Runs
import RemoteTags.Proofs.Ssh.Steady

/-! The timeout of a session. It is a state of the library that no call tells: a call waits as long
as the last setting before it says, whoever made that setting. -/

namespace RemoteTags.Ssh

def Call.OnSession : Call → Prop
  | .library .newSession | .library (.setTimeout _) => False
  | .library _ => True
  | _ => False

def timeoutAfter (n : Option Nat) : Call → Option Nat
  | .library (.setTimeout m) => some m
  | .library .newSession => none
  | _ => n

abbrev Exchange : Type := Program.Exchange Call Call.Reply

/-- The timeout after these exchanges, the first one made under timeout `n`. -/
def timeoutSince (n : Option Nat) (τ : List Exchange) : Option Nat :=
  τ.foldl (fun n x => timeoutAfter n x.1) n

def inForce (τ : List Exchange) : Option Nat := timeoutSince none τ

theorem timeoutSince_append (n : Option Nat) (σ τ : List Exchange) :
    timeoutSince n (σ ++ τ) = timeoutSince (timeoutSince n σ) τ := by
  simp [timeoutSince]

theorem timeoutAfter_of_other {c : Call} (other : setsTimeout c = false) (n : Option Nat) :
    timeoutAfter n c = n := by
  unfold timeoutAfter
  split
  · cases other
  · cases other
  · rfl

/-- Begun under timeout `n`, the program makes all its calls on the session under timeout `m`, and
ends as `ends` tells. -/
def Timed {α : Type} (m : Nat) (ends : Option Nat → α → Prop) : Option Nat → Wire α → Prop
  | n, .done a => ends n a
  | n, .ask c next => (c.OnSession → n = some m) ∧ ∀ r, Timed m ends (timeoutAfter n c) (next r)

section Timed

variable {α β : Type} {m : Nat} {n : Option Nat} {p : Wire α}

theorem Timed.bind {mid : Option Nat → α → Prop} {ends : Option Nat → β → Prop} {f : α → Wire β}
    (first : Timed m mid n p) (follows : ∀ n a, mid n a → Timed m ends n (f a)) :
    Timed m ends n (p.bind f) := by
  induction p generalizing n with
  | done a => exact follows n a first
  | ask c next ih => exact ⟨first.1, fun r => ih r (first.2 r)⟩

theorem Steady.timed (steady : Steady p) : Timed m (fun n _ => n = some m) (some m) p := by
  induction p with
  | done a => rfl
  | ask c next ih =>
    refine ⟨fun _ => rfl, fun r => ?_⟩
    rw [timeoutAfter_of_other (Bool.or_eq_false_iff.1 steady.1).2]
    exact ih r (steady.2 r trivial)

theorem Timed.of_runs {S : Type} {Replies : S → (c : Call) → c.Reply → S → Prop}
    {ends : Option Nat → α → Prop} {s t : S} {τ : List Exchange} {a : α}
    (timed : Timed m ends n p) (run : p.Runs Replies s τ a t) :
    (∀ earlier x later, τ = earlier ++ x :: later → x.1.OnSession →
      timeoutSince n earlier = some m) ∧ ends (timeoutSince n τ) a := by
  induction run generalizing n with
  | done a s =>
    refine ⟨fun earlier x later cut => ?_, timed⟩
    simp at cut
  | ask reply rest ih =>
    obtain ⟨within, atEnd⟩ := ih (timed.2 _)
    refine ⟨fun earlier x later cut waits => ?_, atEnd⟩
    cases earlier with
    | nil =>
      injection cut with same
      subst same
      exact timed.1 waits
    | cons y earlier =>
      injection cut with same left
      subst same
      exact within earlier x later left waits

end Timed

section Connect

variable (c : Connection)

def Opened (n : Option Nat) : Except ConnectError Transport → Prop
  | .ok t => t.timeouts = c.timeouts ∧ n = some (millis c.timeouts.exec)
  | .error _ => True

abbrev Opens (m : Nat) (n : Option Nat) (p : Wire (Except ConnectError Transport)) : Prop :=
  Timed m (Opened c) n p

variable {m : Nat}

theorem timed_finishOpening : Opens c m (some m) (finishOpening c) := by
  refine ⟨fun _ => rfl, fun r => ?_⟩
  cases r with
  | error e => trivial
  | ok => exact ⟨nofun, fun _ => ⟨rfl, rfl⟩⟩

theorem timed_authenticate : Timed m (fun n _ => n = some m) (some m) (authenticate c) := by
  unfold authenticate
  split <;> exact ⟨fun _ => rfl, fun _ => rfl⟩

theorem timed_logIn : Opens c m (some m) (logIn c) := by
  refine (timed_authenticate c).bind fun n r same => ?_
  subst same
  cases r with
  | error e => trivial
  | ok =>
    refine ⟨fun _ => rfl, fun known => ?_⟩
    cases known with
    | false => trivial
    | true => exact timed_finishOpening c

theorem timed_startSession :
    Opens c (millis c.timeouts.connect) none (startSession c) := by
  refine ⟨nofun, fun r => ?_⟩
  cases r with
  | error e => trivial
  | ok =>
    refine ⟨nofun, fun _ => ⟨fun _ => rfl, fun _ => ⟨fun _ => rfl, fun r => ?_⟩⟩⟩
    cases r with
    | error e => trivial
    | ok => exact timed_logIn c

theorem timed_connect :
    Opens c (millis c.timeouts.connect) none (Transport.connect c) := by
  refine ⟨nofun, fun r => ?_⟩
  cases r with
  | error e => trivial
  | ok => exact timed_startSession c

end Connect

inductive Request where
  | home
  | stat (path : String)
  | read (path : String)
  | readDir (path : String)
  | exec (command : String) (timeout : Duration)
  | fastGet (remote localPath : String) (timeout : Duration)
  | remove (path : String)
  | close

namespace Request

@[reducible] def Answer : Request → Type
  | home => String
  | stat _ => Int
  | read _ => Bytes
  | readDir _ => List Remote.Entry
  | exec _ _ => Remote.Output
  | fastGet _ _ _ => Nat
  | remove _ | close => Unit

/-- The timeout of a request in milliseconds: the caller's, where there is one, and the exec timeout
otherwise. -/
def timeout (timeouts : Timeouts) : Request → Nat
  | exec _ d | fastGet _ _ d => min d.milliseconds 0xFFFFFFFF
  | _ => min timeouts.exec.milliseconds 0xFFFFFFFF

def program (t : Transport) : (k : Request) → Wire (Remote.Attempt k.Answer × Transport)
  | home => t.home.bind fun r => .done (r, t)
  | stat path => (t.stat path).bind fun r => .done (r, t)
  | read path => (t.read path).bind fun r => .done (r, t)
  | readDir path => (t.readDir path).bind fun r => .done (r, t)
  | exec command d => (t.exec command d).bind fun r => .done (r, t)
  | fastGet remote localPath d =>
    (t.fastGet remote localPath d).bind fun r => .done (r, t)
  | remove path => (t.remove path).bind fun r => .done (r, t)
  | close => t.close

end Request

namespace Transport

variable {α : Type} (t : Transport)

def Resting (n : Option Nat) : Prop := n = some (millis t.timeouts.exec)

theorem timed_within (timeout : Duration) (n : Option Nat) {call : Wire α} (steady : Steady call) :
    Timed (millis timeout) (fun n _ => t.Resting n) n (t.within timeout call) := by
  refine ⟨nofun, fun _ => steady.timed.bind fun n a _ => ?_⟩
  exact ⟨nofun, fun _ => rfl⟩

variable {n : Option Nat}

theorem timed_close (resting : t.Resting n) :
    Timed (millis t.timeouts.exec)
      (fun n r => r.2.timeouts = t.timeouts ∧ t.Resting n) n t.close := by
  rw [resting]
  refine t.steady_shut.timed.bind fun n _ same => ?_
  subst same
  refine ⟨fun _ => rfl, fun r => ?_⟩
  cases r <;> exact ⟨rfl, rfl⟩

theorem timed_program (k : Request) (resting : t.Resting n) :
    Timed (k.timeout t.timeouts) (fun n r => r.2.timeouts = t.timeouts ∧ t.Resting n) n
      (k.program t) := by
  have unchanged {β : Type} {m : Nat} {p : Wire β} (timed : Timed m (fun n _ => t.Resting n) n p) :
      Timed m (fun n r => r.2.timeouts = t.timeouts ∧ t.Resting n) n
        (p.bind fun r => .done (r, t)) :=
    timed.bind fun n r rests => ⟨rfl, rests⟩
  have rests {β : Type} {p : Wire β} (steady : Steady p) :
      Timed (millis t.timeouts.exec) (fun n _ => t.Resting n) n p := by
    rw [resting]
    exact steady.timed
  cases k with
  | home => exact unchanged (rests t.steady_home)
  | stat path => exact unchanged (rests (t.steady_stat path))
  | read path => exact unchanged (rests (t.steady_read path))
  | readDir path => exact unchanged (rests (t.steady_readDir path))
  | remove path => exact unchanged (rests (t.steady_remove path))
  | close => exact t.timed_close resting
  | exec command d =>
    exact unchanged (t.timed_within d n (steady_runCommand command))
  | fastGet remote localPath d =>
    obtain ⟨p, steady, same⟩ := t.exists_steady_fastGet remote localPath
    refine unchanged ?_
    rw [same]
    exact t.timed_within d n steady

end Transport

structure Service where
  request : Request
  exchanges : List Exchange

section Services

variable {S : Type} {Replies : S → (c : Call) → c.Reply → S → Prop}

def exchangesOf (services : List Service) : List Exchange := services.flatMap (·.exchanges)

inductive Serves (Replies : S → (c : Call) → c.Reply → S → Prop) :
    Transport → S → List Service → Transport → S → Prop where
  | nil (t : Transport) (s : S) : Serves Replies t s [] t s
  | cons {t t' t'' : Transport} {s s' s'' : S} {k : Request} {τ : List Exchange}
      {r : Remote.Attempt k.Answer} {services : List Service}
      (run : (k.program t).Runs Replies s τ (r, t') s')
      (rest : Serves Replies t' s' services t'' s'') :
      Serves Replies t s (⟨k, τ⟩ :: services) t'' s''

theorem Serves.timeouts {t t' : Transport} {s s' : S} {services : List Service} {n : Option Nat}
    (serves : Serves Replies t s services t' s') (resting : t.Resting n)
    {before after : List Service} {service : Service} (cut : services = before ++ service :: after)
    {earlier later : List Exchange} {x : Exchange}
    (within : service.exchanges = earlier ++ x :: later) (waits : x.1.OnSession) :
    timeoutSince n (exchangesOf before ++ earlier) = some (service.request.timeout t.timeouts) := by
  induction serves generalizing n before with
  | nil t s => simp at cut
  | @cons t t' t'' s s' s'' k τ r services run rest ih =>
    obtain ⟨calls, same, rests⟩ := (t.timed_program k resting).of_runs run
    cases before with
    | nil =>
      injection cut with now
      subst now
      exact calls earlier x later within waits
    | cons first before =>
      injection cut with now left
      subst now
      have next : t'.Resting (timeoutSince n τ) := by
        rw [Transport.Resting, same]
        exact rests
      have later := ih next left
      rw [same] at later
      simpa only [exchangesOf, List.flatMap_cons, List.append_assoc, timeoutSince_append]
        using later

/-- While a link is opened its calls wait as long as the connect timeout says. From then on each
call waits as long as the timeout of its request says, whatever was asked before, and however it
ended. -/
theorem timeout_of_call {c : Connection} {s s' : S} {σ : List Exchange}
    {r : Except ConnectError Transport} (run : (Transport.connect c).Runs Replies s σ r s') :
    (∀ earlier x later, σ = earlier ++ x :: later → x.1.OnSession →
      inForce earlier = some (min c.timeouts.connect.milliseconds 0xFFFFFFFF)) ∧
    ∀ t, r = .ok t → ∀ services t' s'', Serves Replies t s' services t' s'' →
      ∀ before service after, services = before ++ service :: after →
      ∀ earlier x later, service.exchanges = earlier ++ x :: later → x.1.OnSession →
        inForce (σ ++ exchangesOf before ++ earlier) =
          some (service.request.timeout c.timeouts) := by
  obtain ⟨opening, atEnd⟩ := (timed_connect c).of_runs run
  refine ⟨opening, ?_⟩
  rintro t rfl services t' s'' serves before service after cut earlier x later within waits
  obtain ⟨same, resting⟩ := atEnd
  rw [← same] at resting ⊢
  rw [inForce, List.append_assoc, timeoutSince_append]
  exact serves.timeouts resting cut within waits

end Services

/-- A quarter of a second, one millisecond and a half, and seventy days. -/
def unevenTimeouts : Timeouts := ⟨⟨250000000⟩, ⟨1500000⟩, .ofSeconds 6048000⟩

def unevenConnection : Connection := { host := "host", user := "user", timeouts := unevenTimeouts }

def accepted : List Exchange :=
  [⟨.dial "host" 22 ⟨250000000⟩, .ok ()⟩, ⟨.library .newSession, .ok ()⟩,
    ⟨.library (.setTimeout 250), ()⟩, ⟨.library .setStream, ()⟩, ⟨.library .handshake, .ok ()⟩,
    ⟨.library (.authPassword "user" ""), .ok ()⟩, ⟨.library .authenticated, true⟩,
    ⟨.library .openSftp, .ok ()⟩, ⟨.library (.setTimeout 1), ()⟩]

def refused : List Exchange :=
  [⟨.library (.setTimeout 0xFFFFFFFF), ()⟩,
    ⟨.library .openChannel, .error ⟨.session (-21), "no channel"⟩⟩,
    ⟨.library (.setTimeout 1), ()⟩]

theorem timeout_of_call_refused :
    inForce (accepted.take 4) = some 250 ∧
      inForce (accepted ++ refused.take 1) = some 0xFFFFFFFF ∧
      inForce (accepted ++ refused) = some 1 := by
  let Any (s : Unit) (c : Call) (_ : c.Reply) (t : Unit) : Prop := t = s
  let command : Request := .exec "ls" unevenTimeouts.transfer
  have opening : (Transport.connect unevenConnection).Runs Any () accepted
      (.ok { timeouts := unevenTimeouts }) () :=
    .ask rfl (.ask rfl (.ask rfl (.ask rfl (.ask rfl (.ask rfl
      (.ask rfl (.ask rfl (.ask rfl (.done _ _)))))))))
  have exec : (command.program { timeouts := unevenTimeouts }).Runs Any () refused
      (.error (ofLibrary "ls" ⟨.session (-21), "no channel"⟩), { timeouts := unevenTimeouts }) () :=
    .ask rfl (.ask rfl (.ask rfl (.done _ _)))
  have stat : ((Request.stat "/a").program { timeouts := unevenTimeouts }).Runs Any ()
      [⟨.library (.stat "/a"), .error .noSuchFile⟩]
      (.error (ofLibrary "/a" .noSuchFile), { timeouts := unevenTimeouts }) () :=
    .ask rfl (.done _ _)
  obtain ⟨first, then'⟩ := timeout_of_call opening
  have later := then' _ rfl _ _ _ (.cons exec (.cons stat (.nil _ _)))
  exact ⟨first _ ⟨.library .handshake, .ok ()⟩ _ rfl trivial,
    later [] _ _ rfl (refused.take 1) _ _ rfl trivial,
    later [⟨command, refused⟩] _ [] rfl [] _ [] rfl trivial⟩

end RemoteTags.Ssh
