import RemoteTags.Session.Operation

/-! Many callers on one session. Every caller runs one program of the session; a step lets one of
them go on by one action, in any order. A section is answered by the session, unless it has to
wait for the slot. A remote call gets any reply. An open runs beside its caller, and the caller
may stop waiting for it at any time; the open then goes on by itself. The loss of a link brings
in a caller of its own, which connects again. -/

namespace RemoteTags.Session

inductive Operation where
  | stat (path : String)
  | read (path : String)
  | readDir (path : String)
  | exec (command : String)
  | fastGet (remote localPath : String)
  | remove (path : String)
deriving DecidableEq, Repr

namespace Operation

@[reducible] def Value : Operation → Type
  | .stat _ => Int
  | .read _ => Bytes
  | .readDir _ => List Remote.Entry
  | .exec _ => Remote.Output
  | .fastGet _ _ => Nat
  | .remove _ => Unit

def program : (o : Operation) → Act (Except SessionError o.Value)
  | .stat path => Session.stat path
  | .read path => Session.read path
  | .readDir path => Session.readDir path
  | .exec command => Session.exec command
  | .fastGet remote localPath => Session.fastGet remote localPath
  | .remove path => Session.remove path

end Operation

inductive Request where
  | connect (c : Connection)
  | reconnect
  -- The connect that follows the loss of a link.
  | resume (r : Reconnect)
  | disconnect
  | operate (o : Operation)
deriving DecidableEq, Repr

namespace Request

@[reducible] def Answer : Request → Type
  | .connect _ | .reconnect | .resume _ => Except ConnectError Unit
  | .disconnect => Unit
  | .operate o => Except SessionError o.Value

def program : (r : Request) → Act r.Answer
  | .connect c => Session.connect c
  | .reconnect => Session.reconnect
  | .resume r => connectAs r.config (some r.generation)
  | .disconnect => Session.disconnect
  | .operate o => o.program

/-- The session itself, and nobody else, connects again after the loss of a link. -/
def Public : Request → Prop
  | .resume _ => False
  | _ => True

def Overtaken : (r : Request) → r.Answer → Prop
  | .connect _, a | .reconnect, a | .resume _, a => a = .error .superseded
  | .disconnect, _ | .operate _, _ => False

def Refused : (r : Request) → r.Answer → Prop
  | .operate _, a => a = .error .notConnected
  | _, _ => False

end Request

abbrev Opener := Remote.Task (Except ConnectError Link)

structure Caller where
  request : Request
  rest : Act request.Answer
  opener : Option Opener := none
  stray : Option Opener := none

def Caller.start (r : Request) : Caller := { request := r, rest := r.program }

structure Traffic where
  session : Session := {}
  callers : List Caller := []
  -- Counts the links that have been dialled, and so names the next one.
  dialled : Nat := 0

/-- Something that happened; the numbers are those of the callers. -/
inductive Event where
  | arrived (i : Nat)
  | answered (i : Nat) (q : Action) (r : q.Reply)
  | launched (i : Nat)
  -- A call of the open that a caller waits for.
  | opening (i : Nat) (k : Remote.Call) (r : k.Reply)
  | straying (i : Nat) (k : Remote.Call) (r : k.Reply)
  -- Such an open ended. Its link, if it has one, is given up without being closed.
  | discarded (i : Nat) (opened : Except ConnectError Link)

def Event.caller : Event → Nat
  | .arrived i | .answered i _ _ | .launched i | .opening i _ _ | .straying i _ _
  | .discarded i _ => i

/-- A new link has a name of its own. -/
def Names (n : Nat) : (k : Remote.Call) → k.Reply → Prop
  | .dial _, .ok id => id = n
  | _, _ => True

def dialledAfter (n : Nat) : (k : Remote.Call) → k.Reply → Nat
  | .dial _, .ok _ => n + 1
  | _, _ => n

def Section.followers : Section → List Caller
  | .schedule r => [.start (.resume r)]
  | _ => []

namespace Traffic

inductive Step (t : Traffic) : Event → Traffic → Prop where
  | arrive (r : Request) (isPublic : r.Public) :
      Step t (.arrived t.callers.length) { t with callers := t.callers ++ [.start r] }
  | run {i : Nat} {c : Caller} {x : Section} {next : x.Reply → Act c.request.Answer}
      (present : t.callers[i]? = some c) (asks : c.rest = .ask (.session x) next)
      (free : (x.waits && t.session.held) = false) :
      Step t (.answered i (.session x) (x.answer t.session).1)
        { t with
          session := (x.answer t.session).2
          callers := t.callers.set i { c with rest := next (x.answer t.session).1 } ++ x.followers }
  | call {i : Nat} {c : Caller} {k : Remote.Call} {next : k.Reply → Act c.request.Answer}
      (present : t.callers[i]? = some c) (asks : c.rest = .ask (.remote k) next) (r : k.Reply) :
      Step t (.answered i (.remote k) r)
        { t with callers := t.callers.set i { c with rest := next r } }
  | launch {i : Nat} {c : Caller} {d : Connection} {g : Nat}
      {next : Option (Except ConnectError Link) → Act c.request.Answer}
      (present : t.callers[i]? = some c) (asks : c.rest = .ask (.opening d g) next)
      (idle : c.opener = none) :
      Step t (.launched i)
        { t with callers := t.callers.set i { c with opener := some (openLink d g) } }
  | proceed {i : Nat} {c : Caller} {k : Remote.Call} {next : k.Reply → Opener}
      (present : t.callers[i]? = some c) (asks : c.opener = some (.ask k next)) (r : k.Reply)
      (names : Names t.dialled k r) :
      Step t (.opening i k r)
        { t with
          callers := t.callers.set i { c with opener := some (next r) }
          dialled := dialledAfter t.dialled k r }
  | opened {i : Nat} {c : Caller} {d : Connection} {g : Nat}
      {next : Option (Except ConnectError Link) → Act c.request.Answer}
      {o : Except ConnectError Link}
      (present : t.callers[i]? = some c) (asks : c.rest = .ask (.opening d g) next)
      (ended : c.opener = some (.done o)) :
      Step t (.answered i (.opening d g) (some o))
        { t with callers := t.callers.set i { c with rest := next (some o), opener := none } }
  | expire {i : Nat} {c : Caller} {d : Connection} {g : Nat}
      {next : Option (Except ConnectError Link) → Act c.request.Answer} {p : Opener}
      (present : t.callers[i]? = some c) (asks : c.rest = .ask (.opening d g) next)
      (running : c.opener = some p) :
      Step t (.answered i (.opening d g) none)
        { t with
          callers := t.callers.set i { c with rest := next none, opener := none, stray := some p } }
  | stray {i : Nat} {c : Caller} {k : Remote.Call} {next : k.Reply → Opener}
      (present : t.callers[i]? = some c) (asks : c.stray = some (.ask k next)) (r : k.Reply)
      (names : Names t.dialled k r) :
      Step t (.straying i k r)
        { t with
          callers := t.callers.set i { c with stray := some (next r) }
          dialled := dialledAfter t.dialled k r }
  | discard {i : Nat} {c : Caller} {o : Except ConnectError Link}
      (present : t.callers[i]? = some c) (ended : c.stray = some (.done o)) :
      Step t (.discarded i o) { t with callers := t.callers.set i { c with stray := none } }

/-- A run from one state to another, with its events, the newest first. -/
inductive Path (t : Traffic) : List Event → Traffic → Prop where
  | refl : Path t [] t
  | step {h : List Event} {u v : Traffic} {e : Event} (path : Path t h u) (last : Step u e v) :
      Path t (e :: h) v

abbrev Run (h : List Event) (t : Traffic) : Prop := Path {} h t

def Done (t : Traffic) (i : Nat) : Prop := ∃ c a, t.callers[i]? = some c ∧ c.rest = .done a

/-- The call of caller `i` has returned with the news that a newer request took over. -/
def Overtaken (t : Traffic) (i : Nat) : Prop :=
  ∃ c a, t.callers[i]? = some c ∧ c.rest = .done a ∧ c.request.Overtaken a

/-- The operation of caller `i` has returned with the news that there is no link. -/
def Refused (t : Traffic) (i : Nat) : Prop :=
  ∃ c a, t.callers[i]? = some c ∧ c.rest = .done a ∧ c.request.Refused a

theorem exists_run_connected (c : Connection) {home : String}
    (known : Text.isBlankText home = false) :
    ∃ h, Run h {
      session :=
        { status := ⟨.connected, some c, some (Text.trimmed home), 1⟩
          slot := some ⟨0, Text.trimmed home, false, c.timeouts, 1⟩ }
      callers := [{ request := .connect c, rest := .done (.ok ()) }]
      dialled := 1 } := by
  have called : Run _ { callers := [.start (.connect c)] } :=
    Path.refl.step (.arrive (.connect c) trivial)
  have begun := called.step (.run (i := 0) rfl rfl rfl)
  dsimp [Section.answer, begin, Section.followers] at begun
  have cleared := begun.step (.run (i := 0) rfl rfl rfl)
  dsimp [Section.answer, takeOlder, Section.followers] at cleared
  have launched := cleared.step (.launch (i := 0) rfl rfl rfl)
  dsimp at launched
  have dialled := launched.step (.proceed (i := 0) (k := .dial c) rfl rfl (.ok 0) rfl)
  dsimp at dialled
  have homed := dialled.step (.proceed (i := 0) (k := .home 0) rfl rfl (.ok home) trivial)
  dsimp at homed
  have opened := homed.step (.opened (i := 0) rfl rfl (by simp only [known]; rfl))
  have installed := opened.step (.run (i := 0) rfl rfl rfl)
  exact ⟨_, installed⟩

end Traffic

end RemoteTags.Session
