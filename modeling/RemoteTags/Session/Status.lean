import RemoteTags.Remote.Call

/-! The state of the session. It is kept in two parts: the status, which is never held across a
remote call, and the slot of the link, which an operation holds while it runs. Every connect and
every disconnect takes a new generation; an attempt may fill the slot only while its generation
is the newest. The functions here are the sections that run without interruption. -/

namespace RemoteTags

structure Link where
  id : Remote.LinkId
  home : String
  -- The server could not report modify times; the shell does it from now on.
  shellStat : Bool
  timeouts : Timeouts
  generation : Nat
deriving DecidableEq, Repr

inductive Phase where
  | disconnected
  | connecting
  | connected
deriving DecidableEq, Repr

def Phase.text : Phase → String
  | .disconnected => "disconnected"
  | .connecting => "connecting"
  | .connected => "connected"

structure Status where
  phase : Phase := .disconnected
  config : Option Connection := none
  home : Option String := none
  generation : Nat := 0
deriving DecidableEq, Repr

/-- A connect that is to follow the loss of a link, unless another request comes first. -/
structure Reconnect where
  config : Connection
  generation : Nat
deriving DecidableEq, Repr

structure Session where
  status : Status := {}
  slot : Option Link := none
  held : Bool := false
  scheduled : Option Reconnect := none
deriving DecidableEq, Repr

inductive Installed where
  | connected
  | failed (e : ConnectError)
  -- A newer request took over; the link, if there is one, has no place any more.
  | stale (link : Option Link)
deriving DecidableEq, Repr

namespace Session

/-- A connect begins and takes a new generation. A reconnect begins only if nothing has happened
since its generation. -/
def begin (c : Connection) (expected : Option Nat) (s : Session) : Option Nat × Session :=
  if expected.any (· ≠ s.status.generation) then (none, s)
  else
    let g := s.status.generation + 1
    (some g, { s with status := ⟨.connecting, some c, none, g⟩ })

def beginDisconnect (s : Session) : Nat × Session :=
  let g := s.status.generation + 1
  (g, { s with status := ⟨.disconnected, s.status.config, none, g⟩ })

/-- Takes the link out of the slot if it is older than `g`. -/
def takeOlder (g : Nat) (s : Session) : Option Link × Session :=
  match s.slot with
  | some link => if link.generation < g then (some link, { s with slot := none }) else (none, s)
  | none => (none, s)

/-- An attempt ends. It decides the state only if its generation is still the newest. -/
def install (g : Nat) (opened : Except ConnectError Link) (s : Session) : Installed × Session :=
  if s.status.generation ≠ g then (.stale opened.toOption, s)
  else match opened with
    | .ok link =>
      (.connected, { s with
        status := { s.status with phase := .connected, home := some link.home }
        slot := some link })
    | .error e => (.failed e, { s with status := { s.status with phase := .disconnected } })

/-- The link, if it belongs to the newest generation. -/
def current (s : Session) : Option Link :=
  s.slot.filter fun link => link.generation = s.status.generation

def useShellStat (s : Session) : Session :=
  { s with slot := s.slot.map fun link => { link with shellStat := true } }

/-- Takes the broken link away. If no newer request owns the state, the session is disconnected
and may reconnect. -/
def drop (s : Session) : Option Reconnect × Session :=
  match s.slot with
  | none => (none, s)
  | some link =>
    let s := { s with slot := none }
    if s.status.generation ≠ link.generation then (none, s)
    else
      let g := s.status.generation + 1
      (s.status.config.map fun c => ⟨c, g⟩,
        { s with status := ⟨.disconnected, s.status.config, none, g⟩ })

def usesShellStat (s : Session) : Bool := s.slot.any (·.shellStat)

/-- What an operation does to the state without interruption. -/
inductive Section where
  | begin (c : Connection) (expected : Option Nat)
  | beginDisconnect
  | takeOlder (g : Nat)
  | install (g : Nat) (opened : Except ConnectError Link)
  | hold
  | current
  | useShellStat
  | drop
  | release
  | schedule (r : Reconnect)
  | status

@[reducible] def Section.Reply : Section → Type
  | .begin _ _ => Option Nat
  | .beginDisconnect => Nat
  | .takeOlder _ => Option Link
  | .install _ _ => Installed
  | .current => Option Link
  | .drop => Option Reconnect
  | .status => Status
  | .hold | .useShellStat | .release | .schedule _ => Unit

/-- The section has to wait while an operation holds the slot. -/
def Section.waits : Section → Bool
  | .takeOlder _ | .install _ _ | .hold => true
  | _ => false

def Section.answer : (x : Section) → Session → x.Reply × Session
  | .begin c expected, s => s.begin c expected
  | .beginDisconnect, s => s.beginDisconnect
  | .takeOlder g, s => s.takeOlder g
  | .install g opened, s => s.install g opened
  | .hold, s => ((), { s with held := true })
  | .current, s => (s.current, s)
  | .useShellStat, s => ((), s.useShellStat)
  | .drop, s => s.drop
  | .release, s => ((), { s with held := false })
  | .schedule r, s => ((), { s with scheduled := some r })
  | .status, s => (s.status, s)

end Session

end RemoteTags
