import RemoteTags.Effect.Action
import RemoteTags.Shell.Command

/-! The operations of the session. Remote calls are made while the operation holds the slot of
the link, so that no two overlap. A call that breaks the link takes the session down; after
`stat`, `read` and `readDir` a reconnect is scheduled. -/

namespace RemoteTags.Session
open Text

/-- Closes a link. That the close may fail changes nothing. -/
def closeLink (link : Option Link) : Act Unit := do
  match link with
  | some link => let _ ← Act.remote (.close link.id)
  | none => return ()

def conclude (g : Nat) (opened : Except ConnectError Link) : Act (Except ConnectError Unit) := do
  match ← Act.session (.install g opened) with
  | .connected => return .ok ()
  | .failed e => return .error e
  | .stale link =>
    closeLink link
    return .error .superseded

/-- Connects, after closing an older link. With an expected generation it gives up at once if
another request came in between. -/
def connectAs (c : Connection) (expected : Option Nat) : Act (Except ConnectError Unit) := do
  match ← Act.session (.begin c expected) with
  | none => return .error .superseded
  | some g =>
    closeLink (← Act.session (.takeOlder g))
    match ← Act.opening c g with
    | some opened => conclude g opened
    | none => conclude g (.error (.timeout c.timeouts.connect.seconds))

def connect (c : Connection) : Act (Except ConnectError Unit) := connectAs c none

def noConnection : ConnectError := .task "no connection has been configured"

def reconnect : Act (Except ConnectError Unit) := do
  match (← Act.session .status).config with
  | some c => connect c
  | none => return .error noConnection

def disconnect : Act Unit := do
  let g ← Act.session .beginDisconnect
  closeLink (← Act.session (.takeOlder g))

/-- Gives up the link without closing it. -/
def giveUpLink : Act Unit := do
  let g := (← Act.session .status).generation
  match ← Act.session (.takeOlder (g + 1)) with
  | some link => Act.remote (.abandon link.id)
  | none => return ()

inductive Outcome (α : Type) where
  | value (a : α)
  -- The remote end refused; the link is still good.
  | refusal (e : SessionError)
  | lost (e : SessionError)

namespace Outcome

variable {α : Type}

def failure (cause : TransportError) (e : SessionError) : Outcome α :=
  if cause.isLinkFailure then lost e else refusal e

def ofError (e : TransportError) : Outcome α := failure e (.ofTransport e)

def ofAttempt : Remote.Attempt α → Outcome α
  | .ok a => value a
  | .error e => ofError e

end Outcome

inductive AfterLoss where
  | reconnect
  | stay
deriving DecidableEq, Repr

/-- Runs an operation on the current link, holding the slot. -/
def onLink {α : Type} (after : AfterLoss) (op : Link → Act (Outcome α)) :
    Act (Except SessionError α) := do
  Act.session .hold
  match ← Act.session .current with
  | none =>
    Act.session .release
    return .error .notConnected
  | some link =>
    match ← op link with
    | .value a =>
      Act.session .release
      return .ok a
    | .refusal e =>
      Act.session .release
      return .error e
    | .lost e =>
      closeLink (some link)
      let next ← Act.session .drop
      Act.session .release
      match after, next with
      | .reconnect, some r => Act.session (.schedule r)
      | _, _ => pure ()
      return .error e

def exitReason (out : Remote.Output) : String :=
  "exit status " ++ toString out.exitStatus ++ ": " ++ trimmed out.stderr

/-- Runs a command; an exit status other than zero is a refusal. -/
def runCommand (link : Link) (command : String) : Act (Outcome Remote.Output) := do
  let timeout := link.timeouts.exec
  match ← Act.remote (.exec link.id command timeout) with
  | .error e =>
    return .failure e <| match e with
      | .timedOut _ => .timeout ("`" ++ command ++ "`") timeout.seconds
      | _ => .exec command e.message
  | .ok out =>
    if out.exitStatus = 0 then return .value out
    else return .refusal (.exec command (exitReason out))

def unreadableReport : String := "no parsable Modify line in stat output"

/-- Has the shell write a report about the file and reads the modify time in it. -/
def shellStat (link : Link) (path : String) : Act (Outcome Int) := do
  let scratch := Shell.scratchBase link.home
  let command := Shell.statCommand path scratch
  match ← runCommand link command with
  | .refusal e => return .refusal e
  | .lost e => return .lost e
  | .value _ =>
    match ← Act.remote (.read link.id scratch) with
    | .error e => return .ofError e
    | .ok report =>
      match Shell.modifyTime (Utf8.lossyString report) with
      | some t => return .value t
      | none => return .refusal (.exec command unreadableReport)

/-- The modify time of a file. The first time that the server does not support the question, the
link changes to asking the shell. -/
def statOn (path : String) (link : Link) : Act (Outcome Int) := do
  if link.shellStat then shellStat link path
  else
    match ← Act.remote (.stat link.id path) with
    | .ok t => return .value t
    | .error (.unsupported _) =>
      Act.session .useShellStat
      shellStat link path
    | .error e => return .ofError e

def stat (path : String) : Act (Except SessionError Int) := onLink .reconnect (statOn path)

def read (path : String) : Act (Except SessionError Bytes) :=
  onLink .reconnect fun link => do
    return .ofAttempt (← Act.remote (.read link.id path))

def readDir (path : String) : Act (Except SessionError (List Remote.Entry)) :=
  onLink .reconnect fun link => do
    return .ofAttempt (← Act.remote (.readDir link.id path))

def exec (command : String) : Act (Except SessionError Remote.Output) :=
  onLink .stay fun link => runCommand link command

def fastGet (remote localPath : String) : Act (Except SessionError Nat) :=
  onLink .stay fun link => do
    let timeout := link.timeouts.transfer
    match ← Act.remote (.fastGet link.id remote localPath timeout) with
    | .ok n => return .value n
    | .error e =>
      return .failure e <| match e with
        | .timedOut _ => .timeout ("transfer of " ++ remote) timeout.seconds
        | _ => .transfer remote e.message

def remove (path : String) : Act (Except SessionError Unit) :=
  onLink .stay fun link => do
    return .ofAttempt (← Act.remote (.remove link.id path))

def isConnected : Act Bool := do
  return (← Act.session .status).phase = .connected

def remoteHome : Act (Option String) := do
  return (← Act.session .status).home

end RemoteTags.Session
