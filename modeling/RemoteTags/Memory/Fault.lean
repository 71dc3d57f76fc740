import RemoteTags.Memory.Server

/-! A host with a log and a queue of faults in front of it. Each call is logged; then the first
fault in the queue that fits the call is taken and decides it. -/

namespace RemoteTags.Memory
open Text

inductive Effect where
  | refuseDial (e : ConnectError)
  | fail (e : TransportError)
  | outcome (out : Remote.Output)
  -- A command writes this into the file that is its last word.
  | write (content : Bytes)
  -- A local directory disappears before the call.
  | loseDirectory (path : String)
  -- The local file of a transfer disappears after it.
  | loseFile (e : Option TransportError)
deriving DecidableEq, Repr

structure Fault where
  call : String
  pattern : String := ""
  times : Nat := 1
  effect : Effect
deriving DecidableEq, Repr

inductive Gate where
  | dial
  | read
deriving DecidableEq, Repr

structure Rig where
  server : Server := {}
  faults : List Fault := []
  -- Newest first.
  log : List String := []
  -- The next call of this kind is kept waiting.
  gate : Option Gate := none
  -- The call that waits has been received, with this fault.
  kept : Option (Option Effect) := none
  -- The next call is the one that was kept waiting.
  entered : Option (Option Effect) := none

namespace Rig

def seconds (d : Duration) : String := "[" ++ toString d.seconds ++ "s]"

def describe : Remote.Call → String × String
  | .dial c => ("open", c.user ++ "@" ++ c.host ++ ":" ++ toString c.port)
  | .home _ => ("home", "")
  | .stat _ path => ("stat", path)
  | .read _ path => ("read", path)
  | .readDir _ path => ("readdir", path)
  | .exec _ command timeout => ("exec", seconds timeout ++ " " ++ command)
  | .fastGet _ remote _ timeout => ("fast_get", seconds timeout ++ " " ++ remote)
  | .remove _ path => ("remove", path)
  | .close _ => ("close", "")
  | .abandon _ => ("abandon", "")

/-- The line of a call in the log, without blanks at its end. Two calls leave none. -/
def logLine? (c : Remote.Call) : Option String :=
  let (name, rest) := describe c
  if name = "home" || name = "abandon" then none
  else some (String.ofList (trimEnd (name ++ " " ++ rest).toList))

/-- Takes the first fault that fits, and uses it up once. -/
def take (name rest : String) : List Fault → Option Effect × List Fault
  | [] => (none, [])
  | f :: fs =>
    if f.call = name && contains rest f.pattern then
      (some f.effect, if f.times ≤ 1 then fs else { f with times := f.times - 1 } :: fs)
    else
      let (e, fs) := take name rest fs
      (e, f :: fs)

def receive (r : Rig) (c : Remote.Call) : Option Effect × Rig :=
  match r.entered with
  | some e => (e, { r with entered := none })
  | none =>
    let (name, rest) := describe c
    let (e, faults) := take name rest r.faults
    (e, { r with faults := faults, log := (logLine? c).toList ++ r.log })

def lastWord? (command : String) : Option String := (Shell.split command).bind (·.getLast?)

def loseDirectory (d : Local.Disk) (path : String) : Local.Disk :=
  match d.find path with
  | .ok t => d.eraseTree t.location
  | .error _ => d

def loseFile (d : Local.Disk) (path : String) : Local.Disk := (d.attempt (d.remove path)).2

def pass (c : Remote.Call) (r : Rig) (d : Local.Disk) : c.Reply × Rig × Local.Disk :=
  let (reply, s, d) := Server.answer c (r.server, d)
  (reply, { r with server := s }, d)

def execUnder (e : Effect) (l : Remote.LinkId) (command : String) (timeout : Duration) (r : Rig)
    (d : Local.Disk) : Remote.Attempt Remote.Output × Rig × Local.Disk :=
  match e with
  | .fail e => (.error e, r, d)
  | .outcome out => (.ok out, r, d)
  | .write content =>
    let server := match lastWord? command with
      | some out => r.server.put out ⟨content, 0⟩
      | none => r.server
    (.ok {}, { r with server := server }, d)
  | .loseDirectory path => pass (.exec l command timeout) r (loseDirectory d path)
  | _ => pass (.exec l command timeout) r d

def fastGetUnder (e : Effect) (l : Remote.LinkId) (remote localPath : String)
    (timeout : Duration) (r : Rig) (d : Local.Disk) : Remote.Attempt Nat × Rig × Local.Disk :=
  match e with
  | .fail e => (.error e, r, d)
  | .loseFile (some e) => (.error e, r, loseFile d localPath)
  | .loseFile none =>
    let (reply, r, d) := pass (.fastGet l remote localPath timeout) r d
    (reply, r, loseFile d localPath)
  | _ => pass (.fastGet l remote localPath timeout) r d

/-- The reply to any other call on a link under a fault; `passed` is the reply without it. -/
def failUnder {α : Type} (e : Effect) (r : Rig) (d : Local.Disk)
    (passed : Remote.Attempt α × Rig × Local.Disk) : Remote.Attempt α × Rig × Local.Disk :=
  match e with
  | .fail e => (.error e, r, d)
  | _ => passed

def under (e : Effect) : (c : Remote.Call) → Rig → Local.Disk → c.Reply × Rig × Local.Disk
  | .dial c, r, d => match e with
    | .refuseDial e => (.error e, r, d)
    | _ => pass (.dial c) r d
  | .home l, r, d => failUnder e r d (pass (.home l) r d)
  | .stat l path, r, d => failUnder e r d (pass (.stat l path) r d)
  | .read l path, r, d => failUnder e r d (pass (.read l path) r d)
  | .readDir l path, r, d => failUnder e r d (pass (.readDir l path) r d)
  | .exec l command timeout, r, d => execUnder e l command timeout r d
  | .fastGet l remote path timeout, r, d => fastGetUnder e l remote path timeout r d
  | .remove l path, r, d => failUnder e r d (pass (.remove l path) r d)
  | .close l, r, d => failUnder e r d (pass (.close l) r d)
  | .abandon l, r, d => pass (.abandon l) r d

def answer : Host Rig
  | c, (r, d) =>
    match r.receive c with
    | (some e, r) => under e c r d
    | (none, r) => pass c r d

def gateOf? : Remote.Call → Option Gate
  | .dial _ => some .dial
  | .read _ _ => some .read
  | _ => none

def keep? (c : Remote.Call) (r : Rig) : Option Rig :=
  if r.gate.isSome && r.gate = gateOf? c then
    let (e, r) := r.receive c
    some { r with gate := none, kept := some e }
  else none

def letGo (r : Rig) : Rig := { r with entered := r.kept, kept := none }

end Rig

end RemoteTags.Memory
