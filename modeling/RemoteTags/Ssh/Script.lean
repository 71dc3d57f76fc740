import RemoteTags.Ssh.Transport
import RemoteTags.Text.Cut

/-! A library that plays a script: a server with files, directories and rules for commands, and a
queue of faults. Every call is logged. -/

namespace RemoteTags.Ssh
open Text

structure ScriptFile where
  content : Bytes
  attributes : Attributes := {}
deriving DecidableEq, Repr

structure Rule where
  pattern : String
  exitStatus : Int := 0
  stdout : Bytes := []
  stderr : Bytes := []
  written : Option Bytes := none
deriving DecidableEq, Repr

structure ScriptFault where
  call : String
  pattern : String := ""
  times : Nat := 1
  error : LibraryError
  -- A stream delivers so many bytes before it fails.
  after : Nat := 0
deriving DecidableEq, Repr

structure Script where
  home : String := "/home/dev"
  authenticated : Bool := true
  files : List (String × ScriptFile) := []
  directories : List (String × List (String × Attributes)) := []
  rules : List Rule := []
  faults : List ScriptFault := []
  opened : Stream := {}
  -- The command that was run last, and its rule.
  command : String := ""
  rule : Rule := ⟨"", 0, [], [], none⟩
  -- Newest first.
  log : List String := []

namespace Script

def unknownCommand : Rule := ⟨"", 127, [], [], none⟩

/-- The first word of a call in the log and the text behind it; a read of a file has no line. -/
def describe : LibraryCall → String × String
  | .newSession => ("session", "")
  | .setTimeout n => ("timeout", toString n)
  | .setStream => ("tcp", "")
  | .handshake => ("handshake", "")
  | .authPassword user password => ("auth", "password " ++ user ++ " " ++ password)
  | .authKey user key none => ("auth", "key " ++ user ++ " " ++ key ++ " none")
  | .authKey user key (some p) => ("auth", "key " ++ user ++ " " ++ key ++ " passphrase " ++ p)
  | .authenticated => ("authenticated", "")
  | .openSftp => ("sftp", "")
  | .shutSftp => ("sftp", "shut down")
  | .realPath path => ("realpath", path)
  | .stat path => ("stat", path)
  | .openFile path => ("open", path)
  | .readFile => ("fread", "")
  | .unlink path => ("unlink", path)
  | .readDir path => ("readdir", path)
  | .openChannel => ("channel", "")
  | .exec command => ("exec", command)
  | .readStdout => ("stdout", "")
  | .readStderr => ("stderr", "")
  | .waitClose => ("wait_close", "")
  | .exitStatus => ("exit_status", "")
  | .disconnect description => ("disconnect", description)

def write (c : LibraryCall) (s : Script) : Script :=
  let (name, rest) := describe c
  { s with log := String.ofList (trimEnd (name ++ " " ++ rest).toList) :: s.log }

def takeFrom (name rest : String) : List ScriptFault → Option ScriptFault × List ScriptFault
  | [] => (none, [])
  | f :: fs =>
    if f.call = name && contains rest f.pattern then
      (some f, if f.times ≤ 1 then fs else { f with times := f.times - 1 } :: fs)
    else
      let (g, fs) := takeFrom name rest fs
      (g, f :: fs)

def take (name rest : String) (s : Script) : Option ScriptFault × Script :=
  let (f, faults) := takeFrom name rest s.faults
  (f, { s with faults := faults })

/-- Logs a call. It fails if its text has a NUL character, or else if a fault fits. -/
def attempt {α : Type} (c : LibraryCall) (s : Script) (answer : Script → Attempt α × Script) :
    Attempt α × Script :=
  let s := s.write c
  let (name, rest) := describe c
  if rest.toList.contains '\x00' then (.error .nulInText, s)
  else match s.take name rest with
    | (some f, s) => (.error f.error, s)
    | (none, s) => answer s

def stream (name subject : String) (content : Bytes) (s : Script) : Stream × Script :=
  match s.take name subject with
  | (some f, s) => (⟨content.take f.after, some f.error⟩, s)
  | (none, s) => (⟨content, none⟩, s)

def succeed {α : Type} (a : α) (s : Script) : Attempt α × Script := (.ok a, s)

def stat (path : String) (s : Script) : Attempt Attributes × Script :=
  match s.files.lookup path with
  | some f => (.ok f.attributes, s)
  | none => (.error .noSuchFile, s)

def openFile (path : String) (s : Script) : Attempt Unit × Script :=
  match s.files.lookup path with
  | some f =>
    let (opened, s) := s.stream "fread" path f.content
    (.ok (), { s with opened := opened })
  | none => (.error .noSuchFile, s)

def unlink (path : String) (s : Script) : Attempt Unit × Script :=
  match s.files.lookup path with
  | some _ => (.ok (), { s with files := s.files.filter fun e => e.1 ≠ path })
  | none => (.error .noSuchFile, s)

/-- The paths of a listing lie below the directory, unless a name is a path from the root. -/
def readDir (path : String) (s : Script) : Attempt (List (String × Attributes)) × Script :=
  match s.directories.lookup path with
  | some es => (.ok (es.map fun e => (Local.join path e.1, e.2)), s)
  | none => (.error .noSuchFile, s)

def put (path : String) (content : Bytes) (s : Script) : Script :=
  let attributes := match s.files.lookup path with
    | some f => f.attributes
    | none => {}
  { s with files := (path, ⟨content, attributes⟩) :: s.files.filter fun e => e.1 ≠ path }

def outputOf? (command : String) : Option String :=
  (splitAtText [' ', '>'] command.toList.reverse).map fun p => String.ofList p.1.reverse

def exec (command : String) (s : Script) : Attempt Unit × Script :=
  let rule := (s.rules.find? fun r => contains command r.pattern).getD
    unknownCommand
  let s := match rule.written, outputOf? command with
    | some content, some path => s.put path content
    | _, _ => s
  (.ok (), { s with command := command, rule := rule })

def output (c : LibraryCall) (content : Bytes) (s : Script) : Stream × Script :=
  (s.write c).stream (describe c).1 s.command content

def play : (c : LibraryCall) → Script → c.Reply × Script
  | .setTimeout n, s => ((), s.write (.setTimeout n))
  | .setStream, s => ((), s.write .setStream)
  | .shutSftp, s => ((), s.write .shutSftp)
  | .authenticated, s => (s.authenticated, s.write .authenticated)
  | .newSession, s => s.attempt .newSession (succeed ())
  | .handshake, s => s.attempt .handshake (succeed ())
  | .authPassword user password, s => s.attempt (.authPassword user password) (succeed ())
  | .authKey user key passphrase, s => s.attempt (.authKey user key passphrase) (succeed ())
  | .openSftp, s => s.attempt .openSftp (succeed ())
  | .realPath path, s => s.attempt (.realPath path) fun s => (.ok s.home, s)
  | .stat path, s => s.attempt (.stat path) (·.stat path)
  | .openFile path, s => s.attempt (.openFile path) (·.openFile path)
  | .readFile, s => (s.opened, s)
  | .unlink path, s => s.attempt (.unlink path) (·.unlink path)
  | .readDir path, s => s.attempt (.readDir path) (·.readDir path)
  | .openChannel, s => s.attempt .openChannel (succeed ())
  | .exec command, s => s.attempt (.exec command) (·.exec command)
  | .readStdout, s => s.output .readStdout s.rule.stdout
  | .readStderr, s => s.output .readStderr s.rule.stderr
  | .waitClose, s => s.attempt .waitClose (succeed ())
  | .exitStatus, s => s.attempt .exitStatus fun s => (.ok s.rule.exitStatus, s)
  | .disconnect description, s => s.attempt (.disconnect description) (succeed ())

def closedPort : Nat := 1

def dial (host : String) (port : Nat) (timeout : Duration) : Except String Unit :=
  if host.toList.contains '\x00' then .error Local.IoError.nulInName.message
  else if port = closedPort then .error "Connection refused (os error 111)"
  else if timeout = .ofSeconds 0 then .error "cannot set a 0 duration timeout"
  else .ok ()

def answer : (c : Call) → Script × Local.Disk → c.Reply × (Script × Local.Disk)
  | .dial host port timeout, s => (dial host port timeout, s)
  | .library c, (s, d) =>
    let (r, s) := s.play c
    (r, (s, d))
  | .disk c, (s, d) =>
    let (r, d) := d.answer [] c
    (r, (s, d))

end Script

end RemoteTags.Ssh
