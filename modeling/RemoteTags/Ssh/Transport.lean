import RemoteTags.Remote.Call
import RemoteTags.Ssh.Library

/-! One link as a program of library calls. The library's timeout is the connect timeout while
the link is opened, the caller's during a command or a transfer, and the exec timeout at all
other times. -/

namespace RemoteTags.Ssh

structure Transport where
  timeouts : Timeouts
  sftpOpen : Bool := true
deriving DecidableEq, Repr

def longestTimeout : Nat := 0xFFFFFFFF

/-- A duration in milliseconds, as the library takes it. -/
def millis (d : Duration) : Nat := min d.milliseconds longestTimeout

def setTimeout (d : Duration) : Wire Unit := library (.setTimeout (millis d))

/-- The failure of a call about `subject`. Only a status of the server leaves the link usable. -/
def ofLibrary (subject : String) (e : LibraryError) : TransportError :=
  match e.code with
  | .sftp 2 => .notFound subject
  | .sftp 8 => .unsupported (subject ++ ": " ++ e.text)
  | .sftp _ => .refused (subject ++ ": " ++ e.text)
  | .session (-9) => .timedOut subject
  | .session _ => .io (subject ++ ": " ++ e.text)

def ofIo (subject : String) (kind : Local.IoKind) (text : String) : TransportError :=
  match kind with
  | .notFound => .notFound subject
  | .timedOut => .timedOut subject
  | _ => .io (subject ++ ": " ++ text)

def ofStream (subject : String) (e : LibraryError) : TransportError := ofIo subject e.kind e.text

def ofLocal (subject : String) (e : Local.IoError) : TransportError :=
  ofIo subject e.kind e.message

def ask {α : Type} (subject : String) (call : Wire (Attempt α)) : Wire (Remote.Attempt α) := do
  match ← call with
  | .ok a => return .ok a
  | .error e => return .error (ofLibrary subject e)

/-- A stream as a text. A failure of the stream comes before bad encoding. -/
def textOf (subject : String) (s : Stream) : Remote.Attempt String :=
  match s.failure, Utf8.decode? s.delivered with
  | some e, _ => .error (ofStream subject e)
  | none, some text => .ok text
  | none, none => .error (ofLocal subject .invalidUtf8)

def authenticate (c : Connection) : Wire (Attempt Unit) :=
  match c.identityFile with
  | some key =>
    library (.authKey c.user key (if c.credential = "" then none else some c.credential))
  | none => library (.authPassword c.user c.credential)

def finishOpening (c : Connection) : Wire (Except ConnectError Transport) := do
  match ← library .openSftp with
  | .error e => return .error (.sftp e.text)
  | .ok () =>
    setTimeout c.timeouts.exec
    return .ok { timeouts := c.timeouts }

def logIn (c : Connection) : Wire (Except ConnectError Transport) := do
  match ← authenticate c with
  | .error e => return .error (.auth c.user e.text)
  | .ok () =>
    if ← library .authenticated then finishOpening c
    else return .error (.auth c.user "server rejected credentials")

def startSession (c : Connection) : Wire (Except ConnectError Transport) := do
  match ← library .newSession with
  | .error e => return .error (.transport c.host e.display)
  | .ok () =>
    setTimeout c.timeouts.connect
    library .setStream
    match ← library .handshake with
    | .error e => return .error (.transport c.host e.text)
    | .ok () => logIn c

namespace Transport

def connect (c : Connection) : Wire (Except ConnectError Transport) := do
  match ← dial c.host c.port c.timeouts.connect with
  | .error reason => return .error (.transport c.host reason)
  | .ok () => startSession c

def onSftp {α : Type} (t : Transport) (call : Wire (Remote.Attempt α)) :
    Wire (Remote.Attempt α) :=
  if t.sftpOpen then call else return .error (.io "SFTP channel closed")

def home (t : Transport) : Wire (Remote.Attempt String) :=
  t.onSftp (ask "." (library (.realPath ".")))

def signedSeconds (n : Nat) : Int := (n : Int).bmod 0x10000000000000000

def stat (t : Transport) (path : String) : Wire (Remote.Attempt Int) :=
  t.onSftp do
    match ← ask path (library (.stat path)) with
    | .error e => return .error e
    | .ok a => match a.mtime with
      | some n => return .ok (signedSeconds n)
      | none => return .error (.unsupported ("server reported no modify time for " ++ path))

def read (t : Transport) (path : String) : Wire (Remote.Attempt Bytes) :=
  t.onSftp do
    match ← ask path (library (.openFile path)) with
    | .error e => return .error e
    | .ok () =>
      let s ← library .readFile
      match s.failure with
      | some e => return .error (ofStream path e)
      | none => return .ok s.delivered

def toEntry (path : String) (a : Attributes) : Remote.Entry where
  name := (Local.fileName? path).getD ""
  isFile := a.isRegular
  size := a.size.getD 0
  mtime := signedSeconds (a.mtime.getD 0)

def readDir (t : Transport) (path : String) : Wire (Remote.Attempt (List Remote.Entry)) :=
  t.onSftp do
    match ← ask path (library (.readDir path)) with
    | .error e => return .error e
    | .ok listing => return .ok (listing.map fun e => toEntry e.1 e.2)

/-- Runs a call under a timeout of its own. Afterwards the exec timeout is in force again. -/
def within {α : Type} (t : Transport) (timeout : Duration) (call : Wire α) : Wire α := do
  setTimeout timeout
  let a ← call
  setTimeout t.timeouts.exec
  return a

def exitStatus (command : String) : Wire (Remote.Attempt Int) := do
  match ← ask command (library .waitClose) with
  | .error e => return .error e
  | .ok () => ask command (library .exitStatus)

def collect (command : String) : Wire (Remote.Attempt Remote.Output) := do
  match textOf command (← library .readStdout) with
  | .error e => return .error e
  | .ok stdout =>
    match textOf command (← library .readStderr) with
    | .error e => return .error e
    | .ok stderr =>
      match ← exitStatus command with
      | .error e => return .error e
      | .ok status => return .ok ⟨status, stdout, stderr⟩

def runCommand (command : String) : Wire (Remote.Attempt Remote.Output) := do
  match ← ask command (library .openChannel) with
  | .error e => return .error e
  | .ok () =>
    match ← ask command (library (.exec command)) with
    | .error e => return .error e
    | .ok () => collect command

def exec (t : Transport) (command : String) (timeout : Duration) :
    Wire (Remote.Attempt Remote.Output) :=
  t.within timeout (runCommand command)

/-- Copies the opened remote file to a local file that has been created. What the stream delivers
before it fails is written all the same. -/
def copy (remote localPath : String) : Wire (Remote.Attempt Nat) := do
  let s ← library .readFile
  match ← disk (.append localPath s.delivered) with
  | .error e => return .error (ofLocal remote e)
  | .ok () =>
    match s.failure with
    | some e => return .error (ofStream remote e)
    | none =>
      match ← disk (.sync localPath) with
      | .error e => return .error (.localFailure e.message)
      | .ok () => return .ok s.delivered.length

def fastGet (t : Transport) (remote localPath : String) (timeout : Duration) :
    Wire (Remote.Attempt Nat) :=
  t.within timeout <| t.onSftp do
    match ← ask remote (library (.openFile remote)) with
    | .error e => return .error e
    | .ok () =>
      match ← disk (.create localPath) with
      | .error e =>
        return .error (.localFailure ("cannot create " ++ localPath ++ ": " ++ e.message))
      | .ok () => copy remote localPath

def remove (t : Transport) (path : String) : Wire (Remote.Attempt Unit) :=
  t.onSftp (ask path (library (.unlink path)))

def farewell : String := "ctagssh disconnect"

/-- The SFTP channel is shut down before the session that carries it. -/
def shut (t : Transport) : Wire Unit :=
  if t.sftpOpen then library .shutSftp else return ()

def close (t : Transport) : Wire (Remote.Attempt Unit × Transport) := do
  t.shut
  let t := { t with sftpOpen := false }
  match ← library (.disconnect farewell) with
  | .ok () => return (.ok (), t)
  | .error e => return (.error (.io e.text), t)

end Transport

end RemoteTags.Ssh
