import RemoteTags.Fetch.Error
import RemoteTags.Gzip.Member
import RemoteTags.Path.Remote
import RemoteTags.Session.Operation
import RemoteTags.Text.Hexadecimal

/-! Fetching a remote file in compressed form. It is compressed into a scratch file on the remote
host, transferred into a local scratch file, expanded into another one next to the destination,
and renamed onto the destination at last. So the destination is replaced as a whole or not at
all. Whatever the end, every scratch file is removed; those that could not be are reported. -/

namespace RemoteTags.Fetch

/-- What is asked of the session, the local disk and the clock on the way. -/
inductive Ask where
  | connected
  | home
  | exec (command : String)
  | fastGet (remote localPath : String)
  | remove (path : String)
  | disk (c : Local.Call)
  | clock
  | random (bound : Nat)

namespace Ask

@[reducible] def Reply : Ask → Type
  | .connected => Bool
  | .home => Option String
  | .exec _ => Except SessionError Remote.Output
  | .fastGet _ _ => Except SessionError Nat
  | .remove _ => Except SessionError Unit
  | .disk c => c.Reply
  | .clock | .random _ => Nat

def program : (q : Ask) → Act q.Reply
  | .connected => Session.isConnected
  | .home => Session.remoteHome
  | .exec command => Session.exec command
  | .fastGet remote localPath => Session.fastGet remote localPath
  | .remove path => Session.remove path
  | .disk c => Act.disk c
  | .clock => Act.clock
  | .random bound => Act.random bound

end Ask

abbrev Course := Program Ask Ask.Reply

def ask (q : Ask) : Course q.Reply := .query q

structure Report where
  localPath : String
  compressedBytes : Nat
  installedBytes : Nat
  cleanup : List CleanupError
  milliseconds : Nat
deriving DecidableEq, Repr

structure Plan where
  remote : String
  scratch : String
  directory : String
deriving DecidableEq, Repr

/-- What stays on the remote host after a removal. If there was nothing, nothing stays. -/
def leftRemote (path : String) : Except SessionError Unit → List CleanupError
  | .ok () | .error (.notFound _) => []
  | .error e => [.remote path e]

def removeRemote (path : String) : Course (List CleanupError) := do
  return leftRemote path (← ask (.remove path))

def leftLocal (path : String) : Except Local.IoError Unit → List CleanupError
  | .ok () => []
  | .error e => [.onDisk path (e.atPath path)]

def removeLocal (path : String) : Course (List CleanupError) := do
  return leftLocal path (← ask (.disk (.remove path)))

def compress (p : Plan) : Course (Except FetchError Unit) := do
  match ← ask (.exec (Shell.gzipCommand p.remote p.scratch)) with
  | .ok _ => return .ok ()
  | .error e => return .error (.step .compress (.session e) (← removeRemote p.scratch))

structure Transferred where
  path : String
  bytes : Nat
  cleanup : List CleanupError

def transfer (p : Plan) : Course (Except FetchError Transferred) := do
  match ← ask (.disk (.createScratch p.directory ".gz")) with
  | .error e => return .error (.step .transfer (.io e) (← removeRemote p.scratch))
  | .ok path =>
    let transferred ← ask (.fastGet p.scratch path)
    let left ← removeRemote p.scratch
    match transferred with
    | .ok n => return .ok ⟨path, n, left⟩
    | .error e =>
      return .error (.step .transfer (.session e) (left ++ (← removeLocal path)))

/-- Writes the content of a compressed file into another file and tells its size. If it cannot be
read to its end, what has come out before is written first. -/
def expandInto (target : String) (compressed : Bytes) : Course (Except Local.IoError Nat) := do
  match Gzip.decode compressed with
  | .error unfinished =>
    match ← ask (.disk (.append target unfinished.part)) with
    | .error e => return .error e
    | .ok () => return .error (.other unfinished.error.message)
  | .ok content =>
    match ← ask (.disk (.append target content)) with
    | .error e => return .error e
    | .ok () =>
      match ← ask (.disk (.sync target)) with
      | .error e => return .error e
      | .ok () => return .ok content.length

structure Expanded where
  path : String
  bytes : Nat
  cleanup : List CleanupError

/-- Expands a file into a fresh one. If that fails, the fresh one is removed without a word. -/
def expand (source directory : String) : Course (Except Local.IoError (String × Nat)) := do
  match ← ask (.disk (.read source)) with
  | .error e => return .error e
  | .ok compressed =>
    match ← ask (.disk (.createScratch directory "")) with
    | .error e => return .error e
    | .ok target =>
      match ← expandInto target compressed with
      | .ok n => return .ok (target, n)
      | .error e =>
        let _ ← ask (.disk (.remove target))
        return .error e

def decompress (p : Plan) (t : Transferred) : Course (Except FetchError Expanded) := do
  let expanded ← expand t.path p.directory
  let cleanup := t.cleanup ++ (← removeLocal t.path)
  match expanded with
  | .ok (path, n) => return .ok ⟨path, n, cleanup⟩
  | .error e => return .error (.step .decompress (.io e) cleanup)

def install (e : Expanded) (target : String) : Course (Except FetchError Unit) := do
  match ← ask (.disk (.rename e.path target)) with
  | .ok () => return .ok ()
  | .error cause =>
    return .error (.step .install (.io cause) (e.cleanup ++ (← removeLocal e.path)))

/-- Tokens are below this, so that they have sixteen hexadecimal digits. -/
def tokenBound : Nat := 0x10000000000000000

def scratchFile (home : String) (token : Nat) : String :=
  Shell.scratchBase home ++ "." ++ Hexadecimal.padded 16 token ++ ".gz"

def directoryOf (path : String) : String :=
  match Local.parent? path with
  | some "" | none => "."
  | some d => d

def carryOut (p : Plan) (target : String) (start : Nat) : Course (Except FetchError Report) := do
  match ← compress p with
  | .error e => return .error e
  | .ok () =>
    match ← transfer p with
    | .error e => return .error e
    | .ok t =>
      match ← decompress p t with
      | .error e => return .error e
      | .ok x =>
        match ← install x target with
        | .error e => return .error e
        | .ok () => return .ok ⟨target, t.bytes, x.bytes, x.cleanup, (← ask .clock) - start⟩

def course (remoteFile target : String) : Course (Except FetchError Report) := do
  let start ← ask .clock
  if !(← ask .connected) then return .error .notConnected
  match ← ask .home with
  | none => return .error .notConnected
  | some home =>
    let remote := Path.expandHome home remoteFile
    if (Path.baseName? remote).isNone then return .error (.invalidRemotePath remoteFile)
    let directory := directoryOf target
    match ← ask (.disk (.makeDirectories directory)) with
    | .error e => return .error (.destination directory e)
    | .ok () =>
      let token ← ask (.random tokenBound)
      carryOut ⟨remote, scratchFile home token, directory⟩ target start

def courseInto (remoteFile directory : String) : Course (Except FetchError Report) := do
  match ← ask .home with
  | none => return .error .notConnected
  | some home =>
    match Path.baseName? (Path.expandHome home remoteFile) with
    | none => return .error (.invalidRemotePath remoteFile)
    | some name => course remoteFile (Local.join directory name)

/-- Fetches a remote file and installs it as `target`. -/
def fetchTo (remoteFile target : String) : Act (Except FetchError Report) :=
  (course remoteFile target).handle Ask.program

/-- Fetches a remote file into a directory, under its own name. -/
def fetch (remoteFile directory : String) : Act (Except FetchError Report) :=
  (courseInto remoteFile directory).handle Ask.program

end RemoteTags.Fetch
