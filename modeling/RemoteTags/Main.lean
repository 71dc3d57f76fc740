import RemoteTags.CommandLine.Run

/-! The program on the real local disk. No network is built in: an attempt to connect fails, so
that only the commands on local files succeed. -/

namespace RemoteTags.Main

structure State where
  session : Session := {}
  cache : Cache := {}

def osError? : IO.Error → Option Local.OsError
  | .noFileOrDirectory _ _ _ => some .noEntry
  | .alreadyExists _ _ _ => some .exists
  | .resourceBusy _ _ => some .busy
  | .inappropriateType _ n _ =>
    if n = Local.OsError.notDirectory.number.toUInt32 then some .notDirectory
    else if n = Local.OsError.isDirectory.number.toUInt32 then some .isDirectory
    else none
  | _ => none

def ofIo (e : IO.Error) : Local.IoError :=
  match osError? e with
  | some e => .os e
  | none => .other (toString e)

def attempt {α : Type} (act : IO α) : IO (Except Local.IoError α) := do
  match ← act.toBaseIO with
  | .ok a => return .ok a
  | .error e => return .error (ofIo e)

def bytesOf (data : Bytes) : ByteArray := ⟨data.toArray⟩

def emptyFile (path : String) : IO Unit := IO.FS.writeBinFile path (bytesOf [])

def addTo (path : String) (data : Bytes) : IO Unit :=
  IO.FS.withFile path .append fun h => h.write (bytesOf data)

def tokenBound : Nat := 1000000

def newFile (path : String) : IO Unit := do
  let _ ← IO.FS.Handle.mk path .writeNew

def nameTries : Nat := 65536

def createScratch (directory suffix : String) : Nat → IO (Except Local.IoError String)
  | 0 => return .error (Local.noFreshName directory)
  | tries + 1 => do
    let current ← IO.currentDir
    let token := String.ofList (Decimal.padded 6 (← IO.rand 0 (tokenBound - 1)))
    let path := Local.scratchPath current.toString directory token suffix
    match ← attempt (newFile path) with
    | .ok () => return .ok path
    | .error (.os .exists) => createScratch directory suffix tries
    | .error e => return .error (e.atPath path)

def readFile (path : String) : IO (Except Local.IoError Bytes) :=
  attempt do return (← IO.FS.readBinFile path).toList

/-- Reads the nearest file with this name, from a directory upwards by so many steps at most. -/
def readNearest (name : String) : Nat → String → IO (Except Local.IoError Bytes)
  | 0, _ => return .error (.os .noEntry)
  | steps + 1, directory => do
    match ← readFile (Local.join directory name), Local.parent? directory with
    | .error (.os .noEntry), some above | .error (.os .isDirectory), some above =>
      readNearest name steps above
    | r, _ => return r

def disk : (c : Local.Call) → IO c.Reply
  | .read path => readFile path
  | .readNearest name => do
    let directory := (← IO.currentDir).toString
    readNearest name directory.utf8ByteSize directory
  | .pathExists path => do return (← attempt (IO.FS.Handle.mk path .read)).isOk
  | .makeDirectories path => attempt (IO.FS.createDirAll path)
  | .createScratch directory suffix => createScratch directory suffix nameTries
  | .create path => attempt (emptyFile path)
  | .append path data => attempt (addTo path data)
  | .sync path => attempt (IO.FS.withFile path .append fun h => h.flush)
  | .remove path => attempt (IO.FS.removeFile path)
  | .rename source target => attempt (IO.FS.rename source target)

def noNetwork : String := "no network is built in"

def remote : (c : Remote.Call) → c.Reply
  | .dial c => .error (.transport c.host noNetwork)
  | .home _ | .stat _ _ | .read _ _ | .readDir _ _ | .exec _ _ _ | .fastGet _ _ _ _
  | .remove _ _ | .close _ => .error (.io noNetwork)
  | .abandon _ => ()

def answer (s : State) : (a : Action) → IO (a.Reply × State)
  | .session x =>
    let (r, session) := x.answer s.session
    return (r, { s with session := session })
  | .cache x =>
    let (r, cache) := x.answer s.cache
    return (r, { s with cache := cache })
  | .remote c => return (remote c, s)
  | .opening c _ => return (some (.error (.transport c.host noNetwork)), s)
  | .disk c => do return (← disk c, s)
  | .clock => do return (← IO.monoMsNow, s)
  | .random bound => do return (← IO.rand 0 (bound - 1), s)

def perform {α : Type} : Act α → State → IO α
  | .done a, _ => return a
  | .ask q next, s => do
    let (r, s) ← answer s q
    perform (next r) s

/-- The variables that the program asks for. The last ones have a say only in what a terminal shows,
in the width of the help, in the log, and in backtraces. -/
def variableNames : List String :=
  ["HOME", "XDG_CONFIG_HOME", "CLICOLOR_FORCE", CommandLine.configVariable, "CTAGSSH_HOST",
   "CTAGSSH_PORT", "CTAGSSH_USERNAME", "CTAGSSH_PASSWORD", "CTAGSSH_IDENTITY_FILE",
   "CTAGSSH_TAGS_FILE", "CLICOLOR", "NO_COLOR", "TERM", "COLUMNS", "LINES", "RUST_LOG",
   "RUST_BACKTRACE", "RUST_LIB_BACKTRACE"]

def environment : IO Config.Environment :=
  variableNames.filterMapM fun name => do
    return (← IO.getEnv name).map fun value => (name, value)

end RemoteTags.Main

def main (args : List String) : IO UInt32 := do
  let env ← RemoteTags.Main.environment
  let exit ← RemoteTags.Main.perform (RemoteTags.CommandLine.run env args) {}
  IO.print exit.stdout
  IO.eprint exit.stderr
  return exit.status.toUInt32
