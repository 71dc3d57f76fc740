import RemoteTags.Effect.Action
import RemoteTags.Gzip.Member
import RemoteTags.Shell.Word
import RemoteTags.Text.Cut
import RemoteTags.Time.Stamp

/-! A remote host that is a map from paths to files. Of all commands it knows the two that this
library issues. Switches make calls fail. -/

namespace RemoteTags.Memory
open Text

structure File where
  content : Bytes
  mtime : Int
deriving DecidableEq, Repr

structure Server where
  files : List (String × File) := []
  home : String := "/home/dev"
  statUnsupported : Bool := false
  failingReads : Nat := 0
  failingDials : Nat := 0
  failingCommand : Option String := none
  failTransfer : Bool := false
  failRemove : Bool := false
  dead : Bool := false
  -- What has been called, newest first.
  dials : List Connection := []
  closes : Nat := 0
  nativeStats : Nat := 0
  reads : List String := []
  execs : List String := []
  transfers : List String := []
  removed : List String := []

namespace Server

def file? (s : Server) (path : String) : Option File := s.files.lookup path

def erase (s : Server) (path : String) : Server :=
  { s with files := s.files.filter fun e => e.1 ≠ path }

def put (s : Server) (path : String) (f : File) : Server :=
  { s with files := (path, f) :: (s.erase path).files }

@[simp] theorem file?_put_self (s : Server) (path : String) (f : File) :
    (s.put path f).file? path = some f := by
  simp [file?, put]

def touch (s : Server) (path : String) (mtime : Int) : Server :=
  match s.file? path with
  | some f => s.put path { f with mtime := mtime }
  | none => s

def reset : TransportError := .io "connection reset by peer"

def onLive {α : Type} (s : Server) (answer : Server → Remote.Attempt α × Server) :
    Remote.Attempt α × Server :=
  if s.dead then (.error reset, s) else answer s

def dial (s : Server) (c : Connection) : Except ConnectError Remote.LinkId × Server :=
  let s := { s with dials := c :: s.dials }
  match s.failingDials with
  | n + 1 => (.error (.transport c.host "connection refused"), { s with failingDials := n })
  | 0 => (.ok s.dials.length, s)

def stat (s : Server) (path : String) : Remote.Attempt Int × Server :=
  let s := { s with nativeStats := s.nativeStats + 1 }
  if s.statUnsupported then (.error (.unsupported path), s)
  else match s.file? path with
    | some f => (.ok f.mtime, s)
    | none => (.error (.notFound path), s)

def read (s : Server) (path : String) : Remote.Attempt Bytes × Server :=
  let s := { s with reads := path :: s.reads }
  match s.failingReads with
  | n + 1 => (.error reset, { s with failingReads := n })
  | 0 => match s.file? path with
    | some f => (.ok f.content, s)
    | none => (.error (.notFound path), s)

def below (s : Server) (directory : String) : List (List Char × File) :=
  let start := dropTrailing (· = '/') directory.toList ++ ['/']
  s.files.filterMap fun (path, f) => (afterStart start path.toList).map fun rest => (rest, f)

def entries (s : Server) (directory : String) : List Remote.Entry :=
  let inside := s.below directory
  let files := inside.filterMap fun (rest, f) =>
    if rest.contains '/' then none
    else some ⟨String.ofList rest, true, f.content.length, f.mtime⟩
  let directories := inside.filterMap fun (rest, _) => (cut '/' rest).map fun p => String.ofList p.1
  files ++ (directories.eraseDups.mergeSort fun a b => a ≤ b).map fun name => ⟨name, false, 0, 0⟩

def readDir (s : Server) (path : String) : Remote.Attempt (List Remote.Entry) × Server :=
  match s.entries path with
  | [] => (.error (.notFound path), s)
  | entries => (.ok entries, s)

def failed (status : Int) (stderr : String) : Remote.Output := ⟨status, "", stderr⟩

def modifyLine (m : Time.Moment) : String :=
  "Modify: " ++ String.ofList m.stampText ++ " +0000\n"

def perform (s : Server) : List String → Remote.Output × Server
  | ["stat", path, "|", "grep", "Modify", ">", out] =>
    match s.file? path with
    | none => (failed 1 "stat: cannot stat", s)
    | some f => match Time.moment? f.mtime with
      | none => (failed 1 "stat: bad time", s)
      | some m => ({}, s.put out ⟨Utf8.encode (modifyLine m), 0⟩)
  | ["gzip", "-c", source, ">", out] =>
    match s.file? source with
    | none => (failed 1 "gzip: No such file or directory", s)
    | some f => ({}, s.put out ⟨Gzip.encode f.content, 0⟩)
  | program :: _ => (failed 127 (program ++ ": command not found"), s)
  | [] => ({}, s)

def exec (s : Server) (command : String) : Remote.Output × Server :=
  let s := { s with execs := command :: s.execs }
  if s.failingCommand.any fun text => contains command text then
    (failed 1 "injected failure", s)
  else match Shell.split command with
    | none => (failed 2 "syntax error", s)
    | some words => s.perform words

def writeLocal (d : Local.Disk) (path : String) (content : Bytes) :
    Except Local.IoError Local.Disk := do
  (← d.create path).append path content

def fastGet (s : Server) (remote localPath : String) (d : Local.Disk) :
    Remote.Attempt Nat × Server × Local.Disk :=
  if s.dead then (.error reset, s, d)
  else
    let s := { s with transfers := remote :: s.transfers }
    if s.failTransfer then (.error (.io "channel closed"), s, d)
    else match s.file? remote with
      | none => (.error (.notFound remote), s, d)
      | some f => match writeLocal d localPath f.content with
        | .ok d => (.ok f.content.length, s, d)
        | .error e => (.error (.localFailure e.message), s, d)

def remove (s : Server) (path : String) : Remote.Attempt Unit × Server :=
  if s.failRemove then (.error (.refused (path ++ ": permission denied")), s)
  else match s.file? path with
    | none => (.error (.notFound path), s)
    | some _ => (.ok (), { s.erase path with removed := path :: s.removed })

/-- Puts the local disk, which most calls do not change, beside an answer. -/
def keeping {α : Type} (d : Local.Disk) (r : α × Server) : α × Server × Local.Disk :=
  (r.1, r.2, d)

def answer : Host Server
  | .dial c, (s, d) => keeping d (s.dial c)
  | .home _, (s, d) => (.ok s.home, s, d)
  | .stat _ path, (s, d) => keeping d (s.onLive (·.stat path))
  | .read _ path, (s, d) => keeping d (s.onLive (·.read path))
  | .readDir _ path, (s, d) => keeping d (s.onLive (·.readDir path))
  | .exec _ command _, (s, d) =>
    keeping d (s.onLive fun s =>
      let (out, s) := s.exec command
      (.ok out, s))
  | .fastGet _ remote localPath _, (s, d) => s.fastGet remote localPath d
  | .remove _ path, (s, d) => keeping d (s.onLive (·.remove path))
  | .close _, (s, d) => (.ok (), { s with closes := s.closes + 1 }, d)
  | .abandon _, (s, d) => ((), s, d)

end Server

end RemoteTags.Memory
