import RemoteTags.Effect.Program
import RemoteTags.Local.Disk
import RemoteTags.Text.Quoted

/-! The calls on the local file system, and their answers on a `Disk`. -/

namespace RemoteTags.Local

inductive Call where
  | read (path : String)
  -- Reads the nearest file with this name, from the working directory upwards.
  | readNearest (name : String)
  | pathExists (path : String)
  | makeDirectories (path : String)
  -- Makes an empty file with a fresh name in a directory and replies with its path.
  | createScratch (directory suffix : String)
  | create (path : String)
  | append (path : String) (data : Bytes)
  | sync (path : String)
  | remove (path : String)
  | rename (source target : String)
deriving DecidableEq, Repr

@[reducible] def Call.Reply : Call → Type
  | .read _ | .readNearest _ => Except IoError Bytes
  | .pathExists _ => Bool
  | .createScratch _ _ => Except IoError String
  | .makeDirectories _ | .create _ | .append _ _ | .sync _ | .remove _ | .rename _ _ =>
    Except IoError Unit

/-- A failure at a scratch file tells its path as well. -/
def IoError.atPath (path : String) (e : IoError) : IoError :=
  .other (e.message ++ " at path " ++ Quoted.path path)

def scratchStart : String := ".ctagssh-"

/-- The path of a scratch file. It is absolute, so that it stays valid wherever the program
goes. -/
def scratchPath (current directory token suffix : String) : String :=
  join (join current directory) (scratchStart ++ token ++ suffix)

def Disk.attempt (d : Disk) (r : Except IoError Disk) : Except IoError Unit × Disk :=
  match r with
  | .ok d => (.ok (), d)
  | .error e => (.error e, d)

def noFreshName (directory : String) : IoError :=
  IoError.atPath directory (.other "too many temporary files exist")

/-- Makes an empty file with a fresh name: the first of the tokens whose name is free makes it. -/
def Disk.createScratch (d : Disk) (directory suffix : String) :
    List String → Except IoError (String × Disk)
  | [] => .error (noFreshName directory)
  | token :: others =>
    let path := scratchPath d.currentDirectory directory token suffix
    match d.createNew path with
    | .ok d => .ok (path, d)
    | .error e =>
      if e = .os .exists then d.createScratch directory suffix others else .error (e.atPath path)

def Disk.answer (tokens : List String) : (c : Call) → Disk → c.Reply × Disk
  | .read path, d => (d.read path, d)
  | .readNearest name, d => (d.readNearest name, d)
  | .pathExists path, d => (d.pathExists path, d)
  | .makeDirectories path, d => d.makeTree path
  | .createScratch directory suffix, d =>
    match d.createScratch directory suffix tokens with
    | .ok (path, d) => (.ok path, d)
    | .error e => (.error e, d)
  | .create path, d => d.attempt (d.create path)
  | .append path data, d => d.attempt (d.append path data)
  | .sync path, d => (d.sync path, d)
  | .remove path, d => d.attempt (d.remove path)
  | .rename source target, d => d.attempt (d.rename source target)

end RemoteTags.Local
