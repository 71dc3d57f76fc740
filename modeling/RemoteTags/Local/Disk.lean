import RemoteTags.Local.Error
import RemoteTags.Local.Path
import RemoteTags.Text.Utf8

/-! A local file system: directories, files and two devices, and the operations on them. A path
is walked from the root or from the working directory; every piece on the way has to be a
directory. There are no links. -/

namespace RemoteTags.Local

inductive Node where
  | file (content : Bytes)
  | directory
  -- Takes everything and keeps nothing.
  | nullDevice
  -- Takes nothing.
  | fullDevice
deriving DecidableEq, Repr

/-- The names from the root to a node. -/
abbrev Location := List String

structure Disk where
  -- All nodes but the root, which is a directory.
  nodes : List (Location × Node) := []
  workingDirectory : Location := []

/-- Where a path leads: the location, and whether the path can only mean a directory. -/
structure Target where
  location : Location
  asDirectory : Bool
  -- The path ends in a name, and not in `.`, `..` or the root.
  named : Bool
deriving DecidableEq, Repr

namespace Disk

def node? (d : Disk) (l : Location) : Option Node :=
  if l.isEmpty then some .directory else d.nodes.lookup l

def put (d : Disk) (l : Location) (n : Node) : Disk :=
  if (d.nodes.lookup l).isSome then
    { d with nodes := d.nodes.map fun e => if e.1 = l then (l, n) else e }
  else { d with nodes := d.nodes ++ [(l, n)] }

def erase (d : Disk) (l : Location) : Disk :=
  { d with nodes := d.nodes.filter fun e => e.1 ≠ l }

def eraseTree (d : Disk) (l : Location) : Disk :=
  { d with nodes := d.nodes.filter fun e => !l.isPrefixOf e.1 }

def requireDirectory (d : Disk) (l : Location) : Except OsError Unit :=
  match d.node? l with
  | some .directory => .ok ()
  | some _ => .error .notDirectory
  | none => .error .noEntry

def walk (d : Disk) : Location → List String → Except OsError Location
  | l, [] => .ok l
  | l, piece :: rest => do
    d.requireDirectory l
    if piece = "" || piece = "." then walk d l rest
    else if piece = ".." then walk d l.dropLast rest
    else if piece.utf8ByteSize > 255 then .error .nameTooLong
    else
      let next := l ++ [piece]
      if (d.node? next).isSome then walk d next rest else .error .noEntry

/-- The longest path that the system takes, in bytes with a closing NUL. -/
def longestPath : Nat := 4096

def find (d : Disk) (path : String) : Except IoError Target :=
  if path.toList.contains '\x00' then .error .nulInName
  else if path.isEmpty then .error (.os .noEntry)
  else if longestPath ≤ path.utf8ByteSize then .error (.os .nameTooLong)
  else
    let start := if isAbsolute path then [] else d.workingDirectory
    let pieces := ((piecesOf path).map String.ofList)
    -- The last piece that is not empty decides; slashes behind it ask for a directory.
    let body := (pieces.reverse.dropWhile (· = "")).reverse
    let slashed := body.length < pieces.length
    match body.getLast? with
    | none => .ok ⟨start, true, false⟩
    | some last =>
      match d.walk start body.dropLast with
      | .error e => .error (.os e)
      | .ok l =>
        match d.requireDirectory l with
        | .error e => .error (.os e)
        | .ok () =>
          if last = "." then .ok ⟨l, true, false⟩
          else if last = ".." then .ok ⟨l.dropLast, true, false⟩
          else if last.utf8ByteSize > 255 then .error (.os .nameTooLong)
          else .ok ⟨l ++ [last], slashed, true⟩

def isDirectory (d : Disk) (path : String) : Bool :=
  match d.find path with
  | .ok t => d.node? t.location = some .directory
  | .error _ => false

def pathExists (d : Disk) (path : String) : Bool :=
  match d.find path with
  | .ok t =>
    match d.node? t.location with
    | some .directory => true
    | some _ => !t.asDirectory
    | none => false
  | .error _ => false

/-- The content of a file. A directory can be opened but not read. -/
def read (d : Disk) (path : String) : Except IoError Bytes := do
  let t ← d.find path
  match d.node? t.location with
  | none => .error (.os .noEntry)
  | some .directory => .error (.os .isDirectory)
  | some n =>
    if t.asDirectory then .error (.os .notDirectory)
    else match n with
      | .file content => .ok content
      | _ => .ok []

def pathOf (l : Location) : String := "/" ++ String.intercalate "/" l

def fileOr (d : Disk) (path : String) (otherwise : Except IoError Bytes) : Except IoError Bytes :=
  match d.find path with
  | .error e => if e.kind = .notFound then otherwise else .error e
  | .ok t =>
    match d.node? t.location with
    | some (.file content) => .ok content
    | _ => otherwise

/-- The content of the nearest file with this name, from a directory up to the root. The names of
the directory stand innermost first. -/
def nearestFile (d : Disk) (name : String) : List String → Except IoError Bytes
  | [] => d.fileOr (pathOf [name]) (.error (.os .noEntry))
  | inner :: outer =>
    d.fileOr (pathOf ((inner :: outer).reverse ++ [name])) (d.nearestFile name outer)

/-- The content of the nearest file with this name, from the working directory upwards. Only files
count, not directories or devices. -/
def readNearest (d : Disk) (name : String) : Except IoError Bytes :=
  match d.requireDirectory d.workingDirectory with
  | .error e => .error (.os e)
  | .ok () => d.nearestFile name d.workingDirectory.reverse

def create (d : Disk) (path : String) : Except IoError Disk := do
  let t ← d.find path
  if !t.named || t.asDirectory then .error (.os .isDirectory)
  else match d.node? t.location with
    | some .directory => .error (.os .isDirectory)
    | some (.file _) | none => .ok (d.put t.location (.file []))
    | some _ => .ok d

def createNew (d : Disk) (path : String) : Except IoError Disk := do
  let t ← d.find path
  if !t.named || (d.node? t.location).isSome then .error (.os .exists)
  else if t.asDirectory then .error (.os .isDirectory)
  else .ok (d.put t.location (.file []))

def append (d : Disk) (path : String) (data : Bytes) : Except IoError Disk := do
  let t ← d.find path
  match d.node? t.location with
  | some (.file content) => .ok (d.put t.location (.file (content ++ data)))
  | some .fullDevice => if data.isEmpty then .ok d else .error (.os .noSpace)
  | _ => .ok d

/-- Waits until a file's content is safe; a device has nothing to wait for and refuses. -/
def sync (d : Disk) (path : String) : Except IoError Unit := do
  let t ← d.find path
  match d.node? t.location with
  | some .nullDevice | some .fullDevice => .error (.os .invalidArgument)
  | _ => .ok ()

def remove (d : Disk) (path : String) : Except IoError Disk := do
  let t ← d.find path
  match d.node? t.location with
  | none => .error (.os .noEntry)
  | some .directory => .error (.os .isDirectory)
  | some _ => if t.asDirectory then .error (.os .notDirectory) else .ok (d.erase t.location)

def rename (d : Disk) (source target : String) : Except IoError Disk := do
  let s ← d.find source
  let t ← d.find target
  if !t.named then .error (.os .busy)
  else match d.node? s.location with
    | none => .error (.os .noEntry)
    | some n =>
      match d.node? t.location with
      | some .directory => .error (.os .isDirectory)
      | _ =>
        if t.asDirectory then .error (.os .notDirectory)
        else .ok ((d.erase s.location).put t.location n)

def makeDirectory (d : Disk) (path : String) : Except IoError Disk := do
  let t ← d.find path
  if (d.node? t.location).isSome || !t.named then .error (.os .exists)
  else .ok (d.put t.location .directory)

/-- Makes a directory and those above it. What is a directory already is left as it is. When this
fails, the directories made so far stay. -/
def makeTree (d : Disk) (path : String) : Except IoError Unit × Disk :=
  go path.utf8ByteSize d path
where
  -- Makes the last directory of a path. A failure does not count if the directory is there.
  make (d : Disk) (path : String) : Except IoError Unit × Disk :=
    match d.makeDirectory path with
    | .ok d => (.ok (), d)
    | .error e => if d.isDirectory path then (.ok (), d) else (.error e, d)
  go : Nat → Disk → String → Except IoError Unit × Disk
    | 0, d, _ => (.ok (), d)
    | fuel + 1, d, path =>
      if path.isEmpty then (.ok (), d)
      else match d.makeDirectory path with
        | .ok d => (.ok (), d)
        | .error (.os .noEntry) =>
          match parent? path with
          | none => (.error (.other "failed to create whole tree"), d)
          | some p =>
            match go fuel d p with
            | (.error e, d) => (.error e, d)
            | (.ok (), d) => make d path
        | .error _ => make d path

def makeDirectories (d : Disk) (path : String) : Except IoError Disk :=
  match d.makeTree path with
  | (.ok (), d) => .ok d
  | (.error e, _) => .error e

def currentDirectory (d : Disk) : String := pathOf d.workingDirectory

end Disk

end RemoteTags.Local
