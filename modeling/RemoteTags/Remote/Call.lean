import RemoteTags.Config.Basic
import RemoteTags.Effect.Program
import RemoteTags.Remote.Error
import RemoteTags.Text.Utf8

/-! The calls on a remote host. A successful `dial` names a link; every other call is made on a
link that has been named before. -/

namespace RemoteTags.Remote

structure Entry where
  name : String
  isFile : Bool
  size : Nat
  mtime : Int
deriving DecidableEq, Repr

structure Output where
  exitStatus : Int := 0
  stdout : String := ""
  stderr : String := ""
deriving DecidableEq, Repr

abbrev LinkId := Nat

inductive Call where
  | dial (c : Connection)
  | home (link : LinkId)
  | stat (link : LinkId) (path : String)
  | read (link : LinkId) (path : String)
  | readDir (link : LinkId) (path : String)
  | exec (link : LinkId) (command : String) (timeout : Duration)
  | fastGet (link : LinkId) (remote localPath : String) (timeout : Duration)
  | remove (link : LinkId) (path : String)
  | close (link : LinkId)
  -- The link is given up without being closed.
  | abandon (link : LinkId)
deriving DecidableEq, Repr

abbrev Attempt (α : Type) := Except TransportError α

@[reducible] def Call.Reply : Call → Type
  | .dial _ => Except ConnectError LinkId
  | .home _ => Attempt String
  | .stat _ _ => Attempt Int
  | .read _ _ => Attempt Bytes
  | .readDir _ _ => Attempt (List Entry)
  | .exec _ _ _ => Attempt Output
  | .fastGet _ _ _ _ => Attempt Nat
  | .remove _ _ => Attempt Unit
  | .close _ => Attempt Unit
  | .abandon _ => Unit

abbrev Task := Program Call Call.Reply

def dial (c : Connection) : Task (Except ConnectError LinkId) := .query (Call.dial c)

def home (l : LinkId) : Task (Attempt String) := .query (Call.home l)

def stat (l : LinkId) (path : String) : Task (Attempt Int) := .query (Call.stat l path)

def read (l : LinkId) (path : String) : Task (Attempt Bytes) := .query (Call.read l path)

def readDir (l : LinkId) (path : String) : Task (Attempt (List Entry)) :=
  .query (Call.readDir l path)

def exec (l : LinkId) (command : String) (timeout : Duration) : Task (Attempt Output) :=
  .query (Call.exec l command timeout)

def fastGet (l : LinkId) (remote localPath : String) (timeout : Duration) : Task (Attempt Nat) :=
  .query (Call.fastGet l remote localPath timeout)

def remove (l : LinkId) (path : String) : Task (Attempt Unit) := .query (Call.remove l path)

def close (l : LinkId) : Task (Attempt Unit) := .query (Call.close l)

end RemoteTags.Remote
