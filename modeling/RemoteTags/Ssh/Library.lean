import RemoteTags.Effect.Program
import RemoteTags.Local.Call
import RemoteTags.Remote.Error
import RemoteTags.Time.Duration

/-! The calls of a library that speaks SSH and SFTP, beside those on the network and on the local
disk: all that a transport is made of. -/

namespace RemoteTags.Ssh

inductive ErrorCode where
  | session (n : Int)
  | sftp (n : Int)
deriving DecidableEq, Repr

structure LibraryError where
  code : ErrorCode
  text : String
deriving DecidableEq, Repr

namespace LibraryError

def display (e : LibraryError) : String :=
  (match e.code with
    | .session n => "[Session(" ++ toString n ++ ")] "
    | .sftp n => "[SFTP(" ++ toString n ++ ")] ") ++ e.text

def kind (e : LibraryError) : Local.IoKind :=
  match e.code with
  | .sftp 2 | .sftp 10 => .notFound
  | .sftp 11 => .alreadyExists
  | .session (-37) => .wouldBlock
  | .session (-9) => .timedOut
  | _ => .other

def noSuchFile : LibraryError := ⟨.sftp 2, "no such file"⟩

def nulInText : LibraryError :=
  ⟨.session (-34), "provided data contained a nul byte and could not be used as as string"⟩

end LibraryError

/-- What the server tells about a file. It need not send everything. -/
structure Attributes where
  mtime : Option Nat := none
  size : Option Nat := none
  permissions : Option Nat := none
deriving DecidableEq, Repr

/-- The bits of the permissions that tell the type of a file, and those of a regular file. -/
def typeMask : Nat := 0o170000

def regularType : Nat := 0o100000

def Attributes.isRegular (a : Attributes) : Bool :=
  (a.permissions.getD 0) &&& typeMask = regularType

structure Stream where
  delivered : Bytes := []
  failure : Option LibraryError := none
deriving DecidableEq, Repr

inductive LibraryCall where
  | newSession
  | setTimeout (milliseconds : Nat)
  | setStream
  | handshake
  | authPassword (user password : String)
  | authKey (user key : String) (passphrase : Option String)
  | authenticated
  | openSftp
  | shutSftp
  | realPath (path : String)
  | stat (path : String)
  | openFile (path : String)
  -- Reads the file that was opened last to its end.
  | readFile
  | unlink (path : String)
  | readDir (path : String)
  | openChannel
  | exec (command : String)
  | readStdout
  | readStderr
  | waitClose
  | exitStatus
  | disconnect (description : String)
deriving DecidableEq, Repr

abbrev Attempt (α : Type) := Except LibraryError α

@[reducible] def LibraryCall.Reply : LibraryCall → Type
  | .setTimeout _ | .setStream | .shutSftp => Unit
  | .authenticated => Bool
  | .realPath _ => Attempt String
  | .stat _ => Attempt Attributes
  | .readFile | .readStdout | .readStderr => Stream
  | .readDir _ => Attempt (List (String × Attributes))
  | .exitStatus => Attempt Int
  | _ => Attempt Unit

inductive Call where
  -- Connects to a port of a host within a time; an error is in words.
  | dial (host : String) (port : Nat) (timeout : Duration)
  | library (c : LibraryCall)
  | disk (c : Local.Call)
deriving DecidableEq, Repr

@[reducible] def Call.Reply : Call → Type
  | .dial _ _ _ => Except String Unit
  | .library c => c.Reply
  | .disk c => c.Reply

abbrev Wire := Program Call Call.Reply

def library (c : LibraryCall) : Wire c.Reply := .query (Call.library c)

def disk (c : Local.Call) : Wire c.Reply := .query (Call.disk c)

def dial (host : String) (port : Nat) (timeout : Duration) : Wire (Except String Unit) :=
  .query (Call.dial host port timeout)

end RemoteTags.Ssh
