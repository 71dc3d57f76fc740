/-! What can go wrong on the way to the remote host: failures of a single call, of opening a
connection, and of an operation of the session. -/

namespace RemoteTags

inductive TransportError where
  | notFound (path : String)
  | unsupported (reason : String)
  -- Any other refusal by the server.
  | refused (reason : String)
  | localFailure (reason : String)
  | timedOut (subject : String)
  | io (reason : String)
deriving DecidableEq, Repr

namespace TransportError

def message : TransportError → String
  | .notFound path => "no such file: " ++ path
  | .unsupported reason => "operation not supported by server: " ++ reason
  | .refused reason => reason
  | .localFailure reason => reason
  | .timedOut subject => "timed out: " ++ subject
  | .io reason => reason

/-- The connection cannot be used any more. -/
def isLinkFailure : TransportError → Bool
  | .timedOut _ | .io _ => true
  | _ => false

end TransportError

inductive ConnectError where
  | transport (host reason : String)
  | auth (user reason : String)
  | sftp (reason : String)
  | homeDirectory (reason : String)
  | timeout (seconds : Nat)
  | superseded
  | task (reason : String)
deriving DecidableEq, Repr

def ConnectError.message : ConnectError → String
  | .transport host reason => "SSH connection to " ++ host ++ " failed: " ++ reason
  | .auth user reason => "SSH authentication as " ++ user ++ " failed: " ++ reason
  | .sftp reason => "SFTP channel could not be opened: " ++ reason
  | .homeDirectory reason => "failed to resolve remote home directory: " ++ reason
  | .timeout seconds => "Connection timed out after " ++ toString seconds ++ " seconds"
  | .superseded => "connection attempt superseded by a newer one"
  | .task reason => "connection task failed: " ++ reason

inductive SessionError where
  | unavailable (reason : String)
  | notFound (path : String)
  | refused (reason : String)
  | exec (command reason : String)
  | transfer (remote reason : String)
  | timeout (operation : String) (seconds : Nat)
deriving DecidableEq, Repr

namespace SessionError

def message : SessionError → String
  | .unavailable reason => "remote host unavailable: " ++ reason
  | .notFound path => "remote file not found: " ++ path
  | .refused reason => "remote host refused: " ++ reason
  | .exec command reason => "remote command `" ++ command ++ "` failed: " ++ reason
  | .transfer remote reason => "transfer of " ++ remote ++ " failed: " ++ reason
  | .timeout operation seconds =>
    operation ++ " timed out after " ++ toString seconds ++ " seconds"

def ofTransport (e : TransportError) : SessionError :=
  match e with
  | .notFound path => .notFound path
  | .refused reason => .refused reason
  | .unsupported _ => .refused e.message
  | _ => .unavailable e.message

def notConnected : SessionError := .unavailable "not connected to remote host"

end SessionError

end RemoteTags
