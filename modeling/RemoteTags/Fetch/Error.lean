import RemoteTags.Local.Call
import RemoteTags.Remote.Error

/-! What can go wrong when a remote file is fetched: the step that failed, its cause, and the
scratch files that could not be removed. -/

namespace RemoteTags

inductive FetchStep where
  | compress
  | transfer
  | decompress
  | install
deriving DecidableEq, Repr

def FetchStep.text : FetchStep → String
  | .compress => "compress"
  | .transfer => "transfer"
  | .decompress => "decompress"
  | .install => "install"

inductive FetchCause where
  | session (e : SessionError)
  | io (e : Local.IoError)
deriving DecidableEq, Repr

def FetchCause.message : FetchCause → String
  | .session e => e.message
  | .io e => e.message

inductive CleanupError where
  | remote (path : String) (cause : SessionError)
  | onDisk (path : String) (cause : Local.IoError)
deriving DecidableEq, Repr

def CleanupError.message : CleanupError → String
  | .remote path cause => "failed to remove remote temp file " ++ path ++ ": " ++ cause.message
  | .onDisk path cause => "failed to remove local temp file " ++ path ++ ": " ++ cause.message

inductive FetchError where
  | notConnected
  | invalidRemotePath (path : String)
  | destination (path : String) (cause : Local.IoError)
  | step (step : FetchStep) (cause : FetchCause) (cleanup : List CleanupError)
deriving DecidableEq, Repr

namespace FetchError

def cleanup : FetchError → List CleanupError
  | .step _ _ cleanup => cleanup
  | _ => []

def describeCleanup (cleanup : List CleanupError) : String :=
  if cleanup.isEmpty then ""
  else " (cleanup also failed: " ++ String.intercalate "; " (cleanup.map (·.message)) ++ ")"

def message : FetchError → String
  | .notConnected => "not connected to remote host"
  | .invalidRemotePath path => "invalid remote file path `" ++ path ++ "`"
  | .destination path cause => "failed to prepare destination " ++ path ++ ": " ++ cause.message
  | .step s cause cleanup =>
    s.text ++ " step failed: " ++ cause.message ++ describeCleanup cleanup

def causes : FetchError → List String
  | .destination _ cause => [cause.message]
  | .step _ cause _ => [cause.message]
  | _ => []

end FetchError

end RemoteTags
