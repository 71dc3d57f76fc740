import RemoteTags.Path.Virtual
import RemoteTags.Session.Operation

/-! Bringing remote files into the cache. A hit needs a stored modify time that is not older than
the one just observed. A time that cannot be told counts as 0, so that any entry is fresh; but a
session that is not available fails the preload. -/

namespace RemoteTags.Cache

def seconds (milliseconds : Nat) : Int := (milliseconds / 1000 : Nat)

def preload (path : String) : Act (Except SessionError Unit) := do
  if !(← Session.isConnected) then return .error .notConnected
  match ← Session.stat path with
  | .error (.unavailable reason) => return .error (.unavailable reason)
  | observed =>
    let mtime := match observed with
      | .ok t => t
      | .error _ => 0
    if ← Act.cache (.validate path mtime (seconds (← Act.clock))) then return .ok ()
    match ← Session.read path with
    | .error e => return .error e
    | .ok bytes =>
      let now := seconds (← Act.clock)
      Act.cache (.insert ⟨path, mtime, now, now, Utf8.lossyString bytes⟩)
      return .ok ()

def preloadVirtual (v : Path.Virtual) : Act (Except SessionError Unit) := preload v.remotePath

end RemoteTags.Cache
