import RemoteTags.Session.Status
import RemoteTags.Text.Blank

/-! Opening a link: dialling, then asking for the home directory. A link whose home cannot be
told is closed again. -/

namespace RemoteTags.Session
open Text

/-- Closes a link that cannot be used, whatever comes of it. -/
def giveUp (id : Remote.LinkId) (reason : String) : Remote.Task (Except ConnectError Link) := do
  let _ ← Remote.close id
  return .error (.homeDirectory reason)

def openLink (c : Connection) (g : Nat) : Remote.Task (Except ConnectError Link) := do
  match ← Remote.dial c with
  | .error e => return .error e
  | .ok id =>
    match ← Remote.home id with
    | .ok home =>
      if isBlankText home then giveUp id "empty home directory"
      else return .ok ⟨id, trimmed home, false, c.timeouts, g⟩
    | .error e => giveUp id e.message

end RemoteTags.Session
