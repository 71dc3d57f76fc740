import RemoteTags.Text.Cut

/-! Virtual documents: `ctagsshvf:<token>$<remote path>`. The token tells two documents of one
remote file apart; everything else goes by the remote path. -/

namespace RemoteTags.Path
open Text

def scheme : String := "ctagsshvf"

structure Virtual where
  token : String
  remotePath : String
deriving DecidableEq, Repr

/-- Why a text is no virtual path. Each cause carries the text it is about. -/
inductive VirtualError where
  | scheme (found : String)
  | missingSeparator (raw : String)
  | emptyToken (raw : String)
  | emptyPath (raw : String)
deriving DecidableEq, Repr

def VirtualError.message : VirtualError → String
  | .scheme found => "unexpected scheme `" ++ found ++ "` (expected `" ++ Path.scheme ++ "`)"
  | .missingSeparator raw => "virtual path `" ++ raw ++ "` has no `$` separator"
  | .emptyToken raw => "virtual path `" ++ raw ++ "` has an empty token"
  | .emptyPath raw => "virtual path `" ++ raw ++ "` has an empty remote path"

namespace Virtual

def uri (v : Virtual) : String := scheme ++ ":" ++ v.token ++ "$" ++ v.remotePath

/-- The text behind the scheme. What stands before the first colon is a scheme only if it holds
no `$` and no slash. -/
def body (raw : String) : Except VirtualError (List Char) :=
  match cut ':' raw.toList with
  | some (before, rest) =>
    if before.contains '$' || before.contains '/' then .ok raw.toList
    else if before = scheme.toList then .ok rest
    else .error (.scheme (String.ofList before))
  | none => .ok raw.toList

def parse (raw : String) : Except VirtualError Virtual := do
  match cut '$' (← body raw) with
  | none => .error (.missingSeparator raw)
  | some (token, path) =>
    if token = [] then .error (.emptyToken raw)
    else if path = [] then .error (.emptyPath raw)
    else .ok ⟨String.ofList token, String.ofList path⟩

def isVirtual (uri : String) : Bool :=
  match afterStart scheme.toList uri.toList with
  | some (':' :: _) => true
  | _ => false

end Virtual

end RemoteTags.Path
