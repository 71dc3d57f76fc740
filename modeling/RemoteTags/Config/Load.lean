import RemoteTags.Config.Basic
import RemoteTags.Text.Decimal
import RemoteTags.Text.Utf8
import RemoteTags.Toml.Parser

/-! Settings from a TOML document and from the environment, which comes second and so wins. -/

namespace RemoteTags.Config
open Text

/-- Reads the value of a key, if it is given; a value of the wrong kind is an error. -/
def readField {α : Type} (es : Toml.Entries) (key : String) (given : α)
    (convert : Toml.Value → Option α) : Option α :=
  match es.get? key with
  | none => some given
  | some v => convert v

def stringValue : Toml.Value → Option String
  | .scalar (.string s) => some s
  | _ => none

def numberValue (max : Nat) : Toml.Value → Option Nat
  | .scalar (.integer n) => if 0 ≤ n && n ≤ max then some n.toNat else none
  | _ => none

def maxPort : Nat := 0xFFFF

def maxSeconds : Nat := 0xFFFFFFFFFFFFFFFF

def ofEntries (es : Toml.Entries) : Option Config := do
  let c : Config := {}
  return {
    host := ← readField es "host" c.host stringValue
    port := ← readField es "port" c.port (numberValue maxPort)
    username := ← readField es "username" c.username stringValue
    credential := ← readField es "credential" c.credential stringValue
    identityFile := ← readField es "identity_file" none fun v => (stringValue v).map some
    tagsFile := ← readField es "tags_file" c.tagsFile stringValue
    sourceRoot := ← readField es "source_root" none fun v => (stringValue v).map some
    tagsDirectory := ← readField es "ctags_files_remote_path" "" stringValue
    tagsExtensions := ← readField es "ctags_extensions" "" stringValue
    shownExtensions := ← readField es "show_extensions" "" stringValue
    connectSeconds := ←
      readField es "connect_timeout_secs" c.connectSeconds (numberValue maxSeconds)
    execSeconds := ← readField es "exec_timeout_secs" c.execSeconds (numberValue maxSeconds)
    transferSeconds := ←
      readField es "transfer_timeout_secs" c.transferSeconds (numberValue maxSeconds) }

def ofToml (text : String) : Option Config := (Toml.parse text).bind ofEntries

abbrev Environment := List (String × String)

def portOfText (text : String) : Option Nat := Decimal.unsigned maxPort (trim text.toList)

/-- Applies the environment. A port that is no number stops it; the settings before it stay. -/
def override (env : Environment) (c : Config) : Config × Option ConfigError :=
  let c := match env.lookup "CTAGSSH_HOST" with
    | some host => { c with host := host }
    | none => c
  let port := env.lookup "CTAGSSH_PORT"
  match port.bind fun text => if (portOfText text).isSome then none else some text with
  | some text => (c, some (.invalidValue "port" text))
  | none =>
    let c := match port.bind portOfText with
      | some n => { c with port := n }
      | none => c
    let c := match env.lookup "CTAGSSH_USERNAME" with
      | some user => { c with username := user }
      | none => c
    let c := match env.lookup "CTAGSSH_PASSWORD" with
      | some password => { c with credential := password }
      | none => c
    let c := match env.lookup "CTAGSSH_IDENTITY_FILE" with
      | some path => { c with identityFile := some path }
      | none => c
    let c := match env.lookup "CTAGSSH_TAGS_FILE" with
      | some path => { c with tagsFile := path }
      | none => c
    (c, none)

def ofContent (path : String) (content : Except Local.IoError Bytes) :
    Except ConfigError Config := do
  match content with
  | .error e => .error (.io path e)
  | .ok bytes =>
    match Utf8.decode? bytes with
    | none => .error (.io path .invalidUtf8)
    | some text =>
      match ofToml text with
      | some c => .ok c
      | none => .error (.parse path)

end RemoteTags.Config
