import RemoteTags.Local.Error
import RemoteTags.Path.Extension
import RemoteTags.Text.Quoted
import RemoteTags.Time.Duration

/-! Settings: what the configuration holds, what a connection needs of it, and what can be wrong
with it. -/

namespace RemoteTags
open Text

structure Timeouts where
  connect : Duration := .ofSeconds 10
  exec : Duration := .ofSeconds 60
  transfer : Duration := .ofSeconds 300
deriving DecidableEq, Repr

def defaultPort : Nat := 22

structure Connection where
  host : String
  port : Nat := defaultPort
  user : String
  credential : String := ""
  identityFile : Option String := none
  timeouts : Timeouts := {}
deriving DecidableEq, Repr

/-- A description for logs, without the credential. -/
def Connection.describe (c : Connection) : String :=
  let identity := match c.identityFile with
    | none => "None"
    | some path => "Some(" ++ Quoted.path path ++ ")"
  let times := "Timeouts \x7b connect: " ++ c.timeouts.connect.describe ++ ", exec: " ++
    c.timeouts.exec.describe ++ ", transfer: " ++ c.timeouts.transfer.describe ++ " \x7d"
  "ConnectionConfig \x7b host: " ++ Quoted.text c.host ++ ", port: " ++ toString c.port ++
    ", username: " ++ Quoted.text c.user ++ ", credential: \"<redacted>\", identity_file: " ++
    identity ++ ", timeouts: " ++ times ++ " \x7d"

structure Config where
  host : String := ""
  port : Nat := defaultPort
  username : String := ""
  credential : String := ""
  identityFile : Option String := none
  tagsFile : String := ".tags"
  -- The remote directory that relative tag paths lie in.
  sourceRoot : Option String := none
  tagsDirectory : String := ""
  tagsExtensions : String := ""
  shownExtensions : String := ""
  connectSeconds : Nat := ({} : Timeouts).connect.seconds
  execSeconds : Nat := ({} : Timeouts).exec.seconds
  transferSeconds : Nat := ({} : Timeouts).transfer.seconds
deriving DecidableEq, Repr

inductive ConfigError where
  | io (path : String) (cause : Local.IoError)
  | parse (path : String)
  | missingField (field : String)
  | invalidValue (field value : String)
deriving DecidableEq, Repr

def tomlFailure : String := "TOML parse error"

namespace ConfigError

def message : ConfigError → String
  | .io path cause => "failed to read config " ++ path ++ ": " ++ cause.message
  | .parse path => "failed to parse config " ++ path ++ ": " ++ tomlFailure
  | .missingField field => "config field `" ++ field ++ "` is required"
  | .invalidValue field value => "invalid value for `" ++ field ++ "`: " ++ value

def causes : ConfigError → List String
  | .io _ cause => [cause.message]
  | .parse _ => [tomlFailure]
  | _ => []

end ConfigError

namespace Config

def tagsExtensionList (c : Config) : List String := Path.extensionList c.tagsExtensions

def shownExtensionList (c : Config) : List String := Path.extensionList c.shownExtensions

/-- The connection that the settings describe. Host and user are given without blanks around
them and must not be empty; the port must not be zero. -/
def connection (c : Config) : Except ConfigError Connection :=
  if isBlankText c.host then .error (.missingField "host")
  else if isBlankText c.username then .error (.missingField "username")
  else if c.port = 0 then .error (.invalidValue "port" "0")
  else .ok {
    host := trimmed c.host
    port := c.port
    user := trimmed c.username
    credential := c.credential
    identityFile := c.identityFile
    timeouts := {
      connect := .ofSeconds c.connectSeconds
      exec := .ofSeconds c.execSeconds
      transfer := .ofSeconds c.transferSeconds } }

end Config

end RemoteTags
