import RemoteTags.CommandLine.Arguments
import RemoteTags.CommandLine.EnvFile
import RemoteTags.CommandLine.Failure
import RemoteTags.CommandLine.Table
import RemoteTags.Navigator.Operation

/-! The commands of the program. Those that need the remote host connect first, and disconnect
before they print anything. -/

namespace RemoteTags.CommandLine

structure Outcome where
  stdout : String := ""
  stderr : String := ""
  failure : Option Failure := none
deriving DecidableEq, Repr

namespace Outcome

def printed (text : String) : Outcome := { stdout := text }

def failed (f : Failure) : Outcome := { failure := some f }

def printedAndFailed (text : String) (f : Failure) : Outcome := { stdout := text, failure := some f }

end Outcome

/-- The directory of configuration files: the one that the environment names by its absolute
path, or else one below the home directory. -/
def configDirectory? (env : Config.Environment) : Option String :=
  match env.lookup "HOME" with
  | none | some "" => none
  | some home =>
    match (env.lookup "XDG_CONFIG_HOME").filter fun d => Local.isAbsolute d with
    | some d => some d
    | none => some (Local.join home ".config")

def defaultConfigPath? (env : Config.Environment) : Option String :=
  (configDirectory? env).map fun d => Local.join (Local.join d "ctagssh") "config.toml"

/-- The configuration file to read. The one at the default place may be missing. -/
def configPath? (env : Config.Environment) (given : Option String) : Act (Option String) := do
  match given with
  | some path => return some path
  | none =>
    match defaultConfigPath? env with
    | none => return none
    | some path => if ← Act.disk (.pathExists path) then return some path else return none

def loadConfig (env : Config.Environment) (given : Option String) :
    Act (Except ConfigError Config) := do
  match ← configPath? env given with
  | none => return overridden {}
  | some path =>
    match Config.ofContent path (← Act.disk (.read path)) with
    | .error e => return .error e
    | .ok c => return overridden c
where
  overridden (c : Config) : Except ConfigError Config :=
    match c.override env with
    | (c, none) => .ok c
    | (_, some e) => .error e

def loadTags (path : String) : Act (Except Failure TagIndex) := do
  match ← TagIndex.load path with
  | .ok index => return .ok index
  | .error e => return .error ((Failure.ofTagIndex e).within "loading tags")

def connected (c : Config) (index : TagIndex) : Act (Except Failure Navigator) := do
  match c.connection with
  | .error e => return .error (.ofConfig e)
  | .ok connection =>
    match ← Session.connect connection with
    | .ok () => return .ok { index := index, settings := .ofConfig c }
    | .error e => return .error ((Failure.ofConnect e).within ("connecting to " ++ c.host))

def noTag (symbol : String) : Failure := ⟨"no tag named `" ++ symbol ++ "`", []⟩

def lookup (c : Config) (tagsPath symbol : String) (json colours : Bool) : Act Outcome := do
  match ← loadTags tagsPath with
  | .error f => return .failed f
  | .ok index =>
    let n : Navigator := { index := index, settings := .ofConfig c }
    match (n.candidates symbol).toList with
    | [] => return .failed (noTag symbol)
    | tags => return .printed (if json then tagsJson tags else tagTable colours tags)

/-- The tag to go to: the only candidate, or else the one that was picked, counted from one. -/
def choose (symbol : String) (pick : Option Nat) (colours : Bool) :
    Candidates → Except Outcome Tag
  | .missing => .error (.failed (noTag symbol))
  | .single tag => .ok tag
  | .ambiguous tags =>
    match pick with
    | none =>
      .error (.printedAndFailed (tagTable colours tags)
        ⟨"`" ++ symbol ++ "` has " ++ toString tags.length ++
          " definitions; choose one with --pick N", []⟩)
    | some n =>
      match if n = 0 then none else tags[n - 1]? with
      | some tag => .ok tag
      | none =>
        .error (.failed ⟨"--pick " ++ toString n ++ " is out of range (1-" ++
          toString tags.length ++ ")", []⟩)

def goTo (c : Config) (tagsPath symbol : String) (pick : Option Nat) (colours : Bool) :
    Act Outcome := do
  match ← loadTags tagsPath with
  | .error f => return .failed f
  | .ok index =>
    match ← connected c index with
    | .error f => return .failed f
    | .ok n =>
      match choose symbol pick colours (n.candidates symbol) with
      | .error outcome => return outcome
      | .ok tag =>
        let (landed, _) ← n.goTo tag none
        Session.disconnect
        match landed with
        | .error e => return .failed (.ofNavigate e)
        | .ok l =>
          return .printed (Style.green.apply colours id l.uri ++ ":" ++ toString (l.line + 1) ++
            "\n" ++ l.text ++ "\n")

def cat (c : Config) (path : String) : Act Outcome := do
  match ← connected c {} with
  | .error f => return .failed f
  | .ok _ =>
    let loaded ← Cache.preload path
    let content ← Act.cache (.content path)
    Session.disconnect
    match loaded with
    | .error e => return .failed ((Failure.ofSession e).within ("reading " ++ path))
    | .ok () => return .printed (content.getD "")

def listTags (c : Config) (colours : Bool) : Act Outcome := do
  match ← connected c {} with
  | .error f => return .failed f
  | .ok n =>
    let listing ← n.listTagFiles
    Session.disconnect
    match listing with
    | .error e => return .failed (.ofNavigate e)
    | .ok entries => return .printed (String.join (entries.map (fileRow colours)))

def warning (colours : Bool) (e : CleanupError) : String :=
  Style.yellow.apply colours id "warning:" ++ " " ++ e.message ++ "\n"

def installedText (colours : Bool) (r : Fetch.Report) (tags : Nat) : String :=
  Style.green.apply colours id "installed" ++ " " ++ r.localPath ++ " (" ++
    Size.format r.compressedBytes ++ " transferred, " ++ toString tags ++ " tags, " ++
    toString r.milliseconds ++ " ms)\n"

def fetchTags (c : Config) (tagsPath fileName : String) (colours : Bool) : Act Outcome := do
  match ← connected c {} with
  | .error f => return .failed f
  | .ok n =>
    let (fetched, n) ← n.refreshTags fileName tagsPath
    Session.disconnect
    match fetched with
    | .error e => return .failed ((Failure.ofNavigate e).within ("fetching " ++ fileName))
    | .ok report =>
      return {
        stdout := installedText colours report n.index.size
        stderr := String.join (report.cleanup.map (warning colours)) }

def execute (env : Config.Environment) (a : Arguments) : Act Outcome := do
  match ← loadConfig env a.config with
  | .error e => return .failed ((Failure.ofConfig e).within "loading configuration")
  | .ok c =>
    let colours := wantsColours env && !a.noColor
    let tagsPath := a.tagsFile.getD c.tagsFile
    match a.command with
    | .lookup symbol json => lookup c tagsPath symbol json colours
    | .goTo symbol pick => goTo c tagsPath symbol pick colours
    | .cat path => cat c path
    | .listTags => listTags c colours
    | .fetchTags fileName => fetchTags c tagsPath fileName colours

/-- How the program ends. Standard error is told without what the environment can add to it: the
lines of the log, each with the time of day, and a backtrace behind a failure. -/
structure Exit where
  status : Nat
  stdout : String
  stderr : String
deriving DecidableEq, Repr

def versionText : String := "ctagssh 0.1.0\n"

namespace Exit

/-- A wrong usage ends with status 2. Asking for the help or the version is not wrong. -/
def ofUsage : UsageError → Exit
  | .showVersion => ⟨0, versionText, ""⟩
  | .showHelp => ⟨0, "", ""⟩
  | _ => ⟨2, "", ""⟩

def ofOutcome (o : Outcome) : Exit :=
  match o.failure with
  | none => ⟨0, o.stdout, o.stderr⟩
  | some f => ⟨1, o.stdout, o.stderr ++ f.report⟩

end Exit

/-- The file that adds to the environment. It is looked for in the working directory, then in the
directories above it. -/
def envFile : String := ".env"

/-- Runs the program. A link that is still open at its end is given up. -/
def run (env : Config.Environment) (args : List String) : Act Exit := do
  let env := match ← Act.disk (.readNearest envFile) with
    | .ok content => EnvFile.load content env
    | .error _ => env
  match parse env args with
  | .error e => return .ofUsage e
  | .ok a =>
    let outcome ← execute env a
    Session.giveUpLink
    return .ofOutcome outcome

end RemoteTags.CommandLine
