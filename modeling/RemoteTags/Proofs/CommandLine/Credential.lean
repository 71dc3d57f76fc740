import RemoteTags.Main
import RemoteTags.Proofs.CommandLine.Farewell
import RemoteTags.Proofs.Session.Lockstep
import RemoteTags.Proofs.Ssh.Script

/-! Two runs of the program that differ in the password alone. They end alike and make the same
calls, but for the password in the calls that log in, as long as the file of the environment does
not copy the password into another variable. What they write to standard error is compared with the
log off: a log line begins with the time of day, so that no two runs with a log are alike. -/

namespace RemoteTags

namespace EnvFile

theorem lookup_define {env : Config.Environment} {name value : String} (n v : String)
    (given : env.lookup name = some value) : (define env n v).lookup name = some value := by
  unfold define
  split
  · exact given
  · rw [List.lookup_append, given]
    rfl

theorem lookup_apply {name value : String} (fuel : Nat) {env : Config.Environment}
    (lines : List (Option (List Char))) (given : env.lookup name = some value) :
    (apply fuel env lines).lookup name = some value := by
  induction fuel generalizing env lines with
  | zero => exact given
  | succ fuel ih =>
    unfold apply
    split
    · exact given
    · exact given
    · split
      · exact given
      · exact ih _ given
      · exact ih _ (lookup_define _ _ given)

theorem lookup_load {env : Config.Environment} {name value : String} (content : Bytes)
    (given : env.lookup name = some value) : (load content env).lookup name = some value :=
  lookup_apply _ _ given

end EnvFile

open Program (Translates translates_done)

namespace CommandLine

def passwordVariable : String := "CTAGSSH_PASSWORD"

theorem lookup_loaded {env : Config.Environment} {name value : String} (d : Local.Disk)
    (given : env.lookup name = some value) : (loaded env d).lookup name = some value := by
  unfold loaded
  split
  · exact EnvFile.lookup_load _ given
  · exact given

/-- The log is off and failures carry no backtrace: what `Exit` tells is all of standard error. -/
structure Silent (env : Config.Environment) : Prop where
  log : env.lookup "RUST_LOG" = some "off"
  backtrace : (env.lookup "RUST_LIB_BACKTRACE").or (env.lookup "RUST_BACKTRACE") ∈ [none, some "0"]

end CommandLine

namespace Rekeying

open CommandLine

variable (κ : Rekeying) {env env' : Config.Environment}

/-- Two environments that differ in the password alone, as far as the program asks. -/
structure Environments (env env' : Config.Environment) : Prop where
  old : env.lookup passwordVariable = some κ.old
  new : env'.lookup passwordVariable = some κ.new
  others : ∀ name ∈ Main.variableNames, name ≠ passwordVariable →
    env'.lookup name = env.lookup name

theorem secret_old : κ.secret κ.old = κ.new := if_pos rfl

def config (c : Config) : Config := { c with credential := κ.secret c.credential }

theorem connection_config (c : Config) :
    (κ.config c).connection = c.connection.map κ.connection := by
  unfold Config.connection
  change (if Text.isBlankText c.host then _ else if Text.isBlankText c.username then _
    else if c.port = 0 then _ else _ : Except ConfigError Connection) = _
  split
  · rfl
  · split
    · rfl
    · split <;> rfl

variable {κ}

theorem Environments.silent (same : κ.Environments env env') (silent : Silent env) :
    Silent env' := by
  have log := same.others "RUST_LOG" (by decide) (by decide)
  have library := same.others "RUST_LIB_BACKTRACE" (by decide) (by decide)
  have backtrace := same.others "RUST_BACKTRACE" (by decide) (by decide)
  refine ⟨log.trans silent.log, ?_⟩
  rw [library, backtrace]
  exact silent.backtrace

theorem Environments.overridden (same : κ.Environments env env') (c : Config) :
    loadConfig.overridden env' c = (loadConfig.overridden env c).map κ.config := by
  have host := same.others "CTAGSSH_HOST" (by decide) (by decide)
  have port := same.others "CTAGSSH_PORT" (by decide) (by decide)
  have user := same.others "CTAGSSH_USERNAME" (by decide) (by decide)
  have key := same.others "CTAGSSH_IDENTITY_FILE" (by decide) (by decide)
  have tags := same.others "CTAGSSH_TAGS_FILE" (by decide) (by decide)
  have old : env.lookup "CTAGSSH_PASSWORD" = some κ.old := same.old
  have new : env'.lookup "CTAGSSH_PASSWORD" = some κ.new := same.new
  unfold loadConfig.overridden Config.override
  rw [host, port, user, key, tags, old, new, ← κ.secret_old]
  generalize env.lookup "CTAGSSH_HOST" = host
  generalize env.lookup "CTAGSSH_USERNAME" = user
  generalize env.lookup "CTAGSSH_IDENTITY_FILE" = key
  generalize env.lookup "CTAGSSH_TAGS_FILE" = tags
  cases env.lookup "CTAGSSH_PORT" with
  | none => cases host <;> cases user <;> cases key <;> cases tags <;> rfl
  | some text =>
    dsimp only [Option.bind]
    cases Config.portOfText text with
    | none => rfl
    | some number => cases host <;> cases user <;> cases key <;> cases tags <;> rfl

theorem Environments.wantsColours (same : κ.Environments env env') :
    wantsColours env' = wantsColours env := by
  unfold CommandLine.wantsColours
  rw [same.others "CLICOLOR_FORCE" (by decide) (by decide)]

theorem Environments.configPath? (same : κ.Environments env env') (given : Option String) :
    configPath? env' given = configPath? env given := by
  unfold CommandLine.configPath? defaultConfigPath? configDirectory?
  rw [same.others "HOME" (by decide) (by decide),
    same.others "XDG_CONFIG_HOME" (by decide) (by decide)]

theorem Environments.parse (same : κ.Environments env env') (args : List String) :
    parse env' args = parse env args := by
  have config := same.others configVariable (by decide) (by decide)
  have concludes : conclude env' = conclude env := by
    funext s
    unfold conclude
    rw [config]
  unfold CommandLine.parse withoutCommand assemble
  rw [concludes, config]

section Programs

variable {α : Type} (κ)

theorem translates_loadConfig (same : κ.Environments env env') (given : Option String) :
    Translates κ.onAction (fun r r' => r' = r.map κ.config) (loadConfig env given)
      (loadConfig env' given) := by
  unfold loadConfig
  rw [same.configPath?]
  refine (κ.translates_works (works_configPath? env given)).bind fun path _ equal => ?_
  subst equal
  cases path with
  | none => exact translates_done (same.overridden {})
  | some path =>
    have reads : Works (Act.disk (.read path)) := .query trivial
    refine (κ.translates_works reads).bind fun content _ equal => ?_
    subst equal
    cases Config.ofContent path content with
    | error e => exact translates_done rfl
    | ok c => exact translates_done (same.overridden c)

theorem translates_connected (c : Config) (index : TagIndex) :
    Translates κ.onAction Eq (connected c index) (connected (κ.config c) index) := by
  unfold connected
  rw [κ.connection_config]
  cases c.connection with
  | error e => exact translates_done rfl
  | ok connection =>
    refine (κ.translates_connectAs connection none).bind fun r _ equal => ?_
    subst equal
    cases r <;> exact translates_done rfl

theorem translates_parting (o : Outcome) :
    Translates κ.onAction Eq (Session.disconnect.bind fun _ => .done o)
      (Session.disconnect.bind fun _ => .done o) :=
  κ.translates_disconnect.bind fun _ _ _ => translates_done rfl

theorem translates_goTo (c : Config) (tagsPath symbol : String) (pick : Option Nat)
    (colours : Bool) :
    Translates κ.onAction Eq (goTo c tagsPath symbol pick colours)
      (goTo (κ.config c) tagsPath symbol pick colours) := by
  refine (κ.translates_works (works_loadTags tagsPath)).bind fun r _ equal => ?_
  subst equal
  cases r with
  | error f => exact translates_done rfl
  | ok index =>
    refine (κ.translates_connected c index).bind fun r _ equal => ?_
    subst equal
    cases r with
    | error f => exact translates_done rfl
    | ok n =>
      dsimp only
      split
      · exact translates_done rfl
      · rename_i tag _
        refine (κ.translates_works (Navigator.works_goTo n tag none)).bind fun went _ equal => ?_
        subst equal
        obtain ⟨landed, -⟩ := went
        cases landed <;> exact κ.translates_parting _

theorem translates_cat (c : Config) (path : String) :
    Translates κ.onAction Eq (cat c path) (cat (κ.config c) path) := by
  refine (κ.translates_connected c {}).bind fun r _ equal => ?_
  subst equal
  cases r with
  | error f => exact translates_done rfl
  | ok n =>
    refine (κ.translates_works (Cache.works_preload path)).bind fun loaded _ equal => ?_
    subst equal
    refine ⟨_, rfl, fun content => ?_⟩
    cases loaded <;> exact κ.translates_parting _

theorem translates_listTags (c : Config) (colours : Bool) :
    Translates κ.onAction Eq (listTags c colours) (listTags (κ.config c) colours) := by
  refine (κ.translates_connected c {}).bind fun r _ equal => ?_
  subst equal
  cases r with
  | error f => exact translates_done rfl
  | ok n =>
    refine (κ.translates_works (Navigator.works_listTagFiles n)).bind fun listing _ equal => ?_
    subst equal
    cases listing <;> exact κ.translates_parting _

theorem translates_fetchTags (c : Config) (tagsPath fileName : String) (colours : Bool) :
    Translates κ.onAction Eq (fetchTags c tagsPath fileName colours)
      (fetchTags (κ.config c) tagsPath fileName colours) := by
  refine (κ.translates_connected c {}).bind fun r _ equal => ?_
  subst equal
  cases r with
  | error f => exact translates_done rfl
  | ok n =>
    refine (κ.translates_works (Navigator.works_refreshTags n fileName tagsPath)).bind
      fun fetched _ equal => ?_
    subst equal
    obtain ⟨fetched, n⟩ := fetched
    cases fetched <;> exact κ.translates_parting _

theorem translates_execute (same : κ.Environments env env') (a : Arguments) :
    Translates κ.onAction Eq (execute env a) (execute env' a) := by
  refine (κ.translates_loadConfig same a.config).bind fun r _ equal => ?_
  subst equal
  cases r with
  | error e => exact translates_done rfl
  | ok c =>
    dsimp only [Except.map]
    rw [same.wantsColours]
    split
    · exact κ.translates_works (works_lookup c _ _ _ _)
    · exact κ.translates_goTo c _ _ _ _
    · exact κ.translates_cat c _
    · exact κ.translates_listTags c _
    · exact κ.translates_fetchTags c _ _ _

theorem translates_started (same : κ.Environments env env') (args : List String) :
    Translates κ.onAction Eq (started env args) (started env' args) := by
  unfold started
  rw [same.parse]
  split
  · exact translates_done rfl
  · refine (κ.translates_execute same _).bind fun outcome _ equal => ?_
    subst equal
    exact κ.translates_giveUpLink.bind fun _ _ _ => translates_done rfl

end Programs

section Process

variable (κ) {H : Type} {host : Host H} {sim : H → H → Prop} {args : List String}
  {d : Local.Disk} {p p' : Process H Exit}

theorem move_run (env : Config.Environment) (args : List String) (turn : Turn) (w : World H) :
    Task.move host turn ⟨run env args, none⟩ w =
      { task := { rest := started (loaded env w.disk) args }
        world := { w with tokens := w.tokens + 1 }
        heard := some ⟨.disk (.readNearest envFile), w.disk.readNearest envFile⟩ } := by
  obtain ⟨mover, late, time, tokens, refusal⟩ := turn
  cases refusal <;> rfl

structure Waiting (sim : H → H → Prop) (env env' : Config.Environment) (args : List String)
    (d : Local.Disk) (p p' : Process H Exit) : Prop where
  world : κ.Worlds sim p.world p'.world
  disk : p.world.disk = d
  main : p.main = ⟨run env args, none⟩ ∧ p'.main = ⟨run env' args, none⟩
  alone : p.followers = [] ∧ p.strays = [] ∧ p'.followers = [] ∧ p'.strays = []

theorem Waiting.step (same : κ.Environments (loaded env d) (loaded env' d))
    (waiting : κ.Waiting sim env env' args d p p') (turn : Turn) :
    κ.Waiting sim env env' args d (p.step host turn) (p'.step host turn) ∨
      κ.Lockstep sim (p.step host turn) (p'.step host turn) := by
  obtain ⟨followers, strays, followers', strays'⟩ := waiting.alone
  unfold Process.step
  cases turn.mover with
  | follower i =>
    rw [followers, followers']
    exact .inl waiting
  | stray i =>
    rw [strays, strays']
    exact .inl waiting
  | main =>
    right
    dsimp only
    rw [waiting.main.1, waiting.main.2, move_run, move_run]
    have worlds := waiting.world
    have disk := waiting.disk
    obtain ⟨w, main, fs, os, heard⟩ := p
    obtain ⟨w', main', fs', os', heard'⟩ := p'
    dsimp only at *
    subst followers strays followers' strays'
    obtain @⟨h, alike⟩ := worlds
    subst disk
    exact ⟨.intro alike, ⟨κ.translates_started same args, .none⟩, .nil, .nil⟩

theorem Waiting.play (agrees : κ.onRemote.Agrees host (Beside sim))
    (same : κ.Environments (loaded env d) (loaded env' d)) (turns : List Turn)
    (waiting : κ.Waiting sim env env' args d p p') :
    κ.Waiting sim env env' args d (p.play host turns) (p'.play host turns) ∨
      κ.Lockstep sim (p.play host turns) (p'.play host turns) := by
  induction turns generalizing p p' with
  | nil => exact .inl waiting
  | cons turn turns ih =>
    rcases waiting.step κ same turn with waiting | lockstep
    · exact ih waiting
    · exact .inr (lockstep.play κ agrees turns)

end Process

end Rekeying

namespace CommandLine

open Ssh (Watched Answering)

def sampleRekeying : Rekeying := ⟨"one", "two", by decide, by decide⟩

def sampleWith (password : String) : Config.Environment :=
  (passwordVariable, password) :: ("RUST_LOG", "off") :: sampleEnvironment

def passwordRun (password : String) : Process (Watched Ssh.Script) Exit :=
  played Ssh.Script.answer {} (sampleWith password) ["list-tags"] {} (List.replicate 15 {})

/-- A file that gives the port the value of the password. -/
def tellingFile : Bytes :=
  "CTAGSSH_PORT=$\x7bCTAGSSH_PASSWORD\x7d\n".toList.map fun c => c.toNat.toUInt8

def tellingEnvironment (password : String) : Config.Environment :=
  [(passwordVariable, password), ("RUST_LOG", "off")]

def tellingRun (password : String) : Process (Watched Ssh.Script) Exit :=
  played Ssh.Script.answer {} (tellingEnvironment password) ["list-tags"]
    { nodes := [([envFile], .file tellingFile)] } (List.replicate 3 {})

end CommandLine

end RemoteTags
