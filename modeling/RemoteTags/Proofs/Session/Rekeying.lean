import RemoteTags.Proofs.Navigator.Work
import RemoteTags.Proofs.Ssh.Rekeying

/-! A session with another secret. The secret is in the connections that it is told and keeps, and
nowhere else; what it does with a link never depends on it. -/

namespace RemoteTags.Rekeying

open Program (Translates translates_done translates_self)
open Session (Section)

variable (κ : Rekeying)

def reconnect (r : Reconnect) : Reconnect := { r with config := κ.connection r.config }

def status (s : Status) : Status := { s with config := s.config.map κ.connection }

def session (s : Session) : Session :=
  { s with
    status := κ.status s.status
    scheduled := s.scheduled.map κ.reconnect }

def onSection : Translation Section Section.Reply where
  question
    | .begin c expected => .begin (κ.connection c) expected
    | .schedule r => .schedule (κ.reconnect r)
    | x => x
  reply
    | .begin _ _, r | .beginDisconnect, r | .takeOlder _, r | .install _ _, r | .hold, r
    | .current, r | .useShellStat, r | .release, r | .schedule _, r => r
    | .drop, r => r.map κ.reconnect
    | .status, r => κ.status r

theorem begin_session (c : Connection) (expected : Option Nat) (s : Session) :
    (κ.session s).begin (κ.connection c) expected =
      ((s.begin c expected).1, κ.session (s.begin c expected).2) := by
  unfold Session.begin
  change (if expected.any (· ≠ s.status.generation) then _ else _) = _
  split <;> rfl

theorem takeOlder_session (g : Nat) (s : Session) :
    (κ.session s).takeOlder g = ((s.takeOlder g).1, κ.session (s.takeOlder g).2) := by
  obtain ⟨status, slot, held, scheduled⟩ := s
  unfold Session.takeOlder
  cases slot with
  | none => rfl
  | some link =>
    dsimp only [session]
    split <;> rfl

theorem install_session (g : Nat) (opened : Except ConnectError Link) (s : Session) :
    (κ.session s).install g opened =
      ((s.install g opened).1, κ.session (s.install g opened).2) := by
  unfold Session.install
  change (if s.status.generation ≠ g then _ else _) = _
  split
  · rfl
  · cases opened <;> rfl

theorem drop_session (s : Session) :
    (κ.session s).drop = (s.drop.1.map κ.reconnect, κ.session s.drop.2) := by
  obtain ⟨⟨phase, config, home, generation⟩, slot, held, scheduled⟩ := s
  unfold Session.drop
  cases slot with
  | none => rfl
  | some link =>
    dsimp only [session, status]
    split
    · rfl
    · cases config <;> rfl

theorem answer_section (x : Section) (s : Session) :
    (κ.onSection.question x).answer (κ.session s) =
      (κ.onSection.reply x (x.answer s).1, κ.session (x.answer s).2) := by
  cases x with
  | begin c expected => exact κ.begin_session c expected s
  | install g opened => exact κ.install_session g opened s
  | takeOlder g => exact κ.takeOlder_session g s
  | drop => exact κ.drop_session s
  | _ => rfl

theorem waits_section (x : Section) : (κ.onSection.question x).waits = x.waits := by
  cases x <;> rfl

def onAction : Translation Action Action.Reply where
  question
    | .session x => .session (κ.onSection.question x)
    | .remote k => .remote (κ.remote k)
    | .opening c g => .opening (κ.connection c) g
    | q => q
  reply
    | .session x, r => κ.onSection.reply x r
    | .remote k, r => κ.onRemote.reply k r
    | .cache _, r | .opening _ _, r | .disk _, r | .clock, r | .random _, r => r

theorem translates_openLink (c : Connection) (g : Nat) :
    Translates κ.onRemote Eq (Session.openLink c g) (Session.openLink (κ.connection c) g) := by
  have givesUp : ∀ id reason, Translates κ.onRemote Eq (Session.giveUp id reason)
      (Session.giveUp id reason) := fun id reason => ⟨_, rfl, fun _ => translates_done rfl⟩
  refine ⟨_, rfl, fun r => ?_⟩
  match r with
  | .error e => exact translates_done rfl
  | .ok id =>
    refine ⟨_, rfl, fun r => ?_⟩
    match r with
    | .error e => exact givesUp id _
    | .ok home =>
      change Translates κ.onRemote Eq
        (if Text.isBlankText home then Session.giveUp id _ else .done (.ok ⟨id, _, _, _, g⟩))
        (if Text.isBlankText home then Session.giveUp id _ else .done (.ok ⟨id, _, _, _, g⟩))
      split
      · exact givesUp id _
      · exact translates_done rfl

section Programs

variable {α : Type}

theorem translates_closeLink (link : Option Link) :
    Translates κ.onAction Eq (Session.closeLink link) (Session.closeLink link) := by
  cases link with
  | none => exact translates_done rfl
  | some link => exact ⟨_, rfl, fun _ => translates_done rfl⟩

theorem translates_conclude (g : Nat) (opened : Except ConnectError Link) :
    Translates κ.onAction Eq (Session.conclude g opened) (Session.conclude g opened) := by
  refine ⟨_, rfl, fun r => ?_⟩
  match r with
  | .connected | .failed e => exact translates_done rfl
  | .stale link => exact (κ.translates_closeLink link).bind fun _ _ _ => translates_done rfl

theorem translates_connectAs (c : Connection) (expected : Option Nat) :
    Translates κ.onAction Eq (Session.connectAs c expected)
      (Session.connectAs (κ.connection c) expected) := by
  refine ⟨_, rfl, fun g => ?_⟩
  match g with
  | none => exact translates_done rfl
  | some g =>
    refine ⟨_, rfl, fun older => (κ.translates_closeLink older).bind fun _ _ _ => ?_⟩
    refine ⟨_, rfl, fun opened => ?_⟩
    match opened with
    | none => exact κ.translates_conclude g _
    | some opened => exact κ.translates_conclude g opened

theorem translates_disconnect :
    Translates κ.onAction Eq Session.disconnect Session.disconnect :=
  ⟨_, rfl, fun _ => ⟨_, rfl, fun older => κ.translates_closeLink older⟩⟩

theorem translates_giveUpLink :
    Translates κ.onAction Eq Session.giveUpLink Session.giveUpLink := by
  refine ⟨_, rfl, fun status => ⟨_, rfl, fun older => ?_⟩⟩
  match older with
  | none => exact translates_done rfl
  | some link => exact ⟨_, rfl, fun _ => translates_done rfl⟩

theorem translates_onLink (after : Session.AfterLoss) {op : Link → Act (Session.Outcome α)}
    (same : ∀ link, Translates κ.onAction Eq (op link) (op link)) :
    Translates κ.onAction Eq (Session.onLink after op) (Session.onLink after op) := by
  refine ⟨_, rfl, fun _ => ⟨_, rfl, fun current => ?_⟩⟩
  match current with
  | none => exact ⟨_, rfl, fun _ => translates_done rfl⟩
  | some link =>
    refine (same link).bind fun outcome _ same => ?_
    subst same
    cases outcome with
    | value | refusal => exact ⟨_, rfl, fun _ => translates_done rfl⟩
    | lost e =>
      refine ⟨_, rfl, fun _ => ⟨_, rfl, fun next => ⟨_, rfl, fun _ => ?_⟩⟩⟩
      match after, next with
      | .reconnect, some r => exact ⟨_, rfl, fun _ => translates_done rfl⟩
      | .reconnect, none | .stay, some r | .stay, none => exact translates_done rfl

theorem translates_runCommand (link : Link) (command : String) :
    Translates κ.onAction Eq (Session.runCommand link command)
      (Session.runCommand link command) := by
  refine ⟨_, rfl, fun r => ?_⟩
  match r with
  | .error e => exact translates_done rfl
  | .ok out =>
    change Translates κ.onAction Eq (if out.exitStatus = 0 then .done _ else .done _)
      (if out.exitStatus = 0 then .done _ else .done _)
    split <;> exact translates_done rfl

theorem translates_shellStat (link : Link) (path : String) :
    Translates κ.onAction Eq (Session.shellStat link path) (Session.shellStat link path) := by
  refine (κ.translates_runCommand link _).bind fun outcome _ same => ?_
  subst same
  cases outcome with
  | refusal | lost => exact translates_done rfl
  | value =>
    have reads : Translates κ.onAction Eq
        (Act.remote (.read link.id (Shell.scratchBase link.home)))
        (Act.remote (.read link.id (Shell.scratchBase link.home))) :=
      ⟨_, rfl, fun _ => translates_done rfl⟩
    refine reads.bind fun report _ same => ?_
    subst same
    cases report with
    | error e => exact translates_done rfl
    | ok report =>
      dsimp only
      split <;> exact translates_done rfl

theorem translates_statOn (path : String) (link : Link) :
    Translates κ.onAction Eq (Session.statOn path link) (Session.statOn path link) := by
  unfold Session.statOn
  split
  · exact κ.translates_shellStat link path
  · refine ⟨_, rfl, fun r => ?_⟩
    match r with
    | .ok t => exact translates_done rfl
    | .error (.unsupported _) => exact ⟨_, rfl, fun _ => κ.translates_shellStat link path⟩
    | .error (.notFound _) | .error (.refused _) | .error (.localFailure _) | .error (.timedOut _)
    | .error (.io _) => exact translates_done rfl

theorem translates_operation (o : Session.Operation) :
    Translates κ.onAction Eq o.program o.program := by
  cases o with
  | stat path => exact κ.translates_onLink .reconnect (κ.translates_statOn path)
  | read path =>
    exact κ.translates_onLink .reconnect fun link => ⟨_, rfl, fun _ => translates_done rfl⟩
  | readDir path =>
    exact κ.translates_onLink .reconnect fun link => ⟨_, rfl, fun _ => translates_done rfl⟩
  | exec command => exact κ.translates_onLink .stay fun link => κ.translates_runCommand link command
  | fastGet remote localPath =>
    refine κ.translates_onLink .stay fun link => ⟨_, rfl, fun r => ?_⟩
    match r with
    | .ok n => exact translates_done rfl
    | .error e => exact translates_done rfl
  | remove path =>
    exact κ.translates_onLink .stay fun link => ⟨_, rfl, fun _ => translates_done rfl⟩

theorem translates_works {p : Act α} (works : Works p) : Translates κ.onAction Eq p p := by
  induction works with
  | done a => exact translates_done rfl
  | @apart q next apart _ ih =>
    cases q with
    | session | remote | opening => exact apart.elim
    | _ => exact ⟨_, rfl, ih⟩
  | operate o _ ih =>
    refine (κ.translates_operation o).bind fun r _ same => ?_
    subst same
    exact ih r
  | connected _ ih => exact ⟨_, rfl, fun _ => ih _⟩
  | home _ ih => exact ⟨_, rfl, fun _ => ih _⟩

end Programs

end RemoteTags.Rekeying
