import Mathlib.Logic.Basic
import RemoteTags.Proofs.Effect.Runs
import RemoteTags.Proofs.Session.Solo
import RemoteTags.Proofs.Text.Utf8
import RemoteTags.Ssh.Client
import RemoteTags.Ssh.Script

/-! What becomes of the link when something fails beside it: an output of a command that is no text,
a local file that cannot be written, a status that the server sends instead of the rest of a file.
A reply of the library keeps its code until it is told as a failure of the transport; what fails in
a stream has only a kind, and all kinds but two are told as the loss of the link. -/

namespace RemoteTags

namespace Ssh

section Refusal

variable {ε α : Type} {e : ε}

def refusal? : Except ε α → Option ε
  | .error e => some e
  | .ok _ => none

theorem eq_error_of_refusal? {r : Except ε α} (refused : refusal? r = some e) : r = .error e := by
  cases r with
  | error e' => exact congrArg Except.error (Option.some.inj refused)
  | ok a => cases refused

theorem eq_ok_of_refusal? {r : Except ε Unit} (granted : refusal? r = none) : r = .ok () := by
  cases r with
  | error e => cases granted
  | ok a => rfl

theorem eq_ok_of_toOption {r : Except ε α} {a : α} (told : r.toOption = some a) : r = .ok a := by
  cases r with
  | error e => cases told
  | ok b => exact congrArg Except.ok (Option.some.inj told)

end Refusal

namespace Transport

variable {α : Type} {T : Terms Call Call.Reply} {P : Remote.Attempt α → Prop} (t : Transport)

theorem meets_within (timeout : Duration) {call : Wire (Remote.Attempt α)} (asks : ∀ q, T.asks q)
    (meets : call.Meets T P) : (t.within timeout call).Meets T P :=
  ⟨asks _, fun _ _ => meets.bind fun _ holds => ⟨asks _, fun _ _ => holds⟩⟩

theorem meets_onSftp (usable : t.sftpOpen = true) {call : Wire (Remote.Attempt α)}
    (meets : call.Meets T P) : (t.onSftp call).Meets T P := by
  unfold onSftp
  rwa [if_pos usable]

end Transport

structure Completed where
  exitStatus : Int := 0
  stdout : Bytes := []
  stderr : Bytes := []

namespace Completed

variable (c : Completed) (command : String)

/-- No call fails, and the streams deliver what the command wrote. -/
def Serves : (q : Call) → q.Reply → Prop
  | .library .openChannel, r | .library (.exec _), r | .library .waitClose, r => refusal? r = none
  | .library .readStdout, r => r = ⟨c.stdout, none⟩
  | .library .readStderr, r => r = ⟨c.stderr, none⟩
  | .library .exitStatus, r => r.toOption = some c.exitStatus
  | _, _ => True

instance (q : Call) (r : q.Reply) : Decidable (c.Serves q r) := by
  unfold Serves
  split <;> infer_instance

def terms : Terms Call Call.Reply := ⟨fun _ => True, c.Serves⟩

def report : Remote.Attempt Remote.Output :=
  match Utf8.decode? c.stdout, Utf8.decode? c.stderr with
  | some stdout, some stderr => .ok ⟨c.exitStatus, stdout, stderr⟩
  | _, _ => .error (ofLocal command .invalidUtf8)

theorem textOf_whole (bytes : Bytes) :
    textOf command ⟨bytes, none⟩ = match Utf8.decode? bytes with
      | some text => .ok text
      | none => .error (ofLocal command .invalidUtf8) := by
  unfold textOf
  cases Utf8.decode? bytes <;> rfl

theorem meets_collect : (Transport.collect command).Meets c.terms (· = c.report command) := by
  refine ⟨trivial, fun out wrote => ?_⟩
  cases (show out = ⟨c.stdout, none⟩ from wrote)
  dsimp only [Program.done_bind, Program.bind_eq]
  rw [textOf_whole]
  cases texts : Utf8.decode? c.stdout with
  | none =>
    change Except.error _ = c.report command
    simp only [report, texts]
  | some stdout =>
    refine ⟨trivial, fun err wrote => ?_⟩
    cases (show err = ⟨c.stderr, none⟩ from wrote)
    dsimp only [Program.done_bind, Program.bind_eq]
    rw [textOf_whole]
    cases texts' : Utf8.decode? c.stderr with
    | none =>
      change Except.error _ = c.report command
      simp only [report, texts, texts']
    | some stderr =>
      refine ⟨trivial, fun r closed => ?_⟩
      cases eq_ok_of_refusal? closed
      refine ⟨trivial, fun r told => ?_⟩
      cases eq_ok_of_toOption told
      change Except.ok _ = c.report command
      simp only [report, texts, texts']

theorem meets_exec (t : Transport) (timeout : Duration) :
    (t.exec command timeout).Meets c.terms (· = c.report command) := by
  refine t.meets_within timeout (fun _ => trivial) ⟨trivial, fun r opened => ?_⟩
  cases eq_ok_of_refusal? opened
  refine ⟨trivial, fun r started => ?_⟩
  cases eq_ok_of_refusal? started
  exact c.meets_collect command

def Texts (stdout stderr : String) : Prop :=
  c.stdout = Utf8.encode stdout ∧ c.stderr = Utf8.encode stderr

theorem report_of_texts {stdout stderr : String} (texts : c.Texts stdout stderr) :
    c.report command = .ok ⟨c.exitStatus, stdout, stderr⟩ := by
  unfold report
  rw [texts.1, texts.2, Utf8.decode?_encode, Utf8.decode?_encode]

theorem report_of_no_texts (none : ∀ stdout stderr, ¬ c.Texts stdout stderr) :
    c.report command = .error (.io (command ++ ": " ++ "stream did not contain valid UTF-8")) := by
  unfold report
  split
  · rename_i stdout stderr out err
    exact absurd ⟨Utf8.decode?_eq_some_iff.1 out, Utf8.decode?_eq_some_iff.1 err⟩ (none _ _)
  · rfl

end Completed

/-- A transfer for which the server delivers the whole file, and what the local disk refuses of
it. -/
structure Transfer where
  content : Bytes := []
  create : Option Local.IoError := none
  append : Option Local.IoError := none
  sync : Option Local.IoError := none

namespace Transfer

variable (x : Transfer) (remote localPath : String)

def Serves : (q : Call) → q.Reply → Prop
  | .library (.openFile _), r => refusal? r = none
  | .library .readFile, r => r = ⟨x.content, none⟩
  | .disk (.create _), r => refusal? r = x.create
  | .disk (.append _ _), r => refusal? r = x.append
  | .disk (.sync _), r => refusal? r = x.sync
  | _, _ => True

instance (q : Call) (r : q.Reply) : Decidable (x.Serves q r) := by
  unfold Serves
  split <;> infer_instance

def terms : Terms Call Call.Reply := ⟨fun _ => True, x.Serves⟩

def report : Remote.Attempt Nat :=
  match x.create, x.append, x.sync with
  | some e, _, _ => .error (.localFailure ("cannot create " ++ localPath ++ ": " ++ e.message))
  | none, some e, _ => .error (ofLocal remote e)
  | none, none, some e => .error (.localFailure e.message)
  | none, none, none => .ok x.content.length

theorem meets_copy (created : x.create = none) :
    (Transport.copy remote localPath).Meets x.terms (· = x.report remote localPath) := by
  refine ⟨trivial, fun s delivered => ?_⟩
  cases (show s = ⟨x.content, none⟩ from delivered)
  refine ⟨trivial, fun r (wrote : refusal? r = x.append) => ?_⟩
  cases append : x.append with
  | some e =>
    cases eq_error_of_refusal? (wrote.trans append)
    change Except.error _ = x.report remote localPath
    simp only [report, created, append]
  | none =>
    cases eq_ok_of_refusal? (wrote.trans append)
    refine ⟨trivial, fun r (synced : refusal? r = x.sync) => ?_⟩
    cases sync : x.sync with
    | some e =>
      cases eq_error_of_refusal? (synced.trans sync)
      change Except.error _ = x.report remote localPath
      simp only [report, created, append, sync]
    | none =>
      cases eq_ok_of_refusal? (synced.trans sync)
      change Except.ok _ = x.report remote localPath
      simp only [report, created, append, sync]

theorem meets_fastGet {t : Transport} (usable : t.sftpOpen = true) (timeout : Duration) :
    (t.fastGet remote localPath timeout).Meets x.terms (· = x.report remote localPath) := by
  refine t.meets_within timeout (fun _ => trivial) (t.meets_onSftp usable ?_)
  refine ⟨trivial, fun r opened => ?_⟩
  cases eq_ok_of_refusal? opened
  refine ⟨trivial, fun r (made : refusal? r = x.create) => ?_⟩
  cases create : x.create with
  | some e =>
    cases eq_error_of_refusal? (made.trans create)
    change Except.error _ = x.report remote localPath
    simp only [report, create]
  | none =>
    cases eq_ok_of_refusal? (made.trans create)
    exact x.meets_copy remote localPath create

theorem report_of_append {e : Local.IoError} (created : x.create = none)
    (refused : x.append = some e) : x.report remote localPath = .error (ofLocal remote e) := by
  simp only [report, created, refused]

theorem report_of_others (other : x.create ≠ none ∨ x.append = none) :
    (∃ reason, x.report remote localPath = .error (.localFailure reason)) ∨
      x.report remote localPath = .ok x.content.length := by
  unfold report
  split
  · exact .inl ⟨_, rfl⟩
  · rename_i created appended
    rcases other with refused | granted
    · exact absurd created refused
    · cases granted.symm.trans appended
  · exact .inl ⟨_, rfl⟩
  · exact .inr rfl

end Transfer

theorem isLinkFailure_ofLibrary (subject : String) (e : LibraryError) :
    (ofLibrary subject e).isLinkFailure = true ↔ ∀ n, e.code ≠ .sftp n := by
  obtain ⟨code, text⟩ := e
  unfold ofLibrary
  split <;> simp_all [TransportError.isLinkFailure]

theorem isLinkFailure_ofIo (subject : String) (kind : Local.IoKind) (text : String) :
    (ofIo subject kind text).isLinkFailure = true ↔ kind ≠ .notFound := by
  cases kind <;> simp [ofIo, TransportError.isLinkFailure]

theorem ofIo_ne_localFailure (subject : String) (kind : Local.IoKind) (text reason : String) :
    ofIo subject kind text ≠ .localFailure reason := by
  cases kind <;> exact nofun

/-- Where a read of a file fails: the file cannot be opened, or its stream breaks off. -/
inductive ReadStage where
  | opening
  | streaming

namespace ReadStage

variable (stage : ReadStage) (e : LibraryError) (path : String)

def Serves : (q : Call) → q.Reply → Prop
  | .library (.openFile _), r => refusal? r = match stage with
    | opening => some e
    | streaming => none
  | .library .readFile, r => r.failure = some e
  | _, _ => True

instance (q : Call) (r : q.Reply) : Decidable (stage.Serves e q r) := by
  unfold Serves
  split <;> infer_instance

def terms : Terms Call Call.Reply := ⟨fun _ => True, stage.Serves e⟩

def failure : ReadStage → TransportError
  | opening => ofLibrary path e
  | streaming => ofStream path e

theorem meets_read {t : Transport} (usable : t.sftpOpen = true) :
    (t.read path).Meets (stage.terms e) (· = .error (stage.failure e path)) := by
  refine t.meets_onSftp usable ⟨trivial, fun r opened => ?_⟩
  cases stage with
  | opening =>
    cases eq_error_of_refusal? opened
    exact rfl
  | streaming =>
    cases eq_ok_of_refusal? opened
    refine ⟨trivial, fun s broke => ?_⟩
    dsimp only [Program.done_bind]
    rw [show s.failure = some e from broke]
    exact rfl

def Spares : ReadStage → Prop
  | opening => ∃ n, e.code = .sftp n
  | streaming => e.kind = .notFound

theorem isLinkFailure_failure : (stage.failure e path).isLinkFailure = true ↔ ¬ stage.Spares e := by
  cases stage with
  | opening => rw [failure, Spares, isLinkFailure_ofLibrary, not_exists]
  | streaming => exact isLinkFailure_ofIo path e.kind e.text

end ReadStage

end Ssh

namespace Session

def sampleLink : Link := ⟨0, "/home/dev", false, {}, 1⟩

def sampleTransport : Ssh.Transport := { timeouts := {} }

def scripted (script : Ssh.Script) (disk : Local.Disk) : World (Ssh.Client Ssh.Script) where
  session := { status := ⟨.connected, none, some sampleLink.home, 1⟩, slot := some sampleLink }
  disk := disk
  host := ⟨script, [sampleTransport]⟩

variable {L : Type} {lib : Ssh.Answering L} {w : World (Ssh.Client L)} {link : Link}
  {t : Ssh.Transport}

/-- A command that runs to its end without the failure of any call. If both of its outputs are
texts, they are reported with the exit status, and the session goes on. Any other output takes the
link down and ends the connection. -/
theorem exec_of_completed (current : w.session.current = some link)
    (opened : w.host.link? link.id = some t) (command : String) (c : Ssh.Completed)
    (served : ∀ x ∈ (t.exec command link.timeouts.exec).log lib (w.host.library, w.disk),
      c.Serves x.1 x.2) :
    let told := (Program.run lib (t.exec command link.timeouts.exec)
      (w.host.library, w.disk)).1
    let r := w.run (Ssh.Client.answer lib) (exec command)
    (∀ stdout stderr, c.Texts stdout stderr →
      told = .ok ⟨c.exitStatus, stdout, stderr⟩ ∧ Stays w.session r.2.session ∧
        r.1 = if c.exitStatus = 0 then .ok ⟨c.exitStatus, stdout, stderr⟩
          else .error (.exec command (exitReason ⟨c.exitStatus, stdout, stderr⟩))) ∧
    ((∀ stdout stderr, ¬ c.Texts stdout stderr) →
      let reason := command ++ ": " ++ "stream did not contain valid UTF-8"
      told = .error (.io reason) ∧ Ended w.session r.2.session ∧
        r.1 = .error (.exec command reason)) := by
  intro told r
  have reported : told = c.report command := (c.meets_exec command t _).of_log served
  have reply : (Ssh.Client.answer lib (.exec link.id command link.timeouts.exec)
      (w.host, w.disk)).1 = told :=
    Ssh.Client.onLink_reply opened (·.exec command link.timeouts.exec) w.disk
  have ends : EndsAs w.session (commandOutcome command link told) r.1 r.2.session := by
    rw [← reply]
    exact endsAs_exec current command
  rw [reported] at ends ⊢
  constructor
  · intro stdout stderr texts
    rw [c.report_of_texts command texts] at ends ⊢
    rw [commandOutcome_ok] at ends
    by_cases well : c.exitStatus = 0
    · rw [if_pos well] at ends ⊢
      exact ⟨rfl, ends.2, ends.1⟩
    · rw [if_neg well] at ends ⊢
      exact ⟨rfl, ends.2, ends.1⟩
  · intro none reason
    rw [c.report_of_no_texts command none] at ends ⊢
    exact ⟨rfl, ends.2, ends.1⟩

/-- The compressor complains about a file whose name is no text. -/
theorem exec_of_completed_latin :
    let w := scripted { rules := [⟨"gzip", 1, [], [0x67, 0xE9], none⟩] } {}
    Ended w.session (w.run (Ssh.Client.answer Ssh.Script.answer) (exec "gzip a.c")).2.session := by
  intro w
  let c : Ssh.Completed := { exitStatus := 1, stderr := [0x67, 0xE9] }
  have served : ∀ x ∈ (sampleTransport.exec "gzip a.c" sampleLink.timeouts.exec).log
      Ssh.Script.answer (w.host.library, w.disk), c.Serves x.1 x.2 := by
    decide +kernel
  have none : ∀ stdout stderr, ¬ c.Texts stdout stderr := by
    intro stdout stderr texts
    have read : Utf8.decode? c.stderr = some stderr := Utf8.decode?_eq_some_iff.2 texts.2
    have none : Utf8.decode? c.stderr = none := by decide
    cases none.symm.trans read
  have current : w.session.current = some sampleLink := rfl
  have opened : w.host.link? sampleLink.id = some sampleTransport := rfl
  exact ((exec_of_completed current opened "gzip a.c" c served).2 none).2.1

/-- A transfer that only the local disk gets in the way of. Told as a local failure, and so harmless
to the link, is what fails before or after the file is written. A failed write is told as one of the
stream: it never counts as local, and it takes the link down, unless it seems that something was not
found. -/
theorem fastGet_of_local_failure (current : w.session.current = some link)
    (opened : w.host.link? link.id = some t) (usable : t.sftpOpen = true)
    (remote localPath : String) (x : Ssh.Transfer)
    (served : ∀ e ∈ (t.fastGet remote localPath link.timeouts.transfer).log lib
      (w.host.library, w.disk), x.Serves e.1 e.2) :
    let told := (Program.run lib (t.fastGet remote localPath link.timeouts.transfer)
      (w.host.library, w.disk)).1
    let r := w.run (Ssh.Client.answer lib) (fastGet remote localPath)
    (x.create ≠ none ∨ x.append = none →
      (∀ failure, told = .error failure → ∃ reason, failure = .localFailure reason) ∧
        Stays w.session r.2.session) ∧
    ∀ e, x.create = none → x.append = some e →
      told = .error (Ssh.ofLocal remote e) ∧
        (∀ reason, Ssh.ofLocal remote e ≠ .localFailure reason) ∧
        (e.kind = .notFound → Stays w.session r.2.session) ∧
        (e.kind ≠ .notFound → Ended w.session r.2.session) := by
  intro told r
  have reported : told = x.report remote localPath :=
    (x.meets_fastGet remote localPath usable _).of_log served
  have reply : (Ssh.Client.answer lib (.fastGet link.id remote localPath link.timeouts.transfer)
      (w.host, w.disk)).1 = told :=
    Ssh.Client.onLink_reply opened (·.fastGet remote localPath link.timeouts.transfer)
      w.disk
  have ends : EndsAs w.session (transferOutcome remote link told) r.1 r.2.session := by
    rw [← reply]
    exact endsAs_fastGet current remote localPath
  rw [reported] at ends ⊢
  constructor
  · intro other
    rcases x.report_of_others remote localPath other with ⟨reason, failed⟩ | well
    · rw [failed] at ends ⊢
      refine ⟨?_, (EndsAs.of_failure ends).2.2 nofun⟩
      rintro _ ⟨⟩
      exact ⟨reason, rfl⟩
    · rw [well] at ends ⊢
      exact ⟨nofun, ends.2⟩
  · intro e create append
    rw [x.report_of_append remote localPath create append] at ends ⊢
    obtain ⟨-, lost, spared⟩ := EndsAs.of_failure ends
    have broke : (Ssh.ofLocal remote e).isLinkFailure = true ↔ e.kind ≠ .notFound :=
      Ssh.isLinkFailure_ofIo remote e.kind e.message
    exact ⟨rfl, Ssh.ofIo_ne_localFailure _ _ _,
      fun found => spared fun failed => broke.1 failed found, fun other => lost (broke.2 other)⟩

/-- The target is on a device that is full. -/
theorem fastGet_of_local_failure_full :
    let w := scripted { files := [("/a", ⟨[0x78], {}⟩)] }
      { nodes := [(["dev"], .directory), (["dev", "full"], .fullDevice)] }
    Ended w.session
      (w.run (Ssh.Client.answer Ssh.Script.answer) (fastGet "/a" "/dev/full")).2.session := by
  intro w
  let x : Ssh.Transfer := { content := [0x78], append := some (.os .noSpace) }
  have served : ∀ e ∈ (sampleTransport.fastGet "/a" "/dev/full"
      sampleLink.timeouts.transfer).log Ssh.Script.answer (w.host.library, w.disk),
        x.Serves e.1 e.2 := by
    decide +kernel
  have current : w.session.current = some sampleLink := rfl
  have opened : w.host.link? sampleLink.id = some sampleTransport := rfl
  have usable : sampleTransport.sftpOpen = true := rfl
  have costs := (fastGet_of_local_failure current opened usable "/a" "/dev/full" x served).2
    (.os .noSpace) rfl rfl
  exact costs.2.2.2 nofun

/-- The failure of a call and that of a stream agree on the loss of the link exactly if every status
of the server, and nothing else, is taken for the lack of a file. The library takes two of the
statuses for that. With any other one the link outlasts a read that cannot begin, but no read that
breaks off. -/
theorem read_of_failure :
    (∀ (kind : Ssh.ErrorCode → Local.IoKind) (subject : String) (e : Ssh.LibraryError),
      (Ssh.ofLibrary subject e).isLinkFailure =
          (Ssh.ofIo subject (kind e.code) e.text).isLinkFailure ↔
        (kind e.code = .notFound ↔ ∃ n, e.code = .sftp n)) ∧
    ∀ (path : String) (e : Ssh.LibraryError) (stage : Ssh.ReadStage),
      w.session.current = some link → w.host.link? link.id = some t → t.sftpOpen = true →
      (∀ x ∈ (t.read path).log lib (w.host.library, w.disk), stage.Serves e x.1 x.2) →
      let r := w.run (Ssh.Client.answer lib) (Session.read path)
      (stage.Spares e → Stays w.session r.2.session) ∧
        (¬ stage.Spares e → Ended w.session r.2.session) := by
  constructor
  · intro kind subject e
    rw [Bool.eq_iff_iff, Ssh.isLinkFailure_ofLibrary, Ssh.isLinkFailure_ofIo, ← not_exists, ne_eq,
      not_iff_not]
    exact ⟨Iff.symm, Iff.symm⟩
  · intro path e stage current opened usable served r
    have reported : (Program.run lib (t.read path) (w.host.library, w.disk)).1 =
        .error (stage.failure e path) := (stage.meets_read e path usable).of_log served
    have reply : (Ssh.Client.answer lib (.read link.id path) (w.host, w.disk)).1 =
        .error (stage.failure e path) :=
      (Ssh.Client.onLink_reply opened (·.read path) w.disk).trans reported
    have ends : EndsAs w.session (.ofAttempt (.error (stage.failure e path))) r.1 r.2.session := by
      rw [← reply]
      exact endsAs_read current path
    obtain ⟨-, lost, spared⟩ := EndsAs.of_failure ends
    have broke := stage.isLinkFailure_failure e path
    exact ⟨fun spares => spared fun failed => broke.1 failed spares,
      fun costs => lost (broke.2 costs)⟩

/-- The server answers with a general failure in the middle of a file. -/
theorem read_of_failure_midway :
    let e : Ssh.LibraryError := ⟨.sftp 4, "failure"⟩
    let w := scripted
      { files := [("/a", ⟨[0x78], {}⟩)], faults := [{ call := "fread", error := e }] } {}
    Ended w.session
      (w.run (Ssh.Client.answer Ssh.Script.answer) (Session.read "/a")).2.session := by
  intro e w
  have served : ∀ x ∈ (sampleTransport.read "/a").log Ssh.Script.answer (w.host.library, w.disk),
      Ssh.ReadStage.streaming.Serves e x.1 x.2 := by
    decide +kernel
  have current : w.session.current = some sampleLink := rfl
  have opened : w.host.link? sampleLink.id = some sampleTransport := rfl
  have usable : sampleTransport.sftpOpen = true := rfl
  exact (read_of_failure.2 "/a" e .streaming current opened usable served).2 nofun

end Session

end RemoteTags
