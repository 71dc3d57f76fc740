import RemoteTags.Proofs.Ssh.Rekeying
import RemoteTags.Ssh.Script

/-! A script without faults. It writes a log and never looks at it, so it does not care about the
secret that it is given; only a NUL character in the secret would make a difference. -/

namespace RemoteTags.Ssh.Script

structure Quiet (s s' : Script) : Prop where
  faultless : s.faults = []
  same : s' = { s with log := s'.log }

variable {α : Type} {s s' : Script}

theorem Quiet.faultless' (quiet : Quiet s s') : s'.faults = [] := by
  rw [quiet.same]
  exact quiet.faultless

theorem Quiet.write (quiet : Quiet s s') (c c' : LibraryCall) :
    Quiet (s.write c) (s'.write c') where
  faultless := quiet.faultless
  same := by
    rw [quiet.same]
    rfl

section Faultless

variable (faultless : s.faults = [])

include faultless

theorem take_faultless (name rest : String) : s.take name rest = (none, s) := by
  unfold take
  rw [faultless]
  dsimp only [takeFrom]
  rw [← faultless]

theorem attempt_faultless (c : LibraryCall) (answer : Script → Attempt α × Script) :
    s.attempt c answer =
      if (describe c).2.toList.contains '\x00' then (.error .nulInText, s.write c)
      else answer (s.write c) := by
  have written : (s.write c).faults = [] := faultless
  unfold attempt
  dsimp only
  rw [take_faultless written]

theorem stream_faultless (name subject : String) (content : Bytes) :
    s.stream name subject content = (⟨content, none⟩, s) := by
  unfold stream
  rw [take_faultless faultless]

theorem output_faultless (c : LibraryCall) (content : Bytes) :
    s.output c content = (⟨content, none⟩, s.write c) := by
  have written : (s.write c).faults = [] := faultless
  exact stream_faultless written _ _ _

end Faultless

/-- What is answered and done does not depend on the log. -/
def Deaf (answer answer' : Script → α × Script) : Prop :=
  ∀ s s', Quiet s s' → (answer' s').1 = (answer s).1 ∧ Quiet (answer s).2 (answer' s').2

theorem deaf_succeed (a : α) : Deaf (succeed a) (succeed a) :=
  fun _ _ quiet => ⟨rfl, quiet⟩

theorem get_of_quiet (quiet : Quiet s s') {f : Script → α}
    (same : ∀ s log, f { s with log := log } = f s) : f s' = f s := by
  rw [quiet.same]
  exact same s _

theorem deaf_get (f : Script → α) (same : ∀ s log, f { s with log := log } = f s) :
    Deaf (fun s => (f s, s)) fun s => (f s, s) :=
  fun _ _ quiet => ⟨get_of_quiet quiet same, quiet⟩

theorem deaf_write (c : LibraryCall) (f : Script → α)
    (same : ∀ s log, f { s with log := log } = f s) :
    Deaf (fun s => (f s, s.write c)) fun s => (f s, s.write c) :=
  fun _ _ quiet => ⟨get_of_quiet quiet same, quiet.write c c⟩

theorem deaf_stat (path : String) : Deaf (stat path) (stat path) := by
  intro s s' quiet
  have files : s'.files = s.files := by rw [quiet.same]
  unfold stat
  rw [files]
  cases s.files.lookup path <;> exact ⟨rfl, quiet⟩

theorem deaf_readDir (path : String) : Deaf (readDir path) (readDir path) := by
  intro s s' quiet
  have directories : s'.directories = s.directories := by rw [quiet.same]
  unfold readDir
  rw [directories]
  cases s.directories.lookup path <;> exact ⟨rfl, quiet⟩

theorem deaf_unlink (path : String) : Deaf (unlink path) (unlink path) := by
  intro s s' quiet
  have files : s'.files = s.files := by rw [quiet.same]
  unfold unlink
  rw [files]
  cases s.files.lookup path with
  | none => exact ⟨rfl, quiet⟩
  | some f => exact ⟨rfl, quiet.faultless, by rw [quiet.same]⟩

theorem deaf_openFile (path : String) : Deaf (openFile path) (openFile path) := by
  intro s s' quiet
  have files : s'.files = s.files := by rw [quiet.same]
  unfold openFile
  rw [files]
  cases s.files.lookup path with
  | none => exact ⟨rfl, quiet⟩
  | some f =>
    dsimp only
    rw [stream_faultless quiet.faultless, stream_faultless quiet.faultless']
    exact ⟨rfl, quiet.faultless, by rw [quiet.same]⟩

theorem deaf_exec (command : String) : Deaf (exec command) (exec command) := by
  intro s s' quiet
  have rules : s'.rules = s.rules := by rw [quiet.same]
  unfold exec
  rw [rules]
  generalize (s.rules.find? fun r => Text.contains command r.pattern).getD unknownCommand = rule
  dsimp only
  split
  · refine ⟨rfl, quiet.faultless, ?_⟩
    rw [quiet.same]
    rfl
  · exact ⟨rfl, quiet.faultless, by rw [quiet.same]⟩

theorem deaf_output (c : LibraryCall) (content : Script → Bytes)
    (same : ∀ s log, content { s with log := log } = content s) :
    Deaf (fun s => s.output c (content s)) fun s => s.output c (content s) := by
  intro s s' quiet
  dsimp only
  rw [output_faultless quiet.faultless, output_faultless quiet.faultless', get_of_quiet quiet same]
  exact ⟨rfl, quiet.write c c⟩

theorem deaf_attempt_of_nul (c c' : LibraryCall)
    (nul : (describe c').2.toList.contains '\x00' = (describe c).2.toList.contains '\x00')
    {answer : Script → Attempt α × Script} (deaf : Deaf answer answer) :
    Deaf (fun s => s.attempt c answer) fun s => s.attempt c' answer := by
  intro s s' quiet
  dsimp only
  rw [attempt_faultless quiet.faultless, attempt_faultless quiet.faultless', nul]
  split
  · exact ⟨rfl, quiet.write c c'⟩
  · exact deaf _ _ (quiet.write c c')

theorem deaf_attempt (c : LibraryCall) {answer : Script → Attempt α × Script}
    (deaf : Deaf answer answer) : Deaf (fun s => s.attempt c answer) fun s => s.attempt c answer :=
  deaf_attempt_of_nul c c rfl deaf

theorem contains_describe (κ : Rekeying)
    (nul : κ.new.toList.contains '\x00' = κ.old.toList.contains '\x00') (front secret : String) :
    (front ++ κ.secret secret).toList.contains '\x00' =
      (front ++ secret).toList.contains '\x00' := by
  unfold Rekeying.secret
  split
  · rename_i isOld
    subst isOld
    simp only [String.toList_append, List.contains_append, nul]
  · rfl

theorem deaf_play (x : LibraryCall) : Deaf (play x) (play x) := by
  cases x with
  | setTimeout n => exact deaf_write (.setTimeout n) (fun _ => ()) fun _ _ => rfl
  | setStream => exact deaf_write .setStream (fun _ => ()) fun _ _ => rfl
  | shutSftp => exact deaf_write .shutSftp (fun _ => ()) fun _ _ => rfl
  | authenticated => exact deaf_write .authenticated authenticated fun _ _ => rfl
  | readFile => exact deaf_get opened fun _ _ => rfl
  | newSession => exact deaf_attempt .newSession (deaf_succeed ())
  | handshake => exact deaf_attempt .handshake (deaf_succeed ())
  | authPassword user password =>
    exact deaf_attempt (.authPassword user password) (deaf_succeed ())
  | authKey user key passphrase =>
    exact deaf_attempt (.authKey user key passphrase) (deaf_succeed ())
  | openSftp => exact deaf_attempt .openSftp (deaf_succeed ())
  | openChannel => exact deaf_attempt .openChannel (deaf_succeed ())
  | waitClose => exact deaf_attempt .waitClose (deaf_succeed ())
  | disconnect description => exact deaf_attempt (.disconnect description) (deaf_succeed ())
  | realPath path =>
    exact deaf_attempt (.realPath path) (deaf_get (Except.ok ·.home) fun _ _ => rfl)
  | exitStatus =>
    exact deaf_attempt .exitStatus (deaf_get (Except.ok ·.rule.exitStatus) fun _ _ => rfl)
  | stat path => exact deaf_attempt (.stat path) (deaf_stat path)
  | openFile path => exact deaf_attempt (.openFile path) (deaf_openFile path)
  | unlink path => exact deaf_attempt (.unlink path) (deaf_unlink path)
  | readDir path => exact deaf_attempt (.readDir path) (deaf_readDir path)
  | exec command => exact deaf_attempt (.exec command) (deaf_exec command)
  | readStdout => exact deaf_output .readStdout (·.rule.stdout) fun _ _ => rfl
  | readStderr => exact deaf_output .readStderr (·.rule.stderr) fun _ _ => rfl

section Login

variable (κ : Rekeying) (nul : κ.new.toList.contains '\x00' = κ.old.toList.contains '\x00')

include nul

theorem deaf_authPassword (user password : String) :
    Deaf (play (.authPassword user password)) (play (.authPassword user (κ.secret password))) :=
  deaf_attempt_of_nul (.authPassword user password) (.authPassword user (κ.secret password))
    (contains_describe κ nul ("password " ++ user ++ " ") password) (deaf_succeed ())

theorem deaf_authKey (user key : String) (passphrase : Option String) :
    Deaf (play (.authKey user key passphrase))
      (play (.authKey user key (passphrase.map κ.secret))) := by
  cases passphrase with
  | none => exact deaf_play (.authKey user key none)
  | some passphrase =>
    exact deaf_attempt_of_nul (.authKey user key (some passphrase))
      (.authKey user key (some (κ.secret passphrase)))
      (contains_describe κ nul ("key " ++ user ++ " " ++ key ++ " passphrase ") passphrase)
      (deaf_succeed ())

theorem agrees_answer : κ.onWire.Agrees answer (Beside Quiet) := by
  have answers : ∀ {s s' : Script × Local.Disk}, Beside Quiet s s' → ∀ c : Call,
      (answer (κ.wire c) s').1 = κ.onWire.reply c (answer c s).1 ∧
        Beside Quiet (answer c s).2 (answer (κ.wire c) s').2 := by
    rintro ⟨s, d⟩ ⟨s', d'⟩ ⟨quiet, disk⟩ c
    dsimp only at quiet disk
    subst disk
    cases c with
    | dial host port seconds => exact ⟨rfl, quiet, rfl⟩
    | disk c => exact ⟨rfl, quiet, rfl⟩
    | library x =>
      have plays := deaf_play x s s' quiet
      cases x with
      | authPassword user password =>
        obtain ⟨told, after⟩ := deaf_authPassword κ nul user password s s' quiet
        exact ⟨told, after, rfl⟩
      | authKey user key passphrase =>
        obtain ⟨told, after⟩ := deaf_authKey κ nul user key passphrase s s' quiet
        exact ⟨told, after, rfl⟩
      | _ => exact ⟨plays.1, plays.2, rfl⟩
  exact ⟨fun same c => (answers same c).1, fun same c => (answers same c).2⟩

end Login

end RemoteTags.Ssh.Script
