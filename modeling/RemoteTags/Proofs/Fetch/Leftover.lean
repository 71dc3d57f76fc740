import RemoteTags.Proofs.Fetch.Host
import RemoteTags.Proofs.Fetch.Steps

/-! A fetch leaves no scratch file on the remote host without saying so, and it blames the step
that failed first, whatever goes wrong when it cleans up. -/

namespace RemoteTags.Fetch

variable {S : Type} {R : S → (q : Ask) → q.Reply → S → Prop} {s s' : S} {τ σ : Trace} {p : Plan}
  {remoteFile target path scratch : String} {z : Bytes}

def execs : Trace → List String :=
  List.filterMap fun e => match e with
    | ⟨.exec command, _⟩ => some command
    | _ => none

def removals : Trace → List String :=
  List.filterMap fun e => match e with
    | ⟨.remove path, _⟩ => some path
    | _ => none

@[simp] theorem execs_append (σ τ : Trace) : execs (σ ++ τ) = execs σ ++ execs τ :=
  List.filterMap_append

@[simp] theorem removals_append (σ τ : Trace) : removals (σ ++ τ) = removals σ ++ removals τ :=
  List.filterMap_append

def errorOf {ε α : Type} (blame : ε → FetchError) : Except ε α → Option FetchError
  | .error e => some (blame e)
  | .ok _ => none

/-- The failure that a reply tells of, with the step that asked and without any cleanup. The bytes
`z` are those that are expanded: they fail as soon as what comes out of them has been written. -/
def failure? (remoteFile : String) (z : Bytes) : (q : Ask) → q.Reply → Option FetchError
  | .connected, connected => if connected then none else some .notConnected
  | .home, none => some .notConnected
  | .home, some home =>
    if (Path.baseName? (Path.expandHome home remoteFile)).isNone then
      some (.invalidRemotePath remoteFile)
    else none
  | .exec _, r => errorOf (fun e => .step .compress (.session e) []) r
  | .fastGet _ _, r => errorOf (fun e => .step .transfer (.session e) []) r
  | .disk (.makeDirectories path), r => errorOf (.destination path) r
  | .disk (.createScratch _ suffix), r =>
    errorOf (fun e => .step (if suffix = "" then .decompress else .transfer) (.io e) []) r
  | .disk (.read _), r => errorOf (fun e => .step .decompress (.io e) []) r
  | .disk (.append _ _), .error e => some (.step .decompress (.io e) [])
  | .disk (.append _ _), .ok () =>
    errorOf (fun u => .step .decompress (.io (.other u.error.message)) []) (Gzip.decode z)
  | .disk (.sync _), r => errorOf (fun e => .step .decompress (.io e) []) r
  | .disk (.rename _ _), r => errorOf (fun e => .step .install (.io e) []) r
  | .remove _, _ | .clock, _ | .random _, _ | .disk (.remove _), _ | .disk (.create _), _
  | .disk (.readNearest _), _ | .disk (.pathExists _), _ => none

def bytesRead (z : Bytes) : (q : Ask) → q.Reply → Bytes
  | .disk (.read _), .ok data => data
  | _, _ => z

/-- The first failure on the way. -/
def firstFailure (remoteFile : String) : Bytes → Trace → Option FetchError
  | _, [] => none
  | z, ⟨q, r⟩ :: τ =>
    (failure? remoteFile z q r).or (firstFailure remoteFile (bytesRead z q r) τ)

theorem firstFailure_append (remoteFile : String) (z : Bytes) (σ τ : Trace) :
    ∃ z', firstFailure remoteFile z (σ ++ τ) =
      (firstFailure remoteFile z σ).or (firstFailure remoteFile z' τ) := by
  induction σ generalizing z with
  | nil => exact ⟨z, rfl⟩
  | cons e σ ih =>
    obtain ⟨q, r⟩ := e
    obtain ⟨z', both⟩ := ih (bytesRead z q r)
    exact ⟨z', by rw [List.cons_append, firstFailure, firstFailure, both, Option.or_assoc]⟩

theorem firstFailure_after (fine : firstFailure remoteFile z σ = none) (τ : Trace) :
    ∃ z', firstFailure remoteFile z (σ ++ τ) = firstFailure remoteFile z' τ := by
  obtain ⟨z', both⟩ := firstFailure_append remoteFile z σ τ
  exact ⟨z', by rw [both, fine, Option.none_or]⟩

def primary : FetchError → FetchError
  | .step s cause _ => .step s cause []
  | e => e

def remoteLeft : List CleanupError → List String :=
  List.filterMap fun e => match e with
    | .remote path _ => some path
    | .onDisk _ _ => none

@[simp] theorem remoteLeft_append (c c' : List CleanupError) :
    remoteLeft (c ++ c') = remoteLeft c ++ remoteLeft c' :=
  List.filterMap_append

@[simp] theorem remoteLeft_leftLocal (path : String) (r : Except Local.IoError Unit) :
    remoteLeft (leftLocal path r) = [] := by
  cases r <;> rfl

/-- The scratch file is gone, or it is reported, and no other one. -/
def Told (Gone : S → Prop) (scratch : String) (cleanup : List CleanupError) (s : S) : Prop :=
  Gone s ∨ remoteLeft cleanup = [scratch]

/-- A step has failed, and its failure is the first one. -/
def Blames (remoteFile : String) (z : Bytes) (τ : Trace) (e : FetchError) : Prop :=
  firstFailure remoteFile z τ = some (primary e)

section

variable {Gone : S → Prop} (removes : Removes R p.scratch Gone)
include removes

theorem Removes.told {r : Except SessionError Unit} (asked : R s (.remove p.scratch) r s') :
    Told Gone p.scratch (leftRemote p.scratch r) s' := by
  cases r with
  | ok => exact .inl (removes.removed asked rfl)
  | error e =>
    cases e with
    | notFound => exact .inl (removes.removed asked rfl)
    | unavailable | refused | exec | transfer | timeout => exact .inr rfl

variable (remoteFile z)

theorem Compresses.accounts {a : Except FetchError Unit} :
    Compresses R p s τ a s' →
    execs τ = [Shell.gzipCommand p.remote p.scratch] ∧ match a with
      | .ok () => removals τ = [] ∧ firstFailure remoteFile z τ = none
      | .error e => removals τ = [p.scratch] ∧ Told Gone p.scratch e.cleanup s' ∧
          Blames remoteFile z τ e := by
  intro compresses
  cases compresses with
  | done => exact ⟨rfl, rfl, rfl⟩
  | failed _ removed => exact ⟨rfl, rfl, removes.told removed, rfl⟩

theorem Transfers.accounts {a : Except FetchError Transferred} :
    Transfers R p s τ a s' →
    execs τ = [] ∧ removals τ = [p.scratch] ∧ match a with
      | .ok x => Told Gone p.scratch x.cleanup s' ∧ firstFailure remoteFile z τ = none
      | .error e => Told Gone p.scratch e.cleanup s' ∧ Blames remoteFile z τ e := by
  intro transfers
  cases transfers with
  | uncreated _ removed => exact ⟨rfl, rfl, removes.told removed, rfl⟩
  | failed _ _ removed removedLocal =>
    refine ⟨rfl, rfl, (removes.told removed).imp (removes.disk removedLocal) fun left => ?_, rfl⟩
    simpa [FetchError.cleanup] using left
  | done _ _ removed => exact ⟨rfl, rfl, removes.told removed, rfl⟩

theorem Writes.accounts {a : Except Local.IoError Nat} :
    Writes R path z s τ a s' →
    execs τ = [] ∧ removals τ = [] ∧ (Gone s → Gone s') ∧
      firstFailure remoteFile z τ = errorOf (fun e => .step .decompress (.io e) []) a := by
  intro writes
  cases writes with
  | unwritten unwritten => exact ⟨rfl, rfl, removes.disk unwritten, rfl⟩
  | unfinished undecoded written =>
    refine ⟨rfl, rfl, removes.disk written, ?_⟩
    simp [firstFailure, failure?, errorOf, undecoded]
  | unsynced decoded written unsynced =>
    refine ⟨rfl, rfl, fun gone => removes.disk unsynced (removes.disk written gone), ?_⟩
    simp [firstFailure, failure?, errorOf, decoded]
  | done decoded written synced =>
    refine ⟨rfl, rfl, fun gone => removes.disk synced (removes.disk written gone), ?_⟩
    simp [firstFailure, failure?, errorOf, decoded]

theorem Expands.accounts {source directory : String} {a : Except Local.IoError (String × Nat)} :
    Expands R source directory s τ a s' →
    execs τ = [] ∧ removals τ = [] ∧ (Gone s → Gone s') ∧
      firstFailure remoteFile z τ = errorOf (fun e => .step .decompress (.io e) []) a := by
  intro expands
  cases expands with
  | unread unread => exact ⟨rfl, rfl, removes.disk unread, rfl⟩
  | uncreated read uncreated =>
    exact ⟨rfl, rfl, fun gone => removes.disk uncreated (removes.disk read gone), rfl⟩
  | @failed z' path σ e r t u v w read created failed removed =>
    obtain ⟨noExec, noRemoval, still, blamed⟩ := failed.accounts remoteFile z' removes
    obtain ⟨z'', both⟩ := firstFailure_append remoteFile z' σ [⟨.disk (.remove path), r⟩]
    refine ⟨?_, ?_, fun gone => removes.disk removed (still (removes.disk created
      (removes.disk read gone))), ?_⟩
    · exact (execs_append σ [⟨.disk (.remove path), r⟩]).trans (by rw [noExec]; rfl)
    · exact (removals_append σ [⟨.disk (.remove path), r⟩]).trans (by rw [noRemoval]; rfl)
    · simp [firstFailure, failure?, bytesRead, errorOf, both, blamed]
  | @done z' path σ n t u v read created written =>
    obtain ⟨noExec, noRemoval, still, fine⟩ := written.accounts remoteFile z' removes
    refine ⟨noExec, noRemoval, fun gone => still (removes.disk created (removes.disk read gone)),
      ?_⟩
    simp [firstFailure, failure?, bytesRead, errorOf, fine]

theorem Decompresses.accounts {x : Transferred} {a : Except FetchError Expanded}
    (told : Told Gone p.scratch x.cleanup s) :
    Decompresses R p x s τ a s' →
    execs τ = [] ∧ removals τ = [] ∧ match a with
      | .ok y => Told Gone p.scratch y.cleanup s' ∧ firstFailure remoteFile z τ = none
      | .error e => Told Gone p.scratch e.cleanup s' ∧ Blames remoteFile z τ e := by
  intro decompresses
  cases decompresses with
  | @failed σ e r u v failed removed =>
    obtain ⟨noExec, noRemoval, still, blamed⟩ := failed.accounts remoteFile z removes
    obtain ⟨z', both⟩ := firstFailure_append remoteFile z σ [⟨.disk (.remove x.path), r⟩]
    refine ⟨by rw [execs_append, noExec]; rfl, by rw [removals_append, noRemoval]; rfl, ?_, ?_⟩
    · refine told.imp (fun gone => removes.disk removed (still gone)) fun left => ?_
      simpa [FetchError.cleanup] using left
    · rw [Blames, both, blamed]
      rfl
  | @done σ path n r u v expanded removed =>
    obtain ⟨noExec, noRemoval, still, fine⟩ := expanded.accounts remoteFile z removes
    obtain ⟨z', both⟩ := firstFailure_append remoteFile z σ [⟨.disk (.remove x.path), r⟩]
    refine ⟨by rw [execs_append, noExec]; rfl, by rw [removals_append, noRemoval]; rfl, ?_, ?_⟩
    · refine told.imp (fun gone => removes.disk removed (still gone)) fun left => ?_
      simpa using left
    · rw [both, fine]
      rfl

theorem Installs.accounts {y : Expanded} {a : Except FetchError Unit}
    (told : Told Gone p.scratch y.cleanup s) :
    Installs R y target s τ a s' →
    execs τ = [] ∧ removals τ = [] ∧ match a with
      | .ok () => Told Gone p.scratch y.cleanup s' ∧ firstFailure remoteFile z τ = none
      | .error e => Told Gone p.scratch e.cleanup s' ∧ Blames remoteFile z τ e := by
  intro installs
  cases installs with
  | done renamed => exact ⟨rfl, rfl, told.imp_left (removes.disk renamed), rfl⟩
  | failed failed removed =>
    refine ⟨rfl, rfl, ?_, rfl⟩
    refine told.imp (fun gone => removes.disk removed (removes.disk failed gone)) fun left => ?_
    simpa [FetchError.cleanup] using left

end

def cleanupOf : Except FetchError Report → List CleanupError
  | .ok report => report.cleanup
  | .error e => e.cleanup

def primary? : Except FetchError Report → Option FetchError
  | .ok _ => none
  | .error e => some (primary e)

theorem Transfers.accounts_rest (remoteFile : String) (z : Bytes) {Gone : S → Prop} {t u : S}
    {x : Transferred} {σ₁ σ₂ : Trace} (removes : Removes R p.scratch Gone)
    (compressed : Compresses R p s σ₁ (.ok ()) t) (transferred : Transfers R p t σ₂ (.ok x) u)
    (τ : Trace) :
    execs (σ₁ ++ (σ₂ ++ τ)) = Shell.gzipCommand p.remote p.scratch :: execs τ ∧
      removals (σ₁ ++ (σ₂ ++ τ)) = p.scratch :: removals τ ∧ Told Gone p.scratch x.cleanup u ∧
      ∃ z', firstFailure remoteFile z (σ₁ ++ (σ₂ ++ τ)) = firstFailure remoteFile z' τ := by
  obtain ⟨ran, none₁, fine₁⟩ := compressed.accounts remoteFile z removes
  obtain ⟨z₁, first⟩ := firstFailure_after fine₁ (σ₂ ++ τ)
  obtain ⟨none₂, removed, told, fine₂⟩ := transferred.accounts remoteFile z₁ removes
  obtain ⟨z₂, second⟩ := firstFailure_after fine₂ τ
  exact ⟨by simp [ran, none₂], by simp [none₁, removed], told, z₂, first.trans second⟩

theorem Carries.accounts (remoteFile : String) (z : Bytes) {Gone : S → Prop}
    (removes : Removes R p.scratch Gone) {start : Nat} {result : Except FetchError Report}
    (carries : Carries R p target start s τ result s') :
    execs τ = [Shell.gzipCommand p.remote p.scratch] ∧ removals τ = [p.scratch] ∧
      Told Gone p.scratch (cleanupOf result) s' ∧ firstFailure remoteFile z τ = primary? result := by
  cases carries with
  | compress failed => exact failed.accounts remoteFile z removes
  | @transfer σ₁ σ₂ e t u compressed failed =>
    obtain ⟨ran, none₁, fine₁⟩ := compressed.accounts remoteFile z removes
    obtain ⟨z', first⟩ := firstFailure_after fine₁ σ₂
    obtain ⟨none₂, removed, told, blamed⟩ := failed.accounts remoteFile z' removes
    exact ⟨by simp [ran, none₂], by simp [none₁, removed], told, first.trans blamed⟩
  | @decompress σ₁ σ₂ σ₃ x e t u v compressed transferred failed =>
    obtain ⟨ran, removed, told, z', before⟩ :=
      transferred.accounts_rest remoteFile z removes compressed σ₃
    obtain ⟨none₁, none₂, told, blamed⟩ := failed.accounts remoteFile _ removes told
    exact ⟨by rw [ran, none₁], by rw [removed, none₂], told, before.trans blamed⟩
  | @install σ₁ σ₂ σ₃ σ₄ x y e t u v w compressed transferred decompressed failed =>
    obtain ⟨ran, removed, told, z₁, before⟩ :=
      transferred.accounts_rest remoteFile z removes compressed (σ₃ ++ σ₄)
    obtain ⟨none₁, none₂, told, fine⟩ := decompressed.accounts remoteFile z₁ removes told
    obtain ⟨z₂, after⟩ := firstFailure_after fine σ₄
    obtain ⟨none₃, none₄, told, blamed⟩ := failed.accounts remoteFile _ removes told
    exact ⟨by simp [ran, none₁, none₃], by simp [removed, none₂, none₄], told,
      before.trans (after.trans blamed)⟩
  | @done σ₁ σ₂ σ₃ σ₄ x y now t u v w w' compressed transferred decompressed installed clock =>
    obtain ⟨ran, removed, told, z₁, before⟩ :=
      transferred.accounts_rest remoteFile z removes compressed (σ₃ ++ (σ₄ ++ [⟨.clock, now⟩]))
    obtain ⟨none₁, none₂, told, fine₁⟩ := decompressed.accounts remoteFile z₁ removes told
    obtain ⟨z₂, after⟩ := firstFailure_after fine₁ (σ₄ ++ [⟨.clock, now⟩])
    obtain ⟨none₃, none₄, told, fine₂⟩ := installed.accounts remoteFile z₂ removes told
    obtain ⟨z₃, last⟩ := firstFailure_after fine₂ [⟨.clock, now⟩]
    have fine := before.trans (after.trans (last.trans rfl))
    refine ⟨?_, ?_, told.imp_left (removes.clock clock), fine⟩
    · rw [ran, execs_append, execs_append, none₁, none₃]
      rfl
    · rw [removed, removals_append, removals_append, none₂, none₄]
      rfl

/-- Whatever faults the host in memory has: a fetch that has had something compressed asks once for
the removal of the scratch file, which is gone in the end or reported; and the error is that of the
step that failed first. -/
theorem no_silent_leftover {unlinks : Prop} {remoteFile target : String}
    {s s' : Memory.Server × Local.Disk} {τ : Trace} {result : Except FetchError Report}
    (run : Run Memory.Rig.relation unlinks remoteFile target s τ result s') :
    (execs τ = [] ∧ removals τ = [] ∧ cleanupOf result = [] ∨
      ∃ home token, ⟨.home, some home⟩ ∈ τ ∧ ⟨.random tokenBound, token⟩ ∈ τ ∧
        execs τ = [Shell.gzipCommand (Path.expandHome home remoteFile) (scratchFile home token)] ∧
        removals τ = [scratchFile home token] ∧
        (s'.1.file? (scratchFile home token) = none ∨
          remoteLeft (cleanupOf result) = [scratchFile home token])) ∧
      firstFailure remoteFile [] τ = primary? result := by
  cases course_runs run with
  | disconnected => exact ⟨.inl ⟨rfl, rfl, rfl⟩, rfl⟩
  | homeless => exact ⟨.inl ⟨rfl, rfl, rfl⟩, rfl⟩
  | nameless _ _ _ nameless =>
    refine ⟨.inl ⟨rfl, rfl, rfl⟩, ?_⟩
    simp [firstFailure, failure?, nameless, primary?, primary]
  | placeless _ _ _ named =>
    refine ⟨.inl ⟨rfl, rfl, rfl⟩, ?_⟩
    simp [firstFailure, failure?, named, errorOf, primary?, primary]
  | @carried start token home σ result t u v w x y _ _ _ named _ _ carries =>
    obtain ⟨ran, removed, told, blamed⟩ := Carries.accounts remoteFile []
      (p := ⟨Path.expandHome home remoteFile, scratchFile home token, directoryOf target⟩)
      (Memory.Rig.removes unlinks (scratchFile home token)) carries
    refine ⟨.inr ⟨home, token, by simp, by simp, ran, removed, told⟩, ?_⟩
    simp [firstFailure, failure?, named, errorOf, bytesRead, blamed]

def interrupted : World Memory.Server where
  session := {
    status := ⟨.connected, none, some "/home/dev", 1⟩
    slot := some ⟨1, "/home/dev", false, {}, 1⟩
  }
  disk := { nodes := [(["d"], .directory)] }
  host := { files := [("/a", ⟨[104, 105], 0⟩)], failTransfer := true }

/-- After the loss of the link the scratch file cannot be removed. It is reported, and the error is
that of the transfer all the same. -/
theorem no_silent_leftover_interrupted :
    let ended := interrupted.run Memory.Server.answer (fetchTo "/a" "/d/a")
    remoteLeft (cleanupOf ended.1) = [scratchFile "/home/dev" 1] ∧ ∃ τ scratch,
      removals τ = [scratch] ∧
      (ended.2.host.file? scratch = none ∨ remoteLeft (cleanupOf ended.1) = [scratch]) ∧
      firstFailure "/a" [] τ = some (.step .transfer
        (.session (.transfer (scratchFile "/home/dev" 1) "channel closed")) []) := by
  have left : remoteLeft (cleanupOf (interrupted.run Memory.Server.answer (fetchTo "/a" "/d/a")).1) =
      [scratchFile "/home/dev" 1] := by
    decide +kernel
  have cause : primary? (interrupted.run Memory.Server.answer (fetchTo "/a" "/d/a")).1 =
      some (.step .transfer
        (.session (.transfer (scratchFile "/home/dev" 1) "channel closed")) []) := by
    decide +kernel
  obtain ⟨τ, run⟩ := Run.of_world Memory.Server.answer Memory.Rig.relation
    Memory.Rig.relation_server True "/a" "/d/a" interrupted
  dsimp only
  generalize interrupted.run Memory.Server.answer (fetchTo "/a" "/d/a") = ended at left cause run ⊢
  obtain ⟨⟨_, _, nothing⟩ | ⟨home, token, _, _, _, removed, told⟩, blamed⟩ :=
    no_silent_leftover run
  · rw [nothing] at left
    cases left
  · exact ⟨left, τ, scratchFile home token, removed, told, blamed.trans cause⟩

end RemoteTags.Fetch
