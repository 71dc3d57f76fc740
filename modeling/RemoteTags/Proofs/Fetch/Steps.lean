import RemoteTags.Proofs.Fetch.Run

/-! How each step of a fetch can go: what it asks, in which order, and how it ends. Nothing is
assumed about the replies. -/

namespace RemoteTags.Fetch

variable {S : Type} (R : S → (q : Ask) → q.Reply → S → Prop)

inductive Compresses (p : Plan) (s : S) : Trace → Except FetchError Unit → S → Prop where
  | done {out : Remote.Output} {t : S}
      (compressed : R s (.exec (Shell.gzipCommand p.remote p.scratch)) (.ok out) t) :
      Compresses p s [⟨.exec (Shell.gzipCommand p.remote p.scratch), .ok out⟩] (.ok ()) t
  | failed {e : SessionError} {r : Except SessionError Unit} {t u : S}
      (failed : R s (.exec (Shell.gzipCommand p.remote p.scratch)) (.error e) t)
      (removed : R t (.remove p.scratch) r u) :
      Compresses p s
        [⟨.exec (Shell.gzipCommand p.remote p.scratch), .error e⟩, ⟨.remove p.scratch, r⟩]
        (.error (.step .compress (.session e) (leftRemote p.scratch r))) u

inductive Transfers (p : Plan) (s : S) : Trace → Except FetchError Transferred → S → Prop where
  | uncreated {e : Local.IoError} {r : Except SessionError Unit} {t u : S}
      (uncreated : R s (.disk (.createScratch p.directory ".gz")) (.error e) t)
      (removed : R t (.remove p.scratch) r u) :
      Transfers p s
        [⟨.disk (.createScratch p.directory ".gz"), .error e⟩, ⟨.remove p.scratch, r⟩]
        (.error (.step .transfer (.io e) (leftRemote p.scratch r))) u
  | failed {path : String} {e : SessionError} {r : Except SessionError Unit}
      {r' : Except Local.IoError Unit} {t u v w : S}
      (created : R s (.disk (.createScratch p.directory ".gz")) (.ok path) t)
      (failed : R t (.fastGet p.scratch path) (.error e) u)
      (removed : R u (.remove p.scratch) r v) (removedLocal : R v (.disk (.remove path)) r' w) :
      Transfers p s
        [⟨.disk (.createScratch p.directory ".gz"), .ok path⟩, ⟨.fastGet p.scratch path, .error e⟩,
          ⟨.remove p.scratch, r⟩, ⟨.disk (.remove path), r'⟩]
        (.error (.step .transfer (.session e) (leftRemote p.scratch r ++ leftLocal path r'))) w
  | done {path : String} {n : Nat} {r : Except SessionError Unit} {t u v : S}
      (created : R s (.disk (.createScratch p.directory ".gz")) (.ok path) t)
      (transferred : R t (.fastGet p.scratch path) (.ok n) u)
      (removed : R u (.remove p.scratch) r v) :
      Transfers p s
        [⟨.disk (.createScratch p.directory ".gz"), .ok path⟩, ⟨.fastGet p.scratch path, .ok n⟩,
          ⟨.remove p.scratch, r⟩]
        (.ok ⟨path, n, leftRemote p.scratch r⟩) v

inductive Writes (target : String) (z : Bytes) (s : S) :
    Trace → Except Local.IoError Nat → S → Prop where
  | unwritten {data : Bytes} {e : Local.IoError} {t : S}
      (unwritten : R s (.disk (.append target data)) (.error e) t) :
      Writes target z s [⟨.disk (.append target data), .error e⟩] (.error e) t
  | unfinished {unfinished : Gzip.Unfinished} {t : S}
      (undecoded : Gzip.decode z = .error unfinished)
      (written : R s (.disk (.append target unfinished.part)) (.ok ()) t) :
      Writes target z s [⟨.disk (.append target unfinished.part), .ok ()⟩]
        (.error (.other unfinished.error.message)) t
  | unsynced {content : Bytes} {e : Local.IoError} {t u : S} (decoded : Gzip.decode z = .ok content)
      (written : R s (.disk (.append target content)) (.ok ()) t)
      (unsynced : R t (.disk (.sync target)) (.error e) u) :
      Writes target z s
        [⟨.disk (.append target content), .ok ()⟩, ⟨.disk (.sync target), .error e⟩] (.error e) u
  | done {content : Bytes} {t u : S} (decoded : Gzip.decode z = .ok content)
      (written : R s (.disk (.append target content)) (.ok ()) t)
      (synced : R t (.disk (.sync target)) (.ok ()) u) :
      Writes target z s
        [⟨.disk (.append target content), .ok ()⟩, ⟨.disk (.sync target), .ok ()⟩]
        (.ok content.length) u

inductive Expands (source directory : String) (s : S) :
    Trace → Except Local.IoError (String × Nat) → S → Prop where
  | unread {e : Local.IoError} {t : S} (unread : R s (.disk (.read source)) (.error e) t) :
      Expands source directory s [⟨.disk (.read source), .error e⟩] (.error e) t
  | uncreated {z : Bytes} {e : Local.IoError} {t u : S}
      (read : R s (.disk (.read source)) (.ok z) t)
      (uncreated : R t (.disk (.createScratch directory "")) (.error e) u) :
      Expands source directory s
        [⟨.disk (.read source), .ok z⟩, ⟨.disk (.createScratch directory ""), .error e⟩]
        (.error e) u
  | failed {z : Bytes} {path : String} {σ : Trace} {e : Local.IoError}
      {r : Except Local.IoError Unit} {t u v w : S}
      (read : R s (.disk (.read source)) (.ok z) t)
      (created : R t (.disk (.createScratch directory "")) (.ok path) u)
      (failed : Writes R path z u σ (.error e) v) (removed : R v (.disk (.remove path)) r w) :
      Expands source directory s
        (⟨.disk (.read source), .ok z⟩ :: ⟨.disk (.createScratch directory ""), .ok path⟩ ::
          (σ ++ [⟨.disk (.remove path), r⟩]))
        (.error e) w
  | done {z : Bytes} {path : String} {σ : Trace} {n : Nat} {t u v : S}
      (read : R s (.disk (.read source)) (.ok z) t)
      (created : R t (.disk (.createScratch directory "")) (.ok path) u)
      (written : Writes R path z u σ (.ok n) v) :
      Expands source directory s
        (⟨.disk (.read source), .ok z⟩ :: ⟨.disk (.createScratch directory ""), .ok path⟩ :: σ)
        (.ok (path, n)) v

inductive Decompresses (p : Plan) (t : Transferred) (s : S) :
    Trace → Except FetchError Expanded → S → Prop where
  | failed {σ : Trace} {e : Local.IoError} {r : Except Local.IoError Unit} {u v : S}
      (failed : Expands R t.path p.directory s σ (.error e) u)
      (removed : R u (.disk (.remove t.path)) r v) :
      Decompresses p t s (σ ++ [⟨.disk (.remove t.path), r⟩])
        (.error (.step .decompress (.io e) (t.cleanup ++ leftLocal t.path r))) v
  | done {σ : Trace} {path : String} {n : Nat} {r : Except Local.IoError Unit} {u v : S}
      (expanded : Expands R t.path p.directory s σ (.ok (path, n)) u)
      (removed : R u (.disk (.remove t.path)) r v) :
      Decompresses p t s (σ ++ [⟨.disk (.remove t.path), r⟩])
        (.ok ⟨path, n, t.cleanup ++ leftLocal t.path r⟩) v

inductive Installs (x : Expanded) (target : String) (s : S) :
    Trace → Except FetchError Unit → S → Prop where
  | done {t : S} (renamed : R s (.disk (.rename x.path target)) (.ok ()) t) :
      Installs x target s [⟨.disk (.rename x.path target), .ok ()⟩] (.ok ()) t
  | failed {e : Local.IoError} {r : Except Local.IoError Unit} {t u : S}
      (failed : R s (.disk (.rename x.path target)) (.error e) t)
      (removed : R t (.disk (.remove x.path)) r u) :
      Installs x target s
        [⟨.disk (.rename x.path target), .error e⟩, ⟨.disk (.remove x.path), r⟩]
        (.error (.step .install (.io e) (x.cleanup ++ leftLocal x.path r))) u

/-- The plan is carried out up to the first step that fails. -/
inductive Carries (p : Plan) (target : String) (start : Nat) (s : S) :
    Trace → Except FetchError Report → S → Prop where
  | compress {σ : Trace} {e : FetchError} {t : S} (failed : Compresses R p s σ (.error e) t) :
      Carries p target start s σ (.error e) t
  | transfer {σ₁ σ₂ : Trace} {e : FetchError} {t u : S}
      (compressed : Compresses R p s σ₁ (.ok ()) t) (failed : Transfers R p t σ₂ (.error e) u) :
      Carries p target start s (σ₁ ++ σ₂) (.error e) u
  | decompress {σ₁ σ₂ σ₃ : Trace} {x : Transferred} {e : FetchError} {t u v : S}
      (compressed : Compresses R p s σ₁ (.ok ()) t) (transferred : Transfers R p t σ₂ (.ok x) u)
      (failed : Decompresses R p x u σ₃ (.error e) v) :
      Carries p target start s (σ₁ ++ (σ₂ ++ σ₃)) (.error e) v
  | install {σ₁ σ₂ σ₃ σ₄ : Trace} {x : Transferred} {y : Expanded} {e : FetchError} {t u v w : S}
      (compressed : Compresses R p s σ₁ (.ok ()) t) (transferred : Transfers R p t σ₂ (.ok x) u)
      (decompressed : Decompresses R p x u σ₃ (.ok y) v)
      (failed : Installs R y target v σ₄ (.error e) w) :
      Carries p target start s (σ₁ ++ (σ₂ ++ (σ₃ ++ σ₄))) (.error e) w
  | done {σ₁ σ₂ σ₃ σ₄ : Trace} {x : Transferred} {y : Expanded} {now : Nat} {t u v w w' : S}
      (compressed : Compresses R p s σ₁ (.ok ()) t) (transferred : Transfers R p t σ₂ (.ok x) u)
      (decompressed : Decompresses R p x u σ₃ (.ok y) v)
      (installed : Installs R y target v σ₄ (.ok ()) w) (clock : R w .clock now w') :
      Carries p target start s (σ₁ ++ (σ₂ ++ (σ₃ ++ (σ₄ ++ [⟨.clock, now⟩]))))
        (.ok ⟨target, x.bytes, y.bytes, y.cleanup, now - start⟩) w'

/-- The fetch is given up before anything is compressed, or its plan is carried out. -/
inductive Goes (remoteFile target : String) (s : S) :
    Trace → Except FetchError Report → S → Prop where
  | disconnected {start : Nat} {t u : S} (clock : R s .clock start t)
      (disconnected : R t .connected false u) :
      Goes remoteFile target s [⟨.clock, start⟩, ⟨.connected, false⟩] (.error .notConnected) u
  | homeless {start : Nat} {t u v : S} (clock : R s .clock start t)
      (connected : R t .connected true u) (homeless : R u .home none v) :
      Goes remoteFile target s [⟨.clock, start⟩, ⟨.connected, true⟩, ⟨.home, none⟩]
        (.error .notConnected) v
  | nameless {start : Nat} {home : String} {t u v : S} (clock : R s .clock start t)
      (connected : R t .connected true u) (atHome : R u .home (some home) v)
      (nameless : (Path.baseName? (Path.expandHome home remoteFile)).isNone) :
      Goes remoteFile target s [⟨.clock, start⟩, ⟨.connected, true⟩, ⟨.home, some home⟩]
        (.error (.invalidRemotePath remoteFile)) v
  | placeless {start : Nat} {home : String} {e : Local.IoError} {t u v w : S}
      (clock : R s .clock start t) (connected : R t .connected true u)
      (atHome : R u .home (some home) v)
      (named : ¬(Path.baseName? (Path.expandHome home remoteFile)).isNone)
      (unmade : R v (.disk (.makeDirectories (directoryOf target))) (.error e) w) :
      Goes remoteFile target s
        [⟨.clock, start⟩, ⟨.connected, true⟩, ⟨.home, some home⟩,
          ⟨.disk (.makeDirectories (directoryOf target)), .error e⟩]
        (.error (.destination (directoryOf target) e)) w
  | carried {start token : Nat} {home : String} {σ : Trace} {result : Except FetchError Report}
      {t u v w x y : S} (clock : R s .clock start t) (connected : R t .connected true u)
      (atHome : R u .home (some home) v)
      (named : ¬(Path.baseName? (Path.expandHome home remoteFile)).isNone)
      (made : R v (.disk (.makeDirectories (directoryOf target))) (.ok ()) w)
      (drawn : R w (.random tokenBound) token x)
      (carries : Carries R ⟨Path.expandHome home remoteFile, scratchFile home token,
        directoryOf target⟩ target start x σ result y) :
      Goes remoteFile target s
        (⟨.clock, start⟩ :: ⟨.connected, true⟩ :: ⟨.home, some home⟩ ::
          ⟨.disk (.makeDirectories (directoryOf target)), .ok ()⟩ ::
          ⟨.random tokenBound, token⟩ :: σ)
        result y

variable {R} {s s' : S} {τ : Trace} {p : Plan}

theorem compress_runs {a : Except FetchError Unit} (run : (compress p).Runs R s τ a s') :
    Compresses R p s τ a s' := by
  obtain ⟨r, t, _, compressed, rest, rfl⟩ := run.of_ask
  cases r with
  | ok out =>
    obtain ⟨rfl, rfl, rfl⟩ := rest.of_done
    exact .done compressed
  | error e =>
    obtain ⟨r, u, _, removed, done, rfl⟩ := rest.of_ask
    obtain ⟨rfl, rfl, rfl⟩ := done.of_done
    exact .failed compressed removed

theorem transfer_runs {a : Except FetchError Transferred} (run : (transfer p).Runs R s τ a s') :
    Transfers R p s τ a s' := by
  obtain ⟨r, t, _, created, rest, rfl⟩ := run.of_ask
  cases r with
  | error e =>
    obtain ⟨r, u, _, removed, done, rfl⟩ := rest.of_ask
    obtain ⟨rfl, rfl, rfl⟩ := done.of_done
    exact .uncreated created removed
  | ok path =>
    obtain ⟨x, u, _, transferred, rest₁, rfl⟩ := rest.of_ask
    obtain ⟨r, v, _, removed, rest₂, rfl⟩ := rest₁.of_ask
    cases x with
    | ok n =>
      obtain ⟨rfl, rfl, rfl⟩ := rest₂.of_done
      exact .done created transferred removed
    | error e =>
      obtain ⟨r', w, _, removedLocal, done, rfl⟩ := rest₂.of_ask
      obtain ⟨rfl, rfl, rfl⟩ := done.of_done
      exact .failed created transferred removed removedLocal

theorem expandInto_runs {target : String} {z : Bytes} {a : Except Local.IoError Nat}
    (run : (expandInto target z).Runs R s τ a s') : Writes R target z s τ a s' := by
  unfold expandInto at run
  split at run
  · rename_i unfinished undecoded
    obtain ⟨r, t, _, written, rest, rfl⟩ := run.of_ask
    cases r with
    | error e =>
      obtain ⟨rfl, rfl, rfl⟩ := rest.of_done
      exact .unwritten written
    | ok =>
      obtain ⟨rfl, rfl, rfl⟩ := rest.of_done
      exact .unfinished undecoded written
  · rename_i content decoded
    obtain ⟨r, t, _, written, rest, rfl⟩ := run.of_ask
    cases r with
    | error e =>
      obtain ⟨rfl, rfl, rfl⟩ := rest.of_done
      exact .unwritten written
    | ok =>
      obtain ⟨r, u, _, synced, rest₁, rfl⟩ := rest.of_ask
      cases r with
      | error e =>
        obtain ⟨rfl, rfl, rfl⟩ := rest₁.of_done
        exact .unsynced decoded written synced
      | ok =>
        obtain ⟨rfl, rfl, rfl⟩ := rest₁.of_done
        exact .done decoded written synced

theorem expand_runs {source directory : String} {a : Except Local.IoError (String × Nat)}
    (run : (expand source directory).Runs R s τ a s') : Expands R source directory s τ a s' := by
  obtain ⟨r, t, _, read, rest, rfl⟩ := run.of_ask
  cases r with
  | error e =>
    obtain ⟨rfl, rfl, rfl⟩ := rest.of_done
    exact .unread read
  | ok z =>
    obtain ⟨r, u, _, created, rest₁, rfl⟩ := rest.of_ask
    cases r with
    | error e =>
      obtain ⟨rfl, rfl, rfl⟩ := rest₁.of_done
      exact .uncreated read created
    | ok path =>
      obtain ⟨σ, a, v, _, written, rest₂, rfl⟩ :=
        Program.Runs.of_bind (p := expandInto path z) rest₁
      have written := expandInto_runs written
      cases a with
      | ok n =>
        obtain ⟨rfl, rfl, rfl⟩ := rest₂.of_done
        rw [List.append_nil]
        exact .done read created written
      | error e =>
        obtain ⟨r, w, _, removed, done, rfl⟩ := rest₂.of_ask
        obtain ⟨rfl, rfl, rfl⟩ := done.of_done
        exact .failed read created written removed

theorem decompress_runs {t : Transferred} {a : Except FetchError Expanded}
    (run : (decompress p t).Runs R s τ a s') : Decompresses R p t s τ a s' := by
  obtain ⟨σ, expanded, u, _, expands, rest, rfl⟩ := run.of_bind
  have expands := expand_runs expands
  obtain ⟨r, v, _, removed, done, rfl⟩ := rest.of_ask
  cases expanded with
  | error e =>
    obtain ⟨rfl, rfl, rfl⟩ := done.of_done
    exact .failed expands removed
  | ok written =>
    obtain ⟨rfl, rfl, rfl⟩ := done.of_done
    exact .done expands removed

theorem install_runs {x : Expanded} {target : String} {a : Except FetchError Unit}
    (run : (install x target).Runs R s τ a s') : Installs R x target s τ a s' := by
  obtain ⟨r, t, _, renamed, rest, rfl⟩ := run.of_ask
  cases r with
  | ok =>
    obtain ⟨rfl, rfl, rfl⟩ := rest.of_done
    exact .done renamed
  | error e =>
    obtain ⟨r, u, _, removed, done, rfl⟩ := rest.of_ask
    obtain ⟨rfl, rfl, rfl⟩ := done.of_done
    exact .failed renamed removed

theorem carryOut_runs {target : String} {start : Nat} {a : Except FetchError Report}
    (run : (carryOut p target start).Runs R s τ a s') : Carries R p target start s τ a s' := by
  obtain ⟨σ₁, a₁, t, _, compressed, rest, rfl⟩ := run.of_bind
  have compressed := compress_runs compressed
  cases a₁ with
  | error e =>
    obtain ⟨rfl, rfl, rfl⟩ := rest.of_done
    rw [List.append_nil]
    exact .compress compressed
  | ok =>
    obtain ⟨σ₂, a₂, u, _, transferred, rest₁, rfl⟩ := rest.of_bind
    have transferred := transfer_runs transferred
    cases a₂ with
    | error e =>
      obtain ⟨rfl, rfl, rfl⟩ := rest₁.of_done
      rw [List.append_nil]
      exact .transfer compressed transferred
    | ok x =>
      obtain ⟨σ₃, a₃, v, _, decompressed, rest₂, rfl⟩ := rest₁.of_bind
      have decompressed := decompress_runs decompressed
      cases a₃ with
      | error e =>
        obtain ⟨rfl, rfl, rfl⟩ := rest₂.of_done
        rw [List.append_nil]
        exact .decompress compressed transferred decompressed
      | ok y =>
        obtain ⟨σ₄, a₄, w, _, installed, rest₃, rfl⟩ := rest₂.of_bind
        have installed := install_runs installed
        cases a₄ with
        | error e =>
          obtain ⟨rfl, rfl, rfl⟩ := rest₃.of_done
          rw [List.append_nil]
          exact .install compressed transferred decompressed installed
        | ok =>
          obtain ⟨now, w', _, clock, done, rfl⟩ := rest₃.of_ask
          obtain ⟨rfl, rfl, rfl⟩ := done.of_done
          exact .done compressed transferred decompressed installed clock

theorem course_runs {remoteFile target : String} {a : Except FetchError Report}
    (run : (course remoteFile target).Runs R s τ a s') : Goes R remoteFile target s τ a s' := by
  obtain ⟨start, t, _, clock, rest, rfl⟩ := run.of_ask
  obtain ⟨connected, u, _, asked, rest₁, rfl⟩ := rest.of_ask
  cases connected with
  | false =>
    obtain ⟨rfl, rfl, rfl⟩ := rest₁.of_done
    exact .disconnected clock asked
  | true =>
    obtain ⟨home, v, _, atHome, rest₂, rfl⟩ := rest₁.of_ask
    cases home with
    | none =>
      obtain ⟨rfl, rfl, rfl⟩ := rest₂.of_done
      exact .homeless clock asked atHome
    | some home =>
      dsimp only [Program.done_bind] at rest₂
      split at rest₂
      · rename_i nameless
        obtain ⟨rfl, rfl, rfl⟩ := rest₂.of_done
        exact .nameless clock asked atHome nameless
      · rename_i named
        obtain ⟨r, w, _, made, rest₃, rfl⟩ := rest₂.of_ask
        cases r with
        | error e =>
          obtain ⟨rfl, rfl, rfl⟩ := rest₃.of_done
          exact .placeless clock asked atHome named made
        | ok =>
          obtain ⟨token, x, _, drawn, carries, rfl⟩ := rest₃.of_ask
          exact .carried clock asked atHome named made drawn (carryOut_runs carries)

end RemoteTags.Fetch
