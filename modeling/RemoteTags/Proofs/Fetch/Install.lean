import RemoteTags.Proofs.Fetch.Host
import RemoteTags.Proofs.Fetch.Spared
import RemoteTags.Proofs.Fetch.Steps

/-! A fetch replaces its target as a whole or not at all, whatever fails on the way. Every other
place on the disk stays as it was but for missing parents of the target, and for scratch files
that could not be unlinked. -/

namespace RemoteTags.Fetch
open Local

variable {H : Type} {host : HostRelation H} {unlinks : Prop} {s s' u : H × Disk} {target : String}
  {P P' : String → Prop} {d₀ d d' : Disk} {l m : Location} {path remote : String} {p : Plan}
  {τ : Trace} {c data : Bytes}

/-- A scratch file of this fetch, or its place. -/
structure Owns (d₀ d : Disk) (path : String) (l : Location) : Prop where
  absent : d₀.node? l = none
  leads : d.Leads path l
  file : d.node? l = none ∨ ∃ c, d.node? l = some (.file c)

namespace Owns

theorem free (owns : Owns d₀ d path l) : d.node? l ≠ some .directory := by
  rcases owns.file with nothing | ⟨c, file⟩
  · simp [nothing]
  · simp [file]

theorem elsewhere (owns : Owns d₀ d path l) (same : d'.node? l = d.node? l)
    (keeps : Keeps d d') : Owns d₀ d' path l where
  absent := owns.absent
  leads := owns.leads.of_keeps keeps
  file := by rw [same]; exact owns.file

theorem file_of_read (owns : Owns d₀ d path l) (read : d.read path = .ok data) :
    d.node? l = some (.file data) := by
  rcases owns.file with nothing | ⟨c, file⟩
  · simp [Disk.read_of_nothing owns.leads nothing] at read
  · obtain rfl : c = data := by simpa [Disk.read_of_file owns.leads file] using read
    exact file

end Owns

namespace Since

theorem create (since : Since target P d₀ d) (created : d.createNew path = .ok d') :
    ∃ l, d.node? l = none ∧ d'.node? l = some (.file []) ∧ ChangesAt l d d' ∧
      Owns d₀ d' path l ∧ Since target (fun q => P q ∨ q = path) d₀ d' := by
  obtain ⟨l, leads, absent, rfl⟩ := Disk.createNew_eq_ok created
  have changes := Disk.changesAt_put leads.ne_nil d (.file [])
  have keeps := changes.keeps (by simp [absent])
  have file : (d.put l (.file [])).node? l = some (.file []) := by
    rw [Disk.node?_put leads.ne_nil, if_pos rfl]
  have absent₀ := (since.kept l).of_nothing absent
  refine ⟨l, absent, file, changes, ⟨absent₀, leads.of_keeps keeps, .inr ⟨_, file⟩⟩,
    since.keeps.trans keeps, fun m => ?_⟩
  by_cases here : m = l
  · subst here
    exact .scratch absent₀ file (leads.of_keeps keeps) (.inr rfl)
  · exact (since.kept m).elsewhere (changes.elsewhere m here) keeps fun q inP _ => .inl inP

theorem change (since : Since target P d₀ d) (owns : Owns d₀ d path l) (inP : P path)
    (changes : ChangesAt l d d') (file : d'.node? l = none ∨ ∃ c, d'.node? l = some (.file c)) :
    Owns d₀ d' path l ∧ Since target P d₀ d' := by
  have keeps := changes.keeps owns.free
  have leads := owns.leads.of_keeps keeps
  refine ⟨⟨owns.absent, leads, file⟩, since.keeps.trans keeps, fun m => ?_⟩
  by_cases here : m = l
  · subst here
    rcases file with nothing | ⟨c, file⟩
    · exact .same (nothing.trans owns.absent.symm)
    · exact .scratch owns.absent file leads inP
  · exact (since.kept m).elsewhere (changes.elsewhere m here) keeps fun q inP _ => inP

theorem remove {r : Except IoError Unit} (since : Since target P d₀ d) (owns : Owns d₀ d path l)
    (answers : Call.Answers unlinks d (.remove path) r d')
    (others : ∀ q, P q → q ≠ path → P' q) (left : ¬unlinks → P' path) :
    ChangesAt l d d' ∧ Since target P' d₀ d' := by
  have answered := answers.remove owns.leads owns.file
  cases r with
  | ok =>
    obtain rfl : d' = d.erase l := answered
    have changes := Disk.changesAt_erase owns.leads.ne_nil d
    refine ⟨changes, since.keeps.trans (changes.keeps owns.free), fun m => ?_⟩
    by_cases here : m = l
    · subst here
      refine .same ?_
      rw [Disk.node?_erase owns.leads.ne_nil, if_pos rfl, owns.absent]
    · refine (since.kept m).elsewhere (changes.elsewhere m here) (changes.keeps owns.free) ?_
      rintro q inP leads
      refine others q inP ?_
      rintro rfl
      exact here (owns.leads.unique leads)
  | error e =>
    obtain ⟨rfl, unlinked⟩ := answered
    refine ⟨.refl l d', since.keeps, fun m => ?_⟩
    -- If files can be unlinked, the file was lost before, and its place is as it was at first.
    by_cases here : m = l ∧ d'.node? l = none
    · obtain ⟨rfl, nothing⟩ := here
      exact .same (nothing.trans owns.absent.symm)
    · refine (since.kept m).elsewhere rfl (.refl d') ?_
      rintro q inP leads
      by_cases same : q = path
      · subst same
        refine left fun works => here ⟨owns.leads.unique leads, unlinked works⟩
      · exact others q inP same

end Since

def Made (τ : Trace) (path : String) : Prop :=
  ∃ directory suffix, ⟨.disk (.createScratch directory suffix), .ok path⟩ ∈ τ

theorem Made.of_subset {σ : Trace} (made : Made σ path) (within : σ ⊆ τ) : Made τ path := by
  obtain ⟨directory, suffix, created⟩ := made
  exact ⟨directory, suffix, within created⟩

theorem Compresses.disk {a : Except FetchError Unit} (tidy : Tidy host)
    (compresses : Compresses (Asks host unlinks) p s τ a s') : s'.2 = s.2 := by
  cases compresses with
  | done compressed => exact tidy.exec compressed
  | failed failed removed => exact (tidy.remove removed).trans (tidy.exec failed)

theorem Transfers.since {a : Except FetchError Transferred} (tidy : Tidy host)
    (since : Since target P d₀ s.2) (left : ∀ path, Made τ path → ¬unlinks → P path) :
    Transfers (Asks host unlinks) p s τ a s' → match a with
    | .error _ => Since target P d₀ s'.2
    | .ok x => Made τ x.path ∧ ⟨.fastGet p.scratch x.path, .ok x.bytes⟩ ∈ τ ∧
        ∃ l, Owns d₀ s'.2 x.path l ∧ Since target (fun q => P q ∨ q = x.path) d₀ s'.2 ∧
        ∀ data, s'.2.node? l = some (.file data) → x.bytes = data.length ∧
          ∀ view source, Honest host view source p.scratch → view s.1 p.scratch = some data := by
  intro transfers
  cases transfers with
  | uncreated uncreated removed =>
    have same : _ = s.2 := uncreated.of_disk.2.createScratch
    rwa [tidy.remove removed, same]
  | @failed path e r r' t u v w created failed removed removedLocal =>
    obtain ⟨l, _, file, _, owns, since⟩ := since.create created.of_disk.2.createScratch
    obtain ⟨changes, filled⟩ := tidy.fastGet failed owns.leads file
    obtain ⟨owns, since⟩ := since.change owns (.inr rfl) changes
      (filled.imp_right fun ⟨data, filled, _⟩ => ⟨data, filled⟩)
    rw [← tidy.remove removed] at owns since
    refine (since.remove owns removedLocal.of_disk.2 ?_ (left path ⟨_, _, List.mem_cons_self⟩)).2
    exact fun q inP other => inP.resolve_right other
  | @done path n r t u v created transferred removed =>
    obtain ⟨l, _, empty, _, fresh, since⟩ := since.create created.of_disk.2.createScratch
    obtain ⟨changes, filled⟩ := tidy.fastGet transferred fresh.leads empty
    obtain ⟨owns, since⟩ := since.change fresh (.inr rfl) changes
      (filled.imp_right fun ⟨data, filled, _⟩ => ⟨data, filled⟩)
    rw [← tidy.remove removed] at owns since filled
    refine ⟨⟨_, _, List.mem_cons_self⟩, by simp, l, owns, since, fun data file => ⟨?_, ?_⟩⟩
    · rcases filled with nothing | ⟨data', filled, told⟩
      · simp [nothing] at file
      · obtain rfl : data' = data := by simpa [filled] using file
        exact told n rfl
    · intro view source honest
      rw [tidy.remove removed] at file
      rw [← created.of_disk.1]
      rcases transferred.of_fastGet with ⟨_, ⟨⟩, _⟩ | ⟨_, _, _, called, _⟩ | ⟨_, _, _, _, _, _, ⟨⟩, _⟩
      exact honest.transfers called fresh.leads empty file

theorem Writes.since {z : Bytes} {a : Except IoError Nat}
    (writes : Writes (Asks host unlinks) path z s τ a s') (since : Since target P d₀ s.2)
    (owns : Owns d₀ s.2 path l) (inP : P path) (empty : s.2.node? l = some (.file [])) :
    ChangesAt l s.2 s'.2 ∧ Owns d₀ s'.2 path l ∧ Since target P d₀ s'.2 ∧ ∀ n, a = .ok n →
      ∃ content, Gzip.decode z = .ok content ∧ n = content.length ∧
        s'.2.node? l = some (.file content) := by
  have named := owns.leads.ne_nil
  have written (data : Bytes) : (s.2.put l (.file data)).node? l = some (.file data) := by
    rw [Disk.node?_put named, if_pos rfl]
  have put (data : Bytes) : ChangesAt l s.2 (s.2.put l (.file data)) :=
    Disk.changesAt_put named s.2 (.file data)
  cases writes with
  | unwritten unwritten =>
    obtain same | ⟨n, partly⟩ := unwritten.of_disk.2.append owns.leads empty
    · rw [same]
      exact ⟨.refl l s.2, owns, since, nofun⟩
    · rw [partly]
      obtain ⟨owns, since⟩ := since.change owns inP (put _) (.inr ⟨_, written _⟩)
      exact ⟨put _, owns, since, nofun⟩
  | unfinished undecoded appended =>
    have part := appended.of_disk.2.append owns.leads empty
    dsimp only at part
    rw [part]
    obtain ⟨owns, since⟩ := since.change owns inP (put _) (.inr ⟨_, written _⟩)
    exact ⟨put _, owns, since, nofun⟩
  | unsynced decoded appended unsynced =>
    have whole := appended.of_disk.2.append owns.leads empty
    dsimp only at whole
    rw [unsynced.of_disk.2.sync, whole]
    obtain ⟨owns, since⟩ := since.change owns inP (put _) (.inr ⟨_, written _⟩)
    exact ⟨put _, owns, since, nofun⟩
  | @done content _ _ decoded appended synced =>
    have whole := appended.of_disk.2.append owns.leads empty
    dsimp only [List.nil_append] at whole
    rw [synced.of_disk.2.sync, whole]
    obtain ⟨owns, since⟩ := since.change owns inP (put _) (.inr ⟨_, written _⟩)
    refine ⟨put _, owns, since, ?_⟩
    rintro n ⟨rfl⟩
    exact ⟨content, decoded, rfl, written content⟩

theorem Since.read_create {source directory : String} {z : Bytes} {t : H × Disk}
    (since : Since target P d₀ s.2) (owns : Owns d₀ s.2 source l)
    (read : Asks host unlinks s (.disk (.read source)) (.ok z) t)
    (created : Asks host unlinks t (.disk (.createScratch directory "")) (.ok path) u) :
    s.2.node? l = some (.file z) ∧ ∃ m, l ≠ m ∧ Owns d₀ u.2 source l ∧ Owns d₀ u.2 path m ∧
      u.2.node? m = some (.file []) ∧ Since target (fun q => P q ∨ q = path) d₀ u.2 := by
  obtain ⟨same, read⟩ := read.of_disk.2.read
  have file := owns.file_of_read (read z rfl)
  have created := created.of_disk.2.createScratch
  dsimp only at created
  rw [same] at created
  obtain ⟨m, absent, empty, changes, own, since⟩ := since.create created
  have other : l ≠ m := by
    rintro rfl
    simp [absent] at file
  have keeps := changes.keeps (by simp [absent])
  exact ⟨file, m, other, owns.elsewhere (changes.elsewhere l other) keeps, own, empty, since⟩

theorem Expands.since {source directory : String} {a : Except IoError (String × Nat)}
    (since : Since target P d₀ s.2) (owns : Owns d₀ s.2 source l)
    (left : ∀ path, Made τ path → ¬unlinks → P path) :
    Expands (Asks host unlinks) source directory s τ a s' →
    Owns d₀ s'.2 source l ∧ match a with
    | .error _ => Since target P d₀ s'.2
    | .ok (path, n) => Made τ path ∧ ∃ m data content, m ≠ l ∧ Owns d₀ s'.2 path m ∧
        Since target (fun q => P q ∨ q = path) d₀ s'.2 ∧ s'.2.node? m = some (.file content) ∧
        ⟨.disk (.read source), .ok data⟩ ∈ τ ∧ s.2.node? l = some (.file data) ∧
        Gzip.decode data = .ok content ∧ n = content.length := by
  intro expands
  cases expands with
  | unread unread =>
    rw [unread.of_disk.2.read.1]
    exact ⟨owns, since⟩
  | uncreated read uncreated =>
    have same := uncreated.of_disk.2.createScratch
    dsimp only at same
    rw [same, read.of_disk.2.read.1]
    exact ⟨owns, since⟩
  | @failed z path σ e r t u v w read created failed removed =>
    obtain ⟨_, m, other, owns, own, empty, since⟩ := since.read_create owns read created
    obtain ⟨changes, own, since, _⟩ := failed.since since own (.inr rfl) empty
    have owns := owns.elsewhere (changes.elsewhere l other) (changes.keeps (by simp [empty]))
    obtain ⟨changes, since⟩ := since.remove own removed.of_disk.2
      (fun q inP other => inP.resolve_right other)
      (left path ⟨_, _, List.mem_cons_of_mem _ List.mem_cons_self⟩)
    exact ⟨owns.elsewhere (changes.elsewhere l other) (changes.keeps own.free), since⟩
  | @done z path σ n t u v read created written =>
    obtain ⟨file, m, other, owns, own, empty, since⟩ := since.read_create owns read created
    obtain ⟨changes, own, since, whole⟩ := written.since since own (.inr rfl) empty
    obtain ⟨content, decoded, size, written⟩ := whole n rfl
    refine ⟨owns.elsewhere (changes.elsewhere l other) (changes.keeps (by simp [empty])), ?_⟩
    exact ⟨⟨_, _, List.mem_cons_of_mem _ List.mem_cons_self⟩, m, z, content, other.symm, own,
      since, written, by simp, file, decoded, size⟩

theorem Decompresses.since {x : Transferred} {a : Except FetchError Expanded}
    (since : Since target (fun q => P q ∨ q = x.path) d₀ s.2) (owns : Owns d₀ s.2 x.path l)
    (left : ∀ path, Made τ path → ¬unlinks → P path) (leftX : ¬unlinks → P x.path) :
    Decompresses (Asks host unlinks) p x s τ a s' → match a with
    | .error _ => Since target P d₀ s'.2
    | .ok y => Made τ y.path ∧ ∃ m data content, Owns d₀ s'.2 y.path m ∧
        Since target (fun q => P q ∨ q = y.path) d₀ s'.2 ∧ s'.2.node? m = some (.file content) ∧
        ⟨.disk (.read x.path), .ok data⟩ ∈ τ ∧ s.2.node? l = some (.file data) ∧
        Gzip.decode data = .ok content ∧ y.bytes = content.length := by
  intro decompresses
  cases decompresses with
  | @failed σ e r u v failed removed =>
    obtain ⟨owns, since⟩ := failed.since since owns fun path made fails =>
      .inl (left path (made.of_subset (List.subset_append_left σ _)) fails)
    exact (since.remove owns removed.of_disk.2 (fun q inP other => inP.resolve_right other)
      leftX).2
  | @done σ path n r u v expanded removed =>
    obtain ⟨owns, made, m, data, content, other, own, since, file, read, source, decoded, size⟩ :=
      expanded.since since owns fun path made fails =>
        .inl (left path (made.of_subset (List.subset_append_left σ _)) fails)
    obtain ⟨changes, since⟩ : _ ∧ Since target (fun q => P q ∨ q = path) d₀ s'.2 :=
      since.remove owns removed.of_disk.2
        (fun q inP other => inP.imp_left fun inP => inP.resolve_right other)
        fun fails => .inl (leftX fails)
    have keeps := changes.keeps owns.free
    exact ⟨made.of_subset (List.subset_append_left σ _), m, data, content,
      own.elsewhere (changes.elsewhere m other) keeps, since,
      (changes.elsewhere m other).trans file, by simp [read], source, decoded, size⟩

/-- An installation moves the content to the target at one stroke. -/
theorem Installs.since {x : Expanded} {content : Bytes} {a : Except FetchError Unit}
    (since : Since target (fun q => P q ∨ q = x.path) d₀ s.2) (owns : Owns d₀ s.2 x.path l)
    (file : s.2.node? l = some (.file content)) (left : ¬unlinks → P x.path) :
    Installs (Asks host unlinks) x target s τ a s' → match a with
    | .error _ => Since target P d₀ s'.2
    | .ok () => ∃ m, s'.2.Leads target m ∧ s'.2.node? m = some (.file content) ∧
        ∀ l, l ≠ m → Kept target P d₀ s'.2 l := by
  intro installs
  cases installs with
  | failed failed removed =>
    have same := failed.of_disk.2.rename owns.leads file
    dsimp only at same
    rw [← same] at since owns
    exact (since.remove owns removed.of_disk.2 (fun q inP other => inP.resolve_right other)
      left).2
  | done renamed =>
    obtain ⟨m, leads, free, renamed⟩ := renamed.of_disk.2.rename owns.leads file
    have named := leads.ne_nil
    have erased := Disk.changesAt_erase owns.leads.ne_nil s.2
    have put := Disk.changesAt_put named (s.2.erase l) (.file content)
    rw [← renamed] at put
    -- `m` may be the place of the scratch file itself, which is why it is erased first.
    have keeps : Keeps s.2 s'.2 := by
      refine (erased.keeps owns.free).trans (put.keeps ?_)
      rw [Disk.node?_erase owns.leads.ne_nil]
      split <;> simp [free]
    refine ⟨m, leads.of_keeps keeps, by rw [renamed, Disk.node?_put named, if_pos rfl], ?_⟩
    intro k other
    have elsewhere := put.elsewhere k other
    rw [Disk.node?_erase owns.leads.ne_nil] at elsewhere
    by_cases here : k = l
    · subst here
      rw [if_pos rfl] at elsewhere
      exact .same (elsewhere.trans owns.absent.symm)
    · rw [if_neg here] at elsewhere
      refine (since.kept k).elsewhere elsewhere keeps fun q inP leads => inP.resolve_right ?_
      rintro rfl
      exact here (owns.leads.unique leads)

/-- At `m`, where `target` leads, there is the whole content of what was transferred. -/
structure Installed (target : String) (τ : Trace) (report : Report) (content : Bytes)
    (m : Location) (d : Disk) : Prop where
  localPath : report.localPath = target
  leads : d.Leads target m
  file : d.node? m = some (.file content)
  installedBytes : report.installedBytes = content.length
  transferred : ∃ scratch path data, ⟨.fastGet scratch path, .ok data.length⟩ ∈ τ ∧
    ⟨.disk (.read path), .ok data⟩ ∈ τ ∧ report.compressedBytes = data.length ∧
    Gzip.decode data = .ok content

theorem Installed.of_subset {report : Report} {content : Bytes} {σ : Trace}
    (installed : Installed target σ report content m d) (within : σ ⊆ τ) :
    Installed target τ report content m d where
  localPath := installed.localPath
  leads := installed.leads
  file := installed.file
  installedBytes := installed.installedBytes
  transferred := by
    obtain ⟨scratch, path, data, got, read, size, decoded⟩ := installed.transferred
    exact ⟨scratch, path, data, within got, within read, size, decoded⟩

theorem Compresses.honest {view : H → String → Option Bytes}
    (compressed : Compresses (Asks host unlinks) p s τ (.ok ()) s')
    (honest : Honest host view p.remote p.scratch) :
    ∃ content z, view s.1 p.remote = some content ∧ view s'.1 p.scratch = some z ∧
      Gzip.decode z = .ok content := by
  cases compressed with
  | done ran =>
    rcases ran.of_exec with ⟨_, ⟨⟩, _⟩ | ⟨_, _, _, called, zero, _⟩ | ⟨_, _, _, _, _, _, ⟨⟩, _⟩
    exact honest.compresses called zero

theorem Decompresses.since_transfer {x : Transferred} {a : Except FetchError Expanded}
    {σ₂ σ₃ : Trace} (tidy : Tidy host) (since : Since target P d₀ s.2)
    (left : ∀ path, Made (σ₂ ++ σ₃) path → ¬unlinks → P path)
    (transferred : Transfers (Asks host unlinks) p s σ₂ (.ok x) u) :
    Decompresses (Asks host unlinks) p x u σ₃ a s' → match a with
    | .error _ => Since target P d₀ s'.2
    | .ok y => (¬unlinks → P y.path) ∧ ∃ m data content, Owns d₀ s'.2 y.path m ∧
        Since target (fun q => P q ∨ q = y.path) d₀ s'.2 ∧ s'.2.node? m = some (.file content) ∧
        ⟨.fastGet p.scratch x.path, .ok data.length⟩ ∈ σ₂ ∧
        ⟨.disk (.read x.path), .ok data⟩ ∈ σ₃ ∧ x.bytes = data.length ∧
        Gzip.decode data = .ok content ∧ y.bytes = content.length ∧
        ∀ view source, Honest host view source p.scratch → view s.1 p.scratch = some data := by
  intro decompresses
  have left₂ (path : String) (made : Made σ₂ path) : ¬unlinks → P path :=
    left path (made.of_subset (List.subset_append_left σ₂ σ₃))
  have left₃ (path : String) (made : Made σ₃ path) : ¬unlinks → P path :=
    left path (made.of_subset (List.subset_append_right σ₂ σ₃))
  obtain ⟨made, got, l, owns, since, filled⟩ := transferred.since tidy since left₂
  have decompressed := decompresses.since since owns left₃ (left₂ _ made)
  cases a with
  | error e => exact decompressed
  | ok y =>
    obtain ⟨made, m, data, content, own, since, file, read, source, decoded, size⟩ := decompressed
    obtain ⟨bytes, honestly⟩ := filled data source
    rw [bytes] at got
    exact ⟨left₃ _ made, m, data, content, own, since, file, got, read, bytes, decoded, size,
      honestly⟩

theorem Carries.since {start : Nat} {result : Except FetchError Report} (tidy : Tidy host)
    (since : Since target P d₀ s.2) (left : ∀ path, Made τ path → ¬unlinks → P path) :
    Carries (Asks host unlinks) p target start s τ result s' → match result with
    | .error _ => Since target P d₀ s'.2
    | .ok report => ∃ m content, Installed target τ report content m s'.2 ∧
        (∀ l, l ≠ m → Kept target P d₀ s'.2 l) ∧
        ∀ view, Honest host view p.remote p.scratch → view s.1 p.remote = some content := by
  intro carries
  have leftIn {σ : Trace} (within : ∀ e ∈ σ, e ∈ τ) (path : String) (made : Made σ path) :
      ¬unlinks → P path := left path (made.of_subset within)
  cases carries with
  | compress failed => rwa [failed.disk tidy]
  | transfer compressed failed =>
    rw [← compressed.disk tidy] at since
    exact failed.since tidy since (leftIn (by simp +contextual))
  | decompress compressed transferred failed =>
    rw [← compressed.disk tidy] at since
    exact failed.since_transfer tidy since (leftIn (by simp +contextual)) transferred
  | @install σ₁ σ₂ σ₃ σ₄ x y e t u v w compressed transferred decompressed failed =>
    rw [← compressed.disk tidy] at since
    obtain ⟨leftY, m, data, content, own, since, file, _⟩ := decompressed.since_transfer tidy since
      (leftIn (by simp +contextual [or_imp])) transferred
    exact failed.since since own file leftY
  | @done σ₁ σ₂ σ₃ σ₄ x y now t u v w w' compressed transferred decompressed installed clock =>
    rw [← compressed.disk tidy] at since
    obtain ⟨leftY, m, data, content, own, since, file, got, read, bytes, decoded, size, honestly⟩ :=
      decompressed.since_transfer tidy since (leftIn (by simp +contextual [or_imp])) transferred
    obtain ⟨k, leads, whole, others⟩ := installed.since since own file leftY
    rw [clock.of_clock]
    refine ⟨k, content, ⟨rfl, leads, whole, size, p.scratch, x.path, data, by simp [got],
      by simp [read], bytes, decoded⟩, others, fun view honest => ?_⟩
    obtain ⟨before, z, had, wrote, honest'⟩ := compressed.honest honest
    obtain rfl : data = z := by simpa [wrote] using (honestly view _ honest).symm
    obtain rfl : content = before := by simpa [decoded] using honest'
    exact had

theorem Goes.since {remoteFile : String} {result : Except FetchError Report} (tidy : Tidy host) :
    Goes (Asks host unlinks) remoteFile target s τ result s' → match result with
    | .error _ => Since target (fun path => ¬unlinks ∧ Made τ path) s.2 s'.2
    | .ok report => ∃ m content, Installed target τ report content m s'.2 ∧
        (∀ l, l ≠ m → Kept target (fun path => ¬unlinks ∧ Made τ path) s.2 s'.2 l) ∧
        ∃ home token, ⟨.home, some home⟩ ∈ τ ∧ ⟨.random tokenBound, token⟩ ∈ τ ∧
          ∀ view, Honest host view (Path.expandHome home remoteFile) (scratchFile home token) →
            view s.1 (Path.expandHome home remoteFile) = some content := by
  intro goes
  cases goes with
  | disconnected clock disconnected =>
    rw [disconnected.of_connected, clock.of_clock]
    exact .refl s.2
  | homeless clock connected homeless =>
    rw [homeless.of_home, connected.of_connected, clock.of_clock]
    exact .refl s.2
  | nameless clock connected atHome =>
    rw [atHome.of_home, connected.of_connected, clock.of_clock]
    exact .refl s.2
  | placeless clock connected atHome _ unmade =>
    have grown := unmade.of_disk.2.makeDirectories
    rw [atHome.of_home, connected.of_connected, clock.of_clock] at grown
    exact Since.grow grown
  | @carried start token home σ result t u v w x y clock connected atHome _ made drawn carries =>
    obtain ⟨same, answers⟩ := made.of_disk
    have grown := answers.makeDirectories
    rw [atHome.of_home, connected.of_connected, clock.of_clock] at grown same
    obtain rfl := drawn.of_random
    have within (e) (inσ : e ∈ σ) : e ∈ (⟨.clock, start⟩ :: ⟨.connected, true⟩ ::
        ⟨.home, some home⟩ :: ⟨.disk (.makeDirectories (directoryOf target)), .ok ()⟩ ::
        ⟨.random tokenBound, token⟩ :: σ : Trace) := by simp [inσ]
    have carried := carries.since tidy (Since.grow grown) fun path made (fails : ¬unlinks) =>
      And.intro fails (made.of_subset within)
    cases result with
    | error e => exact carried
    | ok report =>
      obtain ⟨m, content, installed, others, honestly⟩ := carried
      rw [same] at honestly
      exact ⟨m, content, installed.of_subset within, others, home, token, by simp, by simp,
        honestly⟩

/-- Whatever fails, and wherever: if the fetch ends in an error, the target is as it was, and nothing
has become of any place but a missing parent of the target; if it ends well, of no place but the
target's. Scratch files stay behind only if they cannot be unlinked. With a host whose `gzip` is
honest, the target has the content that the remote file had when it was compressed. -/
theorem replaces_target_or_nothing {remoteFile : String} {result : Except FetchError Report}
    (tidy : Tidy host) : Run host unlinks remoteFile target s τ result s' → match result with
    | .error _ => Spared target (fun path => ¬unlinks ∧ Made τ path) s.2 s'.2
    | .ok report => ∃ m content, Installed target τ report content m s'.2 ∧
        (∀ l, l ≠ m → Kept target (fun path => ¬unlinks ∧ Made τ path) s.2 s'.2 l) ∧
        ∃ home token, ⟨.home, some home⟩ ∈ τ ∧ ⟨.random tokenBound, token⟩ ∈ τ ∧
          ∀ view, Honest host view (Path.expandHome home remoteFile) (scratchFile home token) →
            view s.1 (Path.expandHome home remoteFile) = some content := by
  intro run
  have since := (course_runs run).since tidy
  cases result with
  | error e => exact since.spared
  | ok report => exact since

/-- A session with a host that holds one file, and a local directory with an older file of the
same name and with another one. -/
def sample : World Memory.Server where
  session := {
    status := ⟨.connected, none, some "/home/dev", 1⟩
    slot := some ⟨1, "/home/dev", false, {}, 1⟩
  }
  disk := {
    nodes := [(["d"], .directory), (["d", "a"], .file [1, 2, 3]), (["d", "b"], .file [4])]
  }
  host := { files := [("/a", ⟨[104, 105], 0⟩)] }

theorem rooted_sample : sample.disk.Rooted := by
  intro l n there nonempty
  rw [Disk.node?_of_ne_nil nonempty] at there
  simp only [sample, lookup_cons_ite, List.lookup_nil] at there
  split_ifs at there <;> subst l <;> rfl

/-- With the host in memory, which is honest, the target gets the content of the remote file. If
there is no such file, the target keeps its own. -/
theorem replaces_target_in_memory :
    (let ended := sample.run Memory.Server.answer (fetchTo "/a" "/d/a")
      ∃ τ report m, ended.1 = .ok report ∧
        Installed "/d/a" τ report [104, 105] m ended.2.disk ∧
        ∀ l, l ≠ m →
          Kept "/d/a" (fun path => ¬True ∧ Made τ path) sample.disk ended.2.disk l) ∧
      (sample.run Memory.Server.answer (fetchTo "/b" "/d/a")).2.disk.at? "/d/a" =
        some (.file [1, 2, 3]) := by
  have ran (remoteFile : String) := Run.of_world Memory.Server.answer Memory.Server.relation
    (fun _ _ => rfl) True remoteFile "/d/a" sample
  constructor
  · have well : (sample.run Memory.Server.answer (fetchTo "/a" "/d/a")).1.toOption =
        some ⟨"/d/a", 25, 2, [], 0⟩ := by
      decide +kernel
    obtain ⟨τ, run⟩ := ran "/a"
    dsimp only
    generalize sample.run Memory.Server.answer (fetchTo "/a" "/d/a") = ended at well run ⊢
    cases result : ended.1 with
    | error e =>
      rw [result] at well
      cases well
    | ok report =>
      rw [result] at run
      obtain ⟨m, content, installed, others, home, token, _, _, honestly⟩ :=
        replaces_target_or_nothing Memory.Server.tidy run
      have same := honestly _ (Memory.Server.honest _ _)
      have held : sample.host.content? (Path.expandHome home "/a") = some [104, 105] := rfl
      obtain rfl : [104, 105] = content := by simpa [held] using same
      exact ⟨τ, report, m, rfl, installed, others⟩
  · have ill : (sample.run Memory.Server.answer (fetchTo "/b" "/d/a")).1.toOption = none := by
      decide +kernel
    obtain ⟨τ, run⟩ := ran "/b"
    generalize sample.run Memory.Server.answer (fetchTo "/b" "/d/a") = ended at ill run ⊢
    cases result : ended.1 with
    | ok report =>
      rw [result] at ill
      cases ill
    | error e =>
      rw [result] at run
      have spared := replaces_target_or_nothing Memory.Server.tidy run
      have held : sample.disk.at? "/d/a" = some (.file [1, 2, 3]) := by decide +kernel
      rcases spared.straight (by decide +kernel) rooted_sample with same | ⟨_, _, _, _, _, left⟩
      · exact same.trans held
      · exact absurd trivial left.1

/-- A target that goes up again from a directory that is missing. The directory is made on the way,
so that the target leads to it when it is to be replaced. -/
theorem fetchTo_through_missing :
    let ended := sample.run Memory.Server.answer (fetchTo "/a" "/d/x/../x")
    ended.1 = .error (.step .install (.io (.os .isDirectory)) []) ∧
      sample.disk.at? "/d/x/../x" = none ∧
      ended.2.disk.at? "/d/x/../x" = some .directory := by
  decide +kernel

end RemoteTags.Fetch
