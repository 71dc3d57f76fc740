import RemoteTags.Text.Utf8

/-! The store of remote file contents, by remote path. Each entry keeps the modify time that was
observed before its content was read. -/

namespace RemoteTags

structure CachedFile where
  remotePath : String
  -- Seconds since 1970; 0 if it is not known.
  mtime : Int
  -- The second of the clock in which it was read, and that of its last use.
  fetchedAt : Int
  lastAccess : Int
  content : String
deriving DecidableEq, Repr

structure Cache where
  entries : List CachedFile := []
deriving DecidableEq, Repr

namespace Cache

def file? (c : Cache) (path : String) : Option CachedFile :=
  c.entries.find? fun e => e.remotePath = path

def content? (c : Cache) (path : String) : Option String := (c.file? path).map (·.content)

def contains (c : Cache) (path : String) : Bool := (c.file? path).isSome

def size (c : Cache) : Nat := c.entries.length

def erase (c : Cache) (path : String) : Cache :=
  ⟨c.entries.filter fun e => e.remotePath ≠ path⟩

def insert (c : Cache) (e : CachedFile) : Cache := ⟨e :: (c.erase e.remotePath).entries⟩

def touch (c : Cache) (path : String) (now : Int) : Cache :=
  ⟨c.entries.map fun e => if e.remotePath = path then { e with lastAccess := now } else e⟩

/-- Whether the entry of a path is at least as new as `observed`. An older one is removed. -/
def validate (c : Cache) (path : String) (observed now : Int) : Bool × Cache :=
  match c.file? path with
  | none => (false, c)
  | some e => if observed ≤ e.mtime then (true, c.touch path now) else (false, c.erase path)

/-- What an operation does to the store without interruption. -/
inductive Section where
  | validate (path : String) (observed now : Int)
  | insert (e : CachedFile)
  | content (path : String)
  | invalidate (path : String)
  | flush
deriving DecidableEq, Repr

@[reducible] def Section.Reply : Section → Type
  | .validate _ _ _ => Bool
  | .content _ => Option String
  | .invalidate _ => Bool
  | .insert _ | .flush => Unit

def Section.answer : (x : Section) → Cache → x.Reply × Cache
  | .validate path observed now, c => c.validate path observed now
  | .insert e, c => ((), c.insert e)
  | .content path, c => (c.content? path, c)
  | .invalidate path, c => (c.contains path, c.erase path)
  | .flush, _ => ((), ⟨[]⟩)

@[simp] theorem file?_erase_self (c : Cache) (path : String) : (c.erase path).file? path = none := by
  simp [file?, erase]

@[simp] theorem file?_insert_self (c : Cache) (e : CachedFile) :
    (c.insert e).file? e.remotePath = some e := by
  simp [file?, insert]

theorem remotePath_of_file? {c : Cache} {path : String} {e : CachedFile}
    (found : c.file? path = some e) : e.remotePath = path := by
  simpa using List.find?_some found

theorem file?_erase (c : Cache) (path other : String) :
    (c.erase path).file? other = if other = path then none else c.file? other := by
  unfold file? erase
  rw [List.find?_filter]
  split
  · rename_i same
    simp [same]
  · rename_i ne
    congr 1
    funext e
    grind

theorem file?_insert (c : Cache) (e : CachedFile) (other : String) :
    (c.insert e).file? other = if other = e.remotePath then some e else c.file? other := by
  by_cases same : other = e.remotePath
  · rw [if_pos same, same, file?_insert_self]
  · have erased := file?_erase c e.remotePath other
    rw [if_neg same] at erased ⊢
    rw [← erased]
    simp [file?, insert, Ne.symm same]

theorem file?_touch (c : Cache) (path other : String) (now : Int) :
    (c.touch path now).file? other = (c.file? other).map fun e =>
      if e.remotePath = path then { e with lastAccess := now } else e := by
  unfold file? touch
  rw [List.find?_map]
  congr 1
  congr 1
  funext e
  dsimp
  split <;> rfl

theorem file?_answer {x : Section} {c : Cache} {path : String} {e : CachedFile}
    (found : (x.answer c).2.file? path = some e) :
    (∃ old, c.file? path = some old ∧ e.mtime = old.mtime ∧ e.content = old.content) ∨
      x = .insert e := by
  have kept : ∀ {old}, c.file? path = some old → e.mtime = old.mtime → e.content = old.content →
      (∃ old, c.file? path = some old ∧ e.mtime = old.mtime ∧ e.content = old.content) ∨
        x = .insert e := fun was mtime content => .inl ⟨_, was, mtime, content⟩
  have erased : ∀ other, (c.erase other).file? path = some e → c.file? path = some e := by
    intro other found
    rw [file?_erase] at found
    split at found
    · cases found
    · exact found
  cases x with
  | validate other observed now =>
    dsimp only [Section.answer] at found
    unfold validate at found
    split at found
    · exact kept found rfl rfl
    · split at found
      · rw [file?_touch] at found
        obtain ⟨old, was, rfl⟩ := Option.map_eq_some_iff.1 found
        refine kept was ?_ ?_ <;> split <;> rfl
      · exact kept (erased _ found) rfl rfl
  | insert e' =>
    dsimp only [Section.answer] at found
    rw [file?_insert] at found
    split at found
    · cases found
      exact .inr rfl
    · exact kept found rfl rfl
  | content other => exact kept found rfl rfl
  | invalidate other => exact kept (erased _ found) rfl rfl
  | flush => cases found

theorem file?_validate_of_ne {c : Cache} {path other : String} {observed now : Int}
    {entry : CachedFile} (ne : other ≠ path) (found : c.file? other = some entry) :
    (c.validate path observed now).2.file? other = some entry := by
  unfold validate
  split
  · exact found
  · split
    · rw [file?_touch, found, Option.map_some, if_neg]
      rw [remotePath_of_file? found]
      exact ne
    · rw [file?_erase, if_neg ne, found]

theorem validate_of_newer {c : Cache} {path : String} {observed : Int} {entry : CachedFile}
    (found : c.file? path = some entry) (newer : observed ≤ entry.mtime) (now : Int) :
    c.validate path observed now = (true, c.touch path now) := by
  unfold validate
  rw [found]
  exact if_pos newer

theorem exists_file?_touch {c : Cache} {path : String} {entry : CachedFile}
    (found : c.file? path = some entry) (now : Int) :
    ∃ e, (c.touch path now).file? path = some e ∧ e.mtime = entry.mtime := by
  rw [file?_touch, found]
  refine ⟨_, rfl, ?_⟩
  dsimp only
  split <;> rfl

theorem validate_of_older {c : Cache} {path : String} {observed : Int}
    (older : ¬ ∃ e, c.file? path = some e ∧ observed ≤ e.mtime) (now : Int) :
    (c.validate path observed now).1 = false := by
  unfold validate
  split
  · rfl
  · rename_i e found
    rw [if_neg fun newer => older ⟨e, found, newer⟩]

@[simp] theorem content?_touch (c : Cache) (path other : String) (now : Int) :
    (c.touch path now).content? other = c.content? other := by
  unfold content?
  rw [file?_touch, Option.map_map]
  congr 1
  funext e
  dsimp only [Function.comp]
  split <;> rfl

theorem validate_of_hit {c after : Cache} {path : String} {observed now : Int}
    (hit : (true, after) = c.validate path observed now) :
    ∃ e, c.file? path = some e ∧ observed ≤ e.mtime ∧ after.content? path = some e.content := by
  unfold validate at hit
  split at hit
  · cases hit
  · rename_i e found
    split at hit
    · rename_i newer
      cases hit
      refine ⟨e, found, newer, ?_⟩
      rw [content?_touch, content?, found, Option.map_some]
    · cases hit

end Cache

end RemoteTags
