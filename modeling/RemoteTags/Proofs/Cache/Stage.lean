import RemoteTags.Proofs.Cache.Plan

/-! The stages of a preload. Each question that it asks takes it from one stage to the next, so that
an invariant of a run needs one case for each question. -/

namespace RemoteTags.Cache

inductive Stage where
  | begun
  | looking
  | checking (mtime : Int)
  | validating (mtime now : Int)
  | fetching (mtime : Int)
  | keeping (mtime : Int) (bytes : Bytes)
  | storing (mtime : Int) (bytes : Bytes) (now : Int)
  | ended (r : Except SessionError Unit)

namespace Stage

def rest (path : String) : Stage → Plan (Except SessionError Unit)
  | begun => plan path
  | looking => look path
  | checking mtime => check path mtime
  | validating mtime now => validated path mtime now
  | fetching mtime => fetch path mtime
  | keeping mtime bytes => keep path mtime bytes
  | storing mtime bytes now =>
    .ask (.store (.insert ⟨path, mtime, now, now, Utf8.lossyString bytes⟩)) fun _ => .done (.ok ())
  | ended r => .done r

inductive Goes (path : String) : Stage → (a : Ask) → a.Reply → Stage → Prop where
  | online : Goes path begun .connected true looking
  | offline : Goes path begun .connected false (ended (.error .notConnected))
  | seen (mtime : Int) : Goes path looking (.stat path) (.ok mtime) (checking mtime)
  | unavailable (reason : String) :
      Goes path looking (.stat path) (.error (.unavailable reason))
        (ended (.error (.unavailable reason)))
  | unseen (e : SessionError) : Goes path looking (.stat path) (.error e) (checking 0)
  | timed (mtime : Int) (time : Nat) :
      Goes path (checking mtime) .clock time (validating mtime (seconds time))
  | hit (mtime now : Int) :
      Goes path (validating mtime now) (.store (.validate path mtime now)) true (ended (.ok ()))
  | miss (mtime now : Int) :
      Goes path (validating mtime now) (.store (.validate path mtime now)) false (fetching mtime)
  | read (mtime : Int) (bytes : Bytes) :
      Goes path (fetching mtime) (.read path) (.ok bytes) (keeping mtime bytes)
  | failed (mtime : Int) (e : SessionError) :
      Goes path (fetching mtime) (.read path) (.error e) (ended (.error e))
  | dated (mtime : Int) (bytes : Bytes) (time : Nat) :
      Goes path (keeping mtime bytes) .clock time (storing mtime bytes (seconds time))
  | stored (mtime : Int) (bytes : Bytes) (now : Int) :
      Goes path (storing mtime bytes now)
        (.store (.insert ⟨path, mtime, now, now, Utf8.lossyString bytes⟩)) () (ended (.ok ()))

theorem goes {σ : Stage} {path : String} {a : Ask}
    {next : a.Reply → Plan (Except SessionError Unit)} (asks : σ.rest path = .ask a next) (r : a.Reply) :
    ∃ σ' : Stage, next r = σ'.rest path ∧ Goes path σ a r σ' := by
  cases σ with
  | begun =>
    cases asks
    match r with
    | true => exact ⟨_, rfl, .online⟩
    | false => exact ⟨_, rfl, .offline⟩
  | looking =>
    cases asks
    match r with
    | .ok mtime => exact ⟨_, rfl, .seen mtime⟩
    | .error (.unavailable reason) => exact ⟨_, rfl, .unavailable reason⟩
    | .error (.notFound _) | .error (.refused _) | .error (.exec _ _) | .error (.transfer _ _)
    | .error (.timeout _ _) => exact ⟨_, rfl, .unseen _⟩
  | checking mtime =>
    cases asks
    exact ⟨_, rfl, .timed mtime r⟩
  | validating mtime now =>
    cases asks
    match r with
    | true => exact ⟨_, rfl, .hit mtime now⟩
    | false => exact ⟨_, rfl, .miss mtime now⟩
  | fetching mtime =>
    cases asks
    match r with
    | .ok bytes => exact ⟨_, rfl, .read mtime bytes⟩
    | .error e => exact ⟨_, rfl, .failed mtime e⟩
  | keeping mtime bytes =>
    cases asks
    exact ⟨_, rfl, .dated mtime bytes r⟩
  | storing mtime bytes now =>
    cases asks
    exact ⟨_, rfl, .stored mtime bytes now⟩
  | ended r => cases asks

end Stage

/-- What a caller has still to do, where `P` holds of the stage of every preload. -/
inductive Tracks (P : String → Stage → Prop) : Caller → Prop where
  | preload {path : String} {σ : Stage} (holds : P path σ) : Tracks P ⟨.preload path, σ.rest path⟩
  | invalidate (path : String) : Tracks P ⟨.invalidate path, (Call.invalidate path).plan⟩
  | invalidated (path : String) (r : Bool) : Tracks P ⟨.invalidate path, .done r⟩
  | flush : Tracks P ⟨.flush, Call.flush.plan⟩
  | flushed : Tracks P ⟨.flush, .done ()⟩

theorem Tracks.mono {P Q : String → Stage → Prop} {c : Caller} (t : Tracks P c)
    (sub : ∀ path σ, P path σ → Q path σ) : Tracks Q c := by
  cases t with
  | preload holds => exact .preload (sub _ _ holds)
  | invalidate path => exact .invalidate path
  | invalidated path r => exact .invalidated path r
  | flush => exact .flush
  | flushed => exact .flushed

theorem Tracks.start {P : String → Stage → Prop} (begun : ∀ path, P path .begun) (c : Call) :
    Tracks P ⟨c, c.plan⟩ := by
  cases c with
  | preload path => exact .preload (begun path)
  | invalidate path => exact .invalidate path
  | flush => exact .flush

theorem Tracks.ask_cases {P : String → Stage → Prop} {c : Caller} {a : Ask}
    {next : a.Reply → Plan c.call.Answer} (t : Tracks P c) (asks : c.rest = .ask a next)
    (r : a.Reply) :
    (∃ path σ σ', c.call = .preload path ∧ P path σ ∧ Stage.Goes path σ a r σ' ∧
      ∀ Q : String → Stage → Prop, Q path σ' → Tracks Q ⟨c.call, next r⟩) ∨
    ((∃ path, a = .store (.invalidate path)) ∨ a = .store .flush) ∧
      ∀ Q : String → Stage → Prop, Tracks Q ⟨c.call, next r⟩ := by
  cases t with
  | @preload path σ holds =>
    obtain ⟨σ', same, goes⟩ := Stage.goes asks r
    refine .inl ⟨path, σ, σ', rfl, holds, goes, fun Q holds' => ?_⟩
    dsimp only at next same ⊢
    rw [same]
    exact .preload holds'
  | invalidate path =>
    cases asks
    exact .inr ⟨.inl ⟨path, rfl⟩, fun Q => .invalidated path r⟩
  | flush =>
    cases asks
    exact .inr ⟨.inr rfl, fun Q => .flushed⟩
  | invalidated | flushed => cases asks

end RemoteTags.Cache
