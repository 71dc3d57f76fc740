import RemoteTags.Proofs.Effect.Runs
import RemoteTags.Proofs.Session.Traffic

/-! A program with what it sets going: the connects that follow the loss of a link, and the opens
that nobody waits for any more. A turn lets one of them go on by one action, or by one call of its
open. Whose turn it is, what the clock shows, which names are fresh, when an open comes too late and
where the local disk refuses a change is all left open. -/

namespace RemoteTags

structure Task (α : Type) where
  rest : Act α
  opener : Option Session.Opener := none

abbrev Follower := Task (Except ConnectError Unit)

def Follower.start (r : Reconnect) : Follower :=
  { rest := Session.connectAs r.config (some r.generation) }

inductive Mover where
  | main
  | follower (i : Nat)
  | stray (i : Nat)
deriving DecidableEq, Repr

structure Turn where
  mover : Mover := .main
  late : Bool := false
  time : Nat := 0
  tokens : Nat := 0
  refusal : Option Local.IoError := none
deriving DecidableEq, Repr

def Local.Call.refused (e : IoError) : (c : Local.Call) → Option c.Reply
  | .read _ | .readNearest _ | .pathExists _ => none
  | .makeDirectories _ | .createScratch _ _ | .create _ | .append _ _ | .sync _ | .remove _
  | .rename _ _ => some (.error e)

/-- The reply to an action, unless it has to wait for the slot. -/
def World.reply? {H : Type} (host : Host H) (refusal : Option Local.IoError) :
    (q : Action) → World H → Option q.Reply × World H
  | .session x, w =>
    if x.waits && w.session.held then (none, w)
    else (some (x.answer w.session).1, { w with session := (x.answer w.session).2 })
  | .disk c, w =>
    match refusal.bind c.refused with
    | some r => (some r, w)
    | none => (some (w.answer host (.disk c)).1, (w.answer host (.disk c)).2)
  | q, w => (some (w.answer host q).1, (w.answer host q).2)

structure Moved (H α : Type) where
  task : Task α
  world : World H
  heard : Option (Program.Exchange Action Action.Reply) := none
  stray : Option Session.Opener := none

def Task.move {H α : Type} (host : Host H) (turn : Turn) (t : Task α) (w : World H) : Moved H α :=
  match t.rest with
  | .done _ => { task := t, world := w }
  | .ask (.opening c g) next =>
    match t.opener with
    | none => { task := { t with opener := some (Session.openLink c g) }, world := w }
    | some o =>
      if turn.late then
        { task := { rest := next none }, world := w, heard := some ⟨.opening c g, none⟩,
          stray := some o }
      else match o with
        | .done opened =>
          { task := { rest := next (some opened) }, world := w,
            heard := some ⟨.opening c g, some opened⟩ }
        | .ask k resume =>
          { task := { t with opener := some (resume (w.call host k).1) },
            world := (w.call host k).2 }
  | .ask q next =>
    match w.reply? host turn.refusal q with
    | (none, w) => { task := t, world := w }
    | (some r, w) => { task := { t with rest := next r }, world := w, heard := some ⟨q, r⟩ }

inductive Task.Goes {H α : Type} (host : Host H) (turn : Turn) (t : Task α) (w : World H) :
    Moved H α → Prop where
  | stays : Goes host turn t w { task := t, world := w }
  | hears {q : Action} {next : q.Reply → Act α} {r : q.Reply} {w' : World H}
      (asks : t.rest = .ask q next) (other : ∀ c g, q ≠ .opening c g)
      (reply : w.reply? host turn.refusal q = (some r, w')) :
      Goes host turn t w { task := { t with rest := next r }, world := w', heard := some ⟨q, r⟩ }
  | launches {c : Connection} {g : Nat} {next : Option (Except ConnectError Link) → Act α}
      (asks : t.rest = .ask (.opening c g) next) (idle : t.opener = none) :
      Goes host turn t w
        { task := { t with opener := some (Session.openLink c g) }, world := w }
  | leaves {c : Connection} {g : Nat} {next : Option (Except ConnectError Link) → Act α}
      {o : Session.Opener} (asks : t.rest = .ask (.opening c g) next) (runs : t.opener = some o) :
      Goes host turn t w
        { task := { rest := next none }, world := w, heard := some ⟨.opening c g, none⟩,
          stray := some o }
  | opened {c : Connection} {g : Nat} {next : Option (Except ConnectError Link) → Act α}
      {o : Except ConnectError Link} (asks : t.rest = .ask (.opening c g) next)
      (ended : t.opener = some (.done o)) :
      Goes host turn t w
        { task := { rest := next (some o) }, world := w, heard := some ⟨.opening c g, some o⟩ }
  | proceeds {k : Remote.Call} {resume : k.Reply → Session.Opener}
      (runs : t.opener = some (.ask k resume)) :
      Goes host turn t w
        { task := { t with opener := some (resume (w.call host k).1) },
          world := (w.call host k).2 }

inductive World.Replied {H : Type} (host : Host H) (w : World H) :
    (q : Action) → q.Reply → World H → Prop where
  | session (x : Session.Section) (free : (x.waits && w.session.held) = false) :
      Replied host w (.session x) (x.answer w.session).1
        { w with session := (x.answer w.session).2 }
  | remote (k : Remote.Call) : Replied host w (.remote k) (w.call host k).1 (w.call host k).2
  | cache (x : Cache.Section) :
      Replied host w (.cache x) (x.answer w.cache).1 { w with cache := (x.answer w.cache).2 }
  | disk {c : Local.Call} {r : c.Reply} {d : Local.Disk} {n : Nat}
      (answers : (r, d) = w.disk.answer w.tokensAhead c ∨ d = w.disk ∧ ∃ e, c.refused e = some r) :
      Replied host w (.disk c) r { w with disk := d, tokens := n }
  | clock : Replied host w .clock w.time w
  | random (bound : Nat) :
      Replied host w (.random bound) (w.tokens % bound) { w with tokens := w.tokens + 1 }

theorem World.replied_of_reply? {H : Type} {host : Host H} {refusal : Option Local.IoError}
    {q : Action} {r : q.Reply} {w w' : World H} (other : ∀ c g, q ≠ .opening c g)
    (reply : w.reply? host refusal q = (some r, w')) : w.Replied host q r w' := by
  cases q with
  | session x =>
    dsimp only [World.reply?] at reply
    split at reply
    · cases reply
    · rename_i free
      cases reply
      exact .session x (by simpa using free)
  | disk c =>
    dsimp only [World.reply?] at reply
    split at reply
    · rename_i r' refuses
      cases reply
      obtain ⟨e, -, refused⟩ := Option.bind_eq_some_iff.1 refuses
      exact .disk (d := w.disk) (n := w.tokens) (.inr ⟨rfl, e, refused⟩)
    · cases reply
      exact .disk (.inl rfl)
  | opening c g => exact absurd rfl (other c g)
  | remote k =>
    cases reply
    exact .remote k
  | cache x =>
    cases reply
    exact .cache x
  | clock =>
    cases reply
    exact .clock
  | random bound =>
    cases reply
    exact .random bound

theorem World.reply?_none {H : Type} {host : Host H} {refusal : Option Local.IoError} {q : Action}
    {w w' : World H} (waits : w.reply? host refusal q = (none, w')) : w' = w := by
  cases q with
  | session x =>
    dsimp only [World.reply?] at waits
    split at waits
    · cases waits
      rfl
    · cases waits
  | disk c =>
    dsimp only [World.reply?] at waits
    split at waits <;> cases waits
  | _ => cases waits

theorem Task.move_of_ask {H α : Type} (host : Host H) (turn : Turn) (t : Task α) (w : World H)
    {q : Action} {next : q.Reply → Act α} (asks : t.rest = .ask q next)
    (other : ∀ c g, q ≠ .opening c g) :
    t.move host turn w = match w.reply? host turn.refusal q with
      | (none, w) => { task := t, world := w }
      | (some r, w) =>
        { task := { t with rest := next r }, world := w, heard := some ⟨q, r⟩ } := by
  obtain ⟨rest, opener⟩ := t
  subst asks
  cases q with
  | opening c g => exact absurd rfl (other c g)
  | _ => rfl

theorem Task.move_goes {H α : Type} (host : Host H) (turn : Turn) (t : Task α) (w : World H) :
    t.Goes host turn w (t.move host turn w) := by
  cases asks : t.rest with
  | done a =>
    rw [Task.move, asks]
    exact .stays
  | ask q next =>
    by_cases opens : ∃ c g, q = .opening c g
    · obtain ⟨c, g, rfl⟩ := opens
      obtain ⟨rest, opener⟩ := t
      subst asks
      match opener with
      | none => exact .launches rfl rfl
      | some o =>
        dsimp only [Task.move]
        split
        · exact .leaves rfl rfl
        · cases o with
          | done o => exact .opened rfl rfl
          | ask k resume => exact .proceeds rfl
    · have other : ∀ c g, q ≠ .opening c g := fun c g same => opens ⟨c, g, same⟩
      rw [t.move_of_ask host turn w asks other]
      cases reply : w.reply? host turn.refusal q with
      | mk r w' =>
        cases r with
        | none =>
          obtain rfl := World.reply?_none reply
          exact .stays
        | some r => exact .hears asks other reply

def startedBy : Option (Program.Exchange Action Action.Reply) → List Follower
  | some ⟨.session (.schedule r), _⟩ => [.start r]
  | _ => []

def installed? : Program.Exchange Action Action.Reply → Option Link
  | ⟨.session (.install _ (.ok link)), .connected⟩ => some link
  | _ => none

structure Process (H α : Type) where
  world : World H
  main : Task α
  followers : List Follower := []
  -- The opens that nobody waits for.
  strays : List Session.Opener := []
  -- What the main program has been told, the newest first.
  heard : List (Program.Exchange Action Action.Reply) := []

namespace Process

variable {H α : Type}

def start (w : World H) (p : Act α) : Process H α := { world := w, main := { rest := p } }

/-- The links that the main program has put into the slot. -/
def installed (p : Process H α) : List Link := p.heard.filterMap installed?

def moved (p : Process H α) (m : Moved H α) : Process H α where
  world := m.world
  main := m.task
  followers := p.followers ++ startedBy m.heard
  strays := p.strays ++ m.stray.toList
  heard := m.heard.toList ++ p.heard

def movedFollower (p : Process H α) (i : Nat) (m : Moved H (Except ConnectError Unit)) :
    Process H α :=
  { p with
    world := m.world
    followers := p.followers.set i m.task ++ startedBy m.heard
    strays := p.strays ++ m.stray.toList }

/-- A link of an open that ends when nobody waits for it is given up. -/
def movedStray (host : Host H) (p : Process H α) (i : Nat) (o : Session.Opener) (w : World H) :
    Process H α :=
  match o with
  | .ask k resume =>
    { p with world := (w.call host k).2, strays := p.strays.set i (resume (w.call host k).1) }
  | .done (.ok link) =>
    { p with world := (w.call host (.abandon link.id)).2, strays := p.strays.eraseIdx i }
  | .done (.error _) => { p with world := w, strays := p.strays.eraseIdx i }

def step (host : Host H) (p : Process H α) (turn : Turn) : Process H α :=
  let w := { p.world with time := turn.time, tokens := turn.tokens }
  match turn.mover with
  | .main => p.moved (p.main.move host turn w)
  | .follower i =>
    match p.followers[i]? with
    | none => p
    | some t => p.movedFollower i (t.move host turn w)
  | .stray i =>
    match p.strays[i]? with
    | none => p
    | some o => p.movedStray host i o w

def play (host : Host H) (turns : List Turn) (p : Process H α) : Process H α :=
  turns.foldl (step host) p

theorem play_induction {host : Host H} {I : Process H α → Prop}
    (keeps : ∀ p turn, I p → I (p.step host turn)) (turns : List Turn) {p : Process H α}
    (holds : I p) : I (p.play host turns) := by
  induction turns generalizing p with
  | nil => exact holds
  | cons turn turns ih => exact ih (keeps p turn holds)

end Process

end RemoteTags
