import RemoteTags.CommandLine.Run
import RemoteTags.Proofs.Navigator.Work
import RemoteTags.Proofs.Session.Life

/-! What the program does with the link that it opens. It connects once; the link is then in the
slot, until an operation loses it or the program takes it out. Here the program is followed on its
own, with replies as a session gives them that nobody else uses before the link is gone. -/

namespace RemoteTags

inductive Custody where
  | early
  | begun
  | fresh (link : Link)
  -- The link is in the slot; the generation of the session is `n`.
  | kept (id : Remote.LinkId) (n : Nat)
  -- An operation has closed the link, and has to drop it.
  | broken (id : Remote.LinkId)
  -- The link is out of the slot, and still open.
  | taken (id : Remote.LinkId)
  | gone (id : Remote.LinkId)
  | left (id : Remote.LinkId)
  | failed
deriving DecidableEq

namespace Custody

def Allows : Custody → Action → Prop
  | early, .session (.begin _ none) | early, .session .status | early, .session (.takeOlder _)
  | early, .disk (.read _) | early, .disk (.readNearest _) | early, .disk (.pathExists _) => True
  | begun, .session (.takeOlder _) => True
  | begun, .opening _ g => g = 1
  | fresh link, .session (.install n o) => n = 1 ∧ o = .ok link
  | kept _ n, .session .current => n = 1
  | kept _ _, .session (.takeOlder m) => 1 < m
  | kept _ _, .session .hold | kept _ _, .session .release | kept _ _, .session .status
  | kept _ _, .session .useShellStat | kept _ _, .session .beginDisconnect => True
  | kept id _, .remote k => Session.operatesOn id k ∨ k = .close id
  | kept _ _, q => q.Apart
  | broken _, .session .drop => True
  | taken id, .remote k => k = .close id ∨ k = .abandon id
  | gone _, .session (.install _ _) | gone _, .opening _ _ => False
  | gone id, .remote k => k ≠ .close id
  | gone _, _ => True
  | failed, .session (.install _ (.ok _)) => False
  | failed, _ => True
  | _, _ => False

/-- What may be replied; before the program connects, the local disk is `d`. -/
def Tells (d : Local.Disk) : Custody → (q : Action) → q.Reply → Prop
  | early, .disk (.read path), r => r = d.read path
  | early, .disk (.readNearest name), r => r = d.readNearest name
  | early, .disk (.pathExists path), r => r = d.pathExists path
  | early, .session (.begin _ _), r => r = some 1
  | early, .session (.takeOlder _), r | begun, .session (.takeOlder _), r => r = none
  | fresh _, .session (.install _ _), r => r = .connected
  | kept id _, .session .current, r | kept id _, .session (.takeOlder _), r =>
    ∃ link, r = some link ∧ link.id = id
  | kept _ n, .session .beginDisconnect, r => r = n + 1
  | kept _ n, .session .status, r => r.generation = n
  | gone id, .session .current, r | gone id, .session (.takeOlder _), r =>
    ∀ link, r = some link → link.id ≠ id
  | failed, .session (.install _ _), r => r ≠ .connected
  | _, _, _ => True

def after : Custody → (q : Action) → q.Reply → Custody
  | early, .session (.begin _ _), _ => begun
  | begun, .opening _ _, some (.ok link) => fresh link
  | begun, .opening _ _, _ => failed
  | fresh link, .session (.install _ _), _ => kept link.id 1
  | kept id n, .session .beginDisconnect, _ => kept id (n + 1)
  | kept id _, .session (.takeOlder _), _ => taken id
  | kept id _, .remote (.close _), _ => broken id
  | broken id, _, _ => gone id
  | taken id, .remote (.abandon _), _ => left id
  | taken id, _, _ => gone id
  | c, _, _ => c

end Custody

/-- The program does what it may with the link, and ends as `ends` tells. -/
def Guards {α : Type} (d : Local.Disk) (ends : Custody → α → Prop) : Custody → Act α → Prop
  | c, .done a => ends c a
  | c, .ask q next => c.Allows q ∧ ∀ r, c.Tells d q r → Guards d ends (c.after q r) (next r)

section Guards

variable {α β : Type} {d : Local.Disk} {c : Custody} {id : Remote.LinkId}

theorem Guards.bind {mid : Custody → α → Prop} {ends : Custody → β → Prop} {p : Act α}
    {f : α → Act β} (guards : Guards d mid c p)
    (follows : ∀ c a, mid c a → Guards d ends c (f a)) : Guards d ends c (p.bind f) := by
  induction p generalizing c with
  | done a => exact follows c a guards
  | ask q next ih => exact ⟨guards.1, fun r told => ih r (guards.2 r told)⟩

namespace Custody

def Settled (id : Remote.LinkId) (c : Custody) : Prop := c = kept id 1 ∨ c = gone id

def Operating : Session.Role → Prop
  | .checking | .refusing | .refused | .working _ | .broken _ | .dropping | .leaving _
  | .parting _ | .finished => True
  | _ => False

inductive Suits (id : Remote.LinkId) : Custody → Session.Role → Prop where
  | checking : Suits id (kept id 1) .checking
  | working {link : Link} (same : link.id = id) : Suits id (kept id 1) (.working link)
  | broken {link : Link} (same : link.id = id) : Suits id (kept id 1) (.broken link)
  | finished : Suits id (kept id 1) .finished
  | dropping : Suits id (Custody.broken id) .dropping
  | gone {ρ : Session.Role} (operating : Operating ρ)
      (other : ∀ link, ρ.used? = some link → link.id ≠ id) : Suits id (Custody.gone id) ρ

variable {ρ : Session.Role} {q : Action}

theorem ne_close_of_operatesOn {l : Remote.LinkId} {k : Remote.Call}
    (op : Session.operatesOn l k) (id : Remote.LinkId) : k ≠ .close id := by
  rintro rfl
  exact op

theorem Suits.allows (suits : c.Suits id ρ) (allowed : ρ.Allows q) : c.Allows q := by
  cases suits with
  | checking =>
    match q, allowed with
    | .session .current, _ => exact rfl
  | @working link same =>
    match q, allowed with
    | .session .useShellStat, _ | .session .release, _ => exact trivial
    | .remote k, op => exact .inl (same ▸ op)
  | @broken link same =>
    match q, allowed with
    | .remote (.close l), closes => exact .inr (congrArg _ (closes.trans same))
  | finished => exact allowed.elim
  | dropping =>
    rw [Session.Role.allows_dropping allowed]
    trivial
  | @gone ρ operating other =>
    cases ρ with
    | checking =>
      match q, allowed with
      | .session .current, _ => exact trivial
    | refusing | leaving =>
      match q, allowed with
      | .session .release, _ => exact trivial
    | dropping =>
      match q, allowed with
      | .session .drop, _ => exact trivial
    | parting =>
      match q, allowed with
      | .session (.schedule _), _ => exact trivial
    | working =>
      match q, allowed with
      | .session .useShellStat, _ | .session .release, _ => exact trivial
      | .remote k, op => exact ne_close_of_operatesOn op id
    | broken link =>
      match q, allowed with
      | .remote (.close l), closes =>
        rintro ⟨⟩
        exact other link rfl closes.symm
    | refused | finished => exact allowed.elim
    | _ => exact operating.elim

theorem kept_after {l : Remote.LinkId} {n : Nat} {k : Remote.Call} {r : k.Reply}
    (op : Session.operatesOn l k) : (kept id n).after (.remote k) r = kept id n := by
  cases k with
  | close | dial | home | abandon => exact op.elim
  | _ => rfl

theorem operating_after (operating : Operating ρ) (r : q.Reply) : Operating (ρ.after q r) := by
  fun_cases Session.Role.after ρ q r <;> first | exact trivial | exact operating

theorem Suits.after {r : q.Reply} (suits : c.Suits id ρ) (allowed : ρ.Allows q)
    (told : c.Tells d q r) : (c.after q r).Suits id (ρ.after q r) := by
  cases suits with
  | checking =>
    match q, allowed with
    | .session .current, _ =>
      obtain ⟨link, rfl, same⟩ := told
      exact .working same
  | @working link same =>
    match q, allowed with
    | .session .useShellStat, _ => exact .working same
    | .session .release, _ => exact .finished
    | .remote k, op =>
      rw [kept_after op]
      change Suits id _ (if Session.breaks k r then .broken link else .working link)
      split
      · exact .broken same
      · exact .working same
  | @broken link same =>
    match q, allowed with
    | .remote (.close l), closes => exact .dropping
  | finished => exact allowed.elim
  | dropping =>
    obtain rfl := Session.Role.allows_dropping allowed
    exact .gone trivial nofun
  | gone operating other =>
    refine .gone (operating_after operating r) fun link used => ?_
    rcases Session.Role.used?_of_after used with before | asked
    · exact other link before
    · cases asked
      exact told link rfl

theorem Suits.settled (suits : c.Suits id ρ) (ends : ρ.MayEnd) : c.Settled id := by
  cases suits with
  | checking | working | broken | dropping => exact ends.elim
  | finished => exact .inl rfl
  | gone => exact .inr rfl

end Custody

open Custody

theorem guards_of_keeps {ends : Session.Role → α → Prop} {ρ : Session.Role} {p : Act α}
    (suits : c.Suits id ρ) (keeps : Session.Keeps ends ρ p) :
    Guards d (fun c a => ∃ ρ, c.Suits id ρ ∧ ends ρ a) c p := by
  induction p generalizing c ρ with
  | done a => exact ⟨ρ, suits, keeps⟩
  | ask q next ih =>
    exact ⟨suits.allows keeps.1, fun r told => ih r (suits.after keeps.1 told) (keeps.2 r)⟩

theorem guards_operation (settled : c.Settled id) (o : Session.Operation) :
    Guards d (fun c _ => c.Settled id) c o.program := by
  have keeps := o.keeps
  obtain ⟨next, begins⟩ : ∃ next, o.program = .ask (.session .hold) next := by
    cases o <;> exact ⟨_, rfl⟩
  rw [begins] at keeps
  have ends : ∀ {c}, c.Suits id .checking →
      Guards d (fun c _ => c.Settled id) c (next ()) := by
    intro c suits
    rw [← Program.bind_done (next ())]
    refine (guards_of_keeps suits (keeps.2 ())).bind fun c a ends => ?_
    obtain ⟨ρ, suits, may, -⟩ := ends
    exact suits.settled may
  rw [begins]
  rcases settled with rfl | rfl
  · exact ⟨trivial, fun _ _ => ends .checking⟩
  · exact ⟨trivial, fun _ _ => ends (.gone trivial nofun)⟩

theorem guards_of_works {p : Act α} (works : Works p) (settled : c.Settled id) :
    Guards d (fun c _ => c.Settled id) c p := by
  induction works generalizing c with
  | done a => exact settled
  | @apart q next apart _ ih =>
    rcases settled with rfl | rfl
    · cases q with
      | session | remote | opening => exact apart.elim
      | _ => exact ⟨trivial, fun r _ => ih r (.inl rfl)⟩
    · cases q with
      | session | remote | opening => exact apart.elim
      | _ => exact ⟨trivial, fun r _ => ih r (.inr rfl)⟩
  | operate o _ ih => exact (guards_operation settled o).bind fun c r settled => ih r settled
  | connected _ ih =>
    rcases settled with rfl | rfl
    · exact ⟨trivial, fun r _ => ih _ (.inl rfl)⟩
    · exact ⟨trivial, fun r _ => ih _ (.inr rfl)⟩
  | home _ ih =>
    rcases settled with rfl | rfl
    · exact ⟨trivial, fun r _ => ih _ (.inl rfl)⟩
    · exact ⟨trivial, fun r _ => ih _ (.inr rfl)⟩

theorem guards_disconnect (settled : c.Settled id) :
    Guards d (fun c _ => c = gone id) c Session.disconnect := by
  rcases settled with rfl | rfl
  · refine ⟨trivial, fun g told => ?_⟩
    obtain rfl : g = 2 := told
    refine ⟨Nat.lt_succ_self 1, fun older told => ?_⟩
    obtain ⟨link, rfl, same⟩ := told
    exact ⟨.inl (congrArg _ same), fun _ _ => rfl⟩
  · refine ⟨trivial, fun g _ => ⟨trivial, fun older told => ?_⟩⟩
    cases older with
    | none => exact rfl
    | some link => exact ⟨fun same => told link rfl (by injection same), fun _ _ => rfl⟩

def afterGiveUp : Custody → Custody
  | kept id _ => left id
  | c => c

def MayEnd : Custody → Prop
  | kept _ n => n = 1
  | early | failed | gone _ => True
  | _ => False

theorem guards_giveUpLink (ends : MayEnd c) :
    Guards d (fun c' _ => c' = afterGiveUp c) c Session.giveUpLink := by
  cases c with
  | early =>
    refine ⟨trivial, fun status _ => ⟨trivial, fun older told => ?_⟩⟩
    obtain rfl : older = none := told
    exact rfl
  | kept id n =>
    obtain rfl : n = 1 := ends
    refine ⟨trivial, fun status told => ?_⟩
    have newest : status.generation = 1 := told
    refine ⟨newest.symm ▸ Nat.lt_succ_self 1, fun older told => ?_⟩
    obtain ⟨link, rfl, same⟩ := told
    exact ⟨.inr (congrArg _ same), fun _ _ => rfl⟩
  | gone id =>
    refine ⟨trivial, fun g _ => ⟨trivial, fun older told => ?_⟩⟩
    cases older with
    | none => exact rfl
    | some link => exact ⟨nofun, fun _ _ => rfl⟩
  | failed =>
    refine ⟨trivial, fun g _ => ⟨trivial, fun older told => ?_⟩⟩
    cases older with
    | none => exact rfl
    | some link => exact ⟨trivial, fun _ _ => rfl⟩
  | _ => exact ends.elim

def Connects (c : Custody) : Except ConnectError Unit → Prop
  | .ok () => ∃ id, c = kept id 1
  | .error _ => c = failed

theorem guards_conclude_error (e : ConnectError) :
    Guards d Connects failed (Session.conclude 1 (.error e)) := by
  refine ⟨trivial, fun r told => ?_⟩
  match r with
  | .connected => exact absurd rfl told
  | .failed e => exact rfl
  | .stale none => exact rfl
  | .stale (some link) => exact ⟨trivial, fun _ _ => rfl⟩

theorem guards_connect (connection : Connection) :
    Guards d Connects early (Session.connect connection) := by
  refine ⟨trivial, fun g told => ?_⟩
  obtain rfl : g = some 1 := told
  refine ⟨trivial, fun older told => ?_⟩
  obtain rfl : older = none := told
  refine ⟨rfl, fun opened _ => ?_⟩
  match opened with
  | none | some (.error e) => exact guards_conclude_error _
  | some (.ok link) =>
    refine ⟨⟨rfl, rfl⟩, fun r told => ?_⟩
    obtain rfl : r = .connected := told
    exact ⟨link.id, rfl⟩

end Guards

namespace CommandLine

/-- The value of a program that does nothing but look at the local disk. -/
def consult {α : Type} (d : Local.Disk) : Act α → Option α
  | .done a => some a
  | .ask (.disk (.read path)) next => consult d (next (d.read path))
  | .ask (.disk (.readNearest name)) next => consult d (next (d.readNearest name))
  | .ask (.disk (.pathExists path)) next => consult d (next (d.pathExists path))
  | .ask _ _ => none

theorem consult_eq_run {H α : Type} (host : Host H) {p : Act α} {a : α} (w : World H)
    (value : consult w.disk p = some a) : (w.run host p).1 = a := by
  induction p generalizing w with
  | done b => exact Option.some.inj value
  | ask q next ih =>
    match q with
    | .disk (.read _) | .disk (.readNearest _) | .disk (.pathExists _) =>
      exact ih _ { w with tokens := w.tokens + 1 } value

section Guards

open Custody

variable {α β : Type} {d : Local.Disk} {ends : Custody → β → Prop}

theorem guards_consult {p : Act α} {a : α} {f : α → Act β} (value : consult d p = some a)
    (follows : Guards d ends early (f a)) : Guards d ends early (p.bind f) := by
  induction p with
  | done b =>
    cases value
    exact follows
  | ask q next ih =>
    match q with
    | .disk (.read path) =>
      refine ⟨trivial, fun r told => ?_⟩
      obtain rfl : r = d.read path := told
      exact ih _ value
    | .disk (.readNearest name) =>
      refine ⟨trivial, fun r told => ?_⟩
      obtain rfl : r = d.readNearest name := told
      exact ih _ value
    | .disk (.pathExists path) =>
      refine ⟨trivial, fun r told => ?_⟩
      obtain rfl : r = d.pathExists path := told
      exact ih _ value

theorem consult_bind {p : Act α} {a : α} {f : α → Act β} (value : consult d p = some a) :
    consult d (p.bind f) = consult d (f a) := by
  induction p with
  | done b =>
    cases value
    rfl
  | ask q next ih =>
    match q with
    | .disk (.read _) | .disk (.readNearest _) | .disk (.pathExists _) => exact ih _ value

theorem exists_consult_bind {p : Act α} {f : α → Act β} (value : ∃ a, consult d p = some a)
    (follows : ∀ a, ∃ b, consult d (f a) = some b) : ∃ b, consult d (p.bind f) = some b := by
  obtain ⟨a, value⟩ := value
  rw [consult_bind value]
  exact follows a

theorem exists_consult_loadTags (d : Local.Disk) (path : String) :
    ∃ r, consult d (loadTags path) = some r := by
  refine exists_consult_bind ⟨_, rfl⟩ fun read => ?_
  cases read <;> exact ⟨_, rfl⟩

theorem exists_consult_configPath? (d : Local.Disk) (env : Config.Environment)
    (given : Option String) : ∃ r, consult d (configPath? env given) = some r := by
  unfold configPath?
  split
  · exact ⟨_, rfl⟩
  · split
    · exact ⟨_, rfl⟩
    · refine exists_consult_bind ⟨_, rfl⟩ fun there => ?_
      cases there <;> exact ⟨_, rfl⟩

theorem exists_consult_loadConfig (d : Local.Disk) (env : Config.Environment)
    (given : Option String) : ∃ r, consult d (loadConfig env given) = some r := by
  refine exists_consult_bind (exists_consult_configPath? d env given) fun path => ?_
  cases path with
  | none => exact ⟨_, rfl⟩
  | some path =>
    refine exists_consult_bind ⟨_, rfl⟩ fun content => ?_
    split <;> exact ⟨_, rfl⟩

end Guards

section Works

theorem works_configPath? (env : Config.Environment) (given : Option String) :
    Works (configPath? env given) := by
  unfold configPath?
  split
  · exact .done _
  · split
    · exact .done _
    · refine .apart trivial fun there => ?_
      cases (there : Bool) <;> exact .done _

theorem works_loadTags (path : String) : Works (loadTags path) := by
  have loads : Works (TagIndex.load path) := .apart trivial fun _ => .done _
  refine loads.bind fun r => ?_
  cases r <;> exact .done _

theorem works_loadConfig (env : Config.Environment) (given : Option String) :
    Works (loadConfig env given) := by
  refine (works_configPath? env given).bind fun path => ?_
  cases path with
  | none => exact .done _
  | some path =>
    have reads : Works (Act.disk (.read path)) := .query trivial
    refine reads.bind fun content => ?_
    cases Config.ofContent path content <;> exact .done _

theorem works_lookup (c : Config) (tagsPath symbol : String) (json colours : Bool) :
    Works (lookup c tagsPath symbol json colours) := by
  refine (works_loadTags tagsPath).bind fun r => ?_
  cases r with
  | error f => exact .done _
  | ok index =>
    dsimp only
    split <;> exact .done _

end Works

/-- The environment with the definitions of the file that lies on the disk. -/
def loaded (env : Config.Environment) (d : Local.Disk) : Config.Environment :=
  match d.readNearest envFile with
  | .ok content => EnvFile.load content env
  | .error _ => env

/-- The run is to go to a tag that its arguments and its tags file do not decide. -/
def Undecided (env : Config.Environment) (args : List String) (d : Local.Disk) : Prop :=
  ∃ a symbol pick c index outcome,
    parse (loaded env d) args = .ok a ∧ a.command = .goTo symbol pick ∧
      consult d (loadConfig (loaded env d) a.config) = some (.ok c) ∧
      consult d (loadTags (a.tagsFile.getD c.tagsFile)) = some (.ok index) ∧
      choose symbol pick (wantsColours (loaded env d) && !a.noColor)
        (Navigator.candidates { index := index, settings := .ofConfig c } symbol) = .error outcome

section Commands

open Custody

variable {d : Local.Disk} {undecided : Prop}

/-- Where a command may leave the link: in the slot, if the command is undecided. -/
def Leaves (undecided : Prop) : Custody → Prop
  | early | failed => True
  | gone _ => ¬ undecided
  | kept _ n => n = 1 ∧ undecided
  | _ => False

theorem guards_connected (c : Config) (index : TagIndex) :
    Guards d (fun custody r => match r with
      | .ok n => n = { index := index, settings := .ofConfig c } ∧ ∃ id, custody = kept id 1
      | .error _ => custody = early ∨ custody = failed) early (connected c index) := by
  unfold connected
  split
  · exact .inl rfl
  · refine (guards_connect _).bind fun custody r connects => ?_
    cases r with
    | ok => exact ⟨rfl, connects⟩
    | error e => exact .inr connects

theorem guards_onceConnected {c : Config} {index : TagIndex}
    {f : Except Failure Navigator → Act Outcome}
    (fails : ∀ e, ∃ o, f (.error e) = .done o)
    (goesOn : ∀ n id, n = { index := index, settings := .ofConfig c } →
      Guards d (fun custody _ => Leaves undecided custody) (kept id 1) (f (.ok n))) :
    Guards d (fun custody _ => Leaves undecided custody) early ((connected c index).bind f) := by
  refine (guards_connected c index).bind fun custody r connects => ?_
  cases r with
  | error e =>
    obtain ⟨o, printed⟩ := fails e
    rw [printed]
    rcases connects with rfl | rfl <;> exact trivial
  | ok n =>
    obtain ⟨same, id, rfl⟩ := connects
    exact goesOn n id same

theorem guards_parting {custody : Custody} {id : Remote.LinkId} {p : Act Outcome}
    (settled : custody.Settled id) (prints : ∃ o, p = .done o) (decided : ¬ undecided) :
    Guards d (fun custody _ => Leaves undecided custody) custody
      (Session.disconnect.bind fun _ => p) := by
  obtain ⟨o, rfl⟩ := prints
  refine (guards_disconnect settled).bind fun custody _ shut => ?_
  subst shut
  exact decided

theorem guards_working {α : Type} {id : Remote.LinkId} {p : Act α} {g : α → Act Outcome}
    (works : Works p) (prints : ∀ a, ∃ o, g a = .done o) (decided : ¬ undecided) :
    Guards d (fun custody _ => Leaves undecided custody) (kept id 1)
      (p.bind fun a => Session.disconnect.bind fun _ => g a) :=
  (guards_of_works works (.inl rfl)).bind fun _ a settled =>
    guards_parting settled (prints a) decided

theorem guards_goTo (c : Config) (tagsPath symbol : String) (pick : Option Nat) (colours : Bool)
    (decides : ∀ index, consult d (loadTags tagsPath) = some (.ok index) →
      (undecided ↔ ∃ outcome, choose symbol pick colours
        (Navigator.candidates { index := index, settings := .ofConfig c } symbol) =
          .error outcome)) :
    Guards d (fun custody _ => Leaves undecided custody) early
      (goTo c tagsPath symbol pick colours) := by
  obtain ⟨r, value⟩ := exists_consult_loadTags d tagsPath
  refine guards_consult value ?_
  cases r with
  | error f => exact trivial
  | ok index =>
    have decides := decides index value
    refine guards_onceConnected (fun _ => ⟨_, rfl⟩) fun n id same => ?_
    rw [← same] at decides
    dsimp only
    split
    · rename_i outcome chosen
      exact ⟨rfl, decides.2 ⟨outcome, chosen⟩⟩
    · rename_i tag chosen
      have decided : ¬ undecided := fun undecided => by
        obtain ⟨outcome, other⟩ := decides.1 undecided
        cases chosen.symm.trans other
      refine guards_working (Navigator.works_goTo n tag none) (fun went => ?_) decided
      obtain ⟨landed, -⟩ := went
      cases landed <;> exact ⟨_, rfl⟩

theorem guards_cat (c : Config) (path : String) (decided : ¬ undecided) :
    Guards d (fun custody _ => Leaves undecided custody) early (cat c path) := by
  refine guards_onceConnected (fun _ => ⟨_, rfl⟩) fun n id _ => ?_
  refine (guards_of_works (Cache.works_preload path) (.inl rfl)).bind
    fun custody loaded settled => ?_
  have looks : Works (Act.cache (.content path)) := .query trivial
  refine (guards_of_works looks settled).bind fun custody content settled => ?_
  exact guards_parting settled (by cases loaded <;> exact ⟨_, rfl⟩) decided

theorem guards_listTags (c : Config) (colours : Bool) (decided : ¬ undecided) :
    Guards d (fun custody _ => Leaves undecided custody) early (listTags c colours) := by
  refine guards_onceConnected (fun _ => ⟨_, rfl⟩) fun n id _ => ?_
  refine guards_working (Navigator.works_listTagFiles _) (fun listing => ?_) decided
  cases listing <;> exact ⟨_, rfl⟩

theorem guards_fetchTags (c : Config) (tagsPath fileName : String) (colours : Bool)
    (decided : ¬ undecided) :
    Guards d (fun custody _ => Leaves undecided custody) early
      (fetchTags c tagsPath fileName colours) := by
  refine guards_onceConnected (fun _ => ⟨_, rfl⟩) fun n id _ => ?_
  refine guards_working (Navigator.works_refreshTags _ fileName tagsPath) (fun fetched => ?_) decided
  obtain ⟨fetched, n⟩ := fetched
  cases fetched <;> exact ⟨_, rfl⟩

theorem guards_lookup (c : Config) (tagsPath symbol : String) (json colours : Bool) :
    Guards d (fun custody _ => Leaves undecided custody) early
      (lookup c tagsPath symbol json colours) := by
  obtain ⟨r, value⟩ := exists_consult_loadTags d tagsPath
  refine guards_consult value ?_
  cases r with
  | error f => exact trivial
  | ok index =>
    dsimp only
    split <;> exact trivial

theorem guards_execute {env : Config.Environment} {args : List String} {a : Arguments}
    (parsed : parse (loaded env d) args = .ok a) :
    Guards d (fun custody _ => Leaves (Undecided env args d) custody) early
      (execute (loaded env d) a) := by
  have decided : (∀ symbol pick, a.command ≠ .goTo symbol pick) → ¬ Undecided env args d := by
    rintro other ⟨b, symbol, pick, -, -, -, again, goes, -⟩
    cases parsed.symm.trans again
    exact other symbol pick goes
  obtain ⟨r, value⟩ := exists_consult_loadConfig d (loaded env d) a.config
  refine guards_consult value ?_
  cases r with
  | error e => exact trivial
  | ok c =>
    dsimp only
    split
    · exact guards_lookup ..
    · rename_i symbol pick goes
      refine guards_goTo c _ symbol pick _ fun index tags => ⟨?_, ?_⟩
      · rintro ⟨b, symbol', pick', c', index', outcome, again, goes', value', tags', chosen⟩
        cases parsed.symm.trans again
        cases goes.symm.trans goes'
        cases value.symm.trans value'
        cases tags.symm.trans tags'
        exact ⟨outcome, chosen⟩
      · rintro ⟨outcome, chosen⟩
        exact ⟨a, symbol, pick, c, index, outcome, parsed, goes, value, tags, chosen⟩
    · rename_i path goes
      refine guards_cat c path (decided fun _ _ other => ?_)
      cases goes.symm.trans other
    · rename_i goes
      refine guards_listTags c _ (decided fun _ _ other => ?_)
      cases goes.symm.trans other
    · rename_i fileName goes
      refine guards_fetchTags c _ fileName _ (decided fun _ _ other => ?_)
      cases goes.symm.trans other

def started (env : Config.Environment) (args : List String) : Act Exit :=
  match parse env args with
  | .error e => .done (.ofUsage e)
  | .ok a => (execute env a).bind fun outcome =>
    Session.giveUpLink.bind fun _ => .done (.ofOutcome outcome)

def Ends (undecided : Prop) : Custody → Prop
  | early | failed => True
  | gone _ => ¬ undecided
  | left _ => undecided
  | _ => False

/-- The program closes its link once, or leaves it if the run is undecided. -/
theorem guards_run (env : Config.Environment) (args : List String) (d : Local.Disk) :
    Guards d (fun custody _ => Ends (Undecided env args d) custody) early (run env args) := by
  refine ⟨trivial, fun content told => ?_⟩
  obtain rfl : content = d.readNearest envFile := told
  change Guards d _ early (started (loaded env d) args)
  unfold started
  split
  · exact trivial
  · rename_i a parsed
    refine (guards_execute parsed).bind fun custody outcome leaves => ?_
    have ends : MayEnd custody := by
      cases custody with
      | kept => exact leaves.1
      | early | failed | gone => exact trivial
      | _ => exact leaves.elim
    refine (guards_giveUpLink ends).bind fun custody' _ after => ?_
    subst after
    cases custody with
    | kept => exact leaves.2
    | early | failed | gone => exact leaves
    | _ => exact leaves.elim

end Commands

end CommandLine

end RemoteTags
