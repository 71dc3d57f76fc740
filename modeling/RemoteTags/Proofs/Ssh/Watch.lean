import RemoteTags.Proofs.Session.Life
import RemoteTags.Proofs.Ssh.Steady
import RemoteTags.Ssh.Client

/-! A client that is watched: each call on the host is written down with the library calls that it
makes. A session is disconnected by a close of its link, once, and by no other call. -/

namespace RemoteTags.Ssh

namespace Answering

variable {L : Type} (lib : Answering L)

/-- The library with a log of its calls, the newest first. -/
def logged : Answering (L × List Call) := fun c ((l, log), d) =>
  let (r, l, d) := lib c (l, d)
  (r, (l, c :: log), d)

theorem run_logged {α : Type} (p : Wire α) (l : L) (log : List Call) (d : Local.Disk) :
    let r := Program.run lib.logged p ((l, log), d)
    Program.run lib p (l, d) = (r.1, r.2.1.1, r.2.2) :=
  Program.run_view (fun s : (L × List Call) × Local.Disk => (s.1.1, s.2)) (fun _ _ => rfl) p
    ((l, log), d)

end Answering

def plain : Terms Call Call.Reply where
  asks c := (isLogin c || isDisconnect c) = false
  tells _ _ := True

abbrev Plain {α : Type} (p : Wire α) : Prop := p.Meets plain fun _ => True

section Plain

variable {α β : Type} {p : Wire α}

theorem Plain.bind {f : α → Wire β} (first : Plain p) (follows : ∀ a, Plain (f a)) :
    Plain (p.bind f) :=
  Program.Meets.bind first fun a _ => follows a

theorem plain_query {c : Call} (other : (isLogin c || isDisconnect c) = false) :
    Plain (.query c) :=
  ⟨other, fun _ _ => trivial⟩

theorem Steady.plain (steady : Steady p) : Plain p :=
  steady.mono (fun _ other => (Bool.or_eq_false_iff.1 other).1) fun _ _ => id

theorem plain_finishOpening (c : Connection) : Plain (finishOpening c) := by
  refine (plain_query rfl).bind fun r => ?_
  cases r with
  | error e => trivial
  | ok => exact (plain_query rfl).bind fun _ => trivial

namespace Transport

variable (t : Transport)

theorem plain_home : Plain t.home := t.steady_home.plain

theorem plain_stat (path : String) : Plain (t.stat path) := (t.steady_stat path).plain

theorem plain_read (path : String) : Plain (t.read path) := (t.steady_read path).plain

theorem plain_readDir (path : String) : Plain (t.readDir path) := (t.steady_readDir path).plain

theorem plain_within (n : Duration) {call : Wire α} (plain : Plain call) : Plain (t.within n call) :=
  (plain_query rfl).bind fun _ => plain.bind fun _ => (plain_query rfl).bind fun _ => trivial

theorem plain_exec (command : String) (n : Duration) : Plain (t.exec command n) :=
  t.plain_within n (steady_runCommand command).plain

theorem plain_fastGet (remote localPath : String) (n : Duration) :
    Plain (t.fastGet remote localPath n) := by
  obtain ⟨p, steady, same⟩ := t.exists_steady_fastGet remote localPath
  rw [same]
  exact t.plain_within n steady.plain

theorem plain_remove (path : String) : Plain (t.remove path) := (t.steady_remove path).plain

theorem plain_shut : Plain t.shut := t.steady_shut.plain

end Transport

end Plain

def connected : Terms Call Call.Reply where
  asks c := isDisconnect c = false
  tells _ _ := True

abbrev Stays {α : Type} (p : Wire α) : Prop := p.Meets connected fun _ => True

section Stays

variable {α β : Type} {p : Wire α}

theorem Plain.stays (plain : Plain p) : Stays p :=
  plain.mono (fun _ other => (Bool.or_eq_false_iff.1 other).2) fun _ _ => id

theorem Stays.bind {f : α → Wire β} (stays : Stays p) (follows : ∀ a, Stays (f a)) :
    Stays (p.bind f) :=
  Program.Meets.bind stays fun a _ => follows a

theorem stays_query {c : Call} (other : isDisconnect c = false) : Stays (.query c) :=
  ⟨other, fun _ _ => trivial⟩

theorem stays_authenticate (c : Connection) : Stays (authenticate c) := by
  unfold authenticate
  split <;> exact stays_query rfl

theorem stays_logIn (c : Connection) : Stays (logIn c) := by
  refine (stays_authenticate c).bind fun r => ?_
  cases r with
  | error e => trivial
  | ok =>
    refine (stays_query rfl).bind fun known => ?_
    cases known with
    | false => trivial
    | true => exact (plain_finishOpening c).stays

theorem stays_startSession (c : Connection) : Stays (startSession c) := by
  refine (stays_query rfl).bind fun r => ?_
  cases r with
  | error e => trivial
  | ok =>
    refine (stays_query rfl).bind fun _ => (stays_query rfl).bind fun _ =>
      (stays_query rfl).bind fun r => ?_
    cases r with
    | error e => trivial
    | ok => exact stays_logIn c

theorem stays_connect (c : Connection) : Stays (Transport.connect c) := by
  refine (stays_query rfl).bind fun r => ?_
  cases r with
  | error e => trivial
  | ok => exact stays_startSession c

end Stays

def disconnections (log : List Call) : Nat := log.countP isDisconnect

section Count

variable {L α : Type} (lib : Answering L) (l : L) (log : List Call) (d : Local.Disk)

theorem disconnections_of_stays {p : Wire α} (stays : Stays p) :
    disconnections (Program.run lib.logged p ((l, log), d)).2.1.2 = disconnections log := by
  let Same (s : (L × List Call) × Local.Disk) : Prop := disconnections s.1.2 = disconnections log
  refine (Program.Meets.run (I := Same) (fun c s asked same => ⟨trivial, ?_⟩) stays rfl).2
  change (c :: s.1.2).countP isDisconnect = disconnections log
  rw [List.countP_cons_of_neg (by rw [asked]; exact nofun)]
  exact same

theorem disconnections_of_close (t : Transport) :
    disconnections (Program.run lib.logged t.close ((l, log), d)).2.1.2 =
      disconnections log + 1 := by
  rw [← disconnections_of_stays lib l log d t.plain_shut.stays]
  unfold Transport.close
  simp only [Program.bind_eq, Program.run_bind]
  generalize (Program.run lib.logged t.shut ((l, log), d)).2 = s
  have once : disconnections
      (Program.run lib.logged (library (.disconnect Transport.farewell)) s).2.1.2 =
        disconnections s.1.2 + 1 := List.countP_cons_of_pos rfl
  rw [← once]
  split <;> rfl

end Count

/-- A client with its calls on the host, each with the library calls that it made; the newest come
first. -/
structure Watched (L : Type) where
  client : Client L
  log : List (Remote.Call × List Call) := []

namespace Watched

variable {L : Type}

def unlogged (h : Watched L) : Client (L × List Call) :=
  { library := (h.client.library, []), links := h.client.links }

def dialled (h : Watched L) : Nat := h.client.links.length

def calls (h : Watched L) : List Call := h.log.flatMap (·.2)

/-- How often the session of a link was disconnected. -/
def disconnects (id : Remote.LinkId) (h : Watched L) : Nat :=
  disconnections ((h.log.filter fun e => Session.linkOn e.1 = some id).flatMap (·.2))

end Watched

namespace Client

variable {L : Type} (lib : Answering L)

def watch : Host (Watched L) := fun k (h, d) =>
  let (r, c, d) := Client.answer lib.logged k (h.unlogged, d)
  (r, { client := { library := c.library.1, links := c.links }
        log := (k, c.library.2) :: h.log }, d)

theorem link?_isSome (h : Client L) (id : Remote.LinkId) :
    (h.link? id).isSome ↔ id < h.links.length := by
  simp [link?]

theorem length_setLink (h : Client L) (id : Remote.LinkId) (t : Transport) :
    (h.setLink id t).links.length = h.links.length := by
  simp [setLink]

section Count

variable {α : Type} (h : Client (L × List Call)) (d : Local.Disk)

theorem disconnections_run {p : Wire α} (stays : Stays p) :
    disconnections (h.run lib.logged p d).2.1.library.2 = disconnections h.library.2 :=
  disconnections_of_stays lib _ _ d stays

theorem disconnections_onLink (id : Remote.LinkId) {call : Transport → Wire (Remote.Attempt α)}
    (plain : ∀ t, Plain (call t)) :
    disconnections (h.onLink lib.logged id call d).2.1.library.2 = disconnections h.library.2 := by
  unfold onLink
  split
  · exact h.disconnections_run lib d (plain _).stays
  · rfl

theorem disconnections_dial (c : Connection) :
    disconnections (h.dial lib.logged c d).2.1.library.2 = disconnections h.library.2 := by
  have same := h.disconnections_run lib d (stays_connect c)
  unfold dial
  split <;> rename_i ran <;> rw [ran] at same <;> exact same

theorem disconnections_abandon (id : Remote.LinkId) :
    disconnections (h.abandon lib.logged id d).2.1.library.2 = disconnections h.library.2 := by
  unfold abandon
  split
  · rename_i t _
    exact h.disconnections_run lib d t.plain_shut.stays
  · rfl

theorem disconnections_close (id : Remote.LinkId) :
    disconnections (h.close lib.logged id d).2.1.library.2 =
      disconnections h.library.2 + if id < h.links.length then 1 else 0 := by
  have known := h.link?_isSome id
  unfold close
  split
  · rename_i t found
    rw [if_pos (known.1 (by rw [found]; rfl))]
    exact disconnections_of_close lib _ _ d t
  · rename_i unknown
    rw [if_neg fun there => absurd (known.2 there) (by rw [unknown]; exact nofun)]
    rfl

theorem disconnections_other {k : Remote.Call} (other : ∀ id, k ≠ .close id) :
    disconnections (Client.answer lib.logged k (h, d)).2.1.library.2 =
      disconnections h.library.2 := by
  cases k with
  | close id => exact absurd rfl (other id)
  | dial c => exact h.disconnections_dial lib d c
  | home id => exact h.disconnections_onLink lib d id (·.plain_home)
  | stat id path => exact h.disconnections_onLink lib d id (·.plain_stat path)
  | read id path => exact h.disconnections_onLink lib d id (·.plain_read path)
  | readDir id path => exact h.disconnections_onLink lib d id (·.plain_readDir path)
  | exec id command n =>
    exact h.disconnections_onLink lib d id (·.plain_exec command n)
  | fastGet id remote path n =>
    exact h.disconnections_onLink lib d id (·.plain_fastGet remote path n)
  | remove id path => exact h.disconnections_onLink lib d id (·.plain_remove path)
  | abandon id => exact h.disconnections_abandon lib d id

end Count

section Links

variable (h : Client L) (d : Local.Disk)

theorem dial_ok {c : Connection} {id : Remote.LinkId} (dialled : (h.dial lib c d).1 = .ok id) :
    id = h.links.length ∧ (h.dial lib c d).2.1.links.length = h.links.length + 1 := by
  have same : (h.run lib (Transport.connect c) d).2.1.links = h.links := rfl
  unfold dial at dialled ⊢
  generalize h.run lib (Transport.connect c) d = ran at dialled same ⊢
  obtain ⟨r, h', d'⟩ := ran
  dsimp only at same
  cases r with
  | error e => cases dialled
  | ok t =>
    cases dialled
    rw [← same]
    exact ⟨rfl, rfl⟩

theorem length_dial (c : Connection) : h.links.length ≤ (h.dial lib c d).2.1.links.length := by
  have same : (h.run lib (Transport.connect c) d).2.1.links = h.links := rfl
  unfold dial
  generalize h.run lib (Transport.connect c) d = ran at same ⊢
  obtain ⟨r, h', d'⟩ := ran
  dsimp only at same
  rw [← same]
  cases r with
  | error e => exact Nat.le_refl _
  | ok t => exact Nat.le_succ _

theorem length_onLink {α : Type} (id : Remote.LinkId)
    (call : Transport → Wire (Remote.Attempt α)) :
    (h.onLink lib id call d).2.1.links.length = h.links.length := by
  unfold onLink
  split <;> rfl

theorem length_close (id : Remote.LinkId) :
    (h.close lib id d).2.1.links.length = h.links.length := by
  unfold close
  split
  · exact length_setLink _ id _
  · rfl

theorem length_abandon (id : Remote.LinkId) :
    (h.abandon lib id d).2.1.links.length = h.links.length := by
  unfold abandon
  split
  · exact length_setLink _ id _
  · rfl

theorem length_answer (k : Remote.Call) :
    h.links.length ≤ (Client.answer lib k (h, d)).2.1.links.length := by
  cases k with
  | dial c => exact h.length_dial lib d c
  | close id => exact Nat.le_of_eq (h.length_close lib d id).symm
  | abandon id => exact Nat.le_of_eq (h.length_abandon lib d id).symm
  | home id | stat id | read id | readDir id | exec id | fastGet id | remove id =>
    exact Nat.le_of_eq (h.length_onLink lib d id _).symm

end Links

section Forget

def forget (h : Client (L × List Call)) : Client L :=
  { library := h.library.1, links := h.links }

variable (h : Client (L × List Call)) (d : Local.Disk)

theorem run_forget {α : Type} (p : Wire α) :
    let r := h.run lib.logged p d
    h.forget.run lib p d = (r.1, r.2.1.forget, r.2.2) := by
  unfold run
  dsimp only [forget]
  rw [Answering.run_logged lib p h.library.1 h.library.2 d]

theorem link?_forget (id : Remote.LinkId) : h.forget.link? id = h.link? id :=
  rfl

theorem onLink_forget {α : Type} (id : Remote.LinkId)
    (call : Transport → Wire (Remote.Attempt α)) :
    let r := h.onLink lib.logged id call d
    h.forget.onLink lib id call d = (r.1, r.2.1.forget, r.2.2) := by
  dsimp only [onLink]
  rw [link?_forget]
  cases h.link? id with
  | some t => exact h.run_forget lib d (call t)
  | none => rfl

theorem answer_forget (k : Remote.Call) :
    let r := Client.answer lib.logged k (h, d)
    Client.answer lib k (h.forget, d) = (r.1, r.2.1.forget, r.2.2) := by
  cases k with
  | dial c =>
    dsimp only [answer, dial]
    rw [h.run_forget lib d (Transport.connect c)]
    generalize h.run lib.logged (Transport.connect c) d = ran
    obtain ⟨r, h', d'⟩ := ran
    cases r <;> rfl
  | close id =>
    dsimp only [answer, close]
    rw [link?_forget]
    cases h.link? id with
    | some t =>
      dsimp only
      rw [h.run_forget lib d t.close]
      rfl
    | none => rfl
  | abandon id =>
    dsimp only [answer, abandon]
    rw [link?_forget]
    cases h.link? id with
    | some t =>
      dsimp only
      rw [h.run_forget lib d t.shut]
      rfl
    | none => rfl
  | home id | stat id | read id | readDir id | exec id | fastGet id | remove id =>
    exact h.onLink_forget lib d id _

end Forget

section Watch

variable (s : Watched L × Local.Disk)

/-- A client that is watched answers as it does otherwise. -/
theorem watch_eq (k : Remote.Call) :
    let r := watch lib k s
    Client.answer lib k (s.1.client, s.2) = (r.1, r.2.1.client, r.2.2) :=
  answer_forget lib s.1.unlogged s.2 k

theorem watch_dial_ok {c : Connection} {id : Remote.LinkId}
    (dialled : (watch lib (.dial c) s).1 = .ok id) :
    id = s.1.dialled ∧ (watch lib (.dial c) s).2.1.dialled = s.1.dialled + 1 :=
  dial_ok lib.logged s.1.unlogged s.2 dialled

theorem dialled_watch (k : Remote.Call) : s.1.dialled ≤ (watch lib k s).2.1.dialled :=
  length_answer lib.logged s.1.unlogged s.2 k

/-- The session of a link is disconnected by its close, and by no other call. -/
theorem disconnects_watch (k : Remote.Call) (id : Remote.LinkId) :
    (watch lib k s).2.1.disconnects id =
      s.1.disconnects id + if k = .close id ∧ id < s.1.dialled then 1 else 0 := by
  let calls := (Client.answer lib.logged k (s.1.unlogged, s.2)).2.1.library.2
  have log : (watch lib k s).2.1.log = (k, calls) :: s.1.log := rfl
  unfold Watched.disconnects
  rw [log, List.filter_cons]
  by_cases about : Session.linkOn k = some id
  · rw [if_pos (by simpa using about), List.flatMap_cons, disconnections, List.countP_append,
      Nat.add_comm]
    refine congrArg (disconnections _ + ·) ?_
    by_cases closes : ∃ m, k = .close m
    · obtain ⟨m, rfl⟩ := closes
      obtain rfl : m = id := Option.some.inj about
      refine (s.1.unlogged.disconnections_close lib s.2 m).trans ?_
      rw [show disconnections s.1.unlogged.library.2 = 0 from rfl, Nat.zero_add]
      by_cases dialled : m < s.1.dialled
      · exact (if_pos dialled).trans (if_pos ⟨rfl, dialled⟩).symm
      · exact (if_neg dialled).trans (if_neg fun both => dialled both.2).symm
    · rw [if_neg fun both => closes ⟨id, both.1⟩]
      exact s.1.unlogged.disconnections_other lib s.2 fun m same => closes ⟨m, same⟩
  · rw [if_neg (by simpa using about), if_neg (by rintro ⟨rfl, -⟩; exact about rfl)]
    rfl

end Watch

end Client

end RemoteTags.Ssh
