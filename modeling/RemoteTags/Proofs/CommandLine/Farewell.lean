import RemoteTags.Proofs.CommandLine.Custody
import RemoteTags.Proofs.Effect.Process
import RemoteTags.Proofs.Ssh.Watch
import RemoteTags.Ssh.Script

/-! The program closes the link that it has opened, whatever the host replies and in whatever order
the connects that it sets going are run. As long as the link is open, nobody else is there; from
then on, nobody can find it again. -/

namespace RemoteTags

open Session (Opener)

/-- Nothing is done to link `id`, given that nobody comes across it. -/
def avoiding (id : Remote.LinkId) : Terms Action Action.Reply where
  asks
    | .session (.install _ (.ok link)) => link.id ≠ id
    | .remote k => k ≠ .close id
    | _ => True
  tells
    | .session .current, r | .session (.takeOlder _), r => ∀ link, r = some link → link.id ≠ id
    | .session (.install _ _), r => ∀ link, r = .stale (some link) → link.id ≠ id
    | .opening _ _, r => ∀ link, r = some (.ok link) → link.id ≠ id
    | _, _ => True

abbrev Avoids {α : Type} (id : Remote.LinkId) (p : Act α) : Prop :=
  p.Meets (avoiding id) fun _ => True

def Foreign (id : Remote.LinkId) (o : Opener) : Prop :=
  ∃ s, Session.Tends s o ∧ ∀ m life, s.owned? = some (m, life) → m ≠ id

section Avoids

variable {id : Remote.LinkId}

theorem avoids_closeLink {link : Option Link} (other : ∀ l, link = some l → l.id ≠ id) :
    Avoids id (Session.closeLink link) := by
  cases link with
  | none => trivial
  | some l => exact ⟨fun same => other l rfl (by injection same), fun _ _ => trivial⟩

theorem avoids_conclude (g : Nat) {opened : Except ConnectError Link}
    (other : ∀ l, opened = .ok l → l.id ≠ id) : Avoids id (Session.conclude g opened) := by
  refine ⟨?_, fun r told => ?_⟩
  · cases opened with
    | ok l => exact other l rfl
    | error e => trivial
  · cases r with
    | connected | failed => trivial
    | stale link =>
      exact (avoids_closeLink fun l same => told l (congrArg _ same)).bind fun _ _ => trivial

theorem avoids_connectAs (c : Connection) (expected : Option Nat) :
    Avoids id (Session.connectAs c expected) := by
  refine ⟨trivial, fun g _ => ?_⟩
  cases g with
  | none => trivial
  | some g =>
    refine ⟨trivial, fun older told => (avoids_closeLink told).bind fun _ _ => ?_⟩
    refine ⟨trivial, fun opened told => ?_⟩
    cases opened with
    | none => exact avoids_conclude g nofun
    | some opened => exact avoids_conclude g fun l same => told l (congrArg some same)

end Avoids

namespace Ssh

variable {L : Type}

/-- Link `id` has been dialled and its session was never disconnected. -/
structure Open (id : Remote.LinkId) (h : Watched L) : Prop where
  dialled : id < h.dialled
  never : h.disconnects id = 0

structure Shut (id : Remote.LinkId) (h : Watched L) : Prop where
  dialled : id < h.dialled
  once : h.disconnects id = 1

/-- No session was disconnected of a link that has not been dialled. -/
def Unborn (h : Watched L) : Prop := ∀ id, h.dialled ≤ id → h.disconnects id = 0

end Ssh

open Ssh (Watched Open Shut Unborn Answering)

section Calls

variable {L : Type} {lib : Answering L} {w : World (Watched L)} {id : Remote.LinkId}
  {k : Remote.Call}

theorem disconnects_call (k : Remote.Call) (id : Remote.LinkId) :
    (w.call (Ssh.Client.watch lib) k).2.host.disconnects id =
      w.host.disconnects id + if k = .close id ∧ id < w.host.dialled then 1 else 0 :=
  Ssh.Client.disconnects_watch lib (w.host, w.disk) k id

theorem dialled_call (k : Remote.Call) :
    w.host.dialled ≤ (w.call (Ssh.Client.watch lib) k).2.host.dialled :=
  Ssh.Client.dialled_watch lib (w.host, w.disk) k

theorem dial_call {c : Connection}
    (dialled : (w.call (Ssh.Client.watch lib) (.dial c)).1 = .ok id) :
    id = w.host.dialled ∧
      (w.call (Ssh.Client.watch lib) (.dial c)).2.host.dialled = w.host.dialled + 1 :=
  Ssh.Client.watch_dial_ok lib (w.host, w.disk) dialled

theorem disconnects_call_of_ne (other : k ≠ .close id) :
    (w.call (Ssh.Client.watch lib) k).2.host.disconnects id = w.host.disconnects id := by
  rw [disconnects_call, if_neg fun both => other both.1]
  rfl

theorem Ssh.Open.call (opened : Open id w.host) (other : k ≠ .close id) :
    Open id (w.call (Ssh.Client.watch lib) k).2.host :=
  ⟨Nat.lt_of_lt_of_le opened.dialled (dialled_call k),
    (disconnects_call_of_ne other).trans opened.never⟩

theorem Ssh.Shut.call (shut : Shut id w.host) (other : k ≠ .close id) :
    Shut id (w.call (Ssh.Client.watch lib) k).2.host :=
  ⟨Nat.lt_of_lt_of_le shut.dialled (dialled_call k),
    (disconnects_call_of_ne other).trans shut.once⟩

theorem Ssh.Open.close (opened : Open id w.host) :
    Shut id (w.call (Ssh.Client.watch lib) (.close id)).2.host := by
  refine ⟨Nat.lt_of_lt_of_le opened.dialled (dialled_call _), ?_⟩
  rw [disconnects_call, opened.never, if_pos ⟨rfl, opened.dialled⟩]

theorem Ssh.Unborn.call (unborn : Unborn w.host) (k : Remote.Call) :
    Unborn (w.call (Ssh.Client.watch lib) k).2.host := by
  intro id later
  have later : w.host.dialled ≤ id := Nat.le_trans (dialled_call k) later
  rw [disconnects_call, unborn id later, if_neg fun both => absurd both.2 (Nat.not_lt.2 later)]

theorem Ssh.Open.of_dial {c : Connection} (unborn : Unborn w.host)
    (dialled : (w.call (Ssh.Client.watch lib) (.dial c)).1 = .ok id) :
    Open id (w.call (Ssh.Client.watch lib) (.dial c)).2.host := by
  obtain ⟨rfl, more⟩ := dial_call dialled
  refine ⟨by rw [more]; exact Nat.lt_succ_self _, ?_⟩
  rw [disconnects_call_of_ne fun h => by cases h]
  exact unborn _ (Nat.le_refl _)

end Calls

namespace Custody

section Fits

variable {L : Type} {lib : Answering L} {d : Local.Disk} {w : World (Watched L)}
  {o : Option Opener} {id : Remote.LinkId}

def InSlot (id : Remote.LinkId) (s : Session) : Prop :=
  ∃ link, s.slot = some link ∧ link.id = id ∧ link.generation = 1

/-- The session of link `id` was disconnected, and the link is not to be found any more. -/
structure Lost (id : Remote.LinkId) (w : World (Watched L)) : Prop where
  shut : Shut id w.host
  away : ∀ link, w.session.slot = some link → link.id ≠ id

def Opening (w : World (Watched L)) (o : Opener) : Prop :=
  Session.Opens 1 o ∧
    ∃ s, Session.Tends s o ∧ ∀ id life, s.owned? = some (id, life) → Open id w.host

/-- The world in which the link is where the custody says; `o` is the open that the program
waits for. -/
def Fits (d : Local.Disk) (w : World (Watched L)) (o : Option Opener) : Custody → Prop
  | early => o = none ∧ w.session = {} ∧ w.disk = d
  | begun =>
    (∀ p, o = some p → Opening w p) ∧ w.session.status.generation = 1 ∧ w.session.slot = none
  | fresh link =>
    o = none ∧ w.session.status.generation = 1 ∧ link.generation = 1 ∧ Open link.id w.host
  | kept id n => o = none ∧ w.session.status.generation = n ∧ InSlot id w.session ∧ Open id w.host
  | broken id => o = none ∧ Shut id w.host
  | taken id => o = none ∧ w.session.slot = none ∧ Open id w.host
  | gone id => o = none ∧ Lost id w
  | left id => o = none ∧ Open id w.host
  | failed => True

theorem slot_of_current {s : Session} {link : Link} (told : s.current = some link) :
    s.slot = some link := (Option.filter_eq_some_iff.1 told).1

theorem slot_of_takeOlder {s : Session} {g : Nat} {link : Link}
    (told : (s.takeOlder g).1 = some link) : s.slot = some link := by
  rcases s.takeOlder_eq g with kept | ⟨older, inSlot, taken⟩
  · rw [kept] at told
    cases told
  · rw [taken] at told
    exact inSlot.trans told

theorem takeOlder_inSlot {s : Session} {n : Nat} (inSlot : InSlot id s) (later : 1 < n) :
    (∃ link, (s.takeOlder n).1 = some link ∧ link.id = id) ∧ (s.takeOlder n).2.slot = none := by
  obtain ⟨link, here, same, first⟩ := inSlot
  have older : link.generation < n := by omega
  unfold Session.takeOlder
  rw [here]
  dsimp only
  rw [if_pos older]
  exact ⟨⟨link, rfl, same⟩, rfl⟩

theorem opened_of_stale {s : Session} {g : Nat} {opened : Except ConnectError Link} {link : Link}
    (told : (s.install g opened).1 = .stale (some link)) : opened = .ok link := by
  by_cases newest : s.status.generation = g
  · subst newest
    exact absurd told (s.install_newest_ne_stale opened _)
  · rw [s.install_of_ne newest] at told
    cases opened with
    | ok other =>
      cases told
      rfl
    | error e => cases told

theorem Lost.replied {q : Action} {r : q.Reply} {w' : World (Watched L)} (lost : Lost id w)
    (asks : (avoiding id).asks q) (replied : w.Replied (Ssh.Client.watch lib) q r w') :
    (avoiding id).tells q r ∧ Lost id w' := by
  cases replied with
  | remote k => exact ⟨trivial, lost.shut.call asks, lost.away⟩
  | cache | clock | random => exact ⟨trivial, lost.shut, lost.away⟩
  | disk => exact ⟨trivial, lost.shut, lost.away⟩
  | session x =>
    refine ⟨?_, lost.shut, fun link inSlot => ?_⟩
    · cases x with
      | current => exact fun link told => lost.away link (slot_of_current told)
      | takeOlder g => exact fun link told => lost.away link (slot_of_takeOlder told)
      | install g opened =>
        intro link told
        obtain rfl := opened_of_stale told
        exact asks
      | _ => exact trivial
    · rcases Session.slot_of_answer inSlot with ⟨old, here, same⟩ | rfl
      · exact same ▸ lost.away old here
      · exact asks

section Replied

variable {q : Action} {r : q.Reply} {w' : World (Watched L)}

theorem early_replied (fits : early.Fits d w o) (allowed : early.Allows q)
    (replied : w.Replied (Ssh.Client.watch lib) q r w') :
    early.Tells d q r ∧ (early.after q r).Fits d w' o := by
  obtain ⟨idle, session, disk⟩ := fits
  cases replied with
  | session x =>
    rw [session]
    match x, allowed with
    | .begin _ none, _ => exact ⟨rfl, fun p running => absurd running (idle ▸ nofun), rfl, rfl⟩
    | .status, _ => exact ⟨trivial, idle, rfl, disk⟩
    | .takeOlder _, _ => exact ⟨rfl, idle, rfl, disk⟩
  | @disk k r d' n answers =>
    match k, allowed with
    | .read path, _ | .readNearest path, _ | .pathExists path, _ =>
      rcases answers with answered | ⟨-, e, refused⟩
      · cases answered
        exact ⟨disk ▸ rfl, idle, session, disk⟩
      · cases refused
  | remote | cache | clock | random => exact allowed.elim

theorem begun_replied (fits : begun.Fits d w o) (allowed : begun.Allows q)
    (replied : w.Replied (Ssh.Client.watch lib) q r w') :
    begun.Tells d q r ∧ (begun.after q r).Fits d w' o := by
  obtain ⟨opening, generation, empty⟩ := fits
  cases replied with
  | session x =>
    match x, allowed with
    | .takeOlder g, _ =>
      have none : w.session.takeOlder g = (none, w.session) := by
        unfold Session.takeOlder
        rw [empty]
      dsimp only [Session.Section.answer]
      rw [none]
      exact ⟨rfl, opening, generation, empty⟩
  | remote | cache | disk | clock | random => exact allowed.elim

theorem fresh_replied {link : Link} (fits : (fresh link).Fits d w o)
    (allowed : (fresh link).Allows q) (replied : w.Replied (Ssh.Client.watch lib) q r w') :
    (fresh link).Tells d q r ∧ ((fresh link).after q r).Fits d w' o := by
  obtain ⟨idle, generation, first, opened⟩ := fits
  cases replied with
  | session x =>
    match x, allowed with
    | .install n p, ⟨newest, success⟩ =>
      subst newest success
      have installs := w.session.install_newest link
      rw [generation] at installs
      dsimp only [Session.Section.answer]
      rw [installs]
      exact ⟨rfl, idle, generation, ⟨link, rfl, rfl, first⟩, opened⟩
  | remote | cache | disk | clock | random => exact allowed.elim

theorem kept_replied {n : Nat} (fits : (kept id n).Fits d w o) (allowed : (kept id n).Allows q)
    (replied : w.Replied (Ssh.Client.watch lib) q r w') :
    (kept id n).Tells d q r ∧ ((kept id n).after q r).Fits d w' o := by
  obtain ⟨idle, generation, inSlot, opened⟩ := fits
  cases replied with
  | session x =>
    match x, allowed with
    | .current, (first : n = 1) =>
      obtain ⟨link, here, same, oldest⟩ := inSlot
      refine ⟨⟨link, ?_, same⟩, idle, generation, ⟨link, here, same, oldest⟩, opened⟩
      exact Option.filter_eq_some_iff.2 ⟨here, by simp [oldest, generation, first]⟩
    | .takeOlder m, later =>
      obtain ⟨told, empty⟩ := takeOlder_inSlot inSlot later
      exact ⟨told, idle, empty, opened⟩
    | .hold, _ | .release, _ => exact ⟨trivial, idle, generation, inSlot, opened⟩
    | .status, _ => exact ⟨generation, idle, generation, inSlot, opened⟩
    | .useShellStat, _ =>
      obtain ⟨link, here, same, oldest⟩ := inSlot
      have still : InSlot id w.session.useShellStat :=
        ⟨{ link with shellStat := true }, congrArg (Option.map _) here, same, oldest⟩
      exact ⟨trivial, idle, generation, still, opened⟩
    | .beginDisconnect, _ =>
      exact ⟨congrArg (· + 1) generation, idle, congrArg (· + 1) generation, inSlot, opened⟩
  | remote k =>
    rcases allowed with op | rfl
    · rw [kept_after op]
      exact ⟨trivial, idle, generation, inSlot, opened.call (ne_close_of_operatesOn op id)⟩
    · exact ⟨trivial, idle, opened.close⟩
  | cache | disk | clock | random => exact ⟨trivial, idle, generation, inSlot, opened⟩

theorem broken_replied (fits : (broken id).Fits d w o) (allowed : (broken id).Allows q)
    (replied : w.Replied (Ssh.Client.watch lib) q r w') :
    (broken id).Tells d q r ∧ ((broken id).after q r).Fits d w' o := by
  obtain ⟨idle, shut⟩ := fits
  cases replied with
  | session x =>
    match x, allowed with
    | .drop, _ =>
      refine ⟨trivial, idle, shut, fun link inSlot => ?_⟩
      dsimp only [Session.Section.answer] at inSlot
      rcases w.session.drop_cases with ⟨-, empty⟩ | ⟨_, -, -, dropped⟩
      · rw [empty] at inSlot
        cases inSlot
      · rw [dropped] at inSlot
        cases inSlot
  | remote | cache | disk | clock | random => exact allowed.elim

theorem taken_replied (fits : (taken id).Fits d w o) (allowed : (taken id).Allows q)
    (replied : w.Replied (Ssh.Client.watch lib) q r w') :
    (taken id).Tells d q r ∧ ((taken id).after q r).Fits d w' o := by
  obtain ⟨idle, empty, opened⟩ := fits
  cases replied with
  | remote k =>
    rcases allowed with rfl | rfl
    · exact ⟨trivial, idle, opened.close, fun link inSlot => by cases empty.symm.trans inSlot⟩
    · exact ⟨trivial, idle, opened.call nofun⟩
  | session | cache | disk | clock | random => exact allowed.elim

theorem gone_replied (fits : (gone id).Fits d w o) (allowed : (gone id).Allows q)
    (replied : w.Replied (Ssh.Client.watch lib) q r w') :
    (gone id).Tells d q r ∧ ((gone id).after q r).Fits d w' o := by
  obtain ⟨idle, lost⟩ := fits
  have asks : (avoiding id).asks q := by
    cases q with
    | session x =>
      cases x with
      | install => exact allowed.elim
      | _ => exact trivial
    | remote k => exact allowed
    | _ => exact trivial
  obtain ⟨told, lost⟩ := lost.replied asks replied
  refine ⟨?_, idle, lost⟩
  cases q with
  | session x =>
    cases x with
    | current | takeOlder => exact told
    | _ => exact trivial
  | _ => exact trivial

theorem failed_replied (allowed : failed.Allows q)
    (replied : w.Replied (Ssh.Client.watch lib) q r w') : failed.Tells d q r := by
  cases replied with
  | session x =>
    cases x with
    | install g p =>
      cases p with
      | ok link => exact allowed.elim
      | error e =>
        dsimp only [Tells, Session.Section.answer]
        unfold Session.install
        split <;> exact nofun
    | _ => exact trivial
  | _ => exact trivial

theorem Fits.replied {c : Custody} (fits : c.Fits d w o) (allowed : c.Allows q)
    (replied : w.Replied (Ssh.Client.watch lib) q r w') :
    c.Tells d q r ∧ (c.after q r).Fits d w' o := by
  cases c with
  | early => exact early_replied fits allowed replied
  | begun => exact begun_replied fits allowed replied
  | fresh => exact fresh_replied fits allowed replied
  | kept => exact kept_replied fits allowed replied
  | broken => exact broken_replied fits allowed replied
  | taken => exact taken_replied fits allowed replied
  | gone => exact gone_replied fits allowed replied
  | left => exact allowed.elim
  | failed => exact ⟨failed_replied allowed replied, trivial⟩

end Replied

def link? : Custody → Option Remote.LinkId
  | kept id _ | broken id | taken id | gone id | left id => some id
  | _ => none

theorem link?_after {c : Custody} {q : Action} (allowed : c.Allows q) (r : q.Reply)
    (known : c.link? = some id) : (c.after q r).link? = some id := by
  fun_cases Custody.after c q r <;> first | exact known | cases known

theorem link?_install {c : Custody} {q : Action} {r : q.Reply} {link : Link} (allowed : c.Allows q)
    (installs : installed? ⟨q, r⟩ = some link) : (c.after q r).link? = some link.id := by
  match q, r, installs with
  | .session (.install n (.ok _)), .connected, rfl =>
    cases c with
    | fresh known =>
      obtain ⟨-, ⟨⟩⟩ := allowed
      rfl
    | _ => exact allowed.elim

structure Away (id : Remote.LinkId) (f : Follower) : Prop where
  avoids : Avoids id f.rest
  foreign : ∀ o, f.opener = some o → Foreign id o

/-- Nobody else is there before the link is gone, and then nobody does anything to it. -/
def Company (fs : List Follower) (os : List Opener) : Custody → Prop
  | gone id => (∀ f ∈ fs, Away id f) ∧ ∀ o ∈ os, Foreign id o
  | failed => True
  | _ => fs = [] ∧ os = []

theorem away_start (r : Reconnect) : Away id (.start r) := ⟨avoids_connectAs _ _, nofun⟩

theorem startedBy_cases (q : Action) (r : q.Reply) :
    startedBy (some ⟨q, r⟩) = [] ∨
      ∃ x, q = .session (.schedule x) ∧ startedBy (some ⟨q, r⟩) = [.start x] := by
  cases q with
  | session x =>
    cases x with
    | schedule x => exact .inr ⟨x, rfl, rfl⟩
    | _ => exact .inl rfl
  | _ => exact .inl rfl

theorem away_started {q : Action} {r : q.Reply} {f : Follower}
    (started : f ∈ startedBy (some ⟨q, r⟩)) : Away id f := by
  rcases startedBy_cases q r with none | ⟨x, -, one⟩
  · rw [none] at started
    cases started
  · rw [one] at started
    obtain rfl := List.mem_singleton.1 started
    exact away_start x

theorem company_nil (c : Custody) : c.Company [] [] := by
  cases c with
  | gone => exact ⟨nofun, nofun⟩
  | failed => trivial
  | _ => exact ⟨rfl, rfl⟩

theorem Company.after {fs : List Follower} {os : List Opener} {c : Custody} {q : Action}
    (company : c.Company fs os) (allowed : c.Allows q) (r : q.Reply) :
    (c.after q r).Company (fs ++ startedBy (some ⟨q, r⟩)) os := by
  by_cases lost : c = failed ∨ ∃ id, c = gone id
  · rcases lost with rfl | ⟨id, rfl⟩
    · trivial
    · refine ⟨fun f present => ?_, company.2⟩
      exact (List.mem_append.1 present).elim (company.1 f) away_started
  · -- Nobody is scheduled, so the program stays alone.
    have alone : fs = [] ∧ os = [] := by
      cases c with
      | gone id => exact absurd (.inr ⟨id, rfl⟩) lost
      | failed => exact absurd (.inl rfl) lost
      | _ => exact company
    obtain ⟨rfl, rfl⟩ := alone
    rcases startedBy_cases q r with none | ⟨x, rfl, -⟩
    · rw [none]
      exact company_nil _
    · cases c with
      | gone id => exact absurd (.inr ⟨id, rfl⟩) lost
      | failed => exact absurd (.inl rfl) lost
      | _ => exact allowed.elim

end Fits

end Custody

open Custody

section Process

variable {L α : Type} {lib : Answering L} {d : Local.Disk} {ends : Custody → α → Prop}

theorem Ssh.Unborn.replied {w w' : World (Watched L)} {q : Action} {r : q.Reply}
    (unborn : Unborn w.host) (replied : w.Replied (Ssh.Client.watch lib) q r w') :
    Unborn w'.host := by
  cases replied with
  | remote k => exact unborn.call k
  | _ => exact unborn

theorem Ssh.Unborn.goes {turn : Turn} {t : Task α} {w : World (Watched L)}
    {m : Moved (Watched L) α} (unborn : Unborn w.host)
    (goes : t.Goes (Ssh.Client.watch lib) turn w m) : Unborn m.world.host := by
  cases goes with
  | hears _ other reply => exact unborn.replied (World.replied_of_reply? other reply)
  | @proceeds k _ _ => exact unborn.call k
  | _ => exact unborn

theorem Custody.Opening.proceeds {w : World (Watched L)} {k : Remote.Call}
    {resume : k.Reply → Opener} (opening : Opening w (.ask k resume)) (unborn : Unborn w.host) :
    Opening (w.call (Ssh.Client.watch lib) k).2
      (resume (w.call (Ssh.Client.watch lib) k).1) := by
  obtain ⟨opens, s, ⟨allowed, tends⟩, owns⟩ := opening
  refine ⟨opens _, s.after k _, tends _, fun id life owned => ?_⟩
  match s, k, allowed with
  | .dialling, .dial c, _ =>
    generalize dialled : (w.call (Ssh.Client.watch lib) (.dial c)).1 = r at owned
    cases r with
    | error e => cases owned
    | ok new =>
      cases owned
      exact .of_dial unborn dialled
  | .asking l, .home m, _ =>
    cases owned
    exact (owns _ _ rfl).call nofun
  | .ending l, .close m, _ => cases owned

theorem opening_openLink (w : World (Watched L)) (c : Connection) :
    Opening w (Session.openLink c 1) :=
  ⟨Session.opens_openLink c 1, .dialling, Session.tends_openLink c 1, nofun⟩

theorem Custody.Opening.opened {w : World (Watched L)} {link : Link}
    (opening : Opening w (.done (.ok link))) : link.generation = 1 ∧ Open link.id w.host := by
  obtain ⟨opens, s, ends, owns⟩ := opening
  match s, ends with
  | .ending l, (same : link.id = l) => exact ⟨opens link rfl, same ▸ owns l _ rfl⟩

theorem Foreign.proceeds {w : World (Watched L)} {id : Remote.LinkId} {k : Remote.Call}
    {resume : k.Reply → Opener} (foreign : Foreign id (.ask k resume)) (shut : Shut id w.host) :
    k ≠ .close id ∧ Foreign id (resume (w.call (Ssh.Client.watch lib) k).1) := by
  obtain ⟨s, ⟨allowed, tends⟩, owns⟩ := foreign
  match s, k, allowed with
  | .dialling, .dial c, _ =>
    refine ⟨nofun, _, tends _, fun m life owned => ?_⟩
    generalize dialled : (w.call (Ssh.Client.watch lib) (.dial c)).1 = r at owned
    cases r with
    | error e => cases owned
    | ok new =>
      cases owned
      exact (dial_call dialled).1 ▸ Nat.ne_of_gt shut.dialled
  | .asking l, .home m, _ =>
    refine ⟨nofun, _, tends _, fun m life owned => ?_⟩
    cases owned
    exact owns l _ rfl
  | .ending l, .close m, (same : m = l) =>
    refine ⟨fun closes => ?_, _, tends _, fun m life owned => by cases owned⟩
    cases closes
    exact owns l _ rfl same.symm

theorem foreign_openLink (id : Remote.LinkId) (c : Connection) (g : Nat) :
    Foreign id (Session.openLink c g) :=
  ⟨.dialling, Session.tends_openLink c g, nofun⟩

theorem Foreign.opened {id : Remote.LinkId} {link : Link}
    (foreign : Foreign id (.done (.ok link))) :
    link.id ≠ id := by
  obtain ⟨s, ends, owns⟩ := foreign
  match s, ends with
  | .ending l, (same : link.id = l) => exact same ▸ owns l _ rfl

structure Kept (d : Local.Disk) (ends : Custody → α → Prop) (c : Custody)
    (p : Process (Watched L) α) : Prop where
  guards : Guards d ends c p.main.rest
  fits : c.Fits d p.world p.main.opener
  unborn : Unborn p.world.host
  company : c.Company p.followers p.strays
  heard : ∀ e ∈ p.heard, ∀ link, installed? e = some link → c.link? = some link.id

namespace Kept

variable {c : Custody} {p : Process (Watched L) α}

theorem heard_opening (kept : Kept d ends c p) (unlinked : c.link? = none) (connection : Connection)
    (g : Nat) (r : Option (Except ConnectError Link)) (b : Custody) :
    ∀ e ∈ ⟨.opening connection g, r⟩ :: p.heard, ∀ link, installed? e = some link →
      b.link? = some link.id := by
  intro e heard link installs
  rcases List.mem_cons.1 heard with rfl | old
  · cases installs
  · cases unlinked.symm.trans (kept.heard e old link installs)

theorem turned (kept : Kept d ends c p) (time tokens : Nat) :
    Kept d ends c { p with world := { p.world with time := time, tokens := tokens } } where
  guards := kept.guards
  fits := by
    have fits := kept.fits
    cases c with
    | gone id => exact ⟨fits.1, fits.2.shut, fits.2.away⟩
    | _ => exact fits
  unborn := kept.unborn
  company := kept.company
  heard := kept.heard

theorem begun_of_opening (kept : Kept d ends c p) {connection : Connection} {g : Nat}
    {next : Option (Except ConnectError Link) → Act α}
    (asks : p.main.rest = .ask (.opening connection g) next) : c = begun ∧ g = 1 ∨ c = failed := by
  have guards := kept.guards
  rw [asks] at guards
  cases c with
  | begun => exact .inl ⟨rfl, guards.1⟩
  | failed => exact .inr rfl
  | _ => exact guards.1.elim

theorem unlinked_of_opening (kept : Kept d ends c p) {connection : Connection} {g : Nat}
    {next : Option (Except ConnectError Link) → Act α}
    (asks : p.main.rest = .ask (.opening connection g) next) : c.link? = none := by
  rcases kept.begun_of_opening asks with ⟨rfl, -⟩ | rfl <;> rfl

theorem begun_of_opener (kept : Kept d ends c p) {o : Opener} (runs : p.main.opener = some o) :
    c = begun ∨ c = failed := by
  have fits := kept.fits
  rw [runs] at fits
  cases c with
  | begun => exact .inl rfl
  | failed => exact .inr rfl
  | _ => cases fits.1

theorem moved {turn : Turn} {m : Moved (Watched L) α} (kept : Kept d ends c p)
    (goes : p.main.Goes (Ssh.Client.watch lib) turn p.world m) :
    ∃ c, Kept d ends c (p.moved m) := by
  have unborn := kept.unborn.goes goes
  -- Unless the program hears something, nobody comes.
  have company : c.Company (p.followers ++ []) (p.strays ++ []) := by simpa using kept.company
  cases goes with
  | stays => exact ⟨c, kept.guards, kept.fits, unborn, company, kept.heard⟩
  | @hears q next r w asks other reply =>
    have guards := kept.guards
    rw [asks] at guards
    have ⟨told, fits⟩ := kept.fits.replied guards.1 (World.replied_of_reply? other reply)
    refine ⟨c.after q r, guards.2 r told, fits, unborn, ?_, fun e heard link installs => ?_⟩
    · simpa [Process.moved] using kept.company.after guards.1 r
    · rcases List.mem_cons.1 heard with rfl | old
      · exact link?_install guards.1 installs
      · exact link?_after guards.1 r (kept.heard e old link installs)
  | @launches connection g next asks idle =>
    rcases kept.begun_of_opening asks with ⟨rfl, rfl⟩ | rfl
    · refine ⟨begun, kept.guards, ⟨?_, kept.fits.2⟩, unborn, company, kept.heard⟩
      rintro o ⟨⟩
      exact opening_openLink _ connection
    · exact ⟨failed, kept.guards, trivial, unborn, company, kept.heard⟩
  | @leaves connection g next o asks runs =>
    have guards := kept.guards
    rw [asks] at guards
    refine ⟨failed, ?_, trivial, unborn, trivial,
      kept.heard_opening (kept.unlinked_of_opening asks) connection g none failed⟩
    rcases kept.begun_of_opening asks with ⟨rfl, rfl⟩ | rfl
    · exact guards.2 none trivial
    · exact guards.2 none trivial
  | @opened connection g next o asks ended =>
    have guards := kept.guards
    rw [asks] at guards
    have unlinked := kept.heard_opening (kept.unlinked_of_opening asks) connection g (some o)
    rcases kept.begun_of_opening asks with ⟨rfl, rfl⟩ | rfl
    · cases o with
      | error e =>
        exact ⟨failed, guards.2 (some (.error e)) trivial, trivial, unborn, trivial,
          unlinked failed⟩
      | ok link =>
        obtain ⟨opening, generation, -⟩ := kept.fits
        exact ⟨fresh link, guards.2 (some (.ok link)) trivial,
          ⟨rfl, generation, (opening _ ended).opened⟩, unborn, company, unlinked (fresh link)⟩
    · exact ⟨failed, guards.2 (some o) trivial, trivial, unborn, trivial, unlinked failed⟩
  | @proceeds k resume runs =>
    rcases kept.begun_of_opener runs with rfl | rfl
    · obtain ⟨opening, generation, empty⟩ := kept.fits
      refine ⟨begun, kept.guards, ⟨?_, generation, empty⟩, unborn, company, kept.heard⟩
      rintro o ⟨⟩
      exact (opening _ runs).proceeds kept.unborn
    · exact ⟨failed, kept.guards, trivial, unborn, company, kept.heard⟩

theorem followed (kept : Kept d ends c p) {f : Follower} (present : f ∈ p.followers) :
    (∃ id, c = gone id) ∨ c = failed := by
  have company := kept.company
  cases c with
  | gone id => exact .inl ⟨id, rfl⟩
  | failed => exact .inr rfl
  | _ => cases company.1 ▸ present

theorem strayed (kept : Kept d ends c p) {o : Opener} (present : o ∈ p.strays) :
    (∃ id, c = gone id) ∨ c = failed := by
  have company := kept.company
  cases c with
  | gone id => exact .inl ⟨id, rfl⟩
  | failed => exact .inr rfl
  | _ => cases company.2 ▸ present

end Kept

theorem Custody.Away.goes {id : Remote.LinkId} {turn : Turn} {f : Follower}
    {w : World (Watched L)} {m : Moved (Watched L) (Except ConnectError Unit)} (away : Away id f)
    (lost : Lost id w) (goes : f.Goes (Ssh.Client.watch lib) turn w m) :
    Away id m.task ∧ Lost id m.world ∧ ∀ o ∈ m.stray, Foreign id o := by
  have avoids := away.avoids
  cases goes with
  | stays => exact ⟨away, lost, nofun⟩
  | hears asks other reply =>
    rw [asks] at avoids
    obtain ⟨told, lost⟩ := lost.replied avoids.1 (World.replied_of_reply? other reply)
    exact ⟨⟨avoids.2 _ told, away.foreign⟩, lost, nofun⟩
  | launches asks idle =>
    refine ⟨⟨avoids, ?_⟩, lost, nofun⟩
    rintro o ⟨⟩
    exact foreign_openLink id _ _
  | leaves asks runs =>
    rw [asks] at avoids
    refine ⟨⟨avoids.2 none nofun, nofun⟩, lost, ?_⟩
    rintro o ⟨⟩
    exact away.foreign _ runs
  | @opened connection g next o asks ended =>
    rw [asks] at avoids
    refine ⟨⟨avoids.2 (some o) ?_, nofun⟩, lost, nofun⟩
    rintro link ⟨⟩
    exact (away.foreign _ ended).opened
  | proceeds runs =>
    obtain ⟨other, foreign⟩ := (away.foreign _ runs).proceeds lost.shut
    refine ⟨⟨avoids, ?_⟩, ⟨lost.shut.call other, lost.away⟩, nofun⟩
    rintro o ⟨⟩
    exact foreign

namespace Kept

variable {c : Custody} {p : Process (Watched L) α}

theorem movedFollower {turn : Turn} {i : Nat} {f : Follower}
    {m : Moved (Watched L) (Except ConnectError Unit)} (kept : Kept d ends c p)
    (present : p.followers[i]? = some f)
    (goes : f.Goes (Ssh.Client.watch lib) turn p.world m) :
    Kept d ends c (p.movedFollower i m) := by
  have unborn := kept.unborn.goes goes
  have present := List.mem_of_getElem? present
  rcases kept.followed present with ⟨id, rfl⟩ | rfl
  · obtain ⟨away, lost, strays⟩ := (kept.company.1 f present).goes kept.fits.2 goes
    refine ⟨kept.guards, ⟨kept.fits.1, lost⟩, unborn, ⟨fun g there => ?_, fun o there => ?_⟩,
      kept.heard⟩
    · rcases List.mem_append.1 there with old | new
      · rcases List.mem_or_eq_of_mem_set old with old | rfl
        · exact kept.company.1 g old
        · exact away
      · cases heard : m.heard with
        | none =>
          rw [heard] at new
          cases new
        | some e =>
          rw [heard] at new
          exact away_started new
    · rcases List.mem_append.1 there with old | new
      · exact kept.company.2 o old
      · exact strays o (Option.mem_toList.1 new)
  · exact ⟨kept.guards, trivial, unborn, trivial, kept.heard⟩

theorem movedStray {i : Nat} {o : Opener} {w : World (Watched L)}
    (kept : Kept d ends c { p with world := w }) (present : p.strays[i]? = some o) :
    Kept d ends c (p.movedStray (Ssh.Client.watch lib) i o w) := by
  have present := List.mem_of_getElem? present
  rcases kept.strayed present with ⟨id, rfl⟩ | rfl
  · have lost := kept.fits.2
    have erased : ∀ o ∈ p.strays.eraseIdx i, Foreign id o := fun o there =>
      kept.company.2 o (List.mem_of_mem_eraseIdx there)
    match o, kept.company.2 _ present with
    | .ask k resume, foreign =>
      obtain ⟨other, foreign⟩ := foreign.proceeds lost.shut
      refine ⟨kept.guards, ⟨kept.fits.1, lost.shut.call other, lost.away⟩, kept.unborn.call k,
        ⟨kept.company.1, fun o there => ?_⟩, kept.heard⟩
      rcases List.mem_or_eq_of_mem_set there with old | rfl
      · exact kept.company.2 o old
      · exact foreign
    | .done (.ok link), _ =>
      exact ⟨kept.guards, ⟨kept.fits.1, lost.shut.call (k := .abandon link.id) nofun, lost.away⟩,
        kept.unborn.call (.abandon link.id), ⟨kept.company.1, erased⟩, kept.heard⟩
    | .done (.error e), _ =>
      exact ⟨kept.guards, kept.fits, kept.unborn, ⟨kept.company.1, erased⟩, kept.heard⟩
  · match o with
    | .ask k resume => exact ⟨kept.guards, trivial, kept.unborn.call k, trivial, kept.heard⟩
    | .done (.ok link) =>
      exact ⟨kept.guards, trivial, kept.unborn.call (.abandon link.id), trivial, kept.heard⟩
    | .done (.error e) => exact ⟨kept.guards, trivial, kept.unborn, trivial, kept.heard⟩

theorem step (kept : Kept d ends c p) (turn : Turn) :
    ∃ c, Kept d ends c (p.step (Ssh.Client.watch lib) turn) := by
  have kept := kept.turned turn.time turn.tokens
  unfold Process.step
  cases turn.mover with
  | main => exact kept.moved (Task.move_goes _ _ _ _)
  | follower i =>
    dsimp only
    split
    · exact ⟨c, by assumption⟩
    · rename_i f present
      exact ⟨c, kept.movedFollower present (Task.move_goes _ _ _ _)⟩
  | stray i =>
    dsimp only
    split
    · exact ⟨c, by assumption⟩
    · rename_i o present
      exact ⟨c, kept.movedStray present⟩

theorem start (l : L) {program : Act α} (guards : Guards d ends early program) :
    Kept d ends early
      (Process.start { host := { client := { library := l } }, disk := d } program) where
  guards := guards
  fits := ⟨rfl, rfl, rfl⟩
  unborn := fun _ _ => rfl
  company := ⟨rfl, rfl⟩
  heard := fun _ present => absurd present List.not_mem_nil

theorem play (lib : Answering L) (l : L) {program : Act α} (guards : Guards d ends early program)
    (turns : List Turn) :
    ∃ c, Kept d ends c
      ((Process.start { host := { client := { library := l } }, disk := d } program).play
        (Ssh.Client.watch lib) turns) := by
  refine Process.play_induction (I := fun p => ∃ c, Kept d ends c p) (fun p turn holds => ?_) turns
    ⟨early, .start l guards⟩
  obtain ⟨c, holds⟩ := holds
  exact holds.step turn

end Kept

end Process

/-- A run of the program on the library `lib`, with the turns as they come. -/
def CommandLine.played {L : Type} (lib : Answering L) (l : L) (env : Config.Environment)
    (args : List String) (d : Local.Disk) (turns : List Turn) : Process (Watched L) Exit :=
  (Process.start { host := { client := { library := l } }, disk := d } (run env args)).play
    (Ssh.Client.watch lib) turns

/-- A run that has connected ends with the session of its link disconnected once, unless the
symbol to go to leaves the tag undecided; the session is then not disconnected. -/
theorem CommandLine.disconnects_installed {L : Type} (lib : Answering L) (l : L)
    (env : Config.Environment) (args : List String) (d : Local.Disk) (turns : List Turn)
    {link : Link} {exit : Exit} (installed : link ∈ (played lib l env args d turns).installed)
    (ended : (played lib l env args d turns).main.rest.result? = some exit) :
    (¬ Undecided env args d → (played lib l env args d turns).world.host.disconnects link.id = 1) ∧
      (Undecided env args d →
        (played lib l env args d turns).world.host.disconnects link.id = 0) := by
  obtain ⟨c, kept⟩ := Kept.play lib l (guards_run env args d) turns
  obtain ⟨e, heard, installs⟩ := List.mem_filterMap.1 installed
  have known := kept.heard e heard link installs
  have ends := kept.guards
  have fits := kept.fits
  change Guards d _ c (played lib l env args d turns).main.rest at ends
  rw [Program.eq_done_of_result? ended] at ends
  cases c with
  | gone id =>
    cases known
    exact ⟨fun _ => fits.2.shut.once, fun undecided => absurd undecided ends⟩
  | left id =>
    cases known
    exact ⟨fun decided => absurd ends decided, fun _ => fits.2.never⟩
  | early | failed => cases known
  | _ => exact ends.elim

namespace CommandLine

def sampleEnvironment : Config.Environment :=
  [("CTAGSSH_HOST", "box"), ("CTAGSSH_USERNAME", "dev")]

def sampleOpened : Link := ⟨0, "/home/dev", false, {}, 1⟩

def listingRun : Process (Watched Ssh.Script) Exit :=
  played Ssh.Script.answer {} sampleEnvironment ["list-tags"] {} (List.replicate 15 {})

theorem listing_decided : ¬ Undecided sampleEnvironment ["list-tags"] {} := by
  rintro ⟨a, symbol, pick, -, -, -, parsed, goes, -⟩
  have lists : (parse (loaded sampleEnvironment {}) ["list-tags"]).toOption =
      some { command := .listTags } := by decide +kernel
  rw [parsed] at lists
  cases lists
  cases goes

def emptyTags : Local.Disk := { nodes := [([".tags"], .file [])] }

def unknownRun (turns : Nat) : Process (Watched Ssh.Script) Exit :=
  played Ssh.Script.answer {} sampleEnvironment ["goto", "nope"] emptyTags (List.replicate turns {})

def sampleNavigator : Navigator := { settings := .ofConfig { host := "box", username := "dev" } }

theorem choose_unknown :
    choose "nope" none (wantsColours sampleEnvironment && !false)
      (sampleNavigator.candidates "nope") = .error (.failed (noTag "nope")) := by
  simp [Navigator.candidates, TagIndex.lookup, sampleNavigator, Path.filterByExtension,
    Candidates.ofList, choose]

theorem unknown_undecided : Undecided sampleEnvironment ["goto", "nope"] emptyTags :=
  ⟨{ command := .goTo "nope" none }, "nope", none, { host := "box", username := "dev" }, {},
    .failed (noTag "nope"), rfl, rfl, rfl, rfl, choose_unknown⟩

/-- Nine turns take the run to its choice. The index is a hash table, so the choice itself is not
evaluated. -/
theorem rest_unknownRun :
    ∃ next : Tag → Act Outcome, (unknownRun 9).main.rest =
      (match choose "nope" none (wantsColours sampleEnvironment && !false)
          (sampleNavigator.candidates "nope") with
        | .error outcome => .done outcome
        | .ok tag => next tag) >>= fun outcome => do
          Session.giveUpLink
          return .ofOutcome outcome := ⟨_, rfl⟩

theorem ends_unknownRun :
    (unknownRun 12).main.rest.result? = some ⟨1, "", "Error: no tag named `nope`\n"⟩ ∧
      (unknownRun 12).installed = [sampleOpened] := by
  obtain ⟨next, rest⟩ := rest_unknownRun
  rw [choose_unknown] at rest
  have chosen : unknownRun 9 = { unknownRun 9 with
      main.rest := do
        Session.giveUpLink
        return .ofOutcome (.failed (noTag "nope")) } :=
    congrArg (fun r => { unknownRun 9 with main.rest := r }) rest
  have last : unknownRun 12 =
      (unknownRun 9).play (Ssh.Client.watch Ssh.Script.answer) (List.replicate 3 {}) := rfl
  rw [last, chosen]
  decide +kernel

/-- A listing that fails disconnects all the same; going to a symbol without a tag does not. -/
theorem disconnects_listing_not_unknown :
    (sampleOpened ∈ listingRun.installed ∧
      listingRun.main.rest.result? = some ⟨1, "",
        "Error: no remote tags directory configured (ctags_files_remote_path)\n"⟩ ∧
      listingRun.world.host.disconnects 0 = 1) ∧
    sampleOpened ∈ (unknownRun 12).installed ∧
      (unknownRun 12).main.rest.result? = some ⟨1, "", "Error: no tag named `nope`\n"⟩ ∧
      (unknownRun 12).world.host.disconnects 0 = 0 := by
  constructor
  · have all : listingRun.installed = [sampleOpened] := by decide +kernel
    have installed : sampleOpened ∈ listingRun.installed := all ▸ List.mem_singleton_self _
    have ended : listingRun.main.rest.result? = some ⟨1, "",
        "Error: no remote tags directory configured (ctags_files_remote_path)\n"⟩ := by
      decide +kernel
    exact ⟨installed, ended,
      (disconnects_installed Ssh.Script.answer {} sampleEnvironment ["list-tags"] {}
        (List.replicate 15 {}) installed ended).1 listing_decided⟩
  · obtain ⟨ended, all⟩ := ends_unknownRun
    have installed : sampleOpened ∈ (unknownRun 12).installed := all ▸ List.mem_singleton_self _
    exact ⟨installed, ended,
      (disconnects_installed Ssh.Script.answer {} sampleEnvironment ["goto", "nope"] emptyTags
        (List.replicate 12 {}) installed ended).2 unknown_undecided⟩

end CommandLine

end RemoteTags
