import RemoteTags.Proofs.Effect.Translation
import RemoteTags.Proofs.Ssh.Watch

/-! A client with another secret. A library that does not care which of two secrets it is given
answers alike in both cases, and so does the client; all that differs is the secret in the calls
that log in. -/

namespace RemoteTags

open Program (Translates translates_done translates_self)

/-- A secret in the place of an older one. Neither of them is empty. -/
structure Rekeying where
  old : String
  new : String
  old_ne : old ≠ ""
  new_ne : new ≠ ""

namespace Rekeying

variable (κ : Rekeying)

def secret (s : String) : String := if s = κ.old then κ.new else s

theorem secret_eq_empty (s : String) : κ.secret s = "" ↔ s = "" := by
  unfold secret
  split
  · rename_i isOld
    exact iff_of_false κ.new_ne (isOld ▸ κ.old_ne)
  · rfl

def connection (c : Connection) : Connection := { c with credential := κ.secret c.credential }

def wire : Ssh.Call → Ssh.Call
  | .library (.authPassword user s) => .library (.authPassword user (κ.secret s))
  | .library (.authKey user key s) => .library (.authKey user key (s.map κ.secret))
  | c => c

theorem wire_of_other {c : Ssh.Call} (other : Ssh.isLogin c = false) : κ.wire c = c := by
  cases c with
  | library x =>
    cases x with
    | authPassword | authKey => cases other
    | _ => rfl
  | _ => rfl

theorem reply_wire (c : Ssh.Call) : c.Reply = (κ.wire c).Reply := by
  cases c with
  | library x => cases x <;> rfl
  | _ => rfl

def onWire : Translation Ssh.Call Ssh.Call.Reply := .ofQuestions κ.wire κ.reply_wire

def remote : Remote.Call → Remote.Call
  | .dial c => .dial (κ.connection c)
  | k => k

theorem reply_remote (k : Remote.Call) : k.Reply = (κ.remote k).Reply := by
  cases k <;> rfl

def onRemote : Translation Remote.Call Remote.Call.Reply := .ofQuestions κ.remote κ.reply_remote

section Wire

open Ssh

variable {α : Type}

theorem keeps_of_other {c : Ssh.Call} (other : isLogin c = false) : κ.onWire.Keeps c :=
  ⟨κ.wire_of_other other, fun r => cast_heq (κ.reply_wire c) r⟩

theorem meets_of_plain {p : Wire α} (plain : Plain p) :
    p.Meets ⟨κ.onWire.Keeps, fun _ _ => True⟩ fun _ => True :=
  plain.mono (fun _ other => κ.keeps_of_other (Bool.or_eq_false_iff.1 other).1) fun _ _ => id

theorem translates_plain {p : Wire α} (plain : Plain p) : Translates κ.onWire Eq p p :=
  translates_self (κ.meets_of_plain plain)

theorem translates_close (t : Transport) : Translates κ.onWire Eq t.close t.close := by
  refine translates_self ((κ.meets_of_plain t.plain_shut).bind fun _ _ => ?_)
  refine ⟨κ.keeps_of_other rfl, fun r _ => ?_⟩
  cases r <;> trivial

theorem passphrase_secret (s : String) :
    (if κ.secret s = "" then none else some (κ.secret s)) =
      (if s = "" then none else some s).map κ.secret := by
  by_cases empty : s = ""
  · rw [if_pos ((κ.secret_eq_empty s).2 empty), if_pos empty]
    rfl
  · rw [if_neg fun none => empty ((κ.secret_eq_empty s).1 none), if_neg empty]
    rfl

theorem translates_authenticate (c : Connection) :
    Translates κ.onWire Eq (authenticate c) (authenticate (κ.connection c)) := by
  obtain ⟨host, port, user, credential, identityFile, timeouts⟩ := c
  cases identityFile with
  | none => exact ⟨.done, rfl, fun _ => translates_done rfl⟩
  | some key =>
    refine ⟨.done, ?_, fun _ => translates_done rfl⟩
    dsimp only [authenticate, connection]
    rw [passphrase_secret]
    rfl

theorem translates_logIn (c : Connection) :
    Translates κ.onWire Eq (logIn c) (logIn (κ.connection c)) := by
  refine (κ.translates_authenticate c).bind fun r _ same => ?_
  subst same
  cases r with
  | error e => exact translates_done rfl
  | ok =>
    refine ⟨_, rfl, fun known => ?_⟩
    cases known with
    | false => exact translates_done rfl
    | true => exact κ.translates_plain (plain_finishOpening c)

theorem translates_startSession (c : Connection) :
    Translates κ.onWire Eq (startSession c) (startSession (κ.connection c)) := by
  refine ⟨_, rfl, fun r => ?_⟩
  cases r with
  | error e => exact translates_done rfl
  | ok =>
    refine ⟨_, rfl, fun _ => ⟨_, rfl, fun _ => ⟨_, rfl, fun r => ?_⟩⟩⟩
    cases r with
    | error e => exact translates_done rfl
    | ok => exact κ.translates_logIn c

theorem translates_connect (c : Connection) :
    Translates κ.onWire Eq (Transport.connect c) (Transport.connect (κ.connection c)) := by
  refine ⟨_, rfl, fun r => ?_⟩
  cases r with
  | error e => exact translates_done rfl
  | ok => exact κ.translates_startSession c

end Wire

section Client

open Ssh

variable {L α : Type} {lib : Answering L} {sim : L → L → Prop}

def Logged (sim : L → L → Prop) (s s' : L × List Ssh.Call) : Prop :=
  sim s.1 s'.1 ∧ s'.2 = s.2.map κ.wire

theorem agrees_logged (blind : κ.onWire.Agrees lib (Beside sim)) :
    κ.onWire.Agrees lib.logged (Beside (κ.Logged sim)) where
  reply := by
    rintro ⟨⟨l, log⟩, d⟩ ⟨⟨l', log'⟩, d'⟩ ⟨⟨same, -⟩, disk⟩ c
    have beside : Beside sim (l, d) (l', d') := ⟨same, disk⟩
    exact blind.reply beside c
  state := by
    rintro ⟨⟨l, log⟩, d⟩ ⟨⟨l', log'⟩, d'⟩ ⟨⟨same, logs⟩, disk⟩ c
    have beside : Beside sim (l, d) (l', d') := ⟨same, disk⟩
    have after := blind.state beside c
    exact ⟨⟨after.1, congrArg (κ.wire c :: ·) logs⟩, after.2⟩

structure Linked (sim : L → L → Prop) (h h' : Client L) : Prop where
  library : sim h.library h'.library
  links : h'.links = h.links

variable {h h' : Client L} {d : Local.Disk}

theorem run_linked (blind : κ.onWire.Agrees lib (Beside sim)) (linked : Linked sim h h')
    {p p' : Wire α} (same : Translates κ.onWire Eq p p') :
    (h'.run lib p' d).1 = (h.run lib p d).1 ∧
      Beside (Linked sim) (h.run lib p d).2 (h'.run lib p' d).2 := by
  have beside : Beside sim (h.library, d) (h'.library, d) := ⟨linked.library, rfl⟩
  obtain ⟨value, library, disk⟩ := same.run blind beside
  exact ⟨value.symm, ⟨library, linked.links⟩, disk⟩

theorem link?_linked (linked : Linked sim h h') (id : Remote.LinkId) :
    h'.link? id = h.link? id := by
  unfold Client.link?
  rw [linked.links]

theorem onLink_linked (blind : κ.onWire.Agrees lib (Beside sim)) (linked : Linked sim h h')
    (id : Remote.LinkId) {call : Transport → Wire (Remote.Attempt α)}
    (plain : ∀ t, Plain (call t)) :
    (h'.onLink lib id call d).1 = (h.onLink lib id call d).1 ∧
      Beside (Linked sim) (h.onLink lib id call d).2 (h'.onLink lib id call d).2 := by
  unfold Client.onLink
  rw [link?_linked linked]
  cases h.link? id with
  | none => exact ⟨rfl, linked, rfl⟩
  | some t => exact κ.run_linked blind linked (κ.translates_plain (plain t))

theorem dial_linked (blind : κ.onWire.Agrees lib (Beside sim)) (linked : Linked sim h h')
    (c : Connection) :
    (h'.dial lib (κ.connection c) d).1 = (h.dial lib c d).1 ∧
      Beside (Linked sim) (h.dial lib c d).2 (h'.dial lib (κ.connection c) d).2 := by
  obtain ⟨value, same, disk⟩ := κ.run_linked blind (d := d) linked (κ.translates_connect c)
  unfold Client.dial
  generalize h.run lib (Transport.connect c) d = ran at value same disk ⊢
  generalize h'.run lib (Transport.connect (κ.connection c)) d = ran' at value same disk ⊢
  obtain ⟨r, k, e⟩ := ran
  obtain ⟨r', k', e'⟩ := ran'
  dsimp only at value same disk
  subst value disk
  cases r' with
  | error e => exact ⟨rfl, same, rfl⟩
  | ok t =>
    have links := congrArg (t :: ·) same.links
    exact ⟨congrArg (fun l => Except.ok l.length) same.links, ⟨same.library, links⟩, rfl⟩

theorem setLink_linked (linked : Linked sim h h') (id : Remote.LinkId) {t t' : Transport}
    (same : t' = t) : Linked sim (h.setLink id t) (h'.setLink id t') := by
  subst same
  refine ⟨linked.library, ?_⟩
  unfold Client.setLink
  rw [linked.links]

theorem close_linked (blind : κ.onWire.Agrees lib (Beside sim)) (linked : Linked sim h h')
    (id : Remote.LinkId) :
    (h'.close lib id d).1 = (h.close lib id d).1 ∧
      Beside (Linked sim) (h.close lib id d).2 (h'.close lib id d).2 := by
  unfold Client.close
  rw [link?_linked linked]
  cases h.link? id with
  | none => exact ⟨rfl, linked, rfl⟩
  | some t =>
    obtain ⟨value, same, disk⟩ := κ.run_linked blind (d := d) linked (κ.translates_close t)
    have ended : (h'.run lib t.close d).1.1 = (h.run lib t.close d).1.1 := congrArg Prod.fst value
    exact ⟨ended, setLink_linked same id (congrArg Prod.snd value), disk⟩

theorem abandon_linked (blind : κ.onWire.Agrees lib (Beside sim)) (linked : Linked sim h h')
    (id : Remote.LinkId) :
    (h'.abandon lib id d).1 = (h.abandon lib id d).1 ∧
      Beside (Linked sim) (h.abandon lib id d).2 (h'.abandon lib id d).2 := by
  unfold Client.abandon
  rw [link?_linked linked]
  cases h.link? id with
  | none => exact ⟨rfl, linked, rfl⟩
  | some t =>
    obtain ⟨-, same, disk⟩ := κ.run_linked blind (d := d) linked (κ.translates_plain t.plain_shut)
    exact ⟨rfl, setLink_linked same id rfl, disk⟩

theorem answer_linked (blind : κ.onWire.Agrees lib (Beside sim)) (linked : Linked sim h h')
    (k : Remote.Call) :
    (Client.answer lib (κ.remote k) (h', d)).1 =
        κ.onRemote.reply k (Client.answer lib k (h, d)).1 ∧
      Beside (Linked sim) (Client.answer lib k (h, d)).2
        (Client.answer lib (κ.remote k) (h', d)).2 := by
  cases k with
  | dial c => exact κ.dial_linked blind linked c
  | close id => exact κ.close_linked blind linked id
  | abandon id => exact κ.abandon_linked blind linked id
  | home id => exact κ.onLink_linked blind linked id (·.plain_home)
  | stat id path => exact κ.onLink_linked blind linked id (·.plain_stat path)
  | read id path => exact κ.onLink_linked blind linked id (·.plain_read path)
  | readDir id path => exact κ.onLink_linked blind linked id (·.plain_readDir path)
  | exec id command n => exact κ.onLink_linked blind linked id (·.plain_exec command n)
  | fastGet id remote path n =>
    exact κ.onLink_linked blind linked id (·.plain_fastGet remote path n)
  | remove id path => exact κ.onLink_linked blind linked id (·.plain_remove path)

def entry (e : Remote.Call × List Ssh.Call) : Remote.Call × List Ssh.Call :=
  (κ.remote e.1, e.2.map κ.wire)

/-- Two clients that are watched, whose logs differ in the secret alone. -/
structure Alike (sim : L → L → Prop) (h h' : Watched L) : Prop where
  client : Linked sim h.client h'.client
  log : h'.log = h.log.map κ.entry

theorem calls_alike {h h' : Watched L} (alike : κ.Alike sim h h') :
    h'.calls = h.calls.map κ.wire := by
  unfold Watched.calls
  rw [alike.log, List.flatMap_map, List.map_flatMap]
  rfl

theorem agrees_watch (blind : κ.onWire.Agrees lib (Beside sim)) :
    κ.onRemote.Agrees (Client.watch lib) (Beside (κ.Alike sim)) := by
  have answers : ∀ {s s' : Watched L × Local.Disk}, Beside (κ.Alike sim) s s' →
      ∀ k : Remote.Call, (Client.watch lib (κ.remote k) s').1 =
          κ.onRemote.reply k (Client.watch lib k s).1 ∧
        Beside (κ.Alike sim) (Client.watch lib k s).2 (Client.watch lib (κ.remote k) s').2 := by
    rintro ⟨h, d⟩ ⟨h', d'⟩ ⟨alike, disk⟩ k
    dsimp only at disk
    subst disk
    have linked : Linked (κ.Logged sim) h.unlogged h'.unlogged :=
      ⟨⟨alike.client.library, rfl⟩, alike.client.links⟩
    obtain ⟨reply, after, disk⟩ :=
      κ.answer_linked (d := d') (κ.agrees_logged blind) linked k
    refine ⟨reply, ⟨⟨after.library.1, after.links⟩, ?_⟩, disk⟩
    exact congr (congrArg (fun calls log => (κ.remote k, calls) :: log) after.library.2) alike.log
  exact ⟨fun same k => (answers same k).1, fun same k => (answers same k).2⟩

end Client

end Rekeying

end RemoteTags
