import RemoteTags.Memory.Fault
import RemoteTags.Proofs.Memory.Frame
import RemoteTags.Proofs.Session.Demand
import RemoteTags.Session.Operation

/-! A host on which nothing fails. It can be connected with, and the session is then on line with a
link; what is asked of the link is answered by the server and logged. -/

namespace RemoteTags

theorem World.run_opening {H β : Type} (host : Host H) (w : World H) (c : Connection) (g : Nat)
    (next : Option (Except ConnectError Link) → Act β) :
    w.run host (.ask (.opening c g) next) =
      (w.openWithin host c g).2.run host (next (w.openWithin host c g).1) := rfl

namespace Memory
open Text

namespace Server

variable {s : Server} {path : String} {f : File}

/-- No call fails but for what it asks. -/
structure Calm (s : Server) : Prop where
  dead : s.dead = false
  dials : s.failingDials = 0
  reads : s.failingReads = 0
  command : s.failingCommand = none

theorem Calm.read (calm : s.Calm) (file : s.file? path = some f) :
    ∃ s', s.read path = (.ok f.content, s') ∧ s'.Calm ∧ s'.execs = s.execs := by
  obtain ⟨dead, dials, reads, command⟩ := calm
  refine ⟨{ s with reads := path :: s.reads }, ?_, ⟨dead, dials, reads, command⟩, rfl⟩
  have same : ({ s with reads := path :: s.reads } : Server).file? path = some f := file
  unfold Server.read
  dsimp only
  split
  · rename_i fails
    rw [reads] at fails
    contradiction
  · rw [same]

theorem Calm.dial (calm : s.Calm) (c : Connection) :
    s.dial c = (.ok (s.dials.length + 1), { s with dials := c :: s.dials }) := by
  unfold Server.dial
  dsimp only
  split
  · rename_i fails
    rw [calm.dials] at fails
    contradiction
  · rfl

end Server

structure Rig.Calm (r : Rig) : Prop where
  faults : r.faults = []
  entered : r.entered = none
  server : r.server.Calm

namespace Rig

/-- A call stands in the log and has brought the server into this state. -/
def after (r : Rig) (c : Remote.Call) (s : Server) : Rig :=
  { r with server := s, log := (logLine? c).toList ++ r.log }

variable {r : Rig} {s : Server} (d : Local.Disk) (link : Remote.LinkId)

theorem Calm.after (calm : r.Calm) (c : Remote.Call) (server : s.Calm) : (r.after c s).Calm :=
  ⟨calm.faults, calm.entered, server⟩

theorem Calm.answer (calm : r.Calm) (c : Remote.Call) :
    answer c (r, d) =
      let (reply, s, d) := Server.answer c (r.server, d)
      (reply, r.after c s, d) := by
  have received : r.receive c = (none, r.after c r.server) := by
    obtain ⟨faults, entered, -⟩ := calm
    cases r
    subst faults entered
    rfl
  rw [Rig.answer, received]
  rfl

theorem Calm.onLive {α : Type} (calm : r.Calm) (reply : Server → Remote.Attempt α × Server) :
    r.server.onLive reply = reply r.server := by
  rw [Server.onLive, calm.server.dead, if_neg Bool.false_ne_true]

theorem Calm.stat (calm : r.Calm) {path : String} {reply : Remote.Attempt Int}
    (answers : r.server.stat path = (reply, s)) :
    Rig.answer (.stat link path) (r, d) = (reply, r.after (.stat link path) s, d) := by
  rw [calm.answer, Server.answer, calm.onLive, answers]
  rfl

theorem Calm.exec (calm : r.Calm) {command : String} {out : Remote.Output} (n : Duration)
    (answers : r.server.exec command = (out, s)) :
    Rig.answer (.exec link command n) (r, d) = (.ok out, r.after (.exec link command n) s, d) := by
  rw [calm.answer, Server.answer, calm.onLive, answers]
  rfl

theorem Calm.read (calm : r.Calm) {path : String} {reply : Remote.Attempt Bytes}
    (answers : r.server.read path = (reply, s)) :
    Rig.answer (.read link path) (r, d) = (reply, r.after (.read link path) s, d) := by
  rw [calm.answer, Server.answer, calm.onLive, answers]
  rfl

end Rig

/-- The session is connected with this link, and nothing fails. -/
structure Online (w : World Rig) (link : Link) : Prop where
  calm : w.host.Calm
  slot : w.session.slot = some link
  newest : link.generation = w.session.status.generation

theorem Online.current {w : World Rig} {link : Link} (online : Online w link) :
    w.session.current = some link := by
  rw [Session.current, online.slot]
  simp [online.newest]

theorem Online.run_onLink {α : Type} {a : α} {w v : World Rig} {link : Link}
    (online : Online w link) (after : Session.AfterLoss) {op : Link → Act (Session.Outcome α)}
    (ran : ({ w with session := { w.session with held := true } } : World Rig).run Rig.answer
      (op link) = (.value a, v)) :
    w.run Rig.answer (Session.onLink after op) =
      (.ok a, { v with session := { v.session with held := false } }) := by
  have held : ({ w.session with held := true } : Session).current = some link :=
    online.current
  simp only [Session.onLink, Act.session, Program.query, Program.bind_eq, Program.ask_bind,
    Program.done_bind, World.run_session, Session.Section.answer]
  rw [held]
  dsimp only
  rw [World.run_bind, ran]
  rfl

section Connecting

variable {w : World Rig} {c : Connection}

/-- The host is calm still; its files and its home are what they were. -/
structure Rig.Steady (r r' : Rig) : Prop where
  calm : r'.Calm
  files : r'.server.files = r.server.files
  home : r'.server.home = r.server.home
  statUnsupported : r'.server.statUnsupported = r.server.statUnsupported

theorem Rig.Steady.trans {r r' r'' : Rig} (steady : r.Steady r') (steady' : r'.Steady r'') :
    r.Steady r'' :=
  ⟨steady'.calm, steady'.files.trans steady.files, steady'.home.trans steady.home,
    steady'.statUnsupported.trans steady.statUnsupported⟩

theorem run_closeLink (calm : w.host.Calm) (link : Option Link) :
    ∃ h : Rig, w.run Rig.answer (Session.closeLink link) = ((), { w with host := h }) ∧
      w.host.Steady h := by
  cases link with
  | none => exact ⟨w.host, rfl, calm, rfl, rfl, rfl⟩
  | some link =>
    let closed : Server := { w.host.server with closes := w.host.server.closes + 1 }
    have server : closed.Calm :=
      ⟨calm.server.dead, calm.server.dials, calm.server.reads, calm.server.command⟩
    have answered : Rig.answer (.close link.id) (w.host, w.disk) =
        (.ok (), w.host.after (.close link.id) closed, w.disk) := calm.answer w.disk _
    refine ⟨w.host.after (.close link.id) closed, ?_, calm.after _ server, rfl, rfl, rfl⟩
    simp only [Session.closeLink, Act.remote, Program.query, Program.bind_eq, Program.ask_bind,
      Program.done_bind, World.run_remote]
    rw [World.call_eq Rig.answer w answered]
    rfl

theorem run_openLink (calm : w.host.Calm) (known : isBlankText w.host.server.home = false)
    (g : Nat) :
    ∃ (h : Rig) (id : Remote.LinkId), (Session.openLink c g).run (World.call Rig.answer) w =
        (.ok ⟨id, trimmed w.host.server.home, false, c.timeouts, g⟩, { w with host := h }) ∧
      w.host.Steady h := by
  let dialled : Server := { w.host.server with dials := c :: w.host.server.dials }
  let id : Remote.LinkId := w.host.server.dials.length + 1
  have server : dialled.Calm :=
    ⟨calm.server.dead, calm.server.dials, calm.server.reads, calm.server.command⟩
  have opened : Rig.answer (.dial c) (w.host, w.disk) =
      (.ok id, w.host.after (.dial c) dialled, w.disk) := by
    rw [calm.answer, Server.answer, calm.server.dial]
    rfl
  have told : Rig.answer (.home id) (w.host.after (.dial c) dialled, w.disk) =
      (.ok w.host.server.home, (w.host.after (.dial c) dialled).after (.home id) dialled, w.disk) :=
    (calm.after _ server).answer w.disk _
  refine ⟨(w.host.after (.dial c) dialled).after (.home id) dialled, id, ?_,
    (calm.after _ server).after _ server, rfl, rfl, rfl⟩
  simp only [Session.openLink, Remote.dial, Remote.home, Program.query, Program.bind_eq,
    Program.ask_bind, Program.done_bind, Program.run_ask]
  rw [World.call_eq Rig.answer w opened]
  dsimp only
  rw [Program.run_ask, World.call_eq Rig.answer _ told]
  simp only [known]
  rfl

theorem openWithin_online (calm : w.host.Calm) (known : isBlankText w.host.server.home = false)
    (time : c.timeouts.connect ≠ .ofSeconds 0) (g : Nat) :
    ∃ (h : Rig) (id : Remote.LinkId), World.openWithin Rig.answer c g w =
        (some (.ok ⟨id, trimmed w.host.server.home, false, c.timeouts, g⟩),
          { w with host := h }) ∧
      w.host.Steady h := by
  obtain ⟨h, id, opened, steady⟩ := run_openLink (c := c) calm known g
  refine ⟨h, id, ?_, steady⟩
  rw [World.openWithin, opened]
  dsimp only
  rw [if_neg time]

theorem connect_online (calm : w.host.Calm) (known : isBlankText w.host.server.home = false)
    (time : c.timeouts.connect ≠ .ofSeconds 0) :
    ∃ (v : World Rig) (link : Link), w.run Rig.answer (Session.connect c) = (.ok (), v) ∧
      Online v link ∧ link.home = trimmed w.host.server.home ∧ link.shellStat = false ∧
      w.host.Steady v.host := by
  let g := w.session.status.generation + 1
  let begun : World Rig :=
    { w with session := { w.session with status := ⟨.connecting, some c, none, g⟩ } }
  let cleared : World Rig := { begun with session := (begun.session.takeOlder g).2 }
  obtain ⟨h, closed, steady⟩ := run_closeLink (w := cleared) calm (begun.session.takeOlder g).1
  obtain ⟨h', id, within, steady'⟩ :=
    openWithin_online (w := { cleared with host := h }) steady.calm
      (by rw [steady.home]; exact known) time g
  have newest : cleared.session.status = ⟨.connecting, some c, none, g⟩ := by
    rcases begun.session.takeOlder_cases g with same | same <;>
      exact congrArg Session.status same
  let link : Link := ⟨id, trimmed h.server.home, false, c.timeouts, g⟩
  have installed : cleared.session.install g (.ok link) =
      (.connected, { cleared.session with
        status := ⟨.connected, some c, some link.home, g⟩, slot := some link }) := by
    have own := cleared.session.install_newest link
    rwa [newest] at own
  refine ⟨{ cleared with
    session := { cleared.session with
      status := ⟨.connected, some c, some link.home, g⟩, slot := some link }
    host := h' }, link, ?_, ⟨steady'.calm, rfl, rfl⟩, congrArg trimmed steady.home, rfl,
    steady.trans steady'⟩
  have begins : w.session.begin c none = (some g, begun.session) := rfl
  simp only [Session.connect, Session.connectAs, Act.session, Act.opening, Program.query,
    Program.bind_eq, Program.ask_bind, Program.done_bind, World.run_session,
    Session.Section.answer, begins]
  rw [World.run_bind]
  change World.run Rig.answer _ (World.run Rig.answer (Session.closeLink _) cleared).2 = _
  rw [closed, World.run_opening, within]
  dsimp only
  simp only [Session.conclude, Act.session, Program.query, Program.bind_eq, Program.ask_bind,
    Program.done_bind, World.run_session, Session.Section.answer]
  rw [installed]
  rfl

end Connecting

end Memory

end RemoteTags
