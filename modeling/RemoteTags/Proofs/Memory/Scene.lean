import RemoteTags.Effect.Overlap
import RemoteTags.Proofs.Memory.Confined

/-! The operations on the host in memory, many of them at a time. They go on in any order, wait for
one another, lose links and connect again, while faults come up and others use the host as well.
Through all of this, a file that is no scratch file stays as it is. -/

namespace RemoteTags

structure Session.Homed (home : String) (s : Session) : Prop where
  slot : ∀ link, s.slot = some link → link.home = home
  status : ∀ known, s.status.home = some known → known = home

namespace Session

variable {home : String} {s : Session}

theorem Homed.answer {x : Section} (homed : Homed home s) (asks : x.Asks home) :
    x.Tells home (x.answer s).1 ∧ Homed home (x.answer s).2 := by
  cases x with
  | begin c expected =>
    refine ⟨trivial, ?_⟩
    dsimp only [Section.answer, begin]
    split
    · exact homed
    · exact ⟨homed.slot, nofun⟩
  | beginDisconnect => exact ⟨trivial, homed.slot, nofun⟩
  | takeOlder g =>
    refine ⟨trivial, ?_⟩
    dsimp only [Section.answer, takeOlder]
    split
    · split
      · exact ⟨nofun, homed.status⟩
      · exact homed
    · exact homed
  | install g opened =>
    refine ⟨trivial, ?_⟩
    dsimp only [Section.answer, install]
    split
    · exact homed
    · cases opened with
      | ok link =>
        refine ⟨fun link' same => ?_, fun known same => ?_⟩
        · cases same
          exact asks
        · cases same
          exact asks
      | error e => exact ⟨homed.slot, homed.status⟩
  | current =>
    refine ⟨fun link found => homed.slot link ?_, homed⟩
    exact (Option.filter_eq_some_iff.1 found).1
  | useShellStat =>
    refine ⟨trivial, fun link found => ?_, homed.status⟩
    obtain ⟨old, was, rfl⟩ := Option.map_eq_some_iff.1 found
    exact homed.slot old was
  | drop =>
    refine ⟨trivial, ?_⟩
    dsimp only [Section.answer, drop]
    split
    · exact homed
    · split
      · exact ⟨nofun, homed.status⟩
      · exact ⟨nofun, nofun⟩
  | hold | release | schedule => exact ⟨trivial, homed.slot, homed.status⟩
  | status => exact ⟨homed.status, homed⟩

def openTerms (home : String) : Terms Remote.Call Remote.Call.Reply where
  asks c := c.Confined home
  tells
    | .home _, told => ∀ known, told = .ok known → Text.trimmed known = home
    | _, _ => True

theorem giveUp_meets (id : Remote.LinkId) (reason : String) :
    (giveUp id reason).Meets (openTerms home) fun opened =>
      ∀ link, opened = .ok link → link.home = home :=
  ⟨trivial, fun _ _ => nofun⟩

theorem openLink_meets (c : Connection) (g : Nat) :
    (openLink c g).Meets (openTerms home) fun opened =>
      ∀ link, opened = .ok link → link.home = home := by
  refine ⟨trivial, fun dialled _ => ?_⟩
  cases dialled with
  | error e => exact nofun
  | ok id =>
    refine ⟨trivial, fun told known => ?_⟩
    cases told with
    | error e => exact giveUp_meets id _
    | ok told =>
      dsimp only [Program.done_bind]
      split
      · exact giveUp_meets id _
      · rintro link ⟨⟩
        exact known told rfl

end Session

namespace Memory
open Session (openTerms)

/-- The file at `path` is `f`, and the session knows the home of the host. -/
structure Placed (home path : String) (f : Option File) (w : World Rig) : Prop where
  file : w.host.server.file? path = f
  host : Text.trimmed w.host.server.home = home
  homed : w.session.Homed home

namespace Placed

variable {home path : String} {f : Option File} {w w' : World Rig}

theorem agree (placed : Placed home path f w)
    (agree : Server.Agree path w.host.server w'.host.server) (homed : w'.session.Homed home) :
    Placed home path f w' where
  file := agree.file.trans placed.file
  host := by rw [agree.home, placed.host]
  homed := homed

theorem call {c : Remote.Call} (placed : Placed home path f w) (other : ¬ Scratch home path)
    (confined : c.Confined home) : (openTerms home).tells c (w.call Rig.answer c).1 ∧
      Placed home path f (w.call Rig.answer c).2 := by
  constructor
  · cases c with
    | home l =>
      intro known told
      rw [Rig.home_of_answer told, placed.host]
    | _ => trivial
  · exact placed.agree (Rig.answer_agree (confined.spares other)) placed.homed

theorem openWithin (placed : Placed home path f w) (other : ¬ Scratch home path) (c : Connection)
    (g : Nat) :
    (∀ link, (w.openWithin Rig.answer c g).1 = some (.ok link) → link.home = home) ∧
      Placed home path f (w.openWithin Rig.answer c g).2 := by
  obtain ⟨honest, after⟩ := (Session.openLink_meets c g).run
    (fun c w asks placed => Placed.call (w := w) placed other asks) placed
  unfold World.openWithin
  dsimp only
  split
  · split
    · exact ⟨nofun, (after.call other (c := .abandon _) trivial).2⟩
    · exact ⟨nofun, after⟩
  · exact ⟨fun link same => honest link (Option.some.inj same), after⟩

theorem answer? {a : Action} (placed : Placed home path f w) (other : ¬ Scratch home path)
    (asks : (confined home).asks a) :
    (∀ r, (w.answer? Rig.answer Rig.keep? a).1 = some r → (confined home).tells a r) ∧
      Placed home path f (w.answer? Rig.answer Rig.keep? a).2 := by
  have kept : ∀ {c : Remote.Call} {h : Rig}, Rig.keep? c w.host = some h →
      Placed home path f { w with host := h } := by
    intro c h kept
    have same := Rig.server_of_keep kept
    exact ⟨same ▸ placed.file, same ▸ placed.host, placed.homed⟩
  cases a with
  | session x =>
    obtain ⟨tells, homed⟩ := placed.homed.answer asks
    dsimp only [World.answer?]
    split
    · exact ⟨nofun, placed⟩
    · exact ⟨fun r told => Option.some.inj told ▸ tells, placed.file, placed.host, homed⟩
  | remote c =>
    dsimp only [World.answer?]
    split
    · rename_i h keeps
      exact ⟨nofun, kept keeps⟩
    · exact ⟨fun _ _ => trivial, (placed.call other asks).2⟩
  | opening c g =>
    obtain ⟨honest, after⟩ := placed.openWithin other c g
    dsimp only [World.answer?]
    split
    · rename_i h keeps
      exact ⟨nofun, kept keeps⟩
    · exact ⟨fun r told => Option.some.inj told ▸ honest, after⟩
  | cache x => exact ⟨fun _ _ => trivial, placed.file, placed.host, placed.homed⟩
  | disk c => exact ⟨fun _ _ => trivial, placed.file, placed.host, placed.homed⟩
  | clock => exact ⟨fun _ _ => trivial, placed⟩
  | random bound =>
    refine ⟨fun r told positive => ?_, placed.file, placed.host, placed.homed⟩
    rw [← Option.some.inj told]
    exact Nat.mod_lt _ positive

end Placed

/-- The operations that are looked at: those of the session but for the transfers and the commands
of others, those of the cache, the fetches, and those of the navigator. -/
inductive Operation : {α : Type} → Act α → Prop where
  | connect (c : Connection) : Operation (Session.connect c)
  | reconnect : Operation Session.reconnect
  | disconnect : Operation Session.disconnect
  | stat (path : String) : Operation (Session.stat path)
  | read (path : String) : Operation (Session.read path)
  | readDir (path : String) : Operation (Session.readDir path)
  | preload (path : String) : Operation (Cache.preload path)
  | preloadVirtual (v : Path.Virtual) : Operation (Cache.preloadVirtual v)
  | content (path : String) : Operation (Act.cache (.content path))
  | invalidate (path : String) : Operation (Act.cache (.invalidate path))
  | flush : Operation (Act.cache .flush)
  | fetch (remoteFile directory : String) : Operation (Fetch.fetch remoteFile directory)
  | fetchTo (remoteFile target : String) : Operation (Fetch.fetchTo remoteFile target)
  | goTo (n : Navigator) (tag : Tag) (origin : Option Origin) : Operation (n.goTo tag origin)
  | back (n : Navigator) : Operation n.back
  | listTagFiles (n : Navigator) : Operation n.listTagFiles
  | refreshTags (n : Navigator) (fileName localTags : String) :
      Operation (n.refreshTags fileName localTags)

theorem Operation.confined {α : Type} {p : Act α} (o : Operation p) (home : String) :
    Confined home p := by
  cases o with
  | connect c => exact Session.confined_connectAs c none
  | reconnect => exact Session.confined_reconnect
  | disconnect => exact Session.confined_disconnect
  | stat path => exact Session.confined_stat path
  | read path => exact Session.confined_read path
  | readDir path => exact Session.confined_readDir path
  | preload path => exact Cache.confined_preload path
  | preloadVirtual v => exact Cache.confined_preload v.remotePath
  | content | invalidate | flush => exact ⟨trivial, fun _ _ => trivial⟩
  | fetch remoteFile directory => exact Fetch.confined_fetch remoteFile directory
  | fetchTo remoteFile target => exact Fetch.confined_fetchTo remoteFile target
  | goTo n tag origin => exact n.confined_goTo tag origin
  | back n => exact n.confined_back
  | listTagFiles n => exact n.confined_listTagFiles
  | refreshTags n fileName localTags => exact n.confined_refreshTags fileName localTags

/-- The world and the operations that are under way. -/
structure Scene where
  world : World Rig
  callers : List (Σ α : Type, Act α) := []

def followers : Action → List (Σ α : Type, Act α)
  | .session (.schedule r) => [⟨_, Session.connectAs r.config (some r.generation)⟩]
  | _ => []

namespace Scene

variable {path home : String} {f : Option File} {s t u : Scene}

/-- What happens next. Others may do anything but to the session, to the file at `path` and to the
home directory. -/
inductive Step (path : String) (s : Scene) : Scene → Prop where
  | arrive {α : Type} {p : Act α} (o : Operation p) :
      Step path s { s with callers := s.callers ++ [⟨α, p⟩] }
  | goOn {i : Nat} {α : Type} {a : Action} {next : a.Reply → Act α} {r : a.Reply}
      (present : s.callers[i]? = some ⟨α, .ask a next⟩)
      (reply : (s.world.answer? Rig.answer Rig.keep? a).1 = some r) :
      Step path s {
        world := (s.world.answer? Rig.answer Rig.keep? a).2
        callers := s.callers.set i ⟨α, next r⟩ ++ followers a }
  | wait {i : Nat} {α : Type} {a : Action} {next : a.Reply → Act α}
      (present : s.callers[i]? = some ⟨α, .ask a next⟩)
      (waits : (s.world.answer? Rig.answer Rig.keep? a).1 = none) :
      Step path s { s with world := (s.world.answer? Rig.answer Rig.keep? a).2 }
  | outside {w : World Rig} (session : w.session = s.world.session)
      (agree : Server.Agree path s.world.host.server w.host.server) :
      Step path s { s with world := w }

inductive Run (path : String) (s : Scene) : Scene → Prop where
  | refl : Run path s s
  | step {t u : Scene} (run : Run path s t) (last : Step path t u) : Run path s u

structure Settled (home path : String) (f : Option File) (s : Scene) : Prop where
  world : Placed home path f s.world
  callers : ∀ c ∈ s.callers, Confined home c.2

theorem confined_followers (a : Action) : ∀ c ∈ followers a, Confined home c.2 := by
  intro c mem
  unfold followers at mem
  split at mem
  · rw [List.mem_singleton.1 mem]
    exact Session.confined_connectAs _ _
  · cases mem

theorem Settled.step (settled : Settled home path f s) (other : ¬ Scratch home path)
    (s' : Step path s t) : Settled home path f t := by
  cases s' with
  | arrive o =>
    refine ⟨settled.world, fun c mem => ?_⟩
    rcases List.mem_append.1 mem with before | new
    · exact settled.callers c before
    · rw [List.mem_singleton.1 new]
      exact o.confined home
  | @goOn i α a next r present reply =>
    obtain ⟨asks, goes⟩ := settled.callers _ (List.mem_of_getElem? present)
    obtain ⟨tells, placed⟩ := settled.world.answer? other asks
    refine ⟨placed, fun c mem => ?_⟩
    rcases List.mem_append.1 mem with goesOn | follows
    · rcases List.mem_or_eq_of_mem_set goesOn with before | rfl
      · exact settled.callers c before
      · exact goes r (tells r reply)
    · exact confined_followers a c follows
  | wait present waits =>
    obtain ⟨asks, -⟩ := settled.callers _ (List.mem_of_getElem? present)
    exact ⟨(settled.world.answer? other asks).2, settled.callers⟩
  | outside session agree =>
    exact ⟨settled.world.agree agree (session ▸ settled.world.homed), settled.callers⟩

theorem Run.settled (run : Run path s t) (start : Settled home path f s)
    (other : ¬ Scratch home path) : Settled home path f t := by
  induction run with
  | refl => exact start
  | step _ last ih => exact ih.step other last

/-- From a fresh session on, the operations leave every file of the host alone, but for the scratch
files below its home: it has the same content and modify time as before, or is still missing. -/
theorem remote_frame {w : World Rig} (run : Run path ⟨w, []⟩ t) (fresh : w.session = {})
    (other : ¬ Scratch (Text.trimmed w.host.server.home) path) :
    t.world.host.server.file? path = w.host.server.file? path := by
  have homed : w.session.Homed (Text.trimmed w.host.server.home) := by
    rw [fresh]
    exact ⟨nofun, nofun⟩
  have start : Settled (Text.trimmed w.host.server.home) path (w.host.server.file? path) ⟨w, []⟩ :=
    ⟨⟨rfl, rfl, homed⟩, nofun⟩
  exact (run.settled start other).world.file

/-- A session has the shell write the modify time of a file into its scratch file. -/
theorem remote_frame_stat :
    ∃ (w : World Rig) (s t : Scene) (l : Remote.LinkId) (command : String) (n : Duration)
      (next : Remote.Attempt Remote.Output → Act (Except SessionError Int)),
      Run "/a.c" ⟨w, []⟩ s ∧ s.callers[1]? = some ⟨_, .ask (.remote (.exec l command n)) next⟩ ∧
        Step "/a.c" s t ∧ t.world.host.server.file? "/a.c" = some ⟨[104], 7⟩ := by
  have called : Run "/a.c" ⟨{ host :=
      { server := { files := [("/a.c", ⟨[104], 7⟩)], statUnsupported := true } } }, []⟩ _ :=
    Run.refl.step (.arrive (.connect { host := "host", user := "user" }))
  have begun := called.step (.goOn (i := 0) rfl rfl)
  have cleared := begun.step (.goOn (i := 0) rfl rfl)
  have opened := cleared.step (.goOn (i := 0) rfl rfl)
  have connected := opened.step (.goOn (i := 0) rfl rfl)
  have asked := connected.step (.arrive (.stat "/a.c"))
  have holding := asked.step (.goOn (i := 1) rfl rfl)
  have looked := holding.step (.goOn (i := 1) rfl rfl)
  have refused := looked.step (.goOn (i := 1) rfl rfl)
  have marked := refused.step (.goOn (i := 1) rfl rfl)
  have other : ¬ Scratch (Text.trimmed "/home/dev") "/a.c" := fun scratch =>
    absurd scratch.length (by decide)
  refine ⟨_, _, _, _, _, _, _, marked, rfl, .goOn (i := 1) rfl rfl, ?_⟩
  exact (remote_frame (marked.step (.goOn (i := 1) rfl rfl)) rfl other).trans rfl

end Scene

end Memory

end RemoteTags
