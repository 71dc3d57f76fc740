import RemoteTags.Cache.Store
import RemoteTags.Local.Call
import RemoteTags.Session.Opening

/-! The actions of this library's programs, and the world that answers them: the session, the
cache of remote files, the local disk, a clock, a source of tokens, and a remote host. -/

namespace RemoteTags

inductive Action where
  | session (x : Session.Section)
  | cache (x : Cache.Section)
  | remote (c : Remote.Call)
  -- Opens a link within the connect timeout; no reply means that the time was up.
  | opening (c : Connection) (generation : Nat)
  | disk (c : Local.Call)
  | clock
  | random (bound : Nat)

@[reducible] def Action.Reply : Action → Type
  | .session x => x.Reply
  | .cache x => x.Reply
  | .remote c => c.Reply
  | .opening _ _ => Option (Except ConnectError Link)
  | .disk c => c.Reply
  | .clock => Nat
  | .random _ => Nat

abbrev Act := Program Action Action.Reply

namespace Act

def session (x : Session.Section) : Act x.Reply := .query (Action.session x)

def cache (x : Cache.Section) : Act x.Reply := .query (Action.cache x)

def remote (c : Remote.Call) : Act c.Reply := .query (Action.remote c)

def opening (c : Connection) (g : Nat) : Act (Option (Except ConnectError Link)) :=
  .query (Action.opening c g)

def disk (c : Local.Call) : Act c.Reply := .query (Action.disk c)

def clock : Act Nat := .query Action.clock

def random (bound : Nat) : Act Nat := .query (Action.random bound)

end Act

/-- How a remote host of state `H` answers calls; a transfer changes the local disk as well. -/
abbrev Host (H : Type) := (c : Remote.Call) → H × Local.Disk → c.Reply × (H × Local.Disk)

structure World (H : Type) where
  session : Session := {}
  cache : Cache := {}
  disk : Local.Disk := {}
  host : H
  time : Nat := 0
  tokens : Nat := 0

namespace World

variable {H : Type}

def call (host : Host H) (c : Remote.Call) (w : World H) : c.Reply × World H :=
  let (r, h, d) := host c (w.host, w.disk)
  (r, { w with host := h, disk := d })

/-- Opens a link. With no time at all the link comes too late and is given up. -/
def openWithin (host : Host H) (c : Connection) (g : Nat) (w : World H) :
    Option (Except ConnectError Link) × World H :=
  let (opened, w) := (Session.openLink c g).run (call host) w
  if c.timeouts.connect = .ofSeconds 0 then
    match opened with
    | .ok link => (none, (call host (.abandon link.id) w).2)
    | .error _ => (none, w)
  else (some opened, w)

def token (n : Nat) : String :=
  String.ofList (("00000" ++ toString n).toList.reverse.take 6).reverse

/-- The next tokens, more than there are files. -/
def tokensAhead (w : World H) : List String :=
  (List.range (w.disk.nodes.length + 1)).map fun n => token (w.tokens + n)

def answer (host : Host H) : (a : Action) → World H → a.Reply × World H
  | .session x, w =>
    let (r, s) := x.answer w.session
    (r, { w with session := s })
  | .cache x, w =>
    let (r, c) := x.answer w.cache
    (r, { w with cache := c })
  | .remote c, w => w.call host c
  | .opening c g, w => w.openWithin host c g
  | .disk c, w =>
    let (r, d) := w.disk.answer w.tokensAhead c
    (r, { w with disk := d, tokens := w.tokens + 1 })
  | .clock, w => (w.time, w)
  | .random bound, w => (w.tokens % bound, { w with tokens := w.tokens + 1 })

def run {α : Type} (host : Host H) (p : Act α) (w : World H) : α × World H :=
  Program.run (answer host) p w

variable (host : Host H) (w : World H)

theorem call_eq {c : Remote.Call} {r : c.Reply} {s : H × Local.Disk}
    (replied : host c (w.host, w.disk) = (r, s)) :
    w.call host c = (r, { w with host := s.1, disk := s.2 }) := by
  unfold World.call
  rw [replied]

theorem run_bind {α β : Type} (p : Act α) (f : α → Act β) :
    w.run host (p.bind f) = (w.run host p).2.run host (f (w.run host p).1) :=
  Program.run_bind _ p f w

theorem run_session {β : Type} (x : Session.Section) (next : x.Reply → Act β) :
    w.run host (.ask (.session x) next) =
      ({ w with session := (x.answer w.session).2 } : World H).run host
        (next (x.answer w.session).1) := rfl

theorem run_remote {β : Type} (c : Remote.Call) (next : c.Reply → Act β) :
    w.run host (.ask (.remote c) next) = (w.call host c).2.run host (next (w.call host c).1) := rfl

theorem run_clock : w.run host Act.clock = (w.time, w) := rfl

theorem run_cache (x : Cache.Section) :
    w.run host (Act.cache x) =
      ((x.answer w.cache).1, { w with cache := (x.answer w.cache).2 }) := rfl

end World

end RemoteTags
