import RemoteTags.Effect.Action
import RemoteTags.Ssh.Transport

/-! A remote host that is reached through the library. Each link is a transport. -/

namespace RemoteTags.Ssh

structure Client (L : Type) where
  library : L
  -- Newest first; a link is named by the number of those before it.
  links : List Transport := []

abbrev Answering (L : Type) := (c : Call) → L × Local.Disk → c.Reply × (L × Local.Disk)

namespace Client

variable {L : Type}

def run {α : Type} (answer : Answering L) (p : Wire α) (h : Client L) (d : Local.Disk) :
    α × Client L × Local.Disk :=
  let (a, l, d) := Program.run answer p (h.library, d)
  (a, { h with library := l }, d)

def link? (h : Client L) (id : Remote.LinkId) : Option Transport := h.links.reverse[id]?

def setLink (h : Client L) (id : Remote.LinkId) (t : Transport) : Client L :=
  { h with links := (h.links.reverse.set id t).reverse }

def unknownLink : TransportError := .io "no such link"

def onLink {α : Type} (answer : Answering L) (id : Remote.LinkId)
    (call : Transport → Wire (Remote.Attempt α)) (h : Client L) (d : Local.Disk) :
    Remote.Attempt α × Client L × Local.Disk :=
  match h.link? id with
  | some t => h.run answer (call t) d
  | none => (.error unknownLink, h, d)

theorem onLink_reply {α : Type} {answer : Answering L} {id : Remote.LinkId} {t : Transport}
    {h : Client L} (opened : h.link? id = some t) (call : Transport → Wire (Remote.Attempt α))
    (d : Local.Disk) :
    (h.onLink answer id call d).1 = (Program.run answer (call t) (h.library, d)).1 := by
  unfold onLink
  rw [opened]
  rfl

def dial (answer : Answering L) (c : Connection) (h : Client L) (d : Local.Disk) :
    Except ConnectError Remote.LinkId × Client L × Local.Disk :=
  match h.run answer (Transport.connect c) d with
  | (.ok t, h, d) => (.ok h.links.length, { h with links := t :: h.links }, d)
  | (.error e, h, d) => (.error e, h, d)

def close (answer : Answering L) (id : Remote.LinkId) (h : Client L) (d : Local.Disk) :
    Remote.Attempt Unit × Client L × Local.Disk :=
  match h.link? id with
  | some t =>
    let ((r, t), h, d) := h.run answer t.close d
    (r, h.setLink id t, d)
  | none => (.error unknownLink, h, d)

/-- A link that is given up shuts down its SFTP channel. -/
def abandon (answer : Answering L) (id : Remote.LinkId) (h : Client L) (d : Local.Disk) :
    Unit × Client L × Local.Disk :=
  match h.link? id with
  | some t =>
    let ((), h, d) := h.run answer t.shut d
    ((), h.setLink id { t with sftpOpen := false }, d)
  | none => ((), h, d)

def answer (lib : Answering L) : Host (Client L)
  | .dial c, (h, d) => h.dial lib c d
  | .home id, (h, d) => h.onLink lib id (·.home) d
  | .stat id path, (h, d) => h.onLink lib id (·.stat path) d
  | .read id path, (h, d) => h.onLink lib id (·.read path) d
  | .readDir id path, (h, d) => h.onLink lib id (·.readDir path) d
  | .exec id command timeout, (h, d) => h.onLink lib id (·.exec command timeout) d
  | .fastGet id remote path timeout, (h, d) => h.onLink lib id (·.fastGet remote path timeout) d
  | .remove id path, (h, d) => h.onLink lib id (·.remove path) d
  | .close id, (h, d) => h.close lib id d
  | .abandon id, (h, d) => h.abandon lib id d

end Client

end RemoteTags.Ssh
