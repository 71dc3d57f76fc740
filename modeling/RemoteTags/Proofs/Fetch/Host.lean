import RemoteTags.Proofs.Fetch.Run
import RemoteTags.Proofs.Gzip.RoundTrip
import RemoteTags.Proofs.Memory.Frame

/-! What a fetch relies on in the remote host: that it leaves the local disk alone, that its `gzip`
can be undone, and that what it has removed is gone. The host in memory is such a host. -/

namespace RemoteTags.Fetch
open Local

variable {H : Type} {host : HostRelation H} {unlinks : Prop} {s s' u : H × Disk} {l : Location}
  {path remote : String} {c : Bytes}

/-- A host leaves the local disk alone but for the file that a transfer fills. If the transfer goes
well, it tells how many bytes are in there. -/
structure Tidy (host : HostRelation H) : Prop where
  apart {s s' : H × Disk} {k : Remote.Call} {r : k.Reply} (answered : host s k r s')
    (other : ∀ link remote path n, k ≠ .fastGet link remote path n) : s'.2 = s.2
  transfer {s s' : H × Disk} {link : Remote.LinkId} {remote path : String} {n : Duration}
    {r : Remote.Attempt Nat} {l : Location} {c : Bytes}
    (answered : host s (.fastGet link remote path n) r s') (leads : s.2.Leads path l)
    (file : s.2.node? l = some (.file c)) :
    ChangesAt l s.2 s'.2 ∧ (s'.2.node? l = none ∨
      ∃ data, s'.2.node? l = some (.file data) ∧ ∀ k, r = .ok k → k = data.length)

/-- What `gzip` writes on the host gunzips to what it reads there, and a transfer copies files as
they are. `view` tells the files of a host. -/
structure Honest (host : HostRelation H) (view : H → String → Option Bytes)
    (source scratch : String) : Prop where
  compresses {s s' : H × Disk} {link : Remote.LinkId} {n : Duration} {out : Remote.Output}
    (answered : host s (.exec link (Shell.gzipCommand source scratch) n) (.ok out) s')
    (succeeded : out.exitStatus = 0) :
    ∃ content z, view s.1 source = some content ∧ view s'.1 scratch = some z ∧
      Gzip.decode z = .ok content
  transfers {s s' : H × Disk} {link : Remote.LinkId} {path : String} {n : Duration} {k : Nat}
    {data : Bytes} {l : Location} {c : Bytes} (answered : host s (.fastGet link scratch path n) (.ok k) s')
    (leads : s.2.Leads path l) (file : s.2.node? l = some (.file c))
    (filled : s'.2.node? l = some (.file data)) : view s.1 scratch = some data

/-- What is known about the scratch file: when it is gone, and that neither the local disk nor the
clock brings it back. -/
structure Removes {S : Type} (R : S → (q : Ask) → q.Reply → S → Prop) (scratch : String)
    (Gone : S → Prop) : Prop where
  removed {s s' : S} {r : Except SessionError Unit} (asked : R s (.remove scratch) r s')
    (nothing : leftRemote scratch r = []) : Gone s'
  disk {s s' : S} {c : Local.Call} {r : c.Reply} (asked : R s (.disk c) r s') (gone : Gone s) :
    Gone s'
  clock {s s' : S} {now : Nat} (asked : R s .clock now s') (gone : Gone s) : Gone s'

namespace Tidy

variable (tidy : Tidy host)
include tidy

theorem closes {link : Remote.LinkId} (closes : MayClose host link u s') : s'.2 = u.2 := by
  rcases closes with rfl | ⟨x, closed⟩
  · rfl
  · exact tidy.apart closed nofun

theorem exec {command : String} {r : Except SessionError Remote.Output}
    (asks : Asks host unlinks s (.exec command) r s') : s'.2 = s.2 := by
  rcases asks.of_exec with ⟨_, _, rfl⟩ | ⟨_, _, _, called, _⟩ | ⟨_, _, _, u, _, called, _, closes⟩
  · rfl
  · exact tidy.apart called nofun
  · exact (tidy.closes closes).trans (tidy.apart called nofun)

theorem remove {r : Except SessionError Unit} (asks : Asks host unlinks s (.remove remote) r s') :
    s'.2 = s.2 := by
  rcases asks.of_remove with ⟨_, called, _⟩ | ⟨_, _, ⟨rfl, _⟩ | ⟨_, _, u, called, _, closes⟩⟩
  · exact tidy.apart called nofun
  · rfl
  · exact (tidy.closes closes).trans (tidy.apart called nofun)

theorem fastGet {r : Except SessionError Nat}
    (asks : Asks host unlinks s (.fastGet remote path) r s') (leads : s.2.Leads path l)
    (file : s.2.node? l = some (.file c)) :
    ChangesAt l s.2 s'.2 ∧ (s'.2.node? l = none ∨
      ∃ data, s'.2.node? l = some (.file data) ∧ ∀ k, r = .ok k → k = data.length) := by
  rcases asks.of_fastGet with ⟨_, rfl, rfl⟩ | ⟨_, _, k, called, rfl⟩ |
    ⟨_, _, _, u, _, called, rfl, closes⟩
  · exact ⟨.refl l s'.2, .inr ⟨c, file, nofun⟩⟩
  · obtain ⟨changes, left⟩ := tidy.transfer called leads file
    refine ⟨changes, left.imp_right fun ⟨data, filled, told⟩ => ⟨data, filled, ?_⟩⟩
    rintro k ⟨rfl⟩
    exact told _ rfl
  · obtain ⟨changes, left⟩ := tidy.transfer called leads file
    rw [tidy.closes closes]
    exact ⟨changes, left.imp_right fun ⟨data, filled, _⟩ => ⟨data, filled, nofun⟩⟩

end Tidy

end RemoteTags.Fetch

namespace RemoteTags.Memory.Server
open Local Fetch

abbrev relation : HostRelation Server := fun s k r s' => answer k s = (r, s')

theorem writeLocal_of_file {d : Disk} {path : String} {l : Location} {c : Bytes}
    (leads : d.Leads path l) (file : d.node? l = some (.file c)) (content : Bytes) :
    writeLocal d path content = .ok ((d.put l (.file [])).put l (.file content)) := by
  have created : d.create path = .ok (d.put l (.file [])) := by
    simp only [Disk.create, show d.find path = _ from leads, bind, Except.bind, file]
    rfl
  have changes := Disk.changesAt_put leads.ne_nil d (.file [])
  have empty : (d.put l (.file [])).node? l = some (.file []) := by
    rw [Disk.node?_put leads.ne_nil, if_pos rfl]
  have leads := leads.of_keeps (changes.keeps (by simp [file]))
  simp only [writeLocal, created, bind, Except.bind, Disk.append_of_file leads empty content]
  rfl

theorem tidy : Tidy relation where
  apart {s s' k r} answered other := by
    cases k with
    | fastGet link remote path n => exact absurd rfl (other link remote path n)
    | dial | home | stat | read | readDir | exec | remove | close | abandon =>
      cases answered
      rfl
  transfer {s s' link remote path n r l c} answered leads file := by
    simp only [relation, answer, fastGet] at answered
    split_ifs at answered
    · cases answered
      exact ⟨.refl l _, .inr ⟨c, file, nofun⟩⟩
    · cases answered
      exact ⟨.refl l _, .inr ⟨c, file, nofun⟩⟩
    · split at answered
      · cases answered
        exact ⟨.refl l _, .inr ⟨c, file, nofun⟩⟩
      · rename_i f _
        rw [writeLocal_of_file leads file] at answered
        cases answered
        have changes := (Disk.changesAt_put leads.ne_nil s.2 (.file [])).trans
          (Disk.changesAt_put leads.ne_nil _ (.file f.content))
        refine ⟨changes, .inr ⟨f.content, ?_, ?_⟩⟩
        · rw [Disk.node?_put leads.ne_nil, if_pos rfl]
        · rintro k ⟨rfl⟩
          rfl

def content? (server : Server) (path : String) : Option Bytes :=
  (server.file? path).map (·.content)

theorem content?_of_file? {server : Server} {path : String} {f : File}
    (found : server.file? path = some f) :
    server.content? path = some f.content := by
  rw [content?, found, Option.map_some]

theorem exec_gzip {server server' : Server} {source scratch : String} {out : Remote.Output}
    (ran : server.exec (Shell.gzipCommand source scratch) = (out, server'))
    (succeeded : out.exitStatus = 0) :
    ∃ f, server.file? source = some f ∧
      server'.file? scratch = some ⟨Gzip.encode f.content, 0⟩ := by
  unfold exec at ran
  rw [Shell.split_gzipCommand] at ran
  dsimp only at ran
  split_ifs at ran
  · cases ran
    cases succeeded
  · simp only [perform] at ran
    split at ran
    · cases ran
      cases succeeded
    · rename_i f found
      cases ran
      exact ⟨f, found, file?_put_self _ _ _⟩

theorem honest (source scratch : String) : Honest relation content? source scratch where
  compresses {s s' link n out} answered succeeded := by
    simp only [relation, answer, keeping, onLive] at answered
    split_ifs at answered
    · cases answered
    · cases answered
      obtain ⟨f, found, wrote⟩ := exec_gzip rfl succeeded
      exact ⟨f.content, _, content?_of_file? found, content?_of_file? wrote,
        Gzip.decode_encode f.content⟩
  transfers {s s' link path n k data l c} answered leads file filled := by
    simp only [relation, answer, fastGet] at answered
    split_ifs at answered
    · cases answered
    · cases answered
    · split at answered
      · cases answered
      · rename_i f found
        rw [writeLocal_of_file leads file] at answered
        cases answered
        rw [Disk.node?_put leads.ne_nil, if_pos rfl] at filled
        obtain rfl : f.content = data := by simpa using filled
        exact content?_of_file? found

theorem remove_eq_ok {s s' : Server} {path : String}
    (removed : s.remove path = (.ok (), s')) : s'.file? path = none := by
  unfold remove at removed
  split_ifs at removed
  · cases removed
  · split at removed
    · cases removed
    · cases removed
      exact (file?_erase s path path).trans (if_pos rfl)

end RemoteTags.Memory.Server

namespace RemoteTags.Memory.Rig
open Local Fetch

variable {rig rig' : Rig} {d d' : Disk} {link : Remote.LinkId} {path : String}

theorem server_receive (rig : Rig) (c : Remote.Call) : (rig.receive c).2.server = rig.server := by
  unfold receive
  split <;> rfl

theorem file?_of_removed (answered : answer (.remove link path) (rig, d) = (.ok (), rig', d')) :
    rig'.server.file? path = none := by
  simp only [answer] at answered
  generalize rig.receive (.remove link path) = received at answered
  obtain ⟨e, rig⟩ := received
  have passed (passed : pass (.remove link path) rig d = (.ok (), rig', d')) :
      rig'.server.file? path = none := by
    simp only [pass, Server.answer, Server.keeping, Server.onLive] at passed
    split_ifs at passed
    · cases passed
    · injection passed with removed rest
      cases rest
      exact Server.remove_eq_ok (Prod.ext removed rfl)
  cases e with
  | none => exact passed answered
  | some e =>
    cases e with
    | fail => cases answered
    | refuseDial | outcome | write | loseDirectory | loseFile => exact passed answered

theorem files_close {r : Remote.Attempt Unit}
    (answered : answer (.close link) (rig, d) = (r, rig', d')) :
    rig'.server.files = rig.server.files := by
  have same := server_receive rig (.close link)
  simp only [answer] at answered
  generalize rig.receive (.close link) = received at answered same
  obtain ⟨e, rig₁⟩ := received
  dsimp only at same
  rw [← same]
  cases e with
  | none =>
    cases answered
    rfl
  | some e =>
    cases e with
    | fail | refuseDial | outcome | write | loseDirectory | loseFile =>
      cases answered
      rfl

/-- A removal that says that there was nothing leaves nothing. -/
def Truthful (server : Server) : (k : Remote.Call) → k.Reply → Prop
  | .remove _ path, r => ∀ p, r = .error (.notFound p) → server.file? path = none
  | _, _ => True

def relation : HostRelation Server := fun s k r s' =>
  (∃ rig rig' : Rig, rig.server = s.1 ∧ rig'.server = s'.1 ∧
    answer k (rig, s.2) = (r, rig', s'.2)) ∧ Truthful s'.1 k r

theorem relation_server (s : Server × Disk) (k : Remote.Call) :
    relation s k (Server.answer k s).1 (Server.answer k s).2 := by
  refine ⟨⟨{ server := s.1 }, { server := (Server.answer k s).2.1, log := (logLine? k).toList },
    rfl, rfl, ?_⟩, ?_⟩
  · simp [answer, receive, take, pass]
  · cases k with
    | remove link path =>
      intro p missing
      simp only [Server.answer, Server.keeping, Server.onLive, Server.remove] at missing ⊢
      split_ifs at missing ⊢ with dead refused
      · cases missing
      · cases missing
      · split at missing
        · rename_i absent
          exact absent
        · cases missing
    | dial | home | stat | read | readDir | exec | fastGet | close | abandon => trivial

theorem removes (unlinks : Prop) (scratch : String) :
    Removes (Asks relation unlinks) scratch fun s => s.1.file? scratch = none where
  removed {s s' r} asked nothing := by
    rcases asked.of_remove with ⟨link, ⟨⟨rig, rig', _, after, answered⟩, _⟩, rfl⟩ |
      ⟨e, rfl, ⟨_, rfl⟩ | ⟨link, x, u, ⟨_, truthful⟩, rfl, closes⟩⟩
    · rw [← after]
      exact file?_of_removed answered
    · cases nothing
    · cases x with
      | notFound p =>
        have gone : u.1.file? scratch = none := truthful p rfl
        rcases closes with rfl | ⟨_, ⟨rig, rig', before, after, answered⟩, _⟩
        · exact gone
        · have same := files_close answered
          rw [before, after] at same
          rw [Server.file?, same]
          exact gone
      | unsupported | refused | localFailure | timedOut | io => cases nothing
  disk {s s' c r} asked gone := by
    rw [asked.of_disk.1]
    exact gone
  clock {s s' now} asked gone := by
    rw [asked.of_clock]
    exact gone

end RemoteTags.Memory.Rig
