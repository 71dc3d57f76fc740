import Mathlib.Data.Nat.Digits.Defs
import RemoteTags.Navigator.Operation
import RemoteTags.Proofs.Memory.Frame
import RemoteTags.Proofs.Session.Terms

/-! What the operations write and remove on the remote host: scratch files below the home of the
link, whatever paths they are given. -/

namespace RemoteTags

namespace Hexadecimal

def IsDigit (c : Char) : Prop := c ∈ "0123456789abcdef".toList

theorem isDigit_digitChar {n : Nat} (below : n < 16) : IsDigit n.digitChar := by
  have all : ∀ n : Fin 16, n.val.digitChar ∈ "0123456789abcdef".toList := by decide
  exact all ⟨n, below⟩

theorem isDigit_of_mem_digits {n : Nat} {c : Char} (mem : c ∈ digits n) : IsDigit c := by
  induction n using Nat.strongRecOn with
  | _ n ih =>
    unfold digits at mem
    by_cases short : n < 16
    · rw [Nat.toDigits_of_lt_base short, List.mem_singleton] at mem
      exact mem ▸ isDigit_digitChar short
    · rw [Nat.toDigits_of_base_le (by decide) (Nat.le_of_not_lt short)] at mem
      rcases List.mem_append.1 mem with high | low
      · exact ih (n / 16) (by omega) high
      · exact List.mem_singleton.1 low ▸ isDigit_digitChar (Nat.mod_lt n (by decide))

theorem padded_eq {n : Nat} (width : Nat) (wide : 0 < width) (fits : n < 16 ^ width) :
    ∃ ds, padded width n = String.ofList ds ∧ ds.length = width ∧ ∀ c ∈ ds, IsDigit c := by
  have short : (digits n).length ≤ width := Nat.toDigits_length 16 n width wide fits
  refine ⟨_, rfl, ?_, fun c mem => ?_⟩
  · rw [List.length_append, List.length_replicate, Nat.sub_add_cancel short]
  · rcases List.mem_append.1 mem with zero | digit
    · exact List.eq_of_mem_replicate zero ▸ isDigit_digitChar (n := 0) (by decide)
    · exact isDigit_of_mem_digits digit

end Hexadecimal

/-- The scratch files of the session and of the fetches on a host with this home directory. -/
inductive Scratch (home : String) : String → Prop where
  | session : Scratch home (Shell.scratchBase home)
  | fetch {token : List Char} (length : token.length = 16)
      (digits : ∀ c ∈ token, Hexadecimal.IsDigit c) :
      Scratch home (Shell.scratchBase home ++ "." ++ String.ofList token ++ ".gz")

theorem Scratch.length {home path : String} (scratch : Scratch home path) : 13 < path.length := by
  have dotted : "/.ctagssh.temp".length = 14 := rfl
  cases scratch with
  | session =>
    rw [Shell.scratchBase, String.length_append]
    omega
  | fetch =>
    simp only [Shell.scratchBase, String.length_append]
    omega

theorem scratch_scratchFile (home : String) {token : Nat} (below : token < Fetch.tokenBound) :
    Scratch home (Fetch.scratchFile home token) := by
  obtain ⟨ds, same, length, digits⟩ := Hexadecimal.padded_eq 16 (by decide) below
  rw [Fetch.scratchFile, same]
  exact .fetch length digits

/-- The call writes and removes nothing but scratch files. -/
def Remote.Call.Confined (home : String) : Remote.Call → Prop
  | .exec _ command _ => ∃ output, Shell.Redirects command output ∧ Scratch home output
  | .remove _ path => Scratch home path
  | _ => True

theorem Remote.Call.Confined.spares {home path : String} {c : Remote.Call}
    (confined : c.Confined home) (other : ¬ Scratch home path) : c.Spares path := by
  cases c with
  | exec =>
    obtain ⟨output, writes, scratch⟩ := confined
    refine ⟨output, writes, ?_⟩
    rintro rfl
    exact other scratch
  | remove =>
    rintro rfl
    exact other confined
  | _ => trivial

def Session.Section.Asks (home : String) : Section → Prop
  | .install _ (.ok link) => link.home = home
  | _ => True

def Session.Section.Tells (home : String) : (x : Section) → x.Reply → Prop
  | .current, found => ∀ link, found = some link → link.home = home
  | .status, s => ∀ known, s.home = some known → known = home
  | _, _ => True

def confined (home : String) : Terms Action Action.Reply where
  asks
    | .session x => x.Asks home
    | .remote c => c.Confined home
    | _ => True
  tells
    | .session x, r => x.Tells home r
    | .opening _ _, opened => ∀ link, opened = some (.ok link) → link.home = home
    | .random bound, n => 0 < bound → n < bound
    | _, _ => True

abbrev Confined {α : Type} (home : String) (p : Act α) : Prop :=
  p.Meets (confined home) fun _ => True

namespace Session

variable {α : Type} {home : String} {link : Link}

theorem confined_closeLink (link : Option Link) : Confined home (closeLink link) := by
  cases link with
  | none => trivial
  | some link => exact ⟨trivial, fun _ _ => trivial⟩

theorem confined_conclude (g : Nat) {opened : Except ConnectError Link}
    (honest : ∀ link, opened = .ok link → link.home = home) :
    Confined home (conclude g opened) := by
  refine ⟨?_, fun r _ => ?_⟩
  · cases opened with
    | ok link => exact honest link rfl
    | error e => trivial
  · cases r with
    | stale link => exact (confined_closeLink link).bind fun _ _ => trivial
    | connected | failed => trivial

theorem confined_connectAs (c : Connection) (expected : Option Nat) :
    Confined home (connectAs c expected) := by
  refine ⟨trivial, fun begun _ => ?_⟩
  cases begun with
  | none => trivial
  | some g =>
    refine ⟨trivial, fun older _ => (confined_closeLink older).bind fun _ _ => ?_⟩
    refine ⟨trivial, fun opened told => ?_⟩
    cases opened with
    | none => exact confined_conclude g nofun
    | some opened => exact confined_conclude g fun link same => told link (congrArg some same)

theorem confined_reconnect : Confined home reconnect := by
  refine ⟨trivial, fun s _ => ?_⟩
  dsimp only [Program.done_bind]
  split
  · exact confined_connectAs _ none
  · trivial

theorem confined_disconnect : Confined home disconnect :=
  ⟨trivial, fun _ _ => ⟨trivial, fun older _ => confined_closeLink older⟩⟩

theorem confined_onLink {after : AfterLoss} {op : Link → Act (Outcome α)}
    (own : ∀ link, link.home = home → Confined home (op link)) :
    Confined home (onLink after op) := by
  refine meets_onLink (fun x other => ?_) fun link told => ⟨trivial, own link (told link rfl)⟩
  cases x with
  | install g opened => exact absurd rfl (other g opened)
  | _ => trivial

theorem confined_call {c : Remote.Call} (spares : c.Confined home) (f : c.Reply → Outcome α) :
    Confined home (Program.ask (Action.remote c) fun r => .done (f r)) :=
  ⟨spares, fun _ _ => trivial⟩

theorem confined_runCommand {command output : String} (writes : Shell.Redirects command output)
    (scratch : Scratch home output) : Confined home (runCommand link command) :=
  meets_runCommand ⟨output, writes, scratch⟩

theorem confined_shellStat (path : String) (here : link.home = home) :
    Confined home (shellStat link path) := by
  have scratch : Scratch home (Shell.scratchBase link.home) := here ▸ .session
  refine (confined_runCommand (.stat path _) scratch).bind fun outcome _ => ?_
  cases outcome with
  | refusal | lost => trivial
  | value out =>
    refine ⟨trivial, fun r _ => ?_⟩
    cases r with
    | error e => trivial
    | ok report =>
      dsimp only [Program.done_bind]
      split <;> trivial

theorem confined_statOn (path : String) (here : link.home = home) :
    Confined home (statOn path link) := by
  unfold statOn
  split
  · exact confined_shellStat path here
  · refine ⟨trivial, fun r _ => ?_⟩
    dsimp only [Program.done_bind]
    split
    · trivial
    · exact ⟨trivial, fun _ _ => confined_shellStat path here⟩
    · trivial

theorem confined_stat (path : String) : Confined home (stat path) :=
  confined_onLink fun _ here => confined_statOn path here

theorem confined_read (path : String) : Confined home (read path) :=
  confined_onLink fun link _ => confined_call (c := .read link.id path) trivial _

theorem confined_readDir (path : String) : Confined home (readDir path) :=
  confined_onLink fun link _ => confined_call (c := .readDir link.id path) trivial _

theorem confined_exec {command output : String} (writes : Shell.Redirects command output)
    (scratch : Scratch home output) : Confined home (exec command) :=
  confined_onLink fun _ _ => confined_runCommand writes scratch

theorem confined_fastGet (remote localPath : String) :
    Confined home (fastGet remote localPath) := by
  refine confined_onLink fun link _ => ⟨trivial, fun r _ => ?_⟩
  cases r <;> trivial

theorem confined_remove {path : String} (scratch : Scratch home path) :
    Confined home (remove path) :=
  confined_onLink fun link _ => confined_call (c := .remove link.id path) scratch _

theorem remoteHome_meets :
    remoteHome.Meets (confined home) fun found => ∀ known, found = some known → known = home :=
  ⟨trivial, fun _ told => told⟩

end Session

namespace Cache

variable {home : String}

theorem confined_preload (path : String) : Confined home (preload path) := by
  refine ⟨trivial, fun s _ => ?_⟩
  dsimp only [Program.pure_eq, Program.done_bind]
  split
  · trivial
  · refine (Session.confined_stat path).bind fun observed _ => ?_
    split
    · trivial
    · refine ⟨trivial, fun now _ => ⟨trivial, fun hit _ => ?_⟩⟩
      dsimp only [Program.done_bind]
      split
      · trivial
      · refine (Session.confined_read path).bind fun got _ => ?_
        cases got with
        | error e => trivial
        | ok bytes => exact ⟨trivial, fun _ _ => ⟨trivial, fun _ _ => trivial⟩⟩

end Cache

namespace Fetch

variable {α : Type} {home : String}

def terms (home : String) : Terms Ask Ask.Reply where
  asks
    | .exec command => ∃ output, Shell.Redirects command output ∧ Scratch home output
    | .remove path => Scratch home path
    | _ => True
  tells
    | .home, found => ∀ known, found = some known → known = home
    | .random bound, n => 0 < bound → n < bound
    | _, _ => True

abbrev Within (home : String) (p : Course α) : Prop := p.Meets (terms home) fun _ => True

theorem confined_answering (q : Ask) (asks : (terms home).asks q) :
    q.program.Meets (confined home) ((terms home).tells q) := by
  cases q with
  | connected | disk | clock => exact ⟨trivial, fun _ _ => trivial⟩
  | home => exact Session.remoteHome_meets
  | exec command =>
    obtain ⟨output, writes, scratch⟩ := asks
    exact Session.confined_exec writes scratch
  | fastGet remote localPath => exact Session.confined_fastGet remote localPath
  | remove path => exact Session.confined_remove asks
  | random bound => exact ⟨trivial, fun _ told => told⟩

theorem within_removeRemote {path : String} (scratch : Scratch home path) :
    Within home (removeRemote path) :=
  ⟨scratch, fun _ _ => trivial⟩

theorem within_removeLocal (path : String) : Within home (removeLocal path) :=
  ⟨trivial, fun _ _ => trivial⟩

section Steps

variable {p : Plan} (scratch : Scratch home p.scratch)

include scratch

theorem within_compress : Within home (compress p) := by
  refine ⟨⟨_, .gzip _ _, scratch⟩, fun r _ => ?_⟩
  cases r with
  | ok out => trivial
  | error e => exact (within_removeRemote scratch).bind fun _ _ => trivial

theorem within_transfer : Within home (transfer p) := by
  refine ⟨trivial, fun r _ => ?_⟩
  cases r with
  | error e => exact (within_removeRemote scratch).bind fun _ _ => trivial
  | ok path =>
    refine ⟨trivial, fun r _ => (within_removeRemote scratch).bind fun left _ => ?_⟩
    cases r with
    | ok n => trivial
    | error e => exact (within_removeLocal path).bind fun _ _ => trivial

omit scratch in
theorem within_expandInto (target : String) (compressed : Bytes) :
    Within home (expandInto target compressed) := by
  unfold expandInto
  cases Gzip.decode compressed with
  | error unfinished =>
    refine ⟨trivial, fun r _ => ?_⟩
    cases r <;> trivial
  | ok content =>
    refine ⟨trivial, fun r _ => ?_⟩
    cases r with
    | error e => trivial
    | ok =>
      refine ⟨trivial, fun r _ => ?_⟩
      cases r <;> trivial

omit scratch in
theorem within_expand (source directory : String) : Within home (expand source directory) := by
  refine ⟨trivial, fun r _ => ?_⟩
  cases r with
  | error e => trivial
  | ok compressed =>
    refine ⟨trivial, fun r _ => ?_⟩
    cases r with
    | error e => trivial
    | ok target =>
      refine (within_expandInto target compressed).bind fun r _ => ?_
      cases r with
      | ok n => trivial
      | error e => exact ⟨trivial, fun _ _ => trivial⟩

omit scratch in
theorem within_decompress (t : Transferred) : Within home (decompress p t) := by
  refine (within_expand t.path p.directory).bind fun r _ => ?_
  refine (within_removeLocal t.path).bind fun _ _ => ?_
  cases r <;> trivial

omit scratch in
theorem within_install (e : Expanded) (target : String) : Within home (install e target) := by
  refine ⟨trivial, fun r _ => ?_⟩
  cases r with
  | ok => trivial
  | error e => exact (within_removeLocal _).bind fun _ _ => trivial

theorem within_carryOut (target : String) (start : Nat) :
    Within home (carryOut p target start) := by
  refine (within_compress scratch).bind fun r _ => ?_
  cases r with
  | error e => trivial
  | ok =>
    refine (within_transfer scratch).bind fun r _ => ?_
    cases r with
    | error e => trivial
    | ok t =>
      refine (within_decompress t).bind fun r _ => ?_
      cases r with
      | error e => trivial
      | ok x =>
        refine (within_install x target).bind fun r _ => ?_
        cases r with
        | error e => trivial
        | ok => exact ⟨trivial, fun _ _ => trivial⟩

end Steps

theorem within_course (remoteFile target : String) : Within home (course remoteFile target) := by
  refine ⟨trivial, fun start _ => ⟨trivial, fun connected _ => ?_⟩⟩
  cases connected with
  | false => trivial
  | true =>
    refine ⟨trivial, fun found told => ?_⟩
    cases found with
    | none => trivial
    | some known =>
      obtain rfl := told known rfl
      dsimp only [Program.done_bind]
      cases (Path.baseName? (Path.expandHome known remoteFile)).isNone with
      | true => trivial
      | false =>
        refine ⟨trivial, fun made _ => ?_⟩
        cases made with
        | error e => trivial
        | ok =>
          refine ⟨trivial, fun token told => ?_⟩
          have below : token < tokenBound := told (by decide)
          exact within_carryOut (p := ⟨_, _, _⟩) (scratch_scratchFile known below) target start

theorem within_courseInto (remoteFile directory : String) :
    Within home (courseInto remoteFile directory) := by
  refine ⟨trivial, fun found _ => ?_⟩
  cases found with
  | none => trivial
  | some known =>
    dsimp only [Program.done_bind]
    split
    · trivial
    · exact within_course remoteFile _

theorem confined_fetchTo (remoteFile target : String) : Confined home (fetchTo remoteFile target) :=
  (within_course remoteFile target).handle confined_answering

theorem confined_fetch (remoteFile directory : String) :
    Confined home (fetch remoteFile directory) :=
  (within_courseInto remoteFile directory).handle confined_answering

end Fetch

namespace Navigator

variable {home : String}

theorem confined_expandHome (path : String) : Confined home (expandHome path) := by
  refine Session.remoteHome_meets.bind fun found _ => ?_
  cases found <;> trivial

theorem confined_remotePathOf (n : Navigator) (tag : Tag) : Confined home (n.remotePathOf tag) := by
  unfold remotePathOf
  split
  · exact (confined_expandHome _).bind fun _ _ => trivial
  · trivial

theorem confined_visit (n : Navigator) (tag : Tag) : Confined home (n.visit tag) := by
  refine (confined_remotePathOf n tag).bind fun path _ => ⟨trivial, fun token _ => ?_⟩
  refine (Cache.confined_preload path).bind fun r _ => ?_
  cases r with
  | error e => trivial
  | ok => exact ⟨trivial, fun _ _ => trivial⟩

theorem confined_goTo (n : Navigator) (tag : Tag) (origin : Option Origin) :
    Confined home (n.goTo tag origin) :=
  (confined_visit n tag).bind fun _ _ => trivial

theorem confined_revisit (o : Origin) : Confined home (revisit o) := by
  unfold revisit
  split
  · trivial
  · split
    · trivial
    · refine (Cache.confined_preload _).bind fun r _ => ?_
      cases r <;> trivial

theorem confined_back (n : Navigator) : Confined home n.back := by
  unfold back
  split
  · trivial
  · refine (confined_revisit _).bind fun r _ => ?_
    cases r <;> trivial

theorem confined_tagsDirectory (n : Navigator) : Confined home n.tagsDirectory := by
  unfold tagsDirectory
  split
  · trivial
  · exact (confined_expandHome _).bind fun _ _ => trivial

theorem confined_listTagFiles (n : Navigator) : Confined home n.listTagFiles := by
  refine (confined_tagsDirectory n).bind fun r _ => ?_
  cases r with
  | error e => trivial
  | ok directory =>
    refine (Session.confined_readDir directory).bind fun r _ => ?_
    cases r <;> trivial

theorem confined_refreshTags (n : Navigator) (fileName localTags : String) :
    Confined home (n.refreshTags fileName localTags) := by
  refine (confined_tagsDirectory n).bind fun r _ => ?_
  cases r with
  | error e => trivial
  | ok directory =>
    refine (Fetch.confined_fetchTo _ localTags).bind fun r _ => ?_
    cases r with
    | error e => trivial
    | ok report =>
      refine ⟨trivial, fun content _ => ?_⟩
      dsimp only [Program.pure_eq, Program.done_bind]
      split
      · trivial
      · exact ⟨trivial, fun _ _ => trivial⟩

end Navigator

end RemoteTags
