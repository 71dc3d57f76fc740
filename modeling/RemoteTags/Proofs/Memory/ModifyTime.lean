import RemoteTags.Proofs.Memory.Calm
import RemoteTags.Proofs.Shell.Report
import RemoteTags.Proofs.Text.Utf8

/-! Asking a host for a modify time, directly and through the shell. The shell writes the time as a
stamp into the scratch file of the session, which is read back; what comes of this is the number
that the host answers directly. -/

namespace RemoteTags.Memory
open Text

theorem modifyTime_modifyLine {t : Int} {m : Time.Moment} (shown : Time.moment? t = some m) :
    Shell.modifyTime (Server.modifyLine m) = some t := by
  obtain ⟨valid, seconds, reached⟩ := Time.moment?_eq_some shown
  have fraction : Time.Fraction ('.' :: List.replicate 9 '0') := .digits (by simp) (by simp; decide)
  let stamp := m.text ('.' :: List.replicate 9 '0') ⟨false, 0, 0, by decide, by decide⟩
  have line : Server.modifyLine m =
      String.ofList (Shell.modifyLabel ++ ' ' :: stamp ++ ['\n']) := by
    have written : m.stampText ++ " +0000".toList = stamp := Time.stampText_eq m
    apply String.toList_inj.1
    delta Shell.modifyLabel
    rw [← written, Server.modifyLine]
    simp
  rw [line, Shell.modifyTime_line (Time.compact_text m fraction _),
    Time.readStamp_text valid fraction]
  simp [Time.Offset.seconds, seconds, reached]

namespace Server

variable {s : Server} {path : String} {f : File}

def asked (s : Server) : Server := { s with nativeStats := s.nativeStats + 1 }

theorem Calm.asked (calm : s.Calm) : s.asked.Calm :=
  ⟨calm.dead, calm.dials, calm.reads, calm.command⟩

theorem stat_of_unsupported (unsupported : s.statUnsupported = true) (path : String) :
    s.stat path = (.error (.unsupported path), s.asked) := by
  rw [Server.stat]
  exact if_pos unsupported

theorem stat_of_supported (supported : s.statUnsupported = false)
    (file : s.file? path = some f) : s.stat path = (.ok f.mtime, s.asked) := by
  have same : ({ s with nativeStats := s.nativeStats + 1 } : Server).file? path = some f := file
  rw [Server.stat]
  dsimp only
  rw [if_neg (by simp [supported]), same]
  rfl

theorem perform_stat (output : String) (file : s.file? path = some f) {m : Time.Moment}
    (shown : Time.moment? f.mtime = some m) :
    s.perform ["stat", path, "|", "grep", "Modify", ">", output] =
      ({}, s.put output ⟨Utf8.encode (modifyLine m), 0⟩) := by
  rw [perform, file]
  dsimp only
  rw [shown]

theorem Calm.exec_statCommand (calm : s.Calm) (output : String)
    (file : s.file? path = some f) {m : Time.Moment} (shown : Time.moment? f.mtime = some m) :
    ∃ s', s.exec (Shell.statCommand path output) = ({}, s') ∧ s'.Calm ∧
      s'.file? output = some ⟨Utf8.encode (modifyLine m), 0⟩ ∧
      s'.execs = Shell.statCommand path output :: s.execs := by
  obtain ⟨dead, dials, reads, command⟩ := calm
  let issued : Server := { s with execs := Shell.statCommand path output :: s.execs }
  refine ⟨issued.put output ⟨Utf8.encode (modifyLine m), 0⟩, ?_, ⟨dead, dials, reads, command⟩,
    file?_put_self .., rfl⟩
  rw [exec]
  dsimp only
  rw [if_neg (by simp [command]), Shell.split_statCommand]
  exact perform_stat (s := issued) output file shown

end Server

section Asking

variable {w : World Rig} {link : Link} {path : String} {f : File}

theorem run_shellStat (calm : w.host.Calm) (file : w.host.server.file? path = some f)
    (shown : (Time.moment? f.mtime).isSome) (link : Link) :
    ∃ h : Rig, w.run Rig.answer (Session.shellStat link path) =
        (.value f.mtime, { w with host := h }) ∧
      h.Calm ∧ h.server.execs =
        Shell.statCommand path (Shell.scratchBase link.home) :: w.host.server.execs := by
  obtain ⟨m, shown⟩ := Option.isSome_iff_exists.1 shown
  obtain ⟨s, wrote, calm', report, issued⟩ :=
    calm.server.exec_statCommand (Shell.scratchBase link.home) file shown
  obtain ⟨t, read, calm'', same⟩ := calm'.read report
  let call : Remote.Call :=
    .exec link.id (Shell.statCommand path (Shell.scratchBase link.home)) link.timeouts.exec
  have ran := calm.exec w.disk link.id link.timeouts.exec wrote
  have answered := (calm.after call calm').read w.disk link.id read
  refine ⟨(w.host.after call s).after (.read link.id (Shell.scratchBase link.home)) t, ?_,
    (calm.after call calm').after _ calm'', same.trans issued⟩
  unfold Session.shellStat Session.runCommand
  simp only [Act.remote, Program.query, Program.bind_eq, Program.ask_bind, Program.done_bind,
    World.run_remote]
  rw [World.call_eq Rig.answer w ran]
  simp only [if_true, Program.pure_eq, Program.done_bind, World.run_remote]
  rw [World.call_eq Rig.answer _ answered]
  simp only [Utf8.lossyString_encode, modifyTime_modifyLine shown]
  rfl

theorem run_statOn_shell (calm : w.host.Calm) (file : w.host.server.file? path = some f)
    (shown : (Time.moment? f.mtime).isSome) (slot : w.session.slot = some link)
    (fallback : link.shellStat = true ∨ w.host.server.statUnsupported = true) :
    ∃ h : Rig, w.run Rig.answer (Session.statOn path link) =
        (.value f.mtime, { w with session := w.session.useShellStat, host := h }) ∧
      h.Calm ∧ h.server.execs =
        Shell.statCommand path (Shell.scratchBase link.home) :: w.host.server.execs := by
  unfold Session.statOn
  by_cases shell : link.shellStat = true
  · have kept : w.session.useShellStat = w.session := by
      obtain ⟨id, home, shellStat, timeouts, generation⟩ := link
      subst shell
      cases session : w.session
      rw [session] at slot
      subst slot
      rfl
    rw [if_pos shell, kept]
    exact run_shellStat calm file shown link
  · rw [if_neg shell]
    have unsupported := fallback.resolve_left shell
    have answered := calm.stat w.disk link.id (Server.stat_of_unsupported unsupported path)
    have calm' := calm.after (.stat link.id path) calm.server.asked
    simp only [Act.remote, Act.session, Program.query, Program.bind_eq, Program.ask_bind,
      Program.done_bind, World.run_remote]
    rw [World.call_eq Rig.answer w answered]
    let asked : Rig := w.host.after (.stat link.id path) w.host.server.asked
    exact run_shellStat (w := { w with session := w.session.useShellStat, host := asked })
      calm' file shown link

theorem run_statOn_native (calm : w.host.Calm) (file : w.host.server.file? path = some f)
    (link : Link) (native : link.shellStat = false)
    (supported : w.host.server.statUnsupported = false) :
    ∃ h : Rig, w.run Rig.answer (Session.statOn path link) =
      (.value f.mtime, { w with host := h }) ∧ h.Calm ∧ h.server.execs = w.host.server.execs := by
  have answered := calm.stat w.disk link.id (Server.stat_of_supported supported file)
  refine ⟨w.host.after (.stat link.id path) w.host.server.asked, ?_,
    calm.after _ calm.server.asked, rfl⟩
  unfold Session.statOn
  rw [if_neg (by simp [native])]
  simp only [Act.remote, Program.query, Program.bind_eq, Program.ask_bind, Program.done_bind,
    World.run_remote]
  rw [World.call_eq Rig.answer w answered]
  rfl

end Asking

/-- The same link and the same host, with modify times that the server itself tells. -/
def natively (w : World Rig) : World Rig :=
  { w with
    session := { w.session with slot := w.session.slot.map ({ · with shellStat := false }) }
    host := { w.host with server := { w.host.server with statUnsupported := false } } }

theorem Online.natively {w : World Rig} {link : Link} (online : Online w link) :
    Online (natively w) { link with shellStat := false } := by
  obtain ⟨⟨faults, entered, dead, dials, reads, command⟩, slot, newest⟩ := online
  refine ⟨⟨faults, entered, dead, dials, reads, command⟩, ?_, newest⟩
  rw [Memory.natively, slot]
  rfl

/-- The shell tells the modify time of a file as the server does, whatever the path and the home
are. It may be the first question that the server does not support, or a later one. -/
theorem shell_stat_agrees {w : World Rig} {link : Link} (online : Online w link)
    (fallback : link.shellStat = true ∨ w.host.server.statUnsupported = true) {path : String}
    {f : File} (file : w.host.server.file? path = some f)
    (representable : (Time.moment? f.mtime).isSome) :
    let shell := w.run Rig.answer (Session.stat path)
    let native := (natively w).run Rig.answer (Session.stat path)
    shell.1 = .ok f.mtime ∧ native.1 = .ok f.mtime ∧
      shell.2.host.server.execs =
        Shell.statCommand path (Shell.scratchBase link.home) :: w.host.server.execs ∧
      native.2.host.server.execs = w.host.server.execs ∧
      Online shell.2 { link with shellStat := true } := by
  obtain ⟨h, ran, calm, issued⟩ := run_statOn_shell (w := { w with
    session := { w.session with held := true } }) online.calm file representable online.slot
      fallback
  have shell := online.run_onLink .reconnect ran
  obtain ⟨h', ran', calm', issued'⟩ := run_statOn_native (w := { natively w with
    session := { (natively w).session with held := true } }) online.natively.calm file
      { link with shellStat := false } rfl rfl
  have native := online.natively.run_onLink .reconnect ran'
  intro shell' native'
  rw [show shell' = _ from shell, show native' = _ from native]
  refine ⟨rfl, rfl, issued, issued', calm, ?_, online.newest⟩
  change w.session.slot.map ({ · with shellStat := true }) = _
  rw [online.slot]
  rfl

/-- A file from before the year 0, at a path that has to be quoted. -/
theorem shell_stat_agrees_ancient :
    ∃ (w v : World Rig) (link : Link),
      w.run Rig.answer (Session.connect { host := "host", user := "user" }) = (.ok (), v) ∧
      v.host.server.statUnsupported = true ∧ Online v link ∧
      (v.run Rig.answer (Session.stat "/src/it's old")).1 = .ok (-62167219201) ∧
      ((natively v).run Rig.answer (Session.stat "/src/it's old")).1 = .ok (-62167219201) := by
  let f : File := ⟨[], -62167219201⟩
  let w : World Rig := { host := { server := {
    files := [("/src/it's old", f)], home := " /home/dev\n", statUnsupported := true } } }
  have calm : w.host.Calm := ⟨rfl, rfl, rfl, rfl, rfl, rfl⟩
  have known : isBlankText w.host.server.home = false := by decide
  obtain ⟨v, link, connected, online, -, -, steady⟩ :=
    connect_online (c := { host := "host", user := "user" }) calm known (by decide)
  have file : v.host.server.file? "/src/it's old" = some f := by
    rw [Server.file?, steady.files]
    rfl
  obtain ⟨shell, native, -⟩ := shell_stat_agrees online (.inr steady.statUnsupported) file
    (by decide)
  exact ⟨w, v, link, connected, steady.statUnsupported, online, shell, native⟩

end RemoteTags.Memory
