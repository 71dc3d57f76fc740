import RemoteTags.Proofs.Session.Loss
import RemoteTags.Proofs.Session.Strategy

/-! The calls of a question for a modify time. Its own part is the native question, or the two calls
by which the shell tells the time, or the one and then the others; which of them it is depends on
nothing but what the server has answered to the native question on the same link before. -/

namespace RemoteTags.Session

abbrev Called := Program.Exchange Remote.Call Remote.Call.Reply

def Heard.called? : Heard → Option Called
  | ⟨.remote k, r⟩ => some ⟨k, r⟩
  | _ => none

/-- The remote calls of caller `i`, the oldest first. -/
def callsBy (i : Nat) (h : List Event) : List Called := (heard i h).reverse.filterMap Heard.called?

abbrev reportCall (link : Link) (path : String) : Remote.Call :=
  .exec link.id (Shell.statCommand path (Shell.scratchBase link.home)) link.timeouts.exec

/-- The shell writes the report, and if it says that it has, the report is read. -/
inductive ByShell (link : Link) (path : String) : List Called → Prop where
  | failed (r : Remote.Attempt Remote.Output) (fails : ∀ out, r = .ok out → out.exitStatus ≠ 0) :
      ByShell link path [⟨reportCall link path, r⟩]
  | reported (out : Remote.Output) (exits : out.exitStatus = 0) (report : Remote.Attempt Bytes) :
      ByShell link path
        [⟨reportCall link path, .ok out⟩, ⟨.read link.id (Shell.scratchBase link.home), report⟩]

/-- The server is asked itself, and only if it does not support the question, the shell. -/
inductive Natively (link : Link) (path : String) : List Called → Prop where
  | told (r : Remote.Attempt Int) (supports : ∀ reason, r ≠ .error (.unsupported reason)) :
      Natively link path [⟨.stat link.id path, r⟩]
  | turns (reason : String) {σ : List Called} (asks : ByShell link path σ) :
      Natively link path (⟨.stat link.id path, .error (.unsupported reason)⟩ :: σ)

/-- After these calls of an operation, a link that they have broken is closed. -/
def Closing (link : Link) (own rest : List Called) : Prop :=
  (∀ x ∈ own, breaks x.1 x.2 = false) ∧ rest = [] ∨
    (∃ x ∈ own, breaks x.1 x.2 = true) ∧ ∃ r, rest = [⟨.close link.id, r⟩]

/-- The calls of a question for a modify time that finds this link after the events `h`. -/
def Asking (path : String) (h : List Event) : Option Link → List Called → Prop
  | none, σ => σ = []
  | some link, σ => ∃ own rest, σ = own ++ rest ∧
      (Unsupported link.id h → ByShell link path own) ∧
      (¬ Unsupported link.id h → Natively link path own) ∧ Closing link own rest

section Calls

variable {link : Link} {command path : String} {σ : List Heard}

theorem outcome_failure {α : Type} (cause : TransportError) (e : SessionError) (a : α) :
    Outcome.failure cause e ≠ .value a := by
  unfold Outcome.failure
  split <;> exact nofun

theorem exec_of_traces {o : Outcome Remote.Output} (ran : (runCommand link command).Traces σ o) :
    ∃ r, σ = [⟨.remote (.exec link.id command link.timeouts.exec), r⟩] ∧
      ((∃ out, r = .ok out ∧ out.exitStatus = 0 ∧ o = .value out) ∨
        (∀ out, r = .ok out → out.exitStatus ≠ 0) ∧ ∀ out, o ≠ .value out) := by
  obtain ⟨r, _, σ, -, rest, rfl⟩ := ran.of_ask
  match r with
  | .error e =>
    obtain ⟨rfl, rfl, -⟩ := rest.of_done
    exact ⟨_, rfl, .inr ⟨nofun, outcome_failure e _⟩⟩
  | .ok out =>
    dsimp only [Program.done_bind] at rest
    split at rest
    · rename_i exits
      obtain ⟨rfl, rfl, -⟩ := rest.of_done
      exact ⟨_, rfl, .inl ⟨out, rfl, exits, rfl⟩⟩
    · rename_i fails
      obtain ⟨rfl, rfl, -⟩ := rest.of_done
      refine ⟨_, rfl, .inr ⟨?_, nofun⟩⟩
      rintro _ ⟨⟩
      exact fails

theorem byShell_of_traces {o : Outcome Int} (ran : (shellStat link path).Traces σ o) :
    ByShell link path (σ.filterMap Heard.called?) := by
  obtain ⟨σ₁, outcome, _, σ₂, first, rest, rfl⟩ :=
    Program.Runs.of_bind (p := runCommand link _) ran
  obtain ⟨r, rfl, ⟨out, rfl, exits, rfl⟩ | ⟨fails, other⟩⟩ := exec_of_traces first
  · obtain ⟨report, _, σ, -, last, rfl⟩ := rest.of_ask
    have ended : σ = [] := by
      cases report with
      | error e => exact last.of_done.1
      | ok bytes =>
        dsimp only [Program.done_bind] at last
        split at last <;> exact last.of_done.1
    subst ended
    exact .reported out exits report
  · have ended : σ₂ = [] := by
      cases outcome with
      | value out => exact absurd rfl (other out)
      | refusal e => exact rest.of_done.1
      | lost e => exact rest.of_done.1
    subst ended
    exact .failed r fails

theorem byShell_of_marked {o : Outcome Int} (ran : (statOn path link).Traces σ o)
    (marked : link.shellStat = true) : ByShell link path (σ.filterMap Heard.called?) := by
  rw [statOn, if_pos marked] at ran
  exact byShell_of_traces ran

theorem natively_of_unmarked {o : Outcome Int} (ran : (statOn path link).Traces σ o)
    (native : link.shellStat = false) : Natively link path (σ.filterMap Heard.called?) := by
  rw [statOn, if_neg (by simp [native])] at ran
  obtain ⟨r, _, σ, -, rest, rfl⟩ := ran.of_ask
  match r with
  | .error (.unsupported reason) =>
    obtain ⟨_, _, σ, -, asks, rfl⟩ := rest.of_ask
    have shell : ByShell link path (σ.filterMap Heard.called?) := byShell_of_traces asks
    exact .turns reason shell
  | .ok _ | .error (.notFound _) | .error (.refused _) | .error (.localFailure _)
  | .error (.timedOut _) | .error (.io _) =>
    obtain ⟨rfl, -, -⟩ := rest.of_done
    exact .told _ nofun

theorem sound_of_called {x : Called} (sound : ∀ y ∈ σ, Sound link y)
    (mem : x ∈ σ.filterMap Heard.called?) : breaks x.1 x.2 = false := by
  obtain ⟨y, asked, called⟩ := List.mem_filterMap.1 mem
  cases sound y asked with
  | mark => cases called
  | call _ kept =>
    cases called
    exact kept

theorem exists_broke {last : Heard} (broke : Breaks link last) (mem : last ∈ σ) :
    ∃ x ∈ σ.filterMap Heard.called?, breaks x.1 x.2 = true := by
  cases broke with
  | call _ broke => exact ⟨_, List.mem_filterMap.2 ⟨_, mem, rfl⟩, broke⟩

theorem exists_moment {i : Nat} {h : List Event} {A B : List Heard} {q : Action} {r : q.Reply}
    (told : (heard i h).reverse = A ++ ⟨q, r⟩ :: B) :
    ∃ later earlier, h = later ++ .answered i q r :: earlier ∧
      (heard i earlier).reverse = A ∧ (heard i later).reverse = B := by
  have newest : heard i h = B.reverse ++ ⟨q, r⟩ :: A.reverse := by
    rw [← List.reverse_reverse (heard i h), told, List.reverse_append, List.reverse_cons,
      List.append_assoc]
    rfl
  obtain ⟨late, rest, rfl, after, now⟩ := List.filterMap_eq_append_iff.1 newest
  obtain ⟨quiet, e, earlier, rfl, silent, asked, before⟩ := List.filterMap_eq_cons_iff.1 now
  have here : e = .answered i q r := by
    cases e with
    | answered j q' r' =>
      dsimp only [Event.heardBy] at asked
      split at asked
      · cases asked
        subst i
        rfl
      · cases asked
    | _ => cases asked
  subst here
  refine ⟨late ++ quiet, earlier, (List.append_assoc _ _ _).symm, ?_, ?_⟩
  · rw [heard, before, List.reverse_reverse]
  · rw [heard_append, heard, heard, after, List.filterMap_eq_nil_iff.2 silent, List.append_nil,
      List.reverse_reverse]

end Calls

namespace Traffic

variable {t : Traffic} {h : List Event} {i : Nat} {link : Link} {path : String}
  {σ B : List Heard}

theorem Run.asking_of_work {o : Outcome Int} (run : Run h t)
    (told : (heard i h).reverse =
      [⟨.session .hold, ()⟩] ++ ⟨.session .current, some link⟩ :: (σ ++ B))
    (ran : (statOn path link).Traces σ o)
    (closing : Closing link (σ.filterMap Heard.called?) (B.filterMap Heard.called?)) :
    ∃ later earlier r, h = later ++ .answered i (.session .current) r :: earlier ∧
      callsBy i earlier = [] ∧ Asking path earlier r (callsBy i later) := by
  obtain ⟨later, earlier, rfl, before, after⟩ := exists_moment told
  obtain ⟨v, w, early, looks, -⟩ := Path.split run
  have strategy := (Run.marked early).of_look early looks
  refine ⟨later, earlier, some link, rfl, by rw [callsBy, before]; rfl,
    σ.filterMap Heard.called?, B.filterMap Heard.called?, ?_, fun denied => ?_,
    fun unasked => ?_, closing⟩
  · rw [callsBy, after, List.filterMap_append]
  · exact byShell_of_marked ran (strategy.2 denied)
  · exact natively_of_unmarked ran (Bool.eq_false_iff.2 fun marked => unasked (strategy.1 marked))

theorem Run.asking {a : (Request.operate (.stat path)).Answer} {p s : Option Opener}
    (run : Run h t) (done : t.callers[i]? = some ⟨.operate (.stat path), .done a, p, s⟩) :
    ∃ later earlier r, h = later ++ .answered i (.session .current) r :: earlier ∧
      callsBy i earlier = [] ∧ Asking path earlier r (callsBy i later) := by
  have traces := (run.leaves done).traces (.done a ())
  rw [List.append_nil] at traces
  have course : Course .reconnect (statOn path) (heard i h).reverse a := course_of_traces traces
  generalize told : (heard i h).reverse = asked at course
  cases course with
  | refused =>
    obtain ⟨later, earlier, rfl, before, after⟩ := exists_moment (A := [⟨.session .hold, ()⟩]) told
    exact ⟨later, earlier, none, rfl, by rw [callsBy, before]; rfl,
      by rw [Asking, callsBy, after]; rfl⟩
  | value ran =>
    have sound := worked_of_traces (worksOn_statOn path) ran
    exact run.asking_of_work told ran (.inl ⟨fun _ => sound_of_called sound, rfl⟩)
  | refusal ran =>
    have sound := worked_of_traces (worksOn_statOn path) ran
    exact run.asking_of_work told ran (.inl ⟨fun _ => sound_of_called sound, rfl⟩)
  | @lost link σ e ran closed next =>
    obtain ⟨before, last, rfl, -, broke⟩ := worked_of_traces (worksOn_statOn path) ran
    refine run.asking_of_work told ran (.inr ⟨exists_broke broke (by simp), closed, ?_⟩)
    cases next <;> rfl

/-- The native question is asked on a link until its server denies it, and not any more then. Every
question for a modify time can be brought to its end; it asks natively as long as nobody has been
denied on its link, and otherwise the shell. Between the operations the mark of the link tells the
same, and a link that has just been opened is not marked. -/
theorem stat_turns_once (run : Run h t) :
    (∀ x l path, InFlight t x (.stat l path) → ¬ Unsupported l h) ∧
    (∀ i path p f s, t.callers[i]? = some ⟨.operate (.stat path), p, f, s⟩ →
      (∃ h' u, Path t h' u ∧ Done u i) ∧
      ∀ a, p = .done a → ∃ later earlier r,
        h = later ++ .answered i (.session .current) r :: earlier ∧
        callsBy i earlier = [] ∧ Asking path earlier r (callsBy i later)) ∧
    (∀ link, t.session.slot = some link → t.session.held = false →
      (link.shellStat = true ↔ Unsupported link.id h)) ∧
    ∀ i c g link u, Step t (.answered i (.opening c g) (some (.ok link))) u →
      link.shellStat = false ∧ ¬ Unsupported link.id h := by
  refine ⟨fun x l path => run.not_unsupported_of_stat, fun i path p f s present => ?_,
    fun link => run.marked_of_free, fun i c g link u => run.new_of_opened⟩
  refine ⟨run.exists_end present, ?_⟩
  rintro a rfl
  exact run.asking present

theorem exists_run_denied (c : Connection) {home : String} (known : Text.isBlankText home = false) :
    ∃ h t link a p s, Run h t ∧ t.session.slot = some link ∧ t.session.held = false ∧
      link.shellStat = true ∧ t.callers[2]? = some ⟨.operate (.stat "b"), .done a, p, s⟩ := by
  obtain ⟨h, connected⟩ := exists_run_connected c known
  have called := connected.step (.arrive (.operate (.stat "a")) trivial)
  dsimp at called
  have holding := called.step (.run (i := 1) rfl rfl rfl)
  dsimp [Section.answer, Section.followers] at holding
  have looked := holding.step (.run (i := 1) rfl rfl rfl)
  dsimp [Section.answer, Section.followers, current] at looked
  have denied := looked.step
    (.call (i := 1) (k := .stat 0 "a") rfl rfl (.error (.unsupported "fstat")))
  dsimp at denied
  have turned := denied.step (.run (i := 1) rfl rfl rfl)
  dsimp [Section.answer, Section.followers, useShellStat] at turned
  have stopped := turned.step (.call (i := 1)
    (k := .exec 0 (Shell.statCommand "a" (Shell.scratchBase (Text.trimmed home))) c.timeouts.exec)
    rfl rfl (.ok { exitStatus := 1 }))
  dsimp at stopped
  have left := stopped.step (.run (i := 1) rfl rfl rfl)
  dsimp [Section.answer, Section.followers] at left
  have again := left.step (.arrive (.operate (.stat "b")) trivial)
  dsimp at again
  have holding := again.step (.run (i := 2) rfl rfl rfl)
  dsimp [Section.answer, Section.followers] at holding
  have looked := holding.step (.run (i := 2) rfl rfl rfl)
  dsimp [Section.answer, Section.followers, current] at looked
  have reported := looked.step (.call (i := 2)
    (k := .exec 0 (Shell.statCommand "b" (Shell.scratchBase (Text.trimmed home))) c.timeouts.exec)
    rfl rfl (.ok {}))
  dsimp at reported
  have read := reported.step (.call (i := 2)
    (k := .read 0 (Shell.scratchBase (Text.trimmed home))) rfl rfl (.ok []))
  dsimp at read
  have ended := read.step (.run (i := 2) rfl rfl rfl)
  dsimp [Section.answer, Section.followers] at ended
  exact ⟨_, _, _, _, _, _, ended, rfl, rfl, rfl, rfl⟩

theorem stat_turns_once_denied :
    ∃ h t link, Run h t ∧ t.session.slot = some link ∧ Unsupported link.id h ∧
      ∃ later earlier r, h = later ++ .answered 2 (.session .current) r :: earlier ∧
        callsBy 2 earlier = [] ∧ Asking "b" earlier r (callsBy 2 later) := by
  have known : Text.isBlankText "/home/user" = false := by decide
  obtain ⟨h, t, link, a, p, s, run, inSlot, free, marked, done⟩ :=
    exists_run_denied { host := "host", user := "user" } known
  obtain ⟨-, asking, strategy, -⟩ := stat_turns_once run
  exact ⟨h, t, link, run, inSlot, (strategy link inSlot free).1 marked,
    (asking 2 "b" _ p s done).2 a rfl⟩

end Traffic

end RemoteTags.Session
