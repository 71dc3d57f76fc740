import Mathlib.Data.List.Basic
import RemoteTags.Proofs.Effect.Runs
import RemoteTags.Proofs.Session.Life

/-! What a caller asks, with the replies. A role forgets which operation is under way and how it
ends; the list of the exchanges does not. For an operation it is one of four: there is no link; the
own part of the operation, then the slot is given back; or the own part, the last call of which has
broken the link, and then what follows the loss. -/

namespace RemoteTags

namespace Program

variable {Q : Type} {R : Q → Type} {α : Type}

/-- The program may be done with `a` after these exchanges, whatever the replies mean. -/
abbrev Traces (p : Program Q R α) (τ : List (Exchange Q R)) (a : α) : Prop :=
  p.Runs (fun (_ : Unit) _ _ _ => True) () τ a ()

/-- What is left of a program after these exchanges, the newest first. -/
inductive Leaves (p : Program Q R α) : List (Exchange Q R) → Program Q R α → Prop where
  | start : Leaves p [] p
  | next {τ : List (Exchange Q R)} {q : Q} {next : R q → Program Q R α}
      (left : Leaves p τ (.ask q next)) (r : R q) : Leaves p (⟨q, r⟩ :: τ) (next r)

theorem Leaves.traces {p p' : Program Q R α} {τ σ : List (Exchange Q R)} {a : α}
    (left : p.Leaves τ p') (rest : p'.Traces σ a) : p.Traces (τ.reverse ++ σ) a := by
  induction left generalizing σ with
  | start => exact rest
  | @next τ q next left r ih =>
    have whole := ih (.ask trivial rest)
    rwa [List.reverse_cons, List.append_assoc]

end Program

namespace Session

abbrev Heard := Program.Exchange Action Action.Reply

inductive Sound (link : Link) : Heard → Prop where
  | mark : Sound link ⟨.session .useShellStat, ()⟩
  | call {k : Remote.Call} {r : k.Reply} (onIt : operatesOn link.id k) (kept : breaks k r = false) :
      Sound link ⟨.remote k, r⟩

theorem Sound.eq_useShellStat {link : Link} {y : Section} {r : y.Reply}
    (sound : Sound link ⟨.session y, r⟩) : y = .useShellStat := by
  cases sound
  rfl

inductive Breaks (link : Link) : Heard → Prop where
  | call {k : Remote.Call} {r : k.Reply} (onIt : operatesOn link.id k) (broke : breaks k r = true) :
      Breaks link ⟨.remote k, r⟩

def Outcome.Worked {α : Type} (link : Link) (σ : List Heard) : Outcome α → Prop
  | .lost _ => ∃ before last, σ = before ++ [last] ∧ (∀ x ∈ before, Sound link x) ∧
      Breaks link last
  | .value _ | .refusal _ => ∀ x ∈ σ, Sound link x

/-- What an operation still asks once the link has been dropped and the slot is given back. -/
def resumption : AfterLoss → Option Reconnect → List Heard
  | .reconnect, some r => [⟨.session (.schedule r), ()⟩]
  | _, _ => []

inductive Course {α : Type} (after : AfterLoss) (op : Link → Act (Outcome α)) :
    List Heard → Except SessionError α → Prop where
  | refused : Course after op
      [⟨.session .hold, ()⟩, ⟨.session .current, none⟩, ⟨.session .release, ()⟩]
      (.error .notConnected)
  | value {link : Link} {σ : List Heard} {a : α} (ran : (op link).Traces σ (.value a)) :
      Course after op (⟨.session .hold, ()⟩ :: ⟨.session .current, some link⟩ ::
        (σ ++ [⟨.session .release, ()⟩])) (.ok a)
  | refusal {link : Link} {σ : List Heard} {e : SessionError}
      (ran : (op link).Traces σ (.refusal e)) :
      Course after op (⟨.session .hold, ()⟩ :: ⟨.session .current, some link⟩ ::
        (σ ++ [⟨.session .release, ()⟩])) (.error e)
  | lost {link : Link} {σ : List Heard} {e : SessionError} (ran : (op link).Traces σ (.lost e))
      (closed : Remote.Attempt Unit) (next : Option Reconnect) :
      Course after op (⟨.session .hold, ()⟩ :: ⟨.session .current, some link⟩ ::
        (σ ++ ⟨.remote (.close link.id), closed⟩ :: ⟨.session .drop, next⟩ ::
          ⟨.session .release, ()⟩ :: resumption after next)) (.error e)

theorem course_of_traces {α : Type} {after : AfterLoss} {op : Link → Act (Outcome α)}
    {τ : List Heard} {a : Except SessionError α} (run : (onLink after op).Traces τ a) :
    Course after op τ a := by
  obtain ⟨_, _, _, -, looking, rfl⟩ := run.of_ask
  obtain ⟨current, _, _, -, looked, rfl⟩ := looking.of_ask
  cases current with
  | none =>
    obtain ⟨_, _, _, -, left, rfl⟩ := looked.of_ask
    obtain ⟨rfl, rfl, -⟩ := left.of_done
    exact .refused
  | some link =>
    obtain ⟨σ, outcome, _, _, ran, worked, rfl⟩ := Program.Runs.of_bind (p := op link) looked
    cases outcome with
    | value a =>
      obtain ⟨_, _, _, -, left, rfl⟩ := worked.of_ask
      obtain ⟨rfl, rfl, -⟩ := left.of_done
      exact .value ran
    | refusal e =>
      obtain ⟨_, _, _, -, left, rfl⟩ := worked.of_ask
      obtain ⟨rfl, rfl, -⟩ := left.of_done
      exact .refusal ran
    | lost e =>
      obtain ⟨closed, _, _, -, dropping, rfl⟩ := worked.of_ask
      obtain ⟨next, _, _, -, leaving, rfl⟩ := dropping.of_ask
      obtain ⟨_, _, σ', -, left, rfl⟩ := leaving.of_ask
      obtain ⟨rfl, rfl⟩ : a = .error e ∧ σ' = resumption after next := by
        match after, next with
        | .reconnect, some r =>
          obtain ⟨_, _, _, -, scheduled, rfl⟩ := left.of_ask
          obtain ⟨rfl, rfl, -⟩ := scheduled.of_done
          exact ⟨rfl, rfl⟩
        | .stay, some r | .reconnect, none | .stay, none =>
          obtain ⟨rfl, rfl, -⟩ := left.of_done
          exact ⟨rfl, rfl⟩
      exact .lost ran closed next

def Role.Past : Role → Prop
  | dropping | leaving _ | parting _ | finished => True
  | _ => False

theorem Role.Past.after {ρ : Role} {q : Action} (past : ρ.Past) (allowed : ρ.Allows q)
    (r : q.Reply) : (ρ.after q r).Past := by
  fun_cases Role.after ρ q r <;> simp_all [Past, Allows]

section Worked

variable {α : Type} {link : Link} {p : Act (Outcome α)} {σ : List Heard} {o : Outcome α} {ρ : Role}

theorem Outcome.Worked.cons {x : Heard} (sound : Sound link x) (worked : o.Worked link σ) :
    o.Worked link (x :: σ) := by
  cases o with
  | lost e =>
    obtain ⟨before, last, rfl, kept, broke⟩ := worked
    exact ⟨x :: before, last, rfl, List.forall_mem_cons.2 ⟨sound, kept⟩, broke⟩
  | value a => exact List.forall_mem_cons.2 ⟨sound, worked⟩
  | refusal e => exact List.forall_mem_cons.2 ⟨sound, worked⟩

theorem not_traces_of_past (past : ρ.Past) (keeps : Keeps (fun ρ o => ρ = o.role link) ρ p) :
    ¬ p.Traces σ o := by
  intro ran
  induction p generalizing ρ σ with
  | done b =>
    rw [show ρ = b.role link from keeps] at past
    cases b <;> exact past
  | ask q next ih =>
    obtain ⟨r, _, _, -, rest, -⟩ := ran.of_ask
    exact ih r (past.after keeps.1 r) (keeps.2 r) rest

theorem lost_of_broken (keeps : Keeps (fun ρ o => ρ = o.role link) (.broken link) p)
    (ran : p.Traces σ o) : σ = [] ∧ ∃ e, o = .lost e := by
  cases p with
  | done b =>
    obtain ⟨rfl, rfl, -⟩ := ran.of_done
    cases o with
    | lost e => exact ⟨rfl, e, rfl⟩
    | value | refusal => cases (show Role.broken link = .working link from keeps)
  | ask q next =>
    obtain ⟨r, _, _, -, rest, -⟩ := ran.of_ask
    refine absurd rest (not_traces_of_past ?_ (keeps.2 r))
    cases q with
    | remote k => trivial
    | _ => exact keeps.1.elim

/-- The own part of an operation works on the link until a call breaks it, and then it is over. -/
theorem worked_of_traces (works : WorksOn link p) (ran : p.Traces σ o) : o.Worked link σ := by
  induction p generalizing σ with
  | done b =>
    obtain ⟨rfl, rfl, -⟩ := ran.of_done
    cases o with
    | lost e => cases (show Role.working link = .broken link from works)
    | value | refusal => exact List.forall_mem_nil _
  | ask q next ih =>
    obtain ⟨r, _, σ, -, rest, rfl⟩ := ran.of_ask
    obtain ⟨allowed, keeps⟩ := works
    cases q with
    | session x =>
      cases x with
      | useShellStat => exact (ih r (keeps r) rest).cons .mark
      | release =>
        have past : ((Role.working link).after (.session .release) r).Past := trivial
        exact absurd rest (not_traces_of_past past (keeps r))
      | _ => exact allowed.elim
    | remote k =>
      have after : (Role.working link).after (.remote k) r =
          if breaks k r then .broken link else .working link := rfl
      have keeps := keeps r
      rw [after] at keeps
      cases broke : breaks k r with
      | true =>
        rw [broke] at keeps
        obtain ⟨rfl, e, rfl⟩ := lost_of_broken keeps rest
        exact ⟨[], _, rfl, List.forall_mem_nil _, .call allowed broke⟩
      | false =>
        rw [broke] at keeps
        exact (ih r keeps rest).cons (.call allowed broke)
    | _ => exact allowed.elim

end Worked

section Aftermath

variable {α : Type} {after : AfterLoss} {link : Link} {a : Except SessionError α} {B : List Heard}

/-- What an operation asks when it has got its link. -/
inductive Aftermath (after : AfterLoss) (link : Link) :
    List Heard → Except SessionError α → Prop where
  | kept {σ : List Heard} (sound : ∀ x ∈ σ, Sound link x) (a : Except SessionError α) :
      Aftermath after link (σ ++ [⟨.session .release, ()⟩]) a
  | lost {σ : List Heard} {last : Heard} (sound : ∀ x ∈ σ, Sound link x)
      (broke : Breaks link last) (closed : Remote.Attempt Unit) (next : Option Reconnect)
      (e : SessionError) :
      Aftermath after link (σ ++ last :: ⟨.remote (.close link.id), closed⟩ ::
        ⟨.session .drop, next⟩ :: ⟨.session .release, ()⟩ :: resumption after next) (.error e)

inductive Asked (link : Link) : Heard → Prop where
  | sound {x : Heard} (sound : Sound link x) : Asked link x
  | breaks {x : Heard} (broke : Breaks link x) : Asked link x
  | closes (r : Remote.Attempt Unit) : Asked link ⟨.remote (.close link.id), r⟩
  | drops (next : Option Reconnect) : Asked link ⟨.session .drop, next⟩
  | leaves : Asked link ⟨.session .release, ()⟩
  | schedules (r : Reconnect) : Asked link ⟨.session (.schedule r), ()⟩

theorem mem_resumption {x : Heard} {next : Option Reconnect} (asked : x ∈ resumption after next) :
    ∃ r, after = .reconnect ∧ next = some r ∧ x = ⟨.session (.schedule r), ()⟩ := by
  match after, next with
  | .reconnect, some r => exact ⟨r, rfl, rfl, List.mem_singleton.1 asked⟩
  | .stay, some _ | .reconnect, none | .stay, none => cases asked

theorem Aftermath.asked (aftermath : Aftermath after link B a) {x : Heard} (mem : x ∈ B) :
    Asked link x := by
  cases aftermath with
  | kept sound =>
    rcases List.mem_append.1 mem with worked | left
    · exact .sound (sound x worked)
    · cases List.mem_singleton.1 left
      exact .leaves
  | lost sound broke closed next e =>
    simp only [List.mem_append, List.mem_cons] at mem
    rcases mem with worked | rfl | rfl | rfl | rfl | resumed
    · exact .sound (sound x worked)
    · exact .breaks broke
    · exact .closes closed
    · exact .drops next
    · exact .leaves
    · obtain ⟨r, -, -, rfl⟩ := mem_resumption resumed
      exact .schedules r

theorem Aftermath.not_current (aftermath : Aftermath after link B a) (r : Option Link) :
    ⟨.session .current, r⟩ ∉ B := by
  intro looks
  cases aftermath.asked looks with
  | sound sound => cases sound
  | breaks broke => cases broke

theorem aftermath_of_course {op : Link → Act (Outcome α)} {A τ : List Heard}
    (works : ∀ link, WorksOn link (op link)) (course : Course after op τ a)
    (looked : τ = A ++ ⟨.session .current, some link⟩ :: B) : Aftermath after link B a := by
  have here : ∀ {own : Link} {C : List Heard}, Aftermath after own C a →
      ⟨.session .hold, ()⟩ :: ⟨.session .current, some own⟩ :: C =
        A ++ ⟨.session .current, some link⟩ :: B → Aftermath after link B a := by
    intro own C aftermath same
    have before : (⟨.session .current, some link⟩ : Heard) ∉ [⟨.session .hold, ()⟩] := by simp
    obtain ⟨-, got, rfl⟩ :=
      (List.append_cons_inj_of_notMem before (aftermath.not_current (some link))).1 same
    cases got
    exact aftermath
  cases course with
  | refused =>
    have absent : (⟨.session .current, some link⟩ : Heard) ∈
        A ++ ⟨.session .current, some link⟩ :: B := by simp
    rw [← looked] at absent
    simp at absent
  | value ran => exact here (.kept (worked_of_traces (works _) ran) _) looked
  | refusal ran => exact here (.kept (worked_of_traces (works _) ran) _) looked
  | lost ran closed next =>
    obtain ⟨σ, last, rfl, sound, broke⟩ := worked_of_traces (works _) ran
    rw [List.append_assoc] at looked
    exact here (.lost sound broke closed next _) looked

end Aftermath

namespace Operation

def afterLoss : Operation → AfterLoss
  | .stat _ | .read _ | .readDir _ => .reconnect
  | .exec _ | .fastGet _ _ | .remove _ => .stay

theorem exists_hold (o : Operation) : ∃ next, o.program = .ask (.session .hold) next := by
  cases o <;> exact ⟨_, rfl⟩

theorem exists_work (o : Operation) :
    ∃ op, o.program = onLink o.afterLoss op ∧ ∀ link, WorksOn link (op link) := by
  cases o with
  | stat path => exact ⟨_, rfl, fun _ => worksOn_statOn path⟩
  | read path =>
    exact ⟨_, rfl, fun link => worksOn_call (.read link.id path) rfl _ role_ofAttempt⟩
  | readDir path =>
    exact ⟨_, rfl, fun link => worksOn_call (.readDir link.id path) rfl _ role_ofAttempt⟩
  | remove path =>
    exact ⟨_, rfl, fun link => worksOn_call (.remove link.id path) rfl _ role_ofAttempt⟩
  | exec command => exact ⟨_, rfl, fun _ => worksOn_runCommand command⟩
  | fastGet remote localPath =>
    refine ⟨_, rfl, fun _ => ⟨rfl, fun r => ?_⟩⟩
    match r with
    | .ok n => exact rfl
    | .error e => exact (role_failure e _).symm

end Operation

def Event.heardBy (i : Nat) : Event → Option Heard
  | .answered j q r => if j = i then some ⟨q, r⟩ else none
  | _ => none

/-- What caller `i` has asked, with the replies, the newest first. -/
def heard (i : Nat) (h : List Event) : List Heard := h.filterMap (Event.heardBy i)

section Heard

variable {i : Nat} {e : Event} {h : List Event} {q : Action} {r : q.Reply}

@[simp] theorem heard_append (i : Nat) (h h' : List Event) :
    heard i (h' ++ h) = heard i h' ++ heard i h := List.filterMap_append

theorem heardBy_self (i : Nat) (q : Action) (r : q.Reply) :
    (Event.answered i q r).heardBy i = some ⟨q, r⟩ := if_pos rfl

theorem heard_answered (i : Nat) (q : Action) (r : q.Reply) (h : List Event) :
    heard i (.answered i q r :: h) = ⟨q, r⟩ :: heard i h :=
  List.filterMap_cons_some (heardBy_self i q r)

theorem heard_quiet (h : List Event) (quiet : ¬ e.Answers i) : heard i (e :: h) = heard i h := by
  refine List.filterMap_cons_none ?_
  cases e with
  | answered j q r => exact if_neg quiet
  | _ => rfl

theorem mem_heard : ⟨q, r⟩ ∈ heard i h ↔ .answered i q r ∈ h := by
  rw [heard, List.mem_filterMap]
  constructor
  · rintro ⟨e, mem, told⟩
    cases e with
    | answered j q' r' =>
      dsimp only [Event.heardBy] at told
      split at told
      · cases told
        subst i
        exact mem
      · cases told
    | _ => cases told
  · exact fun mem => ⟨_, mem, heardBy_self i q r⟩

end Heard

namespace Traffic

variable {t u : Traffic} {h : List Event} {e : Event} {i : Nat} {c : Caller}

theorem Run.heard_absent (run : Run h t) (absent : t.callers.length ≤ i) : heard i h = [] := by
  induction run with
  | refl => rfl
  | @step h t u e path last ih =>
    have before := Nat.le_trans last.length_le absent
    rw [heard_quiet h (last.quiet_of_absent before), ih before]

theorem Run.leaves (run : Run h t) (present : t.callers[i]? = some c) :
    c.request.program.Leaves (heard i h) c.rest := by
  induction run generalizing c with
  | refl => cases present
  | @step h t u e path last ih =>
    rcases last.origin present with ⟨beyond, quiet, r, rfl⟩ | ⟨b, was, moves⟩
    · rw [heard_quiet h quiet, Run.heard_absent path beyond]
      exact .start
    · have before := ih was
      cases moves with
      | wait s quiet => simpa only [heard_quiet h quiet] using before
      | launch asks quiet => simpa only [heard_quiet h quiet] using before
      | proceed asks r quiet => simpa only [heard_quiet h quiet] using before
      | hear told asks left s =>
        rw [asks] at before
        rw [told, heard_answered]
        exact before.next _

theorem Run.course {o : Operation} {a : (Request.operate o).Answer} {p s : Option Opener}
    (run : Run h t) (present : t.callers[i]? = some ⟨.operate o, .done a, p, s⟩) :
    ∃ op, (∀ link, WorksOn link (op link)) ∧ Course o.afterLoss op (heard i h).reverse a := by
  obtain ⟨op, program, works⟩ := o.exists_work
  have traces := (run.leaves present).traces (.done a ())
  rw [List.append_nil] at traces
  refine ⟨op, works, course_of_traces ?_⟩
  rw [← program]
  exact traces

theorem Run.aftermath {o : Operation} {a : (Request.operate o).Answer} {p s : Option Opener}
    {link : Link} {h' : List Event}
    (run : Run (h' ++ .answered i (.session .current) (some link) :: h) t)
    (present : t.callers[i]? = some ⟨.operate o, .done a, p, s⟩) :
    Aftermath o.afterLoss link (heard i h').reverse a := by
  obtain ⟨op, works, course⟩ := run.course present
  refine aftermath_of_course works course (A := (heard i h).reverse) ?_
  rw [heard_append, heard_answered, List.reverse_append, List.reverse_cons, List.append_assoc]
  rfl

end Traffic

end Session

end RemoteTags
