import RemoteTags.Proofs.Session.Trace

/-! What comes right before a question. A caller asks for a modify time in the native way right
after it has looked at its link, and it turns to the shell right after it has been told that the
server does not support the question. So the newest exchange of a caller tells whether one of the
two is due. -/

namespace RemoteTags.Session

inductive Denied (l : Remote.LinkId) : Heard → Prop where
  | stat (path reason : String) : Denied l ⟨.remote (.stat l path), .error (.unsupported reason)⟩

/-- The newest exchange of a caller, if it has one, is no denial. -/
def Settled (last : Option Heard) : Prop := ∀ l x, last = some x → ¬ Denied l x

theorem settled_none : Settled none := fun _ _ => nofun

structure Due (last : Option Heard) (q : Action) : Prop where
  native : ∀ l path, q = .remote (.stat l path) →
    ∃ link, last = some ⟨.session .current, some link⟩ ∧ link.id = l ∧ link.shellStat = false
  change : q = .session .useShellStat ↔ ¬ Settled last

def Ordinary : Action → Prop
  | .remote (.stat _ _) | .session .useShellStat => False
  | _ => True

theorem due_of_ordinary {q : Action} {last : Option Heard} (ordinary : Ordinary q)
    (settled : Settled last) : Due last q where
  native l path asks := by
    subst asks
    exact ordinary.elim
  change := by
    refine ⟨fun asks => ?_, fun denied => absurd settled denied⟩
    subst asks
    exact ordinary.elim

theorem settled_of_ordinary {q : Action} (ordinary : Ordinary q) (r : q.Reply) :
    Settled (some ⟨q, r⟩) := by
  rintro l _ ⟨⟩ ⟨⟩
  exact ordinary

theorem settled_looked (link : Option Link) : Settled (some ⟨.session .current, link⟩) :=
  settled_of_ordinary (q := .session .current) trivial link

/-- All questions of a program fit, and no denial is left at its end. -/
def Orderly {α : Type} : Option Heard → Act α → Prop
  | last, .done _ => Settled last
  | last, .ask q next => Due last q ∧ ∀ r, Orderly (some ⟨q, r⟩) (next r)

abbrev Plain {α : Type} (p : Act α) : Prop := ∀ last, Settled last → Orderly last p

section Programs

variable {α β : Type} {last : Option Heard} {link : Link}

theorem plain_done (a : α) : Plain (.done a : Act α) := fun _ settled => settled

theorem plain_ask {q : Action} {next : q.Reply → Act α} (ordinary : Ordinary q)
    (rest : ∀ r, Plain (next r)) : Plain (.ask q next) := fun _ settled =>
  ⟨due_of_ordinary ordinary settled, fun r => rest r _ (settled_of_ordinary ordinary r)⟩

theorem Orderly.bind {p : Act α} {f : α → Act β} (first : Orderly last p)
    (rest : ∀ a, Plain (f a)) : Orderly last (p.bind f) := by
  induction p generalizing last with
  | done a => exact rest a last first
  | ask q next ih => exact ⟨first.1, fun r => ih r (first.2 r)⟩

theorem plain_closeLink (link : Option Link) : Plain (closeLink link) := by
  cases link with
  | none => exact plain_done ()
  | some link => exact plain_ask trivial fun _ => plain_done ()

theorem plain_conclude (g : Nat) (opened : Except ConnectError Link) :
    Plain (conclude g opened) := by
  refine plain_ask trivial fun r => ?_
  match r with
  | .connected => exact plain_done _
  | .failed e => exact plain_done _
  | .stale link => exact fun last settled => (plain_closeLink link last settled).bind plain_done

theorem plain_connectAs (c : Connection) (expected : Option Nat) :
    Plain (connectAs c expected) := by
  refine plain_ask trivial fun r => ?_
  cases r with
  | none => exact plain_done _
  | some g =>
    refine plain_ask trivial fun old last settled =>
      (plain_closeLink old last settled).bind fun _ => plain_ask trivial fun r => ?_
    cases r with
    | some opened => exact plain_conclude g opened
    | none => exact plain_conclude g _

theorem plain_reconnect : Plain reconnect := by
  refine plain_ask trivial fun status => ?_
  dsimp only [Program.done_bind]
  cases status.config with
  | some c => exact plain_connectAs c none
  | none => exact plain_done _

theorem plain_disconnect : Plain disconnect :=
  plain_ask trivial fun _ => plain_ask trivial fun old => plain_closeLink old

theorem plain_onLink (after : AfterLoss) {op : Link → Act (Outcome α)}
    (works : ∀ link, Orderly (some ⟨.session .current, some link⟩) (op link)) :
    Plain (onLink after op) := by
  refine plain_ask trivial fun _ last settled =>
    ⟨due_of_ordinary trivial settled, fun link => ?_⟩
  match link with
  | none =>
    exact plain_ask (q := .session .release) trivial (fun _ => plain_done _) _ (settled_looked none)
  | some link =>
    refine (works link).bind fun outcome => ?_
    cases outcome with
    | value a => exact plain_ask trivial fun _ => plain_done _
    | refusal e => exact plain_ask trivial fun _ => plain_done _
    | lost e =>
      refine plain_ask trivial fun _ => plain_ask trivial fun next => plain_ask trivial fun _ => ?_
      match after, next with
      | .reconnect, some r => exact plain_ask trivial fun _ => plain_done _
      | .stay, some r | .reconnect, none | .stay, none => exact plain_done _

theorem plain_runCommand (command : String) : Plain (runCommand link command) := by
  refine plain_ask trivial fun r => ?_
  cases r with
  | error e => exact plain_done _
  | ok out =>
    dsimp only [Program.done_bind]
    split <;> exact plain_done _

theorem plain_shellStat (path : String) : Plain (shellStat link path) := by
  refine fun last settled => (plain_runCommand _ last settled).bind fun outcome => ?_
  cases outcome with
  | refusal e => exact plain_done _
  | lost e => exact plain_done _
  | value out =>
    refine plain_ask trivial fun r => ?_
    cases r with
    | error e => exact plain_done _
    | ok report =>
      dsimp only [Program.done_bind]
      cases Shell.modifyTime (Utf8.lossyString report) <;> exact plain_done _

theorem orderly_statOn (path : String) :
    Orderly (some ⟨.session .current, some link⟩) (statOn path link) := by
  unfold statOn
  split
  · exact plain_shellStat path _ (settled_looked _)
  · rename_i native
    refine ⟨⟨?_, ⟨nofun, fun denied => absurd (settled_looked _) denied⟩⟩, fun r => ?_⟩
    · rintro l _ ⟨⟩
      exact ⟨link, rfl, rfl, Bool.eq_false_iff.2 native⟩
    match r with
    | .error (.unsupported reason) =>
      have denied : ¬ Settled (some ⟨.remote (.stat link.id path), .error (.unsupported reason)⟩) :=
        fun settled => settled link.id _ rfl (.stat path reason)
      exact ⟨⟨nofun, fun _ => denied, fun _ => rfl⟩,
        fun _ => plain_shellStat path _ (by rintro l _ ⟨⟩ ⟨⟩)⟩
    | .ok _ | .error (.notFound _) | .error (.refused _) | .error (.localFailure _)
    | .error (.timedOut _) | .error (.io _) =>
      rintro l _ ⟨⟩ ⟨⟩

end Programs

theorem orderly_call {α : Type} {k : Remote.Call} {next : k.Reply → Act α} (link : Link)
    (ordinary : Ordinary (.remote k)) (rest : ∀ r, Plain (next r)) :
    Orderly (some ⟨.session .current, some link⟩) (.ask (.remote k) next) :=
  plain_ask ordinary rest _ (settled_looked _)

theorem Operation.plain (o : Operation) : Plain o.program := by
  cases o with
  | stat path => exact plain_onLink .reconnect fun _ => orderly_statOn path
  | read path =>
    exact plain_onLink .reconnect fun link => orderly_call link trivial fun _ => plain_done _
  | readDir path =>
    exact plain_onLink .reconnect fun link => orderly_call link trivial fun _ => plain_done _
  | remove path =>
    exact plain_onLink .stay fun link => orderly_call link trivial fun _ => plain_done _
  | exec command =>
    exact plain_onLink .stay fun _ => plain_runCommand command _ (settled_looked _)
  | fastGet remote localPath =>
    refine plain_onLink .stay fun link => orderly_call link trivial fun r => ?_
    cases r <;> exact plain_done _

theorem Request.plain (r : Request) : Plain r.program := by
  cases r with
  | connect c => exact plain_connectAs c none
  | reconnect => exact plain_reconnect
  | resume r => exact plain_connectAs r.config _
  | disconnect => exact plain_disconnect
  | operate o => exact o.plain

theorem Orderly.leaves {α : Type} {p p' : Act α} {τ : List Heard} (orderly : Orderly none p)
    (left : p.Leaves τ p') : Orderly τ.head? p' := by
  induction left with
  | start => exact orderly
  | next left r ih => exact ih.2 r

namespace Traffic

variable {t u : Traffic} {h : List Event} {i : Nat} {c : Caller} {q : Action}

theorem Run.due {next : q.Reply → Act c.request.Answer} (run : Run h t)
    (present : t.callers[i]? = some c) (asks : c.rest = .ask q next) :
    Due (heard i h).head? q := by
  have whole : Orderly none c.request.program := c.request.plain none settled_none
  have orderly := whole.leaves (run.leaves present)
  rw [asks] at orderly
  exact orderly.1

theorem Run.due_of_step {r : q.Reply} (run : Run h t) (s : Step t (.answered i q r) u) :
    Due (heard i h).head? q := by
  obtain ⟨c, next, present, asks⟩ := s.asks
  exact run.due present asks

end Traffic

end RemoteTags.Session
