import RemoteTags.Navigator.Operation
import RemoteTags.Proofs.Cache.Plan
import RemoteTags.Proofs.Session.Traffic

/-! Programs that work with a session: they use it by its operations only, and ask whether it is
connected and where its home is. What is shown of these, and of the actions that have nothing to do
with the session, holds of all that a navigator does. -/

namespace RemoteTags

def Action.Apart : Action → Prop
  | .cache _ | .disk _ | .clock | .random _ => True
  | .session _ | .remote _ | .opening _ _ => False

inductive Works {α : Type} : Act α → Prop where
  | done (a : α) : Works (.done a)
  | apart {q : Action} {next : q.Reply → Act α} (apart : q.Apart)
      (rest : ∀ r, Works (next r)) : Works (.ask q next)
  | operate (o : Session.Operation) {next : Except SessionError o.Value → Act α}
      (rest : ∀ r, Works (next r)) : Works (o.program.bind next)
  | connected {next : Bool → Act α} (rest : ∀ r, Works (next r)) :
      Works (Session.isConnected.bind next)
  | home {next : Option String → Act α} (rest : ∀ r, Works (next r)) :
      Works (Session.remoteHome.bind next)

namespace Works

variable {α β : Type}

theorem bind {p : Act α} {f : α → Act β} (works : Works p) (follows : ∀ a, Works (f a)) :
    Works (p.bind f) := by
  induction works with
  | done a => exact follows a
  | apart apart _ ih => exact .apart apart ih
  | operate o _ ih =>
    rw [Program.bind_assoc]
    exact .operate o ih
  | connected _ ih =>
    rw [Program.bind_assoc]
    exact .connected ih
  | home _ ih =>
    rw [Program.bind_assoc]
    exact .home ih

theorem query {q : Action} (apart : q.Apart) : Works (.query q) := .apart apart .done

theorem operation (o : Session.Operation) : Works o.program := by
  rw [← Program.bind_done o.program]
  exact .operate o .done

theorem handle {Q : Type} {R : Q → Type} {answering : (q : Q) → Act (R q)}
    (works : ∀ q, Works (answering q)) (p : Program Q R α) : Works (p.handle answering) := by
  induction p with
  | done a => exact .done a
  | ask q next ih => exact (works q).bind ih

end Works

namespace Cache

theorem works_ask (a : Ask) : Works a.program := by
  cases a with
  | connected => exact .connected .done
  | stat path => exact .operation (.stat path)
  | read path => exact .operation (.read path)
  | clock | store => exact .query trivial

theorem works_expand {α : Type} (p : Plan α) : Works (expand p) := by
  induction p with
  | done a => exact .done a
  | ask a next ih => exact (works_ask a).bind ih

theorem works_preload (path : String) : Works (preload path) := by
  rw [preload_eq_plan]
  exact works_expand _

end Cache

namespace Fetch

theorem works_ask (q : Ask) : Works q.program := by
  cases q with
  | connected => exact .connected .done
  | home => exact .home .done
  | exec command => exact .operation (.exec command)
  | fastGet remote localPath => exact .operation (.fastGet remote localPath)
  | remove path => exact .operation (.remove path)
  | disk | clock | random => exact .query trivial

theorem works_fetchTo (remoteFile target : String) : Works (fetchTo remoteFile target) :=
  .handle works_ask _

end Fetch

namespace Navigator

theorem works_expandHome (path : String) : Works (expandHome path) := by
  refine .home fun home => ?_
  cases home <;> exact .done _

theorem works_remotePathOf (n : Navigator) (tag : Tag) : Works (n.remotePathOf tag) := by
  unfold remotePathOf
  split
  · exact (works_expandHome _).bind fun _ => .done _
  · exact .done _

theorem works_visit (n : Navigator) (tag : Tag) : Works (n.visit tag) := by
  refine (works_remotePathOf n tag).bind fun path => .apart trivial fun token => ?_
  refine (Cache.works_preload _).bind fun loaded => ?_
  cases loaded with
  | error e => exact .done _
  | ok => exact .apart trivial fun _ => .done _

theorem works_goTo (n : Navigator) (tag : Tag) (origin : Option Origin) :
    Works (n.goTo tag origin) :=
  (works_visit n tag).bind fun _ => .done _

theorem works_tagsDirectory (n : Navigator) : Works n.tagsDirectory := by
  unfold tagsDirectory
  split
  · exact .done _
  · exact (works_expandHome _).bind fun _ => .done _

theorem works_listTagFiles (n : Navigator) : Works n.listTagFiles := by
  refine (works_tagsDirectory n).bind fun directory => ?_
  cases directory with
  | error e => exact .done _
  | ok directory =>
    refine (Works.operation (.readDir directory)).bind fun listing => ?_
    cases listing <;> exact .done _

theorem works_refreshTags (n : Navigator) (fileName localTags : String) :
    Works (n.refreshTags fileName localTags) := by
  refine (works_tagsDirectory n).bind fun directory => ?_
  cases directory with
  | error e => exact .done _
  | ok directory =>
    refine (Fetch.works_fetchTo _ _).bind fun fetched => ?_
    cases fetched with
    | error e => exact .done _
    | ok report =>
      refine .apart trivial fun read => ?_
      cases read with
      | error e => exact .done _
      | ok content => exact .apart trivial fun _ => .done _

end Navigator

end RemoteTags
