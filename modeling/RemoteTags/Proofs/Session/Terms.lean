import RemoteTags.Fetch.Pipeline
import RemoteTags.Proofs.Effect.Terms

/-! What an operation on the current link asks, beside its own part: the session, and the close of a
link that is lost. So a fetch, which is made of such operations, keeps away from the store and opens
no link. -/

namespace RemoteTags

namespace Session

variable {α : Type} {T : Terms Action Action.Reply}

/-- It is enough to look at the operation's own part. -/
theorem meets_onLink {after : AfterLoss} {op : Link → Act (Outcome α)}
    (sections : ∀ x, (∀ g opened, x ≠ .install g opened) → T.asks (.session x))
    (own : ∀ link, T.tells (.session .current) (some link) →
      T.asks (.remote (.close link.id)) ∧ (op link).Meets T fun _ => True) :
    (onLink after op).Meets T fun _ => True := by
  refine ⟨sections _ nofun, fun _ _ => ⟨sections _ nofun, fun current told => ?_⟩⟩
  cases current with
  | none => exact ⟨sections _ nofun, fun _ _ => trivial⟩
  | some link =>
    obtain ⟨closes, meets⟩ := own link told
    refine meets.bind fun outcome _ => ?_
    cases outcome with
    | value | refusal => exact ⟨sections _ nofun, fun _ _ => trivial⟩
    | lost e =>
      refine ⟨closes, fun _ _ => ⟨sections _ nofun, fun next _ => ⟨sections _ nofun, fun _ _ => ?_⟩⟩⟩
      match after, next with
      | .reconnect, some r => exact ⟨sections _ nofun, fun _ _ => trivial⟩
      | .stay, some _ | .reconnect, none | .stay, none => trivial

theorem meets_runCommand {link : Link} {command : String}
    (asks : T.asks (.remote (.exec link.id command link.timeouts.exec))) :
    (runCommand link command).Meets T fun _ => True := by
  refine ⟨asks, fun r _ => ?_⟩
  cases r with
  | error e => trivial
  | ok out =>
    dsimp only [Program.done_bind]
    split <;> trivial

end Session

/-- Neither the store is asked nor a link opened. -/
def aloof : Terms Action Action.Reply where
  asks
    | .cache _ | .opening _ _ => False
    | _ => True
  tells _ _ := True

abbrev Aloof {α : Type} (p : Act α) : Prop := p.Meets aloof fun _ => True

theorem aloof_onLink {α : Type} {after : Session.AfterLoss} {op : Link → Act (Session.Outcome α)}
    (own : ∀ link, Aloof (op link)) : Aloof (Session.onLink after op) :=
  Session.meets_onLink (fun _ _ => trivial) fun link _ => ⟨trivial, own link⟩

theorem aloof_exec (command : String) : Aloof (Session.exec command) :=
  aloof_onLink fun _ => Session.meets_runCommand trivial

theorem aloof_fastGet (remote localPath : String) : Aloof (Session.fastGet remote localPath) := by
  refine aloof_onLink fun link => ⟨trivial, fun r _ => ?_⟩
  cases r <;> trivial

theorem aloof_remove (path : String) : Aloof (Session.remove path) :=
  aloof_onLink fun _ => ⟨trivial, fun _ _ => trivial⟩

theorem aloof_program (q : Fetch.Ask) : Aloof q.program := by
  cases q with
  | connected | home | disk | clock | random => exact ⟨trivial, fun _ _ => trivial⟩
  | exec command => exact aloof_exec command
  | fastGet remote localPath => exact aloof_fastGet remote localPath
  | remove path => exact aloof_remove path

theorem aloof_fetchTo (remoteFile target : String) : Aloof (Fetch.fetchTo remoteFile target) :=
  (Program.meets_anything _).handle fun q _ => aloof_program q

end RemoteTags
