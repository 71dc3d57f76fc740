import RemoteTags.Proofs.Cache.Plan
import RemoteTags.Proofs.Effect.Runs
import RemoteTags.Proofs.Session.Role

/-! What a preload makes of the failures of the session. The replies of the session and of the host
are left open; only the cache is known to answer as it does, and nobody else uses it meanwhile. -/

namespace RemoteTags.Cache
open Program

def Answers (c : Cache) : (q : Action) → q.Reply → Cache → Prop
  | .cache x, r, after => (r, after) = x.answer c
  | _, _, after => after = c

abbrev CacheRun {α : Type} (p : Act α) (c : Cache) (τ : List (Exchange Action Action.Reply)) (a : α)
    (after : Cache) : Prop :=
  p.Runs Answers c τ a after

theorem cache_of_task {H α : Type} (host : Host H) (p : Remote.Task α) (w : World H) :
    (p.run (World.call host) w).2.cache = w.cache := by
  induction p generalizing w with
  | done a => rfl
  | ask k next ih => exact ih _ _

theorem cache_openWithin {H : Type} (host : Host H) (c : Connection) (g : Nat) (w : World H) :
    (w.openWithin host c g).2.cache = w.cache := by
  unfold World.openWithin
  dsimp only
  split
  · split <;> exact cache_of_task host (Session.openLink c g) w
  · exact cache_of_task host (Session.openLink c g) w

theorem exists_cacheRun {H α : Type} (host : Host H) (p : Act α) (w : World H) :
    ∃ τ, CacheRun p w.cache τ (w.run host p).1 (w.run host p).2.cache := by
  refine Runs.of_run World.cache (fun q w => ?_) p w
  cases q with
  | opening c g => exact cache_openWithin host c g w
  | _ => rfl

variable {c after : Cache} {path : String} {τ : List (Exchange Action Action.Reply)}

theorem erase_of_none (none : c.file? path = none) : c.erase path = c := by
  refine congrArg Cache.mk (List.filter_eq_self.2 fun e present => ?_)
  have other := List.find?_eq_none.1 none e present
  simpa using other

theorem of_validate {observed now : Int} {fresh : Bool}
    (answer : (fresh, after) = c.validate path observed now) :
    ((∃ e, c.file? path = some e ∧ observed ≤ e.mtime) ∧ fresh = true ∧ after = c.touch path now) ∨
      (¬ ∃ e, c.file? path = some e ∧ observed ≤ e.mtime) ∧ fresh = false ∧
        after = c.erase path := by
  by_cases hit : ∃ e, c.file? path = some e ∧ observed ≤ e.mtime
  · obtain ⟨e, found, newer⟩ := hit
    rw [validate_of_newer found newer] at answer
    exact .inl ⟨⟨e, found, newer⟩, Prod.mk.inj answer⟩
  · refine .inr ⟨hit, ?_⟩
    unfold validate at answer
    split at answer
    · rename_i none
      rw [erase_of_none none]
      exact Prod.mk.inj answer
    · rename_i e found
      rw [if_neg fun newer => hit ⟨e, found, newer⟩] at answer
      exact Prod.mk.inj answer

theorem file?_touch_of_ne {other : String} {now : Int} (ne : other ≠ path) :
    (c.touch path now).file? other = c.file? other := by
  rw [file?_touch]
  cases found : c.file? other with
  | none => rfl
  | some e => rw [Option.map_some, if_neg (remotePath_of_file? found ▸ ne)]

theorem cache_of_keeps {α : Type} {ends : Session.Role → α → Prop} {ρ : Session.Role} {p : Act α}
    {a : α} (keeps : Session.Keeps ends ρ p) (run : CacheRun p c τ a after) : after = c := by
  induction run generalizing ρ with
  | done a s => rfl
  | @ask q next s t u r τ a reply rest ih =>
    have same : t = s := by
      cases q with
      | cache x => cases ρ <;> exact keeps.1.elim
      | _ => exact reply
    rw [ih (keeps.2 r), same]

theorem cache_of_stat {r : Except SessionError Int}
    (run : CacheRun (Session.stat path) c τ r after) : after = c :=
  cache_of_keeps (Session.Operation.stat path).keeps run

theorem cache_of_read {r : Except SessionError Bytes}
    (run : CacheRun (Session.read path) c τ r after) : after = c :=
  cache_of_keeps (Session.Operation.read path).keeps run

theorem of_expand {α : Type} {a : Ask} {next : a.Reply → Plan α} {b : α}
    (run : CacheRun (expand (.ask a next)) c τ b after) :
    ∃ σ r mid σ', CacheRun a.program c σ r mid ∧ CacheRun (expand (next r)) mid σ' b after ∧
      τ = σ ++ σ' :=
  Runs.of_bind run

theorem of_clock {time : Nat} (run : CacheRun Act.clock c τ time after) :
    after = c ∧ τ = [⟨.clock, time⟩] :=
  Runs.of_query run

theorem of_store {x : Section} {r : x.Reply} (run : CacheRun (Act.cache x) c τ r after) :
    (r, after) = x.answer c ∧ τ = [⟨.cache x, r⟩] :=
  Runs.of_query run

theorem of_isConnected {connected : Bool} (run : CacheRun Session.isConnected c τ connected after) :
    ∃ status : Status, connected = decide (status.phase = .connected) ∧ after = c ∧
      τ = [⟨.session .status, status⟩] := by
  obtain ⟨status, mid, σ, same, rest, rfl⟩ := Runs.of_ask run
  obtain ⟨rfl, rfl, rfl⟩ := Runs.of_done rest
  exact ⟨status, rfl, same, rfl⟩

/-- How a preload that has to read ends: with the error of the read, or with a new entry. -/
def Refetched (path : String) (mtime : Int) (c : Cache) :
    Except SessionError Bytes → List (Exchange Action Action.Reply) → Except SessionError Unit →
      Cache → Prop
  | .error e, τ, r, after => τ = [] ∧ r = .error e ∧ after = c
  | .ok bytes, τ, r, after => ∃ time,
      let e := ⟨path, mtime, seconds time, seconds time, Utf8.lossyString bytes⟩
      τ = [⟨.clock, time⟩, ⟨.cache (.insert e), ()⟩] ∧ r = .ok () ∧ after = c.insert e

theorem refetched_of_fetch {mtime : Int} {r : Except SessionError Unit}
    (run : CacheRun (expand (fetch path mtime)) c τ r after) :
    ∃ σ told τ', τ = σ ++ τ' ∧ CacheRun (Session.read path) c σ told c ∧
      Refetched path mtime c told τ' r after := by
  obtain ⟨σ, told, mid, τ', read, rest, rfl⟩ := of_expand run
  obtain rfl := cache_of_read read
  refine ⟨σ, told, τ', rfl, read, ?_⟩
  cases told with
  | error e => exact Runs.of_done rest
  | ok bytes =>
    obtain ⟨_, time, _, _, clock, keep, rfl⟩ := of_expand rest
    obtain ⟨rfl, rfl⟩ := of_clock clock
    obtain ⟨_, _, _, _, store, last, rfl⟩ := of_expand keep
    obtain ⟨stored, rfl⟩ := of_store store
    obtain ⟨rfl, rfl, rfl⟩ := Runs.of_done last
    exact ⟨time, rfl, rfl, congrArg Prod.snd stored⟩

theorem of_check {mtime : Int} {r : Except SessionError Unit}
    (run : CacheRun (expand (check path mtime)) c τ r after) :
    ∃ time fresh τ',
      τ = ⟨.clock, time⟩ :: ⟨.cache (.validate path mtime (seconds time)), fresh⟩ :: τ' ∧
        (((∃ e, c.file? path = some e ∧ mtime ≤ e.mtime) ∧
            τ' = [] ∧ r = .ok () ∧ after = c.touch path (seconds time)) ∨
          (¬ ∃ e, c.file? path = some e ∧ mtime ≤ e.mtime) ∧
            ∃ σ told σ', τ' = σ ++ σ' ∧
              CacheRun (Session.read path) (c.erase path) σ told (c.erase path) ∧
              Refetched path mtime (c.erase path) told σ' r after) := by
  obtain ⟨_, time, _, _, clock, rest, rfl⟩ := of_expand run
  obtain ⟨rfl, rfl⟩ := of_clock clock
  obtain ⟨_, fresh, mid, τ', store, rest, rfl⟩ := of_expand rest
  obtain ⟨stored, rfl⟩ := of_store store
  refine ⟨time, fresh, τ', rfl, ?_⟩
  rcases of_validate stored with ⟨hit, rfl, rfl⟩ | ⟨miss, rfl, rfl⟩
  · exact .inl ⟨hit, Runs.of_done rest⟩
  · exact .inr ⟨miss, refetched_of_fetch rest⟩

section Preload

variable {status : Status} {r : Except SessionError Unit}

theorem of_preload (connected : status.phase = .connected)
    (run : CacheRun (preload path) c (⟨.session .status, status⟩ :: τ) r after) :
    ∃ σ told τ', τ = σ ++ τ' ∧ CacheRun (Session.stat path) c σ told c ∧
      ((∃ reason, told = .error (.unavailable reason) ∧
          τ' = [] ∧ r = .error (.unavailable reason) ∧ after = c) ∨
        (∀ reason, told ≠ .error (.unavailable reason)) ∧
          CacheRun (expand (check path (told.toOption.getD 0))) c τ' r after) := by
  rw [preload_eq_plan] at run
  obtain ⟨_, _, mid, _, first, rest, split⟩ := of_expand run
  obtain ⟨_, rfl, rfl, rfl⟩ := of_isConnected first
  injection split with same split
  cases same
  rw [decide_eq_true connected] at rest
  obtain ⟨σ, told, mid, τ', stat, rest, rfl⟩ := of_expand rest
  obtain rfl := cache_of_stat stat
  refine ⟨σ, told, τ', split, stat, ?_⟩
  match told with
  | .ok mtime => exact .inr ⟨nofun, rest⟩
  | .error (.unavailable reason) => exact .inl ⟨reason, rfl, Runs.of_done rest⟩
  | .error (.notFound _) | .error (.refused _) | .error (.exec _ _) | .error (.transfer _ _)
  | .error (.timeout _ _) => exact .inr ⟨nofun, rest⟩

/-- A preload fails with the error of the call of the session that fails. If the session is not
available for the modify time, the cache is as it was, with an old entry of the file if there was
one. If the file cannot be read, its entry is gone, and the other entries are as they were. -/
theorem preload_of_error {e : SessionError} (connected : status.phase = .connected)
    (run : CacheRun (preload path) c (⟨.session .status, status⟩ :: τ) (.error e) after) :
    ∃ σ told τ', τ = σ ++ τ' ∧ CacheRun (Session.stat path) c σ told c ∧
      ((∃ reason, told = .error (.unavailable reason) ∧ e = .unavailable reason ∧ τ' = [] ∧
          after = c) ∨
        (∀ reason, told ≠ .error (.unavailable reason)) ∧
          (∃ σ₁ σ₂, τ' = σ₁ ++ σ₂ ∧ CacheRun (Session.read path) after σ₂ (.error e) after) ∧
          after.file? path = none ∧
          ∀ other, other ≠ path → after.file? other = c.file? other) := by
  obtain ⟨σ, told, τ', split, stat, ends⟩ := of_preload connected run
  refine ⟨σ, told, τ', split, stat, ?_⟩
  rcases ends with ⟨reason, unavailable, quiet, same, kept⟩ | ⟨other, checked⟩
  · injection same with same
    exact .inl ⟨reason, unavailable, same, quiet, kept⟩
  · refine .inr ⟨other, ?_⟩
    obtain ⟨time, fresh, τ'', rfl, ⟨-, -, well, -⟩ | ⟨-, σ₁, reply, σ₂, rfl, read, ends⟩⟩ :=
      of_check checked
    · exact nomatch well
    · cases reply with
      | ok bytes =>
        obtain ⟨_, -, well, -⟩ := ends
        exact nomatch well
      | error e' =>
        obtain ⟨rfl, same, rfl⟩ := ends
        cases same
        refine ⟨⟨[_, _], σ₁, by rw [List.append_nil]; rfl, read⟩, file?_erase_self c path,
          fun other ne => ?_⟩
        rw [file?_erase, if_neg ne]

/-- With a modify time that cannot be told, an entry is fresh exactly if its own time is not
negative. An entry that is not fresh is evicted, and the file is read once. -/
theorem preload_of_unknown {σ : List (Exchange Action Action.Reply)} {e : SessionError}
    {entry : CachedFile} (connected : status.phase = .connected)
    (found : c.file? path = some entry)
    (unknown : CacheRun (Session.stat path) c σ (.error e) c)
    (available : ∀ reason, e ≠ .unavailable reason)
    (run : CacheRun (preload path) c (⟨.session .status, status⟩ :: (σ ++ τ)) r after) :
    ∃ time fresh τ',
      τ = ⟨.clock, time⟩ :: ⟨.cache (.validate path 0 (seconds time)), fresh⟩ :: τ' ∧
        if 0 ≤ entry.mtime then
          τ' = [] ∧ r = .ok () ∧
            after.file? path = some { entry with lastAccess := seconds time } ∧
            ∀ other, other ≠ path → after.file? other = c.file? other
        else ∃ σ₁ told σ₂, τ' = σ₁ ++ σ₂ ∧
          CacheRun (Session.read path) (c.erase path) σ₁ told (c.erase path) ∧
          Refetched path 0 (c.erase path) told σ₂ r after := by
  obtain ⟨σ', told, τ', split, stat, ends⟩ := of_preload connected run
  obtain ⟨rfl, rfl, rfl⟩ := unknown.unique stat split
  rcases ends with ⟨reason, same, -⟩ | ⟨-, checked⟩
  · injection same with same
    exact absurd same (available reason)
  · obtain ⟨time, fresh, τ', rfl, ⟨⟨e', found', young⟩, quiet, well, rfl⟩ | ⟨old, read⟩⟩ :=
      of_check checked
    · obtain rfl : entry = e' := Option.some.inj (found.symm.trans found')
      refine ⟨time, fresh, τ', rfl, ?_⟩
      rw [if_pos (show 0 ≤ entry.mtime from young)]
      refine ⟨quiet, well, ?_, fun other ne => ?_⟩
      · rw [file?_touch, found, Option.map_some, if_pos (remotePath_of_file? found)]
      · exact file?_touch_of_ne ne
    · have stale : ¬ 0 ≤ entry.mtime := fun young => old ⟨entry, found, young⟩
      refine ⟨time, fresh, τ', rfl, ?_⟩
      rw [if_neg stale]
      exact read

def sampleStatus : Status :=
  ⟨.connected, some { host := "host", user := "user" }, some "/home/user", 1⟩

def sampleLink : Link := ⟨0, "/home/user", false, {}, 1⟩

/-- The connection is reset while the modify time is asked for. -/
theorem preload_of_lost_stat :
    ∃ (c : Cache) (τ : List (Exchange Action Action.Reply)),
      CacheRun (preload "a.c") c τ (.error (.unavailable "reset")) c ∧
        c.content? "a.c" = some "old" ∧
        ∃ σ, CacheRun (Session.stat "a.c") c σ (.error (.unavailable "reset")) c := by
  let c : Cache := ⟨[⟨"a.c", 7, 1, 1, "old"⟩]⟩
  let lost : List (Exchange Action Action.Reply) :=
    [⟨.session .hold, ()⟩, ⟨.session .current, some sampleLink⟩,
      ⟨.remote (.stat 0 "a.c"), .error (.io "reset")⟩, ⟨.remote (.close 0), .ok ()⟩,
      ⟨.session .drop, none⟩, ⟨.session .release, ()⟩]
  have run : CacheRun (preload "a.c") c (⟨.session .status, sampleStatus⟩ :: lost)
      (.error (.unavailable "reset")) c :=
    .ask rfl (.ask rfl (.ask rfl (.ask rfl (.ask rfl (.ask rfl (.ask rfl (.done _ _)))))))
  obtain ⟨σ, _, _, -, stat, ⟨reason, rfl, same, -, -⟩ | ⟨-, -, gone, -⟩⟩ :=
    preload_of_error rfl run
  · cases same
    exact ⟨c, _, run, rfl, σ, stat⟩
  · exact nomatch gone

/-- A file from before 1970 whose modify time is refused the second time. -/
theorem preload_of_early_entry :
    ∃ (c after : Cache) (τ : List (Exchange Action Action.Reply)),
      CacheRun (preload "a.c") c τ (.ok ()) after ∧ c.content? "a.c" = some "old" ∧
        ∃ σ told, CacheRun (Session.read "a.c") (c.erase "a.c") σ told (c.erase "a.c") := by
  let entry : CachedFile := ⟨"a.c", -5, 1, 1, "old"⟩
  let c : Cache := ⟨[entry]⟩
  let renewed : CachedFile := ⟨"a.c", 0, 2, 2, Utf8.lossyString []⟩
  let refused : List (Exchange Action Action.Reply) :=
    [⟨.session .hold, ()⟩, ⟨.session .current, some sampleLink⟩,
      ⟨.remote (.stat 0 "a.c"), .error (.refused "denied")⟩, ⟨.session .release, ()⟩]
  let reads : List (Exchange Action Action.Reply) :=
    [⟨.clock, 2000⟩, ⟨.cache (.validate "a.c" 0 2), false⟩, ⟨.session .hold, ()⟩,
      ⟨.session .current, some sampleLink⟩, ⟨.remote (.read 0 "a.c"), .ok []⟩,
      ⟨.session .release, ()⟩, ⟨.clock, 2000⟩, ⟨.cache (.insert renewed), ()⟩]
  have stat : CacheRun (Session.stat "a.c") c refused (.error (.refused "denied")) c :=
    .ask rfl (.ask rfl (.ask rfl (.ask rfl (.done _ _))))
  have run : CacheRun (preload "a.c") c (⟨.session .status, sampleStatus⟩ :: (refused ++ reads))
      (.ok ()) ⟨[renewed]⟩ :=
    .ask rfl (.ask rfl (.ask rfl (.ask rfl (.ask rfl (.ask rfl (.ask rfl (.ask rfl (.ask rfl
      (.ask rfl (.ask rfl (.ask rfl (.ask rfl (.done _ _)))))))))))))
  have found : c.file? "a.c" = some entry := rfl
  obtain ⟨_, _, _, -, ends⟩ := preload_of_unknown rfl found stat (fun _ => nofun) run
  rw [if_neg (by decide)] at ends
  obtain ⟨σ, told, _, -, read, -⟩ := ends
  exact ⟨c, _, _, run, rfl, σ, told, read⟩

end Preload

end RemoteTags.Cache
