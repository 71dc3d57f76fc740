import RemoteTags.Effect.Action
import RemoteTags.Proofs.Effect.Terms

/-! Runs of a program whose questions may be answered in more than one way. `Replies s q r t` says
that in state `s` the question `q` may be answered by `r`, which leads to state `t`. -/

namespace RemoteTags.Program

abbrev Exchange (Q : Type) (R : Q → Type) : Type := Σ q : Q, R q

variable {Q : Type} {R : Q → Type} {S α β : Type}

/-- The exchanges of a run with the replies of a function, in order. -/
def log (answer : (q : Q) → S → R q × S) : Program Q R α → S → List (Exchange Q R)
  | done _, _ => []
  | ask q next, s => ⟨q, (answer q s).1⟩ :: (next (answer q s).1).log answer (answer q s).2

theorem eq_done_of_result? {p : Program Q R α} {a : α} (ended : p.result? = some a) :
    p = .done a := by
  cases p with
  | done b => exact congrArg done (Option.some.inj ended)
  | ask q next => cases ended

/-- A run from one state to another, with its exchanges in order and the value at its end. -/
inductive Runs (Replies : S → (q : Q) → R q → S → Prop) :
    Program Q R α → S → List (Exchange Q R) → α → S → Prop where
  | done (a : α) (s : S) : Runs Replies (.done a) s [] a s
  | ask {q : Q} {next : R q → Program Q R α} {s t u : S} {r : R q} {τ : List (Exchange Q R)} {a : α}
      (reply : Replies s q r t) (rest : Runs Replies (next r) t τ a u) :
      Runs Replies (.ask q next) s (⟨q, r⟩ :: τ) a u

namespace Runs

variable {Replies : S → (q : Q) → R q → S → Prop} {s t : S} {τ : List (Exchange Q R)} {a b : α}

theorem of_done (run : Runs Replies (.done a) s τ b t) : τ = [] ∧ b = a ∧ t = s := by
  cases run
  exact ⟨rfl, rfl, rfl⟩

theorem of_ask {q : Q} {next : R q → Program Q R α} (run : Runs Replies (.ask q next) s τ a t) :
    ∃ r u σ, Replies s q r u ∧ Runs Replies (next r) u σ a t ∧ τ = ⟨q, r⟩ :: σ := by
  cases run with
  | ask reply rest => exact ⟨_, _, _, reply, rest, rfl⟩

theorem of_query {q : Q} {r : R q} (run : Runs Replies (query q) s τ r t) :
    Replies s q r t ∧ τ = [⟨q, r⟩] := by
  obtain ⟨r', u, σ, reply, rest, rfl⟩ := of_ask run
  obtain ⟨rfl, rfl, rfl⟩ := of_done rest
  exact ⟨reply, rfl⟩

theorem of_bind {p : Program Q R α} {f : α → Program Q R β} {b : β}
    (run : Runs Replies (p.bind f) s τ b t) :
    ∃ σ a u σ', Runs Replies p s σ a u ∧ Runs Replies (f a) u σ' b t ∧ τ = σ ++ σ' := by
  induction p generalizing s τ with
  | done a => exact ⟨[], a, s, τ, .done a s, run, rfl⟩
  | ask q next ih =>
    obtain ⟨r, u, σ, reply, rest, rfl⟩ := of_ask run
    obtain ⟨σ₁, a, v, σ₂, first, second, rfl⟩ := ih r rest
    exact ⟨⟨q, r⟩ :: σ₁, a, v, σ₂, .ask reply first, second, rfl⟩

/-- A program asks the same as long as the replies are the same. -/
theorem unique {p : Program Q R α} {s₁ s₂ t₁ t₂ : S} {τ₁ τ₂ σ₁ σ₂ : List (Exchange Q R)}
    {a₁ a₂ : α} (run₁ : Runs Replies p s₁ τ₁ a₁ t₁) (run₂ : Runs Replies p s₂ τ₂ a₂ t₂)
    (same : τ₁ ++ σ₁ = τ₂ ++ σ₂) : τ₁ = τ₂ ∧ a₁ = a₂ ∧ σ₁ = σ₂ := by
  induction run₁ generalizing s₂ τ₂ with
  | done a s =>
    obtain ⟨rfl, rfl, rfl⟩ := of_done run₂
    exact ⟨rfl, rfl, same⟩
  | ask reply rest ih =>
    obtain ⟨r, u, τ, reply₂, rest₂, rfl⟩ := of_ask run₂
    injection same with first left
    cases first
    obtain ⟨rfl, rfl, rfl⟩ := ih rest₂ left
    exact ⟨rfl, rfl, rfl⟩

theorem of_handle {Q' : Type} {R' : Q' → Type} {Replies : S → (q : Q') → R' q → S → Prop}
    {answering : (q : Q) → Program Q' R' (R q)} {p : Program Q R α}
    {σ : List (Exchange Q' R')} (run : Runs Replies (p.handle answering) s σ a t) :
    ∃ τ, Runs (fun s q r t => ∃ σ, Runs Replies (answering q) s σ r t) p s τ a t := by
  induction p generalizing s σ with
  | done b =>
    obtain ⟨rfl, rfl, rfl⟩ := of_done run
    exact ⟨[], .done _ _⟩
  | ask q next ih =>
    obtain ⟨σ₁, r, u, σ₂, answer, rest, rfl⟩ := of_bind run
    obtain ⟨τ, rest⟩ := ih r rest
    exact ⟨⟨q, r⟩ :: τ, .ask ⟨σ₁, answer⟩ rest⟩

section Answer

variable {T : Type} {answer : (q : Q) → T → R q × T} (f : T → S)
  (agrees : ∀ q w, Replies (f w) q (answer q w).1 (f (answer q w).2)) (p : Program Q R α) (w : T)
include agrees

theorem of_log :
    Runs Replies p (f w) (p.log answer w) (p.run answer w).1 (f (p.run answer w).2) := by
  induction p generalizing w with
  | done a => exact .done a (f w)
  | ask q next ih => exact .ask (agrees q w) (ih (answer q w).1 (answer q w).2)

theorem of_run : ∃ τ, Runs Replies p (f w) τ (p.run answer w).1 (f (p.run answer w).2) :=
  ⟨_, of_log f agrees p w⟩

end Answer

theorem map {S' : Type} {Replies' : S' → (q : Q) → R q → S' → Prop} {p : Program Q R α}
    (run : Runs Replies p s τ a t) (f : S → S')
    (agrees : ∀ {s q r t}, Replies s q r t → Replies' (f s) q r (f t)) :
    Runs Replies' p (f s) τ a (f t) := by
  induction run with
  | done a s => exact .done a (f s)
  | ask reply rest ih => exact .ask (agrees reply) ih

end Runs

/-- A run with replies as the terms say, in which each reply keeps an invariant. -/
theorem Meets.runs {T : Terms Q R} {P : α → Prop} {Replies : S → (q : Q) → R q → S → Prop}
    {I : S → Prop} {p : Program Q R α} {s t : S} {τ : List (Exchange Q R)} {a : α}
    (keeps : ∀ {s q r t}, T.asks q → I s → Replies s q r t → T.tells q r ∧ I t)
    (meets : p.Meets T P) (run : Runs Replies p s τ a t) (holds : I s) : P a ∧ I t := by
  induction run with
  | done a s => exact ⟨meets, holds⟩
  | ask reply rest ih =>
    obtain ⟨told, kept⟩ := keeps meets.1 holds reply
    exact ih (meets.2 _ told) kept

theorem Meets.of_log {T : Terms Q R} {P : α → Prop} {answer : (q : Q) → S → R q × S}
    {p : Program Q R α} (meets : p.Meets T P) {s : S}
    (told : ∀ x ∈ p.log answer s, T.tells x.1 x.2) : P (p.run answer s).1 := by
  induction p generalizing s with
  | done a => exact meets
  | ask q next ih =>
    obtain ⟨now, later⟩ := List.forall_mem_cons.1 told
    exact ih _ (meets.2 _ now) later

end RemoteTags.Program
