import RemoteTags.Proofs.Effect.Terms

/-! Two programs that ask the same in other words. Whoever answers in both words alike tells them
apart by nothing but the words. -/

namespace RemoteTags

structure Translation (Q : Type) (R : Q → Type) where
  question : Q → Q
  reply : (q : Q) → R q → R (question q)

namespace Translation

variable {Q : Type} {R : Q → Type}

def ofQuestions (question : Q → Q) (same : ∀ q, R q = R (question q)) : Translation Q R where
  question := question
  reply q r := cast (same q) r

/-- Asked in both words, from states that agree, `answer` tells the same. -/
structure Agrees {S : Type} (t : Translation Q R) (answer : (q : Q) → S → R q × S)
    (sim : S → S → Prop) : Prop where
  reply {s s' : S} (same : sim s s') (q : Q) :
    (answer (t.question q) s').1 = t.reply q (answer q s).1
  state {s s' : S} (same : sim s s') (q : Q) : sim (answer q s).2 (answer (t.question q) s').2

def Keeps (t : Translation Q R) (q : Q) : Prop := t.question q = q ∧ ∀ r, HEq (t.reply q r) r

end Translation

def Beside {S D : Type} (sim : S → S → Prop) (s s' : S × D) : Prop := sim s.1 s'.1 ∧ s'.2 = s.2

namespace Program

variable {Q : Type} {R : Q → Type} {α β γ δ : Type} {t : Translation Q R} {V : α → β → Prop}
  {W : γ → δ → Prop}

/-- The second program asks what the first one asks, in the words of `t`, and ends with a value
that suits the one of the first. -/
def Translates (t : Translation Q R) (V : α → β → Prop) : Program Q R α → Program Q R β → Prop
  | .done a, p => ∃ b, p = .done b ∧ V a b
  | .ask q next, p =>
    ∃ next', p = .ask (t.question q) next' ∧ ∀ r, Translates t V (next r) (next' (t.reply q r))

theorem translates_done {a : α} {b : β} (suits : V a b) :
    Translates t V (.done a : Program Q R α) (.done b) := ⟨b, rfl, suits⟩

theorem translates_ask {q : Q} {next : R q → Program Q R α}
    {next' : R (t.question q) → Program Q R β}
    (follows : ∀ r, Translates t V (next r) (next' (t.reply q r))) :
    Translates t V (.ask q next) (.ask (t.question q) next') := ⟨next', rfl, follows⟩

theorem Translates.bind {p : Program Q R α} {p' : Program Q R β} {f : α → Program Q R γ}
    {f' : β → Program Q R δ} (same : Translates t V p p')
    (follows : ∀ a b, V a b → Translates t W (f a) (f' b)) :
    Translates t W (p.bind f) (p'.bind f') := by
  induction p generalizing p' with
  | done a =>
    obtain ⟨b, rfl, suits⟩ := same
    exact follows a b suits
  | ask q next ih =>
    obtain ⟨next', rfl, same⟩ := same
    exact translates_ask fun r => ih r (same r)

theorem translates_self {p : Program Q R α}
    (plain : p.Meets ⟨t.Keeps, fun _ _ => True⟩ fun _ => True) : Translates t Eq p p := by
  induction p with
  | done a => exact translates_done rfl
  | ask q next ih =>
    obtain ⟨⟨same, replies⟩, rest⟩ := plain
    have stays : ∀ {q'} (f : R q → R q'), q' = q → (∀ r, HEq (f r) r) →
        ∃ next' : R q' → Program Q R α, ask q next = ask q' next' ∧
          ∀ r, Translates t Eq (next r) (next' (f r)) := by
      rintro q' f rfl replies
      refine ⟨next, rfl, fun r => ?_⟩
      rw [eq_of_heq (replies r)]
      exact ih r (rest r trivial)
    exact stays (t.reply q) same replies

theorem Translates.run {S : Type} {answer : (q : Q) → S → R q × S} {sim : S → S → Prop}
    (agrees : t.Agrees answer sim) {p : Program Q R α} {p' : Program Q R β}
    (same : Translates t V p p') {s s' : S} (holds : sim s s') :
    V (p.run answer s).1 (p'.run answer s').1 ∧ sim (p.run answer s).2 (p'.run answer s').2 := by
  induction p generalizing p' s s' with
  | done a =>
    obtain ⟨b, rfl, suits⟩ := same
    exact ⟨suits, holds⟩
  | ask q next ih =>
    obtain ⟨next', rfl, same⟩ := same
    have rest := same (answer q s).1
    rw [← agrees.reply holds] at rest
    exact ih _ rest (agrees.state holds q)

theorem Translates.result? {p : Program Q R α} {p' : Program Q R α} (same : Translates t Eq p p') :
    p'.result? = p.result? := by
  cases p with
  | done a =>
    obtain ⟨b, rfl, rfl⟩ := same
    rfl
  | ask q next =>
    obtain ⟨next', rfl, -⟩ := same
    rfl

end Program

end RemoteTags
