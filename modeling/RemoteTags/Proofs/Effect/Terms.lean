import RemoteTags.Effect.Program

/-! What a program asks, given what it may take for granted about the replies. Whoever answers as
the terms say keeps a program within them; so an invariant of the one who answers has to be looked
at one question at a time, and never along a program. -/

namespace RemoteTags

/-- The questions that may be asked, and the replies that may be given. -/
structure Terms (Q : Type) (R : Q → Type) where
  asks : Q → Prop
  tells : (q : Q) → R q → Prop

namespace Program

variable {Q Q' : Type} {R : Q → Type} {R' : Q' → Type} {α β : Type} {T : Terms Q R}
  {T' : Terms Q' R'} {P : α → Prop} {P' : β → Prop}

/-- With replies as the terms say, the program asks only what it may and ends with a value that
has the property. -/
def Meets (T : Terms Q R) (P : α → Prop) : Program Q R α → Prop
  | done a => P a
  | ask q next => T.asks q ∧ ∀ r, T.tells q r → (next r).Meets T P

theorem meets_anything (p : Program Q R α) :
    p.Meets ⟨fun _ => True, fun _ _ => True⟩ fun _ => True := by
  induction p with
  | done a => trivial
  | ask q next ih => exact ⟨trivial, fun r _ => ih r⟩

theorem Meets.bind {p : Program Q R α} {f : α → Program Q R β} (meets : p.Meets T P)
    (follows : ∀ a, P a → (f a).Meets T P') : (p.bind f).Meets T P' := by
  induction p with
  | done a => exact follows a meets
  | ask q next ih => exact ⟨meets.1, fun r told => ih r (meets.2 r told)⟩

theorem Meets.mono {T' : Terms Q R} {p : Program Q R α} (meets : p.Meets T P)
    (asks : ∀ q, T.asks q → T'.asks q) (tells : ∀ q r, T'.tells q r → T.tells q r) :
    p.Meets T' P := by
  induction p with
  | done a => exact meets
  | ask q next ih =>
    exact ⟨asks q meets.1, fun r told => ih r (meets.2 r (tells q r told))⟩

theorem Meets.handle {p : Program Q R α} {answering : (q : Q) → Program Q' R' (R q)}
    (meets : p.Meets T P) (answers : ∀ q, T.asks q → (answering q).Meets T' (T.tells q)) :
    (p.handle answering).Meets T' P := by
  induction p with
  | done a => exact meets
  | ask q next ih => exact (answers q meets.1).bind fun r told => ih r (meets.2 r told)

theorem run_view {S V : Type} {answer : (q : Q) → S → R q × S} {answer' : (q : Q) → V → R q × V}
    (view : S → V)
    (alike : ∀ q s, answer' q (view s) = ((answer q s).1, view (answer q s).2))
    (p : Program Q R α) (s : S) :
    p.run answer' (view s) = ((p.run answer s).1, view (p.run answer s).2) := by
  induction p generalizing s with
  | done a => rfl
  | ask q next ih =>
    rw [run_ask, run_ask, alike]
    exact ih _ _

theorem Meets.run {S : Type} {answer : (q : Q) → S → R q × S} {I : S → Prop}
    (keeps : ∀ q s, T.asks q → I s → T.tells q (answer q s).1 ∧ I (answer q s).2)
    {p : Program Q R α} (meets : p.Meets T P) {s : S} (holds : I s) :
    P (p.run answer s).1 ∧ I (p.run answer s).2 := by
  induction p generalizing s with
  | done a => exact ⟨meets, holds⟩
  | ask q next ih =>
    obtain ⟨told, kept⟩ := keeps q s meets.1 holds
    exact ih _ (meets.2 _ told) kept

end Program

end RemoteTags
