/-! Programs that ask. A program is a finite tree: it is done with a value, or it asks a question
and goes on according to the reply. Who replies, and how, is left to whoever runs it. -/

namespace RemoteTags

inductive Program (Q : Type) (R : Q → Type) (α : Type) : Type where
  | done (a : α)
  | ask (q : Q) (next : R q → Program Q R α)

namespace Program

variable {Q : Type} {R : Q → Type} {α β γ : Type}

def bind : Program Q R α → (α → Program Q R β) → Program Q R β
  | done a, f => f a
  | ask q next, f => ask q fun r => (next r).bind f

instance : Monad (Program Q R) where
  pure := done
  bind := bind

def query (q : Q) : Program Q R (R q) := ask q done

def run {S : Type} (answer : (q : Q) → S → R q × S) : Program Q R α → S → α × S
  | done a, s => (a, s)
  | ask q next, s =>
    let (r, s) := answer q s
    (next r).run answer s

def advance {S : Type} (answer : (q : Q) → S → Option (R q) × S) :
    Program Q R α → S → Program Q R α × S
  | done a, s => (done a, s)
  | ask q next, s =>
    match answer q s with
    | (some r, s) => (next r).advance answer s
    | (none, s) => (ask q next, s)

def handle {Q' : Type} {R' : Q' → Type} (answering : (q : Q) → Program Q' R' (R q)) :
    Program Q R α → Program Q' R' α
  | done a => done a
  | ask q next => (answering q).bind fun r => (next r).handle answering

def result? : Program Q R α → Option α
  | done a => some a
  | ask _ _ => none

@[simp] theorem pure_eq (a : α) : (pure a : Program Q R α) = done a := rfl

@[simp] theorem bind_eq (p : Program Q R α) (f : α → Program Q R β) : p >>= f = p.bind f := rfl

@[simp] theorem done_bind (a : α) (f : α → Program Q R β) : (done a : Program Q R α).bind f = f a :=
  rfl

@[simp] theorem ask_bind (q : Q) (next : R q → Program Q R α) (f : α → Program Q R β) :
    (ask q next).bind f = ask q fun r => (next r).bind f := rfl

@[simp] theorem bind_done (p : Program Q R α) : p.bind done = p := by
  induction p with
  | done a => rfl
  | ask q next ih => simp [ih]

theorem bind_assoc (p : Program Q R α) (f : α → Program Q R β) (g : β → Program Q R γ) :
    (p.bind f).bind g = p.bind fun a => (f a).bind g := by
  induction p with
  | done a => rfl
  | ask q next ih => simp [ih]

instance : LawfulMonad (Program Q R) := LawfulMonad.mk' _
  (fun p => bind_done p) (fun _ _ => rfl) (fun p f g => bind_assoc p f g)

variable {S : Type} (answer : (q : Q) → S → R q × S)

@[simp] theorem run_ask (q : Q) (next : R q → Program Q R α) (s : S) :
    (ask q next).run answer s = (next (answer q s).1).run answer (answer q s).2 := rfl

theorem run_bind (p : Program Q R α) (f : α → Program Q R β) (s : S) :
    (p.bind f).run answer s = (f (p.run answer s).1).run answer (p.run answer s).2 := by
  induction p generalizing s with
  | done a => rfl
  | ask q next ih => simp [ih]

end Program

end RemoteTags
