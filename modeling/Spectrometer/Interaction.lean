/-!
Computations that ask questions. An `Interaction` is a finite plan: it is over and holds a value,
or it asks one question and says how to go on after every possible answer. Nothing is said about
who answers, so a statement about all answers is a statement about every partner.
-/

namespace Spectrometer

/-- A computation that puts questions of type `Q`, each with its own type of answers, and ends
with a value. -/
inductive Interaction (Q : Type) (A : Q → Type) (α : Type) : Type
  | done (value : α)
  | ask (question : Q) (next : A question → Interaction Q A α)

namespace Interaction

variable {Q : Type} {A : Q → Type} {α β W : Type}

/-- Goes on with `f` where the interaction would have ended. -/
def bind : Interaction Q A α → (α → Interaction Q A β) → Interaction Q A β
  | done a, f => f a
  | ask q next, f => ask q fun a => (next a).bind f

instance : Monad (Interaction Q A) where
  pure := done
  bind := bind

@[simp] theorem pure_eq_done (a : α) : (pure a : Interaction Q A α) = done a := rfl

@[simp] theorem done_bind (a : α) (f : α → Interaction Q A β) : done a >>= f = f a := rfl

@[simp] theorem ask_bind (q : Q) (next : A q → Interaction Q A α) (f : α → Interaction Q A β) :
    ask q next >>= f = ask q fun a => next a >>= f := rfl

private theorem bind_done (x : Interaction Q A α) : x.bind done = x := by
  induction x with
  | done a => rfl
  | ask q next ih => exact congrArg (ask q) (funext ih)

private theorem bind_assoc {γ : Type} (x : Interaction Q A α) (f : α → Interaction Q A β)
    (g : β → Interaction Q A γ) : (x.bind f).bind g = x.bind fun a => (f a).bind g := by
  induction x with
  | done a => rfl
  | ask q next ih => exact congrArg (ask q) (funext ih)

instance : LawfulMonad (Interaction Q A) :=
  LawfulMonad.mk' (Interaction Q A) bind_done (fun _ _ => rfl) bind_assoc

/-- Carries an interaction out in a world that answers every question. -/
def run (answer : (q : Q) → W → A q × W) : Interaction Q A α → W → α × W
  | done a, w => (a, w)
  | ask q next, w => (next (answer q w).1).run answer (answer q w).2

/-- Carries an interaction out where answers are had from a monad. -/
def runM {m : Type → Type} [Monad m] (answer : (q : Q) → m (A q)) : Interaction Q A α → m α
  | done a => pure a
  | ask q next => do (next (← answer q)).runM answer

/-- Puts the questions in the words of another partner, whose answers are read back. -/
def rephrase {Q' : Type} {A' : Q' → Type} (words : Q → Q') (read : (q : Q) → A' (words q) → A q) :
    Interaction Q A α → Interaction Q' A' α
  | done a => done a
  | ask q next => ask (words q) fun a => (next (read q a)).rephrase words read

end Interaction

end Spectrometer
