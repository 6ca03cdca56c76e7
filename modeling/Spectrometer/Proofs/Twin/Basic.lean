import Spectrometer.Proofs.Interaction

/-!
Two interactions side by side. A `Pairing` says which two questions go together and which two
answers to them, and what is common to both sides after that. `Twin` interactions ask such questions
in turn, whatever fitting answers they get, and end with values that go together.
-/

namespace Spectrometer.Interaction

variable {S Q α α' β β' : Type} {A : Q → Type}

/-- In a state two questions go together, with those pairs of answers and states after them. -/
abbrev Pairing (S Q : Type) (A : Q → Type) :=
  S → (q q' : Q) → (A q → A q' → S → Prop) → Prop

inductive Twin (pairs : Pairing S Q A) (post : S → α → α' → Prop) :
    S → Interaction Q A α → Interaction Q A α' → Prop
  | done {s : S} {a : α} {a' : α'} (hpost : post s a a') : Twin pairs post s (.done a) (.done a')
  | ask {s : S} {q q' : Q} {next : A q → Interaction Q A α} {next' : A q' → Interaction Q A α'}
      {fits : A q → A q' → S → Prop} (hpairs : pairs s q q' fits)
      (hnext : ∀ a a' after, fits a a' after → Twin pairs post after (next a) (next' a')) :
      Twin pairs post s (.ask q next) (.ask q' next')

namespace Twin

variable {pairs : Pairing S Q A} {s : S} {x : Interaction Q A α} {x' : Interaction Q A α'}

theorem mono {post post' : S → α → α' → Prop} (hx : Twin pairs post s x x')
    (himp : ∀ s a a', post s a a' → post' s a a') : Twin pairs post' s x x' := by
  induction hx with
  | done hpost => exact .done (himp _ _ _ hpost)
  | ask hpairs _ ih => exact .ask hpairs ih

/-- Twins whose ends go on as twins are twins. -/
theorem bind {mid : S → α → α' → Prop} {post : S → β → β' → Prop} {f : α → Interaction Q A β}
    {f' : α' → Interaction Q A β'} (hx : Twin pairs mid s x x')
    (hf : ∀ s a a', mid s a a' → Twin pairs post s (f a) (f' a')) :
    Twin pairs post s (x >>= f) (x' >>= f') := by
  induction hx with
  | done hpost => exact hf _ _ _ hpost
  | ask hpairs _ ih => exact .ask hpairs ih

/-- The same where the first part of both cannot fail, and the rest can. -/
theorem lift_bind {ε : Type} {mid : S → α → α' → Prop} {post : S → Except ε β → Except ε β' → Prop}
    {f : α → ExceptT ε (Interaction Q A) β} {f' : α' → ExceptT ε (Interaction Q A) β'}
    (hx : Twin pairs mid s x x')
    (hf : ∀ s a a', mid s a a' → Twin pairs post s (f a).run (f' a').run) :
    Twin pairs post s (ExceptT.lift x >>= f).run (ExceptT.lift x' >>= f').run := by
  rw [ExceptT.run_bind_lift, ExceptT.run_bind_lift]
  exact hx.bind hf

/-- Twins stay twins in the words of other partners. -/
theorem rephrase {Q' : Type} {A' : Q' → Type} {pairs' : Pairing S Q' A'}
    {post : S → α → α' → Prop} {words : Q → Q'} {read : (q : Q) → A' (words q) → A q}
    (hwords : ∀ s q q' fits, pairs s q q' fits →
      pairs' s (words q) (words q') fun a a' after => fits (read q a) (read q' a') after)
    (hx : Twin pairs post s x x') :
    Twin pairs' post s (x.rephrase words read) (x'.rephrase words read) := by
  induction hx with
  | done hpost => exact .done hpost
  | ask hpairs _ ih => exact .ask (hwords _ _ _ _ hpairs) fun a a' after hfits => ih _ _ _ hfits

end Twin

end Spectrometer.Interaction
