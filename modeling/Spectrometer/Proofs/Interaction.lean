import Spectrometer.Driver.Dialogue

/-!
Laws of interactions. `Obeys` quantifies over every partner: whatever the answers are, only allowed
questions are asked and the final value satisfies its postcondition. `Yields` is its counterpart for
one partner. A dialogue is carried out over a link by `Link.reply`, where warnings have no effect;
the journal of warnings that `Link.answer` keeps does not change the calls.
-/

namespace Spectrometer

namespace Interaction

variable {Q : Type} {A : Q → Type} {α β W : Type}

@[simp] theorem run_done (answer : (q : Q) → W → A q × W) (a : α) (w : W) :
    (done a : Interaction Q A α).run answer w = (a, w) := rfl

@[simp] theorem run_bind (answer : (q : Q) → W → A q × W) (x : Interaction Q A α)
    (f : α → Interaction Q A β) (w : W) :
    (x >>= f).run answer w = (f (x.run answer w).1).run answer (x.run answer w).2 := by
  induction x generalizing w with
  | done a => rfl
  | ask q next ih => exact ih _ _

/-- After a success an interaction that can fail goes on. -/
theorem run_bind_ok {ε : Type} {answer : (q : Q) → W → A q × W}
    {x : ExceptT ε (Interaction Q A) α} {a : α} {w w' : W}
    (hx : x.run.run answer w = (.ok a, w')) (f : α → ExceptT ε (Interaction Q A) β) :
    (x >>= f).run.run answer w = (f a).run.run answer w' := by
  rw [ExceptT.run_bind, run_bind, hx]

/-- After a failure it does not. -/
theorem run_bind_error {ε : Type} {answer : (q : Q) → W → A q × W}
    {x : ExceptT ε (Interaction Q A) α} {e : ε} {w w' : W}
    (hx : x.run.run answer w = (.error e, w')) (f : α → ExceptT ε (Interaction Q A) β) :
    (x >>= f).run.run answer w = (.error e, w') := by
  rw [ExceptT.run_bind, run_bind, hx]
  rfl

/-- A success is one of both parts, one after the other. -/
theorem run_bind_eq_ok {ε : Type} {answer : (q : Q) → W → A q × W}
    {x : ExceptT ε (Interaction Q A) α} {f : α → ExceptT ε (Interaction Q A) β} {b : β} {w w' : W}
    (hboth : (x >>= f).run.run answer w = (.ok b, w')) :
    ∃ a w₁, x.run.run answer w = (.ok a, w₁) ∧ (f a).run.run answer w₁ = (.ok b, w') := by
  cases hx : x.run.run answer w with
  | mk result w₁ =>
    cases result with
    | error e =>
      rw [run_bind_error hx] at hboth
      cases hboth
    | ok a =>
      rw [run_bind_ok hx] at hboth
      exact ⟨a, w₁, rfl, hboth⟩

/-- Part of it that cannot fail does not end it. -/
theorem run_lift_bind {ε : Type} (answer : (q : Q) → W → A q × W) (x : Interaction Q A α)
    (f : α → ExceptT ε (Interaction Q A) β) (w : W) :
    (ExceptT.lift x >>= f).run.run answer w =
      (f (x.run answer w).1).run.run answer (x.run answer w).2 := by
  rw [ExceptT.run_bind, ExceptT.run_lift, run_bind, map_eq_pure_bind, run_bind]
  rfl

/-- Every question is allowed and every final value satisfies `post`, whatever the answers are. -/
def Obeys (allowed : Q → Prop) (post : α → Prop) : Interaction Q A α → Prop
  | done a => post a
  | ask q next => allowed q ∧ ∀ answer, (next answer).Obeys allowed post

variable {allowed : Q → Prop} {post : α → Prop}

@[simp] theorem obeys_done (a : α) :
    (done a : Interaction Q A α).Obeys allowed post ↔ post a := Iff.rfl

@[simp] theorem obeys_bind {post : β → Prop} (x : Interaction Q A α) (f : α → Interaction Q A β) :
    (x >>= f).Obeys allowed post ↔ x.Obeys allowed fun a => (f a).Obeys allowed post := by
  induction x with
  | done a => rfl
  | ask q next ih => exact and_congr_right fun _ => forall_congr' ih

theorem obeys_of_forall {x : Interaction Q A α} (hallowed : ∀ q, allowed q) :
    x.Obeys allowed fun _ => True := by
  induction x with
  | done a => trivial
  | ask q next ih => exact ⟨hallowed q, ih⟩

theorem Obeys.mono {x : Interaction Q A α} {post' : α → Prop} (hx : x.Obeys allowed post)
    (himp : ∀ a, post a → post' a) : x.Obeys allowed post' := by
  induction x with
  | done a => exact himp a hx
  | ask q next ih => exact ⟨hx.1, fun answer => ih answer (hx.2 answer)⟩

theorem Obeys.mono_allowed {x : Interaction Q A α} {allowed' : Q → Prop}
    (hx : x.Obeys allowed post) (himp : ∀ q, allowed q → allowed' q) : x.Obeys allowed' post := by
  induction x with
  | done a => exact hx
  | ask q next ih => exact ⟨himp q hx.1, fun answer => ih answer (hx.2 answer)⟩

theorem Obeys.run_post {x : Interaction Q A α} (hx : x.Obeys allowed post)
    (answer : (q : Q) → W → A q × W) (w : W) : post (x.run answer w).1 := by
  induction x generalizing w with
  | done a => exact hx
  | ask q next ih => exact ih _ (hx.2 _) _

/-- What an interaction goes on with matters for the values only that it can end with. -/
theorem Obeys.bind_congr {x : Interaction Q A α} {f g : α → Interaction Q A β}
    (hx : x.Obeys allowed fun a => f a = g a) : x >>= f = x >>= g := by
  induction x with
  | done a => exact hx
  | ask q next ih => exact congrArg (ask q) (funext fun answer => ih answer (hx.2 answer))

/-- What every allowed question leaves true of the world is true after the whole interaction. -/
theorem Obeys.run_keeps {x : Interaction Q A α} (hx : x.Obeys allowed post)
    {answer : (q : Q) → W → A q × W} {keeps : W → Prop}
    (hkeeps : ∀ q w, allowed q → keeps w → keeps (answer q w).2) {w : W} (hw : keeps w) :
    keeps (x.run answer w).2 := by
  induction x generalizing w with
  | done a => exact hw
  | ask q next ih => exact ih _ (hx.2 _) (hkeeps q w hx.1 hw)

/-- The interaction can end with that value: some answers lead to it. -/
inductive Yields : Interaction Q A α → α → Prop
  | done (a : α) : Yields (.done a) a
  | ask {q : Q} {next : A q → Interaction Q A α} {a : α} (answer : A q)
      (hnext : Yields (next answer) a) : Yields (.ask q next) a

theorem Obeys.of_yields {x : Interaction Q A α} {a : α} (hx : x.Obeys allowed post)
    (ha : x.Yields a) : post a := by
  induction ha with
  | done a => exact hx
  | ask answer _ ih => exact ih (hx.2 answer)

theorem yields_bind (x : Interaction Q A α) (f : α → Interaction Q A β) (b : β) :
    (x >>= f).Yields b ↔ ∃ a, x.Yields a ∧ (f a).Yields b := by
  constructor
  · intro hb
    induction x with
    | done a => exact ⟨a, .done a, hb⟩
    | ask q next ih =>
      obtain _ | ⟨answer, hnext⟩ := hb
      obtain ⟨a, ha, hfb⟩ := ih answer hnext
      exact ⟨a, .ask answer ha, hfb⟩
  · rintro ⟨a, ha, hfb⟩
    induction ha with
    | done a => exact hfb
    | ask answer _ ih => exact .ask answer (ih hfb)

theorem yields_run (answer : (q : Q) → W → A q × W) (x : Interaction Q A α) (w : W) :
    x.Yields (x.run answer w).1 := by
  induction x generalizing w with
  | done a => exact .done a
  | ask q next ih => exact .ask _ (ih _ _)

end Interaction

/-- The link as a partner of dialogues; warnings have no effect. -/
def Link.reply {W : Type} (link : Link W) : (u : Utterance) → W → u.Answer × W
  | .call c, w => link c w
  | .warn _, w => ((), w)

namespace Dialogue

variable {W α β : Type}

/-- Gathering the warnings changes neither the outcome of a dialogue nor the driver's state. -/
theorem run_answer (link : Link W) (d : Dialogue α) (w : W) (warnings : List Warning) :
    (d.run link.answer (w, warnings)).1 = (d.run link.reply w).1 ∧
      (d.run link.answer (w, warnings)).2.1 = (d.run link.reply w).2 := by
  induction d generalizing w warnings with
  | done a => exact ⟨rfl, rfl⟩
  | ask u next ih =>
    cases u with
    | call c => exact ih _ _ _
    | warn warning => exact ih _ _ _

@[simp] theorem run_call (link : Link W) (c : Call) (w : W) :
    (call c).run link.reply w = link c w := rfl

end Dialogue

/-- One who comes out of a connecting dialogue, given up again where connecting failed. -/
def Attempt.opening {α : Type} (connect : Dialogue (α × Except DeviceError Unit))
    (drop : α → Dialogue Unit) : Attempt α := do
  match ← connect with
  | (a, .ok ()) => return a
  | (a, .error e) =>
    drop a
    throw e

theorem Attempt.opening_cases {W α : Type} (link : Link W)
    (connect : Dialogue (α × Except DeviceError Unit)) (drop : α → Dialogue Unit) (w : W) :
    (∃ a w', connect.run link.reply w = ((a, .ok ()), w') ∧
        (opening connect drop).run.run link.reply w = (.ok a, w')) ∨
      ∃ a e w', connect.run link.reply w = ((a, .error e), w') ∧
        (opening connect drop).run.run link.reply w =
          (.error e, ((drop a).run link.reply w').2) := by
  unfold opening
  cases hconnect : connect.run link.reply w with
  | mk outcome w' =>
    obtain ⟨a, verdict⟩ := outcome
    cases verdict with
    | ok _ =>
      refine Or.inl ⟨a, w', rfl, (Interaction.run_lift_bind _ connect _ w).trans ?_⟩
      rw [hconnect]
      rfl
    | error e =>
      refine Or.inr ⟨a, e, w', rfl, (Interaction.run_lift_bind _ connect _ w).trans ?_⟩
      rw [hconnect]
      exact Interaction.run_lift_bind _ (drop a) _ w'

/-- An attempt goes on after a success only; a failure is its own end. -/
theorem Attempt.obeys_bind {α β : Type} {allowed : Utterance → Prop}
    {post : Except DeviceError β → Prop} (x : Attempt α) (f : α → Attempt β) :
    (x >>= f).run.Obeys allowed post ↔
      x.run.Obeys allowed fun
        | .ok a => (f a).run.Obeys allowed post
        | .error e => post (.error e) := by
  rw [ExceptT.run_bind, Interaction.obeys_bind]
  apply iff_of_eq
  congr 1
  funext result
  cases result <;> rfl

end Spectrometer
