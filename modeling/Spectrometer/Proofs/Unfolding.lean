import Spectrometer.Proofs.Interaction

/-!
Unfoldings of interactions. An interaction that ends has asked some questions, each of which got an
answer; `Unfolds` relates these turns to its value. Where `Yields` gives only the possible values of
an interaction, an unfolding also has its questions and answers, in their order.
-/

namespace Spectrometer

namespace Interaction

variable {Q : Type} {A : Q → Type} {α β : Type}

/-- A question and the answer it got. -/
structure Turn (Q : Type) (A : Q → Type) where
  question : Q
  answer : A question

/-- These turns, one after the other, lead the interaction to that value. -/
inductive Unfolds : Interaction Q A α → List (Turn Q A) → α → Prop
  | done (a : α) : Unfolds (.done a) [] a
  | ask {q : Q} {next : A q → Interaction Q A α} {turns : List (Turn Q A)} {a : α} (answer : A q)
      (hnext : Unfolds (next answer) turns a) : Unfolds (.ask q next) (⟨q, answer⟩ :: turns) a

theorem unfolds_done_iff {a b : α} {turns : List (Turn Q A)} :
    (done a : Interaction Q A α).Unfolds turns b ↔ turns = [] ∧ b = a := by
  constructor
  · rintro ⟨⟩
    exact ⟨rfl, rfl⟩
  · rintro ⟨rfl, rfl⟩
    exact .done _

theorem unfolds_ask_iff {q : Q} {next : A q → Interaction Q A α} {turns : List (Turn Q A)} {a : α} :
    (ask q next).Unfolds turns a ↔
      ∃ answer rest, turns = ⟨q, answer⟩ :: rest ∧ (next answer).Unfolds rest a := by
  constructor
  · rintro (_ | ⟨answer, hnext⟩)
    exact ⟨answer, _, rfl, hnext⟩
  · rintro ⟨answer, rest, rfl, hnext⟩
    exact .ask answer hnext

theorem yields_iff_unfolds {x : Interaction Q A α} {a : α} :
    x.Yields a ↔ ∃ turns, x.Unfolds turns a := by
  constructor
  · intro h
    induction h with
    | done a => exact ⟨[], .done a⟩
    | ask answer _ ih =>
      obtain ⟨turns, hturns⟩ := ih
      exact ⟨_, .ask answer hturns⟩
  · rintro ⟨turns, h⟩
    induction h with
    | done a => exact .done a
    | ask answer _ ih => exact .ask answer ih

theorem unfolds_bind_iff {x : Interaction Q A α} {f : α → Interaction Q A β}
    {turns : List (Turn Q A)} {b : β} :
    (x >>= f).Unfolds turns b ↔
      ∃ a before after, turns = before ++ after ∧ x.Unfolds before a ∧ (f a).Unfolds after b := by
  constructor
  · intro h
    induction x generalizing turns with
    | done a => exact ⟨a, [], turns, rfl, .done a, h⟩
    | ask q next ih =>
      obtain ⟨answer, rest, rfl, hrest⟩ := unfolds_ask_iff.mp h
      obtain ⟨a, before, after, rfl, hx, hf⟩ := ih answer hrest
      exact ⟨a, ⟨q, answer⟩ :: before, after, rfl, .ask answer hx, hf⟩
  · rintro ⟨a, before, after, rfl, hx, hf⟩
    induction hx with
    | done a => exact hf
    | ask answer _ ih => exact .ask answer (ih hf)

/-- An interaction that can fail fails in its first part, or goes on after a success of it. -/
theorem unfolds_attempt_bind_iff {ε : Type} {x : ExceptT ε (Interaction Q A) α}
    {f : α → ExceptT ε (Interaction Q A) β} {turns : List (Turn Q A)} {result : Except ε β} :
    (x >>= f).run.Unfolds turns result ↔
      (∃ e, x.run.Unfolds turns (.error e) ∧ result = .error e) ∨
        ∃ a before after, turns = before ++ after ∧ x.run.Unfolds before (.ok a) ∧
          (f a).run.Unfolds after result := by
  rw [ExceptT.run_bind, unfolds_bind_iff]
  constructor
  · rintro ⟨first, before, after, rfl, hx, hf⟩
    cases first with
    | error e =>
      obtain ⟨rfl, rfl⟩ := unfolds_done_iff.mp hf
      rw [List.append_nil]
      exact Or.inl ⟨e, hx, rfl⟩
    | ok a => exact Or.inr ⟨a, before, after, rfl, hx, hf⟩
  · rintro (⟨e, hx, rfl⟩ | ⟨a, before, after, rfl, hx, hf⟩)
    · exact ⟨.error e, turns, [], (List.append_nil turns).symm, hx, .done _⟩
    · exact ⟨.ok a, before, after, rfl, hx, hf⟩

variable {allowed : Q → Prop} {post : α → Prop}

/-- What is said of all partners holds of every unfolding. -/
theorem Obeys.of_unfolds {x : Interaction Q A α} (hx : x.Obeys allowed post)
    {turns : List (Turn Q A)} {a : α} (h : x.Unfolds turns a) :
    (∀ turn ∈ turns, allowed turn.question) ∧ post a := by
  induction h with
  | done a => exact ⟨nofun, hx⟩
  | ask answer _ ih =>
    obtain ⟨hturns, ha⟩ := ih (hx.2 answer)
    exact ⟨List.forall_mem_cons.mpr ⟨hx.1, hturns⟩, ha⟩

end Interaction

end Spectrometer
