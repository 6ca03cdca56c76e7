import Spectrometer.Command.Listing
import Spectrometer.Proofs.Interaction

/-!
What becomes of the surroundings of a job. Talking with the driver leaves everything as it is but
the driver and its warnings; printing adds to what was printed.
-/

namespace Spectrometer

variable {W : Type}

/-- The surroundings after more was printed. -/
def Surroundings.printed (s : Surroundings W) (lines : List String) : Surroundings W :=
  { s with lines := lines.reverse ++ s.lines }

namespace Surroundings

end Surroundings

namespace Job

variable (link : Link W)

/-- A dialogue is carried out with the driver of the surroundings. -/
theorem run_say {α : Type} (d : Dialogue α) (s : Surroundings W) :
    ∃ warnings, (say d).run (Surroundings.answer link) s = ((d.run link.reply s.driver).1,
      { s with driver := (d.run link.reply s.driver).2, warnings }) := by
  induction d generalizing s with
  | done a => exact ⟨s.warnings, rfl⟩
  | ask u next ih =>
    cases u with
    | call c =>
      obtain ⟨warnings, hrest⟩ := ih (link c s.driver).1 { s with driver := (link c s.driver).2 }
      exact ⟨warnings, hrest⟩
    | warn warning =>
      obtain ⟨warnings, hrest⟩ := ih () { s with warnings := warning :: s.warnings }
      exact ⟨warnings, hrest⟩

theorem run_say_of_eq {link : Link W} {α : Type} {d : Dialogue α} {s : Surroundings W} {a : α}
    {w : W} (hrun : d.run link.reply s.driver = (a, w)) :
    ∃ warnings, (say d).run (Surroundings.answer link) s =
      (a, { s with driver := w, warnings }) := by
  obtain ⟨warnings, hsay⟩ := run_say link d s
  rw [hrun] at hsay
  exact ⟨warnings, hsay⟩

end Job

/-- An attempt is carried out with the driver of the surroundings. -/
theorem Procedure.run_attempt {α : Type} {link : Link W} {a : Attempt α} {s : Surroundings W}
    {result : Except DeviceError α} {w : W} (hrun : a.run.run link.reply s.driver = (result, w)) :
    ∃ warnings, (attempt a).run.run (Surroundings.answer link) s =
      (result.mapError .device, { s with driver := w, warnings }) := by
  obtain ⟨warnings, hsay⟩ := Job.run_say_of_eq hrun
  refine ⟨warnings, ?_⟩
  unfold attempt
  rw [ExceptT.run_mk, Interaction.run_bind, hsay]
  rfl

end Spectrometer
