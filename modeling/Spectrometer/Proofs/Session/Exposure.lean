import Spectrometer.Proofs.Emulator.Effect
import Spectrometer.Proofs.Parameters
import Spectrometer.Proofs.Session.Changes

/-!
Exposures as a session tells and takes them, in microseconds. What is set is rounded to the nearest
unit; what is read is what the device holds, as far as its microseconds fit into a word. So an
exposure that is read and set again comes back exactly where it fits.
-/

namespace Spectrometer.Session

variable {s s' : Session}

/-- A session that could set its exposure remembers it in the nearest unit. -/
theorem exposure_of_set {p : Acquisition} (hcurrent : s.acquisition = some p) {micros : UInt32}
    (hset : (s.setExposure micros).Yields (s', .ok ())) :
    s'.acquisition.map (·.exposure) = some (exposureUnits micros) := by
  rw [setExposure, updateAcquisition_eq hcurrent] at hset
  rw [acquisition_of_applied hset, Option.map_some, Acquisition.withoutIdleBlanks_exposure]

/-- `exposureUnits` rounds microseconds to the nearest number of ten-microsecond units, ties to
even, is monotone and does not overflow in any step. Reading an exposure in microseconds and setting
it again gives `min p.exposure 429496730` units. So whatever the driver answers, a successful
`setExposure` of the session's own `exposureMicros?` keeps the exposure if and only if it is at most
429496730 units. -/
theorem exposure_rounded_and_set_back :
    (∀ micros, RoundsExposure micros.toNat (exposureUnits micros).toNat ∧
      exposureUnits? micros = some (exposureUnits micros)) ∧
    (∀ micros micros', micros ≤ micros' → exposureUnits micros ≤ exposureUnits micros') ∧
    (∀ p : Acquisition, (exposureUnits p.exposureMicros).toNat = min p.exposure.toNat 429496730) ∧
    ∀ (s s' : Session) (micros : UInt32), s.exposureMicros? = some micros →
      (s.setExposure micros).Yields (s', .ok ()) →
      ∃ p p', s.acquisition = some p ∧ s'.acquisition = some p' ∧
        p'.exposure.toNat = min p.exposure.toNat 429496730 ∧
        (p'.exposure = p.exposure ↔ p.exposure.toNat ≤ 429496730) := by
  refine ⟨fun micros => ⟨roundsExposure_exposureUnits micros, exposureUnits?_eq micros⟩,
    fun _ _ => exposureUnits_mono, Acquisition.toNat_exposureUnits_exposureMicros, ?_⟩
  intro s s' micros hread hset
  obtain ⟨p, hp, rfl⟩ := Option.map_eq_some_iff.mp hread
  obtain ⟨p', hp', hexposure⟩ := Option.map_eq_some_iff.mp (exposure_of_set hp hset)
  have hback : p'.exposure.toNat = min p.exposure.toNat 429496730 :=
    hexposure ▸ p.toNat_exposureUnits_exposureMicros
  refine ⟨p, p', hp, hp', hback, ?_⟩
  rw [← UInt32.toNat_inj, hback]
  omega

/-- One unit more than the longest exposure that is read as it is: read and set again it is that
one. -/
theorem longer_exposure_set_back :
    let x := course Emulator.link
      [.connect, .applyAcquisition ⟨1, 0, .continuous, maxExposure + 1⟩] (new none, .twin)
    let s' := ((x.1.setExposure 4294967295).run Emulator.link.reply x.2).1.1
    x.1.exposureMicros? = some 4294967295 ∧
      (x.1.setExposure 4294967295).Yields (s', .ok ()) ∧
      s'.acquisition.map (·.exposure.toNat) = some 429496730 := by
  intro x s'
  have hread : x.1.exposureMicros? = some 4294967295 := by decide
  have hset : (x.1.setExposure 4294967295).Yields (s', .ok ()) := by
    have hyields := Interaction.yields_run Emulator.link.reply (x.1.setExposure 4294967295) x.2
    have hok : ((x.1.setExposure 4294967295).run Emulator.link.reply x.2).1.2 = .ok () := rfl
    exact hok ▸ hyields
  have hheld : x.1.acquisition = some ⟨1, 0, .continuous, maxExposure + 1⟩ := by decide
  obtain ⟨p, p', hp, hp', hexposure, -⟩ := exposure_rounded_and_set_back.2.2.2 x.1 s' _ hread hset
  obtain rfl : p = ⟨1, 0, .continuous, maxExposure + 1⟩ := Option.some.inj (hp.symm.trans hheld)
  refine ⟨hread, hset, ?_⟩
  rw [hp', Option.map_some, hexposure]
  rfl

end Spectrometer.Session
