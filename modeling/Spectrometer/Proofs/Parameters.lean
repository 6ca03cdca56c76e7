import Spectrometer.Parameters

/-!
Laws of exposures. Both conversions are first stated over natural numbers: microseconds are rounded
to units, ties to even, and units in microseconds are cut at the largest word. Rounding goes to the
nearest unit and never overflows; the two conversions are inverse up to `maxExposure`, and no
further.
-/

namespace Spectrometer

/-- The largest number of microseconds in exposure units, and so the longest exposure that is the
same after it was read and set again. -/
def maxExposure : UInt32 := 429496730

theorem toNat_exposureUnits (micros : UInt32) :
    (exposureUnits micros).toNat = micros.toNat / 10 +
      if 5 < micros.toNat % 10 ∨ micros.toNat % 10 = 5 ∧ micros.toNat / 10 % 2 = 1 then 1
      else 0 := by
  have hbound : micros.toNat < 4294967296 := micros.toNat_lt
  have hunits : (micros / 10).toNat = micros.toNat / 10 := UInt32.toNat_div micros 10
  have hrest : (micros % 10).toNat = micros.toNat % 10 := UInt32.toNat_mod micros 10
  have hparity : (micros / 10 % 2).toNat = micros.toNat / 10 % 2 := by
    rw [UInt32.toNat_mod, hunits]
    rfl
  have hup : micros % 10 > 5 ↔ 5 < micros.toNat % 10 := by
    rw [gt_iff_lt, UInt32.lt_iff_toNat_lt, hrest]
    rfl
  have htie : micros % 10 = 5 ↔ micros.toNat % 10 = 5 := by
    rw [← UInt32.toNat_inj, hrest]
    rfl
  have hodd : micros / 10 % 2 = 1 ↔ micros.toNat / 10 % 2 = 1 := by
    rw [← UInt32.toNat_inj, hparity]
    rfl
  unfold exposureUnits
  simp only [hup, htie, hodd]
  split
  · have hone : (1 : UInt32).toNat = 1 := rfl
    rw [UInt32.toNat_add, hunits, hone]
    omega
  · exact hunits

/-- By how many microseconds a number of units misses a number of microseconds. -/
def exposureError (micros units : Nat) : Nat := (10 * (units : Int) - micros).natAbs

/-- The units of an exposure are as near to its microseconds as any are, half a unit off at most,
and even where they are just half a unit off. -/
structure RoundsExposure (micros units : Nat) : Prop where
  nearest : ∀ other, exposureError micros units ≤ exposureError micros other
  half : exposureError micros units ≤ 5
  even : exposureError micros units = 5 → units % 2 = 0

/-- No number of units is nearer than one that misses by half a unit at most. -/
theorem exposureError_le_of_half {micros units : Nat} (hhalf : exposureError micros units ≤ 5)
    (other : Nat) : exposureError micros units ≤ exposureError micros other := by
  unfold exposureError at hhalf ⊢
  omega

theorem roundsExposure_exposureUnits (micros : UInt32) :
    RoundsExposure micros.toNat (exposureUnits micros).toNat := by
  have hunits := toNat_exposureUnits micros
  generalize (exposureUnits micros).toNat = units at hunits ⊢
  have hhalf : exposureError micros.toNat units ≤ 5 := by
    unfold exposureError
    split at hunits <;> omega
  refine ⟨exposureError_le_of_half hhalf, hhalf, ?_⟩
  intro htie
  unfold exposureError at htie
  split at hunits <;> omega

theorem exposureUnits_mono {micros micros' : UInt32} (hle : micros ≤ micros') :
    exposureUnits micros ≤ exposureUnits micros' := by
  have hnat : micros.toNat ≤ micros'.toNat := hle
  rw [UInt32.le_iff_toNat_le, toNat_exposureUnits, toNat_exposureUnits]
  split <;> split <;> omega

/-- Rounding with its one sum checked: there is no result where a word would overflow. -/
def exposureUnits? (micros : UInt32) : Option UInt32 :=
  let units := micros / 10
  let rest := micros % 10
  if rest > 5 ∨ (rest = 5 ∧ units % 2 = 1) then
    if units.toNat + 1 < UInt32.size then some (units + 1) else none
  else some units

theorem exposureUnits?_eq (micros : UInt32) :
    exposureUnits? micros = some (exposureUnits micros) := by
  have hbound : micros.toNat < 4294967296 := micros.toNat_lt
  have hsum : (micros / 10).toNat + 1 < UInt32.size := by
    have hunits : (micros / 10).toNat = micros.toNat / 10 := UInt32.toNat_div micros 10
    have hword : UInt32.size = 4294967296 := rfl
    omega
  unfold exposureUnits? exposureUnits
  dsimp only
  rw [if_pos hsum]
  split <;> rfl

namespace Acquisition

theorem toNat_exposureMicros (p : Acquisition) :
    p.exposureMicros.toNat = min (p.exposure.toNat * 10) 4294967295 := by
  unfold exposureMicros
  apply UInt32.toNat_ofNat_of_lt'
  have hcut := Nat.min_le_right (p.exposure.toNat * exposureUnitMicros) (UInt32.size - 1)
  have hword : UInt32.size = 4294967296 := rfl
  omega

/-- An exposure that is read and set again is the same, or the longest that can be. -/
theorem toNat_exposureUnits_exposureMicros (p : Acquisition) :
    (exposureUnits p.exposureMicros).toNat = min p.exposure.toNat maxExposure.toNat := by
  have hmax : maxExposure.toNat = 429496730 := rfl
  rw [toNat_exposureUnits, toNat_exposureMicros, hmax]
  split
  · omega
  · omega

theorem exposureUnits_exposureMicros_of_le {p : Acquisition} (hshort : p.exposure ≤ maxExposure) :
    exposureUnits p.exposureMicros = p.exposure := by
  have hle : p.exposure.toNat ≤ maxExposure.toNat := hshort
  rw [← UInt32.toNat_inj, toNat_exposureUnits_exposureMicros, Nat.min_eq_left hle]

theorem exposureUnits_exposureMicros_of_lt {p : Acquisition} (hlong : maxExposure < p.exposure) :
    exposureUnits p.exposureMicros = maxExposure := by
  have hlt : maxExposure.toNat < p.exposure.toNat := hlong
  rw [← UInt32.toNat_inj, toNat_exposureUnits_exposureMicros, Nat.min_eq_right (Nat.le_of_lt hlt)]

end Acquisition

end Spectrometer
