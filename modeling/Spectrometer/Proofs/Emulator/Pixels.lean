import Spectrometer.Proofs.Emulator.WellFormed

/-!
The pixels of a raw frame. A format on the sensor has one for each group of elements, and the number
that a pixel shows never leaves the range of the format by more than one, so that words can hold it.
-/

namespace Spectrometer

/-- What the `k`-th pixel shows: the number of its first element plus one. -/
def FrameFormat.pixel (f : FrameFormat) (k : Nat) : UInt16 :=
  f.first + UInt16.ofNat k * f.reduction.factor + 1

namespace FrameParameters

/-- The samples of a raw frame that are no service samples. -/
def pixels (f : FrameParameters) : Nat := f.size.toNat - (Frame.headerLength + Frame.trailerLength)

variable {f : FrameParameters}

theorem OnSensor.pixels_eq (h : f.OnSensor) : f.pixels =
    (f.format.last.toNat - f.format.first.toNat) / f.format.reduction.factor.toNat + 1 := by
  rw [pixels, h.size, Device.shiftRight_raw, Nat.add_assoc, Nat.add_sub_cancel_left]

theorem OnSensor.size_eq (h : f.OnSensor) :
    f.size.toNat = Frame.headerLength + f.pixels + Frame.trailerLength := by
  rw [h.pixels_eq, h.size, Device.shiftRight_raw]
  omega

/-- The group of elements behind a pixel begins inside the range. -/
theorem OnSensor.element_le (h : f.OnSensor) {k : Nat} (hk : k < f.pixels) :
    f.format.first.toNat + k * f.format.reduction.factor.toNat ≤ f.format.last.toNat := by
  rw [h.pixels_eq] at hk
  have hrange : f.format.first.toNat ≤ f.format.last.toNat := h.first
  have hgroups : k * f.format.reduction.factor.toNat ≤
      f.format.last.toNat - f.format.first.toNat :=
    Nat.le_trans (Nat.mul_le_mul_right _ (Nat.le_of_lt_succ hk)) (Nat.div_mul_le_self ..)
  omega

theorem OnSensor.toNat_number (h : f.OnSensor) {k : Nat} (hk : k < f.pixels) :
    (UInt16.ofNat k).toNat = k := by
  have hsize := h.size_eq
  have hbound : f.size.toNat < UInt16.size := f.size.toNat_lt
  exact UInt16.toNat_ofNat_of_lt' (by omega)

/-- The way from the first element to a pixel's is counted by a word. -/
theorem OnSensor.toNat_offset (h : f.OnSensor) {k : Nat} (hk : k < f.pixels) :
    (UInt16.ofNat k * f.format.reduction.factor).toNat =
      k * f.format.reduction.factor.toNat := by
  have helement := h.element_le hk
  have hlast := f.format.last.toNat_lt
  rw [UInt16.toNat_mul, h.toNat_number hk]
  exact Nat.mod_eq_of_lt (by omega)

/-- So are the elements themselves. -/
theorem OnSensor.toNat_pixel (h : f.OnSensor) {k : Nat} (hk : k < f.pixels) :
    (f.format.pixel k).toNat =
      f.format.first.toNat + k * f.format.reduction.factor.toNat + 1 := by
  have helement := h.element_le hk
  have hlast : f.format.last.toNat ≤ 3647 := h.last
  rw [FrameFormat.pixel, UInt16.toNat_add, UInt16.toNat_add, h.toNat_offset hk, UInt16.toNat_one]
  generalize k * f.format.reduction.factor.toNat = offset at helement ⊢
  omega

end FrameParameters

namespace Device

variable {d : Device}

/-- A raw frame is its pixels between the service samples. -/
theorem synthesize_eq (d : Device) : d.synthesize =
    d.captures.toUInt16 :: List.replicate (Frame.headerLength - 1) 0 ++
      (List.range d.format.pixels).map d.format.format.pixel ++
      List.replicate Frame.trailerLength 0 := rfl

theorem length_synthesize (h : d.format.OnSensor) :
    d.synthesize.length = d.format.size.toNat := by
  rw [synthesize_eq, h.size_eq]
  simp only [List.length_append, List.length_cons, List.length_map, List.length_range,
    List.length_replicate, Frame.headerLength]

end Device

/-- A raw frame is as long as its format says. -/
theorem FrameParameters.Shows.length_eq {f : FrameParameters} {raw : List UInt16}
    (hraw : f.Shows raw) (h : f.OnSensor) : raw.length = f.size.toNat := by
  obtain ⟨d, rfl, rfl⟩ := hraw
  exact Device.length_synthesize h

/-- It is its pixels between a header and a trailer. -/
theorem FrameParameters.Shows.eq_append {f : FrameParameters} {raw : List UInt16}
    (hraw : f.Shows raw) : ∃ header trailer, header.length = Frame.headerLength ∧
      trailer.length = Frame.trailerLength ∧
      raw = header ++ (List.range f.pixels).map f.format.pixel ++ trailer := by
  obtain ⟨d, rfl, rfl⟩ := hraw
  exact ⟨_, _, rfl, List.length_replicate, d.synthesize_eq⟩

end Spectrometer
