import Spectrometer.Frame
import Spectrometer.Mode

/-!
What a device can be set to: the acquisition parameters, always sent together, and the frame format
with the frame size that the device computes from it. Exposure is kept in the device's unit of
10 µs; microseconds are rounded to the nearest unit, a tie going to the even one.
-/

namespace Spectrometer

def exposureUnitMicros : Nat := 10

def maxElement : UInt16 := 3647

structure Acquisition where
  scans : UInt16
  blankScans : UInt16
  mode : ScanMode
  /-- In units of 10 µs. -/
  exposure : UInt32
  deriving DecidableEq, Repr, Inhabited

namespace Acquisition

/-- What a reset restores. -/
def factory : Acquisition := ⟨1, 0, .continuous, 10⟩

/-- The exposure in microseconds, or the largest word if it does not fit into one. -/
def exposureMicros (p : Acquisition) : UInt32 :=
  UInt32.ofNat (min (p.exposure.toNat * exposureUnitMicros) (UInt32.size - 1))

/-- Averaged frames have no blank scans between them. -/
def withoutIdleBlanks (p : Acquisition) : Acquisition :=
  if p.mode = .frameAveraging then { p with blankScans := 0 } else p

def describe (p : Acquisition) : String :=
  Text.record "AcquisitionParameters" [("num_of_scans", s!"{p.scans.toNat}"),
    ("num_of_blank_scans", s!"{p.blankScans.toNat}"), ("scan_mode", p.mode.describe),
    ("exposure_time", s!"{p.exposure.toNat}")]

end Acquisition

/-- The nearest number of exposure units, the even one of two that are equally near. -/
def exposureUnits (micros : UInt32) : UInt32 :=
  let units := micros / 10
  let rest := micros % 10
  if rest > 5 ∨ (rest = 5 ∧ units % 2 = 1) then units + 1 else units

/-- Which elements a frame reports and how they are averaged. -/
structure FrameFormat where
  first : UInt16
  last : UInt16
  reduction : ReductionMode
  deriving DecidableEq, Repr, Inhabited

/-- A frame format and the number of raw samples the device makes of it. -/
structure FrameParameters where
  format : FrameFormat
  size : UInt16
  deriving DecidableEq, Repr, Inhabited

namespace FrameParameters

/-- What a reset restores. -/
def factory : FrameParameters := ⟨⟨0, maxElement, .noAverage⟩, Frame.defaultSize⟩

def describe (p : FrameParameters) : String :=
  Text.record "FrameParameters" [
    ("element_range", Text.tuple [s!"{p.format.first.toNat}", s!"{p.format.last.toNat}"]),
    ("reduction_mode", p.format.reduction.describe), ("frame_size", s!"{p.size.toNat}")]

end FrameParameters

end Spectrometer
