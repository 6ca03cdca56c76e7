/-!
Frames. A raw frame has 32 service samples in front and 14 behind; between them lie the samples of
the sensor, last element first. A `Frame` holds the sensor's samples only, turned round.
-/

namespace Spectrometer

/-- The samples of one frame, service samples removed. -/
structure Frame where
  samples : List UInt16
  deriving DecidableEq, Repr, Inhabited

namespace Frame

/-- Service samples in front of a raw frame. -/
def headerLength : Nat := 32

/-- Service samples behind a raw frame. -/
def trailerLength : Nat := 14

/-- Raw samples for all elements without reduction. -/
def defaultSize : UInt16 := 3694

/-- The frame index that stands for the latest frame, whichever it is. -/
def latestIndex : UInt16 := 0xFFFF

/-- The frame in a raw buffer; a buffer with room for service samples only holds the empty frame. -/
def ofRaw (raw : List UInt16) : Frame :=
  ⟨(raw.drop headerLength).reverse.drop trailerLength⟩

end Frame

end Spectrometer
