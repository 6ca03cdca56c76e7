import Spectrometer.Handle

/-!
Frame memory. The frames stay on the device; a `Memory` is a way of addressing them, and every
access is a driver call. In `frameAveraging` there is only the latest frame, under an index of its
own; in all other modes frames have indices counted from zero.
-/

namespace Spectrometer

inductive MemoryKind
  | ring
  | latestFrame
  deriving DecidableEq, Repr, Inhabited

namespace MemoryKind

def ofMode : ScanMode → MemoryKind
  | .frameAveraging => latestFrame
  | _ => ring

def describe : MemoryKind → String
  | ring => "Ring"
  | latestFrame => "LatestFrame"

end MemoryKind

/-- One end of a range of places. -/
inductive Bound
  | included (n : Nat)
  | excluded (n : Nat)
  | unbounded
  deriving DecidableEq, Repr, Inhabited

namespace Bound

/-- The first place of a range that starts here. -/
def first : Bound → Nat
  | included n => n
  | excluded n => n + 1
  | unbounded => 0

/-- The place behind a range that ends here, in a memory of `length` frames. -/
def behind (length : Nat) : Bound → Nat
  | included n => min (n + 1) length
  | excluded n => min n length
  | unbounded => length

/-- The places of a range that a memory of `length` frames has, in ascending order. -/
def places (start stop : Bound) (length : Nat) : List Nat :=
  List.range' start.first (stop.behind length - start.first)

end Bound

structure Memory where
  kind : MemoryKind
  handle : Handle
  deriving DecidableEq, Repr

namespace Memory

/-- How many frames there are. An averaged frame is always counted, ready or not. -/
def length (m : Memory) : Attempt Nat :=
  match m.kind with
  | .ring => return (← m.handle.framesInMemory).toNat
  | .latestFrame => return 1

def isEmpty (m : Memory) : Attempt Bool :=
  return (← m.length) == 0

/-- The frame at a place. The latest frame is at every place. -/
def get (m : Memory) (index : Nat) : Attempt Frame :=
  match m.kind with
  | .ring => do
    let length ← m.length
    if index < length then m.handle.frame (UInt16.ofNat index)
    else throw (.indexOutOfRange index length)
  | .latestFrame => m.handle.frame Frame.latestIndex

/-- The frames under the given indices, up to the first that cannot be fetched. -/
def fetch (h : Handle) (indices : List UInt16) : Attempt (List Frame) := indices.mapM h.frame

/-- The frames of a range, as far as they exist. -/
def getRange (m : Memory) (start stop : Bound) : Attempt (List Frame) := do
  let places := start.places stop (← m.length)
  fetch m.handle (places.map fun place =>
    match m.kind with
    | .ring => UInt16.ofNat place
    | .latestFrame => Frame.latestIndex)

/-- Throws the stored frames away. There is nothing to throw away where frames are averaged. -/
def clear (m : Memory) : Attempt Unit :=
  match m.kind with
  | .ring => m.handle.request .clearMemory
  | .latestFrame => pure ()

def readiness (h : Handle) : Attempt FrameStatus := do
  let raw ← h.framesInMemory
  match FrameStatus.ofRaw? raw with
  | some status => return status
  | none => throw (.operation (.invalidFrameStatus raw))

end Memory

end Spectrometer
