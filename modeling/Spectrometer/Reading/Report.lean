import Spectrometer.Barrier
import Spectrometer.Frame
import Spectrometer.Shortage

/-!
What a reading over several devices leaves behind: for every device the times of its fetches and its
last frame, and from these the span in which all last frames were fetched.
-/

namespace Spectrometer

/-- Something worth telling while a device is read. -/
inductive FrameEvent
  /-- The device's memory was full; it is cleared and the acquisition started again. -/
  | memoryFull
  /-- Frame `number` was fetched within `latency`; `last` marks the one all devices wait for. -/
  | fetched (number latency : Nat) (frame : Frame) (last : Bool)
  deriving DecidableEq, Repr

structure WorkerReport where
  device : Nat
  /-- How long each fetch took, latest first. -/
  latencies : List Nat
  /-- When the last fetch started. -/
  start : Option Instant
  /-- When the last fetch was over. -/
  stop : Option Instant
  lastFrame : Option Frame
  deriving DecidableEq, Repr

namespace WorkerReport

def new (device : Nat) : WorkerReport := ⟨device, [], none, none, none⟩

/-- Bytes in which the time of one fetch is kept. -/
def latencySize : Nat := 16

/-- What a record of so many fetches lacks, if anything, where there is room for so many bytes. -/
def shortage? (room fetches : Nat) : Option Shortage := Shortage.of? room fetches latencySize

end WorkerReport

/-- The records of all devices, in their order. -/
structure SimultaneousReport where
  workers : List WorkerReport
  deriving DecidableEq, Repr

namespace SimultaneousReport

/-- From the earliest start of a last fetch to the latest end of one; zero where the ends lie before
the starts, nothing where a start or an end is missing altogether. -/
def span (r : SimultaneousReport) : Option Nat :=
  match (r.workers.filterMap (·.start)).min?, (r.workers.filterMap (·.stop)).max? with
  | some start, some stop => some (stop - start)
  | _, _ => none

end SimultaneousReport

end Spectrometer
