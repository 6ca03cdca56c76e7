import Spectrometer.Command.Listing

/-!
Capturing frames from one device: settings given by the user are merged into those of the device,
one acquisition is started, and its frames are printed, in full or by their extremes and mean.
-/

namespace Spectrometer.Command

/-- What the user wants; what is left out stays as the device has it. -/
structure CaptureSettings where
  scans : UInt16
  blankScans : Option UInt16
  mode : Option ScanMode
  /-- In microseconds. -/
  exposure : Option UInt32
  first : Option UInt16
  last : Option UInt16
  reduction : Option ReductionMode
  deriving DecidableEq, Repr

namespace CaptureSettings

def acquisition (c : CaptureSettings) (current : Acquisition) : Acquisition :=
  Acquisition.withoutIdleBlanks {
    scans := c.scans
    blankScans := c.blankScans.getD current.blankScans
    mode := c.mode.getD current.mode
    exposure := c.exposure.elim current.exposure exposureUnits }

def format (c : CaptureSettings) (current : FrameFormat) : FrameFormat where
  first := c.first.getD current.first
  last := c.last.getD current.last
  reduction := c.reduction.getD current.reduction

end CaptureSettings

/-- Nanoseconds between two polls of the status. -/
def pollInterval : Nat := 1000000

/-- How long to wait for the frames of an acquisition: as long as it takes, and five seconds. -/
def captureTimeout (p : Acquisition) : Nat :=
  p.exposureMicros.toNat * max p.scans.toNat 1 * (p.blankScans.toNat + 1) * 1000 + 5000000000

/-- Whether the wanted number of frames is there, or no more will come. -/
def framesReady (s : Session) (expected : Nat) : Attempt Bool :=
  match s.memory with
  | .latestFrame => return (← Memory.readiness s.handle) ≠ .notReady
  | .ring => do
    if expected ≤ (← s.frames.length) then return true
    else return (← s.status).memoryFull

/-- Polls the status until the frames are ready, up to `again` more times. -/
def waitForFrames (s : Session) (expected timeout : Nat) : (again : Nat) → Procedure Unit
  | 0 => do
    if ← Procedure.attempt (framesReady s expected) then return ()
    else throw (.noFrames timeout)
  | again + 1 => do
    if ← Procedure.attempt (framesReady s expected) then return ()
    else
      Job.pause pollInterval
      waitForFrames s expected timeout again

/-- Smallest and largest sample and the mean, rounded down; all zero without samples. -/
def sampleSummary (samples : List UInt16) : String :=
  let values := samples.map (·.toNat)
  let mean := values.foldl (· + ·) 0 / values.length
  s!"min {values.min?.getD 0} max {values.max?.getD 0} mean {mean}"

def captureLines (mode : ScanMode) (full : Bool) (frames : List Frame) : List String :=
  let width := (frames.head?.elim 0 fun f => f.samples.length : Nat)
  s!"Captured {frames.length} frame(s) of {width} values ({mode.name} mode)" ::
    frames.zipIdx.map fun (frame, i) =>
      s!"[{i}] " ++ if full then sampleList frame.samples else sampleSummary frame.samples

def acquire (s : Session) (acquisition : Acquisition) (full : Bool) : Procedure Unit := do
  Procedure.attempt s.frames.clear
  Procedure.attempt s.fire
  let timeout := captureTimeout acquisition
  waitForFrames s acquisition.scans.toNat timeout (timeout / pollInterval)
  let frames ← Procedure.attempt (s.frames.getRange .unbounded .unbounded)
  printAll (captureLines acquisition.mode full frames)

/-- Configures the device, starts an acquisition and prints its frames. The session that comes back
remembers the new settings, also those sent before a failure. -/
def capture (s : Session) (settings : CaptureSettings) (full : Bool) :
    Job (Session × Except CommandError Unit) := do
  match s.acquisition, s.frame with
  | some current, some frame =>
    let acquisition := settings.acquisition current
    match ← Job.say (s.applyAcquisition acquisition) with
    | (s, .error e) => return (s, .error (.device e))
    | (s, .ok _) =>
      match ← Job.say (s.applyFormat (settings.format frame.format)) with
      | (s, .error e) => return (s, .error (.device e))
      | (s, .ok _) => return (s, ← (acquire s acquisition full).run)
  | _, _ => return (s, .error .notLoaded)

end Spectrometer.Command
