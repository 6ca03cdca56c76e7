import Spectrometer.Command.Listing

/-!
Reading several devices so that their last frames are fetched at the same time. Every device is set
to average frames, each with a longer exposure than the one before it, so that the devices come to
their last frames at different times and have to wait for each other.
-/

namespace Spectrometer.Command

/-- Microseconds of exposure that each device has more than the one before it. -/
def exposureStep : UInt32 := 10000

/-- Makes a change of a session part of an attempt that keeps the changed session; a failure gives
the session up. -/
def orDrop (step : Dialogue (Session × Except DeviceError Unit)) : Attempt Session := do
  match ← step with
  | (s, .ok ()) => return s
  | (s, .error e) =>
    s.drop
    throw e

/-- A session with the device of that number, averaging single scans. -/
def openAveraging (serials : List String) (index : Nat) : Attempt Session := do
  let s ← Session.establish serials[index]?
  let s ← orDrop (s.setScans 1)
  let s ← orDrop (s.setBlankScans 0)
  let s ← orDrop (s.setMode .frameAveraging)
  orDrop (s.setExposure (exposureStep * (UInt32.ofNat index + 1)))

def eventLines (device : Nat) : FrameEvent → List String
  | .memoryFull => [s!"Device {device}: memory full, restarted acquisition"]
  | .fetched number latency frame last =>
    [s!"Device {device}: frame {number} fetched in " ++ Text.duration latency] ++
      if last then
        [s!"Device {device}: final frame ({frame.samples.length} values): " ++
          sampleList (frame.samples.take 16) ++ " ..."]
      else []

/-- How long the last fetch of a device took, if it came to it. -/
def fetchLines (w : WorkerReport) : List String :=
  match w.start, w.stop with
  | some start, some stop =>
    [s!"Device {w.device}: final fetch took " ++ Text.duration (stop - start)]
  | _, _ => []

def reportLines (r : SimultaneousReport) : List String :=
  r.workers.flatMap fetchLines ++
    [match r.span with
      | some total => "Simultaneous fetch time on all devices: " ++ Text.duration total
      | none => "No final frames were read"]

/-- Steps after which a reading is given up. -/
def readingFuel : Nat := 1000000000000000000000000000000

/-- Reads `frames` frames from each of the first `devices` devices, or of all, where the system has
room for records of at most `room` bytes. Time is counted in steps of the reading, from the time at
which it starts. -/
def simultaneous (room : Nat) (devices : Option Nat) (frames : Nat) : Procedure Unit := do
  let serials ← Procedure.say (.call .devicesInfo)
  Job.print s!"Number of devices: {serials.length}"
  printAll (serials.zipIdx.map fun (serial, index) =>
    "Device serial: " ++ serial ++ s!" (index: {index})")
  let devices := devices.getD serials.length
  if serials.length < devices then
    throw (.tooFewDevices devices serials.length)
  else if devices = 0 then
    Job.print "No devices to read from"
  else
    let now ← Job.readClock
    let (result, events) ← Procedure.say <|
      readFrames ⟨openAveraging serials, frames, room⟩ devices (now + ·) readingFuel
    printAll (events.flatMap fun (device, event) => eventLines device event)
    match result with
    | none => throw .unfinished
    | some (.error e) => throw (.ofReading e)
    | some (.ok report) => printAll (reportLines report)

end Spectrometer.Command
