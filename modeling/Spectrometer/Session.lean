import Spectrometer.Memory
import Spectrometer.Trigger
import Spectrometer.Text.Quoted

/-!
A session: one device, and what is known about its settings. Settings are read when connecting and
remembered; a setter compares with what is remembered and calls the device only for a change. The
device takes all acquisition parameters in one call, and the frame format in another.
-/

namespace Spectrometer

/-- A spectrometer as its user sees it. -/
structure Session where
  /-- The serial number asked for; without one, the first device is meant. -/
  serial : Option String
  handle : Handle
  acquisition : Option Acquisition
  frame : Option FrameParameters
  memory : MemoryKind
  trigger : Trigger
  deriving DecidableEq, Repr

namespace Session

def new (serial : Option String) : Session :=
  ⟨serial, .new, none, none, .ring, .software⟩

/-- Addresses the frames as the remembered scan mode wants it. -/
def selectMemory (s : Session) : Session :=
  { s with memory := s.acquisition.elim .ring fun p => .ofMode p.mode }

def forget (s : Session) : Session :=
  { s with acquisition := none, frame := none, trigger := .software }.selectMemory

def loadSettings (h : Handle) : Attempt (Acquisition × FrameParameters) := do
  let acquisition ← h.request .getAcquisition
  let frame ← h.request .getFormat
  return (acquisition, frame)

/-- Connects and reads the settings. A device whose settings cannot be read is released again. -/
def connect (s : Session) : Dialogue (Session × Except DeviceError Unit) := do
  match ← s.handle.connect s.serial with
  | (handle, .error e) => return ({ s with handle }, .error e)
  | (handle, .ok ()) =>
    match ← (loadSettings handle).run with
    | .ok (acquisition, frame) =>
      return ({ s with handle, acquisition := some acquisition, frame := some frame }.selectMemory,
        .ok ())
    | .error e =>
      let (handle, released) ← handle.disconnect
      if let .error failure := released then
        Dialogue.warn (.releaseAfterConnectFailed failure)
      return ({ s with handle }.forget, .error e)

def reconnect (s : Session) : Dialogue (Session × Except DeviceError Unit) :=
  s.connect

def drop (s : Session) : Dialogue Unit := s.handle.drop

def establish (serial : Option String) : Attempt Session := do
  match ← (new serial).connect with
  | (s, .ok ()) => return s
  | (s, .error e) =>
    s.drop
    throw e

/-- Releases the device and forgets its settings, even if the `disconnect` call fails. -/
def disconnect (s : Session) : Dialogue (Session × Except DeviceError Unit) := do
  let (handle, result) ← s.handle.disconnect
  return ({ s with handle }.forget, result)

/-- Restores the factory settings. The device forgets its trigger setup, so the session falls back
to triggering by software. -/
def reset (s : Session) : Dialogue (Session × Except DeviceError Unit) := do
  match ← (s.handle.request .reset).run with
  | .error e => return (s, .error e)
  | .ok () =>
    return ({ s with
      acquisition := some .factory, frame := some .factory, trigger := .software }.selectMemory,
      .ok ())

def isConnected (s : Session) : Bool := s.handle.connected

def status (s : Session) : Attempt StatusFlags := s.handle.status

/-- The frames on the device, addressed as the scan mode wants it. -/
def frames (s : Session) : Memory := ⟨s.memory, s.handle⟩

def fire (s : Session) : Attempt Unit := s.trigger.fire s.handle

def setTrigger (s : Session) (trigger : Trigger) : Session := { s with trigger }

/-- Has the trigger input start the acquisitions. Where it already does, only changes are sent. -/
def configureExternalTrigger (s : Session) (mode : ExternalMode) (edge : SignalEdge) :
    Dialogue (Session × Except DeviceError Unit) := do
  match s.trigger with
  | .external t =>
    let (t, result) ← t.configure s.handle mode edge
    return ({ s with trigger := .external t }, result)
  | .software | .optical =>
    match ← (ExternalTrigger.new s.handle mode edge).run with
    | .ok t => return ({ s with trigger := .external t }, .ok ())
    | .error e => return (s, .error e)

def exposureMicros? (s : Session) : Option UInt32 := s.acquisition.map (·.exposureMicros)

/-- Sends acquisition parameters that differ from the remembered ones. The result says whether the
device was called; they are remembered once it has accepted them. -/
def applyAcquisition (s : Session) (p : Acquisition) :
    Dialogue (Session × Except DeviceError Bool) := do
  let p := p.withoutIdleBlanks
  match s.acquisition with
  | none => return (s, .error .notConnected)
  | some current =>
    if current = p then
      return (s, .ok false)
    else
      match ← (s.handle.request (.setAcquisition p)).run with
      | .error e => return (s, .error e)
      | .ok () =>
        let s := { s with acquisition := some p }
        return (if current.mode ≠ p.mode then s.selectMemory else s, .ok true)

/-- Sends a frame format that differs from the remembered one. The result says whether the device
was called; the format is remembered with the frame size that the device makes of it. -/
def applyFormat (s : Session) (f : FrameFormat) : Dialogue (Session × Except DeviceError Bool) := do
  match s.frame with
  | none => return (s, .error .notConnected)
  | some current =>
    if current.format = f then
      return (s, .ok false)
    else
      match ← (s.handle.request (.setFormat f)).run with
      | .error e => return (s, .error e)
      | .ok size => return ({ s with frame := some ⟨f, size⟩ }, .ok true)

/-- A change of the remembered acquisition parameters, sent to the device. -/
def updateAcquisition (s : Session) (change : Acquisition → Acquisition) :
    Dialogue (Session × Except DeviceError Unit) := do
  match s.acquisition with
  | none => return (s, .error .notConnected)
  | some current =>
    let (s, result) ← s.applyAcquisition (change current)
    return (s, result.map fun _ => ())

/-- A change of the remembered frame format, sent to the device. -/
def updateFormat (s : Session) (change : FrameFormat → FrameFormat) :
    Dialogue (Session × Except DeviceError Unit) := do
  match s.frame with
  | none => return (s, .error .notConnected)
  | some current =>
    let (s, result) ← s.applyFormat (change current.format)
    return (s, result.map fun _ => ())

def setScans (s : Session) (scans : UInt16) : Dialogue (Session × Except DeviceError Unit) :=
  s.updateAcquisition fun p => { p with scans }

def setBlankScans (s : Session) (blankScans : UInt16) :
    Dialogue (Session × Except DeviceError Unit) :=
  s.updateAcquisition fun p => { p with blankScans }

/-- Sets the scan mode; the remembered mode is left as it is, blank scans included. -/
def setMode (s : Session) (mode : ScanMode) : Dialogue (Session × Except DeviceError Unit) := do
  match s.acquisition with
  | none => return (s, .error .notConnected)
  | some current =>
    if current.mode = mode then return (s, .ok ())
    else s.updateAcquisition fun p => { p with mode }

/-- Sets the exposure, rounded to the device's unit. -/
def setExposure (s : Session) (micros : UInt32) : Dialogue (Session × Except DeviceError Unit) :=
  s.updateAcquisition fun p => { p with exposure := exposureUnits micros }

def setRange (s : Session) (first last : UInt16) : Dialogue (Session × Except DeviceError Unit) :=
  s.updateFormat fun f => { f with first, last }

def setReduction (s : Session) (reduction : ReductionMode) :
    Dialogue (Session × Except DeviceError Unit) :=
  s.updateFormat fun f => { f with reduction }

def message (s : Session) : String :=
  "Spectrometer [" ++ s.serial.getD "ASQ_SPC???????" ++ "]: " ++
    if s.isConnected then "connected" else "disconnected"

def describe (s : Session) : String :=
  Text.record "Spectrometer" [("serial", Text.optional Text.quoted s.serial),
    ("handle", s.handle.describe), ("acquisition", Text.optional (·.describe) s.acquisition),
    ("frame", Text.optional (·.describe) s.frame), ("memory", s.memory.describe),
    ("trigger", s.trigger.describe)]

end Session

end Spectrometer
