import Spectrometer.Driver.Dialogue

/-!
A handle: one context of the driver, and whether connecting it was the last thing that succeeded.
A handle that is not connected fails on its own, without a call; what the driver refuses comes back
as a `DeviceError`.
-/

namespace Spectrometer

/-- The caller's side of a connection to one device. -/
structure Handle where
  ctx : Context
  connected : Bool
  deriving DecidableEq, Repr

namespace Handle

def new : Handle := ⟨.null, false⟩

/-- The handle after a connecting call, with the driver's verdict. -/
def afterConnect (reply : Context × Except ResultCode Unit) :
    Handle × Except DeviceError Unit :=
  (⟨reply.1, reply.2.isOk⟩, reply.2.mapError .ofCode)

/-- Connects to the device with that serial number, or to the first one. A handle that is already
connected is connected anew. -/
def connect (h : Handle) (serial : Option String) :
    Dialogue (Handle × Except DeviceError Unit) :=
  return afterConnect (← .call (.connectBySerial serial h.ctx))

def connectByIndex (h : Handle) (index : UInt32) : Dialogue (Handle × Except DeviceError Unit) :=
  return afterConnect (← .call (.connectByIndex index h.ctx))

/-- Releases the device. The handle is reset even if the `disconnect` call fails. -/
def disconnect (h : Handle) : Dialogue (Handle × Except DeviceError Unit) := do
  if h.connected then
    let (_, result) ← .call (.disconnect h.ctx)
    return (new, result.mapError .ofCode)
  else
    return (h, .error .notConnected)

/-- Gives the handle up: one that is still connected is released, with a warning if that fails. -/
def drop (h : Handle) : Dialogue Unit := do
  if h.connected then
    match (← h.disconnect).2 with
    | .ok () => return ()
    | .error e => .warn (.releaseFailed e)

/-- Asks the device for something, if there is one. -/
def request (h : Handle) (r : Request) : Attempt r.Value :=
  if h.connected then
    ExceptT.mk (do return (← .call (.operate h.ctx r)).mapError .ofCode)
  else
    throw .notConnected

def status (h : Handle) : Attempt StatusFlags :=
  return (← h.request .getStatus).flags

def framesInMemory (h : Handle) : Attempt UInt16 :=
  return (← h.request .getStatus).frames

/-- The raw frame size of the device, or the default one where the driver knows none. Asks whether
the handle is connected or not. -/
def frameSize (h : Handle) : Dialogue UInt16 :=
  return (← .call (.pixelsInFrame h.ctx)).getD Frame.defaultSize

/-- The raw frame at a place of the device's memory; samples the driver leaves out are zero. -/
def rawFrame (h : Handle) (index : UInt16) : Attempt (List UInt16) := do
  if h.connected then
    let size ← h.frameSize
    let samples ← h.request (.getFrame index size.toNat)
    return filled size.toNat 0 samples
  else
    throw .notConnected

def frame (h : Handle) (index : UInt16) : Attempt Frame :=
  return .ofRaw (← h.rawFrame index)

def describe (h : Handle) : String :=
  Text.record "DeviceHandle" [("ctx", Text.tagged "Context" [s!"{h.ctx.raw}"]),
    ("connected", if h.connected then "true" else "false")]

end Handle

end Spectrometer
