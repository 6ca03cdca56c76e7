import Spectrometer.Driver.Call
import Spectrometer.Flash

/-!
One emulated device. Acquisitions are over at once; every pixel shows the number of its element, so
that a frame tells which format it was made with. Programming the flash can only clear bits.
-/

namespace Spectrometer

/-! The result codes with which the emulator refuses calls. -/
namespace ResultCode

def notFound : ResultCode := 501
def connectFailed : ResultCode := 502
def deviceNotInitialized : ResultCode := 503
def writeFailed : ResultCode := 504
def readFailed : ResultCode := 505
def wrongAnswer : ResultCode := 506
def flashRemainingPackets : ResultCode := 510

end ResultCode

structure Device where
  serial : String
  acquisition : Acquisition
  format : FrameParameters
  externalTrigger : ExternalMode × SignalEdge
  flash : List UInt8
  detached : Bool
  /-- The raw frames in memory, oldest first. -/
  frames : Array (List UInt16)
  averaged : Option (List UInt16)
  /-- The readiness of the average: 0, 1 or 2. -/
  averagedStatus : UInt16
  memoryFull : Bool
  /-- Frames that the memory can hold. -/
  memoryFrames : UInt16
  /-- A word to report in place of the number of frames. -/
  forcedFrames : Option UInt16
  captures : UInt32
  deriving DecidableEq, Repr

namespace Device

def new (serial : String) (memoryFrames : UInt16) : Device where
  serial
  acquisition := .factory
  format := .factory
  externalTrigger := (.disabled, .none)
  flash := List.replicate Flash.size Flash.erasedByte
  detached := false
  frames := #[]
  averaged := none
  averagedStatus := 0
  memoryFull := false
  memoryFrames
  forcedFrames := none
  captures := 0

def isAveraging (d : Device) : Bool := d.acquisition.mode == .frameAveraging

def clearMemory (d : Device) : Device :=
  { d with frames := #[], averaged := none, averagedStatus := 0, memoryFull := false }

/-- Restores the factory settings and clears the memory; the flash stays. -/
def reset (d : Device) : Device :=
  { d with
    acquisition := .factory, format := .factory,
    externalTrigger := (.disabled, .none) }.clearMemory

/-- The raw frame size of a format whose range is not empty. -/
def frameSize (f : FrameFormat) : UInt16 :=
  UInt16.ofNat (Frame.headerLength + Frame.trailerLength) +
    (f.last - f.first) / f.reduction.factor + 1

/-- Takes a format whose range lies on the sensor, and clears the memory. -/
def setFormat (d : Device) (f : FrameFormat) : Except ResultCode (UInt16 × Device) :=
  if f.last < f.first ∨ maxElement < f.last then .error .wrongAnswer
  else .ok (frameSize f, { d with format := ⟨f, frameSize f⟩ }.clearMemory)

/-- The raw frame that the sensor shows now: the trigger count in front, and for every pixel the
number of its first element plus one. -/
def synthesize (d : Device) : List UInt16 :=
  let f := d.format.format
  let pixels := d.format.size.toNat - (Frame.headerLength + Frame.trailerLength)
  d.captures.toUInt16 :: List.replicate (Frame.headerLength - 1) 0 ++
    (List.range pixels).map (fun k => f.first + UInt16.ofNat k * f.reduction.factor + 1) ++
    List.replicate Frame.trailerLength 0

/-- Acquires frames: one average, or as many frames as were asked for and still fit. -/
def trigger (d : Device) : Device :=
  let d := { d with captures := d.captures + 1 }
  if d.isAveraging then
    { d with averaged := some d.synthesize, averagedStatus := min (d.averagedStatus + 1) 2 }
  else
    let room := d.memoryFrames.toNat - d.frames.size
    { d with
      frames := d.frames ++ Array.replicate (min d.acquisition.scans.toNat room) d.synthesize
      memoryFull := d.memoryFull || room < d.acquisition.scans.toNat }

def status (d : Device) : DeviceStatus where
  flags := ⟨false, d.memoryFull⟩
  frames := d.forcedFrames.getD <|
    if d.isAveraging then d.averagedStatus else UInt16.ofNat d.frames.size

/-- A raw frame. Averaging, there is always one, and fetching it makes it count as read. -/
def getFrame (d : Device) (index : UInt16) : Except ResultCode (List UInt16 × Device) :=
  if d.isAveraging then
    .ok (d.averaged.getD d.synthesize, { d with averagedStatus := 0 })
  else
    let frame :=
      if index = Frame.latestIndex then d.frames.back? else d.frames[index.toNat]?
    match frame with
    | some frame => .ok (frame, d)
    | none => .error .readFailed

def eraseFlash (d : Device) : Device :=
  { d with flash := List.replicate Flash.size Flash.erasedByte }

/-- The flash bytes from `offset` on, at most `limit` of the `length` ones asked for. -/
def readFlash (d : Device) (limit : Option Nat) (offset : UInt32) (length : Nat) :
    Except ResultCode FlashDelivery :=
  if offset.toNat + length ≤ Flash.size then
    let count := limit.elim length (min length)
    .ok ⟨(d.flash.drop offset.toNat).take count, count⟩
  else .error .flashRemainingPackets

/-- Bytes programmed over older ones: each keeps only the bits that both have. -/
def program : List UInt8 → List UInt8 → List UInt8
  | old :: olds, new :: news => (old &&& new) :: program olds news
  | olds, _ => olds

def writeFlash (d : Device) (offset : UInt32) (data : List UInt8) :
    Except ResultCode (Nat × Device) :=
  if offset.toNat + data.length ≤ Flash.size then
    let (before, after) := d.flash.splitAt offset.toNat
    .ok (data.length, { d with flash := before ++ program after data })
  else .error .writeFailed

/-- What the device does when it is asked for something. A refused request changes nothing. -/
def perform (d : Device) (limit : Option Nat) : (r : Request) → Except ResultCode (r.Value × Device)
  | .reset => .ok ((), d.reset)
  | .detach => .ok ((), { d with detached := true })
  | .setAcquisition p => .ok ((), { d with acquisition := p })
  | .getAcquisition => .ok (d.acquisition, d)
  | .setFormat f => d.setFormat f
  | .getFormat => .ok (d.format, d)
  | .setExternalTrigger mode edge => .ok ((), { d with externalTrigger := (mode, edge) })
  | .trigger => .ok ((), d.trigger)
  | .getStatus => .ok (d.status, d)
  | .getFrame index _ => d.getFrame index
  | .clearMemory => .ok ((), d.clearMemory)
  | .eraseFlash => .ok ((), d.eraseFlash)
  | .readFlash offset length => (d.readFlash limit offset length).map fun delivery => (delivery, d)
  | .writeFlash offset data => d.writeFlash offset data

end Device

end Spectrometer
