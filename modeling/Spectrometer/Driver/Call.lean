import Spectrometer.Error
import Spectrometer.Parameters

/-!
The driver boundary. Everything a program and a spectrometer say to each other is a `Call` and its
`Reply`. Most calls are a `Request` to one device, addressed by the context that connecting left
behind; the others enumerate, connect and disconnect.
-/

namespace Spectrometer

/-- The driver's word for one connection. -/
structure Context where
  raw : Nat
  deriving DecidableEq, Repr, Inhabited

def Context.null : Context := ⟨0⟩

/-- The status word and what the device says about its memory: the number of frames in it, or in
frame averaging the readiness of the averaged frame. -/
structure DeviceStatus where
  flags : StatusFlags
  frames : UInt16
  deriving DecidableEq, Repr, Inhabited

inductive Request
  | reset
  | detach
  | setAcquisition (p : Acquisition)
  | getAcquisition
  | setFormat (f : FrameFormat)
  | getFormat
  | setExternalTrigger (mode : ExternalMode) (edge : SignalEdge)
  | trigger
  | getStatus
  /-- Frame `index` for a buffer of `length` samples. -/
  | getFrame (index : UInt16) (length : Nat)
  | clearMemory
  | eraseFlash
  /-- Flash bytes from `offset` on for a buffer of `length` bytes. -/
  | readFlash (offset : UInt32) (length : Nat)
  | writeFlash (offset : UInt32) (data : List UInt8)
  deriving DecidableEq, Repr

/-- Bytes that a driver put at the front of a buffer, and how many it says they are. -/
structure FlashDelivery where
  bytes : List UInt8
  count : Nat
  deriving DecidableEq, Repr

/-- What a request that succeeds hands back. -/
abbrev Request.Value : Request → Type
  | .getAcquisition => Acquisition
  | .setFormat _ => UInt16
  | .getFormat => FrameParameters
  | .getStatus => DeviceStatus
  | .getFrame .. => List UInt16
  | .readFlash .. => FlashDelivery
  | .writeFlash .. => Nat
  | _ => Unit

/-- Everything that can be asked of a driver. -/
inductive Call
  | devicesCount
  | devicesInfo
  /-- Connects the device with that serial number, or the first one. -/
  | connectBySerial (serial : Option String) (ctx : Context)
  | connectByIndex (index : UInt32) (ctx : Context)
  | disconnect (ctx : Context)
  /-- The raw frame size of the device behind the context, where there is one. -/
  | pixelsInFrame (ctx : Context)
  | operate (ctx : Context) (request : Request)
  deriving DecidableEq, Repr

/-- A driver's answer to a call. Connecting and disconnecting may replace the caller's context,
whether they succeed or not. -/
abbrev Call.Reply : Call → Type
  | .devicesCount => UInt32
  | .devicesInfo => List String
  | .connectBySerial .. | .connectByIndex .. | .disconnect _ => Context × Except ResultCode Unit
  | .pixelsInFrame _ => Option UInt16
  | .operate _ r => Except ResultCode r.Value

/-- A buffer of `length` places that all hold `blank`, after `data` was put at its front as far as
both reach. -/
def filled (length : Nat) (blank : α) (data : List α) : List α :=
  if data.length = length then data
  else data.take length ++ List.replicate (length - data.length) blank

@[simp] theorem length_filled (length : Nat) (blank : α) (data : List α) :
    (filled length blank data).length = length := by
  rw [filled]
  split
  · assumption
  · simp only [List.length_append, List.length_take, List.length_replicate]
    omega

inductive Operation
  | devicesCount
  | devicesInfo
  | connectBySerial
  | connectByIndex
  | disconnect
  | reset
  | detach
  | setAcquisition
  | getAcquisition
  | setFormat
  | getFormat
  | setExternalTrigger
  | trigger
  | getStatus
  | getFrame
  | clearMemory
  | eraseFlash
  | readFlash
  | writeFlash
  | pixelsInFrame
  deriving DecidableEq, Repr

namespace Operation

/-- Every kind of call, in the order of the declaration. -/
def all : List Operation := [devicesCount, devicesInfo, connectBySerial, connectByIndex, disconnect,
  reset, detach, setAcquisition, getAcquisition, setFormat, getFormat, setExternalTrigger, trigger,
  getStatus, getFrame, clearMemory, eraseFlash, readFlash, writeFlash, pixelsInFrame]

/-- The place of an operation among all twenty. -/
def index (o : Operation) : Fin 20 :=
  ⟨o.ctorIdx, by cases o <;> decide⟩

end Operation

def Request.operation : Request → Operation
  | reset => .reset
  | detach => .detach
  | setAcquisition _ => .setAcquisition
  | getAcquisition => .getAcquisition
  | setFormat _ => .setFormat
  | getFormat => .getFormat
  | setExternalTrigger .. => .setExternalTrigger
  | trigger => .trigger
  | getStatus => .getStatus
  | getFrame .. => .getFrame
  | clearMemory => .clearMemory
  | eraseFlash => .eraseFlash
  | readFlash .. => .readFlash
  | writeFlash .. => .writeFlash

namespace Call

def operation : Call → Operation
  | devicesCount => .devicesCount
  | devicesInfo => .devicesInfo
  | connectBySerial .. => .connectBySerial
  | connectByIndex .. => .connectByIndex
  | disconnect _ => .disconnect
  | pixelsInFrame _ => .pixelsInFrame
  | operate _ r => r.operation

/-- The context a call carries, none for enumeration. -/
def context? : Call → Option Context
  | devicesCount | devicesInfo => none
  | connectBySerial _ ctx | connectByIndex _ ctx | disconnect ctx | pixelsInFrame ctx
  | operate ctx _ => some ctx

/-- The context that a call leaves with its caller, the null context for enumeration. -/
def contextAfter : (c : Call) → c.Reply → Context
  | .devicesCount, _ | .devicesInfo, _ => .null
  | .connectBySerial .., reply | .connectByIndex .., reply | .disconnect _, reply => reply.1
  | .pixelsInFrame ctx, _ | .operate ctx _, _ => ctx

end Call

end Spectrometer
