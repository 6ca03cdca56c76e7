import Spectrometer.Text.Hex
import Spectrometer.Text.Record

/-!
What can go wrong with a device. The driver reports numbers; `DeviceError.ofCode` is the one place
where they are given a meaning, and no two numbers are given the same.
-/

namespace Spectrometer

/-- The number with which the driver refuses a call. -/
abbrev ResultCode := Int32

/-- The device cannot be addressed or reached. -/
inductive ConnectionError
  | wrongId
  | notFound
  | failed
  | wrongSerial
  deriving DecidableEq, Repr

namespace ConnectionError

def message : ConnectionError → String
  | wrongId => "wrong identifier"
  | notFound => "device not found"
  | failed => "connection failed"
  | wrongSerial => "wrong serial number"

def describe : ConnectionError → String
  | wrongId => "WrongId"
  | notFound => "NotFound"
  | failed => "Failed"
  | wrongSerial => "WrongSerial"

end ConnectionError

/-- A connected device refuses an operation or answers out of turn. -/
inductive OperationError
  | deviceNotInitialized
  | writeFailed
  | readFailed
  | wrongAnswer
  | frameRemainingPackets
  | framePacketCount
  | inputNotInitialized
  | flashRemainingPackets
  | noDeviceContext
  /-- The readiness word of the averaged frame is none of the known ones. -/
  | invalidFrameStatus (raw : UInt16)
  /-- The driver's number has no meaning. -/
  | unexpected (code : ResultCode)
  deriving DecidableEq, Repr

namespace OperationError

def message : OperationError → String
  | deviceNotInitialized => "device not initialized"
  | writeFailed => "writing process failed"
  | readFailed => "reading process failed"
  | wrongAnswer => "wrong answer"
  | frameRemainingPackets => "remaining packets in frame mismatch"
  | framePacketCount => "wrong number of packets in frame"
  | inputNotInitialized => "input parameter not initialized"
  | flashRemainingPackets => "remaining packets in flash mismatch"
  | noDeviceContext => "no device context"
  | invalidFrameStatus raw => s!"invalid frame status {raw.toNat}"
  | unexpected code => s!"unexpected spectrometer error code: '{code.toInt}'"

def describe : OperationError → String
  | deviceNotInitialized => "DeviceNotInitialized"
  | writeFailed => "WriteFailed"
  | readFailed => "ReadFailed"
  | wrongAnswer => "WrongAnswer"
  | frameRemainingPackets => "FrameRemainingPackets"
  | framePacketCount => "FramePacketCount"
  | inputNotInitialized => "InputNotInitialized"
  | flashRemainingPackets => "FlashRemainingPackets"
  | noDeviceContext => "NoDeviceContext"
  | invalidFrameStatus raw => Text.tagged "InvalidFrameStatus" [s!"{raw.toNat}"]
  | unexpected code => Text.tagged "Unexpected" [s!"{code.toInt}"]

end OperationError

/-- The caller asked for what cannot be asked; the driver was not called. -/
inductive Precondition
  | notConnected
  /-- The offset lies behind the last byte of the flash. -/
  | flashOffset (offset : UInt32)
  deriving DecidableEq, Repr

namespace Precondition

def message : Precondition → String
  | notConnected => "device not connected"
  | flashOffset offset => "maximum flash offset exceeded: 0x" ++ Text.Hex.render 1 offset.toNat

def describe : Precondition → String
  | notConnected => "NotConnected"
  | flashOffset offset => Text.tagged "FlashOffset" [s!"{offset.toNat}"]

end Precondition

inductive DeviceError
  | connection (e : ConnectionError)
  | operation (e : OperationError)
  | precondition (e : Precondition)
  /-- Frame `index` was asked for while the memory held `length` frames. -/
  | indexOutOfRange (index length : Nat)
  /-- The driver delivered `actual` flash bytes where `expected` were asked for. -/
  | incompleteRead (expected actual : Nat)
  /-- The device has the capability, this library does not use it. -/
  | notImplemented (capability : String)
  deriving DecidableEq, Repr

namespace DeviceError

/-- The error of an operation on a device that is not connected. -/
abbrev notConnected : DeviceError := precondition .notConnected

/-- The meaning of a driver's number. Zero has none: it is the number of success. -/
def ofCode (code : ResultCode) : DeviceError :=
  match code.toInt with
  | 500 => connection .wrongId
  | 501 => connection .notFound
  | 502 => connection .failed
  | 503 => operation .deviceNotInitialized
  | 504 => operation .writeFailed
  | 505 => operation .readFailed
  | 506 => operation .wrongAnswer
  | 507 => operation .frameRemainingPackets
  | 508 => operation .framePacketCount
  | 509 => operation .inputNotInitialized
  | 510 => operation .flashRemainingPackets
  | 516 => connection .wrongSerial
  | 585 => operation .noDeviceContext
  | _ => operation (.unexpected code)

/-- Success for zero, the meaning of the number otherwise. -/
def check (code : ResultCode) : Except DeviceError Unit :=
  if code = 0 then .ok () else .error (ofCode code)

def isConnection : DeviceError → Bool
  | connection _ => true
  | _ => false

def message : DeviceError → String
  | connection e => "connection error: " ++ e.message
  | operation e => "operation error: " ++ e.message
  | precondition e => "precondition violated: " ++ e.message
  | indexOutOfRange index length =>
    s!"frame index {index} out of range ({length} frames in memory)"
  | incompleteRead expected actual =>
    s!"incomplete flash read: expected {expected} bytes, got {actual}"
  | notImplemented capability => s!"{capability} is not implemented"

/-- The error as a value, with the names of its parts. -/
def describe : DeviceError → String
  | connection e => Text.tagged "Connection" [e.describe]
  | operation e => Text.tagged "Operation" [e.describe]
  | precondition e => Text.tagged "Precondition" [e.describe]
  | indexOutOfRange index length =>
    Text.record "IndexOutOfRange" [("index", s!"{index}"), ("len", s!"{length}")]
  | incompleteRead expected actual =>
    Text.record "IncompleteRead" [("expected", s!"{expected}"), ("actual", s!"{actual}")]
  | notImplemented capability => Text.tagged "NotImplemented" ["\"" ++ capability ++ "\""]

end DeviceError

end Spectrometer
