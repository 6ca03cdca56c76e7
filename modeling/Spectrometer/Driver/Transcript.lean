import Spectrometer.Driver.Dialogue

/-!
The journal of a driver in text: one line for each call, with the context it was made on, its
arguments and its outcome. Connecting and disconnecting show the context they leave behind as well.
-/

namespace Spectrometer

namespace Operation

def name : Operation → String
  | devicesCount => "devices_count"
  | devicesInfo => "devices_info"
  | connectBySerial => "connect_by_serial"
  | connectByIndex => "connect_by_index"
  | disconnect => "disconnect"
  | reset => "reset"
  | detach => "detach"
  | setAcquisition => "set_acquisition_parameters"
  | getAcquisition => "get_acquisition_parameters"
  | setFormat => "set_frame_format"
  | getFormat => "get_frame_format"
  | setExternalTrigger => "set_external_trigger"
  | trigger => "trigger"
  | getStatus => "get_status"
  | getFrame => "get_frame"
  | clearMemory => "clear_memory"
  | eraseFlash => "erase_flash"
  | readFlash => "read_flash"
  | writeFlash => "write_flash"
  | pixelsInFrame => "pixels_in_frame"

def ofName? (name : String) : Option Operation := all.find? (·.name == name)

end Operation

/-- The arguments of a request, all as numbers; of buffers the length. -/
def Request.arguments : Request → List Nat
  | setAcquisition p => [p.scans.toNat, p.blankScans.toNat, p.mode.raw.toNat, p.exposure.toNat]
  | setFormat f => [f.first.toNat, f.last.toNat, f.reduction.raw.toNat]
  | setExternalTrigger mode edge => [mode.raw.toNat, edge.bits.toNat]
  | getFrame index length => [index.toNat, length]
  | readFlash offset length => [offset.toNat, length]
  | writeFlash offset data => [offset.toNat, data.length]
  | reset | detach | getAcquisition | getFormat | trigger | getStatus | clearMemory | eraseFlash =>
    []

namespace Exchange

/-- The driver's verdict: a word for success, the number otherwise. -/
def verdict : Except ResultCode α → String
  | .ok _ => "ok"
  | .error code => toString code.toInt

/-- A call on a context, with its arguments and what came of it. -/
def lineOn (o : Operation) (ctx : Context) (arguments outcome : String) : String :=
  o.name ++ s!"@{ctx.raw}(" ++ arguments ++ ")=" ++ outcome

def line : Exchange → String
  | ⟨.devicesCount, n⟩ => Operation.devicesCount.name ++ s!"={n.toNat}"
  | ⟨.devicesInfo, serials⟩ => Operation.devicesInfo.name ++ "=" ++ ",".intercalate serials
  | ⟨.pixelsInFrame ctx, n⟩ =>
    Operation.pixelsInFrame.name ++ s!"@{ctx.raw}=" ++ n.elim "none" fun n => toString n.toNat
  | ⟨.connectBySerial serial ctx, reply⟩ =>
    lineOn .connectBySerial ctx (serial.getD "-") (verdict reply.2) ++ s!"->{reply.1.raw}"
  | ⟨.connectByIndex index ctx, reply⟩ =>
    lineOn .connectByIndex ctx (toString index.toNat) (verdict reply.2) ++ s!"->{reply.1.raw}"
  | ⟨.disconnect ctx, reply⟩ =>
    lineOn .disconnect ctx "" (verdict reply.2) ++ s!"->{reply.1.raw}"
  | ⟨.operate ctx request, reply⟩ =>
    lineOn request.operation ctx (",".intercalate (request.arguments.map toString)) (verdict reply)

/-- The context an exchange is about: the one left behind or, where that is none, the one given. -/
def subject (x : Exchange) : Context :=
  let after := x.call.contextAfter x.reply
  if after = .null then x.call.context?.getD .null else after

end Exchange

end Spectrometer
