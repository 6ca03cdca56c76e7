import Spectrometer.Driver.Dialogue
import Spectrometer.Emulator.Device
import Spectrometer.Text.Column

/-!
A driver for emulated devices. It keeps a table of the contexts it has given out, counts the calls
of every kind, and can be told to fail the next call of a kind.
-/

namespace Spectrometer

structure EmulatorConfig where
  /-- Serial numbers, in the order of the enumeration. -/
  serials : List String
  /-- Frames that each device's memory can hold. -/
  memoryFrames : UInt16
  /-- The most bytes that one flash read delivers. -/
  readLimit : Option Nat
  deriving DecidableEq, Repr

namespace EmulatorConfig

/-- The serial number of the `n`-th emulated device. -/
def serialOf (n : Nat) : String := "ASQ_SPC" ++ Text.padLeft '0' 7 (toString n)

def withDevices (count : Nat) : EmulatorConfig :=
  ⟨(List.range' 1 count).map serialOf, 137, none⟩

/-- One device with room for as many full frames as a real one. -/
def default : EmulatorConfig := withDevices 1

end EmulatorConfig

abbrev OperationTable (α : Type) := Vector α 20

structure Emulator where
  readLimit : Option Nat
  devices : List Device
  /-- For each context in use the number of its device. -/
  contexts : List (Nat × Nat)
  nextContext : Nat
  calls : OperationTable Nat
  /-- How the next call of each kind shall fail. -/
  faults : OperationTable (Option ResultCode)

namespace Emulator

/-- All devices attached, no context given out. -/
def new (config : EmulatorConfig) : Emulator where
  readLimit := config.readLimit
  devices := config.serials.map fun serial => .new serial config.memoryFrames
  contexts := []
  nextContext := 1
  calls := .replicate 20 0
  faults := .replicate 20 none

/-- How often a kind of call was made since counting began. -/
def callCount (e : Emulator) (o : Operation) : Nat := e.calls[o.index]

def resetCalls (e : Emulator) : Emulator := { e with calls := .replicate 20 0 }

def failNext (e : Emulator) (o : Operation) (code : ResultCode) : Emulator :=
  { e with faults := e.faults.set o.index (some code) }

def modifyDevice (e : Emulator) (i : Nat) (f : Device → Device) : Emulator :=
  { e with devices := e.devices.modify i f }

/-- Has a device report a word in place of its number of frames, or the number again. -/
def forceFrames (e : Emulator) (i : Nat) (frames : Option UInt16) : Emulator :=
  e.modifyDevice i fun d => { d with forcedFrames := frames }

def reattach (e : Emulator) (i : Nat) : Emulator :=
  e.modifyDevice i fun d => { d with detached := false }

/-- Counts a call and takes the fault that waits for it. -/
def enter (e : Emulator) (o : Operation) : Option ResultCode × Emulator :=
  (e.faults[o.index], { e with
    calls := e.calls.set o.index (e.calls[o.index] + 1)
    faults := e.faults.set o.index none })

/-- The numbers of the devices that are not detached, in the order of the enumeration. -/
def attached (e : Emulator) : List Nat :=
  (List.range e.devices.length).filter fun i => e.devices[i]?.any (!·.detached)

def serials (e : Emulator) : List String :=
  (e.devices.filter (!·.detached)).map (·.serial)

/-- The first attached device with that serial number, or the first at all. -/
def findBySerial? (e : Emulator) (serial : Option String) : Option Nat :=
  e.devices.findIdx? fun d => !d.detached && serial.all (d.serial == ·)

def deviceOf? (e : Emulator) (ctx : Context) : Option Nat :=
  if ctx = .null then none else e.contexts.lookup ctx.raw

def forget (e : Emulator) (ctx : Context) : Emulator :=
  { e with contexts := e.contexts.filter (·.1 != ctx.raw) }

/-- Gives out a new context for a device, in exchange for the caller's old one. -/
def attach (e : Emulator) (i : Nat) (old : Context) : Context × Emulator :=
  let e := e.forget old
  (⟨e.nextContext⟩,
    { e with contexts := (e.nextContext, i) :: e.contexts, nextContext := e.nextContext + 1 })

/-- Connects the device that was found, or refuses with `code`. -/
def connectTo (e : Emulator) (found : Option Nat) (code : ResultCode) (ctx : Context) :
    (Context × Except ResultCode Unit) × Emulator :=
  match found with
  | none => ((ctx, .error code), e)
  | some i => let (ctx, e) := e.attach i ctx; ((ctx, .ok ()), e)

def operate (e : Emulator) (ctx : Context) (r : Request) : Except ResultCode r.Value × Emulator :=
  match e.deviceOf? ctx with
  | none => (.error .deviceNotInitialized, e)
  | some i =>
    match e.devices[i]? with
    | none => (.error .deviceNotInitialized, e)
    | some d =>
      if d.detached then (.error .writeFailed, e)
      else
        match d.perform e.readLimit r with
        | .error code => (.error code, e)
        | .ok (value, d) => (.ok value, { e with devices := e.devices.set i d })

/-- The emulator as a driver. Reading the frame size off a context is no call to a device: it is
neither counted nor does it fail. Enumeration takes a fault away, but does not fail. -/
def link : Link Emulator
  | .devicesCount, e =>
    let (_, e) := e.enter .devicesCount
    (UInt32.ofNat e.serials.length, e)
  | .devicesInfo, e =>
    let (_, e) := e.enter .devicesInfo
    (e.serials, e)
  | .connectBySerial serial ctx, e =>
    match e.enter .connectBySerial with
    | (some code, e) => ((ctx, .error code), e)
    | (none, e) => e.connectTo (e.findBySerial? serial) .connectFailed ctx
  | .connectByIndex index ctx, e =>
    match e.enter .connectByIndex with
    | (some code, e) => ((ctx, .error code), e)
    | (none, e) => e.connectTo e.attached[index.toNat]? .notFound ctx
  | .disconnect ctx, e =>
    match e.enter .disconnect with
    | (some code, e) => ((ctx, .error code), e)
    | (none, e) => ((.null, .ok ()), e.forget ctx)
  | .pixelsInFrame ctx, e =>
    ((e.contexts.lookup ctx.raw).bind (e.devices[·]?) |>.map (·.format.size), e)
  | .operate ctx r, e =>
    match e.enter r.operation with
    | (some code, e) => (.error code, e)
    | (none, e) => e.operate ctx r

end Emulator

end Spectrometer
