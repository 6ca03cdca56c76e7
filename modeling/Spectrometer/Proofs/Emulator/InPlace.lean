import Spectrometer.Proofs.Emulator.Faults
import Spectrometer.Proofs.Emulator.WellFormed

/-!
Calls carried out in place. A driver works on a device, its table of contexts and the caller's
buffers statement by statement; where a statement refuses the call, the effects of those before it
stay. Carried out so, every call has the result and the effect of `link`.
-/

namespace Spectrometer

/-- The buffers of a caller, for the samples of a frame and for bytes of the flash. -/
structure Buffers where
  samples : List UInt16
  bytes : List UInt8
  deriving DecidableEq

/-- A buffer after data were put at its front as far as both reach. -/
def overlaid {α : Type} (buffer data : List α) : List α :=
  data.take buffer.length ++ buffer.drop data.length

/-- A buffer that held one value all over, as those of a handle do, is filled up in this way. -/
theorem overlaid_replicate {α : Type} (length : Nat) (blank : α) (data : List α) :
    overlaid (List.replicate length blank) data = filled length blank data := by
  unfold overlaid filled
  rw [List.length_replicate, List.drop_replicate]
  split
  · rename_i hall
    rw [hall, Nat.sub_self, List.replicate_zero, List.append_nil, ← hall, List.take_length]
  · rfl

/-- The buffers after a request that was carried out, with the frame or the bytes put there. -/
def Request.received : (r : Request) → r.Value → Buffers → Buffers
  | .getFrame .., raw, b => { b with samples := overlaid b.samples raw }
  | .readFlash .., delivery, b => { b with bytes := overlaid b.bytes delivery.bytes }
  | _, _, b => b

namespace Call

/-- What a call hands back beside the caller's context. -/
abbrev Value : Call → Type
  | devicesCount => UInt32
  | devicesInfo => List String
  | connectBySerial .. | connectByIndex .. | disconnect _ => Unit
  | pixelsInFrame _ => Option UInt16
  | operate _ r => r.Value

/-- What came of a call. Enumeration and reading the frame size are never refused. -/
def outcome : (c : Call) → c.Reply → Except ResultCode c.Value
  | devicesCount, n => .ok n
  | devicesInfo, serials => .ok serials
  | connectBySerial .., reply | connectByIndex .., reply | disconnect _, reply => reply.2
  | pixelsInFrame _, n => .ok n
  | operate .., reply => reply

/-- The caller's buffers after a call. -/
def buffersAfter : (c : Call) → c.Reply → Buffers → Buffers
  | operate _ r, .ok value, b => r.received value b
  | _, _, b => b

theorem buffersAfter_of_refused {c : Call} {reply : c.Reply} {code : ResultCode}
    (hrefused : c.outcome reply = .error code) (b : Buffers) : c.buffersAfter reply b = b := by
  cases c with
  | operate ctx r =>
    cases reply with
    | ok value => cases hrefused
    | error _ => rfl
  | _ => rfl

end Call

/-- Steps on a state, each of which may refuse to go on. -/
abbrev Work (σ α : Type) := ExceptT ResultCode (StateM σ) α

/-- The result of the work and the state that it leaves, refused or not. -/
def Work.on {σ α : Type} (work : Work σ α) (s : σ) : Except ResultCode α × σ := work.run.run s

theorem Work.get_bind_on {σ α : Type} (next : σ → Work σ α) (s : σ) :
    (get >>= next).on s = (next s).on s := rfl

namespace Device

/-- A device at work, with the buffers that its caller has handed over. -/
structure AtWork where
  device : Device
  buffers : Buffers

namespace AtWork

def change (f : Device → Device) : Work AtWork Unit :=
  modify fun w => { w with device := f w.device }

def setFormat (f : FrameFormat) : Work AtWork UInt16 := do
  if f.last < f.first ∨ maxElement < f.last then
    throw .wrongAnswer
  change fun d => { d with format := ⟨f, frameSize f⟩ }
  change clearMemory
  return frameSize f

def getFrame (index : UInt16) : Work AtWork (List UInt16) := do
  let d := (← get).device
  let raw ←
    if d.isAveraging then do
      change fun d => { d with averagedStatus := 0 }
      let d := (← get).device
      pure (d.averaged.getD d.synthesize)
    else
      match if index = Frame.latestIndex then d.frames.back? else d.frames[index.toNat]? with
      | some raw => pure raw
      | none => throw .readFailed
  modify fun w => { w with buffers.samples := overlaid w.buffers.samples raw }
  return raw

def readFlash (limit : Option Nat) (offset : UInt32) (length : Nat) :
    Work AtWork FlashDelivery := do
  let d := (← get).device
  if d.flash.length < offset.toNat + length then
    throw .flashRemainingPackets
  let count := limit.elim length (min length)
  let bytes := (d.flash.drop offset.toNat).take count
  modify fun w => { w with buffers.bytes := overlaid w.buffers.bytes bytes }
  return ⟨bytes, count⟩

def writeFlash (offset : UInt32) (data : List UInt8) : Work AtWork Nat := do
  let d := (← get).device
  if d.flash.length < offset.toNat + data.length then
    throw .writeFailed
  change fun d => { d with
    flash := d.flash.take offset.toNat ++ program (d.flash.drop offset.toNat) data }
  return data.length

/-- A request step by step. Those that change fields only cannot be refused. -/
def perform (limit : Option Nat) : (r : Request) → Work AtWork r.Value
  | .reset => change Device.reset
  | .detach => change fun d => { d with detached := true }
  | .setAcquisition p => change fun d => { d with acquisition := p }
  | .getAcquisition => return (← get).device.acquisition
  | .setFormat f => setFormat f
  | .getFormat => return (← get).device.format
  | .setExternalTrigger mode edge => change fun d => { d with externalTrigger := (mode, edge) }
  | .trigger => change Device.trigger
  | .getStatus => return (← get).device.status
  | .getFrame index _ => getFrame index
  | .clearMemory => change clearMemory
  | .eraseFlash => change Device.eraseFlash
  | .readFlash offset length => readFlash limit offset length
  | .writeFlash offset data => writeFlash offset data

/-- The scene after a request, given the device's result for it. -/
def finished (d : Device) (b : Buffers) (r : Request) :
    Except ResultCode (r.Value × Device) → Except ResultCode r.Value × AtWork
  | .ok (value, d') => (.ok value, ⟨d', r.received value b⟩)
  | .error code => (.error code, ⟨d, b⟩)

variable {d : Device} {b : Buffers}

theorem setFormat_eq (f : FrameFormat) :
    (setFormat f).on ⟨d, b⟩ = finished d b (.setFormat f) (d.setFormat f) := by
  unfold setFormat Device.setFormat
  split <;> rfl

theorem getFrame_eq (index : UInt16) (length : Nat) :
    (getFrame index).on ⟨d, b⟩ = finished d b (.getFrame index length) (d.getFrame index) := by
  unfold getFrame Device.getFrame
  rw [Work.get_bind_on]
  by_cases haveraging : d.isAveraging = true
  · rw [if_pos haveraging, if_pos haveraging]
    rfl
  · rw [if_neg haveraging, if_neg haveraging]
    cases (if index = Frame.latestIndex then d.frames.back? else d.frames[index.toNat]?) <;> rfl

theorem readFlash_eq (h : d.WellFormed) (limit : Option Nat) (offset : UInt32) (length : Nat) :
    (readFlash limit offset length).on ⟨d, b⟩ =
      finished d b (.readFlash offset length)
        ((d.readFlash limit offset length).map fun delivery => (delivery, d)) := by
  unfold readFlash Device.readFlash
  rw [Work.get_bind_on, ← h.flash]
  by_cases hinside : offset.toNat + length ≤ d.flash.length
  · rw [if_pos hinside, if_neg (Nat.not_lt.mpr hinside)]
    rfl
  · rw [if_neg hinside, if_pos (Nat.not_le.mp hinside)]
    rfl

theorem writeFlash_eq (h : d.WellFormed) (offset : UInt32) (data : List UInt8) :
    (writeFlash offset data).on ⟨d, b⟩ =
      finished d b (.writeFlash offset data) (d.writeFlash offset data) := by
  unfold writeFlash Device.writeFlash
  rw [Work.get_bind_on, ← h.flash]
  by_cases hinside : offset.toNat + data.length ≤ d.flash.length
  · rw [if_pos hinside, if_neg (Nat.not_lt.mpr hinside), List.splitAt_eq]
    rfl
  · rw [if_neg hinside, if_pos (Nat.not_le.mp hinside)]
    rfl

/-- Step by step or as a whole, a request does the same. -/
theorem perform_eq (h : d.WellFormed) (limit : Option Nat) (r : Request) :
    (perform limit r).on ⟨d, b⟩ = finished d b r (d.perform limit r) := by
  cases r with
  | setFormat f => exact setFormat_eq f
  | getFrame index length => exact getFrame_eq index length
  | readFlash offset length => exact readFlash_eq h limit offset length
  | writeFlash offset data => exact writeFlash_eq h offset data
  | _ => rfl

end AtWork

end Device

/-- What a call works on: the emulator, and the context and the buffers of the caller. -/
structure Scene where
  emulator : Emulator
  context : Context
  buffers : Buffers

namespace Scene

def change (f : Emulator → Emulator) : Work Scene Unit :=
  modify fun s => { s with emulator := f s.emulator }

/-- Counts the call and takes the fault that waits for it. -/
def count (o : Operation) : Work Scene (Option ResultCode) := do
  let fault := (← get).emulator.fault? o
  change fun e => (e.enter o).2
  return fault

/-- A fault that waits for the call refuses it. -/
def enter (o : Operation) : Work Scene Unit := do
  if let some code := ← count o then
    throw code

/-- Trades the caller's context in for one of the device that is found. -/
def connect (find : Emulator → Option Nat) (code : ResultCode) : Work Scene Unit := do
  match find (← get).emulator with
  | none => throw code
  | some i =>
    let old := (← get).context
    change (·.forget old)
    let next := (← get).emulator.nextContext
    change fun e => { e with nextContext := next + 1 }
    change fun e => { e with contexts := (next, i) :: e.contexts }
    modify fun s => { s with context := ⟨next⟩ }

/-- Has the device behind the caller's context work. It stays as the work leaves it, be it refused
or not. -/
def onDevice {α : Type} (work : Option Nat → Work Device.AtWork α) : Work Scene α := do
  let s ← get
  match s.emulator.deviceOf? s.context with
  | none => throw .deviceNotInitialized
  | some i =>
    match s.emulator.devices[i]? with
    | none => throw .deviceNotInitialized
    | some d =>
      if d.detached then
        throw .writeFailed
      let (result, w) := (work s.emulator.readLimit).on ⟨d, s.buffers⟩
      change fun e => { e with devices := e.devices.set i w.device }
      modify fun s => { s with buffers := w.buffers }
      liftExcept result

/-- A call step by step. The context that it carries is the caller's. Enumeration takes a fault away
without heeding it. -/
def carryOut : (c : Call) → Work Scene c.Value
  | .devicesCount => do
    let _ ← count .devicesCount
    return UInt32.ofNat (← get).emulator.serials.length
  | .devicesInfo => do
    let _ ← count .devicesInfo
    return (← get).emulator.serials
  | .connectBySerial serial _ => do
    enter .connectBySerial
    connect (·.findBySerial? serial) .connectFailed
  | .connectByIndex index _ => do
    enter .connectByIndex
    connect (·.attached[index.toNat]?) .notFound
  | .disconnect _ => do
    enter .disconnect
    let old := (← get).context
    change (·.forget old)
    modify fun s => { s with context := .null }
  | .pixelsInFrame _ => do
    let s ← get
    return ((s.emulator.contexts.lookup s.context.raw).bind (s.emulator.devices[·]?)).map
      (·.format.size)
  | .operate _ r => do
    enter r.operation
    onDevice fun limit => Device.AtWork.perform limit r

variable {e : Emulator} {ctx : Context} {b : Buffers} {α : Type} {memoryFrames : UInt16}

theorem enter_bind_on {o : Operation} (hfault : e.fault? o = none) (next : Unit → Work Scene α) :
    (enter o >>= next).on ⟨e, ctx, b⟩ = (next ()).on ⟨(e.enter o).2, ctx, b⟩ := by
  unfold enter count
  rw [bind_assoc, bind_assoc, Work.get_bind_on, hfault]
  rfl

theorem enter_bind_on_fault {o : Operation} {code : ResultCode} (hfault : e.fault? o = some code)
    (next : Unit → Work Scene α) :
    (enter o >>= next).on ⟨e, ctx, b⟩ = (.error code, ⟨(e.enter o).2, ctx, b⟩) := by
  unfold enter count
  rw [bind_assoc, bind_assoc, Work.get_bind_on, hfault]
  rfl

theorem connect_eq (find : Emulator → Option Nat) (code : ResultCode) :
    (connect find code).on ⟨e, ctx, b⟩ =
      ((e.connectTo (find e) code ctx).1.2,
        ⟨(e.connectTo (find e) code ctx).2, (e.connectTo (find e) code ctx).1.1, b⟩) := by
  unfold connect Emulator.connectTo
  rw [Work.get_bind_on]
  dsimp only
  cases find e <;> rfl

/-- Both connecting calls are instances of this one, each with its own search. -/
theorem connecting_eq (o : Operation) (find : Emulator → Option Nat) (code : ResultCode) :
    (enter o >>= fun _ => connect find code).on ⟨e, ctx, b⟩ =
      let result : (Context × Except ResultCode Unit) × Emulator := match e.enter o with
        | (some fault, e) => ((ctx, .error fault), e)
        | (none, e) => e.connectTo (find e) code ctx
      (result.1.2, ⟨result.2, result.1.1, b⟩) := by
  rw [Emulator.enter_eq]
  cases hfault : e.fault? o with
  | none => rw [enter_bind_on hfault, connect_eq]
  | some fault => rw [enter_bind_on_fault hfault]

/-- A device that refuses a request is put back as it was. -/
theorem onDevice_eq (h : e.WellFormed memoryFrames) (r : Request) :
    (onDevice fun limit => Device.AtWork.perform limit r).on ⟨e, ctx, b⟩ =
      ((e.operate ctx r).1, ⟨(e.operate ctx r).2, ctx,
        Call.buffersAfter (.operate ctx r) (e.operate ctx r).1 b⟩) := by
  unfold onDevice Emulator.operate
  rw [Work.get_bind_on]
  dsimp only
  cases e.deviceOf? ctx with
  | none => rfl
  | some i =>
    cases hd : e.devices[i]? with
    | none => simp only [hd]; rfl
    | some d =>
      simp only [hd]
      by_cases hdetached : d.detached = true
      · rw [if_pos hdetached, if_pos hdetached]
        rfl
      · rw [if_neg hdetached, if_neg hdetached, Device.AtWork.perform_eq (h.device hd)]
        cases d.perform e.readLimit r with
        | ok result => rfl
        | error code =>
          obtain ⟨hi, rfl⟩ := List.getElem?_eq_some_iff.mp hd
          have hback : { e with devices := e.devices.set i e.devices[i] } = e := by
            rw [List.set_getElem_self hi]
          change (_, (⟨{ e with devices := e.devices.set i e.devices[i] }, ctx, b⟩ : Scene)) = _
          rw [hback]
          rfl

/-- Step by step or as a whole, a call does the same. -/
theorem carryOut_eq (h : e.WellFormed memoryFrames) (c : Call) (b : Buffers) :
    (carryOut c).on ⟨e, c.context?.getD .null, b⟩ =
      (c.outcome (Emulator.link c e).1, ⟨(Emulator.link c e).2,
        c.contextAfter (Emulator.link c e).1, c.buffersAfter (Emulator.link c e).1 b⟩) := by
  cases c with
  | devicesCount | devicesInfo => rfl
  | connectBySerial serial ctx => exact connecting_eq .connectBySerial (·.findBySerial? serial) _
  | connectByIndex index ctx => exact connecting_eq .connectByIndex (·.attached[index.toNat]?) _
  | disconnect ctx =>
    rw [carryOut, Emulator.link, Emulator.enter_eq]
    cases hfault : e.fault? .disconnect with
    | none =>
      rw [enter_bind_on hfault]
      rfl
    | some code =>
      rw [enter_bind_on_fault hfault]
      rfl
  | pixelsInFrame ctx => rfl
  | operate ctx r =>
    rw [carryOut, Emulator.link, Emulator.enter_eq]
    cases hfault : e.fault? r.operation with
    | none =>
      rw [enter_bind_on hfault]
      have hentered : (e.enter r.operation).2.WellFormed memoryFrames :=
        ⟨⟨h.sound.next, h.sound.contexts⟩, h.devices⟩
      exact onDevice_eq hentered r
    | some code =>
      rw [enter_bind_on_fault hfault]
      rfl

end Scene

end Spectrometer
