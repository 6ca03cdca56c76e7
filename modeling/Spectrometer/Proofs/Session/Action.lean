import Spectrometer.Session
import Spectrometer.Proofs.Handle

/-!
What a user does with a session. Work with the device that leaves alone what the session remembers
is a `Use`; a use is one of the actions, and a course of actions is carried out over any link.
-/

namespace Spectrometer.Session

/-- Work with the device that leaves alone what the session remembers. -/
inductive Use
  | status
  | fire
  | detach
  | frameCount
  | isEmpty
  | frame (index : Nat)
  | frameRange (start stop : Bound)
  | clearFrames
  | readiness
  | eraseFlash
  | readFlash (length : Nat) (offset : UInt32)
  | writeFlash (data : List UInt8) (offset : UInt32)

/-- The attempt behind a use, its value left aside. -/
def Use.attempt (s : Session) : Use → Attempt Unit
  | status => do let _ ← s.status
  | fire => s.fire
  | detach => s.handle.request .detach
  | frameCount => do let _ ← s.frames.length
  | isEmpty => do let _ ← s.frames.isEmpty
  | frame index => do let _ ← s.frames.get index
  | frameRange start stop => do let _ ← s.frames.getRange start stop
  | clearFrames => s.frames.clear
  | readiness => do let _ ← Memory.readiness s.handle
  | eraseFlash => Flash.erase s.handle
  | readFlash length offset => do let _ ← Flash.read s.handle length offset
  | writeFlash data offset => do let _ ← Flash.write s.handle data offset

/-- Everything a user can have a session do. -/
inductive Action
  | connect
  | reconnect
  | disconnect
  | reset
  | setScans (scans : UInt16)
  | setBlankScans (blankScans : UInt16)
  | setMode (mode : ScanMode)
  | setExposure (micros : UInt32)
  | setRange (first last : UInt16)
  | setReduction (reduction : ReductionMode)
  | applyAcquisition (p : Acquisition)
  | applyFormat (f : FrameFormat)
  | configureExternalTrigger (mode : ExternalMode) (edge : SignalEdge)
  | setTrigger (trigger : Trigger)
  | use (u : Use)

namespace Action

/-- The session after an action and how the action ended, its value left aside. -/
def perform (s : Session) : Action → Dialogue (Session × Except DeviceError Unit)
  | connect => s.connect
  | reconnect => s.reconnect
  | disconnect => s.disconnect
  | reset => s.reset
  | setScans scans => s.setScans scans
  | setBlankScans blankScans => s.setBlankScans blankScans
  | setMode mode => s.setMode mode
  | setExposure micros => s.setExposure micros
  | setRange first last => s.setRange first last
  | setReduction reduction => s.setReduction reduction
  | applyAcquisition p => do
    let (s, result) ← s.applyAcquisition p
    return (s, result.map fun _ => ())
  | applyFormat f => do
    let (s, result) ← s.applyFormat f
    return (s, result.map fun _ => ())
  | configureExternalTrigger mode edge => s.configureExternalTrigger mode edge
  | setTrigger trigger => return (s.setTrigger trigger, .ok ())
  | use u => return (s, ← (u.attempt s).run)

/-- Whether the action changes acquisition parameters or the frame format. -/
def isSetter : Action → Bool
  | setScans _ | setBlankScans _ | setMode _ | setExposure _ | setRange .. | setReduction _
  | applyAcquisition _ | applyFormat _ => true
  | _ => false

variable {W : Type}

/-- The session and the driver after an action. -/
def step (link : Link W) (x : Session × W) (a : Action) : Session × W :=
  let ((s, _), w) := (a.perform x.1).run link.reply x.2
  (s, w)

end Action

/-- The session and the driver after some actions, one after the other. -/
def course {W : Type} (link : Link W) (actions : List Action) (x : Session × W) : Session × W :=
  actions.foldl (Action.step link) x

theorem establish_eq_opening (serial : Option String) :
    establish serial = .opening (new serial).connect drop := by
  unfold establish Attempt.opening
  congr 1
  funext outcome
  obtain ⟨s, verdict⟩ := outcome
  cases verdict <;> rfl

/-- The requests that a use can make. -/
def Use.Requests : Use → Request → Prop
  | status, r | frameCount, r | isEmpty, r | readiness, r => r = .getStatus
  | fire, r => r = .trigger
  | detach, r => r = .detach
  | frame _, r | frameRange .., r => r = .getStatus ∨ ∃ index length, r = .getFrame index length
  | clearFrames, r => r = .clearMemory
  | eraseFlash, r => r = .eraseFlash
  | readFlash .., r => ∃ offset length, r = .readFlash offset length
  | writeFlash .., r =>
    (∃ offset length, r = .readFlash offset length) ∨ ∃ offset data, r = .writeFlash offset data

theorem Use.through_requests (s : Session) (u : Use) :
    Attempt.Through s.handle u.Requests (u.attempt s) := by
  cases u with
  | status => exact .bind (s.handle.through_status rfl) fun _ => .pure ()
  | fire =>
    unfold attempt Session.fire Trigger.fire
    cases s.trigger with
    | software => exact s.handle.through_request rfl
    | external t => exact .pure ()
    | optical => exact .throw _
  | detach => exact s.handle.through_request rfl
  | frameCount => exact .bind (s.frames.through_length rfl) fun _ => .pure ()
  | isEmpty => exact .bind (s.frames.through_isEmpty rfl) fun _ => .pure ()
  | frame index =>
    refine .bind (s.frames.through_get index (Or.inl rfl) ?_) fun _ => .pure ()
    exact fun index length => Or.inr ⟨index, length, rfl⟩
  | frameRange start stop =>
    refine .bind (s.frames.through_getRange start stop (Or.inl rfl) ?_) fun _ => .pure ()
    exact fun index length => Or.inr ⟨index, length, rfl⟩
  | clearFrames => exact s.frames.through_clear rfl
  | readiness => exact .bind (Memory.through_readiness s.handle rfl) fun _ => .pure ()
  | eraseFlash => exact Flash.through_erase s.handle rfl
  | readFlash length offset =>
    refine .bind (Flash.through_read s.handle length offset ?_) fun _ => .pure ()
    exact fun offset length => ⟨offset, length, rfl⟩
  | writeFlash data offset =>
    refine .bind (Flash.through_write s.handle data offset ?_ ?_) fun _ => .pure ()
    · exact fun offset length => Or.inl ⟨offset, length, rfl⟩
    · exact fun offset data => Or.inr ⟨offset, data, rfl⟩

/-- No use configures a device. -/
theorem Use.configures_eq_false {u : Use} {r : Request} (hr : u.Requests r) :
    r.configures = false := by
  cases u with
  | status | fire | detach | frameCount | isEmpty | clearFrames | readiness | eraseFlash =>
    cases hr
    rfl
  | frame | frameRange =>
    obtain rfl | ⟨index, length, rfl⟩ := hr
    · rfl
    · rfl
  | readFlash =>
    obtain ⟨offset, length, rfl⟩ := hr
    rfl
  | writeFlash =>
    obtain ⟨offset, length, rfl⟩ | ⟨offset, data, rfl⟩ := hr
    · rfl
    · rfl

theorem Use.through (s : Session) (u : Use) :
    Attempt.Through s.handle (·.configures = false) (u.attempt s) :=
  (u.through_requests s).weaken fun _ => configures_eq_false

end Spectrometer.Session
