import Spectrometer.Proofs.Session.Action
import Spectrometer.Proofs.Twin.Basic

/-!
Sessions under two contexts. The context that a driver gave out is no more than a name: a session
that asks for its device by serial number says the same under any two contexts, as long as the
replies differ in nothing but the contexts. What goes through a handle leaves the contexts; what a
session does as a whole ends with the same session under the contexts that it got last.
-/

namespace Spectrometer

open Interaction (Pairing Twin)

/-- What one who works with the device of that serial number can say under two contexts, with the
replies that go together and the contexts after them. -/
inductive Utterance.Pairs (serial : String) :
    Pairing (Context × Context) Utterance Utterance.Answer
  | connect {c c' : Context} :
    Pairs serial (c, c') (.call (.connectBySerial (some serial) c))
      (.call (.connectBySerial (some serial) c'))
      fun reply reply' after => reply.2 = reply'.2 ∧ after = (reply.1, reply'.1)
  | disconnect {c c' : Context} :
    Pairs serial (c, c') (.call (.disconnect c)) (.call (.disconnect c'))
      fun reply reply' after => reply.2 = reply'.2 ∧ after = (.null, .null)
  | pixelsInFrame {c c' : Context} :
    Pairs serial (c, c') (.call (.pixelsInFrame c)) (.call (.pixelsInFrame c'))
      fun reply reply' after => reply = reply' ∧ after = (c, c')
  | operate {c c' : Context} (r : Request) :
    Pairs serial (c, c') (.call (.operate c r)) (.call (.operate c' r))
      fun reply reply' after => reply = reply' ∧ after = (c, c')
  | warn {c c' : Context} (w : Warning) :
    Pairs serial (c, c') (.warn w) (.warn w) fun _ _ after => after = (c, c')

/-- The dialogues say and come to the same under two contexts, which they leave as they are. -/
abbrev Dialogue.Alike {α : Type} (serial : String) (contexts : Context × Context)
    (d d' : Dialogue α) : Prop :=
  Twin (Utterance.Pairs serial) (fun after x x' => after = contexts ∧ x = x') contexts d d'

def Attempt.Alike {α : Type} (serial : String) (contexts : Context × Context)
    (a a' : Attempt α) : Prop :=
  Dialogue.Alike serial contexts a.run a'.run

variable {α β : Type} {serial : String} {contexts : Context × Context} {c c' : Context}

namespace Attempt.Alike

theorem pure (a : α) : Alike serial contexts (Pure.pure a) (Pure.pure a) := .done ⟨rfl, rfl⟩

theorem throw (e : DeviceError) :
    Alike (α := α) serial contexts (MonadExcept.throw e) (MonadExcept.throw e) := .done ⟨rfl, rfl⟩

theorem ofExcept (result : Except DeviceError α) :
    Alike serial contexts (Attempt.ofExcept result) (Attempt.ofExcept result) := .done ⟨rfl, rfl⟩

theorem bind {a a' : Attempt α} {f f' : α → Attempt β} (ha : Alike serial contexts a a')
    (hf : ∀ x, Alike serial contexts (f x) (f' x)) :
    Alike serial contexts (a >>= f) (a' >>= f') := by
  apply Twin.bind ha
  rintro _ result _ ⟨rfl, rfl⟩
  cases result with
  | ok x => exact hf x
  | error e => exact .done ⟨rfl, rfl⟩

theorem mapM {f f' : α → Attempt β} (hf : ∀ x, Alike serial contexts (f x) (f' x)) (l : List α) :
    Alike serial contexts (l.mapM f) (l.mapM f') := by
  induction l with
  | nil =>
    rw [List.mapM_nil, List.mapM_nil]
    exact pure []
  | cons x rest ih =>
    rw [List.mapM_cons, List.mapM_cons]
    exact (hf x).bind fun y => ih.bind fun ys => pure (y :: ys)

theorem warn (w : Warning) :
    Alike serial (c, c') (ExceptT.lift (Dialogue.warn w)) (ExceptT.lift (Dialogue.warn w)) :=
  .ask (.warn w) fun _ _ _ hafter => .done ⟨hafter, rfl⟩

end Attempt.Alike

open Attempt (Alike)

namespace Handle

variable {connected : Bool}

theorem alike_request (r : Request) :
    Alike serial (c, c') (request ⟨c, connected⟩ r) (request ⟨c', connected⟩ r) := by
  unfold request
  cases connected with
  | false => exact .throw _
  | true => exact .ask (.operate r) fun _ _ _ hfits => .done ⟨hfits.2, by rw [hfits.1]⟩

theorem alike_frameSize : Alike serial (c, c') (ExceptT.lift (frameSize ⟨c, connected⟩))
    (ExceptT.lift (frameSize ⟨c', connected⟩)) :=
  .ask .pixelsInFrame fun _ _ _ hfits => .done ⟨hfits.2, by rw [hfits.1]⟩

theorem alike_framesInMemory :
    Alike serial (c, c') (framesInMemory ⟨c, connected⟩) (framesInMemory ⟨c', connected⟩) :=
  (alike_request _).bind fun _ => .pure _

theorem alike_frame (index : UInt16) :
    Alike serial (c, c') (frame ⟨c, connected⟩ index) (frame ⟨c', connected⟩ index) := by
  refine Attempt.Alike.bind ?_ fun _ => .pure _
  unfold rawFrame
  cases connected with
  | false => exact .throw _
  | true => exact alike_frameSize.bind fun _ => (alike_request _).bind fun _ => .pure _

/-- What is done with a handle under two contexts ends with the same handle under two others. -/
abbrev Twins (serial : String) (contexts : Context × Context)
    (d d' : Dialogue (Handle × Except DeviceError Unit)) : Prop :=
  Twin (Utterance.Pairs serial)
    (fun after x x' => ∃ connected result, x = (⟨after.1, connected⟩, result) ∧
      x' = (⟨after.2, connected⟩, result)) contexts d d'

theorem twins_connect : Twins serial (c, c') (connect ⟨c, connected⟩ (some serial))
    (connect ⟨c', connected⟩ (some serial)) := by
  refine .ask .connect fun reply reply' after hfits => ?_
  obtain ⟨hverdict, rfl⟩ := hfits
  exact .done ⟨reply.2.isOk, reply.2.mapError .ofCode, rfl, by rw [hverdict]; rfl⟩

theorem twins_disconnect :
    Twins serial (c, c') (disconnect ⟨c, connected⟩) (disconnect ⟨c', connected⟩) := by
  unfold disconnect
  cases connected with
  | false => exact .done ⟨false, _, rfl, rfl⟩
  | true =>
    refine .ask .disconnect fun reply reply' after hfits => ?_
    obtain ⟨hverdict, rfl⟩ := hfits
    exact .done ⟨false, reply.2.mapError .ofCode, rfl, by rw [hverdict]; rfl⟩

theorem twins_drop : Twin (Utterance.Pairs serial) (fun _ _ _ => True) (c, c')
    (drop ⟨c, connected⟩) (drop ⟨c', connected⟩) := by
  unfold drop
  cases connected with
  | false => exact .done trivial
  | true =>
    apply Twin.bind twins_disconnect
    rintro _ _ _ ⟨connected, result, rfl, rfl⟩
    cases result with
    | ok _ => exact .done trivial
    | error e => exact .ask (.warn _) fun _ _ _ _ => .done trivial

end Handle

namespace Memory

variable {kind : MemoryKind} {connected : Bool}

theorem alike_length :
    Alike serial (c, c') (length ⟨kind, ⟨c, connected⟩⟩) (length ⟨kind, ⟨c', connected⟩⟩) := by
  cases kind with
  | ring => exact Handle.alike_framesInMemory.bind fun _ => .pure _
  | latestFrame => exact .pure 1

theorem alike_isEmpty :
    Alike serial (c, c') (isEmpty ⟨kind, ⟨c, connected⟩⟩) (isEmpty ⟨kind, ⟨c', connected⟩⟩) :=
  alike_length.bind fun _ => .pure _

theorem alike_get (index : Nat) : Alike serial (c, c') (get ⟨kind, ⟨c, connected⟩⟩ index)
    (get ⟨kind, ⟨c', connected⟩⟩ index) := by
  cases kind with
  | ring =>
    refine alike_length.bind fun length => ?_
    by_cases hindex : index < length
    · rw [if_pos hindex, if_pos hindex]
      exact Handle.alike_frame _
    · rw [if_neg hindex, if_neg hindex]
      exact .throw _
  | latestFrame => exact Handle.alike_frame _

theorem alike_getRange (start stop : Bound) :
    Alike serial (c, c') (getRange ⟨kind, ⟨c, connected⟩⟩ start stop)
      (getRange ⟨kind, ⟨c', connected⟩⟩ start stop) :=
  alike_length.bind fun _ => .mapM (fun index => Handle.alike_frame index) _

theorem alike_clear :
    Alike serial (c, c') (clear ⟨kind, ⟨c, connected⟩⟩) (clear ⟨kind, ⟨c', connected⟩⟩) := by
  cases kind with
  | ring => exact Handle.alike_request _
  | latestFrame => exact .pure ()

theorem alike_readiness :
    Alike serial (c, c') (readiness ⟨c, connected⟩) (readiness ⟨c', connected⟩) := by
  refine Handle.alike_framesInMemory.bind fun raw => ?_
  cases FrameStatus.ofRaw? raw with
  | some status => exact .pure status
  | none => exact .throw _

end Memory

namespace Flash

variable {connected : Bool}

theorem alike_read (length : Nat) (offset : UInt32) :
    Alike serial (c, c') (read ⟨c, connected⟩ length offset)
      (read ⟨c', connected⟩ length offset) := by
  refine (Attempt.Alike.ofExcept _).bind fun length => ?_
  by_cases hempty : length = 0
  · rw [if_pos hempty, if_pos hempty]
    exact .pure []
  · rw [if_neg hempty, if_neg hempty]
    refine (Handle.alike_request _).bind fun delivery => ?_
    split
    · exact .throw _
    · exact .pure _

theorem alike_write (data : List UInt8) (offset : UInt32) :
    Alike serial (c, c') (write ⟨c, connected⟩ data offset)
      (write ⟨c', connected⟩ data offset) := by
  refine (Attempt.Alike.ofExcept _).bind fun length => ?_
  by_cases hempty : length = 0
  · rw [if_pos hempty, if_pos hempty]
    exact .pure _
  · rw [if_neg hempty, if_neg hempty]
    refine (alike_read length offset).bind fun current => ?_
    cases firstNotErased offset current with
    | none => exact (Handle.alike_request _).bind fun _ => .pure _
    | some n =>
      refine (Attempt.Alike.warn _).bind fun _ => ?_
      exact (Handle.alike_request _).bind fun _ => .pure _

end Flash

namespace ExternalTrigger

variable {connected : Bool} (t : ExternalTrigger)

theorem alike_setMode (mode : ExternalMode) :
    Dialogue.Alike serial (c, c') (t.setMode ⟨c, connected⟩ mode)
      (t.setMode ⟨c', connected⟩ mode) := by
  unfold setMode
  by_cases hsame : t.mode = mode
  · rw [if_pos hsame, if_pos hsame]
    exact .done ⟨rfl, rfl⟩
  · rw [if_neg hsame, if_neg hsame]
    apply Twin.bind (Handle.alike_request _)
    rintro _ result _ ⟨rfl, rfl⟩
    cases result with
    | ok _ => exact .done ⟨rfl, rfl⟩
    | error e => exact .done ⟨rfl, rfl⟩

theorem alike_setEdge (edge : SignalEdge) :
    Dialogue.Alike serial (c, c') (t.setEdge ⟨c, connected⟩ edge)
      (t.setEdge ⟨c', connected⟩ edge) := by
  unfold setEdge
  by_cases hsame : t.edge = edge
  · rw [if_pos hsame, if_pos hsame]
    exact .done ⟨rfl, rfl⟩
  · rw [if_neg hsame, if_neg hsame]
    apply Twin.bind (Handle.alike_request _)
    rintro _ result _ ⟨rfl, rfl⟩
    cases result with
    | ok _ => exact .done ⟨rfl, rfl⟩
    | error e => exact .done ⟨rfl, rfl⟩

theorem alike_configure (mode : ExternalMode) (edge : SignalEdge) :
    Dialogue.Alike serial (c, c') (t.configure ⟨c, connected⟩ mode edge)
      (t.configure ⟨c', connected⟩ mode edge) := by
  apply Twin.bind (t.alike_setMode mode)
  rintro _ ⟨t, result⟩ _ ⟨rfl, rfl⟩
  cases result with
  | error e => exact .done ⟨rfl, rfl⟩
  | ok _ =>
    apply Twin.bind (t.alike_setEdge edge)
    rintro _ ⟨t, result⟩ _ ⟨rfl, rfl⟩
    cases result with
    | ok _ => exact .done ⟨rfl, rfl⟩
    | error e => exact .done ⟨rfl, rfl⟩

end ExternalTrigger

namespace Session

/-- The same session with the device of that serial number, under two contexts. -/
inductive Alike (serial : String) : Context × Context → Session → Session → Prop
  | mk {c c' : Context} (connected : Bool) (acquisition : Option Acquisition)
      (frame : Option FrameParameters) (memory : MemoryKind) (trigger : Trigger) :
    Alike serial (c, c') ⟨some serial, ⟨c, connected⟩, acquisition, frame, memory, trigger⟩
      ⟨some serial, ⟨c', connected⟩, acquisition, frame, memory, trigger⟩

variable {s s' : Session}

theorem Alike.fire (h : s.Alike serial contexts s') :
    Attempt.Alike serial contexts s.fire s'.fire := by
  obtain ⟨connected, acquisition, frame, memory, trigger⟩ := h
  cases trigger with
  | software => exact Handle.alike_request _
  | external t => exact .pure ()
  | optical => exact .throw _

theorem Alike.status (h : s.Alike serial contexts s') :
    Attempt.Alike serial contexts s.status s'.status := by
  cases h
  exact (Handle.alike_request _).bind fun _ => .pure _

/-- Uses of a session are alike under all contexts. -/
theorem Alike.attempt (h : s.Alike serial contexts s') (u : Use) :
    Attempt.Alike serial contexts (u.attempt s) (u.attempt s') := by
  cases u with
  | status => exact h.status.bind fun _ => .pure ()
  | fire => exact h.fire
  | detach => cases h; exact Handle.alike_request _
  | frameCount => cases h; exact Memory.alike_length.bind fun _ => .pure ()
  | isEmpty => cases h; exact Memory.alike_isEmpty.bind fun _ => .pure ()
  | frame index => cases h; exact (Memory.alike_get index).bind fun _ => .pure ()
  | frameRange start stop =>
    cases h
    exact (Memory.alike_getRange start stop).bind fun _ => .pure ()
  | clearFrames => cases h; exact Memory.alike_clear
  | readiness => cases h; exact Memory.alike_readiness.bind fun _ => .pure ()
  | eraseFlash => cases h; exact Handle.alike_request _
  | readFlash length offset =>
    cases h
    exact (Flash.alike_read length offset).bind fun _ => .pure ()
  | writeFlash data offset =>
    cases h
    exact (Flash.alike_write data offset).bind fun _ => .pure ()

/-- What a session does under two contexts ends in the same way, with the same session under the
contexts that it then has. -/
abbrev Twins {α : Type} (serial : String) (contexts : Context × Context)
    (d d' : Dialogue (Session × Except DeviceError α)) : Prop :=
  Twin (Utterance.Pairs serial)
    (fun after x x' => x.2 = x'.2 ∧ x.1.Alike serial after x'.1) contexts d d'

theorem Alike.drop (h : s.Alike serial contexts s') :
    Twin (Utterance.Pairs serial) (fun _ _ _ => True) contexts s.drop s'.drop := by
  cases h
  exact Handle.twins_drop

theorem Alike.connect (h : s.Alike serial contexts s') :
    Twins serial contexts s.connect s'.connect := by
  cases h
  apply Twin.bind Handle.twins_connect
  rintro after _ _ ⟨connected, result, rfl, rfl⟩
  cases result with
  | error e => exact .done ⟨rfl, .mk ..⟩
  | ok _ =>
    have hload : Attempt.Alike serial after (loadSettings ⟨after.1, connected⟩)
        (loadSettings ⟨after.2, connected⟩) :=
      (Handle.alike_request _).bind fun _ => (Handle.alike_request _).bind fun _ => .pure _
    apply Twin.bind hload
    rintro _ loaded _ ⟨rfl, rfl⟩
    cases loaded with
    | ok settings => exact .done ⟨rfl, .mk ..⟩
    | error e =>
      apply Twin.bind Handle.twins_disconnect
      rintro after _ _ ⟨connected, released, rfl, rfl⟩
      cases released with
      | ok _ => exact .done ⟨rfl, .mk ..⟩
      | error failure =>
        refine .ask (.warn _) fun _ _ _ hafter => ?_
        subst hafter
        exact .done ⟨rfl, .mk ..⟩

theorem Alike.disconnect (h : s.Alike serial contexts s') :
    Twins serial contexts s.disconnect s'.disconnect := by
  cases h
  apply Twin.bind Handle.twins_disconnect
  rintro after _ _ ⟨connected, result, rfl, rfl⟩
  exact .done ⟨rfl, .mk ..⟩

theorem Alike.reset (h : s.Alike serial contexts s') :
    Twins serial contexts s.reset s'.reset := by
  cases h
  apply Twin.bind (Handle.alike_request _)
  rintro _ result _ ⟨rfl, rfl⟩
  cases result with
  | ok _ => exact .done ⟨rfl, .mk ..⟩
  | error e => exact .done ⟨rfl, .mk ..⟩

theorem Alike.applyAcquisition (h : s.Alike serial contexts s') (p : Acquisition) :
    Twins serial contexts (s.applyAcquisition p) (s'.applyAcquisition p) := by
  obtain ⟨connected, acquisition, frame, memory, trigger⟩ := h
  unfold Session.applyAcquisition
  cases acquisition with
  | none => exact .done ⟨rfl, .mk ..⟩
  | some current =>
    dsimp only
    by_cases hsame : current = p.withoutIdleBlanks
    · rw [if_pos hsame, if_pos hsame]
      exact .done ⟨rfl, .mk ..⟩
    · rw [if_neg hsame, if_neg hsame]
      apply Twin.bind (Handle.alike_request _)
      rintro _ result _ ⟨rfl, rfl⟩
      cases result with
      | error e => exact .done ⟨rfl, .mk ..⟩
      | ok _ =>
        dsimp only
        by_cases hmode : current.mode ≠ p.withoutIdleBlanks.mode
        · rw [if_pos hmode, if_pos hmode]
          exact .done ⟨rfl, .mk ..⟩
        · rw [if_neg hmode, if_neg hmode]
          exact .done ⟨rfl, .mk ..⟩

theorem Alike.applyFormat (h : s.Alike serial contexts s') (f : FrameFormat) :
    Twins serial contexts (s.applyFormat f) (s'.applyFormat f) := by
  obtain ⟨connected, acquisition, frame, memory, trigger⟩ := h
  unfold Session.applyFormat
  cases frame with
  | none => exact .done ⟨rfl, .mk ..⟩
  | some current =>
    dsimp only
    by_cases hsame : current.format = f
    · rw [if_pos hsame, if_pos hsame]
      exact .done ⟨rfl, .mk ..⟩
    · rw [if_neg hsame, if_neg hsame]
      apply Twin.bind (Handle.alike_request _)
      rintro _ result _ ⟨rfl, rfl⟩
      cases result with
      | error e => exact .done ⟨rfl, .mk ..⟩
      | ok size => exact .done ⟨rfl, .mk ..⟩

/-- Whether a device was called is left aside by most callers. -/
private theorem twins_ignore {α : Type} {d d' : Dialogue (Session × Except DeviceError α)}
    (hd : Twins serial contexts d d') :
    Twins serial contexts (do let (s, result) ← d; return (s, result.map fun _ => ()))
      (do let (s, result) ← d'; return (s, result.map fun _ => ())) := by
  apply Twin.bind hd
  rintro after ⟨s, result⟩ ⟨s', _⟩ ⟨rfl, h⟩
  exact .done ⟨rfl, h⟩

theorem Alike.updateAcquisition (h : s.Alike serial contexts s')
    (change : Acquisition → Acquisition) :
    Twins serial contexts (s.updateAcquisition change) (s'.updateAcquisition change) := by
  obtain ⟨connected, acquisition, frame, memory, trigger⟩ := h
  cases acquisition with
  | none => exact .done ⟨rfl, .mk ..⟩
  | some current => exact twins_ignore (Alike.applyAcquisition (.mk ..) _)

theorem Alike.updateFormat (h : s.Alike serial contexts s') (change : FrameFormat → FrameFormat) :
    Twins serial contexts (s.updateFormat change) (s'.updateFormat change) := by
  obtain ⟨connected, acquisition, frame, memory, trigger⟩ := h
  cases frame with
  | none => exact .done ⟨rfl, .mk ..⟩
  | some current => exact twins_ignore (Alike.applyFormat (.mk ..) _)

theorem Alike.setMode (h : s.Alike serial contexts s') (mode : ScanMode) :
    Twins serial contexts (s.setMode mode) (s'.setMode mode) := by
  obtain ⟨connected, acquisition, frame, memory, trigger⟩ := h
  unfold Session.setMode
  cases acquisition with
  | none => exact .done ⟨rfl, .mk ..⟩
  | some current =>
    dsimp only
    by_cases hsame : current.mode = mode
    · rw [if_pos hsame, if_pos hsame]
      exact .done ⟨rfl, .mk ..⟩
    · rw [if_neg hsame, if_neg hsame]
      exact Alike.updateAcquisition (.mk ..) _

theorem Alike.configureExternalTrigger (h : s.Alike serial contexts s') (mode : ExternalMode)
    (edge : SignalEdge) : Twins serial contexts (s.configureExternalTrigger mode edge)
      (s'.configureExternalTrigger mode edge) := by
  obtain ⟨connected, acquisition, frame, memory, trigger⟩ := h
  have hnew {connected : Bool} {c c' : Context} :
      Attempt.Alike serial (c, c') (ExternalTrigger.new ⟨c, connected⟩ mode edge)
        (ExternalTrigger.new ⟨c', connected⟩ mode edge) :=
    (Handle.alike_request _).bind fun _ => .pure _
  cases trigger with
  | external t =>
    apply Twin.bind (t.alike_configure mode edge)
    rintro _ ⟨t, result⟩ _ ⟨rfl, rfl⟩
    exact .done ⟨rfl, .mk ..⟩
  | software | optical =>
    apply Twin.bind hnew
    rintro _ result _ ⟨rfl, rfl⟩
    cases result with
    | ok t => exact .done ⟨rfl, .mk ..⟩
    | error e => exact .done ⟨rfl, .mk ..⟩

/-- Everything that a user can have a session do is the same under all contexts. -/
theorem Alike.perform (h : s.Alike serial contexts s') (a : Action) :
    Twins serial contexts (a.perform s) (a.perform s') := by
  cases a with
  | connect => exact h.connect
  | reconnect => exact h.connect
  | disconnect => exact h.disconnect
  | reset => exact h.reset
  | setScans scans => exact h.updateAcquisition _
  | setBlankScans blankScans => exact h.updateAcquisition _
  | setMode mode => exact h.setMode mode
  | setExposure micros => exact h.updateAcquisition _
  | setRange first last => exact h.updateFormat fun f => { f with first, last }
  | setReduction reduction => exact h.updateFormat fun f => { f with reduction }
  | applyAcquisition p => exact twins_ignore (h.applyAcquisition p)
  | applyFormat f => exact twins_ignore (h.applyFormat f)
  | configureExternalTrigger mode edge => exact h.configureExternalTrigger mode edge
  | setTrigger trigger => cases h; exact .done ⟨rfl, .mk ..⟩
  | use u =>
    apply Twin.bind (h.attempt u)
    rintro _ result _ ⟨rfl, rfl⟩
    exact .done ⟨rfl, h⟩

end Session

end Spectrometer
