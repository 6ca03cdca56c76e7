import Spectrometer.Flash
import Spectrometer.Memory
import Spectrometer.Proofs.Interaction

/-!
What goes through a handle. A request is one call on the handle's context, and none at all while the
handle is not connected. `Attempt.Through` bounds a whole attempt to calls of this sort; looking at
the frame memory and working with the flash are attempts that make few kinds of requests.
-/

namespace Spectrometer

/-- Requests that change how a device is set up. -/
def Request.configures : Request → Bool
  | reset | setAcquisition _ | setFormat _ | setExternalTrigger .. => true
  | _ => false

/-- The steps that an attempt through a handle may take: requests of the given kind on its context
while it is connected, `pixelsInFrame` calls, and warnings. -/
def Utterance.Through (h : Handle) (kind : Request → Prop) : Utterance → Prop
  | call (.operate ctx r) => h.connected = true ∧ ctx = h.ctx ∧ kind r
  | call (.pixelsInFrame ctx) => ctx = h.ctx
  | call _ => False
  | warn _ => True

theorem Utterance.Through.mono {h : Handle} {kind kind' : Request → Prop} {u : Utterance}
    (hu : u.Through h kind) (himp : ∀ r, kind r → kind' r) : u.Through h kind' := by
  cases u with
  | warn w => trivial
  | call c =>
    cases c with
    | operate ctx r => exact ⟨hu.1, hu.2.1, himp r hu.2.2⟩
    | _ => exact hu

/-- The utterance is no request to a device, or one of the given kind. -/
def Utterance.Requests (kind : Request → Prop) (u : Utterance) : Prop :=
  ∀ ctx r, u = .call (.operate ctx r) → kind r

/-- An attempt all of whose steps go through the handle. -/
def Attempt.Through {α : Type} (h : Handle) (kind : Request → Prop) (a : Attempt α) : Prop :=
  a.run.Obeys (Utterance.Through h kind) fun _ => True

namespace Attempt.Through

variable {α β : Type} {h : Handle} {kind : Request → Prop}

theorem pure (a : α) : Attempt.Through h kind (Pure.pure a) := trivial

theorem throw (e : DeviceError) : Attempt.Through (α := α) h kind (MonadExcept.throw e) := trivial

theorem ofExcept (result : Except DeviceError α) :
    Attempt.Through h kind (Attempt.ofExcept result) := trivial

theorem weaken {kind' : Request → Prop} {a : Attempt α} (ha : Attempt.Through h kind a)
    (himp : ∀ r, kind r → kind' r) : Attempt.Through h kind' a :=
  ha.mono_allowed fun _ hu => hu.mono himp

theorem bind {x : Attempt α} {f : α → Attempt β} (hx : Attempt.Through h kind x)
    (hf : ∀ a, Attempt.Through h kind (f a)) : Attempt.Through h kind (x >>= f) := by
  rw [Attempt.Through, Attempt.obeys_bind]
  apply hx.mono
  intro result _
  cases result with
  | ok a => exact hf a
  | error e => trivial

theorem mapM {f : α → Attempt β} (hf : ∀ a, Attempt.Through h kind (f a)) (l : List α) :
    Attempt.Through h kind (l.mapM f) := by
  induction l with
  | nil =>
    rw [List.mapM_nil]
    exact pure []
  | cons a rest ih =>
    rw [List.mapM_cons]
    exact (hf a).bind fun b => ih.bind fun bs => pure (b :: bs)

theorem warn (w : Warning) : Attempt.Through h kind (ExceptT.lift (Dialogue.warn w)) :=
  ⟨trivial, fun _ => trivial⟩

theorem requests {a : Attempt α}
    (ha : Attempt.Through h kind a) : a.run.Obeys (Utterance.Requests kind) fun _ => True := by
  apply Interaction.Obeys.mono_allowed ha
  rintro u hu ctx r rfl
  exact hu.2.2

end Attempt.Through

namespace Handle

variable {W : Type} {kind : Request → Prop}

/-- A request over a link: one call, or a refusal without a call. -/
theorem run_request (link : Link W) (h : Handle) (r : Request) (w : W) :
    (h.request r).run.run link.reply w =
      if h.connected then
        ((link (.operate h.ctx r) w).1.mapError .ofCode, (link (.operate h.ctx r) w).2)
      else (.error .notConnected, w) := by
  unfold request
  cases h.connected <;> rfl

theorem run_request_ok {link : Link W} {h : Handle} {r : Request} {w w' : W} {value : r.Value}
    (hconnected : h.connected = true) (hlink : link (.operate h.ctx r) w = (.ok value, w')) :
    (h.request r).run.run link.reply w = (.ok value, w') := by
  rw [run_request, if_pos hconnected, hlink]
  rfl

theorem run_request_error {link : Link W} {h : Handle} {r : Request} {w w' : W} {code : ResultCode}
    (hconnected : h.connected = true) (hlink : link (.operate h.ctx r) w = (.error code, w')) :
    (h.request r).run.run link.reply w = (.error (.ofCode code), w') := by
  rw [run_request, if_pos hconnected, hlink]
  rfl

/-- A request succeeds just if the handle is connected and the driver carries it out. -/
theorem run_request_ok_iff {link : Link W} {h : Handle} {r : Request} {w w' : W} {value : r.Value} :
    (h.request r).run.run link.reply w = (.ok value, w') ↔
      h.connected = true ∧ link (.operate h.ctx r) w = (.ok value, w') := by
  constructor
  · intro hrun
    by_cases hconnected : h.connected = true
    · cases hlink : link (.operate h.ctx r) w with
      | mk reply w₁ =>
        cases reply with
        | ok value₁ =>
          rw [run_request_ok hconnected hlink] at hrun
          cases hrun
          exact ⟨hconnected, rfl⟩
        | error code =>
          rw [run_request_error hconnected hlink] at hrun
          cases hrun
    · rw [run_request, if_neg hconnected] at hrun
      cases hrun
  · rintro ⟨hconnected, hlink⟩
    exact run_request_ok hconnected hlink

theorem afterConnect_ok (ctx : Context) : afterConnect (ctx, .ok ()) = (⟨ctx, true⟩, .ok ()) := rfl

/-- A release over a link: the handle is given up whatever the driver says to it. -/
theorem run_disconnect (link : Link W) (h : Handle) (w : W) :
    h.disconnect.run link.reply w =
      if h.connected then
        ((new, (link (.disconnect h.ctx) w).1.2.mapError .ofCode), (link (.disconnect h.ctx) w).2)
      else ((h, .error .notConnected), w) := by
  unfold disconnect
  cases h.connected <;> rfl

/-- Giving a handle up over a link: one that is connected is released, and that is all. -/
theorem run_drop (link : Link W) (h : Handle) (w : W) :
    (h.drop.run link.reply w).2 =
      if h.connected then (link (.disconnect h.ctx) w).2 else w := by
  unfold drop
  by_cases hconnected : h.connected = true
  · rw [if_pos hconnected, if_pos hconnected, Interaction.run_bind, run_disconnect,
      if_pos hconnected]
    cases (link (.disconnect h.ctx) w).1.2 <;> rfl
  · rw [if_neg hconnected, if_neg hconnected]
    rfl

theorem obeys_request {allowed : Utterance → Prop} {h : Handle} {r : Request}
    {post : Except DeviceError r.Value → Prop}
    (hcall : h.connected = true → allowed (.call (.operate h.ctx r)))
    (hpost : ∀ result, post result) : (h.request r).run.Obeys allowed post := by
  unfold request
  by_cases hconnected : h.connected = true
  · rw [if_pos hconnected]
    exact ⟨hcall hconnected, fun _ => hpost _⟩
  · rw [if_neg hconnected]
    exact hpost _

theorem through_request (h : Handle) {r : Request} (hr : kind r) :
    Attempt.Through h kind (h.request r) :=
  obeys_request (fun hconnected => ⟨hconnected, rfl, hr⟩) fun _ => trivial

theorem through_status (h : Handle) (hr : kind .getStatus) : Attempt.Through h kind h.status :=
  (h.through_request hr).bind fun _ => .pure _

theorem through_framesInMemory (h : Handle) (hr : kind .getStatus) :
    Attempt.Through h kind h.framesInMemory :=
  (h.through_request hr).bind fun _ => .pure _

theorem through_rawFrame (h : Handle) (index : UInt16)
    (hr : ∀ length, kind (.getFrame index length)) : Attempt.Through h kind (h.rawFrame index) := by
  have hsize : Attempt.Through h kind (ExceptT.lift h.frameSize) := ⟨rfl, fun _ => trivial⟩
  unfold rawFrame
  by_cases hconnected : h.connected = true
  · rw [if_pos hconnected]
    exact hsize.bind fun size => (h.through_request (hr size.toNat)).bind fun _ => .pure _
  · rw [if_neg hconnected]
    exact .throw _

theorem through_frame (h : Handle) (index : UInt16)
    (hr : ∀ length, kind (.getFrame index length)) : Attempt.Through h kind (h.frame index) :=
  (h.through_rawFrame index hr).bind fun _ => .pure _

theorem obeys_connect (h : Handle) (serial : Option String) :
    (h.connect serial).Obeys (Utterance.Requests kind) fun _ => True :=
  ⟨nofun, fun _ => trivial⟩

theorem obeys_connectByIndex (h : Handle) (index : UInt32) :
    (h.connectByIndex index).Obeys (Utterance.Requests kind) fun _ => True :=
  ⟨nofun, fun _ => trivial⟩

theorem obeys_disconnect (h : Handle) :
    h.disconnect.Obeys (Utterance.Requests kind) fun _ => True := by
  unfold disconnect
  by_cases hconnected : h.connected = true
  · rw [if_pos hconnected]
    exact ⟨nofun, fun _ => trivial⟩
  · rw [if_neg hconnected]
    trivial

theorem obeys_drop (h : Handle) : h.drop.Obeys (Utterance.Requests kind) fun _ => True := by
  unfold drop
  by_cases hconnected : h.connected = true
  · rw [if_pos hconnected, Interaction.obeys_bind]
    apply h.obeys_disconnect.mono
    rintro ⟨_, released⟩ -
    cases released with
    | ok _ => trivial
    | error e => exact ⟨nofun, fun _ => trivial⟩
  · rw [if_neg hconnected]
    trivial

end Handle

namespace Memory

variable {kind : Request → Prop}

theorem through_length (m : Memory) (hstatus : kind .getStatus) :
    Attempt.Through m.handle kind m.length := by
  unfold length
  cases m.kind with
  | ring => exact .bind (m.handle.through_framesInMemory hstatus) fun _ => .pure _
  | latestFrame => exact .pure 1

theorem through_isEmpty (m : Memory) (hstatus : kind .getStatus) :
    Attempt.Through m.handle kind m.isEmpty :=
  (m.through_length hstatus).bind fun _ => .pure _

theorem through_get (m : Memory) (index : Nat) (hstatus : kind .getStatus)
    (hframe : ∀ index length, kind (.getFrame index length)) :
    Attempt.Through m.handle kind (m.get index) := by
  unfold get
  cases m.kind with
  | ring =>
    refine (m.through_length hstatus).bind fun length => ?_
    split
    · exact m.handle.through_frame _ (hframe _)
    · exact .throw _
  | latestFrame => exact m.handle.through_frame _ (hframe _)

theorem through_getRange (m : Memory) (start stop : Bound) (hstatus : kind .getStatus)
    (hframe : ∀ index length, kind (.getFrame index length)) :
    Attempt.Through m.handle kind (m.getRange start stop) :=
  (m.through_length hstatus).bind fun _ =>
    .mapM (fun index => m.handle.through_frame index (hframe index)) _

theorem through_clear (m : Memory) (hclear : kind .clearMemory) :
    Attempt.Through m.handle kind m.clear := by
  unfold clear
  cases m.kind with
  | ring => exact m.handle.through_request hclear
  | latestFrame => exact .pure ()

theorem through_readiness (h : Handle) (hstatus : kind .getStatus) :
    Attempt.Through h kind (Memory.readiness h) := by
  refine .bind (h.through_framesInMemory hstatus) fun raw => ?_
  split
  · exact .pure _
  · exact .throw _

end Memory

namespace Flash

variable {kind : Request → Prop}

theorem through_erase (h : Handle) (herase : kind .eraseFlash) :
    Attempt.Through h kind (erase h) :=
  h.through_request herase

theorem through_read (h : Handle) (length : Nat) (offset : UInt32)
    (hread : ∀ offset length, kind (.readFlash offset length)) :
    Attempt.Through h kind (read h length offset) := by
  refine (Attempt.Through.ofExcept _).bind fun length => ?_
  by_cases hempty : length = 0
  · rw [if_pos hempty]
    exact .pure []
  · rw [if_neg hempty]
    refine .bind (h.through_request (hread offset length)) fun delivery => ?_
    split
    · exact .throw _
    · exact .pure _

theorem through_write (h : Handle) (data : List UInt8) (offset : UInt32)
    (hread : ∀ offset length, kind (.readFlash offset length))
    (hwrite : ∀ offset data, kind (.writeFlash offset data)) :
    Attempt.Through h kind (write h data offset) := by
  refine (Attempt.Through.ofExcept _).bind fun length => ?_
  by_cases hempty : length = 0
  · rw [if_pos hempty]
    exact .pure _
  · rw [if_neg hempty]
    refine (through_read h length offset hread).bind fun current => ?_
    have hgo (found : Option NotErased) : Attempt.Through h kind (do
        let written ← h.request (.writeFlash offset (data.take length))
        return WriteReport.mk written found) :=
      .bind (h.through_request (hwrite offset _)) fun _ => .pure _
    cases firstNotErased offset current with
    | none => exact hgo none
    | some n => exact (Attempt.Through.warn n.warning).bind fun _ => hgo (some n)

end Flash

end Spectrometer
