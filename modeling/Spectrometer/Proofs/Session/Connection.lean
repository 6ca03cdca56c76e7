import Spectrometer.Driver.Script
import Spectrometer.Emulator.Basic
import Spectrometer.Proofs.Session.Outcome

/-!
Whether what a session remembers fits its connection. Settings and the way of addressing frames are
always `Coherent`, for every driver. They do not always match the connection: a connecting call that
fails while the session is connected ends the connection and keeps the settings. `stranded` follows
a course of actions for this, and decides it exactly.
-/

namespace Spectrometer.Session

variable {W : Type}

/-- Settings are remembered just while the session is connected; without a connection frames are
addressed by place, and every setter is refused without a call. -/
structure InStep (s : Session) : Prop where
  acquisition : s.isConnected = true ↔ s.acquisition.isSome = true
  frame : s.isConnected = true ↔ s.frame.isSome = true
  memory : s.isConnected = false → s.memory = .ring
  setters : s.isConnected = false → ∀ a : Action, a.isSetter = true →
    a.perform s = return (s, .error .notConnected)

/-- The two kinds of settings are remembered together, always while the session is connected, and
frames are addressed as the remembered scan mode wants it. -/
structure Coherent (s : Session) : Prop where
  frame : s.frame.isSome = s.acquisition.isSome
  connected : s.isConnected = true → s.acquisition.isSome = true
  memory : s.memory = s.acquisition.elim .ring fun p => .ofMode p.mode

/-- Whether the session remembers settings without a connection. -/
def outlived (s : Session) : Bool := !s.isConnected && s.acquisition.isSome

/-- Whether the connecting call that the session would make fails. -/
def turnedDown (link : Link W) (x : Session × W) : Bool :=
  !(link (.connectBySerial x.1.serial x.1.handle.ctx) x.2).1.2.isOk

/-- Whether settings are left behind after an action: by a connecting call that fails while the
session is connected, or from before, unless the session is disconnected or the driver accepts a
connecting call. -/
def Action.strands (link : Link W) (x : Session × W) (before : Bool) : Action → Bool
  | connect | reconnect => (x.1.isConnected || before) && turnedDown link x
  | disconnect => false
  | _ => before

/-- Whether settings are left behind after a course of actions. -/
def stranded (link : Link W) : List Action → Session × W → Bool → Bool
  | [], _, before => before
  | a :: rest, x, before => stranded link rest (a.step link x) (a.strands link x before)

theorem Action.strands_of_isSetter (link : Link W) (x : Session × W) (before : Bool) {a : Action}
    (ha : a.isSetter = true) : a.strands link x before = before := by
  cases a <;> first | rfl | cases ha

theorem coherent_new (serial : Option String) : (new serial).Coherent :=
  ⟨rfl, nofun, rfl⟩

theorem coherent_forget (s : Session) (hclosed : s.isConnected = false) : s.forget.Coherent := by
  refine ⟨rfl, fun hconnected => ?_, rfl⟩
  change s.isConnected = true at hconnected
  rw [hclosed] at hconnected
  cases hconnected

theorem Coherent.setTrigger {s : Session} (h : s.Coherent) (trigger : Trigger) :
    (s.setTrigger trigger).Coherent := ⟨h.frame, h.connected, h.memory⟩

theorem Coherent.remember {s : Session} {current : Acquisition} (h : s.Coherent)
    (hcurrent : s.acquisition = some current) (p : Acquisition) :
    (s.remember current p).Coherent := by
  refine ⟨?_, ?_, ?_⟩
  · rw [remember_frame, remember_acquisition, h.frame, hcurrent]
    rfl
  · intro _
    rw [remember_acquisition]
    rfl
  · unfold Session.remember
    split
    · rfl
    · rename_i hmode
      have hsame : current.mode = p.mode := by simpa using hmode
      have hmemory := h.memory
      rw [hcurrent] at hmemory
      simpa [hsame] using hmemory

/-- A session that sends a request stays coherent and connected as it is, if the session it goes on
with is one of the same connection. -/
theorem Coherent.sending {s : Session} (h : s.Coherent) (link : Link W) (r : Request)
    (next : r.Value → Session) (w : W)
    (hnext : s.isConnected = true → ∀ value, (next value).Coherent ∧
      (next value).handle = s.handle ∧ (next value).acquisition.isSome = true) :
    ((s.sending r next).run link.reply w).1.1.Coherent ∧
      ((s.sending r next).run link.reply w).1.1.outlived = s.outlived := by
  obtain ⟨_, heq⟩ | ⟨_, code, w', _, heq⟩ | ⟨hconnected, value, w', _, heq⟩ :=
    sending_cases link s r next w
  · rw [heq]
    exact ⟨h, rfl⟩
  · rw [heq]
    exact ⟨h, rfl⟩
  · rw [heq]
    obtain ⟨hcoherent, hhandle, hsome⟩ := hnext hconnected value
    refine ⟨hcoherent, ?_⟩
    unfold outlived isConnected
    rw [hhandle, hconnected]
    rfl

theorem Coherent.setting {s : Session} (h : s.Coherent) (link : Link W) (w : W)
    {d : Dialogue (Session × Except DeviceError Unit)} (hd : Setting s d) :
    (d.run link.reply w).1.1.Coherent ∧ (d.run link.reply w).1.1.outlived = s.outlived := by
  cases hd with
  | unknown => exact ⟨h, rfl⟩
  | unchanged => exact ⟨h, rfl⟩
  | acquisition p hcurrent =>
    apply h.sending
    intro _ _
    exact ⟨h.remember hcurrent p, remember_handle .., by rw [remember_acquisition]; rfl⟩
  | format f hcurrent =>
    apply h.sending
    intro hconnected _
    refine ⟨⟨?_, h.connected, h.memory⟩, rfl, h.connected hconnected⟩
    rw [h.connected hconnected]
    rfl

theorem Coherent.connect {s : Session} (h : s.Coherent) (link : Link W) (w : W) :
    (s.connect.run link.reply w).1.1.Coherent ∧
      (s.connect.run link.reply w).1.1.outlived =
        ((s.isConnected || s.outlived) && turnedDown link (s, w)) := by
  unfold turnedDown
  obtain ⟨ctx, code, w', hlink, heq⟩ | ⟨ctx, w₁, hlink, ⟨e, w₂, _, heq⟩ | ⟨p, f, w₂, _, heq⟩⟩ :=
    connect_cases link s w
  · rw [heq, hlink]
    refine ⟨⟨h.frame, nofun, h.memory⟩, ?_⟩
    have hconnected := h.connected
    unfold outlived
    change s.acquisition.isSome =
      ((s.isConnected || (!s.isConnected && s.acquisition.isSome)) && true)
    cases hopen : s.isConnected with
    | true => rw [hconnected hopen]; rfl
    | false => simp
  · rw [heq, hlink]
    exact ⟨coherent_forget _ rfl,
      by simp [outlived, forget, selectMemory, Except.isOk, Except.toBool]⟩
  · rw [heq, hlink]
    exact ⟨⟨rfl, fun _ => rfl, rfl⟩,
      by simp [outlived, isConnected, selectMemory, Except.isOk, Except.toBool]⟩

theorem Coherent.disconnect (link : Link W) (s : Session) (w : W) :
    (s.disconnect.run link.reply w).1.1.Coherent ∧
      (s.disconnect.run link.reply w).1.1.outlived = false := by
  obtain ⟨hclosed, heq⟩ | ⟨_, heq⟩ := disconnect_cases link s w
  · rw [heq]
    exact ⟨coherent_forget s hclosed, by simp [outlived, forget, selectMemory]⟩
  · rw [heq]
    exact ⟨coherent_forget _ rfl, by simp [outlived, forget, selectMemory]⟩

/-- Every action keeps a session coherent, and `Action.strands` says what becomes of settings that
outlive their connection. -/
theorem Coherent.step {s : Session} (h : s.Coherent) (link : Link W) (w : W) (a : Action) :
    (a.step link (s, w)).1.Coherent ∧
      (a.step link (s, w)).1.outlived = a.strands link (s, w) s.outlived := by
  cases hsetter : a.isSetter with
  | true =>
    rw [Action.strands_of_isSetter link _ _ hsetter]
    exact h.setting link w (Action.setting hsetter s)
  | false =>
    cases a with
    | connect | reconnect => exact h.connect link w
    | disconnect => exact Coherent.disconnect link s w
    | reset =>
      change (s.reset.run link.reply w).1.1.Coherent ∧
        (s.reset.run link.reply w).1.1.outlived = s.outlived
      rw [reset_eq_sending]
      apply h.sending
      exact fun _ _ => ⟨⟨rfl, fun _ => rfl, rfl⟩, rfl, rfl⟩
    | configureExternalTrigger mode edge =>
      obtain ⟨trigger, htrigger⟩ :=
        (through_configureExternalTrigger s mode edge).run_post link.reply w
      change ((s.configureExternalTrigger mode edge).run link.reply w).1.1.Coherent ∧
        ((s.configureExternalTrigger mode edge).run link.reply w).1.1.outlived = s.outlived
      rw [htrigger]
      exact ⟨h.setTrigger trigger, rfl⟩
    | setTrigger trigger => exact ⟨h.setTrigger trigger, rfl⟩
    | use u =>
      simp only [Action.step, Action.perform, Interaction.run_bind]
      exact ⟨h, rfl⟩
    | _ => cases hsetter

/-- A course of actions keeps a session coherent, and `stranded` says whether settings outlive their
connection after it. -/
theorem Coherent.course {x : Session × W} (h : x.1.Coherent) (link : Link W)
    (actions : List Action) :
    (course link actions x).1.Coherent ∧
      (course link actions x).1.outlived = stranded link actions x x.1.outlived := by
  induction actions generalizing x with
  | nil => exact ⟨h, rfl⟩
  | cons a rest ih =>
    obtain ⟨hnext, houtlived⟩ := h.step link x.2 a
    obtain ⟨hcoherent, hstranded⟩ := ih hnext
    refine ⟨hcoherent, hstranded.trans ?_⟩
    rw [houtlived]
    rfl

theorem Coherent.memory_eq_latestFrame_iff {s : Session} (h : s.Coherent) :
    s.memory = .latestFrame ↔ ∃ p, s.acquisition = some p ∧ p.mode = .frameAveraging := by
  rw [h.memory]
  cases s.acquisition with
  | none => simp
  | some p => cases hmode : p.mode <;> simp [MemoryKind.ofMode, hmode]

/-- Over every driver and after every course of actions, the memory is `latestFrame` if and only if
acquisition parameters are remembered whose mode is `frameAveraging`, and the ring in every other
mode and while none are remembered. -/
theorem memory_follows_mode (link : Link W) (w : W) (serial : Option String)
    (actions : List Action) :
    let s := (course link actions (new serial, w)).1
    (s.frames.kind = .latestFrame ↔ ∃ p, s.acquisition = some p ∧ p.mode = .frameAveraging) ∧
      (s.frames.kind = .ring ↔ ∀ p, s.acquisition = some p → p.mode ≠ .frameAveraging) := by
  intro s
  have hcoherent : s.Coherent :=
    (Coherent.course (x := (new serial, w)) (coherent_new serial) link actions).1
  have hlatest : s.frames.kind = .latestFrame ↔ _ := hcoherent.memory_eq_latestFrame_iff
  have hring : s.frames.kind = .ring ↔ ¬ s.frames.kind = .latestFrame := by
    cases s.frames.kind <;> simp
  refine ⟨hlatest, ?_⟩
  rw [hring, hlatest]
  simp

/-- Without a connection a setter decides on its own, whatever is remembered. -/
theorem setter_of_not_connected {s : Session} (hclosed : s.isConnected = false) {a : Action}
    (ha : a.isSetter = true) : ∃ result, a.perform s = return (s, result) := by
  have hsetting := Action.setting ha s
  generalize a.perform s = d at hsetting ⊢
  cases hsetting with
  | unknown => exact ⟨_, rfl⟩
  | unchanged => exact ⟨_, rfl⟩
  | acquisition p hcurrent => exact ⟨_, sending_of_not_connected hclosed _ _⟩
  | format f hcurrent => exact ⟨_, sending_of_not_connected hclosed _ _⟩

/-- Of a coherent session nothing more is needed than that its settings do not outlive its
connection. -/
theorem Coherent.inStep_iff {s : Session} (h : s.Coherent) : s.InStep ↔ s.outlived = false := by
  have hframe := h.frame
  constructor
  · intro hstep
    have hacquisition := hstep.acquisition
    unfold outlived
    cases hopen : s.isConnected <;> simp_all
  · intro houtlived
    have hacquisition : s.isConnected = true ↔ s.acquisition.isSome = true := by
      refine ⟨h.connected, fun hsome => ?_⟩
      simpa [outlived, hsome] using houtlived
    have hnone (hclosed : s.isConnected = false) : s.acquisition = none := by
      simpa [hclosed] using hacquisition
    refine ⟨hacquisition, by rw [hframe]; exact hacquisition, ?_, ?_⟩
    · intro hclosed
      rw [h.memory, hnone hclosed]
      rfl
    · intro hclosed a ha
      have hnoframe : s.frame = none := by simpa [hnone hclosed] using hframe
      have hsetting := Action.setting ha s
      generalize a.perform s = d at hsetting ⊢
      cases hsetting with
      | unknown => rfl
      | unchanged hknown => simp [hnone hclosed, hnoframe] at hknown
      | acquisition p hcurrent => simp [hnone hclosed] at hcurrent
      | format f hcurrent => simp [hnoframe] at hcurrent

/-- After every course of actions, over every driver, a new session is `Coherent`, and its setters
make no call while it is not connected. It is `InStep`, with settings remembered exactly while it is
connected, if and only if it is not `stranded`: each connecting call that failed while the session
was connected was followed by a `disconnect` or by a connecting call that the driver accepted. -/
theorem course_inStep_iff (link : Link W) (w : W) (serial : Option String)
    (actions : List Action) :
    let s := (course link actions (new serial, w)).1
    s.Coherent ∧ (s.InStep ↔ stranded link actions (new serial, w) false = false) ∧
      (s.isConnected = false → ∀ a : Action, a.isSetter = true →
        ∃ result, a.perform s = return (s, result)) := by
  intro s
  obtain ⟨hcoherent, hstranded⟩ :=
    Coherent.course (x := (new serial, w)) (coherent_new serial) link actions
  refine ⟨hcoherent, ?_, fun hclosed a ha => setter_of_not_connected hclosed ha⟩
  rw [hcoherent.inStep_iff, hstranded]
  rfl

/-- The replies of a driver that turns every call down. -/
def refusal (code : ResultCode) : (c : Call) → c.Reply
  | .devicesCount => 0
  | .devicesInfo => []
  | .connectBySerial _ ctx | .connectByIndex _ ctx | .disconnect ctx => (ctx, .error code)
  | .pixelsInFrame _ => none
  | .operate _ _ => .error code

/-- Reconnecting against a driver that turns the second connecting call down takes the connection
and leaves the settings. -/
theorem turned_down_reconnect_not_inStep :
    ¬ (course (Scripted.link Emulator.link) [.connect, .reconnect]
      (new none, ⟨[⟨.connectBySerial, none, [none, some (refusal .connectFailed)]⟩],
        .new .default⟩)).1.InStep := by
  intro hstep
  exact absurd (hstep.acquisition.mpr rfl) (by decide)

end Spectrometer.Session
