import Spectrometer.Proofs.Session.Action

/-!
How the actions of a session end. Each lemma says once all that an action can do: setters decide on
their own or send one request whose refusal changes nothing (`Setting`), connecting ends in one of
three ways (`connect_cases`), disconnecting forgets whatever the driver says.
-/

namespace Spectrometer

namespace ExternalTrigger

/-- A change from one setup to another: nothing is sent for the same one, and a refusal keeps the
old one. -/
def adopt (t next : ExternalTrigger) (h : Handle) :
    Dialogue (ExternalTrigger × Except DeviceError Bool) := do
  if t = next then
    return (t, .ok false)
  else
    match ← (h.request (.setExternalTrigger next.mode next.edge)).run with
    | .ok () => return (next, .ok true)
    | .error e => return (t, .error e)

theorem setMode_eq_adopt (t : ExternalTrigger) (h : Handle) (mode : ExternalMode) :
    t.setMode h mode = t.adopt { t with mode } h := by
  unfold setMode adopt
  by_cases hsame : t.mode = mode
  · rw [if_pos hsame, if_pos (by rw [← hsame])]
  · rw [if_neg hsame, if_neg fun heq => hsame (congrArg ExternalTrigger.mode heq)]
    congr 1
    funext result
    cases result <;> rfl

theorem setEdge_eq_adopt (t : ExternalTrigger) (h : Handle) (edge : SignalEdge) :
    t.setEdge h edge = t.adopt { t with edge } h := by
  unfold setEdge adopt
  by_cases hsame : t.edge = edge
  · rw [if_pos hsame, if_pos (by rw [← hsame])]
  · rw [if_neg hsame, if_neg fun heq => hsame (congrArg ExternalTrigger.edge heq)]
    congr 1
    funext result
    cases result <;> rfl

end ExternalTrigger

namespace Session

/-- A request after whose success the session is another one; a refusal leaves it as it is. -/
def sending (s : Session) (r : Request) (next : r.Value → Session) :
    Dialogue (Session × Except DeviceError Unit) := do
  match ← (s.handle.request r).run with
  | .error e => return (s, .error e)
  | .ok value => return (next value, .ok ())

/-- The session with accepted parameters in place of `current`; the frames are addressed anew if
the scan mode is another one. -/
def remember (s : Session) (current p : Acquisition) : Session :=
  if current.mode ≠ p.mode then { s with acquisition := some p }.selectMemory
  else { s with acquisition := some p }

@[simp] theorem remember_handle (s : Session) (current p : Acquisition) :
    (s.remember current p).handle = s.handle := by
  unfold remember
  split <;> rfl

@[simp] theorem remember_acquisition (s : Session) (current p : Acquisition) :
    (s.remember current p).acquisition = some p := by
  unfold remember
  split <;> rfl

@[simp] theorem remember_frame (s : Session) (current p : Acquisition) :
    (s.remember current p).frame = s.frame := by
  unfold remember
  split <;> rfl

@[simp] theorem remember_trigger (s : Session) (current p : Acquisition) :
    (s.remember current p).trigger = s.trigger := by
  unfold remember
  split <;> rfl

/-- Sending acquisition parameters: nothing is known, nothing changes, or one request decides. -/
theorem applyAcquisition_cases (s : Session) (p : Acquisition) :
    (s.acquisition = none ∧
        (Action.applyAcquisition p).perform s = return (s, .error .notConnected)) ∨
      (s.acquisition = some p.withoutIdleBlanks ∧
        (Action.applyAcquisition p).perform s = return (s, .ok ())) ∨
      ∃ current, s.acquisition = some current ∧ current ≠ p.withoutIdleBlanks ∧
        (Action.applyAcquisition p).perform s = s.sending (.setAcquisition p.withoutIdleBlanks)
          fun _ => s.remember current p.withoutIdleBlanks := by
  cases hcurrent : s.acquisition with
  | none =>
    refine Or.inl ⟨rfl, ?_⟩
    simp only [Action.perform, applyAcquisition, hcurrent, pure_bind]
    rfl
  | some current =>
    by_cases hsame : current = p.withoutIdleBlanks
    · refine Or.inr (Or.inl ⟨by rw [hsame], ?_⟩)
      simp only [Action.perform, applyAcquisition, hcurrent, if_pos hsame, pure_bind]
      rfl
    · refine Or.inr (Or.inr ⟨current, rfl, hsame, ?_⟩)
      simp only [Action.perform, applyAcquisition, hcurrent, if_neg hsame, bind_assoc, sending]
      congr 1
      funext result
      cases result <;> rfl

/-- Sending a frame format: nothing is known, nothing changes, or one request decides. -/
theorem applyFormat_cases (s : Session) (f : FrameFormat) :
    (s.frame = none ∧ (Action.applyFormat f).perform s = return (s, .error .notConnected)) ∨
      (∃ current, s.frame = some current ∧ current.format = f ∧
        (Action.applyFormat f).perform s = return (s, .ok ())) ∨
      ∃ current, s.frame = some current ∧ current.format ≠ f ∧
        (Action.applyFormat f).perform s = s.sending (.setFormat f)
          fun size => { s with frame := some ⟨f, size⟩ } := by
  cases hcurrent : s.frame with
  | none =>
    refine Or.inl ⟨rfl, ?_⟩
    simp only [Action.perform, applyFormat, hcurrent, pure_bind]
    rfl
  | some current =>
    by_cases hsame : current.format = f
    · refine Or.inr (Or.inl ⟨current, rfl, hsame, ?_⟩)
      simp only [Action.perform, applyFormat, hcurrent, if_pos hsame, pure_bind]
      rfl
    · refine Or.inr (Or.inr ⟨current, rfl, hsame, ?_⟩)
      simp only [Action.perform, applyFormat, hcurrent, if_neg hsame, bind_assoc, sending]
      congr 1
      funext result
      cases result <;> rfl

/-- The ways in which a setter ends: nothing is known to change, nothing changes, or one request
decides. -/
inductive Setting (s : Session) : Dialogue (Session × Except DeviceError Unit) → Prop
  | unknown (hunknown : s.acquisition = none ∨ s.frame = none) :
      Setting s (return (s, .error .notConnected))
  | unchanged (hknown : s.acquisition.isSome = true ∨ s.frame.isSome = true) :
      Setting s (return (s, .ok ()))
  | acquisition {current : Acquisition} (p : Acquisition)
      (hcurrent : s.acquisition = some current) :
      Setting s (s.sending (.setAcquisition p) fun _ => s.remember current p)
  | format {current : FrameParameters} (f : FrameFormat) (hcurrent : s.frame = some current) :
      Setting s (s.sending (.setFormat f) fun size => { s with frame := some ⟨f, size⟩ })

theorem setting_applyAcquisition (s : Session) (p : Acquisition) :
    Setting s ((Action.applyAcquisition p).perform s) := by
  obtain ⟨hnone, heq⟩ | ⟨hsame, heq⟩ | ⟨current, hcurrent, _, heq⟩ := s.applyAcquisition_cases p
  · rw [heq]
    exact .unknown (Or.inl hnone)
  · rw [heq]
    exact .unchanged (Or.inl (by rw [hsame]; rfl))
  · rw [heq]
    exact .acquisition _ hcurrent

theorem setting_applyFormat (s : Session) (f : FrameFormat) :
    Setting s ((Action.applyFormat f).perform s) := by
  obtain ⟨hnone, heq⟩ | ⟨current, hcurrent, _, heq⟩ | ⟨current, hcurrent, _, heq⟩ :=
    s.applyFormat_cases f
  · rw [heq]
    exact .unknown (Or.inr hnone)
  · rw [heq]
    exact .unchanged (Or.inr (by rw [hcurrent]; rfl))
  · rw [heq]
    exact .format f hcurrent

theorem setting_updateAcquisition (s : Session) (change : Acquisition → Acquisition) :
    Setting s (s.updateAcquisition change) := by
  unfold updateAcquisition
  cases hcurrent : s.acquisition with
  | none => exact .unknown (Or.inl hcurrent)
  | some current => exact s.setting_applyAcquisition (change current)

theorem setting_updateFormat (s : Session) (change : FrameFormat → FrameFormat) :
    Setting s (s.updateFormat change) := by
  unfold updateFormat
  cases hcurrent : s.frame with
  | none => exact .unknown (Or.inr hcurrent)
  | some current => exact s.setting_applyFormat (change current.format)

/-- Setting the scan mode compares the mode alone before it compares all parameters. -/
theorem setting_setMode (s : Session) (mode : ScanMode) : Setting s (s.setMode mode) := by
  unfold setMode
  cases hcurrent : s.acquisition with
  | none => exact .unknown (Or.inl hcurrent)
  | some current =>
    by_cases hsame : current.mode = mode
    · simp only [if_pos hsame]
      exact .unchanged (Or.inl (by rw [hcurrent]; rfl))
    · simp only [if_neg hsame]
      exact s.setting_updateAcquisition _

theorem Action.setting {a : Action} (ha : a.isSetter = true) (s : Session) :
    Setting s (a.perform s) := by
  cases a with
  | setScans | setBlankScans | setExposure => exact s.setting_updateAcquisition _
  | setMode mode => exact s.setting_setMode mode
  | setRange first last => exact s.setting_updateFormat fun f => { f with first, last }
  | setReduction reduction => exact s.setting_updateFormat fun f => { f with reduction }
  | applyAcquisition p => exact s.setting_applyAcquisition p
  | applyFormat f => exact s.setting_applyFormat f
  | _ => cases ha

variable {W : Type}

/-- A request that the session sends over a link: it is not connected and sends nothing, or it is
refused and stays as it is, or it goes on as it should. -/
theorem sending_cases (link : Link W) (s : Session) (r : Request) (next : r.Value → Session)
    (w : W) :
    (s.handle.connected = false ∧
        (s.sending r next).run link.reply w = ((s, .error .notConnected), w)) ∨
      (s.handle.connected = true ∧ ∃ code w', link (.operate s.handle.ctx r) w = (.error code, w') ∧
        (s.sending r next).run link.reply w = ((s, .error (.ofCode code)), w')) ∨
      (s.handle.connected = true ∧ ∃ value w', link (.operate s.handle.ctx r) w = (.ok value, w') ∧
        (s.sending r next).run link.reply w = ((next value, .ok ()), w')) := by
  unfold sending
  rw [Interaction.run_bind, Handle.run_request]
  cases hconnected : s.handle.connected with
  | false => exact Or.inl ⟨rfl, rfl⟩
  | true =>
    rw [if_pos rfl]
    cases link (.operate s.handle.ctx r) w with
    | mk reply w' =>
      cases reply with
      | error code => exact Or.inr (Or.inl ⟨rfl, code, w', rfl, rfl⟩)
      | ok value => exact Or.inr (Or.inr ⟨rfl, value, w', rfl, rfl⟩)

theorem sending_of_not_connected {s : Session} (hclosed : s.isConnected = false) (r : Request)
    (next : r.Value → Session) : s.sending r next = return (s, .error .notConnected) := by
  change s.handle.connected = false at hclosed
  unfold sending Handle.request
  rw [hclosed]
  rfl

theorem reset_eq_sending (s : Session) :
    s.reset = s.sending .reset fun _ =>
      { s with acquisition := some .factory, frame := some .factory,
               trigger := .software }.selectMemory := by
  unfold reset sending
  congr 1
  funext result
  cases result <;> rfl

theorem through_loadSettings {kind : Request → Prop} (h : Handle)
    (hacquisition : kind .getAcquisition) (hformat : kind .getFormat) :
    Attempt.Through h kind (loadSettings h) :=
  (h.through_request hacquisition).bind fun _ => (h.through_request hformat).bind fun _ => .pure _

/-- Settings are read by two requests, and the first that fails ends it. -/
theorem loadSettings_cases (link : Link W) (ctx : Context) (w : W) :
    (∃ code w₁, link (.operate ctx .getAcquisition) w = (.error code, w₁) ∧
        (loadSettings ⟨ctx, true⟩).run.run link.reply w = (.error (.ofCode code), w₁)) ∨
      ∃ p w₁, link (.operate ctx .getAcquisition) w = (.ok p, w₁) ∧
        ((∃ code w₂, link (.operate ctx .getFormat) w₁ = (.error code, w₂) ∧
            (loadSettings ⟨ctx, true⟩).run.run link.reply w = (.error (.ofCode code), w₂)) ∨
          ∃ f w₂, link (.operate ctx .getFormat) w₁ = (.ok f, w₂) ∧
            (loadSettings ⟨ctx, true⟩).run.run link.reply w = (.ok (p, f), w₂)) := by
  unfold loadSettings
  cases hfirst : link (.operate ctx .getAcquisition) w with
  | mk reply w₁ =>
    cases reply with
    | error code =>
      have hfailed := Handle.run_request_error (h := ⟨ctx, true⟩) rfl hfirst
      exact Or.inl ⟨code, w₁, rfl, Interaction.run_bind_error hfailed _⟩
    | ok p =>
      have hread := Handle.run_request_ok (h := ⟨ctx, true⟩) rfl hfirst
      refine Or.inr ⟨p, w₁, rfl, ?_⟩
      rw [Interaction.run_bind_ok hread]
      cases hsecond : link (.operate ctx .getFormat) w₁ with
      | mk reply w₂ =>
        cases reply with
        | error code =>
          have hfailed := Handle.run_request_error (h := ⟨ctx, true⟩) rfl hsecond
          exact Or.inl ⟨code, w₂, rfl, Interaction.run_bind_error hfailed _⟩
        | ok f =>
          have hread := Handle.run_request_ok (h := ⟨ctx, true⟩) rfl hsecond
          exact Or.inr ⟨f, w₂, rfl, Interaction.run_bind_ok hread _⟩

/-- Both have to succeed. -/
theorem loadSettings_ok {link : Link W} {ctx : Context} {w w₂ : W} {p : Acquisition}
    {f : FrameParameters}
    (hload : (loadSettings ⟨ctx, true⟩).run.run link.reply w = (.ok (p, f), w₂)) :
    ∃ w₁, link (.operate ctx .getAcquisition) w = (.ok p, w₁) ∧
      link (.operate ctx .getFormat) w₁ = (.ok f, w₂) := by
  obtain ⟨code, w₁, -, hrun⟩ | ⟨p, w₁, hfirst, ⟨code, w₂, -, hrun⟩ | ⟨f, w₂, hsecond, hrun⟩⟩ :=
    loadSettings_cases link ctx w
  · cases hload.symm.trans hrun
  · cases hload.symm.trans hrun
  · cases hload.symm.trans hrun
    exact ⟨w₁, hfirst, hsecond⟩

/-- Connecting is refused, or fails when the settings are read and releases the device again, or
reads the settings. -/
theorem connect_cases (link : Link W) (s : Session) (w : W) :
    (∃ ctx code w', link (.connectBySerial s.serial s.handle.ctx) w = ((ctx, .error code), w') ∧
        s.connect.run link.reply w =
          (({ s with handle := ⟨ctx, false⟩ }, .error (.ofCode code)), w')) ∨
      ∃ ctx w₁, link (.connectBySerial s.serial s.handle.ctx) w = ((ctx, .ok ()), w₁) ∧
        ((∃ e w₂, (loadSettings ⟨ctx, true⟩).run.run link.reply w₁ = (.error e, w₂) ∧
            s.connect.run link.reply w =
              (({ s with handle := .new }.forget, .error e), (link (.disconnect ctx) w₂).2)) ∨
          ∃ p f w₂, (loadSettings ⟨ctx, true⟩).run.run link.reply w₁ = (.ok (p, f), w₂) ∧
            s.connect.run link.reply w =
              (({ s with handle := ⟨ctx, true⟩, acquisition := some p,
                         frame := some f }.selectMemory, .ok ()), w₂)) := by
  unfold connect Handle.connect
  rw [Interaction.run_bind, Interaction.run_bind, Dialogue.run_call]
  cases link (.connectBySerial s.serial s.handle.ctx) w with
  | mk reply w₁ =>
    obtain ⟨ctx, verdict⟩ := reply
    cases verdict with
    | error code => exact Or.inl ⟨ctx, code, w₁, rfl, rfl⟩
    | ok done =>
      cases done
      refine Or.inr ⟨ctx, w₁, rfl, ?_⟩
      simp only [Interaction.pure_eq_done, Interaction.run_done, Handle.afterConnect_ok]
      rw [Interaction.run_bind]
      cases (loadSettings ⟨ctx, true⟩).run.run link.reply w₁ with
      | mk loaded w₂ =>
        cases loaded with
        | error e =>
          refine Or.inl ⟨e, w₂, rfl, ?_⟩
          -- A release that fails leaves a warning and nothing else.
          simp only [Interaction.run_bind, Handle.run_disconnect, if_true]
          cases link (.disconnect ctx) w₂ with
          | mk reply w₃ =>
            obtain ⟨_, released⟩ := reply
            cases released <;> rfl
        | ok settings => exact Or.inr ⟨settings.1, settings.2, w₂, rfl, rfl⟩

/-- Disconnecting forgets the settings; only a connected session calls the driver for it. -/
theorem disconnect_cases (link : Link W) (s : Session) (w : W) :
    (s.handle.connected = false ∧
        s.disconnect.run link.reply w = ((s.forget, .error .notConnected), w)) ∨
      (s.handle.connected = true ∧ s.disconnect.run link.reply w =
        (({ s with handle := .new }.forget,
            (link (.disconnect s.handle.ctx) w).1.2.mapError .ofCode),
          (link (.disconnect s.handle.ctx) w).2)) := by
  unfold disconnect
  rw [Interaction.run_bind, Handle.run_disconnect]
  cases hconnected : s.handle.connected with
  | false => exact Or.inl ⟨rfl, rfl⟩
  | true => exact Or.inr ⟨rfl, rfl⟩

/-- Requests that set up the trigger input and nothing else. -/
def SetsTriggerInput (r : Request) : Prop := ∃ mode edge, r = .setExternalTrigger mode edge

theorem through_adopt (t next : ExternalTrigger) (h : Handle) :
    (t.adopt next h).Obeys (Utterance.Through h SetsTriggerInput) fun _ => True := by
  unfold ExternalTrigger.adopt
  by_cases hsame : t = next
  · rw [if_pos hsame]
    trivial
  · rw [if_neg hsame, Interaction.obeys_bind]
    apply Handle.obeys_request fun hconnected => ⟨hconnected, rfl, next.mode, next.edge, rfl⟩
    intro result
    cases result <;> trivial

theorem through_configure (t : ExternalTrigger) (h : Handle) (mode : ExternalMode)
    (edge : SignalEdge) :
    (t.configure h mode edge).Obeys (Utterance.Through h SetsTriggerInput) fun _ => True := by
  unfold ExternalTrigger.configure
  rw [ExternalTrigger.setMode_eq_adopt, Interaction.obeys_bind]
  apply (through_adopt t _ h).mono
  rintro ⟨t, result⟩ -
  cases result with
  | error e => trivial
  | ok changed =>
    simp only [ExternalTrigger.setEdge_eq_adopt, Interaction.obeys_bind]
    apply (through_adopt t _ h).mono
    rintro ⟨t, result⟩ -
    cases result <;> trivial

/-- Setting up the trigger input changes the session's trigger at most. -/
theorem through_configureExternalTrigger (s : Session) (mode : ExternalMode) (edge : SignalEdge) :
    (s.configureExternalTrigger mode edge).Obeys (Utterance.Through s.handle SetsTriggerInput)
      fun after => ∃ trigger, after.1 = s.setTrigger trigger := by
  have hnew : (ExternalTrigger.new s.handle mode edge).run.Obeys
      (Utterance.Through s.handle SetsTriggerInput) fun _ => True :=
    (s.handle.through_request ⟨mode, edge, rfl⟩).bind fun _ => .pure _
  unfold configureExternalTrigger
  cases htrigger : s.trigger with
  | external t =>
    simp only [Interaction.obeys_bind]
    exact (through_configure t s.handle mode edge).mono fun _ _ => ⟨_, rfl⟩
  | software | optical =>
    simp only [Interaction.obeys_bind]
    apply hnew.mono
    intro result _
    cases result with
    | ok t => exact ⟨.external t, rfl⟩
    | error e => exact ⟨s.trigger, rfl⟩

end Session

end Spectrometer
