import Spectrometer.Proofs.Emulator.Effect
import Spectrometer.Proofs.Session.Outcome

/-!
Whether what a session remembers is what the device holds. While nobody else takes the session's
context or changes the settings of the device behind it, a connected session remembers the device's
settings, whichever calls fail and whichever device a connecting call leads to.
-/

namespace Spectrometer.Session

variable {s : Session} {e : Emulator}

/-- The session's context is bound to a device, whose settings are those that it remembers. -/
def Remembers (s : Session) (e : Emulator) : Prop :=
  ∃ i p f, e.deviceOf? s.handle.ctx = some i ∧ e.devices[i]?.map (·.settings) = some (p, f) ∧
    s.acquisition = some p ∧ s.frame = some f

/-- The contexts in use are sound, and a connected session remembers its device. -/
structure Mirrors (s : Session) (e : Emulator) : Prop where
  sound : e.Sound
  remembers : s.isConnected = true → s.Remembers e

/-- The event neither takes a connected session's context nor changes the settings of the device
behind it. -/
def SparesSettings (s : Session) (e : Emulator) (event : Emulator.Event) : Prop :=
  s.isConnected = true → ∀ c, event.call? = some c → c.renewed? ≠ some s.handle.ctx ∧
    ∀ ctx r, c = .operate ctx r → e.deviceOf? ctx = e.deviceOf? s.handle.ctx →
      r.changesSettings = false

/-- What a session and an emulator come to while the session is the only writer of the device that
it is connected to. -/
inductive SoleWriter (serial : Option String) (start : Emulator) : Session → Emulator → Prop
  | start : SoleWriter serial start (new serial) start
  | act {s : Session} {e : Emulator} (a : Action) (h : SoleWriter serial start s e) :
      SoleWriter serial start (a.step Emulator.link (s, e)).1 (a.step Emulator.link (s, e)).2
  | event {s : Session} {e : Emulator} (event : Emulator.Event) (h : SoleWriter serial start s e)
      (hspares : s.SparesSettings e event) : SoleWriter serial start s (event.apply e)

/-- A refused request leaves everything as it is; for an accepted one the session has to go on with
what the device then holds. -/
theorem Mirrors.sending (h : s.Mirrors e) (r : Request) (next : r.Value → Session)
    (hnext : ∀ limit d d' value, s.acquisition = some d.acquisition → s.frame = some d.format →
      Device.perform d limit r = .ok (value, d') → (next value).handle = s.handle ∧
        (next value).acquisition = some d'.acquisition ∧ (next value).frame = some d'.format) :
    ((s.sending r next).run Emulator.link.reply e).1.1.Mirrors
      ((s.sending r next).run Emulator.link.reply e).2 := by
  refine ⟨h.sound.run _, ?_⟩
  obtain ⟨_, heq⟩ | ⟨hconnected, code, e', hlink, heq⟩ | ⟨hconnected, value, e', hlink, heq⟩ :=
    sending_cases Emulator.link s r next e
  · rw [heq]
    exact h.remembers
  · rw [heq, Emulator.link_operate_error hlink]
    exact h.remembers
  · obtain ⟨i, d, d', hi, hd, hperform, rfl⟩ := Emulator.link_operate_ok hlink
    rw [heq]
    intro _
    obtain ⟨j, p, f, hj, hsettings, hacquisition, hframe⟩ := h.remembers hconnected
    rw [hi] at hj
    cases hj
    rw [hd] at hsettings
    cases hsettings
    obtain ⟨hhandle, hacquisition', hframe'⟩ := hnext _ d d' value hacquisition hframe hperform
    refine ⟨i, d'.acquisition, d'.format, ?_, ?_, hacquisition', hframe'⟩
    · rw [hhandle]
      exact hi
    · have hlt := (h.sound.of_deviceOf? hi).2
      simp only [List.getElem?_set_self hlt]
      rfl

theorem Mirrors.setting (h : s.Mirrors e) {d : Dialogue (Session × Except DeviceError Unit)}
    (hd : Setting s d) :
    (d.run Emulator.link.reply e).1.1.Mirrors (d.run Emulator.link.reply e).2 := by
  cases hd with
  | unknown => exact h
  | unchanged => exact h
  | acquisition p hcurrent =>
    apply h.sending
    intro limit d d' value _ hframe hperform
    cases hperform
    exact ⟨remember_handle .., remember_acquisition .., (remember_frame ..).trans hframe⟩
  | format f hcurrent =>
    apply h.sending
    intro limit d d' size hacquisition _ hperform
    rw [Device.setFormat_eq hperform]
    exact ⟨rfl, hacquisition, rfl⟩

theorem Mirrors.reset (h : s.Mirrors e) :
    (s.reset.run Emulator.link.reply e).1.1.Mirrors (s.reset.run Emulator.link.reply e).2 := by
  rw [reset_eq_sending]
  apply h.sending
  intro limit d d' value _ _ hperform
  cases hperform
  exact ⟨rfl, rfl, rfl⟩

/-- What goes through the session's handle without changing settings leaves them remembered. -/
theorem Remembers.through {α : Type} {d : Dialogue α} {kind : Request → Prop} {post : α → Prop}
    (h : s.Remembers e) (hsound : e.Sound) (hd : d.Obeys (Utterance.Through s.handle kind) post)
    (hkind : ∀ r, kind r → r.changesSettings = false) :
    s.Remembers (d.run Emulator.link.reply e).2 := by
  obtain ⟨i, p, f, hi, hsettings, hacquisition, hframe⟩ := h
  refine ⟨i, p, f, Emulator.deviceOf?_through hd hsound hi, ?_, hacquisition, hframe⟩
  rw [Emulator.map_view_through hd ?_ i, hsettings]
  exact fun r hr limit d d' value hperform => Device.perform_settings (hkind r hr) hperform

/-- Settings that were read are those of the device behind the context. -/
theorem loadSettings_settings {ctx : Context} {i : Nat} {p : Acquisition} {f : FrameParameters}
    {e' : Emulator} (hi : e.deviceOf? ctx = some i)
    (hload : (loadSettings ⟨ctx, true⟩).run.run Emulator.link.reply e = (.ok (p, f), e')) :
    e'.deviceOf? ctx = some i ∧ e'.devices[i]?.map (·.settings) = some (p, f) := by
  obtain ⟨e₁, hfirst, hsecond⟩ := loadSettings_ok hload
  obtain ⟨i₁, d, d₁, hi₁, hd, hperform, rfl⟩ := Emulator.link_operate_ok hfirst
  rw [hi] at hi₁
  cases hi₁
  cases hperform
  obtain ⟨i₂, d₂, d₃, hi₂, hd₂, hperform, rfl⟩ := Emulator.link_operate_ok hsecond
  change e.deviceOf? ctx = some i₂ at hi₂
  rw [hi] at hi₂
  cases hi₂
  cases hperform
  have hlt : i < e.devices.length := (List.getElem?_eq_some_iff.mp hd).1
  simp only [List.getElem?_set_self hlt] at hd₂
  cases hd₂
  refine ⟨hi, ?_⟩
  simp only [List.set_set, List.getElem?_set_self hlt]
  rfl

theorem Mirrors.connect (h : s.Mirrors e) :
    (s.connect.run Emulator.link.reply e).1.1.Mirrors (s.connect.run Emulator.link.reply e).2 := by
  refine ⟨h.sound.run _, ?_⟩
  obtain ⟨ctx, code, e', _, heq⟩ | ⟨ctx, e₁, hlink, ⟨_, _, _, heq⟩ | ⟨p, f, e₂, hload, heq⟩⟩ :=
    connect_cases Emulator.link s e
  · rw [heq]
    exact nofun
  · rw [heq]
    exact nofun
  · obtain ⟨i, hi⟩ := h.sound.deviceOf?_connected hlink
    obtain ⟨hbound, hsettings⟩ := loadSettings_settings hi hload
    rw [heq]
    exact fun _ => ⟨i, p, f, hbound, hsettings, rfl, rfl⟩

theorem Mirrors.disconnect (h : s.Mirrors e) :
    (s.disconnect.run Emulator.link.reply e).1.1.Mirrors
      (s.disconnect.run Emulator.link.reply e).2 := by
  refine ⟨h.sound.run _, ?_⟩
  obtain ⟨hclosed, heq⟩ | ⟨_, heq⟩ := disconnect_cases Emulator.link s e
  · rw [heq]
    intro hconnected
    exact absurd (hclosed.symm.trans hconnected) nofun
  · rw [heq]
    exact nofun

/-- Every action leaves a connected session with the settings of its device. -/
theorem Mirrors.step (h : s.Mirrors e) (a : Action) :
    (a.step Emulator.link (s, e)).1.Mirrors (a.step Emulator.link (s, e)).2 := by
  cases hsetter : a.isSetter with
  | true => exact h.setting (Action.setting hsetter s)
  | false =>
    cases a with
    | connect | reconnect => exact h.connect
    | disconnect => exact h.disconnect
    | reset => exact h.reset
    | configureExternalTrigger mode edge =>
      have hthrough := s.through_configureExternalTrigger mode edge
      obtain ⟨trigger, htrigger⟩ := hthrough.run_post Emulator.link.reply e
      refine ⟨h.sound.run (s.configureExternalTrigger mode edge), ?_⟩
      simp only [Action.step, Action.perform, htrigger]
      intro hconnected
      refine (h.remembers hconnected).through h.sound hthrough ?_
      rintro r ⟨mode, edge, rfl⟩
      rfl
    | setTrigger trigger => exact ⟨h.sound, h.remembers⟩
    | use u =>
      refine ⟨h.sound.run ((Action.use u).perform s), ?_⟩
      simp only [Action.step, Action.perform, Interaction.run_bind]
      intro hconnected
      refine (h.remembers hconnected).through h.sound (u.through s) ?_
      exact fun r => Request.changesSettings_eq_false
    | _ => cases hsetter

theorem Mirrors.event (h : s.Mirrors e) {event : Emulator.Event}
    (hspares : s.SparesSettings e event) : s.Mirrors (event.apply e) := by
  refine ⟨event.sound h.sound, fun hconnected => ?_⟩
  obtain ⟨i, p, f, hi, hsettings, hacquisition, hframe⟩ := h.remembers hconnected
  have hcall := hspares hconnected
  refine ⟨i, p, f, ?_, ?_, hacquisition, hframe⟩
  · exact event.deviceOf?_apply h.sound hi fun c hc => (hcall c hc).1
  · rw [event.map_view_apply i (fun _ _ _ => rfl) ?_, hsettings]
    intro ctx r hc hi' d d' value hperform
    refine Device.perform_settings ?_ hperform
    exact (hcall _ hc).2 ctx r rfl (hi'.trans hi.symm)

theorem SoleWriter.mirrors {serial : Option String} {start : Emulator} (hstart : start.Sound)
    (h : SoleWriter serial start s e) : s.Mirrors e := by
  induction h with
  | start => exact ⟨hstart, nofun⟩
  | act a _ ih => exact ih.step a
  | event event _ hspares ih => exact ih.event hspares

/-- While a session is the only writer of its device, a connected session's `acquisition` and
`frame` equal the device's acquisition parameters and format, in every state that actions, injected
faults and detached devices lead to. Its handle's `frameSize` returns the size in that format. -/
theorem remembered_settings_are_device_settings (config : EmulatorConfig) (devices : List Device)
    (serial : Option String)
    (h : SoleWriter serial { Emulator.new config with devices } s e)
    (hconnected : s.isConnected = true) :
    ∃ i d, e.deviceOf? s.handle.ctx = some i ∧ e.devices[i]? = some d ∧
      s.acquisition = some d.acquisition ∧ s.frame = some d.format ∧
      (s.handle.frameSize.run Emulator.link.reply e).1 = d.format.size := by
  obtain ⟨i, p, f, hi, hsettings, hacquisition, hframe⟩ :=
    (h.mirrors (Emulator.sound_new config devices)).remembers hconnected
  obtain ⟨d, hd, heq⟩ := Option.map_eq_some_iff.mp hsettings
  cases heq
  refine ⟨i, d, hi, hd, hacquisition, hframe, ?_⟩
  obtain ⟨-, hlookup⟩ := Emulator.deviceOf?_eq_some_iff.mp hi
  change (((e.contexts.lookup s.handle.ctx.raw).bind (e.devices[·]?)).map (·.format.size)).getD
    Frame.defaultSize = d.format.size
  rw [hlookup]
  simp [hd]

/-- A session that changes the number of scans and then has a change of the range refused. -/
theorem refused_range_settings_are_device_settings :
    ∃ s e, SoleWriter none .twin s e ∧
      s.isConnected = true ∧ s.acquisition = some { Acquisition.factory with scans := 5 } ∧
      s.frame = some .factory ∧ ∃ i d, e.deviceOf? s.handle.ctx = some i ∧ e.devices[i]? = some d ∧
        s.acquisition = some d.acquisition ∧ s.frame = some d.format ∧
        (s.handle.frameSize.run Emulator.link.reply e).1 = d.format.size := by
  have hstart : SoleWriter none .twin (new none) .twin := .start
  have hscans := (hstart.act .connect).act (.setScans 5)
  have hrun := (hscans.event (.failNext .setFormat .writeFailed) fun _ _ hcall => nomatch hcall).act
    (.setRange 10 20)
  exact ⟨_, _, hrun, by decide, by decide, by decide,
    remembered_settings_are_device_settings .default _ none hrun (by decide)⟩

end Spectrometer.Session
