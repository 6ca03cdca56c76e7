import Spectrometer.Proofs.Emulator.Effect
import Spectrometer.Proofs.Session.Outcome

/-!
Whether a session's external trigger is set up as the device behind the session is. The session
remembers a setup, but not of which device: the device that accepted it last is called its home
here. The home stays set up as remembered; the device that the context is bound to is another one
after a connecting call that the driver resolved differently.
-/

namespace Spectrometer

/-- How the trigger input of a device is set up. -/
def Emulator.triggerInput? (e : Emulator) (i : Nat) : Option (ExternalMode × SignalEdge) :=
  e.devices[i]?.map (·.externalTrigger)

theorem Emulator.triggerInput?_through {e : Emulator} {h : Handle} {kind : Request → Prop}
    {α : Type} {post : α → Prop} {d : Dialogue α} (hd : d.Obeys (Utterance.Through h kind) post)
    (hkind : ∀ r, kind r → r.changesTriggerInput = false) (i : Nat) :
    (d.run link.reply e).2.triggerInput? i = e.triggerInput? i := by
  have hview (r : Request) (hr : kind r) (limit : Option Nat) (d d' : Device) (value : r.Value)
      (hperform : d.perform limit r = .ok (value, d')) : d'.externalTrigger = d.externalTrigger :=
    Device.perform_externalTrigger (hkind r hr) hperform
  exact map_view_through hd hview i

namespace Session

variable {s : Session} {e : Emulator} {home : Option Nat}

/-- A remembered setup of the trigger input is that of the device behind the session. -/
def InTune (s : Session) (e : Emulator) : Prop :=
  ∀ t, s.trigger = .external t →
    ∃ i, e.deviceOf? s.handle.ctx = some i ∧ e.triggerInput? i = some (t.mode, t.edge)

/-- The event neither takes a connected session's context nor sets up the trigger input of the
device that the session last set up. -/
def SparesTriggerInput (s : Session) (e : Emulator) (home : Option Nat) (event : Emulator.Event) :
    Prop :=
  ∀ c, event.call? = some c → (s.isConnected = true → c.renewed? ≠ some s.handle.ctx) ∧
    ∀ ctx r i, c = .operate ctx r → home = some i → e.deviceOf? ctx = some i →
      r.changesTriggerInput = false

/-- What a session and an emulator come to while the trigger input that the session set up last is
set up by nobody else, with the home of the setup. External triggers are made by setting them up. -/
inductive SoleConfigurer (serial : Option String) (start : Emulator) :
    Session → Emulator → Option Nat → Prop
  | start : SoleConfigurer serial start (new serial) start none
  | act {s : Session} {e : Emulator} {home : Option Nat} (a : Action)
      (ha : ∀ t, a ≠ .setTrigger (.external t)) (h : SoleConfigurer serial start s e home) :
      SoleConfigurer serial start (a.step Emulator.link (s, e)).1 (a.step Emulator.link (s, e)).2
        (if (a.step Emulator.link (s, e)).1.trigger = s.trigger then home
          else e.deviceOf? s.handle.ctx)
  | event {s : Session} {e : Emulator} {home : Option Nat} (event : Emulator.Event)
      (hspares : s.SparesTriggerInput e home event) (h : SoleConfigurer serial start s e home) :
      SoleConfigurer serial start s (event.apply e) home

/-- A connected session's context is bound to a device, and the home of a remembered setup is set up
as remembered. -/
structure Homed (s : Session) (e : Emulator) (home : Option Nat) : Prop where
  sound : e.Sound
  bound : s.isConnected = true → ∃ i, e.deviceOf? s.handle.ctx = some i
  home : ∀ t, s.trigger = .external t →
    ∃ i, home = some i ∧ e.triggerInput? i = some (t.mode, t.edge)

/-- After an action the trigger and all trigger inputs are as before, or there is no external
trigger any more, or the device behind the session took the new setup. -/
structure Retunes (s : Session) (e : Emulator) (s' : Session) (e' : Emulator) : Prop where
  bound : s'.isConnected = true → ∃ i, e'.deviceOf? s'.handle.ctx = some i
  trigger : (s'.trigger = s.trigger ∧ ∀ i, e'.triggerInput? i = e.triggerInput? i) ∨
    ∀ t, s'.trigger = .external t → s'.trigger ≠ s.trigger ∧
      ∃ i, e.deviceOf? s.handle.ctx = some i ∧ e'.triggerInput? i = some (t.mode, t.edge)

theorem Homed.retune {s' : Session} {e' : Emulator} (h : s.Homed e home) (hsound : e'.Sound)
    (hretunes : s.Retunes e s' e') :
    s'.Homed e' (if s'.trigger = s.trigger then home else e.deviceOf? s.handle.ctx) := by
  refine ⟨hsound, hretunes.bound, ?_⟩
  intro t ht
  obtain ⟨hsame, hinputs⟩ | hchanged := hretunes.trigger
  · obtain ⟨i, hhome, hinput⟩ := h.home t (hsame.symm.trans ht)
    refine ⟨i, ?_, (hinputs i).trans hinput⟩
    rw [if_pos hsame, hhome]
  · obtain ⟨hother, i, hi, hinput⟩ := hchanged t ht
    refine ⟨i, ?_, hinput⟩
    rw [if_neg hother, hi]

theorem retunes_refl (hbound : s.isConnected = true → ∃ i, e.deviceOf? s.handle.ctx = some i) :
    s.Retunes e s e := ⟨hbound, Or.inl ⟨rfl, fun _ => rfl⟩⟩

/-- What goes through the session's handle without setting up the trigger input changes nothing. -/
theorem Homed.through (h : s.Homed e home) {kind : Request → Prop}
    {d : Dialogue (Session × Except DeviceError Unit)}
    (hd : d.Obeys (Utterance.Through s.handle kind) fun after =>
      after.1.handle = s.handle ∧ after.1.trigger = s.trigger)
    (hkind : ∀ r, kind r → r.changesTriggerInput = false) :
    s.Retunes e (d.run Emulator.link.reply e).1.1 (d.run Emulator.link.reply e).2 := by
  obtain ⟨hhandle, htrigger⟩ := hd.run_post Emulator.link.reply e
  refine ⟨?_, Or.inl ⟨htrigger, Emulator.triggerInput?_through hd hkind⟩⟩
  unfold isConnected
  rw [hhandle]
  intro hconnected
  obtain ⟨i, hi⟩ := h.bound hconnected
  exact ⟨i, Emulator.deviceOf?_through hd h.sound hi⟩

theorem through_sending {kind : Request → Prop} {r : Request} (hr : kind r)
    {next : r.Value → Session}
    (hnext : ∀ value, (next value).handle = s.handle ∧ (next value).trigger = s.trigger) :
    (s.sending r next).Obeys (Utterance.Through s.handle kind) fun after =>
      after.1.handle = s.handle ∧ after.1.trigger = s.trigger := by
  unfold sending
  rw [Interaction.obeys_bind]
  apply (s.handle.through_request hr).mono
  intro result _
  cases result with
  | error e => exact ⟨rfl, rfl⟩
  | ok value => exact hnext value

theorem Homed.setting (h : s.Homed e home) {d : Dialogue (Session × Except DeviceError Unit)}
    (hd : Setting s d) :
    s.Retunes e (d.run Emulator.link.reply e).1.1 (d.run Emulator.link.reply e).2 := by
  have hthrough : d.Obeys (Utterance.Through s.handle (·.changesTriggerInput = false))
      fun after => after.1.handle = s.handle ∧ after.1.trigger = s.trigger := by
    cases hd with
    | unknown => exact ⟨rfl, rfl⟩
    | unchanged => exact ⟨rfl, rfl⟩
    | acquisition p hcurrent =>
      apply through_sending
      · rfl
      · exact fun _ => ⟨remember_handle .., remember_trigger ..⟩
    | format f hcurrent =>
      apply through_sending
      · rfl
      · exact fun _ => ⟨rfl, rfl⟩
  exact h.through hthrough fun _ => id

/-- After a reset the session triggers by software, whatever it did before. -/
theorem Homed.reset (h : s.Homed e home) :
    s.Retunes e (s.reset.run Emulator.link.reply e).1.1 (s.reset.run Emulator.link.reply e).2 := by
  rw [reset_eq_sending]
  obtain ⟨_, heq⟩ | ⟨_, code, e', hlink, heq⟩ | ⟨hconnected, value, e', hlink, heq⟩ :=
    sending_cases Emulator.link s .reset _ e
  · rw [heq]
    exact retunes_refl h.bound
  · rw [heq, Emulator.link_operate_error hlink]
    exact ⟨h.bound, Or.inl ⟨rfl, fun _ => rfl⟩⟩
  · obtain ⟨i, d, d', hi, _, _, rfl⟩ := Emulator.link_operate_ok hlink
    rw [heq]
    exact ⟨fun _ => ⟨i, hi⟩, Or.inr nofun⟩

theorem Homed.connect (h : s.Homed e home) :
    s.Retunes e (s.connect.run Emulator.link.reply e).1.1
      (s.connect.run Emulator.link.reply e).2 := by
  have heffect := Emulator.link_effect (.connectBySerial s.serial s.handle.ctx) e
  have hsound := h.sound.effect heffect
  have hcall (i : Nat) :
      (Emulator.link (.connectBySerial s.serial s.handle.ctx) e).2.triggerInput? i =
        e.triggerInput? i :=
    heffect.map_view nofun
  obtain ⟨ctx, code, e', hlink, heq⟩ | ⟨ctx, e₁, hlink, ⟨_, e₂, _, heq⟩ | ⟨p, f, e₂, hload, heq⟩⟩ :=
    connect_cases Emulator.link s e
  · rw [hlink] at hcall
    rw [heq]
    exact ⟨nofun, Or.inl ⟨rfl, hcall⟩⟩
  · rw [heq]
    exact ⟨nofun, Or.inr nofun⟩
  · obtain ⟨i, hi⟩ := h.sound.deviceOf?_connected hlink
    rw [hlink] at hcall hsound
    have hthrough : Attempt.Through ⟨ctx, true⟩ (·.configures = false) _ :=
      through_loadSettings _ rfl rfl
    have hbound := Emulator.deviceOf?_through hthrough hsound hi
    have hread (j : Nat) := Emulator.triggerInput?_through (e := e₁) hthrough
      (fun _ => Request.changesTriggerInput_eq_false) j
    rw [hload] at hbound hread
    rw [heq]
    exact ⟨fun _ => ⟨i, hbound⟩, Or.inl ⟨rfl, fun j => (hread j).trans (hcall j)⟩⟩

theorem Homed.disconnect (h : s.Homed e home) :
    s.Retunes e (s.disconnect.run Emulator.link.reply e).1.1
      (s.disconnect.run Emulator.link.reply e).2 := by
  obtain ⟨hclosed, heq⟩ | ⟨_, heq⟩ := disconnect_cases Emulator.link s e
  · rw [heq]
    exact ⟨h.bound, Or.inr nofun⟩
  · rw [heq]
    exact ⟨nofun, Or.inr nofun⟩

/-- A request for a setup fails and changes none, or is carried out by the device behind the
handle. -/
theorem setExternalTrigger_cases (h : Handle) (mode : ExternalMode) (edge : SignalEdge)
    (e : Emulator) :
    (∃ failure e', (h.request (.setExternalTrigger mode edge)).run.run Emulator.link.reply e =
        (.error failure, e') ∧
        e'.deviceOf? h.ctx = e.deviceOf? h.ctx ∧ ∀ i, e'.triggerInput? i = e.triggerInput? i) ∨
      ∃ i e', (h.request (.setExternalTrigger mode edge)).run.run Emulator.link.reply e =
        (.ok (), e') ∧ e.deviceOf? h.ctx = some i ∧ e'.deviceOf? h.ctx = some i ∧
        e'.triggerInput? i = some (mode, edge) := by
  rw [Handle.run_request]
  cases hconnected : h.connected with
  | false => exact Or.inl ⟨_, e, rfl, rfl, fun _ => rfl⟩
  | true =>
    rw [if_pos rfl]
    cases hlink : Emulator.link (.operate h.ctx (.setExternalTrigger mode edge)) e with
    | mk reply e' =>
      cases reply with
      | error code =>
        rw [Emulator.link_operate_error hlink]
        exact Or.inl ⟨_, _, rfl, rfl, fun _ => rfl⟩
      | ok value =>
        obtain ⟨i, d, d', hi, hd, hperform, rfl⟩ := Emulator.link_operate_ok hlink
        cases hperform
        refine Or.inr ⟨i, _, rfl, hi, hi, ?_⟩
        have hlt : i < e.devices.length := (List.getElem?_eq_some_iff.mp hd).1
        simp only [Emulator.triggerInput?, List.getElem?_set_self hlt]
        rfl

/-- A change of setup is not made, or the device behind the handle takes it. -/
theorem adopt_cases (t next : ExternalTrigger) (h : Handle) (e : Emulator) :
    (∃ result e', (t.adopt next h).run Emulator.link.reply e = ((t, result), e') ∧
        e'.deviceOf? h.ctx = e.deviceOf? h.ctx ∧ ∀ i, e'.triggerInput? i = e.triggerInput? i) ∨
      t ≠ next ∧ ∃ i e', (t.adopt next h).run Emulator.link.reply e = ((next, .ok true), e') ∧
        e.deviceOf? h.ctx = some i ∧ e'.deviceOf? h.ctx = some i ∧
        e'.triggerInput? i = some (next.mode, next.edge) := by
  unfold ExternalTrigger.adopt
  by_cases hsame : t = next
  · rw [if_pos hsame]
    exact Or.inl ⟨_, e, rfl, rfl, fun _ => rfl⟩
  · rw [if_neg hsame, Interaction.run_bind]
    obtain ⟨failure, e', heq, hkept⟩ | ⟨i, e', heq, htaken⟩ :=
      setExternalTrigger_cases h next.mode next.edge e
    · rw [heq]
      exact Or.inl ⟨_, e', rfl, hkept⟩
    · rw [heq]
      exact Or.inr ⟨hsame, i, e', rfl, htaken⟩

/-- Setting up the trigger input in two steps: the setup is as before, or another one that the
device behind the handle took, even if the second step fails. -/
theorem configure_cases (t : ExternalTrigger) (h : Handle) (mode : ExternalMode) (edge : SignalEdge)
    (e : Emulator) :
    (∃ result e', (t.configure h mode edge).run Emulator.link.reply e = ((t, result), e') ∧
        ∀ i, e'.triggerInput? i = e.triggerInput? i) ∨
      ∃ t' result i e', t' ≠ t ∧
        (t.configure h mode edge).run Emulator.link.reply e = ((t', result), e') ∧
        e.deviceOf? h.ctx = some i ∧ e'.triggerInput? i = some (t'.mode, t'.edge) := by
  unfold ExternalTrigger.configure
  rw [ExternalTrigger.setMode_eq_adopt, Interaction.run_bind]
  obtain ⟨result, e₁, heq, hbound, hinputs⟩ | ⟨hmode, i, e₁, heq, hi, hbound, hinput⟩ :=
    adopt_cases t { t with mode } h e
  · rw [heq]
    cases result with
    | error failure => exact Or.inl ⟨_, e₁, rfl, hinputs⟩
    | ok changed =>
      simp only [ExternalTrigger.setEdge_eq_adopt, Interaction.run_bind]
      obtain ⟨result, e₂, heq', _, hinputs'⟩ | ⟨hedge, i, e₂, heq', hi, _, hinput⟩ :=
        adopt_cases t { t with edge } h e₁
      · rw [heq']
        refine Or.inl ⟨?_, e₂, ?_, fun i => (hinputs' i).trans (hinputs i)⟩
        · exact result.map fun _ => ()
        · cases result <;> rfl
      · rw [heq']
        exact Or.inr ⟨_, _, i, e₂, hedge.symm, rfl, hbound ▸ hi, hinput⟩
  · rw [heq]
    -- The setup differs from the old one in its mode, whatever becomes of the edges.
    have hother : t.mode ≠ mode := fun hsame => hmode (by rw [← hsame])
    simp only [ExternalTrigger.setEdge_eq_adopt, Interaction.run_bind]
    obtain ⟨result, e₂, heq', _, hinputs'⟩ | ⟨hedge, j, e₂, heq', hj, _, hinput'⟩ :=
      adopt_cases { t with mode } { t with mode, edge } h e₁
    · rw [heq']
      have hkept := (hinputs' i).trans hinput
      refine Or.inr ⟨_, result.map fun _ => (), i, e₂, hmode.symm, ?_, hi, hkept⟩
      cases result <;> rfl
    · rw [heq']
      rw [hbound] at hj
      cases hj
      refine Or.inr ⟨_, _, i, e₂, ?_, rfl, hi, hinput'⟩
      exact fun hsame => hother (congrArg ExternalTrigger.mode hsame.symm)

theorem Homed.configureExternalTrigger (h : s.Homed e home) (mode : ExternalMode)
    (edge : SignalEdge) :
    s.Retunes e ((s.configureExternalTrigger mode edge).run Emulator.link.reply e).1.1
      ((s.configureExternalTrigger mode edge).run Emulator.link.reply e).2 := by
  have hthrough := s.through_configureExternalTrigger mode edge
  refine ⟨?_, ?_⟩
  · obtain ⟨trigger, heq⟩ := hthrough.run_post Emulator.link.reply e
    rw [heq]
    intro hconnected
    obtain ⟨i, hi⟩ := h.bound hconnected
    exact ⟨i, Emulator.deviceOf?_through hthrough h.sound hi⟩
  · unfold Session.configureExternalTrigger
    cases htrigger : s.trigger with
    | external t =>
      simp only [Interaction.run_bind]
      obtain ⟨result, e', heq, hkept⟩ | ⟨t', result, i, e', hother, heq, hi, hinput⟩ :=
        configure_cases t s.handle mode edge e
      · rw [heq]
        exact Or.inl ⟨rfl, hkept⟩
      · rw [heq]
        refine Or.inr fun _ ht => ?_
        cases ht
        exact ⟨fun hsame => hother (Trigger.external.inj hsame), i, hi, hinput⟩
    | software | optical =>
      simp only [ExternalTrigger.new, ExceptT.run_bind, Interaction.run_bind]
      obtain ⟨failure, e', heq, _, hkept⟩ | ⟨i, e', heq, hi, _, hinput⟩ :=
        setExternalTrigger_cases s.handle mode edge e
      · rw [heq]
        exact Or.inl ⟨htrigger, hkept⟩
      · rw [heq]
        refine Or.inr fun _ ht => ?_
        cases ht
        exact ⟨nofun, i, hi, hinput⟩

/-- Every action but the making of an external trigger out of nothing keeps setups at home. -/
theorem Homed.step (h : s.Homed e home) {a : Action} (ha : ∀ t, a ≠ .setTrigger (.external t)) :
    s.Retunes e (a.step Emulator.link (s, e)).1 (a.step Emulator.link (s, e)).2 := by
  cases hsetter : a.isSetter with
  | true => exact h.setting (Action.setting hsetter s)
  | false =>
    cases a with
    | connect | reconnect => exact h.connect
    | disconnect => exact h.disconnect
    | reset => exact h.reset
    | configureExternalTrigger mode edge => exact h.configureExternalTrigger mode edge
    | setTrigger trigger =>
      refine ⟨h.bound, Or.inr ?_⟩
      intro t ht
      cases ht
      exact absurd rfl (ha t)
    | use u =>
      have hthrough : ((Action.use u).perform s).Obeys
          (Utterance.Through s.handle (·.configures = false))
          fun after => after.1.handle = s.handle ∧ after.1.trigger = s.trigger :=
        (Interaction.obeys_bind _ _).mpr ((u.through s).mono fun _ _ => ⟨rfl, rfl⟩)
      exact h.through hthrough fun _ => Request.changesTriggerInput_eq_false
    | _ => cases hsetter

theorem Homed.event (h : s.Homed e home) {event : Emulator.Event}
    (hspares : s.SparesTriggerInput e home event) : s.Homed (event.apply e) home := by
  refine ⟨event.sound h.sound, ?_, ?_⟩
  · intro hconnected
    obtain ⟨i, hi⟩ := h.bound hconnected
    exact ⟨i, event.deviceOf?_apply h.sound hi fun c hc => (hspares c hc).1 hconnected⟩
  · intro t ht
    obtain ⟨i, hhome, hinput⟩ := h.home t ht
    refine ⟨i, hhome, Eq.trans ?_ hinput⟩
    apply event.map_view_apply i (fun _ _ _ => rfl)
    intro ctx r hc hi d d' value hperform
    exact Device.perform_externalTrigger ((hspares _ hc).2 ctx r i rfl hhome hi) hperform

theorem SoleConfigurer.homed {serial : Option String} {start : Emulator} (hstart : start.Sound)
    (h : SoleConfigurer serial start s e home) : s.Homed e home := by
  induction h with
  | start => exact ⟨hstart, nofun, nofun⟩
  | @act s e home a ha _ ih => exact ih.retune (ih.sound.run (a.perform s)) (ih.step ha)
  | event event hspares _ ih => exact ih.event hspares

theorem adopt_self (t : ExternalTrigger) (h : Handle) : t.adopt t h = return (t, .ok false) :=
  if_pos rfl

/-- `configureExternalTrigger` with the remembered mode and edge makes no call. -/
theorem configureExternalTrigger_self {t : ExternalTrigger} (htrigger : s.trigger = .external t) :
    s.configureExternalTrigger t.mode t.edge = return (s, .ok ()) := by
  unfold Session.configureExternalTrigger ExternalTrigger.configure
  simp only [htrigger, ExternalTrigger.setMode_eq_adopt, ExternalTrigger.setEdge_eq_adopt,
    adopt_self, pure_bind]
  rw [← htrigger]

/-- A connected session is silent in setting up the trigger input only if it remembers just that
setup. -/
theorem trigger_eq_of_silent (hconnected : s.isConnected = true) {mode : ExternalMode}
    {edge : SignalEdge}
    (hsilent : (s.configureExternalTrigger mode edge).Obeys (fun _ => False) fun _ => True) :
    s.trigger = .external ⟨mode, edge⟩ := by
  have hrequest (r : Request) (post : Except DeviceError r.Value → Prop) :
      ¬ (s.handle.request r).run.Obeys (fun _ => False) post := by
    unfold Handle.request
    rw [if_pos (show s.handle.connected = true from hconnected)]
    exact fun hobeys => hobeys.1
  have hadopt {t next : ExternalTrigger} {post : ExternalTrigger × Except DeviceError Bool → Prop}
      (hobeys : (t.adopt next s.handle).Obeys (fun _ => False) post) : t = next := by
    by_cases hsame : t = next
    · exact hsame
    · unfold ExternalTrigger.adopt at hobeys
      rw [if_neg hsame, Interaction.obeys_bind] at hobeys
      exact (hrequest (.setExternalTrigger next.mode next.edge) _ hobeys).elim
  unfold Session.configureExternalTrigger at hsilent
  cases htrigger : s.trigger with
  | software | optical =>
    simp only [htrigger, ExternalTrigger.new, ExceptT.run_bind, Interaction.obeys_bind] at hsilent
    exact (hrequest (.setExternalTrigger mode edge) _ hsilent).elim
  | external t =>
    simp only [htrigger, ExternalTrigger.configure, ExternalTrigger.setMode_eq_adopt,
      Interaction.obeys_bind] at hsilent
    have hmode := hadopt hsilent
    rw [← hmode, adopt_self] at hsilent
    simp only [ExternalTrigger.setEdge_eq_adopt, Interaction.obeys_bind, Interaction.pure_eq_done,
      Interaction.obeys_done] at hsilent
    have hedge := hadopt hsilent
    rw [hedge, hmode]

/-- `home` is the device that the session's remembered external trigger was sent to. While only this
session configures it, that device's trigger input has the remembered mode and edge. So a connected
session is `InTune` if and only if the device behind its context has the same trigger input as
`home`, whether it is that device or not. A `configureExternalTrigger` that makes no call leaves the
wanted mode and edge on the device if and only if the session is `InTune`. -/
theorem inTune_iff_set_up_like_home (config : EmulatorConfig) (devices : List Device)
    (serial : Option String)
    (h : SoleConfigurer serial { Emulator.new config with devices } s e home)
    (hconnected : s.isConnected = true) :
    (∀ t, s.trigger = .external t → ∃ i j, e.deviceOf? s.handle.ctx = some i ∧ home = some j ∧
      e.triggerInput? j = some (t.mode, t.edge) ∧
      (s.InTune e ↔ e.triggerInput? i = e.triggerInput? j)) ∧
    (∀ mode edge, (s.configureExternalTrigger mode edge).Obeys (fun _ => False) (fun _ => True) →
      s.configureExternalTrigger mode edge = pure (s, .ok ()) ∧
        (s.InTune e ↔ ∃ i, e.deviceOf? s.handle.ctx = some i ∧
          e.triggerInput? i = some (mode, edge))) := by
  have hhomed := h.homed (Emulator.sound_new config devices)
  have htune {t : ExternalTrigger} (ht : s.trigger = .external t) : s.InTune e ↔
      ∃ i, e.deviceOf? s.handle.ctx = some i ∧ e.triggerInput? i = some (t.mode, t.edge) := by
    refine ⟨fun hin => hin t ht, fun hbound t' ht' => ?_⟩
    rw [ht] at ht'
    cases ht'
    exact hbound
  refine ⟨fun t ht => ?_, fun mode edge hsilent => ?_⟩
  · obtain ⟨i, hi⟩ := hhomed.bound hconnected
    obtain ⟨j, hj, hinput⟩ := hhomed.home t ht
    refine ⟨i, j, hi, hj, hinput, ?_⟩
    rw [htune ht, hinput, hi]
    simp
  · have ht := trigger_eq_of_silent hconnected hsilent
    exact ⟨configureExternalTrigger_self ht, htune ht⟩

/-- A run that unplugs the device after its trigger input was set up, and then connects again. -/
theorem unplugged_set_up_like_home :
    ∃ s e, SoleConfigurer none .twin s e (some 0) ∧ s.isConnected = true ∧
      s.trigger = .external ⟨.enabled, ⟨true, false⟩⟩ ∧
      ∀ t, s.trigger = .external t → ∃ i j, e.deviceOf? s.handle.ctx = some i ∧ some 0 = some j ∧
        e.triggerInput? j = some (t.mode, t.edge) ∧
        (s.InTune e ↔ e.triggerInput? i = e.triggerInput? j) := by
  have hstart : SoleConfigurer none .twin (new none) .twin none := .start
  have hsetup := (hstart.act .connect nofun).act
    (.configureExternalTrigger .enabled ⟨true, false⟩) nofun
  have hrun := (hsetup.act (.use .detach) nofun).act .reconnect nofun
  have htune := inTune_iff_set_up_like_home .default _ none hrun (by decide)
  exact ⟨_, _, hrun, by decide, by decide, htune.1⟩

/-- The device that a second connecting call leads to after the first device was unplugged was never
set up, and the session is out of tune. -/
theorem unplugged_not_inTune :
    ∃ s e home, SoleConfigurer none .twin s e home ∧ s.isConnected = true ∧ ¬ s.InTune e := by
  have hstart : SoleConfigurer none .twin (new none) .twin none := .start
  have hsetup := (hstart.act .connect nofun).act
    (.configureExternalTrigger .enabled ⟨true, false⟩) nofun
  have hrun := (hsetup.act (.use .detach) nofun).act .reconnect nofun
  refine ⟨_, _, _, hrun, by decide, fun hin => ?_⟩
  obtain ⟨i, hi, hinput⟩ := hin ⟨.enabled, ⟨true, false⟩⟩ (by decide)
  cases hi
  exact absurd hinput (by decide)

end Session

end Spectrometer
