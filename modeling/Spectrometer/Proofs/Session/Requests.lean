import Spectrometer.Proofs.Session.Outcome

/-!
Which requests the actions of a session can make, whatever the driver replies. A property of all
requests of an action is a property of every call that a course of actions puts to a device.
-/

namespace Spectrometer

variable {kind : Request → Prop}

namespace Session

/-- The requests that an action can make. Acquisition parameters go out as the device is to hold
them. -/
def Action.Requests : Action → Request → Prop
  | connect, r | reconnect, r => r = .getAcquisition ∨ r = .getFormat
  | disconnect, _ | setTrigger _, _ => False
  | reset, r => r = .reset
  | setScans _, r | setBlankScans _, r | setMode _, r | setExposure _, r | applyAcquisition _, r =>
    ∃ p : Acquisition, r = .setAcquisition p.withoutIdleBlanks
  | setRange .., r | setReduction _, r | applyFormat _, r => ∃ f, r = .setFormat f
  | configureExternalTrigger .., r => SetsTriggerInput r
  | use u, r => u.Requests r

theorem obeys_connect (s : Session) (hacquisition : kind .getAcquisition)
    (hformat : kind .getFormat) :
    s.connect.Obeys (Utterance.Requests kind) fun _ => True := by
  unfold connect
  rw [Interaction.obeys_bind]
  apply (s.handle.obeys_connect s.serial).mono
  rintro ⟨h, verdict⟩ -
  cases verdict with
  | error e => trivial
  | ok _ =>
    refine (Interaction.obeys_bind _ _).mpr ?_
    apply (through_loadSettings h hacquisition hformat).requests.mono
    intro loaded _
    cases loaded with
    | ok settings => trivial
    | error e =>
      refine (Interaction.obeys_bind _ _).mpr ?_
      apply h.obeys_disconnect.mono
      rintro ⟨_, released⟩ -
      cases released with
      | ok _ => trivial
      | error failure => exact ⟨nofun, fun _ => trivial⟩

theorem obeys_disconnect (s : Session) :
    s.disconnect.Obeys (Utterance.Requests kind) fun _ => True := by
  unfold disconnect
  rw [Interaction.obeys_bind]
  exact s.handle.obeys_disconnect.mono fun _ _ => trivial

theorem obeys_sending (s : Session) {r : Request} (hr : kind r) (next : r.Value → Session) :
    (s.sending r next).Obeys (Utterance.Requests kind) fun _ => True := by
  unfold sending
  rw [Interaction.obeys_bind]
  apply (s.handle.through_request hr).requests.mono
  intro result _
  cases result <;> trivial

theorem obeys_applyAcquisition (s : Session) (p : Acquisition)
    (hp : ∀ p : Acquisition, kind (.setAcquisition p.withoutIdleBlanks)) :
    ((Action.applyAcquisition p).perform s).Obeys (Utterance.Requests kind) fun _ => True := by
  obtain ⟨_, heq⟩ | ⟨_, heq⟩ | ⟨current, _, _, heq⟩ := s.applyAcquisition_cases p
  · rw [heq]
    trivial
  · rw [heq]
    trivial
  · rw [heq]
    exact s.obeys_sending (hp p) _

theorem obeys_applyFormat (s : Session) (f : FrameFormat) (hf : ∀ f, kind (.setFormat f)) :
    ((Action.applyFormat f).perform s).Obeys (Utterance.Requests kind) fun _ => True := by
  obtain ⟨_, heq⟩ | ⟨current, _, _, heq⟩ | ⟨current, _, _, heq⟩ := s.applyFormat_cases f
  · rw [heq]
    trivial
  · rw [heq]
    trivial
  · rw [heq]
    exact s.obeys_sending (hf f) _

theorem obeys_updateAcquisition (s : Session) (change : Acquisition → Acquisition)
    (hp : ∀ p : Acquisition, kind (.setAcquisition p.withoutIdleBlanks)) :
    (s.updateAcquisition change).Obeys (Utterance.Requests kind) fun _ => True := by
  unfold updateAcquisition
  cases s.acquisition with
  | none => trivial
  | some current => exact s.obeys_applyAcquisition (change current) hp

theorem obeys_updateFormat (s : Session) (change : FrameFormat → FrameFormat)
    (hf : ∀ f, kind (.setFormat f)) :
    (s.updateFormat change).Obeys (Utterance.Requests kind) fun _ => True := by
  unfold updateFormat
  cases s.frame with
  | none => trivial
  | some current => exact s.obeys_applyFormat (change current.format) hf

/-- Whatever the driver replies, an action makes no other requests than those it can make. -/
theorem Action.obeys_requests (a : Action) (s : Session) :
    (a.perform s).Obeys (Utterance.Requests a.Requests) fun _ => True := by
  cases a with
  | connect | reconnect => exact s.obeys_connect (Or.inl rfl) (Or.inr rfl)
  | disconnect => exact s.obeys_disconnect
  | reset =>
    have hreset : Action.reset.Requests .reset := rfl
    change s.reset.Obeys _ _
    rw [reset_eq_sending]
    exact s.obeys_sending hreset _
  | setScans | setBlankScans | setExposure =>
    exact s.obeys_updateAcquisition _ fun p => ⟨p, rfl⟩
  | setMode mode =>
    simp only [perform]
    unfold Session.setMode
    cases s.acquisition with
    | none => trivial
    | some current =>
      by_cases hsame : current.mode = mode
      · simp only [if_pos hsame]
        trivial
      · simp only [if_neg hsame]
        exact s.obeys_updateAcquisition _ fun p => ⟨p, rfl⟩
  | applyAcquisition p => exact s.obeys_applyAcquisition p fun p => ⟨p, rfl⟩
  | setRange first last =>
    exact s.obeys_updateFormat (fun f => { f with first, last }) fun f => ⟨f, rfl⟩
  | setReduction reduction =>
    exact s.obeys_updateFormat (fun f => { f with reduction }) fun f => ⟨f, rfl⟩
  | applyFormat f => exact s.obeys_applyFormat f fun f => ⟨f, rfl⟩
  | configureExternalTrigger mode edge =>
    have hthrough := s.through_configureExternalTrigger mode edge
    apply Interaction.Obeys.mono_allowed (hthrough.mono fun _ _ => trivial)
    rintro u hu ctx r rfl
    exact hu.2.2
  | setTrigger trigger => trivial
  | use u =>
    refine (Interaction.obeys_bind _ _).mpr ?_
    exact (u.through_requests s).requests

/-- Actions that take up or give up a connection. -/
def Action.connects : Action → Bool
  | connect | reconnect | disconnect => true
  | _ => false

theorem sending_keeps_handle (s : Session) (r : Request) (next : r.Value → Session)
    (hnext : ∀ value, (next value).handle = s.handle) :
    (s.sending r next).Obeys (Utterance.Through s.handle fun _ => True)
      fun after => after.1.handle = s.handle := by
  unfold sending
  rw [Interaction.obeys_bind]
  apply (s.handle.through_request trivial).mono
  intro result _
  cases result with
  | error e => rfl
  | ok value => exact hnext value

/-- All other actions go through the handle and leave it as it is. -/
theorem Action.keeps_handle {a : Action} (ha : a.connects = false) (s : Session) :
    (a.perform s).Obeys (Utterance.Through s.handle fun _ => True)
      fun after => after.1.handle = s.handle := by
  cases hsetter : a.isSetter with
  | true =>
    have hsetting := Action.setting hsetter s
    generalize a.perform s = d at hsetting ⊢
    cases hsetting with
    | unknown => rfl
    | unchanged => rfl
    | acquisition p hcurrent => exact s.sending_keeps_handle _ _ fun _ => remember_handle ..
    | format f hcurrent => exact s.sending_keeps_handle _ _ fun _ => rfl
  | false =>
    cases a with
    | connect | reconnect | disconnect => cases ha
    | reset =>
      change s.reset.Obeys _ _
      rw [reset_eq_sending]
      exact s.sending_keeps_handle _ _ fun _ => rfl
    | configureExternalTrigger mode edge =>
      have hthrough := s.through_configureExternalTrigger mode edge
      apply (hthrough.mono_allowed fun _ hu => hu.mono fun _ _ => trivial).mono
      rintro ⟨_, _⟩ ⟨trigger, rfl⟩
      rfl
    | setTrigger trigger => rfl
    | use u =>
      refine (Interaction.obeys_bind _ _).mpr ?_
      apply ((u.through_requests s).weaken fun _ _ => trivial).mono
      exact fun _ _ => rfl
    | _ => cases hsetter

end Session

end Spectrometer
