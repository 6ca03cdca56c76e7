import Spectrometer.Proofs.Session.Connection
import Spectrometer.Proofs.Session.Requests

/-!
When settings are sent. Applying settings is silent if they are remembered, and one call otherwise;
every setter is such an application with one field of the remembered record replaced. What was
accepted once is remembered in just the form in which it is compared, so asking for it again says
nothing.
-/

namespace Spectrometer

namespace Acquisition

@[simp] theorem withoutIdleBlanks_mode (p : Acquisition) : p.withoutIdleBlanks.mode = p.mode := by
  unfold withoutIdleBlanks
  split <;> rfl

@[simp] theorem withoutIdleBlanks_exposure (p : Acquisition) :
    p.withoutIdleBlanks.exposure = p.exposure := by
  unfold withoutIdleBlanks
  split <;> rfl

theorem withoutIdleBlanks_of_blankScans {p : Acquisition}
    (hblanks : p.mode = .frameAveraging → p.blankScans = 0) : p.withoutIdleBlanks = p := by
  unfold withoutIdleBlanks
  by_cases hmode : p.mode = .frameAveraging
  · rw [if_pos hmode, ← hblanks hmode]
  · rw [if_neg hmode]

theorem blankScans_withoutIdleBlanks {p : Acquisition} (hmode : p.mode = .frameAveraging) :
    p.withoutIdleBlanks.blankScans = 0 := by
  unfold withoutIdleBlanks
  rw [if_pos hmode]

theorem withoutIdleBlanks_idem (p : Acquisition) :
    p.withoutIdleBlanks.withoutIdleBlanks = p.withoutIdleBlanks := by
  apply withoutIdleBlanks_of_blankScans
  intro hmode
  rw [withoutIdleBlanks_mode] at hmode
  exact blankScans_withoutIdleBlanks hmode

/-- A change is settled by one application: made again to what the device then holds, it changes
nothing. -/
def Settles (change : Acquisition → Acquisition) : Prop :=
  ∀ p, (change (change p).withoutIdleBlanks).withoutIdleBlanks = (change p).withoutIdleBlanks

/-- A change to which a change of the blank scans behind it makes no difference is settled, if it is
the same when made twice. -/
theorem settles_of_blankScans {change : Acquisition → Acquisition}
    (htwice : ∀ p, change (change p) = change p)
    (hblanks : ∀ p, change { p with blankScans := 0 } = { change p with blankScans := 0 }) :
    Settles change := by
  intro p
  by_cases hmode : (change p).mode = .frameAveraging
  · have heq : (change p).withoutIdleBlanks = { change p with blankScans := 0 } := if_pos hmode
    rw [heq, hblanks, htwice]
    exact withoutIdleBlanks_of_blankScans fun _ => rfl
  · have heq : (change p).withoutIdleBlanks = change p := if_neg hmode
    rw [heq, htwice, heq]

theorem settles_scans (scans : UInt16) : Settles fun p => { p with scans } :=
  settles_of_blankScans (fun _ => rfl) fun _ => rfl

theorem settles_exposure (exposure : UInt32) : Settles fun p => { p with exposure } :=
  settles_of_blankScans (fun _ => rfl) fun _ => rfl

theorem settles_blankScans (blankScans : UInt16) : Settles fun p => { p with blankScans } := by
  intro p
  unfold withoutIdleBlanks
  by_cases hmode : p.mode = .frameAveraging
  · simp [hmode]
  · simp [hmode]

end Acquisition

/-- All requests that were written down are of the given kind. -/
def Journal.Requests {W : Type} (kind : Request → Prop) (j : Journal W) : Prop :=
  ∀ x ∈ j.exchanges, ∀ ctx r, x.call = .operate ctx r → kind r

theorem Handle.request_eq_call {h : Handle} (hconnected : h.connected = true) (r : Request) :
    (h.request r).run = do return (← .call (.operate h.ctx r)).mapError .ofCode := by
  unfold request
  rw [if_pos hconnected]
  rfl

namespace Session

/-- One call with these acquisition parameters. Once they are accepted they are remembered, and
frames are addressed as their mode wants it; a refusal changes nothing. -/
def sendAcquisition (s : Session) (p : Acquisition) :
    Dialogue (Session × Except DeviceError Bool) := do
  match ← Dialogue.call (.operate s.handle.ctx (.setAcquisition p)) with
  | .ok () => return ({ s with acquisition := some p, memory := .ofMode p.mode }, .ok true)
  | .error code => return (s, .error (.ofCode code))

/-- One call with this format. Once it is accepted it is remembered with the size that the driver
makes of it; a refusal changes nothing. -/
def sendFormat (s : Session) (f : FrameFormat) : Dialogue (Session × Except DeviceError Bool) := do
  match ← Dialogue.call (.operate s.handle.ctx (.setFormat f)) with
  | .ok size => return ({ s with frame := some ⟨f, size⟩ }, .ok true)
  | .error code => return (s, .error (.ofCode code))

variable {s : Session}

theorem applyAcquisition_same {p : Acquisition}
    (hsame : s.acquisition = some p.withoutIdleBlanks) :
    s.applyAcquisition p = return (s, .ok false) := by
  unfold applyAcquisition
  simp only [hsame, if_true]

theorem applyFormat_same {f : FrameFormat} (hsame : s.frame.map (·.format) = some f) :
    s.applyFormat f = return (s, .ok false) := by
  obtain ⟨current, hcurrent, heq⟩ := Option.map_eq_some_iff.mp hsame
  unfold applyFormat
  simp only [hcurrent, heq, if_true]

/-- A change of the parameters is one call, and whether or not the mode is another one the frames
are addressed as it wants. -/
theorem applyAcquisition_other (hconnected : s.isConnected = true) {current p : Acquisition}
    (hcurrent : s.acquisition = some current) (hmemory : s.memory = .ofMode current.mode)
    (hother : current ≠ p.withoutIdleBlanks) :
    s.applyAcquisition p = s.sendAcquisition p.withoutIdleBlanks := by
  unfold applyAcquisition sendAcquisition
  simp only [hcurrent, if_neg hother, Handle.request_eq_call hconnected, bind_assoc, pure_bind]
  congr 1
  funext reply
  cases reply with
  | error code => rfl
  | ok value =>
    change (return _ : Dialogue _) = return _
    by_cases hmode : current.mode = p.withoutIdleBlanks.mode
    · rw [if_neg (not_not_intro hmode), ← hmode, ← hmemory]
    · rw [if_pos hmode]
      rfl

theorem Coherent.applyAcquisition_other (h : s.Coherent) (hconnected : s.isConnected = true)
    {p : Acquisition} (hother : s.acquisition ≠ some p.withoutIdleBlanks) :
    s.applyAcquisition p = s.sendAcquisition p.withoutIdleBlanks := by
  obtain ⟨current, hcurrent⟩ := Option.isSome_iff_exists.mp (h.connected hconnected)
  have hmemory : s.memory = .ofMode current.mode := by
    rw [h.memory, hcurrent]
    rfl
  apply Session.applyAcquisition_other hconnected hcurrent hmemory
  intro heq
  rw [hcurrent, heq] at hother
  exact hother rfl

theorem Coherent.applyFormat_other (h : s.Coherent) (hconnected : s.isConnected = true)
    {f : FrameFormat} (hother : s.frame.map (·.format) ≠ some f) :
    s.applyFormat f = s.sendFormat f := by
  have hsome : s.frame.isSome = true := by rw [h.frame]; exact h.connected hconnected
  obtain ⟨current, hcurrent⟩ := Option.isSome_iff_exists.mp hsome
  have hne : current.format ≠ f := by
    intro heq
    rw [hcurrent, ← heq] at hother
    exact hother rfl
  unfold applyFormat sendFormat
  simp only [hcurrent, if_neg hne, Handle.request_eq_call hconnected, bind_assoc, pure_bind]
  congr 1
  funext reply
  cases reply <;> rfl

theorem updateAcquisition_eq {current : Acquisition} (hcurrent : s.acquisition = some current)
    (change : Acquisition → Acquisition) :
    s.updateAcquisition change = (Action.applyAcquisition (change current)).perform s := by
  unfold updateAcquisition
  rw [hcurrent]
  rfl

theorem updateFormat_eq {current : FrameParameters} (hcurrent : s.frame = some current)
    (change : FrameFormat → FrameFormat) :
    s.updateFormat change = (Action.applyFormat (change current.format)).perform s := by
  unfold updateFormat
  rw [hcurrent]
  rfl

theorem setMode_eq {current : Acquisition} (hcurrent : s.acquisition = some current)
    (mode : ScanMode) :
    s.setMode mode = if current.mode = mode then return (s, .ok ())
      else (Action.applyAcquisition { current with mode }).perform s := by
  unfold setMode
  simp only [hcurrent, updateAcquisition_eq hcurrent]

theorem obeys_sending_ok {r : Request} {next : r.Value → Session} (post : Session → Prop)
    (hpost : ∀ value, post (next value)) :
    (s.sending r next).Obeys (fun _ => True) fun after => after.2 = .ok () → post after.1 := by
  unfold sending
  rw [Interaction.obeys_bind]
  apply Handle.obeys_request fun _ => trivial
  intro result
  cases result with
  | error e => exact nofun
  | ok value => exact fun _ => hpost value

/-- Parameters that were applied with success are remembered as the device holds them. -/
theorem acquisition_of_applied {s' : Session} {p : Acquisition}
    (hok : ((Action.applyAcquisition p).perform s).Yields (s', .ok ())) :
    s'.acquisition = some p.withoutIdleBlanks := by
  have hobeys : ((Action.applyAcquisition p).perform s).Obeys (fun _ => True) fun after =>
      after.2 = .ok () → after.1.acquisition = some p.withoutIdleBlanks := by
    obtain ⟨_, heq⟩ | ⟨hsame, heq⟩ | ⟨current, _, _, heq⟩ := s.applyAcquisition_cases p
    · rw [heq]
      exact nofun
    · rw [heq]
      exact fun _ => hsame
    · rw [heq]
      exact obeys_sending_ok (·.acquisition = some p.withoutIdleBlanks) fun _ =>
        remember_acquisition ..
  exact hobeys.of_yields hok rfl

theorem format_of_applied {s' : Session} {f : FrameFormat}
    (hok : ((Action.applyFormat f).perform s).Yields (s', .ok ())) :
    s'.frame.map (·.format) = some f := by
  have hobeys : ((Action.applyFormat f).perform s).Obeys (fun _ => True) fun after =>
      after.2 = .ok () → after.1.frame.map (·.format) = some f := by
    obtain ⟨_, heq⟩ | ⟨current, hcurrent, hsame, heq⟩ | ⟨current, _, _, heq⟩ := s.applyFormat_cases f
    · rw [heq]
      exact nofun
    · rw [heq]
      intro _
      change s.frame.map (·.format) = some f
      rw [hcurrent, ← hsame]
      rfl
    · rw [heq]
      exact obeys_sending_ok (·.frame.map (·.format) = some f) fun _ => rfl
  exact hobeys.of_yields hok rfl

theorem perform_applyAcquisition_same {p : Acquisition}
    (hsame : s.acquisition = some p.withoutIdleBlanks) :
    (Action.applyAcquisition p).perform s = return (s, .ok ()) := by
  simp only [Action.perform, applyAcquisition_same hsame, pure_bind]
  rfl

theorem perform_applyFormat_same {f : FrameFormat} (hsame : s.frame.map (·.format) = some f) :
    (Action.applyFormat f).perform s = return (s, .ok ()) := by
  simp only [Action.perform, applyFormat_same hsame, pure_bind]
  rfl

/-- A setter that knows no settings cannot succeed. -/
theorem not_yields_ok_of_refused {s' : Session} {d : Dialogue (Session × Except DeviceError Unit)}
    (hd : d = return (s, .error .notConnected)) : ¬ d.Yields (s', .ok ()) := by
  subst hd
  intro hok
  cases hok

theorem updateAcquisition_again {s' : Session} {change : Acquisition → Acquisition}
    (hsettles : Acquisition.Settles change)
    (hok : (s.updateAcquisition change).Yields (s', .ok ())) :
    s'.updateAcquisition change = return (s', .ok ()) := by
  cases hcurrent : s.acquisition with
  | none =>
    refine absurd hok (not_yields_ok_of_refused (s := s) ?_)
    unfold updateAcquisition
    rw [hcurrent]
  | some current =>
    rw [updateAcquisition_eq hcurrent] at hok
    have hafter := acquisition_of_applied hok
    rw [updateAcquisition_eq hafter]
    apply perform_applyAcquisition_same
    rw [hafter, hsettles]

theorem updateFormat_again {s' : Session} (change : FrameFormat → FrameFormat)
    (htwice : ∀ f, change (change f) = change f)
    (hok : (s.updateFormat change).Yields (s', .ok ())) :
    s'.updateFormat change = return (s', .ok ()) := by
  cases hcurrent : s.frame with
  | none =>
    refine absurd hok (not_yields_ok_of_refused (s := s) ?_)
    unfold updateFormat
    rw [hcurrent]
  | some current =>
    rw [updateFormat_eq hcurrent] at hok
    obtain ⟨after, hafter, hformat⟩ := Option.map_eq_some_iff.mp (format_of_applied hok)
    rw [updateFormat_eq hafter]
    apply perform_applyFormat_same
    rw [hafter, hformat, htwice, ← hformat]
    rfl

theorem setMode_again {s' : Session} {mode : ScanMode}
    (hok : (s.setMode mode).Yields (s', .ok ())) : s'.setMode mode = return (s', .ok ()) := by
  have hmode : ∃ current, s'.acquisition = some current ∧ current.mode = mode := by
    cases hcurrent : s.acquisition with
    | none =>
      refine absurd hok (not_yields_ok_of_refused (s := s) ?_)
      unfold setMode
      rw [hcurrent]
    | some current =>
      rw [setMode_eq hcurrent] at hok
      by_cases hsame : current.mode = mode
      · rw [if_pos hsame] at hok
        cases hok
        exact ⟨current, hcurrent, hsame⟩
      · rw [if_neg hsame] at hok
        exact ⟨_, acquisition_of_applied hok, Acquisition.withoutIdleBlanks_mode _⟩
  obtain ⟨current, hcurrent, hsame⟩ := hmode
  rw [setMode_eq hcurrent, if_pos hsame]

/-- A setter that succeeded makes no call when it is repeated. -/
theorem setter_again {s' : Session} {a : Action} (ha : a.isSetter = true)
    (hok : (a.perform s).Yields (s', .ok ())) : a.perform s' = return (s', .ok ()) := by
  cases a with
  | setScans scans => exact updateAcquisition_again (Acquisition.settles_scans scans) hok
  | setBlankScans blankScans =>
    exact updateAcquisition_again (Acquisition.settles_blankScans blankScans) hok
  | setExposure micros =>
    exact updateAcquisition_again (Acquisition.settles_exposure (exposureUnits micros)) hok
  | setMode mode => exact setMode_again hok
  | applyAcquisition p => exact perform_applyAcquisition_same (acquisition_of_applied hok)
  | setRange first last =>
    exact updateFormat_again (fun f => { f with first, last }) (fun _ => rfl) hok
  | setReduction reduction =>
    exact updateFormat_again (fun f => { f with reduction }) (fun _ => rfl) hok
  | applyFormat f => exact perform_applyFormat_same (format_of_applied hok)
  | _ => cases ha

variable {W : Type}

/-- What is true of all requests that some actions can make is true of all requests that a course
of them makes. -/
theorem course_requests {kind : Request → Prop} {actions : List Action}
    (hkind : ∀ a ∈ actions, ∀ r, a.Requests r → kind r) (link : Link W) (x : Session × Journal W)
    (hx : x.2.Requests kind) : (course (Journal.link link) actions x).2.Requests kind := by
  induction actions generalizing x with
  | nil => exact hx
  | cons a rest ih =>
    refine ih (fun b hb => hkind b (List.mem_cons_of_mem a hb)) _ ?_
    refine (a.obeys_requests x.1).run_keeps ?_ hx
    intro u j hu hj y hy ctx r hcall
    cases u with
    | warn w => exact hj y hy ctx r hcall
    | call c =>
      obtain rfl | hold := List.mem_cons.mp hy
      · cases hcall
        exact hkind a List.mem_cons_self r (hu ctx r rfl)
      · exact hj y hold ctx r hcall

/-- No action sends blank scans with `frameAveraging`. -/
theorem Action.blankScans_of_requests {a : Action} {p : Acquisition}
    (hr : a.Requests (.setAcquisition p)) (hmode : p.mode = .frameAveraging) :
    p.blankScans = 0 := by
  cases a with
  | setScans | setBlankScans | setMode | setExposure | applyAcquisition =>
    obtain ⟨sent, heq⟩ := hr
    cases heq
    rw [Acquisition.withoutIdleBlanks_mode] at hmode
    exact Acquisition.blankScans_withoutIdleBlanks hmode
  | use u => cases u.configures_eq_false hr
  | connect | reconnect | setRange | setReduction | applyFormat | configureExternalTrigger =>
    simp [Action.Requests, SetsTriggerInput] at hr
  | reset => cases hr
  | disconnect | setTrigger => cases hr

/-- After every course of actions, over every driver: `applyAcquisition` and `applyFormat` make no
call if the value equals the remembered one, and otherwise one call whose failure leaves the
remembered value. Each setter is the application of the remembered record with its own field
replaced, where `setMode` skips an equal mode. A setter that has succeeded makes no call when it is
repeated. No `setAcquisition` request of a course carries blank scans with `frameAveraging`. -/
theorem settings_sent_only_when_changed (link : Link W) (w : W) (serial : Option String)
    (actions : List Action) :
    let s := (course link actions (new serial, w)).1
    (∀ p : Acquisition,
      (s.acquisition = some p.withoutIdleBlanks → s.applyAcquisition p = return (s, .ok false)) ∧
      (s.isConnected = true → s.acquisition ≠ some p.withoutIdleBlanks →
        s.applyAcquisition p = s.sendAcquisition p.withoutIdleBlanks)) ∧
    (∀ f : FrameFormat,
      (s.frame.map (·.format) = some f → s.applyFormat f = return (s, .ok false)) ∧
      (s.isConnected = true → s.frame.map (·.format) ≠ some f → s.applyFormat f = s.sendFormat f)) ∧
    (∀ current : Acquisition, s.acquisition = some current →
      (∀ scans, s.setScans scans = (Action.applyAcquisition { current with scans }).perform s) ∧
      (∀ blankScans, s.setBlankScans blankScans =
        (Action.applyAcquisition { current with blankScans }).perform s) ∧
      (∀ micros, s.setExposure micros =
        (Action.applyAcquisition { current with exposure := exposureUnits micros }).perform s) ∧
      ∀ mode, s.setMode mode = if current.mode = mode then return (s, .ok ())
        else (Action.applyAcquisition { current with mode }).perform s) ∧
    (∀ current : FrameParameters, s.frame = some current →
      (∀ first last, s.setRange first last =
        (Action.applyFormat { current.format with first, last }).perform s) ∧
      ∀ reduction, s.setReduction reduction =
        (Action.applyFormat { current.format with reduction }).perform s) ∧
    (∀ (a : Action) (s' : Session), a.isSetter = true → (a.perform s).Yields (s', .ok ()) →
      a.perform s' = return (s', .ok ())) ∧
    ∀ x ∈ (course (Journal.link link) actions (new serial, ⟨w, []⟩)).2.exchanges, ∀ ctx p,
      x.call = .operate ctx (.setAcquisition p) → p.mode = .frameAveraging → p.blankScans = 0 := by
  intro s
  have hcoherent : s.Coherent :=
    (Coherent.course (x := (new serial, w)) (coherent_new serial) link actions).1
  refine ⟨?_, ?_, ?_, ?_, fun a s' => setter_again, ?_⟩
  · exact fun p => ⟨applyAcquisition_same, fun hopen => hcoherent.applyAcquisition_other hopen⟩
  · exact fun f => ⟨applyFormat_same, fun hopen => hcoherent.applyFormat_other hopen⟩
  · intro current hcurrent
    refine ⟨fun scans => ?_, fun blankScans => ?_, fun micros => ?_, setMode_eq hcurrent⟩
    · exact updateAcquisition_eq hcurrent _
    · exact updateAcquisition_eq hcurrent _
    · exact updateAcquisition_eq hcurrent _
  · intro current hcurrent
    refine ⟨fun first last => ?_, fun reduction => ?_⟩
    · exact updateFormat_eq hcurrent _
    · exact updateFormat_eq hcurrent _
  · have hkind (a : Action) (r : Request) (hr : a.Requests r) (p : Acquisition)
        (hp : r = .setAcquisition p) : p.mode = .frameAveraging → p.blankScans = 0 :=
      Action.blankScans_of_requests (hp ▸ hr)
    intro x hx ctx p hcall
    exact course_requests (fun a _ => hkind a) link (new serial, ⟨w, []⟩) nofun x hx ctx _ hcall p
      rfl

end Session

end Spectrometer
