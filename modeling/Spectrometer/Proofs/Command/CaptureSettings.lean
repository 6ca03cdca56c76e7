import Spectrometer.Command.Capture
import Spectrometer.Proofs.Reading.Steps
import Spectrometer.Proofs.Session.Knowledge

/-!
Settings sent together and one by one. A session that knows its device comes to the same settings
when it applies the acquisition parameters that the user wants in one call and when it sets the
scan mode and then, in any order, the other parameters that are given; and likewise with the range
and the reduction of the frame format.
-/

namespace Spectrometer

open Emulator (link)

namespace Session

namespace Action

/-- Whether the action sets a parameter other than the scan mode. -/
def setsParameter : Action → Bool
  | setScans _ | setBlankScans _ | setExposure _ => true
  | _ => false

/-- What becomes of the parameters then. -/
def change : Action → Acquisition → Acquisition
  | setScans scans, p => { p with scans }
  | setBlankScans blankScans, p => { p with blankScans }
  | setExposure micros, p => { p with exposure := exposureUnits micros }
  | _, p => p

variable {a : Action}

theorem perform_eq_updateAcquisition (ha : a.setsParameter = true) (s : Session) :
    a.perform s = s.updateAcquisition a.change := by
  cases a <;> first | rfl | cases ha

theorem step_eq_applyAcquisition (ha : a.setsParameter = true) {s : Session} {p : Acquisition}
    (hcurrent : s.acquisition = some p) {W : Type} (link : Link W) (w : W) :
    a.step link (s, w) = step link (s, w) (.applyAcquisition (a.change p)) := by
  rw [step, perform_eq_updateAcquisition ha, updateAcquisition_eq hcurrent, step]

theorem step_setRange {s : Session} {f : FrameParameters} (hcurrent : s.frame = some f) {W : Type}
    (link : Link W) (w : W) (first last : UInt16) :
    step link (s, w) (.setRange first last) =
      step link (s, w) (.applyFormat { f.format with first, last }) := by
  have hupdate := updateFormat_eq hcurrent fun f => { f with first, last }
  rw [step, perform, Session.setRange, hupdate, step]

theorem step_setReduction {s : Session} {f : FrameParameters} (hcurrent : s.frame = some f)
    {W : Type} (link : Link W) (w : W) (reduction : ReductionMode) :
    step link (s, w) (.setReduction reduction) =
      step link (s, w) (.applyFormat { f.format with reduction }) := by
  have hupdate := updateFormat_eq hcurrent fun f => { f with reduction }
  rw [step, perform, Session.setReduction, hupdate, step]

/-- It makes no difference whether idle blank scans were left out before. -/
theorem change_withoutIdleBlanks (ha : a.setsParameter = true) (p : Acquisition) :
    (a.change p.withoutIdleBlanks).withoutIdleBlanks = (a.change p).withoutIdleBlanks := by
  unfold Acquisition.withoutIdleBlanks
  by_cases hmode : p.mode = .frameAveraging
  · cases a <;> simp [change, hmode]
  · rw [if_neg hmode]

/-- So they may be left out after each change, or all at once. -/
theorem foldl_change_withoutIdleBlanks {actions : List Action}
    (hactions : ∀ a ∈ actions, a.setsParameter = true) (p : Acquisition) :
    actions.foldl (fun p a => (a.change p).withoutIdleBlanks) p.withoutIdleBlanks =
      (actions.foldl (fun p a => a.change p) p).withoutIdleBlanks := by
  induction actions generalizing p with
  | nil => rfl
  | cons a rest ih =>
    obtain ⟨ha, hrest⟩ := List.forall_mem_cons.mp hactions
    rw [List.foldl_cons, List.foldl_cons, change_withoutIdleBlanks ha, ih hrest]

end Action

variable {s : Session} {e : Emulator} {i : Nat} {d : Device}

/-- Applying parameters, as an action. -/
theorem Knows.step_applyAcquisition (h : s.Knows e i d) (p : Acquisition) :
    ∃ e', Action.step link (s, e) (.applyAcquisition p) = (s.tunedTo p.withoutIdleBlanks, e') ∧
      (s.tunedTo p.withoutIdleBlanks).Knows e' i (d.tunedTo p.withoutIdleBlanks) ∧
      e'.devices = e.devices.set i (d.tunedTo p.withoutIdleBlanks) := by
  obtain ⟨changed, e', hrun, hknows, hdevices, -⟩ := h.applyAcquisition p
  refine ⟨e', ?_, hknows, hdevices⟩
  simp only [Action.step, Action.perform, Interaction.run_bind, hrun]
  rfl

theorem Knows.step_applyFormat (h : s.Knows e i d) (hformat : d.format.OnSensor) {f : FrameFormat}
    (hfits : f.Fits) :
    ∃ e', Action.step link (s, e) (.applyFormat f) = (s.formattedTo f, e') ∧
      (s.formattedTo f).Knows e' i (d.formattedTo f) ∧
      e'.devices = e.devices.set i (d.formattedTo f) := by
  obtain ⟨changed, e', hrun, hknows, hdevices⟩ := h.applyFormat hformat hfits
  refine ⟨e', ?_, hknows, hdevices⟩
  simp only [Action.step, Action.perform, Interaction.run_bind, hrun]
  rfl

/-- Parameters that are set one by one are changed one by one. -/
theorem Knows.course_change (h : s.Knows e i d) {actions : List Action}
    (hactions : ∀ a ∈ actions, a.setsParameter = true) :
    ∃ q e', actions.foldl (fun p a => (a.change p).withoutIdleBlanks) d.acquisition = q ∧
      course link actions (s, e) = (s.tunedTo q, e') ∧
      e'.devices = e.devices.set i (d.tunedTo q) := by
  induction actions generalizing s e d with
  | nil =>
    have htuned : d.tunedTo d.acquisition = d := rfl
    refine ⟨d.acquisition, e, rfl, ?_, ?_⟩
    · rw [h.tunedTo_self]
      rfl
    · rw [htuned, h.serves.set_device]
  | cons a rest ih =>
    obtain ⟨ha, hrest⟩ := List.forall_mem_cons.mp hactions
    obtain ⟨e₁, hstep, h₁, hdevices₁⟩ := h.step_applyAcquisition (a.change d.acquisition)
    obtain ⟨q, e', hq, hcourse, hdevices⟩ := ih h₁ hrest
    have hsame := Action.step_eq_applyAcquisition ha h.acquisition link e
    refine ⟨q, e', hq, ?_, ?_⟩
    · rw [course, List.foldl_cons, hsame, hstep]
      exact hcourse
    · rw [hdevices, hdevices₁, List.set_set]
      rfl

/-- Setting the scan mode changes it, and may leave out idle blank scans. -/
theorem Knows.step_setMode (h : s.Knows e i d) (mode : ScanMode) :
    ∃ q e', (q = { d.acquisition with mode } ∨
        q = ({ d.acquisition with mode } : Acquisition).withoutIdleBlanks) ∧
      Action.step link (s, e) (.setMode mode) = (s.tunedTo q, e') ∧
      (s.tunedTo q).Knows e' i (d.tunedTo q) ∧ e'.devices = e.devices.set i (d.tunedTo q) := by
  by_cases hsame : d.acquisition.mode = mode
  · have htuned : d.tunedTo d.acquisition = d := rfl
    subst hsame
    refine ⟨d.acquisition, e, Or.inl rfl, ?_, ?_, ?_⟩
    · rw [h.tunedTo_self]
      simp only [Action.step, Action.perform, setMode_eq h.acquisition, if_true]
      rfl
    · rwa [h.tunedTo_self]
    · rw [htuned, h.serves.set_device]
  · obtain ⟨e', hstep, hknows, hdevices⟩ :=
      h.step_applyAcquisition { d.acquisition with mode }
    refine ⟨_, e', Or.inr rfl, ?_, hknows, hdevices⟩
    rw [← hstep]
    simp only [Action.step, Action.perform, setMode_eq h.acquisition, if_neg hsame]

/-- A format that is applied in between makes no difference, unless it is left for the old one. -/
theorem Knows.steps_applyFormat (h : s.Knows e i d) (hformat : d.format.OnSensor)
    (between : FrameFormat) {f : FrameFormat} (hbetween : between.Fits) (hfits : f.Fits)
    (hback : d.format.format = f → between = f) :
    ∃ e₁ e', Action.step link (s, e) (.applyFormat between) = (s.formattedTo between, e₁) ∧
      Action.step link (s.formattedTo between, e₁) (.applyFormat f) = (s.formattedTo f, e') ∧
      e'.devices = e.devices.set i (d.formattedTo f) := by
  obtain ⟨e₁, hstep₁, h₁, hdevices₁⟩ := h.step_applyFormat hformat hbetween
  obtain ⟨e', hstep, -, hdevices⟩ :=
    h₁.step_applyFormat (Device.onSensor_formattedTo hformat hbetween) hfits
  refine ⟨e₁, e', hstep₁, hstep, ?_⟩
  rw [hdevices, hdevices₁, List.set_set, Device.formattedTo_formattedTo hback]

end Session

namespace Command.CaptureSettings

open Session (Action course)

/-- The setter for the scan mode, if one is given. -/
def modeSetter (c : CaptureSettings) : List Action := c.mode.toList.map .setMode

/-- The setters for all other acquisition parameters that are given. -/
def setters (c : CaptureSettings) : List Action :=
  c.blankScans.toList.map .setBlankScans ++ .setScans c.scans :: c.exposure.toList.map .setExposure

/-- The setters for the range and the reduction, which for what is not given set what is there. -/
def formatSetters (c : CaptureSettings) (current : FrameFormat) : List Action :=
  [.setRange (c.first.getD current.first) (c.last.getD current.last),
    .setReduction (c.reduction.getD current.reduction)]

/-- What they set is what the merged format holds. -/
theorem formatSetters_eq (c : CaptureSettings) (current : FrameFormat) :
    c.formatSetters current =
      [.setRange (c.format current).first (c.format current).last,
        .setReduction (c.format current).reduction] := rfl

/-- Merged parameters hold no idle blank scans. -/
@[simp] theorem acquisition_withoutIdleBlanks (c : CaptureSettings) (current : Acquisition) :
    (c.acquisition current).withoutIdleBlanks = c.acquisition current :=
  Acquisition.withoutIdleBlanks_idem _

variable {c : CaptureSettings} {setters : List Action}

theorem mem_setters {a : Action} : a ∈ c.setters ↔
    (∃ blankScans, c.blankScans = some blankScans ∧ a = .setBlankScans blankScans) ∨
      a = .setScans c.scans ∨ ∃ micros, c.exposure = some micros ∧ a = .setExposure micros := by
  simp [CaptureSettings.setters, eq_comm]

theorem setsParameter_of_perm (horder : setters.Perm c.setters) :
    ∀ a ∈ setters, a.setsParameter = true := by
  intro a ha
  obtain ⟨_, -, rfl⟩ | rfl | ⟨_, -, rfl⟩ := mem_setters.mp (horder.mem_iff.mp ha)
  all_goals rfl

theorem foldl_change_setters (c : CaptureSettings) (q : Acquisition) :
    c.setters.foldl (fun p a => a.change p) q =
      { q with
        scans := c.scans
        blankScans := c.blankScans.getD q.blankScans
        exposure := c.exposure.elim q.exposure exposureUnits } := by
  unfold CaptureSettings.setters
  cases c.blankScans <;> cases c.exposure <;> rfl

/-- Each parameter has one setter at most, so that their order does not matter. -/
theorem change_comm {a b : Action} (ha : a ∈ c.setters) (hb : b ∈ c.setters) (p : Acquisition) :
    b.change (a.change p) = a.change (b.change p) := by
  obtain ⟨blanks, hblanks, rfl⟩ | rfl | ⟨micros, hmicros, rfl⟩ := mem_setters.mp ha
  · obtain ⟨blanks', hblanks', rfl⟩ | rfl | ⟨_, -, rfl⟩ := mem_setters.mp hb
    · obtain rfl : blanks = blanks' := Option.some.inj (hblanks.symm.trans hblanks')
      rfl
    · rfl
    · rfl
  · obtain ⟨_, -, rfl⟩ | rfl | ⟨_, -, rfl⟩ := mem_setters.mp hb
    all_goals rfl
  · obtain ⟨_, -, rfl⟩ | rfl | ⟨micros', hmicros', rfl⟩ := mem_setters.mp hb
    · rfl
    · rfl
    · obtain rfl : micros = micros' := Option.some.inj (hmicros.symm.trans hmicros')
      rfl

theorem foldl_change_of_perm (horder : setters.Perm c.setters) (q : Acquisition) :
    setters.foldl (fun p a => a.change p) q = c.setters.foldl (fun p a => a.change p) q :=
  horder.foldl_eq' (fun _ ha _ hb =>
    change_comm (horder.mem_iff.mp ha) (horder.mem_iff.mp hb)) q

/-- One after the other, whether or not idle blank scans are left out with the scan mode, the
setters come to the merged parameters. -/
theorem foldl_setters_eq_acquisition (horder : setters.Perm c.setters) {p q : Acquisition}
    (hmode : q = { p with mode := c.mode.getD p.mode } ∨
      q = ({ p with mode := c.mode.getD p.mode } : Acquisition).withoutIdleBlanks) :
    setters.foldl (fun p (a : Action) => (a.change p).withoutIdleBlanks) q = c.acquisition p := by
  have hmerged : (setters.foldl (fun p (a : Action) => a.change p)
      { p with mode := c.mode.getD p.mode }).withoutIdleBlanks = c.acquisition p := by
    rw [foldl_change_of_perm horder, foldl_change_setters]
    rfl
  have hparameters := setsParameter_of_perm horder
  obtain rfl | rfl := hmode
  · -- The number of scans is always set, so that there is a first setter.
    have hscans : .setScans c.scans ∈ setters := horder.mem_iff.mpr (mem_setters.mpr (by simp))
    cases setters with
    | nil => cases hscans
    | cons a rest =>
      obtain ⟨-, hrest⟩ := List.forall_mem_cons.mp hparameters
      rw [List.foldl_cons, Action.foldl_change_withoutIdleBlanks hrest]
      exact hmerged
  · rw [Action.foldl_change_withoutIdleBlanks hparameters]
    exact hmerged

variable {s : Session} {e : Emulator} {i : Nat} {d : Device}

/-- The setter of the scan mode, if one is given, leaves the other parameters, or leaves out idle
blank scans as well. -/
theorem course_modeSetter (h : s.Knows e i d) (c : CaptureSettings) : ∃ q e₁,
    (q = { d.acquisition with mode := c.mode.getD d.acquisition.mode } ∨
      q = ({ d.acquisition with
        mode := c.mode.getD d.acquisition.mode } : Acquisition).withoutIdleBlanks) ∧
    course link c.modeSetter (s, e) = (s.tunedTo q, e₁) ∧ (s.tunedTo q).Knows e₁ i (d.tunedTo q) ∧
    e₁.devices = e.devices.set i (d.tunedTo q) := by
  unfold modeSetter
  cases c.mode with
  | none =>
    have htuned : d.tunedTo d.acquisition = d := rfl
    refine ⟨d.acquisition, e, Or.inl rfl, ?_, ?_, ?_⟩
    · rw [h.tunedTo_self]
      rfl
    · rwa [h.tunedTo_self]
    · rw [htuned, h.serves.set_device]
  | some mode => exact h.step_setMode mode

/-- Setting the scan mode, if one is given, and then the other parameters in any order comes to the
merged parameters. -/
theorem course_setters (h : s.Knows e i d) (horder : setters.Perm c.setters) :
    ∃ e', course link (c.modeSetter ++ setters) (s, e) =
        (s.tunedTo (c.acquisition d.acquisition), e') ∧
      e'.devices = e.devices.set i (d.tunedTo (c.acquisition d.acquisition)) := by
  obtain ⟨q, e₁, hq, hcourse, h₁, hdevices₁⟩ := course_modeSetter h c
  obtain ⟨r, e', hr, hsetters, hdevices⟩ := h₁.course_change (setsParameter_of_perm horder)
  have hmerged := foldl_setters_eq_acquisition horder hq
  obtain rfl : r = c.acquisition d.acquisition := hr.symm.trans hmerged
  refine ⟨e', ?_, ?_⟩
  · rw [course, List.foldl_append]
    exact (congrArg _ hcourse).trans hsetters
  · rw [hdevices, hdevices₁, List.set_set]
    rfl

/-- Setting the range and the reduction of a format in either order comes to the format. -/
theorem course_range_reduction (h : s.Knows e i d) (hformat : d.format.OnSensor) {f : FrameFormat}
    (hfits : f.Fits) (horder : setters = [.setRange f.first f.last, .setReduction f.reduction] ∨
      setters = [.setReduction f.reduction, .setRange f.first f.last]) :
    ∃ e', course link setters (s, e) = (s.formattedTo f, e') ∧
      e'.devices = e.devices.set i (d.formattedTo f) := by
  obtain rfl | rfl := horder
  · obtain ⟨e₁, e', hrange, hreduction, hdevices⟩ := h.steps_applyFormat hformat
      { d.format.format with first := f.first, last := f.last } hfits hfits
      fun hsame => by rw [hsame]
    refine ⟨e', ?_, hdevices⟩
    simp only [course, List.foldl_cons, List.foldl_nil]
    rw [Action.step_setRange h.frame, hrange, Action.step_setReduction rfl, ← hreduction]
  · obtain ⟨e₁, e', hreduction, hrange, hdevices⟩ := h.steps_applyFormat hformat
      { d.format.format with reduction := f.reduction } ⟨hformat.first, hformat.last⟩
      hfits fun hsame => by rw [hsame]
    refine ⟨e', ?_, hdevices⟩
    simp only [course, List.foldl_cons, List.foldl_nil]
    rw [Action.step_setReduction h.frame, hreduction, Action.step_setRange rfl, ← hrange]

/-- For the sole writer of a device, one `applyAcquisition` of the options given for a capture makes
at most one driver call, and leaves session and devices as `setMode`, if a mode is given, followed
by the other setters in any order. One `applyFormat` of a range that fits the sensor does the same
as `setRange` and `setReduction` in either order, each called with the fields that are given and the
device's own for the rest. -/
theorem applied_as_set_one_by_one (config : EmulatorConfig) (serial : Option String)
    (h : Session.SoleWriter serial (.new config) s e) (hserves : e.Serves s.handle i d)
    (c : CaptureSettings) :
    s.acquisition = some d.acquisition ∧ s.frame = some d.format ∧
    (let p := c.acquisition d.acquisition
     let applied := (s.applyAcquisition p).run link.reply e
     (s.applyAcquisition p).Within 1 ∧ applied.1.2.isOk = true ∧
      applied.1.1.acquisition = some p ∧ applied.1.1.memory = .ofMode p.mode ∧
      applied.2.devices = e.devices.set i (d.tunedTo p) ∧
      ∀ setters, setters.Perm c.setters →
        (course link (c.modeSetter ++ setters) (s, e)).1 = applied.1.1 ∧
        (course link (c.modeSetter ++ setters) (s, e)).2.devices = applied.2.devices) ∧
    (let f := c.format d.format.format
     let applied := (s.applyFormat f).run link.reply e
     f.Fits → applied.1.2.isOk = true ∧
      applied.1.1.frame = some ⟨f, Device.frameSize f⟩ ∧
      applied.2.devices[i]?.map (·.format) = some ⟨f, Device.frameSize f⟩ ∧
      ∀ setters, setters = c.formatSetters d.format.format ∨
          setters = (c.formatSetters d.format.format).reverse →
        (course link setters (s, e)).1 = applied.1.1 ∧
        (course link setters (s, e)).2.devices = applied.2.devices) := by
  have hknows := h.knows (Emulator.sound_new config _) hserves
  have hwell := h.wellFormed (Emulator.wellFormed_new config)
  have hformat := (hwell.device hserves.device).format
  refine ⟨hknows.acquisition, hknows.frame, ?_, ?_⟩
  · intro p applied
    obtain ⟨changed, e', hrun, -, hdevices, -⟩ := hknows.applyAcquisition p
    rw [c.acquisition_withoutIdleBlanks] at hrun hdevices
    have happlied : applied = ((s.tunedTo p, .ok changed), e') := hrun
    rw [happlied]
    refine ⟨s.within_applyAcquisition p, rfl, rfl, rfl, hdevices, fun setters horder => ?_⟩
    obtain ⟨e₁, hcourse, hsame⟩ := course_setters hknows horder
    rw [hcourse]
    exact ⟨rfl, hsame.trans hdevices.symm⟩
  · intro f applied hfits
    obtain ⟨changed, e', hrun, hafter, hdevices⟩ := hknows.applyFormat hformat hfits
    have happlied : applied = ((s.formattedTo f, .ok changed), e') := hrun
    rw [happlied]
    refine ⟨rfl, rfl, ?_, fun setters horder => ?_⟩
    · rw [hafter.serves.device, Option.map_some, Device.format_formattedTo hformat]
    · rw [c.formatSetters_eq] at horder
      obtain ⟨e₁, hcourse, hsame⟩ := course_range_reduction hknows hformat hfits horder
      rw [hcourse]
      exact ⟨rfl, hsame.trans hdevices.symm⟩

/-- A device that was set, without a session, to average frames with blank scans in between. -/
def averagingWithBlanks : Emulator :=
  (Emulator.new .default).after [.call (.connectBySerial none .null),
    .call (.operate ⟨1⟩ (.setAcquisition ⟨1, 3, .frameAveraging, 10⟩))]

/-- A session that has found such a device leaves the blank scans out when it applies other
settings, and when it sets them one by one. -/
theorem averagingWithBlanks_applied_as_set :
    let s := (Action.connect.step link (.new none, averagingWithBlanks)).1
    let e := (Action.connect.step link (.new none, averagingWithBlanks)).2
    ∃ d, Session.SoleWriter none (.new .default) s e ∧ e.Serves s.handle 0 d ∧
      s.acquisition = some ⟨1, 3, .frameAveraging, 10⟩ ∧
      (let applied := (s.applyAcquisition ⟨2, 0, .frameAveraging, 50⟩).run link.reply e
       applied.1.2.isOk = true ∧
        (course link [.setExposure 500, .setScans 2] (s, e)).1 = applied.1.1 ∧
        (course link [.setExposure 500, .setScans 2] (s, e)).2.devices = applied.2.devices) ∧
      let applied := (s.applyFormat ⟨100, 199, .noAverage⟩).run link.reply e
      applied.1.2.isOk = true ∧
        (course link [.setReduction .noAverage, .setRange 100 199] (s, e)).1 = applied.1.1 ∧
        (course link [.setReduction .noAverage, .setRange 100 199] (s, e)).2.devices =
          applied.2.devices := by
  intro s e
  dsimp only
  have hstart : Session.SoleWriter none (.new .default) (.new none) (.new .default) := .start
  have h : Session.SoleWriter none (.new .default) s e :=
    ((hstart.event (.call (.connectBySerial none .null)) nofun).event
      (.call (.operate ⟨1⟩ (.setAcquisition ⟨1, 3, .frameAveraging, 10⟩))) nofun).act .connect
  have huntroubled : averagingWithBlanks.Untroubled :=
    ((Emulator.untroubled_new .default).call _).call _
  have hdevice : e.devices[0]?.map (fun d => (d.acquisition, d.format, d.detached)) =
      some (⟨1, 3, .frameAveraging, 10⟩, .factory, false) := by decide
  obtain ⟨d, hd, hview⟩ := Option.map_eq_some_iff.mp hdevice
  obtain ⟨hacquisition, hformat, hattached⟩ : d.acquisition = ⟨1, 3, .frameAveraging, 10⟩ ∧
      d.format = .factory ∧ d.detached = false := by simpa using hview
  have hserves : e.Serves s.handle 0 d :=
    ⟨huntroubled.run (Session.new none).connect, by decide, by decide, hd, hattached⟩
  let c : CaptureSettings := ⟨2, none, none, some 500, some 100, some 199, none⟩
  have hmerged : c.acquisition d.acquisition = ⟨2, 0, .frameAveraging, 50⟩ := by
    rw [hacquisition]
    decide
  have hmergedFormat : c.format d.format.format = ⟨100, 199, .noAverage⟩ := by
    rw [hformat]
    decide
  have hreversed : [.setReduction .noAverage, .setRange 100 199] =
      (c.formatSetters d.format.format).reverse := by
    rw [hformat]
    rfl
  obtain ⟨hknown, -, hparameters, hformatted⟩ := applied_as_set_one_by_one .default none h hserves c
  rw [hmerged] at hparameters
  rw [hmergedFormat] at hformatted
  rw [hacquisition] at hknown
  obtain ⟨-, hok, -, -, -, hset⟩ := hparameters
  obtain ⟨hokFormat, -, -, hsetFormat⟩ := hformatted ⟨by decide, by decide⟩
  have hexposure := hset [.setExposure 500, .setScans 2] (.swap _ _ [])
  have hnone : c.modeSetter ++ [.setExposure 500, .setScans 2] =
      [.setExposure 500, .setScans 2] := rfl
  rw [hnone] at hexposure
  have hreduction := hsetFormat [.setReduction .noAverage, .setRange 100 199] (Or.inr hreversed)
  exact ⟨d, h, hserves, hknown, ⟨hok, hexposure⟩, hokFormat, hreduction⟩

end Command.CaptureSettings

end Spectrometer
