import Spectrometer.Proofs.Emulator.WellFormed
import Spectrometer.Proofs.Session.Settings
import Spectrometer.Proofs.Session.Tuning

/-!
What the only writer of a device knows. All settings of the device are remembered, and the memory is
that of its scan mode. So the session and the device after applying settings are determined, whether
or not a call is needed: acquisition parameters are taken as they are, a format if its range lies on
the sensor.
-/

namespace Spectrometer

open Emulator (link)

/-- The range of the format lies on the sensor. -/
def FrameFormat.Fits (f : FrameFormat) : Prop := f.first ≤ f.last ∧ f.last ≤ maxElement

namespace Device

variable {d : Device} {f : FrameFormat}

/-- The device after a format with a range on the sensor was applied: a call for it clears the
memory. -/
def formattedTo (d : Device) (f : FrameFormat) : Device :=
  if d.format.format = f then d else { d with format := ⟨f, frameSize f⟩ }.clearMemory

theorem setFormat_of_fits (hfits : f.Fits) :
    d.setFormat f = .ok (frameSize f, { d with format := ⟨f, frameSize f⟩ }.clearMemory) := by
  unfold setFormat
  rw [if_neg]
  simp [hfits.1, hfits.2]

/-- The size of a format on the sensor is the one that a device makes of it. -/
theorem size_eq_frameSize {p : FrameParameters} (hformat : p.OnSensor) :
    p.size = frameSize p.format := by
  rw [← UInt16.toNat_inj, hformat.size, toNat_frameSize hformat.first hformat.last]

theorem format_formattedTo (hformat : d.format.OnSensor) (f : FrameFormat) :
    (d.formattedTo f).format = ⟨f, frameSize f⟩ := by
  unfold formattedTo
  by_cases hsame : d.format.format = f
  · rw [if_pos hsame, ← hsame, ← size_eq_frameSize hformat]
  · rw [if_neg hsame]
    rfl

theorem onSensor_formattedTo (hformat : d.format.OnSensor) (hfits : f.Fits) :
    (d.formattedTo f).format.OnSensor := by
  rw [format_formattedTo hformat]
  exact ⟨hfits.1, hfits.2, toNat_frameSize hfits.1 hfits.2⟩

/-- A format in between makes no difference, unless it is left for the one that there was before. -/
theorem formattedTo_formattedTo {between : FrameFormat}
    (hback : d.format.format = f → between = f) :
    (d.formattedTo between).formattedTo f = d.formattedTo f := by
  unfold formattedTo
  by_cases hsame : d.format.format = f
  · simp [hback hsame, hsame]
  · by_cases hbetween : d.format.format = between
    · simp [hbetween]
    · by_cases hlast : between = f
      · simp [clearMemory, hlast, hsame]
      · simp [clearMemory, hlast, hsame, hbetween]

end Device

namespace Session

/-- The session is served by that device, remembers its settings, and addresses frames as the scan
mode of the device wants it. -/
structure Knows (s : Session) (e : Emulator) (i : Nat) (d : Device) : Prop where
  serves : e.Serves s.handle i d
  acquisition : s.acquisition = some d.acquisition
  frame : s.frame = some d.format
  memory : s.memory = .ofMode d.acquisition.mode

/-- The session after a format with a range on the sensor was applied. -/
def formattedTo (s : Session) (f : FrameFormat) : Session :=
  { s with frame := some ⟨f, Device.frameSize f⟩ }

variable {s : Session} {e : Emulator} {i : Nat} {d : Device} {serial : Option String}

theorem SoleWriter.coherent {start : Emulator} (h : SoleWriter serial start s e) : s.Coherent := by
  induction h with
  | start => exact coherent_new serial
  | act a _ ih => exact (ih.step link _ a).1
  | event _ _ _ ih => exact ih

theorem SoleWriter.wellFormed {start : Emulator} {memoryFrames : UInt16}
    (hstart : start.WellFormed memoryFrames) (h : SoleWriter serial start s e) :
    e.WellFormed memoryFrames := by
  induction h with
  | start => exact hstart
  | act a _ ih => exact ih.run (a.perform _)
  | event event _ _ ih => exact ih.apply event

/-- A session that is the only writer of its device knows it. -/
theorem SoleWriter.knows {start : Emulator} (hstart : start.Sound) (h : SoleWriter serial start s e)
    (hserves : e.Serves s.handle i d) : s.Knows e i d := by
  obtain ⟨j, p, f, hj, hsettings, hacquisition, hframe⟩ :=
    (h.mirrors hstart).remembers hserves.connected
  obtain rfl : i = j := Option.some.inj (hserves.bound.symm.trans hj)
  rw [hserves.device] at hsettings
  cases hsettings
  refine ⟨hserves, hacquisition, hframe, ?_⟩
  rw [h.coherent.memory, hacquisition]
  rfl

theorem Knows.coherent (h : s.Knows e i d) : s.Coherent where
  frame := by rw [h.frame, h.acquisition]; rfl
  connected := fun _ => by rw [h.acquisition]; rfl
  memory := by rw [h.memory, h.acquisition]; rfl

theorem Knows.tunedTo_self (h : s.Knows e i d) : s.tunedTo d.acquisition = s :=
  s.tunedTo_self h.acquisition h.memory

/-- Parameters that are applied are those of session and device then. -/
theorem Knows.applyAcquisition (h : s.Knows e i d) (p : Acquisition) :
    ∃ changed e', (s.applyAcquisition p).run link.reply e =
        ((s.tunedTo p.withoutIdleBlanks, .ok changed), e') ∧
      (s.tunedTo p.withoutIdleBlanks).Knows e' i (d.tunedTo p.withoutIdleBlanks) ∧
      e'.devices = e.devices.set i (d.tunedTo p.withoutIdleBlanks) ∧
      e'.callCount .trigger = e.callCount .trigger := by
  obtain ⟨changed, e', hrun, hserves, hdevices, hcount⟩ :=
    run_applyAcquisition h.serves h.acquisition h.memory p
  exact ⟨changed, e', hrun, ⟨hserves, rfl, h.frame, rfl⟩, hdevices, hcount⟩

/-- So is a format with a range on the sensor. -/
theorem Knows.applyFormat (h : s.Knows e i d) (hformat : d.format.OnSensor) {f : FrameFormat}
    (hfits : f.Fits) :
    ∃ changed e', (s.applyFormat f).run link.reply e =
        ((s.formattedTo f, .ok changed), e') ∧
      (s.formattedTo f).Knows e' i (d.formattedTo f) ∧
      e'.devices = e.devices.set i (d.formattedTo f) := by
  by_cases hsame : d.format.format = f
  · have hremembered : s.frame.map (·.format) = some f := by rw [h.frame, ← hsame]; rfl
    have hsize : s.formattedTo f = s := by
      rw [formattedTo, ← hsame, ← Device.size_eq_frameSize hformat, ← h.frame]
    have hkept : d.formattedTo f = d := if_pos hsame
    rw [applyFormat_same hremembered, hsize, hkept]
    exact ⟨false, e, rfl, h, h.serves.set_device.symm⟩
  · have hother : s.frame.map (·.format) ≠ some f := by
      rw [h.frame]
      exact fun heq => hsame (Option.some.inj heq)
    obtain ⟨e', hlink, hserves, rfl⟩ := h.serves.operate (r := .setFormat f)
      (Device.setFormat_of_fits hfits) h.serves.attached
    have hformatted : d.formattedTo f =
        { d with format := ⟨f, Device.frameSize f⟩ }.clearMemory := if_neg hsame
    rw [hformatted]
    refine ⟨true, _, ?_, ⟨hserves, h.acquisition, rfl, h.memory⟩, rfl⟩
    rw [h.coherent.applyFormat_other h.serves.connected hother, sendFormat, Interaction.run_bind,
      Dialogue.run_call, hlink]
    rfl

end Session

end Spectrometer
