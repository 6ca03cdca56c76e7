import Spectrometer.Proofs.Emulator.Own
import Spectrometer.Proofs.Parameters
import Spectrometer.Proofs.Reading.Steps
import Spectrometer.Proofs.Session.Changes

/-!
A session that takes a device over and sets it to average frames. Opened by the serial number of an
attached device, a session remembers what the device is set to; each change brings the device from
whatever it was set to before to what the session remembers then, whether a call was needed or not.
-/

namespace Spectrometer

open Emulator (link)

namespace Device

/-- The device with other acquisition parameters and nothing else changed. -/
def tunedTo (d : Device) (p : Acquisition) : Device := { d with acquisition := p }

end Device

namespace Session

/-- The session after acquisition parameters were applied. -/
def tunedTo (s : Session) (p : Acquisition) : Session :=
  { s with acquisition := some p, memory := .ofMode p.mode }

/-- The session triggers by software, is served by that device and remembers what it is set to. -/
structure Tunes (s : Session) (e : Emulator) (i : Nat) (d : Device) : Prop where
  serves : e.Serves s.handle i d
  acquisition : s.acquisition = some d.acquisition
  memory : s.memory = .ofMode d.acquisition.mode
  software : s.trigger = .software

variable {s : Session} {e : Emulator} {i : Nat} {d : Device}

theorem run_loadSettings {h : Handle} (hserves : e.Serves h i d) :
    ∃ e', (loadSettings h).run.run link.reply e = (.ok (d.acquisition, d.format), e') ∧
      e'.Serves h i d := by
  obtain ⟨e₁, hacquisition, h₁⟩ :=
    hserves.request (r := .getAcquisition) rfl hserves.attached
  obtain ⟨e₂, hformat, h₂⟩ := h₁.request (r := .getFormat) rfl hserves.attached
  exact ⟨e₂, (Interaction.run_bind_ok hacquisition _).trans (Interaction.run_bind_ok hformat _), h₂⟩

/-- A new session for an attached device takes it over as it is. -/
theorem tunes_connect {serial : String} (hsound : e.Sound) (huntroubled : e.Untroubled)
    (hfound : e.findBySerial? (some serial) = some i) (hd : e.devices[i]? = some d)
    (hattached : d.detached = false) :
    ∃ s e', (new (some serial)).connect.run link.reply e = ((s, .ok ()), e') ∧ s.Tunes e' i d := by
  let e₁ := ((e.enter .connectBySerial).2.attach i .null).2
  have hcall : link (.connectBySerial (some serial) .null) e =
      ((⟨e.nextContext⟩, .ok ()), e₁) := by
    rw [huntroubled.link_connectBySerial, hfound]
    rfl
  have huntroubled₁ : e₁.Untroubled := by
    have h := huntroubled.call (.connectBySerial (some serial) .null)
    rwa [hcall] at h
  have hserves : e₁.Serves ⟨⟨e.nextContext⟩, true⟩ i d :=
    ⟨huntroubled₁, rfl, hsound.deviceOf?_attach _ i .null, hd, hattached⟩
  obtain ⟨e₂, hload, hserves₂⟩ := run_loadSettings hserves
  obtain ⟨ctx, code, w', hrefused, -⟩ | ⟨ctx, w₁, haccepted, hloaded⟩ :=
    connect_cases link (new (some serial)) e
  · cases hcall.symm.trans hrefused
  · cases hcall.symm.trans haccepted
    obtain ⟨error, w₂, hfailed, -⟩ | ⟨p, f, w₂, hread, hconnect⟩ := hloaded
    · cases hload.symm.trans hfailed
    · cases hload.symm.trans hread
      exact ⟨_, e₂, hconnect, hserves₂, rfl, rfl, rfl⟩

theorem tunedTo_self (s : Session) {current : Acquisition} (hcurrent : s.acquisition = some current)
    (hmemory : s.memory = .ofMode current.mode) : s.tunedTo current = s := by
  unfold tunedTo
  rw [← hcurrent, ← hmemory]

/-- Parameters that a session applies are its own and those of the device then. -/
theorem run_applyAcquisition (hserves : e.Serves s.handle i d)
    (hacquisition : s.acquisition = some d.acquisition)
    (hmemory : s.memory = .ofMode d.acquisition.mode) (p : Acquisition) :
    ∃ changed e', (s.applyAcquisition p).run link.reply e =
        ((s.tunedTo p.withoutIdleBlanks, .ok changed), e') ∧
      e'.Serves s.handle i (d.tunedTo p.withoutIdleBlanks) ∧
      e'.devices = e.devices.set i (d.tunedTo p.withoutIdleBlanks) ∧
      e'.callCount .trigger = e.callCount .trigger := by
  by_cases hsame : d.acquisition = p.withoutIdleBlanks
  · have hremembered : s.acquisition = some p.withoutIdleBlanks := by rw [hacquisition, hsame]
    have htuned : d.tunedTo p.withoutIdleBlanks = d := by rw [← hsame]; rfl
    have hkept : s.tunedTo p.withoutIdleBlanks = s := by
      rw [← hsame]
      exact s.tunedTo_self hacquisition hmemory
    rw [applyAcquisition_same hremembered, hkept, htuned]
    exact ⟨false, e, rfl, hserves, hserves.set_device.symm, rfl⟩
  · obtain ⟨e', hlink, hserves', rfl⟩ := hserves.operate
      (r := .setAcquisition p.withoutIdleBlanks) rfl hserves.attached
    refine ⟨true, _, ?_, hserves', rfl, ?_⟩
    · rw [applyAcquisition_other hserves.connected hacquisition hmemory hsame, sendAcquisition,
        Interaction.run_bind, Dialogue.run_call, hlink]
      rfl
    · exact Emulator.callCount_enter_of_ne (o := .setAcquisition) (by decide)

theorem Tunes.apply (h : s.Tunes e i d) (p : Acquisition) :
    ∃ s' e', ((Action.applyAcquisition p).perform s).run link.reply e = ((s', .ok ()), e') ∧
      s'.Tunes e' i (d.tunedTo p.withoutIdleBlanks) := by
  obtain ⟨changed, e', hrun, hserves, -, -⟩ :=
    run_applyAcquisition h.serves h.acquisition h.memory p
  refine ⟨s.tunedTo p.withoutIdleBlanks, e', ?_, hserves, rfl, rfl, h.software⟩
  rw [Action.perform, Interaction.run_bind, hrun]
  rfl

theorem Tunes.update (h : s.Tunes e i d) (change : Acquisition → Acquisition) :
    ∃ s' e', (s.updateAcquisition change).run link.reply e = ((s', .ok ()), e') ∧
      s'.Tunes e' i (d.tunedTo (change d.acquisition).withoutIdleBlanks) := by
  rw [updateAcquisition_eq h.acquisition]
  exact h.apply _

theorem Tunes.setMode (h : s.Tunes e i d) (mode : ScanMode)
    (hidle : d.acquisition.mode = .frameAveraging → d.acquisition.blankScans = 0) :
    ∃ s' e', (s.setMode mode).run link.reply e = ((s', .ok ()), e') ∧
      s'.Tunes e' i (d.tunedTo { d.acquisition with mode }.withoutIdleBlanks) := by
  rw [setMode_eq h.acquisition]
  by_cases hsame : d.acquisition.mode = mode
  · subst hsame
    rw [if_pos rfl, Acquisition.withoutIdleBlanks_of_blankScans hidle]
    exact ⟨s, e, rfl, h⟩
  · rw [if_neg hsame]
    exact h.apply _

end Session

theorem Attempt.run_opening_ok {W α : Type} {link : Link W}
    {connect : Dialogue (α × Except DeviceError Unit)} {drop : α → Dialogue Unit} {a : α} {w w' : W}
    (hconnect : connect.run link.reply w = ((a, .ok ()), w')) :
    (opening connect drop).run.run link.reply w = (.ok a, w') := by
  obtain ⟨b, v, hok, hrun⟩ | ⟨b, error, v, herror, -⟩ := opening_cases link connect drop w
  · cases hconnect.symm.trans hok
    exact hrun
  · cases hconnect.symm.trans herror

namespace Command

/-- What the device of that number is set to. -/
def averaging (index : Nat) : Acquisition :=
  ⟨1, 0, .frameAveraging, UInt32.ofNat (1000 * (index + 1))⟩

/-- Up to here the exposures fit into a word of microseconds. -/
theorem exposureUnits_step {index : Nat} (hindex : index < 429496) :
    exposureUnits (exposureStep * (UInt32.ofNat index + 1)) =
      UInt32.ofNat (1000 * (index + 1)) := by
  have hmicros : (exposureStep * (UInt32.ofNat index + 1)).toNat = 10000 * (index + 1) := by
    have hone : (1 : UInt32).toNat = 1 := rfl
    have hsum : (UInt32.ofNat index + 1).toNat = index + 1 := by
      rw [UInt32.toNat_add, UInt32.toNat_ofNat_of_lt' (show index < 4294967296 by omega), hone]
      omega
    rw [UInt32.toNat_mul, hsum]
    exact Nat.mod_eq_of_lt (by change 10000 * _ < _; omega)
  rw [← UInt32.toNat_inj, toNat_exposureUnits, hmicros, if_neg (by omega),
    UInt32.toNat_ofNat_of_lt' (by simp only [UInt32.size]; omega)]
  omega

variable {e : Emulator} {i : Nat} {d : Device}

theorem run_orDrop_ok {step : Dialogue (Session × Except DeviceError Unit)} {s : Session}
    {e' : Emulator} (hstep : step.run link.reply e = ((s, .ok ()), e')) :
    (orDrop step).run.run link.reply e = (.ok s, e') := by
  rw [orDrop_eq_opening]
  exact Attempt.run_opening_ok hstep

/-- Whatever a device was set to, opened for averaging it takes single scans without blanks between
them, and averages them with the exposure that is its own. -/
theorem tunes_openAveraging {serials : List String} {index : Nat} {serial : String}
    (hserial : serials[index]? = some serial) (hindex : index < 429496) (hsound : e.Sound)
    (huntroubled : e.Untroubled) (hfound : e.findBySerial? (some serial) = some i)
    (hd : e.devices[i]? = some d) (hattached : d.detached = false) :
    ∃ s e', (openAveraging serials index).run.run link.reply e = (.ok s, e') ∧
      s.Tunes e' i (d.tunedTo (averaging index)) := by
  obtain ⟨s₀, e₀, hconnect, h₀⟩ :=
    Session.tunes_connect hsound huntroubled hfound hd hattached
  obtain ⟨s₁, e₁, hscans, h₁⟩ := h₀.update fun p => { p with scans := 1 }
  obtain ⟨s₂, e₂, hblanks, h₂⟩ := h₁.update fun p => { p with blankScans := 0 }
  have hnone (p : Acquisition) : ({ p with blankScans := 0 } : Acquisition).withoutIdleBlanks =
      { p with blankScans := 0 } := Acquisition.withoutIdleBlanks_of_blankScans fun _ => rfl
  rw [hnone] at h₂
  obtain ⟨s₃, e₃, hmode, h₃⟩ := h₂.setMode .frameAveraging fun _ => rfl
  obtain ⟨s₄, e₄, hexposure, h₄⟩ := h₃.update fun p =>
    { p with exposure := exposureUnits (exposureStep * (UInt32.ofNat index + 1)) }
  refine ⟨s₄, e₄, ?_, ?_⟩
  · have hestablish : (Session.establish (some serial)).run.run link.reply e = (.ok s₀, e₀) := by
      rw [Session.establish_eq_opening]
      exact Attempt.run_opening_ok hconnect
    unfold openAveraging
    rw [hserial]
    refine (Interaction.run_bind_ok hestablish _).trans ?_
    refine (Interaction.run_bind_ok (run_orDrop_ok hscans) _).trans ?_
    refine (Interaction.run_bind_ok (run_orDrop_ok hblanks) _).trans ?_
    refine (Interaction.run_bind_ok (run_orDrop_ok hmode) _).trans ?_
    exact run_orDrop_ok hexposure
  · have hsingle (p : Acquisition) :
        ({ p with scans := 1 } : Acquisition).withoutIdleBlanks.scans = 1 := by
      unfold Acquisition.withoutIdleBlanks
      split <;> rfl
    have hsettled (p : Acquisition) (hscans : p.scans = 1) : (⟨p.scans, 0, .frameAveraging,
        exposureUnits (exposureStep * (UInt32.ofNat index + 1))⟩ : Acquisition) =
          averaging index := by
      rw [hscans, exposureUnits_step hindex]
      rfl
    rw [← hsettled _ (hsingle d.acquisition)]
    exact h₄

end Command

end Spectrometer
