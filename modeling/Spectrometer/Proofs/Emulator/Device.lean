import Spectrometer.Emulator.Device
import Spectrometer.Proofs.Handle

/-!
What requests leave of a device's setup. Work with the device leaves all of it, a request for one
kind of setting leaves the others.
-/

namespace Spectrometer

/-- Requests that change the acquisition parameters or the frame format of a device. -/
def Request.changesSettings : Request → Bool
  | reset | setAcquisition _ | setFormat _ => true
  | _ => false

/-- Requests that change the setup of a device's trigger input. -/
def Request.changesTriggerInput : Request → Bool
  | reset | setExternalTrigger .. => true
  | _ => false

theorem Request.changesSettings_eq_false {r : Request} (hr : r.configures = false) :
    r.changesSettings = false := by
  cases r <;> first | rfl | cases hr

theorem Request.changesTriggerInput_eq_false {r : Request} (hr : r.configures = false) :
    r.changesTriggerInput = false := by
  cases r <;> first | rfl | cases hr

namespace Device

/-- What a session remembers of a device. -/
def settings (d : Device) : Acquisition × FrameParameters := (d.acquisition, d.format)

/-- All that requests can set up on a device. -/
def configuration (d : Device) : (Acquisition × FrameParameters) × ExternalMode × SignalEdge :=
  (d.settings, d.externalTrigger)

@[simp] theorem trigger_configuration (d : Device) : d.trigger.configuration = d.configuration := by
  unfold trigger
  dsimp only
  split <;> rfl

variable {d d' : Device} {limit : Option Nat} {r : Request}

/-- Fetching a frame changes nothing but the readiness of an averaged one. -/
theorem getFrame_eq {index : UInt16} {samples : List UInt16}
    (hframe : d.getFrame index = .ok (samples, d')) :
    d' = if d.isAveraging then { d with averagedStatus := 0 } else d := by
  unfold getFrame at hframe
  split at hframe
  · rename_i haveraging
    cases hframe
    rw [if_pos haveraging]
  · rename_i haveraging
    dsimp only at hframe
    generalize (if index = Frame.latestIndex then _ else _ : Option (List UInt16)) = found at hframe
    cases found <;> cases hframe
    rw [if_neg haveraging]

theorem writeFlash_eq {offset : UInt32} {data : List UInt8} {count : Nat}
    (hwrite : d.writeFlash offset data = .ok (count, d')) :
    offset.toNat + data.length ≤ Flash.size ∧ d' = { d with
      flash := d.flash.take offset.toNat ++ program (d.flash.drop offset.toNat) data } := by
  unfold writeFlash at hwrite
  simp only [List.splitAt_eq] at hwrite
  by_cases hfits : offset.toNat + data.length ≤ Flash.size
  · rw [if_pos hfits] at hwrite
    cases hwrite
    exact ⟨hfits, rfl⟩
  · rw [if_neg hfits] at hwrite
    cases hwrite

/-- A read delivers what is there, possibly less than it was asked for. -/
theorem readFlash_ok {offset : UInt32} {length : Nat} {delivery : FlashDelivery}
    (hread : d.readFlash limit offset length = .ok delivery) :
    delivery.count ≤ length ∧
      delivery.bytes = (d.flash.drop offset.toNat).take delivery.count := by
  unfold readFlash at hread
  split at hread <;> cases hread
  cases limit with
  | none => exact ⟨Nat.le_refl _, rfl⟩
  | some limit => exact ⟨Nat.min_le_left .., rfl⟩

/-- Reading the flash leaves the device as it is. -/
theorem perform_readFlash {offset : UInt32} {length : Nat} {delivery : FlashDelivery}
    (hperform : d.perform limit (.readFlash offset length) = .ok (delivery, d')) :
    d.readFlash limit offset length = .ok delivery ∧ d' = d := by
  change (d.readFlash limit offset length).map (fun delivery => (delivery, d)) = _ at hperform
  cases hread : d.readFlash limit offset length with
  | error e =>
    rw [hread] at hperform
    cases hperform
  | ok found =>
    rw [hread] at hperform
    cases hperform
    exact ⟨rfl, rfl⟩

theorem setFormat_eq {f : FrameFormat} {size : UInt16} (hformat : d.setFormat f = .ok (size, d')) :
    d' = { d with format := ⟨f, size⟩ }.clearMemory := by
  unfold setFormat at hformat
  split at hformat <;> cases hformat
  rfl

/-- Work with the device leaves it set up as it is. -/
theorem perform_configuration {value : r.Value} (hr : r.configures = false)
    (hperform : d.perform limit r = .ok (value, d')) : d'.configuration = d.configuration := by
  cases r with
  | reset | setAcquisition | setFormat | setExternalTrigger => cases hr
  | trigger =>
    cases hperform
    exact d.trigger_configuration
  | getFrame index length =>
    rw [getFrame_eq hperform]
    split <;> rfl
  | readFlash offset length => rw [(perform_readFlash hperform).2]
  | writeFlash offset data =>
    rw [(writeFlash_eq hperform).2]
    rfl
  | _ =>
    cases hperform
    rfl

theorem perform_settings {value : r.Value} (hr : r.changesSettings = false)
    (hperform : d.perform limit r = .ok (value, d')) : d'.settings = d.settings := by
  cases hconfigures : r.configures with
  | false => exact congrArg Prod.fst (perform_configuration hconfigures hperform)
  | true =>
    cases r with
    | setExternalTrigger mode edge =>
      cases hperform
      rfl
    | reset | setAcquisition | setFormat => cases hr
    | _ => cases hconfigures

theorem perform_externalTrigger {value : r.Value} (hr : r.changesTriggerInput = false)
    (hperform : d.perform limit r = .ok (value, d')) : d'.externalTrigger = d.externalTrigger := by
  cases hconfigures : r.configures with
  | false => exact congrArg Prod.snd (perform_configuration hconfigures hperform)
  | true =>
    cases r with
    | setAcquisition p =>
      cases hperform
      rfl
    | setFormat f =>
      rw [setFormat_eq hperform]
      rfl
    | reset | setExternalTrigger => cases hr
    | _ => cases hconfigures

end Device

end Spectrometer
