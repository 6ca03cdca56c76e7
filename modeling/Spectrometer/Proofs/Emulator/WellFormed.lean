import Spectrometer.Proofs.Emulator.Effect

/-!
What stays true of emulated devices. A device's format lies on its sensor, its memory holds no more
frames than fit and only such as its sensor shows with this format, and its flash keeps its size.
Requests keep this one by one, so everything that can happen to an emulator does.
-/

namespace Spectrometer

/-- The range of the format is a part of the sensor, and there are as many raw samples as it takes:
one for each group of elements, and the service samples. -/
structure FrameParameters.OnSensor (f : FrameParameters) : Prop where
  first : f.format.first ≤ f.format.last
  last : f.format.last ≤ maxElement
  size : f.size.toNat = Frame.headerLength + Frame.trailerLength +
    ((f.format.last.toNat - f.format.first.toNat) >>> f.format.reduction.raw.toNat) + 1

theorem FrameParameters.onSensor_factory : factory.OnSensor := by
  constructor <;> decide

/-- A raw frame that sensors show with this format. -/
def FrameParameters.Shows (f : FrameParameters) (raw : List UInt16) : Prop :=
  ∃ d : Device, d.format = f ∧ raw = d.synthesize

namespace Device

/-- What stays true of a device, whatever it is asked for. -/
structure WellFormed (d : Device) : Prop where
  format : d.format.OnSensor
  frames : ∀ raw ∈ d.frames, d.format.Shows raw
  averaged : ∀ raw, d.averaged = some raw → d.format.Shows raw
  room : d.frames.size ≤ d.memoryFrames.toNat
  full : d.memoryFull = true → d.frames.size = d.memoryFrames.toNat
  readiness : d.averagedStatus.toNat ≤ 2
  flash : d.flash.length = Flash.size

variable {d d' : Device}

theorem shows_synthesize (d : Device) : d.format.Shows d.synthesize := ⟨d, rfl, rfl⟩

/-- A device whose memory was cleared has only a format and a flash to keep in order. -/
theorem wellFormed_clearMemory (hformat : d.format.OnSensor) (hflash : d.flash.length = Flash.size) :
    d.clearMemory.WellFormed where
  format := hformat
  frames := by simp [clearMemory]
  averaged := nofun
  room := Nat.zero_le _
  full := nofun
  readiness := by simp [clearMemory]
  flash := hflash

theorem wellFormed_new (serial : String) (memoryFrames : UInt16) :
    (new serial memoryFrames).WellFormed :=
  wellFormed_clearMemory (d := new serial memoryFrames) FrameParameters.onSensor_factory
    List.length_replicate

/-- The device shifts where the size of a frame is a matter of division. -/
theorem shiftRight_raw (r : ReductionMode) (n : Nat) : n >>> r.raw.toNat = n / r.factor.toNat := by
  cases r <;> exact Nat.shiftRight_eq_div_pow n _

/-- A range of elements has no more groups than the sensor has elements. -/
theorem toNat_groups {f : FrameFormat} (hfirst : f.first ≤ f.last) (hlast : f.last ≤ maxElement) :
    ((f.last - f.first) / f.reduction.factor).toNat =
        (f.last.toNat - f.first.toNat) >>> f.reduction.raw.toNat ∧
      (f.last.toNat - f.first.toNat) >>> f.reduction.raw.toNat ≤ 3647 := by
  have hbound : f.last.toNat ≤ 3647 := hlast
  have hrange : (f.last - f.first).toNat = f.last.toNat - f.first.toNat :=
    UInt16.toNat_sub_of_le _ _ hfirst
  rw [shiftRight_raw, UInt16.toNat_div, hrange]
  exact ⟨rfl, Nat.le_trans (Nat.div_le_self _ _) (by omega)⟩

/-- So a word counts the samples of its frame. -/
theorem toNat_frameSize {f : FrameFormat} (hfirst : f.first ≤ f.last) (hlast : f.last ≤ maxElement) :
    (frameSize f).toNat = Frame.headerLength + Frame.trailerLength +
      ((f.last.toNat - f.first.toNat) >>> f.reduction.raw.toNat) + 1 := by
  obtain ⟨hgroups, hbound⟩ := toNat_groups hfirst hlast
  have hservice : (UInt16.ofNat (Frame.headerLength + Frame.trailerLength)).toNat =
      Frame.headerLength + Frame.trailerLength := rfl
  have hheader : Frame.headerLength = 32 := rfl
  have htrailer : Frame.trailerLength = 14 := rfl
  rw [frameSize, UInt16.toNat_add, UInt16.toNat_add, hgroups, hservice, UInt16.toNat_one]
  omega

theorem setFormat_ok {f : FrameFormat} {size : UInt16} (hformat : d.setFormat f = .ok (size, d')) :
    f.first ≤ f.last ∧ f.last ≤ maxElement ∧ size = frameSize f := by
  unfold setFormat at hformat
  split at hformat <;> cases hformat
  rename_i hfits
  simp only [not_or, UInt16.not_lt] at hfits
  exact ⟨hfits.1, hfits.2, rfl⟩

theorem length_program (olds news : List UInt8) : (program olds news).length = olds.length := by
  induction olds generalizing news with
  | nil => rw [program.eq_def]
  | cons old olds ih =>
    cases news with
    | nil => rw [program.eq_def]
    | cons new news => rw [program, List.length_cons, ih, List.length_cons]

theorem WellFormed.trigger (h : d.WellFormed) : d.trigger.WellFormed := by
  unfold Device.trigger
  dsimp only
  split
  · have hready (status : UInt16) : (min status 2).toNat ≤ 2 := by
      change (if status ≤ 2 then status else 2 : UInt16).toNat ≤ 2
      split
      · assumption
      · exact Nat.le_refl 2
    refine { h with averaged := ?_, readiness := hready _ }
    intro raw hraw
    cases hraw
    exact shows_synthesize { d with captures := d.captures + 1 }
  · have hroom := h.room
    have hfull := h.full
    refine { h with frames := ?_, room := ?_, full := ?_ }
    · intro raw hraw
      obtain hold | hnew := Array.mem_append.mp hraw
      · exact h.frames raw hold
      · rw [(Array.mem_replicate.mp hnew).2]
        exact shows_synthesize { d with captures := d.captures + 1 }
    · simp only [Array.size_append, Array.size_replicate]
      omega
    · simp only [Array.size_append, Array.size_replicate, Bool.or_eq_true, decide_eq_true_eq]
      rintro (hbefore | hmore)
      · rw [hfull hbefore]
        omega
      · omega

theorem WellFormed.getFrame (h : d.WellFormed) {index : UInt16} {samples : List UInt16}
    (hframe : d.getFrame index = .ok (samples, d')) : d'.WellFormed := by
  rw [getFrame_eq hframe]
  split
  · exact { h with readiness := Nat.zero_le 2 }
  · exact h

theorem WellFormed.writeFlash (h : d.WellFormed) {offset : UInt32} {data : List UInt8} {count : Nat}
    (hwrite : d.writeFlash offset data = .ok (count, d')) : d'.WellFormed := by
  obtain ⟨hfits, rfl⟩ := writeFlash_eq hwrite
  have hflash : (d.flash.take offset.toNat ++ program (d.flash.drop offset.toNat) data).length =
      Flash.size := by
    rw [List.length_append, length_program, List.length_take, List.length_drop, h.flash]
    omega
  exact { h with flash := hflash }

/-- Every request that a device carries out leaves it well-formed, and the room for frames as it
is. -/
theorem WellFormed.perform (h : d.WellFormed) {limit : Option Nat} {r : Request} {value : r.Value}
    (hperform : d.perform limit r = .ok (value, d')) :
    d'.WellFormed ∧ d'.memoryFrames = d.memoryFrames := by
  cases r with
  | reset =>
    cases hperform
    exact ⟨wellFormed_clearMemory FrameParameters.onSensor_factory h.flash, rfl⟩
  | setFormat f =>
    obtain ⟨hfirst, hlast, rfl⟩ := setFormat_ok hperform
    rw [setFormat_eq hperform]
    exact ⟨wellFormed_clearMemory ⟨hfirst, hlast, toNat_frameSize hfirst hlast⟩ h.flash, rfl⟩
  | trigger =>
    cases hperform
    refine ⟨h.trigger, ?_⟩
    unfold Device.trigger
    dsimp only
    split <;> rfl
  | getFrame index length =>
    refine ⟨h.getFrame hperform, ?_⟩
    rw [getFrame_eq hperform]
    split <;> rfl
  | clearMemory =>
    cases hperform
    exact ⟨wellFormed_clearMemory h.format h.flash, rfl⟩
  | eraseFlash =>
    cases hperform
    exact ⟨{ h with flash := List.length_replicate }, rfl⟩
  | readFlash offset length =>
    rw [(perform_readFlash hperform).2]
    exact ⟨h, rfl⟩
  | writeFlash offset data =>
    refine ⟨h.writeFlash hperform, ?_⟩
    rw [(writeFlash_eq hperform).2]
  | detach | setAcquisition | getAcquisition | getFormat | setExternalTrigger | getStatus =>
    cases hperform
    exact ⟨{ h with }, rfl⟩

end Device

namespace Emulator

/-- What stays true of an emulator whose devices have so much room for frames. -/
structure WellFormed (e : Emulator) (memoryFrames : UInt16) : Prop where
  sound : e.Sound
  devices : ∀ d ∈ e.devices, d.WellFormed ∧ d.memoryFrames = memoryFrames

/-- The emulator after some events, one after the other. -/
def after (e : Emulator) (events : List Event) : Emulator :=
  events.foldl (fun e event => event.apply e) e

/-- One device, to which somebody has connected. -/
def engaged (readLimit : Option Nat) : Emulator :=
  (new ⟨["A"], 4, readLimit⟩).after [.call (.connectBySerial none .null)]

variable {e e' : Emulator} {memoryFrames : UInt16}

theorem wellFormed_new (config : EmulatorConfig) :
    (new config).WellFormed config.memoryFrames := by
  refine ⟨sound_new config (new config).devices, ?_⟩
  intro d hd
  obtain ⟨serial, _, rfl⟩ := List.mem_map.mp hd
  exact ⟨Device.wellFormed_new serial config.memoryFrames, rfl⟩

theorem WellFormed.devices_call (h : e.WellFormed memoryFrames) (c : Call) :
    ∀ d ∈ (link c e).2.devices, d.WellFormed ∧ d.memoryFrames = memoryFrames := by
  have heffect := link_effect c e
  cases heffect with
  | none hcontexts hnext hdevices => exact hdevices ▸ h.devices
  | attach i old hold hi hcontexts hnext hdevices => exact hdevices ▸ h.devices
  | release old hold hcontexts hnext hdevices => exact hdevices ▸ h.devices
  | operate ctx r i d d' value hc hdevice hd hperform hcontexts hnext hdevices =>
    rw [hdevices]
    intro found hfound
    obtain hother | rfl := List.mem_or_eq_of_mem_set hfound
    · exact h.devices found hother
    · obtain ⟨hwellFormed, hmemoryFrames⟩ := h.devices d (List.mem_of_getElem? hd)
      obtain ⟨hnew, hsame⟩ := hwellFormed.perform hperform
      exact ⟨hnew, hsame.trans hmemoryFrames⟩

theorem WellFormed.devices_modify (h : e.WellFormed memoryFrames) (i : Nat) {f : Device → Device}
    (hf : ∀ d, d.WellFormed → (f d).WellFormed ∧ (f d).memoryFrames = d.memoryFrames) :
    ∀ d ∈ (e.modifyDevice i f).devices, d.WellFormed ∧ d.memoryFrames = memoryFrames := by
  intro d hd
  obtain ⟨j, hj⟩ := List.getElem?_of_mem hd
  simp only [modifyDevice, List.getElem?_modify, Option.map_eq_map, Option.map_eq_some_iff] at hj
  obtain ⟨old, hold, hsame⟩ := hj
  obtain ⟨hwellFormed, hmemoryFrames⟩ := h.devices old (List.mem_of_getElem? hold)
  split at hsame
  · subst hsame
    exact ⟨(hf old hwellFormed).1, (hf old hwellFormed).2.trans hmemoryFrames⟩
  · subst hsame
    exact ⟨hwellFormed, hmemoryFrames⟩

/-- Whatever happens to it, an emulator stays well-formed. -/
theorem WellFormed.apply (h : e.WellFormed memoryFrames) (event : Event) :
    (event.apply e).WellFormed memoryFrames := by
  refine ⟨event.sound h.sound, ?_⟩
  cases event with
  | call c => exact h.devices_call c
  | failNext o code => exact h.devices
  | resetCalls => exact h.devices
  | forceFrames i frames => exact h.devices_modify i fun d hd => ⟨{ hd with }, rfl⟩
  | reattach i => exact h.devices_modify i fun d hd => ⟨{ hd with }, rfl⟩

theorem WellFormed.after (h : e.WellFormed memoryFrames) (events : List Event) :
    (e.after events).WellFormed memoryFrames := by
  induction events generalizing e with
  | nil => exact h
  | cons event rest ih => exact ih (h.apply event)

/-- What every event leaves true of an emulator, every dialogue does. -/
theorem keeps_run {α : Type} {keeps : Emulator → Prop}
    (hkeeps : ∀ (e : Emulator) (event : Event), keeps e → keeps (event.apply e)) (d : Dialogue α)
    (he : keeps e) : keeps (d.run link.reply e).2 := by
  induction d generalizing e with
  | done a => exact he
  | ask u next ih =>
    apply ih
    cases u with
    | call c => exact hkeeps e (.call c) he
    | warn w => exact he

theorem WellFormed.run {α : Type} (h : e.WellFormed memoryFrames) (d : Dialogue α) :
    (d.run link.reply e).2.WellFormed memoryFrames :=
  keeps_run (fun e event (he : e.WellFormed memoryFrames) => he.apply event) d h

theorem WellFormed.device (h : e.WellFormed memoryFrames) {i : Nat} {d : Device}
    (hd : e.devices[i]? = some d) : d.WellFormed :=
  (h.devices d (List.mem_of_getElem? hd)).1

end Emulator

end Spectrometer
