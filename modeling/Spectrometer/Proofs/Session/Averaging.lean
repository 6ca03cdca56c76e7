import Spectrometer.Proofs.Emulator.Live
import Spectrometer.Proofs.Handle.Frames
import Spectrometer.Proofs.Session.Action
import Spectrometer.Reading.Reader

/-!
A session at an emulated device that averages frames. What a reading does to the device is said once
for both ways of addressing frames: a session that knows of the averaging asks for the latest frame
and throws nothing away; one that does not asks by place, clears the memory, and takes the readiness
of the average for a number of frames.
-/

namespace Spectrometer

namespace Device

/-- An averaging device after its memory was cleared, as far as the session clears it, and an
acquisition was started. -/
def restarted (kind : MemoryKind) (d : Device) : Device :=
  match kind with
  | .ring => d.clearMemory.trigger
  | .latestFrame => d.trigger

/-- Whether a session that addresses frames in this way takes the memory of an averaging device for
empty. -/
def seemsEmpty (kind : MemoryKind) (d : Device) : Bool :=
  match kind with
  | .ring => d.averagedStatus == 0
  | .latestFrame => false

/-- An averaging device after its frame was fetched. -/
def fetched (d : Device) : Device := { d with averagedStatus := 0 }

/-- The frame that an averaging device delivers. -/
def latest (d : Device) : Frame :=
  .ofRaw (filled d.format.size.toNat 0 (d.averaged.getD d.synthesize))

theorem trigger_eq {d : Device} (haveraging : d.isAveraging = true) :
    ∃ frame, d.trigger = { d with
      captures := d.captures + 1
      averaged := some frame
      averagedStatus := min (d.averagedStatus + 1) 2 } := by
  unfold trigger
  exact ⟨_, if_pos haveraging⟩

/-- Cleared and triggered, the device has one average, not fetched yet. -/
theorem restarted_ring {d : Device} (haveraging : d.isAveraging = true) :
    (d.restarted .ring).memoryFull = false ∧ (d.restarted .ring).averagedStatus = 1 := by
  have hcleared : d.clearMemory.isAveraging = true := haveraging
  obtain ⟨frame, htrigger⟩ := trigger_eq hcleared
  have hrestarted : d.restarted .ring = d.clearMemory.trigger := rfl
  rw [hrestarted, htrigger]
  exact ⟨rfl, rfl⟩

/-- Nothing but a cleared memory stops being full. -/
theorem restarted_latestFrame {d : Device} (haveraging : d.isAveraging = true) :
    (d.restarted .latestFrame).memoryFull = d.memoryFull := by
  obtain ⟨frame, htrigger⟩ := trigger_eq haveraging
  have hrestarted : d.restarted .latestFrame = d.trigger := rfl
  rw [hrestarted, htrigger]

end Device

namespace Emulator.Serves

variable {e : Emulator} {h : Handle} {i : Nat} {d : Device}

theorem status (hserves : e.Serves h i d) :
    ∃ e', h.status.run.run link.reply e = (.ok ⟨false, d.memoryFull⟩, e') ∧ e'.Serves h i d := by
  obtain ⟨e', hrun, h'⟩ := hserves.request (r := .getStatus) rfl hserves.attached
  exact ⟨e', Interaction.run_bind_ok hrun _, h'⟩

theorem frameSize (hserves : e.Serves h i d) :
    h.frameSize.run link.reply e = (d.format.size, e) :=
  Handle.run_frameSize hserves.pixelsInFrame

theorem framesInMemory (hserves : e.Serves h i d) :
    ∃ e', h.framesInMemory.run.run link.reply e = (.ok d.status.frames, e') ∧ e'.Serves h i d := by
  obtain ⟨e', hrun, h'⟩ := hserves.request (r := .getStatus) rfl hserves.attached
  exact ⟨e', Interaction.run_bind_ok hrun _, h'⟩

/-- What the device delivers comes through a buffer of the size that the driver knows. -/
theorem frame (hserves : e.Serves h i d) {d' : Device} {index : UInt16} {raw : List UInt16}
    (hframe : d.getFrame index = .ok (raw, d')) (hattached : d'.detached = false) :
    ∃ e', (h.frame index).run.run link.reply e =
        (.ok (.ofRaw (filled d.format.size.toNat 0 raw)), e') ∧ e'.Serves h i d' := by
  obtain ⟨e', hrun, h'⟩ :=
    hserves.request (r := .getFrame index d.format.size.toNat) hframe hattached
  have hraw := (Handle.run_rawFrame_ok_iff hserves.frameSize).mpr ⟨raw, hrun, rfl⟩
  exact ⟨e', Interaction.run_bind_ok hraw _, h'⟩

/-- An averaging device has a frame under every index. -/
theorem latest (hserves : e.Serves h i d) (haveraging : d.isAveraging = true) (index : UInt16) :
    ∃ e', (h.frame index).run.run link.reply e = (.ok d.latest, e') ∧
      e'.Serves h i d.fetched := by
  have hframe : d.getFrame index = .ok (d.averaged.getD d.synthesize, d.fetched) :=
    if_pos haveraging
  exact hserves.frame hframe hserves.attached

end Emulator.Serves

namespace Session

open Emulator (link)

/-- The session triggers by software and is served by a device that averages frames and reports its
own count of them. -/
structure Averages (s : Session) (e : Emulator) (d : Device) : Prop where
  serves : ∃ i, e.Serves s.handle i d
  averaging : d.isAveraging = true
  counted : d.forcedFrames = none
  software : s.trigger = .software

theorem fire_eq {s : Session} (hsoftware : s.trigger = .software) :
    s.fire = s.handle.request .trigger := by
  rw [fire, hsoftware]
  rfl

/-- What a session does plants no fault. -/
theorem untroubled_course {e : Emulator} (h : e.Untroubled) (s : Session) (actions : List Action) :
    (course link actions (s, e)).2.Untroubled := by
  induction actions generalizing s e with
  | nil => exact h
  | cons a rest ih => exact ih (h.run (a.perform s)) _

variable {s : Session} {e : Emulator} {d : Device}

theorem Averages.request (h : s.Averages e d) (d' : Device) (r : Request) {value : r.Value}
    (hperform : d.perform e.readLimit r = .ok (value, d')) (hattached : d'.detached = d.detached)
    (haveraging : d'.isAveraging = d.isAveraging) (hcounted : d'.forcedFrames = d.forcedFrames) :
    ∃ e', (s.handle.request r).run.run link.reply e = (.ok value, e') ∧ s.Averages e' d' := by
  obtain ⟨i, hserves⟩ := h.serves
  obtain ⟨e', hrun, hserves'⟩ := hserves.request hperform (hattached.trans hserves.attached)
  exact ⟨e', hrun, ⟨i, hserves'⟩, haveraging.trans h.averaging, hcounted.trans h.counted,
    h.software⟩

theorem Averages.fire (h : s.Averages e d) :
    ∃ e', s.fire.run.run link.reply e = (.ok (), e') ∧ s.Averages e' d.trigger := by
  obtain ⟨frame, htrigger⟩ := Device.trigger_eq h.averaging
  rw [fire_eq h.software]
  apply h.request d.trigger .trigger rfl
  · rw [htrigger]
  · rw [htrigger]
    rfl
  · rw [htrigger]

theorem Averages.restart (h : s.Averages e d) :
    ∃ e', (Reader.restart s).run.run link.reply e = (.ok (), e') ∧
      s.Averages e' (d.restarted s.memory) := by
  unfold Reader.restart frames Memory.clear
  cases hmemory : s.memory with
  | ring =>
    obtain ⟨e₁, hclear, h₁⟩ := h.request d.clearMemory .clearMemory rfl rfl rfl rfl
    obtain ⟨e', hfire, h'⟩ := h₁.fire
    exact ⟨e', (Interaction.run_bind_ok hclear _).trans hfire, h'⟩
  | latestFrame =>
    obtain ⟨e', hfire, h'⟩ := h.fire
    exact ⟨e', hfire, h'⟩

theorem Averages.status (h : s.Averages e d) :
    ∃ e', s.status.run.run link.reply e = (.ok ⟨false, d.memoryFull⟩, e') ∧ s.Averages e' d := by
  obtain ⟨i, hserves⟩ := h.serves
  obtain ⟨e', hrun, hserves'⟩ := hserves.status
  exact ⟨e', hrun, { h with serves := ⟨i, hserves'⟩ }⟩

theorem Averages.frameCount (h : s.Averages e d) :
    ∃ e', s.handle.framesInMemory.run.run link.reply e = (.ok d.averagedStatus, e') ∧
      s.Averages e' d := by
  obtain ⟨i, hserves⟩ := h.serves
  obtain ⟨e', hrun, hserves'⟩ := hserves.framesInMemory
  have hcount : d.status.frames = d.averagedStatus := by
    rw [Device.status, h.counted]
    exact if_pos h.averaging
  rw [hcount] at hrun
  exact ⟨e', hrun, { h with serves := ⟨i, hserves'⟩ }⟩

/-- The number of frames there seem to be: asked by place, it is the readiness of the average. -/
theorem Averages.length (h : s.Averages e d) :
    ∃ n e', s.frames.length.run.run link.reply e = (.ok n, e') ∧ s.Averages e' d ∧
      (n == 0) = d.seemsEmpty s.memory := by
  unfold Memory.length frames Device.seemsEmpty
  cases s.memory with
  | ring =>
    obtain ⟨e', hrun, h'⟩ := h.frameCount
    refine ⟨d.averagedStatus.toNat, e', Interaction.run_bind_ok hrun _, h', ?_⟩
    rw [Bool.eq_iff_iff, beq_iff_eq, beq_iff_eq, ← UInt16.toNat_inj]
    rfl
  | latestFrame => exact ⟨1, e, rfl, h, rfl⟩

theorem Averages.isEmpty (h : s.Averages e d) :
    ∃ e', s.frames.isEmpty.run.run link.reply e = (.ok (d.seemsEmpty s.memory), e') ∧
      s.Averages e' d := by
  obtain ⟨n, e', hrun, h', hseems⟩ := h.length
  refine ⟨e', (Interaction.run_bind_ok hrun _).trans ?_, h'⟩
  rw [← hseems]
  rfl

theorem Averages.frame (h : s.Averages e d) (index : UInt16) :
    ∃ frame e', (s.handle.frame index).run.run link.reply e = (.ok frame, e') ∧
      s.Averages e' d.fetched := by
  obtain ⟨i, hserves⟩ := h.serves
  obtain ⟨e', hframe, hserves'⟩ := hserves.latest h.averaging index
  exact ⟨d.latest, e', hframe, ⟨i, hserves'⟩, h.averaging, h.counted, h.software⟩

/-- The session gets a frame from the device, unless the device seems empty to it. -/
theorem Averages.get (h : s.Averages e d) (hseems : d.seemsEmpty s.memory = false) :
    ∃ frame e', (s.frames.get 0).run.run link.reply e = (.ok frame, e') ∧
      s.Averages e' d.fetched := by
  obtain ⟨n, e₁, hlength, h₁, hn⟩ := h.length
  have hpos : 0 < n := by
    rw [hseems] at hn
    simpa [Nat.pos_iff_ne_zero] using hn
  have hby : s.frames.kind = s.memory := rfl
  unfold Memory.get
  cases hmemory : s.memory with
  | ring =>
    obtain ⟨frame, e', hframe, h'⟩ := h₁.frame (UInt16.ofNat 0)
    refine ⟨frame, e', ?_, h'⟩
    rw [hby, hmemory]
    refine (Interaction.run_bind_ok hlength _).trans ?_
    rw [if_pos hpos]
    exact hframe
  | latestFrame =>
    obtain ⟨frame, e', hframe, h'⟩ := h.frame Frame.latestIndex
    refine ⟨frame, e', ?_, h'⟩
    rw [hby, hmemory]
    exact hframe

end Session

end Spectrometer
