import Mathlib.Algebra.Order.Floor.Div
import Spectrometer.Memory
import Spectrometer.Proofs.Emulator.Live
import Spectrometer.Proofs.Emulator.Pixels
import Spectrometer.Proofs.Handle.Frames

/-!
Frames that are fetched. A raw frame goes from a device through a buffer of the size that the driver
reads off the context, and loses its service samples. Over a well-formed emulator the buffer is as
long as the frame, so that just the pixels are left, turned round.
-/

namespace Spectrometer

/-- A frame that sensors show with this format: one sample for each group of elements, the last
group in front; around the samples, header and trailer were taken away. -/
structure Frame.Matches (frame : Frame) (f : FrameParameters) : Prop where
  length : frame.samples.length =
    (f.format.last.toNat - f.format.first.toNat + 1) ⌈/⌉ f.format.reduction.factor.toNat
  sample : ∀ (j : Nat) (hj : j < frame.samples.length), frame.samples[j].toNat =
    f.format.first.toNat +
      (frame.samples.length - 1 - j) * f.format.reduction.factor.toNat + 1
  descent : ∀ (j : Nat) (hj : j + 1 < frame.samples.length), frame.samples[j].toNat =
    frame.samples[j + 1].toNat + f.format.reduction.factor.toNat
  within : ∀ x ∈ frame.samples, f.format.first.toNat + 1 ≤ x.toNat ∧
    x.toNat ≤ f.format.last.toNat + 1
  window : ∃ header trailer, header.length = Frame.headerLength ∧
    trailer.length = Frame.trailerLength ∧ f.Shows (header ++ frame.samples.reverse ++ trailer)

namespace FrameParameters

variable {f : FrameParameters} {raw : List UInt16}

theorem OnSensor.pixels_eq_ceilDiv (h : f.OnSensor) : f.pixels =
    (f.format.last.toNat - f.format.first.toNat + 1) ⌈/⌉ f.format.reduction.factor.toNat := by
  have hfactor : 0 < f.format.reduction.factor.toNat := by
    cases f.format.reduction <;> decide
  rw [h.pixels_eq, Nat.ceilDiv_eq_add_pred_div, Nat.add_right_comm, Nat.add_sub_cancel,
    Nat.add_div_right _ hfactor]

/-- A frame is the pixels of its raw frame, turned round. -/
theorem Shows.samples_ofRaw (hraw : f.Shows raw) :
    (Frame.ofRaw raw).samples = ((List.range f.pixels).map f.format.pixel).reverse := by
  obtain ⟨header, trailer, hheader, htrailer, rfl⟩ := hraw.eq_append
  exact Frame.samples_ofRaw_append hheader htrailer

theorem Shows.matches (hraw : f.Shows raw) (h : f.OnSensor) : (Frame.ofRaw raw).Matches f := by
  have hsamples := hraw.samples_ofRaw
  generalize Frame.ofRaw raw = frame at hsamples ⊢
  have hlength : frame.samples.length = f.pixels := by
    rw [hsamples, List.length_reverse, List.length_map, List.length_range]
  have hsample (j : Nat) (hj : j < frame.samples.length) : frame.samples[j].toNat =
      f.format.first.toNat + (frame.samples.length - 1 - j) * f.format.reduction.factor.toNat +
        1 := by
    have hk : frame.samples.length - 1 - j < f.pixels := by omega
    have hpixel : frame.samples[j] = f.format.pixel (frame.samples.length - 1 - j) := by
      simp only [hsamples, List.getElem_reverse, List.getElem_map, List.getElem_range,
        List.length_reverse]
    rw [hpixel, h.toNat_pixel hk]
  refine ⟨hlength.trans h.pixels_eq_ceilDiv, hsample, ?_, ?_, ?_⟩
  · intro j hj
    have hstep : frame.samples.length - 1 - j = frame.samples.length - 1 - (j + 1) + 1 := by omega
    rw [hsample j (Nat.lt_of_succ_lt hj), hsample (j + 1) hj, hstep, Nat.add_mul]
    omega
  · intro x hx
    obtain ⟨j, hj, rfl⟩ := List.getElem_of_mem hx
    have helement := h.element_le (k := frame.samples.length - 1 - j) (by omega)
    rw [hsample j hj]
    omega
  · obtain ⟨header, trailer, hheader, htrailer, heq⟩ := hraw.eq_append
    refine ⟨header, trailer, hheader, htrailer, ?_⟩
    rw [hsamples, List.reverse_reverse, ← heq]
    exact hraw

end FrameParameters

/-- What a well-formed device hands out as a frame is one that it shows with its format. -/
theorem Device.WellFormed.getFrame_shows {d d' : Device} (h : d.WellFormed) {index : UInt16}
    {samples : List UInt16} (hframe : d.getFrame index = .ok (samples, d')) :
    d.format.Shows samples := by
  unfold Device.getFrame at hframe
  split at hframe
  · cases hframe
    cases haveraged : d.averaged with
    | none => exact d.shows_synthesize
    | some raw => exact h.averaged raw haveraged
  · dsimp only at hframe
    generalize hfound : (if index = Frame.latestIndex then _ else _ : Option (List UInt16)) = found
      at hframe
    cases found <;> cases hframe
    apply h.frames
    split at hfound
    · exact Array.mem_of_back? hfound
    · exact Array.mem_of_getElem? hfound

namespace Emulator

/-- The format of the device behind a context, where there is one. -/
def formatOf? (e : Emulator) (ctx : Context) : Option FrameParameters :=
  ((e.deviceOf? ctx).bind (e.devices[·]?)).map (·.format)

theorem formatOf?_eq {e : Emulator} {ctx : Context} {i : Nat} {d : Device}
    (hi : e.deviceOf? ctx = some i) (hd : e.devices[i]? = some d) :
    e.formatOf? ctx = some d.format := by
  rw [formatOf?, hi, Option.bind_some, hd]
  rfl

/-- Work with a device leaves its format as it is. -/
theorem formatOf?_through {α : Type} {d : Dialogue α} {h : Handle} {post : α → Prop}
    (hd : d.Obeys (Utterance.Through h (·.configures = false)) post) (e : Emulator)
    (ctx : Context) : (d.run link.reply e).2.formatOf? ctx = e.formatOf? ctx := by
  have hcontexts := contexts_through hd e
  have hformats (i : Nat) : (d.run link.reply e).2.devices[i]?.map (·.format) =
      e.devices[i]?.map (·.format) := by
    refine map_view_through hd ?_ i
    intro r hr limit d d' value hperform
    exact congrArg (·.1.2) (Device.perform_configuration hr hperform)
  unfold formatOf? deviceOf?
  rw [hcontexts]
  generalize (if ctx = .null then none else e.contexts.lookup ctx.raw) = found
  cases found with
  | none => rfl
  | some i => exact hformats i

end Emulator

open Emulator (link)

variable {e e' : Emulator} {h : Handle} {memoryFrames : UInt16}

namespace Handle

variable {index : UInt16}

theorem rawFrame_ok {raw : List UInt16}
    (hraw : (h.rawFrame index).run.run link.reply e = (.ok raw, e')) :
    ∃ i d samples d', e.deviceOf? h.ctx = some i ∧ e.devices[i]? = some d ∧
      d.getFrame index = .ok (samples, d') ∧ raw = filled d.format.size.toNat 0 samples := by
  obtain ⟨samples, hrequest, rfl⟩ := (run_rawFrame_ok_iff (run_frameSize rfl)).mp hraw
  have hframe := (run_request_ok_iff.mp hrequest).2
  obtain ⟨code, hlink⟩ | ⟨i, d, value, d', hi, hd, hperform, hlink⟩ :=
    Emulator.link_operate_cases e h.ctx (.getFrame index _)
  · cases hlink.symm.trans hframe
  · -- The driver reads the size off the device that the request is carried out by.
    have hpixels : (e.contexts.lookup h.ctx.raw).bind (e.devices[·]?) = some d := by
      rw [(Emulator.deviceOf?_eq_some_iff.mp hi).2, Option.bind_some, hd]
    cases hlink.symm.trans hframe
    refine ⟨i, d, samples, d', hi, hd, hperform, ?_⟩
    rw [hpixels]
    rfl

/-- A frame that was fetched from a well-formed emulator is one of the device behind the handle. -/
theorem frame_matches (hwell : e.WellFormed memoryFrames) {frame : Frame}
    (hframe : (h.frame index).run.run link.reply e = (.ok frame, e')) :
    ∃ f, e.formatOf? h.ctx = some f ∧ frame.Matches f := by
  obtain ⟨raw, e₁, hraw, hdone⟩ := Interaction.run_bind_eq_ok hframe
  cases hdone
  obtain ⟨i, d, samples, d', hi, hd, hfetched, rfl⟩ := rawFrame_ok hraw
  have hdevice := hwell.device hd
  have hshows := hdevice.getFrame_shows hfetched
  have hall : filled d.format.size.toNat 0 samples = samples :=
    if_pos (hshows.length_eq hdevice.format)
  rw [hall]
  exact ⟨d.format, Emulator.formatOf?_eq hi hd, hshows.matches hdevice.format⟩

end Handle

namespace Memory

theorem fetch_matches (hwell : e.WellFormed memoryFrames) {indices : List UInt16}
    {frames : List Frame} (hfetch : (fetch h indices).run.run link.reply e = (.ok frames, e')) :
    ∀ frame ∈ frames, ∃ f, e.formatOf? h.ctx = some f ∧ frame.Matches f := by
  unfold fetch at hfetch
  induction indices generalizing e frames with
  | nil =>
    cases hfetch
    exact nofun
  | cons index rest ih =>
    rw [List.mapM_cons] at hfetch
    obtain ⟨first, e₁, hfirst, hrest⟩ := Interaction.run_bind_eq_ok hfetch
    obtain ⟨others, e₂, hothers, hdone⟩ := Interaction.run_bind_eq_ok hrest
    cases hdone
    have hthrough : Attempt.Through h (·.configures = false) (h.frame index) :=
      h.through_frame index fun _ => rfl
    have hformat := Emulator.formatOf?_through hthrough e h.ctx
    have hnext := hwell.run (h.frame index).run
    rw [hfirst] at hformat hnext
    intro frame hframe
    obtain rfl | hother := List.mem_cons.mp hframe
    · exact Handle.frame_matches hwell hfirst
    · rw [← hformat]
      exact ih hnext hothers frame hother

variable {m : Memory}

/-- Counting the frames comes before the fetch, and changes nothing that matters to it. -/
theorem length_keeps (m : Memory) (hwell : e.WellFormed memoryFrames) :
    (m.length.run.run link.reply e).2.WellFormed memoryFrames ∧
      (m.length.run.run link.reply e).2.formatOf? m.handle.ctx = e.formatOf? m.handle.ctx :=
  ⟨hwell.run m.length.run, Emulator.formatOf?_through (m.through_length rfl) e m.handle.ctx⟩

theorem get_matches (hwell : e.WellFormed memoryFrames) {index : Nat} {frame : Frame}
    (hget : (m.get index).run.run link.reply e = (.ok frame, e')) :
    ∃ f, e.formatOf? m.handle.ctx = some f ∧ frame.Matches f := by
  obtain ⟨hnext, hformat⟩ := m.length_keeps hwell
  unfold get at hget
  cases hkind : m.kind with
  | latestFrame =>
    rw [hkind] at hget
    exact Handle.frame_matches hwell hget
  | ring =>
    rw [hkind] at hget
    dsimp only at hget
    obtain ⟨length, e₁, hlength, hframe⟩ := Interaction.run_bind_eq_ok hget
    rw [hlength] at hnext hformat
    split at hframe
    · rw [← hformat]
      exact Handle.frame_matches hnext hframe
    · cases hframe

theorem getRange_matches (hwell : e.WellFormed memoryFrames) {start stop : Bound}
    {frames : List Frame}
    (hget : (m.getRange start stop).run.run link.reply e = (.ok frames, e')) :
    ∀ frame ∈ frames, ∃ f, e.formatOf? m.handle.ctx = some f ∧ frame.Matches f := by
  obtain ⟨hnext, hformat⟩ := m.length_keeps hwell
  obtain ⟨length, e₁, hlength, hfetch⟩ := Interaction.run_bind_eq_ok hget
  rw [hlength] at hnext hformat
  rw [← hformat]
  exact fetch_matches hnext hfetch

end Memory

end Spectrometer
