import Spectrometer.Proofs.Handle

/-!
From the buffer to the frame. A handle asks the driver how many samples a raw frame has, has it fill
a buffer of that size and keeps what lies between the service samples, turned round. Nothing between
them is lost, and how long a frame is was settled before the driver filled the buffer.
-/

namespace Spectrometer

namespace Frame

variable {raw header window trailer : List UInt16}

/-- What lies between a header and a trailer is the frame, turned round. -/
theorem samples_ofRaw_append (hheader : header.length = headerLength)
    (htrailer : trailer.length = trailerLength) :
    (ofRaw (header ++ window ++ trailer)).samples = window.reverse := by
  have hturned : trailer.reverse.length = trailerLength := by rw [List.length_reverse, htrailer]
  rw [ofRaw, List.append_assoc, List.drop_left' hheader, List.reverse_append,
    List.drop_left' hturned]

@[simp] theorem length_samples_ofRaw (raw : List UInt16) :
    (ofRaw raw).samples.length = raw.length - (headerLength + trailerLength) := by
  rw [ofRaw, List.length_drop, List.length_reverse, List.length_drop, Nat.sub_sub]

theorem samples_ofRaw_eq_nil (hshort : raw.length ≤ headerLength + trailerLength) :
    (ofRaw raw).samples = [] := by
  rw [← List.length_eq_zero_iff, length_samples_ofRaw, Nat.sub_eq_zero_of_le hshort]

/-- The first sample of a frame is the last one in front of the trailer. -/
theorem getElem?_samples_ofRaw {j : Nat} (hj : j < raw.length - (headerLength + trailerLength)) :
    (ofRaw raw).samples[j]? = raw[raw.length - (trailerLength + 1) - j]? := by
  have hinside : trailerLength + j < (raw.drop headerLength).length := by
    rw [List.length_drop]
    omega
  have hplace : headerLength + (raw.length - headerLength - 1 - (trailerLength + j)) =
      raw.length - (trailerLength + 1) - j := by omega
  rw [ofRaw, List.getElem?_drop, List.getElem?_reverse hinside, List.length_drop,
    List.getElem?_drop, hplace]

/-- A raw frame with room for header and trailer is made up of them and of what lies between. -/
theorem exists_window (hroom : headerLength + trailerLength ≤ raw.length) :
    ∃ window, raw.take headerLength ++ window ++ raw.drop (raw.length - trailerLength) = raw := by
  have hstop : raw.length - trailerLength =
      headerLength + (raw.length - (headerLength + trailerLength)) := by omega
  refine ⟨(raw.drop headerLength).take (raw.length - (headerLength + trailerLength)), ?_⟩
  rw [hstop, ← List.drop_drop, List.append_assoc, List.take_append_drop, List.take_append_drop]

/-- So the frame, turned back, goes between header and trailer again. -/
theorem header_append_samples_append_trailer (hroom : headerLength + trailerLength ≤ raw.length) :
    raw.take headerLength ++ (ofRaw raw).samples.reverse ++
      raw.drop (raw.length - trailerLength) = raw := by
  obtain ⟨window, hraw⟩ := exists_window hroom
  have hheader : (raw.take headerLength).length = headerLength :=
    List.length_take_of_le (by omega)
  have htrailer : (raw.drop (raw.length - trailerLength)).length = trailerLength := by
    rw [List.length_drop]
    omega
  have hsamples : (ofRaw (raw.take headerLength ++ window ++
      raw.drop (raw.length - trailerLength))).samples = window.reverse :=
    samples_ofRaw_append hheader htrailer
  rw [hraw] at hsamples
  rw [hsamples, List.reverse_reverse, hraw]

end Frame

namespace Handle

variable {W : Type} {link : Link W} {h : Handle} {index : UInt16} {w w₁ w' : W}

/-- The driver's number, or the default one; the handle need not be connected. -/
theorem run_frameSize {pixels : Option UInt16}
    (hpixels : link (.pixelsInFrame h.ctx) w = (pixels, w₁)) :
    h.frameSize.run link.reply w = (pixels.getD Frame.defaultSize, w₁) := by
  unfold frameSize
  rw [Interaction.run_bind, Dialogue.run_call, hpixels]
  rfl

/-- Once the frame size is known a raw frame takes one request more. -/
theorem run_rawFrame (hconnected : h.connected = true) {size : UInt16}
    (hsize : h.frameSize.run link.reply w = (size, w₁)) (index : UInt16) :
    (h.rawFrame index).run.run link.reply w =
      ((do return filled size.toNat 0 (← h.request (.getFrame index size.toNat)) :
        Attempt (List UInt16))).run.run link.reply w₁ := by
  unfold rawFrame
  rw [if_pos hconnected]
  refine (Interaction.run_lift_bind link.reply h.frameSize _ w).trans ?_
  rw [hsize]

/-- A raw frame is a buffer of the frame size that a request has filled. -/
theorem run_rawFrame_ok_iff {size : UInt16} {raw : List UInt16}
    (hsize : h.frameSize.run link.reply w = (size, w₁)) :
    (h.rawFrame index).run.run link.reply w = (.ok raw, w') ↔
      ∃ samples, (h.request (.getFrame index size.toNat)).run.run link.reply w₁ =
        (.ok samples, w') ∧ filled size.toNat 0 samples = raw := by
  constructor
  · intro hraw
    by_cases hconnected : h.connected = true
    · rw [run_rawFrame hconnected hsize] at hraw
      obtain ⟨samples, w₂, hrequest, hdone⟩ := Interaction.run_bind_eq_ok hraw
      cases hdone
      exact ⟨samples, hrequest, rfl⟩
    · unfold rawFrame at hraw
      rw [if_neg hconnected] at hraw
      cases hraw
  · rintro ⟨samples, hrequest, rfl⟩
    rw [run_rawFrame (run_request_ok_iff.mp hrequest).1 hsize]
    exact Interaction.run_bind_ok hrequest _

/-- A frame is had just by a connected handle whose driver fills the buffer. -/
theorem run_frame_ok_iff {pixels : Option UInt16} {frame : Frame}
    (hpixels : link (.pixelsInFrame h.ctx) w = (pixels, w₁)) :
    let size := (pixels.getD Frame.defaultSize).toNat
    (h.frame index).run.run link.reply w = (.ok frame, w') ↔ h.connected = true ∧
      ∃ samples, link (.operate h.ctx (.getFrame index size)) w₁ = (.ok samples, w') ∧
        .ofRaw (filled size 0 samples) = frame := by
  have hsize := run_frameSize hpixels
  constructor
  · intro hframe
    obtain ⟨raw, w₂, hraw, hdone⟩ := Interaction.run_bind_eq_ok hframe
    obtain ⟨samples, hrequest, rfl⟩ := (run_rawFrame_ok_iff hsize).mp hraw
    cases hdone
    obtain ⟨hconnected, hlink⟩ := run_request_ok_iff.mp hrequest
    exact ⟨hconnected, samples, hlink, rfl⟩
  · rintro ⟨hconnected, samples, hlink, rfl⟩
    have hraw := (run_rawFrame_ok_iff hsize).mpr ⟨samples, run_request_ok hconnected hlink, rfl⟩
    exact Interaction.run_bind_ok hraw _

/-- A raw frame of at least 46 samples is a header of 32, the samples of the frame in reverse order,
and a trailer of 14; a shorter one gives the empty frame. Over every driver, `Handle.frame` succeeds
if and only if the handle is connected and `getFrame` succeeds for a buffer of `pixelsInFrame`
samples, or of 3694 if that call gives no size. The frame has 46 samples fewer than the buffer, or
none. -/
theorem frames_are_windows (raw : List UInt16) (link : Link W) (w : W) (h : Handle)
    (index : UInt16) :
    (46 ≤ raw.length →
      raw.take 32 ++ (Frame.ofRaw raw).samples.reverse ++ raw.drop (raw.length - 14) = raw ∧
      (Frame.ofRaw raw).samples.length = raw.length - 46 ∧
      ∀ j < raw.length - 46, (Frame.ofRaw raw).samples[j]? = raw[raw.length - 15 - j]?) ∧
    (raw.length < 46 → (Frame.ofRaw raw).samples = []) ∧
    ∀ pixels w₁, link (.pixelsInFrame h.ctx) w = (pixels, w₁) → ∀ frame w',
      ((h.frame index).run.run link.reply w = (.ok frame, w') ↔ h.connected = true ∧
        ∃ samples, link (.operate h.ctx (.getFrame index (pixels.getD 3694).toNat)) w₁ =
          (.ok samples, w') ∧ .ofRaw (filled (pixels.getD 3694).toNat 0 samples) = frame) ∧
      ((h.frame index).run.run link.reply w = (.ok frame, w') →
        frame.samples.length = pixels.elim 3648 fun p => p.toNat - 46) := by
  refine ⟨?_, ?_, ?_⟩
  · intro hroom
    exact ⟨Frame.header_append_samples_append_trailer hroom, Frame.length_samples_ofRaw raw,
      fun j hj => Frame.getElem?_samples_ofRaw hj⟩
  · intro hshort
    exact Frame.samples_ofRaw_eq_nil (Nat.le_of_lt hshort)
  · intro pixels w₁ hpixels frame w'
    refine ⟨run_frame_ok_iff hpixels, fun hframe => ?_⟩
    obtain ⟨-, samples, -, rfl⟩ := (run_frame_ok_iff hpixels).mp hframe
    rw [Frame.length_samples_ofRaw, length_filled]
    cases pixels with
    | none => rfl
    | some p => rfl

/-- A driver that reads no frame size off any context, and leaves every buffer as it is. -/
def unsizedDriver : Link Unit
  | .devicesCount, w => (1, w)
  | .devicesInfo, w => ([""], w)
  | .connectBySerial _ _, w | .connectByIndex _ _, w => ((⟨1⟩, .ok ()), w)
  | .disconnect _, w => ((.null, .ok ()), w)
  | .pixelsInFrame _, w => (none, w)
  | .operate _ (.getFrame _ _), w => (.ok [], w)
  | .operate _ _, w => (.error 505, w)

/-- Of 47 numbered samples the frame keeps one, and a frame of unknown size has 3648. -/
theorem unsized_frames_are_windows :
    let raw := (List.range 47).map UInt16.ofNat
    let h : Handle := ⟨⟨1⟩, true⟩
    (46 ≤ raw.length ∧ Frame.ofRaw raw = ⟨[32]⟩ ∧
      raw.take 32 ++ (Frame.ofRaw raw).samples.reverse ++ raw.drop 33 = raw) ∧
    unsizedDriver (.pixelsInFrame h.ctx) () = (none, ()) ∧
    ∃ frame, (h.frame 0).run.run unsizedDriver.reply () = (.ok frame, ()) ∧
      frame.samples.length = 3648 := by
  intro raw h
  obtain ⟨hwindow, -, hframes⟩ := frames_are_windows raw unsizedDriver () h 0
  obtain ⟨hframe, hlength⟩ := hframes none () rfl (.ofRaw (filled 3694 0 [])) ()
  have hroom : 46 ≤ raw.length := by decide
  have hrun : (h.frame 0).run.run unsizedDriver.reply () = _ := hframe.mpr ⟨rfl, [], rfl, rfl⟩
  exact ⟨⟨hroom, by decide, (hwindow hroom).1⟩, rfl, _, hrun, hlength hrun⟩

end Handle

end Spectrometer
