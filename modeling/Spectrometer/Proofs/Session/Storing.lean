import Spectrometer.Proofs.Journal
import Spectrometer.Proofs.Session.Averaging

/-!
A session at an emulated device that stores frames. The session addresses frames by index, and its
requests are listed: clearing and triggering, `status`, `isEmpty`, and fetching the frame at index 0
are each a fixed list of requests.
-/

namespace Spectrometer

namespace Device

variable {d : Device}

theorem trigger_storing (hstoring : d.isAveraging = false) :
    ∃ raw, d.trigger = { d with
      captures := d.captures + 1
      frames := d.frames ++ Array.replicate
        (min d.acquisition.scans.toNat (d.memoryFrames.toNat - d.frames.size)) raw
      memoryFull :=
        d.memoryFull || d.memoryFrames.toNat - d.frames.size < d.acquisition.scans.toNat } := by
  unfold trigger
  exact ⟨_, if_neg (Bool.eq_false_iff.mp hstoring)⟩

/-- Cleared and triggered, the memory holds what one acquisition gives, as far as it fits. -/
theorem restarted_storing (hstoring : d.isAveraging = false) :
    ∃ frames full, d.restarted .ring =
        { d.clearMemory with captures := d.captures + 1, frames := frames, memoryFull := full } ∧
      frames.size = min d.acquisition.scans.toNat d.memoryFrames.toNat ∧
      (full = true ↔ d.memoryFrames < d.acquisition.scans) := by
  have hcleared : d.clearMemory.isAveraging = false := hstoring
  obtain ⟨raw, htrigger⟩ := trigger_storing hcleared
  refine ⟨_, _, htrigger, ?_, ?_⟩
  · simp [clearMemory]
  · simp [clearMemory, UInt16.lt_iff_toNat_lt]

/-- A word counts the frames that are stored, as far as it goes. -/
theorem toNat_frames_status (hstoring : d.isAveraging = false) (hcounted : d.forcedFrames = none)
    (hsize : d.frames.size < UInt16.size) : d.status.frames.toNat = d.frames.size := by
  rw [status, hcounted, hstoring]
  exact UInt16.toNat_ofNat_of_lt' hsize

/-- Stored frames are fetched by their places; no place has the index of the latest frame. -/
theorem getFrame_stored (hstoring : d.isAveraging = false) (hsize : d.frames.size < UInt16.size)
    {place : Nat} (hplace : place < d.frames.size) :
    d.getFrame (UInt16.ofNat place) = .ok (d.frames[place], d) := by
  have hindex : (UInt16.ofNat place).toNat = place :=
    UInt16.toNat_ofNat_of_lt' (Nat.lt_trans hplace hsize)
  have hother : UInt16.ofNat place ≠ Frame.latestIndex := by
    have hlast : Frame.latestIndex.toNat = 65535 := rfl
    have hword : UInt16.size = 65536 := rfl
    rw [ne_eq, ← UInt16.toNat_inj, hindex, hlast]
    omega
  have hfound : d.frames[place]? = some d.frames[place] := Array.getElem?_eq_getElem hplace
  simp [getFrame, hstoring, hother, hindex, hfound]

end Device

namespace Session

open Emulator (link)

/-- The session triggers by software, addresses frames by place, and is served by a device that
stores frames and reports their number. -/
structure Stores (s : Session) (j : Journal Emulator) (d : Device) : Prop where
  serves : ∃ i, j.world.Serves s.handle i d
  storing : d.isAveraging = false
  counted : d.forcedFrames = none
  software : s.trigger = .software
  memory : s.memory = .ring

variable {s : Session} {j : Journal Emulator} {d : Device}

theorem Stores.request (h : s.Stores j d) (d' : Device) (r : Request) {value : r.Value}
    (hperform : d.perform j.world.readLimit r = .ok (value, d'))
    (hattached : d'.detached = d.detached) (hstoring : d'.isAveraging = d.isAveraging)
    (hcounted : d'.forcedFrames = d.forcedFrames) :
    ∃ j', (s.handle.request r).run.run (Journal.link link).reply j = (.ok value, j') ∧
      s.Stores j' d' ∧ j'.requests = j.requests ++ [r] := by
  obtain ⟨i, hserves⟩ := h.serves
  obtain ⟨e', hlink, hserves', -⟩ := hserves.operate hperform (hattached.trans hserves.attached)
  refine ⟨_, Handle.run_request_ok hserves.connected (Journal.link_of_eq hlink), ?_, ?_⟩
  · exact ⟨⟨i, hserves'⟩, hstoring.trans h.storing, hcounted.trans h.counted, h.software, h.memory⟩
  · exact Journal.requests_cons ..

theorem Stores.restart (h : s.Stores j d) :
    ∃ j', (Reader.restart s).run.run (Journal.link link).reply j = (.ok (), j') ∧
      s.Stores j' (d.restarted .ring) ∧ j'.requests = j.requests ++ [.clearMemory, .trigger] := by
  obtain ⟨stored, full, hrestarted, -, -⟩ := Device.restarted_storing h.storing
  obtain ⟨j₁, hclear, h₁, hasked⟩ := h.request d.clearMemory .clearMemory rfl rfl rfl rfl
  obtain ⟨j', htrigger, h', hasked'⟩ := h₁.request (d.restarted .ring) .trigger rfl
    (by rw [hrestarted]) (by rw [hrestarted]; rfl) (by rw [hrestarted])
  have hrestart : Reader.restart s =
      (s.handle.request .clearMemory >>= fun _ => s.handle.request .trigger) := by
    unfold Reader.restart frames Memory.clear fire
    rw [h.memory, h.software]
    rfl
  refine ⟨j', ?_, h', by rw [hasked', hasked, List.append_assoc]; rfl⟩
  rw [hrestart]
  exact (Interaction.run_bind_ok hclear _).trans htrigger

theorem Stores.status (h : s.Stores j d) :
    ∃ j', s.status.run.run (Journal.link link).reply j = (.ok ⟨false, d.memoryFull⟩, j') ∧
      s.Stores j' d ∧ j'.requests = j.requests ++ [.getStatus] := by
  obtain ⟨j', hrun, h', hasked⟩ := h.request d .getStatus rfl rfl rfl rfl
  exact ⟨j', Interaction.run_bind_ok hrun _, h', hasked⟩

/-- The number of frames is the one that there are, unless a word cannot count them. -/
theorem Stores.length (h : s.Stores j d) (hsize : d.frames.size < UInt16.size) :
    ∃ j', s.frames.length.run.run (Journal.link link).reply j = (.ok d.frames.size, j') ∧
      s.Stores j' d ∧ j'.requests = j.requests ++ [.getStatus] := by
  obtain ⟨j', hrun, h', hasked⟩ := h.request d .getStatus rfl rfl rfl rfl
  have hcount := Device.toNat_frames_status h.storing h.counted hsize
  have hframes : s.handle.framesInMemory.run.run (Journal.link link).reply j =
      (.ok d.status.frames, j') := Interaction.run_bind_ok hrun _
  refine ⟨j', ?_, h', hasked⟩
  unfold Memory.length frames
  rw [h.memory]
  refine (Interaction.run_bind_ok hframes _).trans ?_
  rw [hcount]
  rfl

theorem Stores.isEmpty (h : s.Stores j d) (hsize : d.frames.size < UInt16.size) :
    ∃ j', s.frames.isEmpty.run.run (Journal.link link).reply j = (.ok (d.frames.size == 0), j') ∧
      s.Stores j' d ∧ j'.requests = j.requests ++ [.getStatus] := by
  obtain ⟨j', hrun, h', hasked⟩ := h.length hsize
  exact ⟨j', Interaction.run_bind_ok hrun _, h', hasked⟩

theorem Stores.rawFrame (h : s.Stores j d) {index : UInt16} {raw : List UInt16}
    (hframe : d.getFrame index = .ok (raw, d)) :
    ∃ j', (s.handle.rawFrame index).run.run (Journal.link link).reply j =
        (.ok (filled d.format.size.toNat 0 raw), j') ∧
      s.Stores j' d ∧ j'.requests = j.requests ++ [.getFrame index d.format.size.toNat] := by
  obtain ⟨i, hserves⟩ := h.serves
  -- Asking for the frame size is no request.
  let j₁ : Journal Emulator :=
    ⟨j.world, ⟨.pixelsInFrame s.handle.ctx, some d.format.size⟩ :: j.exchanges⟩
  have h₁ : s.Stores j₁ d := { h with serves := ⟨i, hserves⟩ }
  have hsize : s.handle.frameSize.run (Journal.link link).reply j = (d.format.size, j₁) :=
    Handle.run_frameSize (Journal.link_of_eq hserves.pixelsInFrame)
  obtain ⟨j', hrun, h', hasked⟩ :=
    h₁.request d (.getFrame index d.format.size.toNat) hframe rfl rfl rfl
  have hsame : j₁.requests = j.requests := by simp [j₁, Call.request?]
  refine ⟨j', ?_, h', by rw [hasked, hsame]⟩
  exact (Handle.run_rawFrame_ok_iff hsize).mpr ⟨raw, hrun, rfl⟩

/-- Fetching the frame at the first place looks at the number of frames once more. -/
theorem Stores.get (h : s.Stores j d) (hsize : d.frames.size < UInt16.size)
    (hsome : 0 < d.frames.size) :
    ∃ frame j', (s.frames.get 0).run.run (Journal.link link).reply j = (.ok frame, j') ∧
      s.Stores j' d ∧
      j'.requests = j.requests ++ [.getStatus, .getFrame 0 d.format.size.toNat] := by
  have hframe : d.getFrame 0 = .ok (d.frames[0], d) :=
    Device.getFrame_stored h.storing hsize hsome
  obtain ⟨j₁, hlength, h₁, hasked⟩ := h.length hsize
  obtain ⟨j', hraw, h', hasked'⟩ := h₁.rawFrame hframe
  have hboth : j'.requests = j.requests ++ [.getStatus, .getFrame 0 d.format.size.toNat] := by
    rw [hasked', hasked, List.append_assoc]
    rfl
  refine ⟨.ofRaw (filled d.format.size.toNat 0 d.frames[0]), j', ?_, h', hboth⟩
  have hby : s.frames.kind = .ring := h.memory
  unfold Memory.get
  rw [hby]
  refine (Interaction.run_bind_ok hlength _).trans ?_
  rw [if_pos hsome]
  exact Interaction.run_bind_ok hraw _

end Session

end Spectrometer
