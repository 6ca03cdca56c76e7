import Spectrometer.Proofs.Bench.Basic
import Spectrometer.Proofs.Emulator.Frames

/-!
What is fetched on a bench. Everything that can be done on a bench comes down to events of its
emulator, so that the emulator is well-formed after every run, and a frame that is fetched then is
one that the device shows with its format of that moment.
-/

namespace Spectrometer.Bench

open Emulator (link)

section Keeps

variable {b : Bench} {keeps : Emulator → Prop}
  (hkeeps : ∀ (e : Emulator) (event : Emulator.Event), keeps e → keeps (event.apply e))

include hkeeps

theorem keeps_welcome (x : Attempt Holder) (hb : keeps b.emulator) :
    keeps (b.welcome (x.run.run link.reply b.emulator)).emulator := by
  have hrun := Emulator.keeps_run hkeeps x.run hb
  cases hx : x.run.run link.reply b.emulator with
  | mk result e =>
    rw [hx] at hrun
    cases result with
    | ok holder => exact hrun
    | error failure => exact hrun

/-- What every event leaves true of an emulator, every move on a bench does. -/
theorem keeps_step (hb : keeps b.emulator) (m : Move) : keeps (b.step m).emulator := by
  cases m with
  | newSession | newHandle => exact hb
  | openSession serial | openHandle serial => exact keeps_welcome hkeeps _ hb
  | perform n task =>
    simp only [step]
    cases hholder : b.holders[n]? with
    | none =>
      rw [perform_of_none task hholder]
      exact hb
    | some holder =>
      rw [perform_of_some task hholder]
      exact Emulator.keeps_run hkeeps (holder.perform task) hb
  | drop n =>
    simp only [step, drop]
    cases b.holders[n]? with
    | none => exact hb
    | some holder => exact Emulator.keeps_run hkeeps holder.handle.drop hb
  | failNext o code => exact hkeeps b.emulator (.failNext o code) hb
  | resetCalls => exact hkeeps b.emulator .resetCalls hb
  | forceFrames i frames => exact hkeeps b.emulator (.forceFrames i frames) hb
  | reattach i => exact hkeeps b.emulator (.reattach i) hb

theorem keeps_moves (hb : keeps b.emulator) (moves : List Move) : keeps (b.run moves).emulator := by
  induction moves generalizing b with
  | nil => exact hb
  | cons m rest ih => exact ih (keeps_step hkeeps hb m)

end Keeps

/-- After every run of moves, injected faults included, each frame that `Memory.get` or
`Memory.getRange` returns, over the ring or over the latest frame, matches the format that the
device behind the handle's context has at that moment: one sample for each pixel of the reduced
range, with the values of the emulated ramp. -/
theorem fetched_frames_match (config : EmulatorConfig) (moves : List Move) (m : Memory) :
    let e := ((new config).run moves).emulator
    (∀ index frame e', (m.get index).run.run link.reply e = (.ok frame, e') →
      ∃ f, e.formatOf? m.handle.ctx = some f ∧ frame.Matches f) ∧
    ∀ start stop frames e', (m.getRange start stop).run.run link.reply e = (.ok frames, e') →
      ∀ frame ∈ frames, ∃ f, e.formatOf? m.handle.ctx = some f ∧ frame.Matches f := by
  intro e
  have hwell : e.WellFormed config.memoryFrames :=
    keeps_moves (fun e event (he : e.WellFormed config.memoryFrames) => he.apply event)
      (Emulator.wellFormed_new config) moves
  refine ⟨?_, ?_⟩
  · intro index frame e' hget
    exact Memory.get_matches hwell hget
  · intro start stop frames e' hget
    exact Memory.getRange_matches hwell hget

/-- A session that asks for five elements, pairs of them averaged, after a frame of all elements was
acquired, and then acquires two frames: each has three samples, for the pairs from the last to the
first. -/
theorem paired_range_frames_match :
    let act (a : Session.Action) := Move.perform 0 (.act a)
    let moves := [.openSession none, act (.use .fire), act (.setRange 100 104),
      act (.setReduction .averageOf2), act (.setScans 2), act (.use .fire)]
    let e := ((new ⟨["A"], 4, none⟩).run moves).emulator
    let m : Memory := ⟨.ring, ⟨⟨1⟩, true⟩⟩
    let frame : Frame := ⟨[105, 103, 101]⟩
    ((m.get 1).run.run link.reply e).1 = .ok frame ∧
      ((m.getRange .unbounded .unbounded).run.run link.reply e).1 = .ok [frame, frame] ∧
      (∃ f, e.formatOf? m.handle.ctx = some f ∧ f.format = ⟨100, 104, .averageOf2⟩ ∧
        frame.Matches f) ∧
      ∀ each ∈ [frame, frame], ∃ f, e.formatOf? m.handle.ctx = some f ∧ each.Matches f := by
  intro act moves e m frame
  have hget : ((m.get 1).run.run link.reply e).1 = .ok frame := by decide +kernel
  have hrange : ((m.getRange .unbounded .unbounded).run.run link.reply e).1 =
      .ok [frame, frame] := by decide +kernel
  have hformat : e.formatOf? m.handle.ctx = some ⟨⟨100, 104, .averageOf2⟩, 49⟩ := by
    decide +kernel
  have hmatch : (∀ index frame e', (m.get index).run.run link.reply e = (.ok frame, e') →
      ∃ f, e.formatOf? m.handle.ctx = some f ∧ frame.Matches f) ∧
      ∀ start stop frames e', (m.getRange start stop).run.run link.reply e = (.ok frames, e') →
        ∀ frame ∈ frames, ∃ f, e.formatOf? m.handle.ctx = some f ∧ frame.Matches f :=
    fetched_frames_match ⟨["A"], 4, none⟩ moves m
  -- What the run made of the emulator has been computed and need not be looked at again.
  clear_value e
  obtain ⟨hone, hmany⟩ := hmatch
  obtain ⟨f, hf, hmatches⟩ := hone 1 frame _ (Prod.ext hget rfl)
  obtain rfl : f = ⟨⟨100, 104, .averageOf2⟩, 49⟩ := Option.some.inj (hf.symm.trans hformat)
  exact ⟨hget, hrange, ⟨_, hf, rfl, hmatches⟩,
    hmany .unbounded .unbounded _ _ (Prod.ext hrange rfl)⟩

end Spectrometer.Bench
