import Mathlib.Logic.Function.Iterate
import Spectrometer.Proofs.Interaction
import Spectrometer.Reading.Group

/-!
The course of a reading over a link, step by step. What a reading comes to with some fuel is what so
many steps lead to; a reading that is over takes no further steps. So a result that is reached stays
the result, and a reading that keeps coming back to places where it is not over never ends.
-/

namespace Spectrometer

/-- A reading on its way: the workers, the number of the next step, who did the last one, and the
state of the driver. -/
structure Course (W : Type) where
  group : Group
  tick : Nat
  last : Nat
  world : W

namespace Course

variable {W : Type}

/-- The course one step further; it stays where it is if no worker can do anything. -/
def next (plan : ReadingPlan) (clock : Nat → Instant) (link : Link W) (c : Course W) : Course W :=
  match c.group.choose? c.last with
  | none => c
  | some i =>
    let (group, world) := (c.group.step plan i (clock c.tick)).run link.reply c.world
    ⟨group, c.tick + 1, i, world⟩

/-- A reading that has not begun. -/
def start (plan : ReadingPlan) (devices : Nat) (clock : Nat → Instant) (w : W) : Course W :=
  ⟨.new plan devices (clock 0), 1, devices, w⟩

/-- What the reading tells when it is left alone here. -/
def outcome (c : Course W) :
    Option (Except ReadingError SimultaneousReport) × List (Nat × FrameEvent) :=
  (c.group.results?.map Group.conclude, c.group.events.reverse)

variable {plan : ReadingPlan} {clock : Nat → Instant} {link : Link W}

theorem next_of_none {c : Course W} (hchoose : c.group.choose? c.last = none) :
    c.next plan clock link = c := by
  rw [next, hchoose]

theorem run_eq_iterate (fuel : Nat) (c : Course W) :
    (c.group.run plan clock fuel c.tick c.last).run link.reply c.world =
      (((next plan clock link)^[fuel] c).group, ((next plan clock link)^[fuel] c).world) := by
  induction fuel generalizing c with
  | zero => rfl
  | succ fuel ih =>
    rw [Function.iterate_succ_apply]
    unfold Group.run
    cases hchoose : c.group.choose? c.last with
    | none =>
      rw [next_of_none hchoose, Function.iterate_fixed (next_of_none hchoose)]
      rfl
    | some i =>
      have hnext : c.next plan clock link =
          ⟨((c.group.step plan i (clock c.tick)).run link.reply c.world).1, c.tick + 1, i,
            ((c.group.step plan i (clock c.tick)).run link.reply c.world).2⟩ := by
        rw [next, hchoose]
      simp only [Interaction.run_bind]
      rw [← ih, hnext]

/-- With some fuel a reading tells what it tells after so many steps. -/
theorem readFrames_eq (devices fuel : Nat) (w : W) :
    ((readFrames plan devices clock fuel).run link.reply w).1 =
      ((next plan clock link)^[fuel] (start plan devices clock w)).outcome := by
  have hrun : ((Group.new plan devices (clock 0)).run plan clock fuel 1 devices).run link.reply w =
      _ := run_eq_iterate fuel (start plan devices clock w)
  unfold readFrames
  rw [Interaction.run_bind, hrun]
  rfl

/-- A reading leaves the driver as its course does. -/
theorem readFrames_world (devices fuel : Nat) (w : W) :
    ((readFrames plan devices clock fuel).run link.reply w).2 =
      ((next plan clock link)^[fuel] (start plan devices clock w)).world := by
  have hrun : ((Group.new plan devices (clock 0)).run plan clock fuel 1 devices).run link.reply w =
      _ := run_eq_iterate fuel (start plan devices clock w)
  unfold readFrames
  rw [Interaction.run_bind, hrun]
  rfl

/-- The workers of a reading that is over are all gone. -/
theorem isSome_result?_of_results? {g : Group} (hover : g.results?.isSome = true) {w : Worker}
    (hw : w ∈ g.workers) : w.result?.isSome = true := by
  unfold Group.results? at hover
  generalize g.workers = workers at hover hw
  induction workers with
  | nil => cases hw
  | cons v rest ih =>
    rw [List.mapM_cons] at hover
    cases hv : v.result? with
    | none =>
      rw [hv] at hover
      cases hover
    | some result =>
      cases hrest : rest.mapM (·.result?) with
      | none =>
        rw [hv, hrest] at hover
        cases hover
      | some results =>
        obtain rfl | hw := List.mem_cons.mp hw
        · rw [hv]
          rfl
        · exact ih (by rw [hrest]; rfl) hw

theorem idle_of_result? {w : Worker} (hgone : w.result?.isSome = true) :
    w.isOpening = false ∧ ∀ b, w.canStep b = false := by
  unfold Worker.result? at hgone
  unfold Worker.isOpening Worker.canStep
  cases hdoing : w.doing with
  | busy stage rest =>
    rw [hdoing] at hgone
    cases hgone
  | waiting stage resume =>
    rw [hdoing] at hgone
    cases hgone
  | gone result => exact ⟨rfl, fun _ => rfl⟩

/-- When all workers are gone nobody can do anything. -/
theorem next_of_over {c : Course W} (hover : c.group.results?.isSome = true) :
    c.next plan clock link = c := by
  have hidle (w : Worker) (hw : w ∈ c.group.workers) :=
    idle_of_result? (isSome_result?_of_results? hover hw)
  have hopening : c.group.workers.findIdx? (·.isOpening) = none :=
    List.findIdx?_eq_none_iff.mpr fun w hw => (hidle w hw).1
  have hready : c.group.workers.findIdx? (·.canStep c.group.barrier) = none :=
    List.findIdx?_eq_none_iff.mpr fun w hw => (hidle w hw).2 _
  have hlater : (c.group.workers.drop (c.last + 1)).findIdx? (·.canStep c.group.barrier) = none :=
    List.findIdx?_eq_none_iff.mpr fun w hw => (hidle w (List.mem_of_mem_drop hw)).2 _
  apply next_of_none
  unfold Group.choose?
  simp only [hopening, hready, hlater, Option.map_none, Option.or_none]

theorem iterate_of_over {c : Course W} {n : Nat}
    (hover : ((next plan clock link)^[n] c).group.results?.isSome = true) {fuel : Nat}
    (hfuel : n ≤ fuel) : (next plan clock link)^[fuel] c = (next plan clock link)^[n] c := by
  obtain ⟨more, rfl⟩ := Nat.exists_eq_add_of_le' hfuel
  rw [Function.iterate_add_apply, Function.iterate_fixed (next_of_over hover)]

/-- A reading that keeps coming back to places where it is not over is never over. -/
theorem never_over {P : Course W → Prop}
    (hprogress : ∀ c, P c → ∃ n, 0 < n ∧ P ((next plan clock link)^[n] c))
    (hopen : ∀ c, P c → c.group.results? = none) {c : Course W} (hc : P c) (fuel : Nat) :
    ((next plan clock link)^[fuel] c).group.results? = none := by
  -- However much fuel there is, the reading comes to such a place after it was used up.
  have hlater (fuel : Nat) : ∃ n, fuel ≤ n ∧ P ((next plan clock link)^[n] c) := by
    induction fuel with
    | zero => exact ⟨0, Nat.le_refl 0, hc⟩
    | succ fuel ih =>
      obtain ⟨n, hn, hP⟩ := ih
      obtain ⟨m, hm, hP'⟩ := hprogress _ hP
      rw [← Function.iterate_add_apply] at hP'
      exact ⟨m + n, by omega, hP'⟩
  obtain ⟨n, hn, hP⟩ := hlater fuel
  cases hover : ((next plan clock link)^[fuel] c).group.results? with
  | none => rfl
  | some results =>
    rw [iterate_of_over (by rw [hover]; rfl) hn] at hP
    rw [hopen _ hP] at hover
    cases hover

end Course

end Spectrometer
