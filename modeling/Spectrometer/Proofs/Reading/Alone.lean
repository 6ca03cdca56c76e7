import Spectrometer.Proofs.Barrier
import Spectrometer.Proofs.Reading.Course

/-!
A reading with one worker. No other worker is missing at the barrier, so every deed of the worker is
answered at once and the course of the reading follows its activity: what `Lone.answer` makes of an
activity is what the course leads to.
-/

namespace Spectrometer

/-- The state around a lone worker: the driver, the barrier, the events, the worker's passage and
exit, and the number of the next step with the worker of the last one. -/
structure Lone (W : Type) where
  world : W
  barrier : Barrier
  events : List (Nat × FrameEvent)
  passage : Option Passage
  exit : Option Bool
  tick : Nat
  last : Nat

/-- Some steps, at least one, lead from one place in the course of a reading to another. -/
def Course.Leads {W : Type} (plan : ReadingPlan) (clock : Nat → Instant) (link : Link W)
    (c c' : Course W) : Prop :=
  ∃ n, 0 < n ∧ (next plan clock link)^[n] c = c'

namespace Course.Leads

variable {W : Type} {plan : ReadingPlan} {clock : Nat → Instant} {link : Link W}
  {c c' c'' : Course W}

theorem trans (h : c.Leads plan clock link c') (h' : c'.Leads plan clock link c'') :
    c.Leads plan clock link c'' := by
  obtain ⟨n, hn, rfl⟩ := h
  obtain ⟨m, hm, rfl⟩ := h'
  exact ⟨m + n, by omega, Function.iterate_add_apply _ m n c⟩

/-- Where the course leads to a place from which it never ends, it never ends. -/
theorem never_over (h : c.Leads plan clock link c')
    (hnever : ∀ fuel, ((next plan clock link)^[fuel] c').group.results? = none) (fuel : Nat) :
    ((next plan clock link)^[fuel] c).group.results? = none := by
  obtain ⟨n, -, rfl⟩ := h
  have hlater := hnever fuel
  rw [← Function.iterate_add_apply] at hlater
  cases hover : ((next plan clock link)^[fuel] c).group.results? with
  | none => rfl
  | some results =>
    rw [iterate_of_over (by rw [hover]; rfl) (Nat.le_add_right fuel n), hover] at hlater
    cases hlater

end Course.Leads

namespace Lone

variable {W : Type}

/-- The course of the reading while the lone worker is doing something. -/
def course (x : Lone W) (doing : Doing) : Course W :=
  ⟨⟨x.barrier, [⟨doing, x.passage, x.exit⟩], x.events⟩, x.tick, x.last, x.world⟩

/-- One step later. -/
def later (x : Lone W) : Lone W := { x with tick := x.tick + 1, last := 0 }

/-- How the deeds of a lone worker are answered. -/
def answer (clock : Nat → Instant) (link : Link W) : (d : Deed) → Lone W → d.Answer × Lone W
  | .say u, x => ((link.reply u x.world).1, { x.later with world := (link.reply u x.world).2 })
  | .observe e, x => ((), { x.later with events := (0, e) :: x.events })
  | .readClock, x => (clock x.tick, x.later)
  | .wait, x =>
    let (barrier, leader) := x.barrier.arrive (clock x.tick)
    let release := barrier.releasedAt.getD (clock x.tick)
    (release, { x.later with barrier, passage := some ⟨leader, release⟩ })
  | .leave, x =>
    let (barrier, released) := x.barrier.arrive (clock x.tick)
    (released, { x.later with barrier, exit := some released })

variable {plan : ReadingPlan} {clock : Nat → Instant} {link : Link W} {x x' : Lone W}
  {stage stage' : Stage}

theorem choose?_of_canStep {w : Worker} {b : Barrier} (hcan : w.canStep b = true)
    (events : List (Nat × FrameEvent)) (last : Nat) :
    Group.choose? ⟨b, [w], events⟩ last = some 0 := by
  unfold Group.choose?
  cases hopening : w.isOpening with
  | true => simp [hopening]
  | false => simp [hopening, hcan]

theorem next_busy (x : Lone W) (stage : Stage) (rest : Activity (Stage ⊕ WorkerResult)) :
    (x.course (.busy stage rest)).next plan clock link =
      let g : Group := ⟨x.barrier, [⟨.busy stage rest, x.passage, x.exit⟩], x.events⟩
      let out := (g.step plan 0 (clock x.tick)).run link.reply x.world
      ⟨out.1, x.tick + 1, 0, out.2⟩ := by
  have hchoose := choose?_of_canStep (w := ⟨.busy stage rest, x.passage, x.exit⟩) (b := x.barrier)
    rfl x.events x.last
  unfold Course.next course
  simp only [hchoose]

/-- A deed of a lone worker is one step of the course. -/
theorem next_ask (hadmits : x.barrier.AdmitsOne) (stage : Stage) (d : Deed)
    (rest : d.Answer → Activity (Stage ⊕ WorkerResult)) :
    (x.course (.busy stage (.ask d rest))).next plan clock link =
      (answer clock link d x).2.course (.busy stage (rest (answer clock link d x).1)) := by
  rw [next_busy]
  cases d with
  | wait =>
    have hreleased := (hadmits.arrive (clock x.tick)).1
    cases harrive : x.barrier.arrive (clock x.tick) with
    | mk barrier leader =>
      rw [harrive] at hreleased
      obtain ⟨remaining, releasedAt, broadcasts⟩ := barrier
      obtain ⟨t, rfl⟩ := Option.isSome_iff_exists.mp hreleased
      simp only [Group.step, List.getElem?_cons_zero, harrive, answer]
      rfl
  | _ => rfl

theorem admitsOne_answer (hadmits : x.barrier.AdmitsOne) (d : Deed) :
    (answer clock link d x).2.barrier.AdmitsOne := by
  cases d with
  | say | observe | readClock => exact hadmits
  | wait | leave => exact (hadmits.arrive (clock x.tick)).2

theorem admitsOne_run {α : Type} (hadmits : x.barrier.AdmitsOne) (activity : Activity α) :
    (activity.run (answer clock link) x).2.barrier.AdmitsOne := by
  induction activity generalizing x with
  | done a => exact hadmits
  | ask d rest ih => exact ih _ (admitsOne_answer hadmits d)

/-- The course follows what the lone worker is at. -/
theorem iterate_busy (plan : ReadingPlan) (hadmits : x.barrier.AdmitsOne) (stage : Stage)
    (rest : Activity (Stage ⊕ WorkerResult)) :
    ∃ n, (Course.next plan clock link)^[n] (x.course (.busy stage rest)) =
      (rest.run (answer clock link) x).2.course
        (.busy stage (.done (rest.run (answer clock link) x).1)) := by
  induction rest generalizing x with
  | done a => exact ⟨0, rfl⟩
  | ask d rest ih =>
    obtain ⟨n, hn⟩ := ih _ (admitsOne_answer hadmits d)
    refine ⟨n + 1, ?_⟩
    rw [Function.iterate_succ_apply, next_ask hadmits, hn]
    rfl

/-- The course at the beginning of a stage. -/
def entering (plan : ReadingPlan) (x : Lone W) (stage : Stage) : Course W :=
  x.course (.busy stage (stage.act plan 0))

/-- The course leads from one stage to the next. -/
theorem leads_inl (hadmits : x.barrier.AdmitsOne)
    (hact : (stage.act plan 0).run (answer clock link) x = (.inl stage', x')) :
    (x.entering plan stage).Leads plan clock link (x'.later.entering plan stage') := by
  obtain ⟨n, hn⟩ := iterate_busy plan hadmits stage (stage.act plan 0)
  refine ⟨n + 1, Nat.succ_pos n, ?_⟩
  rw [hact] at hn
  rw [Function.iterate_succ_apply', entering, hn, next_busy]
  rfl

/-- After its last stage the worker is gone. -/
theorem leads_inr (hadmits : x.barrier.AdmitsOne) {result : WorkerResult}
    (hact : (stage.act plan 0).run (answer clock link) x = (.inr result, x')) :
    (x.entering plan stage).Leads plan clock link (x'.later.course (.gone result)) := by
  obtain ⟨n, hn⟩ := iterate_busy plan hadmits stage (stage.act plan 0)
  refine ⟨n + 1, Nat.succ_pos n, ?_⟩
  rw [hact] at hn
  rw [Function.iterate_succ_apply', entering, hn, next_busy]
  rfl

/-- Talking with the driver changes nothing else around the worker. -/
theorem run_say {α : Type} (clock : Nat → Instant) (link : Link W) (d : Dialogue α) (x : Lone W) :
    ∃ y : Lone W, (Activity.say d).run (answer clock link) x =
        ((d.run link.reply x.world).1, y) ∧
      y.world = (d.run link.reply x.world).2 ∧ y.barrier = x.barrier ∧ y.events = x.events := by
  induction d generalizing x with
  | done a => exact ⟨x, rfl, rfl, rfl, rfl⟩
  | ask u next ih =>
    exact ih (link.reply u x.world).1 { x.later with world := (link.reply u x.world).2 }

/-- What surrounds a worker once it has given its session up and left the barrier. -/
def departed (clock : Nat → Instant) (link : Link W) (s : Session) (x : Lone W) : Lone W :=
  (answer clock link .leave ((Activity.say s.drop).run (answer clock link) x).2.later).2.later

theorem departed_world (clock : Nat → Instant) (link : Link W) (s : Session) (x : Lone W) :
    (x.departed clock link s).world = (s.drop.run link.reply x.world).2 := by
  obtain ⟨y, heq, hworld, -, -⟩ := run_say clock link s.drop x
  rw [departed, heq]
  exact hworld

theorem departed_events (clock : Nat → Instant) (link : Link W) (s : Session) (x : Lone W) :
    (x.departed clock link s).events = x.events := by
  obtain ⟨y, heq, -, -, hevents⟩ := run_say clock link s.drop x
  rw [departed, heq]
  exact hevents

/-- A worker that closes its session comes to its result. -/
theorem leads_gone (plan : ReadingPlan) (clock : Nat → Instant) (hadmits : x.barrier.AdmitsOne)
    (s : Session) (result : WorkerResult) :
    (x.entering plan (.closing s result)).Leads plan clock link
      ((x.departed clock link s).course (.gone result)) := by
  have hclosing : ((Stage.closing s result).act plan 0).run (answer clock link) x =
      (.inl (.leaving result), ((Activity.say s.drop).run (answer clock link) x).2) := by
    unfold Stage.act
    rw [Interaction.run_bind]
    rfl
  have hadmits' : ((Activity.say s.drop).run (answer clock link) x).2.later.barrier.AdmitsOne :=
    admitsOne_run hadmits (Activity.say s.drop)
  exact (leads_inl hadmits hclosing).trans (leads_inr hadmits' rfl)

/-- What surrounds the worker of a reading that has not begun. -/
def fresh (plan : ReadingPlan) (clock : Nat → Instant) (w : W) : Lone W :=
  ⟨w, .new (if plan.required > 0 then 1 else 0) (clock 0), [], none, none, 1, 1⟩

theorem admitsOne_fresh (plan : ReadingPlan) (clock : Nat → Instant) (w : W) :
    (fresh plan clock w).barrier.AdmitsOne := by
  apply Barrier.admitsOne_new
  split
  · exact Nat.le_refl 1
  · exact Nat.zero_le 1

theorem start_eq (plan : ReadingPlan) (clock : Nat → Instant) (w : W) :
    Course.start plan 1 clock w = (fresh plan clock w).entering plan .opening := rfl

/-- The reading ends with what its only worker comes to, who gives the session up. -/
theorem readFrames_of_leads {w : W} {y : Lone W} {s : Session} {result : WorkerResult}
    (hleads : ((fresh plan clock w).entering plan .opening).Leads plan clock link
      (y.entering plan (.closing s result))) (hadmits : y.barrier.AdmitsOne) :
    ∃ n, ∀ fuel, n ≤ fuel → (readFrames plan 1 clock fuel).run link.reply w =
      ((some (Group.conclude [result]), y.events.reverse), (s.drop.run link.reply y.world).2) := by
  obtain ⟨n, -, hlater⟩ := hleads.trans (leads_gone plan clock hadmits s result)
  refine ⟨n, fun fuel hfuel => ?_⟩
  have hcourse : (Course.next plan clock link)^[fuel] (Course.start plan 1 clock w) =
      (y.departed clock link s).course (.gone result) := by
    rw [start_eq, Course.iterate_of_over (by rw [hlater]; rfl) hfuel, hlater]
  apply Prod.ext
  · rw [Course.readFrames_eq, hcourse, ← departed_events clock link s y]
    rfl
  · rw [Course.readFrames_world, hcourse, ← departed_world clock link s y]
    rfl

/-- A reading that leads to a place from which it never ends has no result. -/
theorem readFrames_of_never {w : W} {c : Course W}
    (hleads : ((fresh plan clock w).entering plan .opening).Leads plan clock link c)
    (hnever : ∀ fuel, ((Course.next plan clock link)^[fuel] c).group.results? = none)
    (fuel : Nat) : ((readFrames plan 1 clock fuel).run link.reply w).1.1 = none := by
  have hopen := hleads.never_over hnever fuel
  rw [Course.readFrames_eq, start_eq, Course.outcome, hopen]
  rfl

end Lone

end Spectrometer
