import Mathlib.Algebra.BigOperators.Group.Finset.Piecewise
import Spectrometer.Proofs.Emulator.Own
import Spectrometer.Proofs.Reading.Alone
import Spectrometer.Proofs.Reading.Group
import Spectrometer.Proofs.Twin.Reading

/-!
Workers with devices of their own. However the steps of several workers follow each other, each
worker goes through what it goes through when it reads its device alone: a `Mate` is a worker that
has come as far as the lone one has after some number of steps, with the same view of the device.
A step of a worker takes its mate one step further, unless it is the step that leaves the barrier,
and leaves all other mates where they are.
-/

namespace Spectrometer

open Interaction (Twin)
open Emulator (link Only Bound Agrees)

/-- The reading in which the worker of that device is the only one. -/
def ReadingPlan.alone (plan : ReadingPlan) (device : Nat) : ReadingPlan :=
  ⟨fun _ => plan.openDevice device, plan.required, plan.room⟩

/-- The events of a device, without times. -/
def Group.told (device : Nat) (events : List (Nat × FrameEvent)) : List FrameEvent :=
  (events.filter (·.1 == device)).map (·.2.untimed)

theorem Group.told_cons_self (device : Nat) (e : FrameEvent) (events : List (Nat × FrameEvent)) :
    told device ((device, e) :: events) = e.untimed :: told device events := by
  simp [told]

theorem Group.told_cons_ne {device i : Nat} (hne : i ≠ device) (e : FrameEvent)
    (events : List (Nat × FrameEvent)) : told device ((i, e) :: events) = told device events := by
  simp [told, hne]

/-- Workers that do the same; one of them may still have to leave the barrier. -/
inductive Doing.Alike (serial : String) (device : Nat) (contexts : Context × Context) :
    Doing → Doing → Prop
  | busy {stage stage' : Stage} {rest rest' : Activity (Stage ⊕ WorkerResult)}
    (hrest : Twin (Deed.Pairs serial) (Stage.Alike serial device) contexts rest rest') :
    Alike serial device contexts (.busy stage rest) (.busy stage' rest')
  | waiting {stage stage' : Stage} {resume : Instant → Activity (Stage ⊕ WorkerResult)}
    {rest' : Activity (Stage ⊕ WorkerResult)}
    (hresume : ∀ release, Twin (Deed.Pairs serial) (Stage.Alike serial device) contexts
      (resume release) rest') :
    Alike serial device contexts (.waiting stage resume) (.busy stage' rest')
  | gone {result result' : WorkerResult}
    (hresult : Together (WorkerReport.Resembles device) result result') :
    Alike serial device contexts (.gone result) (.gone result')

theorem Doing.Alike.of_gone {serial : String} {device : Nat} {contexts : Context × Context}
    {result : WorkerResult} {doing' : Doing}
    (h : Doing.Alike serial device contexts (.gone result) doing') :
    ∃ result', doing' = .gone result' ∧
      Together (WorkerReport.Resembles device) result result' := by
  cases h with
  | gone hresult => exact ⟨_, rfl, hresult⟩

/-- A worker in a group is level with one that is alone: both have the same activity left, the same
events and the same view of their device. -/
structure Level (serial : String) (own : Option Nat) (device : Nat) (doing : Doing)
    (told : List FrameEvent) (e : Emulator) (doing' : Doing) (x : Lone Emulator)
    (contexts : Context × Context) : Prop where
  doing : doing.Alike serial device contexts doing'
  told : told = x.events.map (·.2.untimed)
  agrees : Agrees serial own contexts e x.world
  sound : x.world.Sound
  untroubled : x.world.Untroubled
  admits : x.barrier.AdmitsOne

/-- A worker that has made so many steps is level with where the course of a lone worker is after
some number of steps; of its own steps at most every second one leaves the barrier. -/
def Mate (course : Nat → Course Emulator) (bound : Nat) (serial : String) (own : Option Nat)
    (device steps : Nat) (w : Worker) (told : List FrameEvent) (e : Emulator) : Prop :=
  ∃ k doing' x contexts, course k = x.course doing' ∧ k ≤ bound ∧
    steps + (if w.isWaiting then 1 else 0) ≤ 2 * k ∧
    Level serial own device w.doing told e doing' x contexts

/-- Somebody with that device said something, if anything was said. -/
def Emulator.Said (own : Option Nat) (e e' : Emulator) : Prop :=
  e' = e ∨ ∃ serial contexts u u' fits, Utterance.Pairs serial contexts u u' fits ∧
    e.Bound own contexts.1 ∧ e' = (link.reply u e).2

/-- What a step of one worker leaves of a group: its own state, the events of its device, the
barrier and the emulator may change. -/
structure Group.Stepped (device : Nat) (own : Option Nat) (w' : Worker) (now : Instant)
    (x x' : Group × Emulator) : Prop where
  workers : x'.1.workers = x.1.workers.set device w'
  told : ∀ i, i ≠ device → told i x'.1.events = told i x.1.events
  barrier : x'.1.barrier = x.1.barrier ∨ x'.1.barrier = (x.1.barrier.arrive now).1
  said : Emulator.Said own x.2 x'.2

namespace Mate

variable {plan : ReadingPlan} {clock : Nat → Instant} {course : Nat → Course Emulator}
  {bound device steps : Nat} {serial : String} {own : Option Nat} {g : Group} {e : Emulator}
  {w : Worker}

private theorem step_le {k : Nat} {waiting : Bool} (hsteps : steps ≤ 2 * k) :
    steps + 1 + (if waiting then 1 else 0) ≤ 2 * (k + 1) := by
  split <;> omega

/-- A step takes a mate to where it is a mate again. -/
theorem step (hcourse : ∀ k, course (k + 1) = (course k).next (plan.alone device) clock link)
    (hover : (course bound).group.results?.isSome = true)
    (hopen : Attempt.OpenAlike serial (plan.openDevice device) (plan.openDevice device))
    (he : e.Sound) (hu : e.Untroubled)
    (h : Mate course bound serial own device steps w (Group.told device g.events) e)
    (hw : g.workers[device]? = some w) (hcan : w.canStep g.barrier = true) (now : Instant) :
    ∃ w', Group.Stepped device own w' now (g, e) ((g.step plan device now).run link.reply e) ∧
      Mate course bound serial own device (steps + 1) w'
        (Group.told device ((g.step plan device now).run link.reply e).1.events)
        ((g.step plan device now).run link.reply e).2 := by
  obtain ⟨k, doing', x, contexts, hk, hbound, hsteps, hdoing, htold, hagrees, hsound, huntroubled,
    hadmits⟩ := h
  obtain ⟨doing, passage, exit⟩ := w
  have hle : steps ≤ 2 * k := Nat.le_trans (Nat.le_add_right _ _) hsteps
  have hnext := hcourse k
  rw [hk] at hnext
  cases hdoing with
  | gone hresult => cases hcan
  | waiting hresume =>
    -- The lone worker went on at once, so it stays where it is.
    obtain ⟨t, ht⟩ := Option.isSome_iff_exists.mp hcan
    simp only [Group.step, hw, ht]
    exact ⟨_, ⟨rfl, fun _ _ => rfl, Or.inl rfl, Or.inl rfl⟩, k, _, x, contexts, hk, hbound, hsteps,
      .busy (hresume t), htold, hagrees, hsound, huntroubled, hadmits⟩
  | busy hrest =>
    have hlt : k < bound := by
      refine Nat.lt_of_le_of_ne hbound ?_
      rintro rfl
      rw [hk] at hover
      cases hover
    cases hrest with
    | done hpost =>
      rename_i stage stage' outcome outcome'
      rw [Lone.next_busy] at hnext
      cases outcome with
      | inl stage₂ =>
        cases outcome' with
        | inr result' => cases hpost
        | inl stage₂' =>
          have hrequired : plan.required = (plan.alone device).required := rfl
          have hact := hpost.act hrequired rfl hopen
          simp only [Group.step, hw]
          exact ⟨_, ⟨rfl, fun _ _ => rfl, Or.inl rfl, Or.inl rfl⟩, k + 1, _, x.later, contexts,
            hnext, hlt, step_le hle, .busy hact, htold, hagrees, hsound, huntroubled, hadmits⟩
      | inr result =>
        cases hpost with
        | ended hresult =>
          simp only [Group.step, hw]
          exact ⟨_, ⟨rfl, fun _ _ => rfl, Or.inl rfl, Or.inl rfl⟩, k + 1, _, x.later, contexts,
            hnext, hlt, step_le hle, .gone hresult, htold, hagrees, hsound, huntroubled, hadmits⟩
    | ask hpairs hafter =>
      rw [Lone.next_ask hadmits] at hnext
      have hadmits' (d : Deed) : (Lone.answer clock link d x).2.barrier.AdmitsOne :=
        Lone.admitsOne_answer hadmits d
      cases hpairs with
      | say hsay =>
        obtain ⟨after, hfits, hagrees'⟩ := hagrees.reply he hsound hu huntroubled hsay
        simp only [Group.step, hw]
        exact ⟨_, ⟨rfl, fun _ _ => rfl, Or.inl rfl, Or.inr ⟨_, _, _, _, _, hsay, hagrees.bound,
          rfl⟩⟩, k + 1, _, _, after, hnext, hlt, step_le hle, .busy (hafter _ _ _ hfits), htold,
          hagrees', hsound.run (.ask _ .done), huntroubled.run (.ask _ .done), hadmits' _⟩
      | observe hevent =>
        simp only [Group.step, hw]
        refine ⟨_, ⟨rfl, fun i hi => Group.told_cons_ne hi.symm _ _, Or.inl rfl, Or.inl rfl⟩, k + 1,
          _, _, contexts, hnext, hlt, step_le hle, .busy (hafter _ _ _ rfl), ?_, hagrees, hsound,
          huntroubled, hadmits' _⟩
        exact (Group.told_cons_self device _ g.events).trans (congrArg₂ List.cons hevent htold)
      | readClock =>
        simp only [Group.step, hw]
        exact ⟨_, ⟨rfl, fun _ _ => rfl, Or.inl rfl, Or.inl rfl⟩, k + 1, _, _, contexts, hnext, hlt,
          step_le hle, .busy (hafter _ _ _ rfl), htold, hagrees, hsound, huntroubled, hadmits' _⟩
      | wait =>
        simp only [Group.step, hw]
        cases hreleased : (g.barrier.arrive now).1.releasedAt with
        | none =>
          exact ⟨_, ⟨rfl, fun _ _ => rfl, Or.inr rfl, Or.inl rfl⟩, k + 1, _, _, contexts, hnext,
            hlt, step_le hle, .waiting fun release => hafter _ _ _ rfl, htold, hagrees, hsound,
            huntroubled, hadmits' _⟩
        | some t =>
          exact ⟨_, ⟨rfl, fun _ _ => rfl, Or.inr rfl, Or.inl rfl⟩, k + 1, _, _, contexts, hnext,
            hlt, step_le hle, .busy (hafter _ _ _ rfl), htold, hagrees, hsound, huntroubled,
            hadmits' _⟩
      | leave =>
        simp only [Group.step, hw]
        exact ⟨_, ⟨rfl, fun _ _ => rfl, Or.inr rfl, Or.inl rfl⟩, k + 1, _, _, contexts, hnext, hlt,
          step_le hle, .busy (hafter _ _ _ rfl), htold, hagrees, hsound, huntroubled, hadmits' _⟩

/-- What others say with their devices leaves a mate one. -/
theorem foreign {told : List FrameEvent} {e' : Emulator} {other : Option Nat}
    (h : Mate course bound serial own device steps w told e) (he : e.Sound)
    (hsaid : Emulator.Said other e e') (hapart : ∀ i, own = some i → other ≠ some i) :
    Mate course bound serial own device steps w told e' := by
  obtain rfl | ⟨_, _, _, _, _, hpairs, hbound, rfl⟩ := hsaid
  · exact h
  · obtain ⟨k, doing', x, contexts, hk, hk', hsteps, hlevel⟩ := h
    exact ⟨k, doing', x, contexts, hk, hk', hsteps,
      { hlevel with agrees := hlevel.agrees.foreign he hbound hapart hpairs }⟩

/-- A mate that is gone ended as the lone worker does. -/
theorem of_gone {told : List FrameEvent}
    (hcourse : ∀ k, course (k + 1) = (course k).next (plan.alone device) clock link)
    (h : Mate course bound serial own device steps w told e) {result : WorkerResult}
    (hgone : w.result? = some result) : ∃ result',
      (course bound).group.results? = some [result'] ∧
      Together (WorkerReport.Resembles device) result result' ∧
      told = (course bound).group.events.map (·.2.untimed) ∧
      ∀ i, own = some i → e.devices[i]? = (course bound).world.devices[i]? := by
  obtain ⟨k, doing', x, contexts, hk, hbound, -, hlevel⟩ := h
  obtain ⟨doing, passage, exit⟩ := w
  cases doing with
  | busy | waiting => cases hgone
  | gone =>
    cases hgone
    obtain ⟨hdoing, htold, hagrees, -, -, -⟩ := hlevel
    obtain ⟨result', rfl, hresult⟩ := hdoing.of_gone
    -- The lone course is over here, so it is still here at its bound.
    have hstays : course bound = course k := by
      obtain ⟨more, rfl⟩ := Nat.exists_eq_add_of_le hbound
      clear hbound
      induction more with
      | zero => rfl
      | succ more ih =>
        rw [← Nat.add_assoc, hcourse, ih, hk]
        exact Course.next_of_over rfl
    rw [hstays, hk]
    exact ⟨result', rfl, hresult, htold, hagrees.device⟩

end Mate

/-- Workers each with a device of its own, each of whom comes to an end when it is alone with it. -/
structure Cast (plan : ReadingPlan) (devices : Nat) (e : Emulator) where
  /-- The serial number that the worker asks for. -/
  serial : Nat → String
  /-- The number of the device that it gets, if there is one. -/
  own : Nat → Option Nat
  clock : Nat → Nat → Instant
  /-- Steps after which the worker is gone when it is alone. -/
  bound : Nat → Nat
  opens : ∀ i, i < devices → Attempt.OpenAlike (serial i) (plan.openDevice i) (plan.openDevice i)
  only : ∀ i, i < devices → Only e.devices (serial i) (own i)
  apart : ∀ i j p, i < devices → j < devices → i ≠ j → own i = some p → own j ≠ some p
  ends : ∀ i, i < devices → ((Course.next (plan.alone i) (clock i) link)^[bound i]
    (.start (plan.alone i) 1 (clock i) e)).group.results?.isSome = true
  sound : e.Sound
  untroubled : e.Untroubled

namespace Cast

variable {plan : ReadingPlan} {devices : Nat} {e : Emulator} (c : Cast plan devices e)

/-- Where a worker is after so many steps when it is alone. -/
def course (i k : Nat) : Course Emulator :=
  (Course.next (plan.alone i) (c.clock i) link)^[k] (.start (plan.alone i) 1 (c.clock i) e)

theorem course_succ (i k : Nat) :
    c.course i (k + 1) = (c.course i k).next (plan.alone i) (c.clock i) link :=
  Function.iterate_succ_apply' _ _ _

/-- The workers go through what they go through alone, `n` steps in all, and no device changes that
is nobody's. -/
structure Lockstep (n : Nat) (g : Group) (e' : Emulator) : Prop where
  size : g.workers.length = devices
  sound : e'.Sound
  untroubled : e'.Untroubled
  others : ∀ p, (∀ i, i < devices → c.own i ≠ some p) → e'.devices[p]? = e.devices[p]?
  opened : plan.required = 0 → g.barrier.remaining = 0 ∧ g.barrier.releasedAt.isSome = true
  mates : ∃ steps : Nat → Nat, n = ∑ i ∈ Finset.range devices, steps i ∧
    ∀ i w, g.workers[i]? = some w → Mate (c.course i) (c.bound i) (c.serial i) (c.own i) i (steps i)
      w (Group.told i g.events) e'

theorem mate_new {i : Nat} (hi : i < devices) :
    Mate (c.course i) (c.bound i) (c.serial i) (c.own i) i 0 (.new plan i) [] e := by
  have hrequired : plan.required = (plan.alone i).required := rfl
  have hact := Stage.Alike.opening.act hrequired rfl (c.opens i hi)
  exact ⟨0, _, Lone.fresh (plan.alone i) (c.clock i) e, _, rfl, Nat.zero_le _, Nat.le_refl 0,
    .busy hact, rfl, ⟨c.only i hi, c.only i hi, rfl, fun _ _ => rfl, Or.inl rfl⟩, c.sound,
    c.untroubled, Lone.admitsOne_fresh _ _ _⟩

theorem lockstep_new (now : Instant) : c.Lockstep 0 (.new plan devices now) e where
  size := by simp [Group.new]
  sound := c.sound
  untroubled := c.untroubled
  others := fun _ _ => rfl
  opened := by
    intro hnone
    simp only [Group.new, hnone]
    exact ⟨rfl, rfl⟩
  mates := by
    refine ⟨fun _ => 0, by simp, ?_⟩
    intro i w hw
    obtain ⟨j, hj, rfl⟩ := Option.map_eq_some_iff.mp (List.getElem?_map.symm.trans hw)
    obtain ⟨hi, rfl⟩ : i < devices ∧ i = j := by
      simpa [List.getElem?_eq_some_iff] using hj
    exact c.mate_new hi

variable {c} {n : Nat} {g : Group} {e' : Emulator}

theorem Emulator.Said.device_eq {own : Option Nat} (h : Emulator.Said own e e') {p : Nat}
    (hp : own ≠ some p) : e'.devices[p]? = e.devices[p]? := by
  obtain rfl | ⟨_, _, _, _, _, hpairs, hbound, rfl⟩ := h
  · rfl
  · exact hbound.device_reply hpairs hp

/-- Whichever worker makes the next step, all stay in lockstep. -/
theorem Lockstep.step (h : c.Lockstep n g e') {i : Nat} {w : Worker} (hw : g.workers[i]? = some w)
    (hcan : w.canStep g.barrier = true) (now : Instant) :
    c.Lockstep (n + 1) ((g.step plan i now).run link.reply e').1
      ((g.step plan i now).run link.reply e').2 := by
  obtain ⟨hsize, hsound, huntroubled, hothers, hopened, steps, hsum, hmates⟩ := h
  have hi : i < devices := by
    rw [← hsize]
    exact (List.getElem?_eq_some_iff.mp hw).1
  obtain ⟨w', ⟨hworkers, htold, hbarrier, hsaid⟩, hmate⟩ := (hmates i w hw).step (c.course_succ i)
    (c.ends i hi) (c.opens i hi) hsound huntroubled hw hcan now
  refine ⟨?_, hsound.run _, huntroubled.run _, ?_, ?_,
    Function.update steps i (steps i + 1), ?_, ?_⟩
  · rw [hworkers, List.length_set]
    exact hsize
  · intro p hp
    exact (Emulator.Said.device_eq hsaid (hp i hi)).trans (hothers p hp)
  · intro hnone
    obtain ⟨hremaining, hreleased⟩ := hopened hnone
    have hstays : (g.barrier.arrive now).1 = g.barrier := by
      unfold Barrier.arrive
      rw [hremaining]
    have hsame : ((g.step plan i now).run link.reply e').1.barrier = g.barrier :=
      hbarrier.elim id fun h => h.trans hstays
    rw [hsame]
    exact ⟨hremaining, hreleased⟩
  · have hmem : i ∈ Finset.range devices := Finset.mem_range.mpr hi
    rw [Finset.sum_update_of_mem hmem, hsum,
      Finset.sum_eq_add_sum_sdiff_singleton_of_mem hmem steps]
    omega
  · intro j v hv
    rw [hworkers] at hv
    by_cases hij : i = j
    · subst hij
      rw [List.getElem?_set_self (List.getElem?_eq_some_iff.mp hw).1] at hv
      cases hv
      rw [Function.update_self]
      exact hmate
    · rw [List.getElem?_set_ne hij] at hv
      have hj : j < devices := by
        rw [← hsize]
        exact (List.getElem?_eq_some_iff.mp hv).1
      rw [Function.update_of_ne (Ne.symm hij), htold j (Ne.symm hij)]
      exact (hmates j v hv).foreign hsound hsaid fun p hp => c.apart j i p hj hi (Ne.symm hij) hp

end Cast

end Spectrometer
