import Mathlib.Algebra.Order.BigOperators.Group.Finset
import Spectrometer.Proofs.Emulator.WellFormed
import Spectrometer.Proofs.Reading.Lockstep

/-!
The order of the steps does not matter. Workers that open their devices by serial numbers of their
own and prepare them by fixed steps come to the same results, times apart, and leave the same
devices, in whatever order their calls and their arrivals at the barrier follow each other; and
every order comes to that end if each of them does when it is alone.
-/

namespace Spectrometer

open Emulator (link Only)

namespace Group

/-- So many steps lead from one place to another, in any order of the workers and at any times, each
made by a worker that can do something. -/
inductive Interleaved {W : Type} (plan : ReadingPlan) (link : Link W) (start : Group × W) :
    Nat → Group × W → Prop
  | refl : Interleaved plan link start 0 start
  | step {n : Nat} {g : Group} {w : W} (i : Nat) (now : Instant) {v : Worker}
    (hprior : Interleaved plan link start n (g, w)) (hv : g.workers[i]? = some v)
    (hcan : v.canStep g.barrier = true) :
    Interleaved plan link start (n + 1) ((g.step plan i now).run link.reply w)

variable {W : Type} {plan : ReadingPlan} {inner : Link W} {devices : Nat}

theorem Interleaved.reachable {now : Instant} {w : W} {n : Nat} {x : Group × W}
    (h : Interleaved plan inner (.new plan devices now, w) n x) : Reachable plan devices x.1 := by
  induction h with
  | refl => exact .start now
  | step i now _ _ _ ih => exact .step i now ih (Interaction.yields_run _ _ _)

/-- The events that a step adds are those of the worker that makes it. -/
theorem obeys_step_events (g : Group) (i : Nat) (now : Instant) :
    (g.step plan i now).Obeys (fun _ => True) fun g' =>
      ∀ x ∈ g'.events, x ∈ g.events ∨ x.1 = i ∧ i < g.workers.length := by
  unfold step
  cases hw : g.workers[i]? with
  | none => exact fun x hx => Or.inl hx
  | some w =>
    obtain ⟨doing, passage, exit⟩ := w
    cases doing with
    | gone result => exact fun x hx => Or.inl hx
    | waiting stage resume =>
      dsimp only
      cases g.barrier.releasedAt with
      | none => exact fun x hx => Or.inl hx
      | some t => exact fun x hx => Or.inl hx
    | busy stage rest =>
      cases rest with
      | done outcome => cases outcome <;> exact fun x hx => Or.inl hx
      | ask d next =>
        cases d with
        | say u => exact ⟨trivial, fun answer x hx => Or.inl hx⟩
        | readClock | leave => exact fun x hx => Or.inl hx
        | wait =>
          dsimp only
          cases (g.barrier.arrive now).1.releasedAt <;> exact fun x hx => Or.inl hx
        | observe e =>
          intro x hx
          obtain rfl | hx := List.mem_cons.mp hx
          · exact Or.inr ⟨rfl, (List.getElem?_eq_some_iff.mp hw).1⟩
          · exact Or.inl hx

theorem results?_eq_some_iff {g : Group} {results : List WorkerResult} :
    g.results? = some results ↔ g.workers.map (·.result?) = results.map some := by
  unfold results?
  generalize g.workers = workers
  induction workers generalizing results with
  | nil => cases results <;> simp [pure]
  | cons w rest ih =>
    rw [List.mapM_cons]
    cases results with
    | nil => simp [Option.bind_eq_some_iff]
    | cons r others => simp [← ih, Option.bind_eq_some_iff]

theorem exists_results? {g : Group} (hgone : ∀ w ∈ g.workers, w.result?.isSome = true) :
    ∃ results, g.results? = some results := by
  refine ⟨g.workers.filterMap (·.result?), results?_eq_some_iff.mpr ?_⟩
  generalize g.workers = workers at hgone ⊢
  induction workers with
  | nil => rfl
  | cons w rest ih =>
    obtain ⟨result, hresult⟩ := Option.isSome_iff_exists.mp (hgone w List.mem_cons_self)
    have hrest := ih fun v hv => hgone v (List.mem_cons_of_mem w hv)
    simp only [List.map_cons, hresult, List.filterMap_cons_some hresult, hrest]

/-- A worker that is still opening its device can go on. -/
theorem canStep_of_isOpening {w : Worker} (hw : w.isOpening = true) (b : Barrier) :
    w.canStep b = true := by
  obtain ⟨doing, passage, exit⟩ := w
  cases doing with
  | busy stage rest => rfl
  | _ => cases hw

/-- The worker that goes on can do something. -/
theorem canStep_of_choose? {g : Group} {last i : Nat} (hchoose : g.choose? last = some i) :
    ∃ w, g.workers[i]? = some w ∧ w.canStep g.barrier = true := by
  have hready {workers : List Worker} {j : Nat}
      (hj : workers.findIdx? (·.canStep g.barrier) = some j) :
      ∃ w, workers[j]? = some w ∧ w.canStep g.barrier = true := by
    obtain ⟨hlt, hcan, -⟩ := List.findIdx?_eq_some_iff_getElem.mp hj
    exact ⟨_, List.getElem?_eq_getElem hlt, hcan⟩
  unfold choose? at hchoose
  obtain hopening | ⟨-, hlater | ⟨-, hfirst⟩⟩ := by
    simpa only [Option.or_eq_some_iff] using hchoose
  · obtain ⟨hlt, hw, -⟩ := List.findIdx?_eq_some_iff_getElem.mp hopening
    exact ⟨_, List.getElem?_eq_getElem hlt, canStep_of_isOpening hw _⟩
  · obtain ⟨j, hj, rfl⟩ := Option.map_eq_some_iff.mp hlater
    obtain ⟨w, hw, hcan⟩ := hready hj
    rw [List.getElem?_drop, Nat.add_comm] at hw
    exact ⟨w, hw, hcan⟩
  · exact hready hfirst

/-- While somebody can do something, somebody goes on. -/
theorem choose?_of_canStep {g : Group} {w : Worker} (hw : w ∈ g.workers)
    (hcan : w.canStep g.barrier = true) (last : Nat) : ∃ i, g.choose? last = some i := by
  cases hchoose : g.choose? last with
  | some i => exact ⟨i, rfl⟩
  | none =>
    unfold choose? at hchoose
    obtain ⟨-, -, hnobody⟩ := by simpa only [Option.or_eq_none_iff] using hchoose
    have hnot := List.findIdx?_eq_none_iff.mp hnobody w hw
    rw [hcan] at hnot
    cases hnot

end Group

namespace Course

variable {W : Type} {plan : ReadingPlan} {clock : Nat → Instant} {inner : Link W}

variable (plan clock inner) in
/-- The course of a reading follows one order of the steps, as long as somebody can do something. -/
theorem interleaved_iterate (start : Course W) (fuel : Nat) :
    ∃ n, Group.Interleaved plan inner (start.group, start.world) n
        (((next plan clock inner)^[fuel] start).group,
          ((next plan clock inner)^[fuel] start).world) ∧
      (n = fuel ∨ ∀ w ∈ ((next plan clock inner)^[fuel] start).group.workers,
        w.canStep ((next plan clock inner)^[fuel] start).group.barrier = false) := by
  induction fuel with
  | zero => exact ⟨0, .refl, Or.inl rfl⟩
  | succ fuel ih =>
    rw [Function.iterate_succ_apply']
    generalize (next plan clock inner)^[fuel] start = c at ih ⊢
    obtain ⟨n, hn, hmost⟩ := ih
    cases hchoose : c.group.choose? c.last with
    | none =>
      rw [next_of_none hchoose]
      refine ⟨n, hn, Or.inr fun w hw => ?_⟩
      cases hcan : w.canStep c.group.barrier with
      | false => rfl
      | true =>
        obtain ⟨i, hi⟩ := Group.choose?_of_canStep hw hcan c.last
        rw [hchoose] at hi
        cases hi
    | some i =>
      obtain ⟨w, hw, hcan⟩ := Group.canStep_of_choose? hchoose
      obtain rfl | hidle := hmost
      · refine ⟨n + 1, ?_, Or.inl rfl⟩
        unfold next
        rw [hchoose]
        exact .step i (clock c.tick) hn hw hcan
      · rw [hidle w (List.mem_of_getElem? hw)] at hcan
        cases hcan

end Course

namespace Cast

variable {plan : ReadingPlan} {devices : Nat} {e e' : Emulator} {c : Cast plan devices e} {n : Nat}
  {g : Group}

theorem lockstep_of_interleaved (c : Cast plan devices e) {now : Instant} {x : Group × Emulator}
    (h : Group.Interleaved plan link (.new plan devices now, e) n x) : c.Lockstep n x.1 x.2 := by
  induction h with
  | refl => exact c.lockstep_new now
  | step i now _ hw hcan ih => exact ih.step hw hcan now

/-- Only the workers tell anything. -/
theorem event_lt (c : Cast plan devices e) {now : Instant} {x : Group × Emulator}
    (h : Group.Interleaved plan link (.new plan devices now, e) n x) :
    ∀ y ∈ x.1.events, y.1 < devices := by
  induction h with
  | refl => exact nofun
  | step i now hprior _ _ ih =>
    intro y hy
    obtain hold | ⟨rfl, hi⟩ :=
      (Group.obeys_step_events _ i now).run_post link.reply _ y hy
    · exact ih y hold
    · exact (c.lockstep_of_interleaved hprior).size ▸ hi

/-- Steps after which every order has come to its end. -/
def total (c : Cast plan devices e) : Nat := ∑ i ∈ Finset.range devices, 2 * c.bound i

theorem Lockstep.exists_worker (h : c.Lockstep n g e') {i : Nat} (hi : i < devices) :
    ∃ w, g.workers[i]? = some w :=
  ⟨_, List.getElem?_eq_getElem (h.size.symm ▸ hi)⟩

/-- No order goes on for longer. -/
theorem Lockstep.le_total (h : c.Lockstep n g e') : n ≤ c.total := by
  obtain ⟨steps, rfl, hmates⟩ := h.mates
  apply Finset.sum_le_sum
  intro i hi
  obtain ⟨w, hw⟩ := h.exists_worker (Finset.mem_range.mp hi)
  obtain ⟨k, _, _, _, _, hbound, hsteps, _⟩ := hmates i w hw
  omega

/-- While some worker is not gone, some worker can do something. -/
theorem exists_canStep {now : Instant}
    (h : Group.Interleaved plan link (.new plan devices now, e) n (g, e'))
    (hlockstep : c.Lockstep n g e') (hleft : ∃ w ∈ g.workers, w.result? = none) :
    ∃ w ∈ g.workers, w.canStep g.barrier = true := by
  obtain hnone | hsome := Nat.eq_zero_or_pos plan.required
  -- Without a frame to wait for the barrier is open from the start.
  · obtain ⟨w, hw, hresult⟩ := hleft
    refine ⟨w, hw, ?_⟩
    obtain ⟨doing, passage, exit⟩ := w
    cases doing with
    | busy stage rest => rfl
    | waiting stage resume => exact (hlockstep.opened hnone).2
    | gone result => cases hresult
  · have hdevices : 1 ≤ devices := by
      obtain ⟨w, hw, -⟩ := hleft
      rw [← hlockstep.size]
      exact List.length_pos_of_mem hw
    exact (h.reachable.orderly hdevices hsome).exists_canStep hleft

/-- Where nobody can do anything any more there is a result. -/
theorem exists_results {now : Instant}
    (h : Group.Interleaved plan link (.new plan devices now, e) n (g, e'))
    (hlockstep : c.Lockstep n g e')
    (hidle : ∀ w ∈ g.workers, w.canStep g.barrier = false) :
    ∃ results, g.results? = some results := by
  apply Group.exists_results?
  intro w hw
  cases hresult : w.result? with
  | some result => rfl
  | none =>
    obtain ⟨v, hv, hcan⟩ := exists_canStep h hlockstep ⟨w, hw, hresult⟩
    rw [hidle v hv] at hcan
    cases hcan

/-- At the end every worker has the result and the events that it has alone, and its device is what
it is after the worker's course alone. -/
theorem Lockstep.settled (h : c.Lockstep n g e') {results : List WorkerResult}
    (hover : g.results? = some results) : results.length = devices ∧
      ∀ i, i < devices → ∃ r r', results[i]? = some r ∧
        (c.course i (c.bound i)).group.results? = some [r'] ∧
        Together (WorkerReport.Resembles i) r r' ∧
        Group.told i g.events = (c.course i (c.bound i)).group.events.map (·.2.untimed) ∧
        ∀ p, c.own i = some p →
          e'.devices[p]? = (c.course i (c.bound i)).world.devices[p]? := by
  have hmap := Group.results?_eq_some_iff.mp hover
  refine ⟨?_, ?_⟩
  · have hlength := congrArg List.length hmap
    rw [List.length_map, List.length_map, h.size] at hlength
    exact hlength.symm
  · intro i hi
    obtain ⟨w, hw⟩ := h.exists_worker hi
    obtain ⟨steps, -, hmates⟩ := h.mates
    have hget : (g.workers.map (·.result?))[i]? = (results.map some)[i]? := by rw [hmap]
    rw [List.getElem?_map, List.getElem?_map, hw] at hget
    obtain ⟨r, hr, hresult⟩ := Option.map_eq_some_iff.mp hget.symm
    obtain ⟨r', hrest⟩ := (hmates i w hw).of_gone (c.course_succ i) hresult.symm
    exact ⟨r, r', hr, hrest⟩

/-- No order goes on for ever, and none gets stuck before there is a result. -/
theorem canStep_or_results (c : Cast plan devices e) {now : Instant}
    (h : Group.Interleaved plan link (.new plan devices now, e) n (g, e')) :
    n ≤ c.total ∧
      ((∃ w ∈ g.workers, w.canStep g.barrier = true) ∨ ∃ results, g.results? = some results) := by
  have hlockstep := c.lockstep_of_interleaved h
  refine ⟨hlockstep.le_total, ?_⟩
  by_cases hcan : ∃ w ∈ g.workers, w.canStep g.barrier = true
  · exact Or.inl hcan
  · have hidle : ∀ w ∈ g.workers, w.canStep g.barrier = false :=
      fun w hw => Bool.eq_false_iff.mpr fun hw' => hcan ⟨w, hw, hw'⟩
    exact Or.inr (exists_results h hlockstep hidle)

end Cast

/-- The results of a reading, times apart. -/
def WorkerResult.untimed (result : WorkerResult) : WorkerResult := result.map (·.untimed)

def SimultaneousReport.untimed (report : SimultaneousReport) : SimultaneousReport :=
  ⟨report.workers.map (·.untimed)⟩

/-- Two results that both are that of one lone worker differ in times only. -/
theorem untimed_eq_of_together {device : Nat} {r₁ r₂ r : WorkerResult}
    (h₁ : Together (WorkerReport.Resembles device) r₁ r)
    (h₂ : Together (WorkerReport.Resembles device) r₂ r) : r₁.untimed = r₂.untimed := by
  cases h₁ with
  | error e =>
    cases h₂
    rfl
  | ok h =>
    cases h₂ with
    | ok h' => exact congrArg Except.ok (h.trans h'.symm)

/-- A worker fails as it does alone. -/
theorem eq_of_together_of_error {device : Nat} {r r' : WorkerResult} {error : ReadingError}
    (h : Together (WorkerReport.Resembles device) r r') (hr : r.untimed = .error error) :
    r' = .error error := by
  cases h with
  | error e =>
    cases hr
    rfl
  | ok h => cases hr

/-- A worker reports of its own device. -/
theorem device_of_together {device : Nat} {r r' : WorkerResult} {report : WorkerReport}
    (h : Together (WorkerReport.Resembles device) r r') (hr : r.untimed = .ok report) :
    report.device = device := by
  cases h with
  | error e => cases hr
  | ok h =>
    obtain rfl := Except.ok.inj hr
    exact h.device_eq

namespace Cast

variable {plan : ReadingPlan} {devices : Nat} {e e₁ e₂ : Emulator} {c : Cast plan devices e}
  {n₁ n₂ : Nat} {g₁ g₂ : Group}

/-- All orders come to the same results, times apart, and to the same devices. -/
theorem Lockstep.confluent (h₁ : c.Lockstep n₁ g₁ e₁) (h₂ : c.Lockstep n₂ g₂ e₂)
    {results₁ results₂ : List WorkerResult} (hover₁ : g₁.results? = some results₁)
    (hover₂ : g₂.results? = some results₂) :
    results₁.map (·.untimed) = results₂.map (·.untimed) ∧ e₁.devices = e₂.devices := by
  obtain ⟨hlength₁, hsettled₁⟩ := h₁.settled hover₁
  obtain ⟨hlength₂, hsettled₂⟩ := h₂.settled hover₂
  constructor
  · apply List.ext_getElem?
    intro i
    rw [List.getElem?_map, List.getElem?_map]
    obtain hi | hi := Nat.lt_or_ge i devices
    · obtain ⟨r₁, r, hr₁, hr, htogether₁, -⟩ := hsettled₁ i hi
      obtain ⟨r₂, r', hr₂, hr', htogether₂, -⟩ := hsettled₂ i hi
      obtain rfl : r = r' := by simpa [hr] using hr'
      rw [hr₁, hr₂]
      exact congrArg some (untimed_eq_of_together htogether₁ htogether₂)
    · rw [List.getElem?_eq_none (hlength₁.symm ▸ hi), List.getElem?_eq_none (hlength₂.symm ▸ hi)]
  · apply List.ext_getElem?
    intro p
    by_cases howned : ∃ i, i < devices ∧ c.own i = some p
    · obtain ⟨i, hi, hown⟩ := howned
      obtain ⟨_, _, _, _, _, _, hdevices₁⟩ := hsettled₁ i hi
      obtain ⟨_, _, _, _, _, _, hdevices₂⟩ := hsettled₂ i hi
      exact (hdevices₁ p hown).trans (hdevices₂ p hown).symm
    · have hnobody : ∀ i, i < devices → c.own i ≠ some p :=
        fun i hi hown => howned ⟨i, hi, hown⟩
      exact (h₁.others p hnobody).trans (h₂.others p hnobody).symm

end Cast

namespace Group

variable {results : List WorkerResult}

theorem mapM_untimed (results : List WorkerResult) : (results.map (·.untimed)).mapM id =
    (results.mapM id).map fun (reports : List WorkerReport) => reports.map (·.untimed) := by
  induction results with
  | nil => rfl
  | cons r rest ih =>
    rw [List.map_cons, List.mapM_cons, List.mapM_cons, ih]
    cases r with
    | error e => rfl
    | ok report =>
      cases rest.mapM id with
      | error e => rfl
      | ok reports => rfl

/-- The conclusion of a reading is one from its results, times apart. -/
theorem conclude_untimed (results : List WorkerResult) :
    (conclude results).map (·.untimed) = conclude (results.map (·.untimed)) := by
  have hshortage : shortage? (results.map (·.untimed)) = shortage? results := by
    unfold shortage?
    rw [List.findSome?_map]
    congr 1
    funext r
    cases r <;> rfl
  unfold conclude
  rw [hshortage, mapM_untimed]
  cases shortage? results with
  | some lack => rfl
  | none =>
    cases results.mapM id with
    | error e => rfl
    | ok reports => rfl

theorem shortage?_eq_none
    (hmemory : ∀ r ∈ results, ∀ lack, r ≠ .error (.outOfMemory lack)) :
    shortage? results = none := by
  apply List.findSome?_eq_none_iff.mpr
  intro r hr
  cases r with
  | ok report => rfl
  | error e =>
    cases e with
    | device e => rfl
    | outOfMemory lack => exact absurd rfl (hmemory _ hr lack)

/-- The failure of the first worker that failed is that of the reading. -/
theorem conclude_of_first_error
    (hmemory : ∀ r ∈ results, ∀ lack, r ≠ .error (.outOfMemory lack)) {i : Nat}
    {error : ReadingError} (hi : results[i]? = some (.error error))
    (hfirst : ∀ j e, j < i → results[j]? ≠ some (.error e)) :
    conclude results = .error error := by
  have hmapM : results.mapM id = Except.error error := by
    clear hmemory
    induction results generalizing i with
    | nil => cases hi
    | cons r rest ih =>
      rw [List.mapM_cons]
      cases i with
      | zero =>
        cases hi
        rfl
      | succ i =>
        have hrest := ih hi fun j e hj => hfirst (j + 1) e (Nat.succ_lt_succ hj)
        cases r with
        | error e => exact absurd rfl (hfirst 0 e (Nat.succ_pos i))
        | ok report =>
          rw [hrest]
          rfl
  unfold conclude
  rw [shortage?_eq_none hmemory, hmapM]
  rfl

/-- Where no worker failed the reports are those of the workers. -/
theorem conclude_of_no_error
    (hnone : ∀ (i : Nat) (error : ReadingError), results[i]? ≠ some (.error error)) :
    ∃ reports, results = reports.map .ok ∧ conclude results = .ok ⟨reports⟩ := by
  obtain ⟨reports, rfl⟩ : ∃ reports : List WorkerReport, results = reports.map .ok := by
    induction results with
    | nil => exact ⟨[], rfl⟩
    | cons r rest ih =>
      obtain ⟨reports, rfl⟩ := ih fun i error => hnone (i + 1) error
      cases r with
      | ok report => exact ⟨report :: reports, rfl⟩
      | error e => exact absurd rfl (hnone 0 e)
  refine ⟨reports, rfl, ?_⟩
  have hmapM : (reports.map Except.ok).mapM id = (Except.ok reports : Except ReadingError _) := by
    induction reports with
    | nil => rfl
    | cons report rest ih =>
      rw [List.map_cons, List.mapM_cons, ih fun i error => hnone (i + 1) error]
      rfl
  unfold conclude
  rw [shortage?_eq_none, hmapM]
  · rfl
  · rintro r hr lack rfl
    obtain ⟨i, hi⟩ := List.getElem?_of_mem hr
    exact hnone i _ hi

end Group

/-- The worker of that device comes to an end when it is the only one, and does not run short of
memory. -/
def ReadingPlan.FinishesAlone {W : Type} (plan : ReadingPlan) (device : Nat) (link : Link W)
    (w : W) : Prop :=
  ∃ clock fuel verdict,
    ((readFrames (plan.alone device) 1 clock fuel).run link.reply w).1.1 = some verdict ∧
      ∀ lack, verdict ≠ .error (.outOfMemory lack)

/-- Workers that find their devices by distinct serial numbers make a cast. -/
theorem exists_cast {plan : ReadingPlan} {devices : Nat} {e : Emulator} (hsound : e.Sound)
    (huntroubled : e.Untroubled) (hdistinct : e.serials.Nodup) {serials : Nat → String}
    (hown : ∀ i j, i < devices → j < devices → serials i = serials j → i = j)
    (hopens : ∀ i, i < devices →
      Attempt.OpenAlike (serials i) (plan.openDevice i) (plan.openDevice i))
    (halone : ∀ i, i < devices → plan.FinishesAlone i link e) :
    ∃ c : Cast plan devices e, ∀ i, i < devices → ∃ results,
      (c.course i (c.bound i)).group.results? = some results ∧
        ∀ lack, Group.conclude results ≠ .error (.outOfMemory lack) := by
  have hfinish (i : Nat) : ∃ clock fuel, i < devices → ∃ results,
      ((Course.next (plan.alone i) clock link)^[fuel]
        (.start (plan.alone i) 1 clock e)).group.results? = some results ∧
        ∀ lack, Group.conclude results ≠ .error (.outOfMemory lack) := by
    by_cases hi : i < devices
    · obtain ⟨clock, fuel, verdict, hverdict, hmemory⟩ := halone i hi
      refine ⟨clock, fuel, fun _ => ?_⟩
      rw [Course.readFrames_eq] at hverdict
      obtain ⟨results, hresults, rfl⟩ := Option.map_eq_some_iff.mp hverdict
      exact ⟨results, hresults, hmemory⟩
    · exact ⟨id, 0, fun hi' => absurd hi' hi⟩
  choose clock fuel hfinish using hfinish
  have hapart (i j p : Nat) (hi : i < devices) (hj : j < devices) (hne : i ≠ j)
      (hp : e.findBySerial? (some (serials i)) = some p) :
      e.findBySerial? (some (serials j)) ≠ some p := by
    intro hp'
    obtain ⟨-, d, hd, -, hserial⟩ :=
      (Emulator.only_of_nodup hdistinct (serials i)).findBySerial?_eq_some_iff.mp hp
    obtain ⟨-, d', hd', -, hserial'⟩ :=
      (Emulator.only_of_nodup hdistinct (serials j)).findBySerial?_eq_some_iff.mp hp'
    obtain rfl : d = d' := Option.some.inj (hd.symm.trans hd')
    exact hne (hown i j hi hj (hserial.symm.trans hserial'))
  let c : Cast plan devices e :=
    { serial := serials
      own := fun i => e.findBySerial? (some (serials i))
      clock, bound := fuel, opens := hopens
      only := fun i _ => Emulator.only_of_nodup hdistinct (serials i)
      apart := hapart
      ends := fun i hi => by
        obtain ⟨r, hr, -⟩ := hfinish i hi
        rw [hr]
        rfl
      sound := hsound, untroubled := huntroubled }
  exact ⟨c, hfinish⟩

namespace Cast

variable {plan : ReadingPlan} {devices : Nat} {e e' : Emulator} {c : Cast plan devices e}
  {n : Nat} {g : Group}

/-- A reading with enough fuel comes to an end that some order comes to. -/
theorem exists_end (c : Cast plan devices e) (clock : Nat → Instant) {fuel : Nat}
    (hfuel : c.total ≤ fuel) : ∃ n g e' results,
      Group.Interleaved plan link (.new plan devices (clock 0), e) n (g, e') ∧
      g.results? = some results ∧
      ((readFrames plan devices clock fuel).run link.reply e).1 =
        (some (Group.conclude results), g.events.reverse) ∧
      ((readFrames plan devices clock fuel).run link.reply e).2 = e' := by
  rw [Course.readFrames_world, Course.readFrames_eq]
  obtain ⟨n, hn, hmost⟩ :=
    Course.interleaved_iterate plan clock link (.start plan devices clock e) fuel
  generalize (Course.next plan clock link)^[fuel] (.start plan devices clock e) = final
    at hn hmost ⊢
  have hlockstep : c.Lockstep n final.group final.world := c.lockstep_of_interleaved hn
  have hidle : ∀ w ∈ final.group.workers, w.canStep final.group.barrier = false := by
    obtain rfl | hidle := hmost
    · intro w hw
      cases hcan : w.canStep final.group.barrier with
      | false => rfl
      | true =>
        -- One more step would be one too many.
        obtain ⟨i, hi⟩ := List.getElem?_of_mem hw
        have hmore := (hlockstep.step hi hcan 0).le_total
        omega
    · exact hidle
  obtain ⟨results, hresults⟩ := exists_results hn hlockstep hidle
  refine ⟨n, final.group, final.world, results, hn, hresults, ?_, rfl⟩
  rw [Course.outcome, hresults]
  rfl

/-- Workers that find memory for their records when they are alone find it in the group. -/
theorem Lockstep.untimed_ne_outOfMemory (h : c.Lockstep n g e') {results : List WorkerResult}
    (hover : g.results? = some results)
    (hmemory : ∀ i, i < devices → ∃ lone, (c.course i (c.bound i)).group.results? = some lone ∧
      ∀ lack, Group.conclude lone ≠ .error (.outOfMemory lack)) :
    ∀ r ∈ results.map (·.untimed), ∀ lack, r ≠ .error (.outOfMemory lack) := by
  intro r hr lack hlack
  obtain ⟨hlength, hsettled⟩ := h.settled hover
  obtain ⟨r₀, hr₀, rfl⟩ := List.mem_map.mp hr
  obtain ⟨i, hi⟩ := List.getElem?_of_mem hr₀
  obtain ⟨r₁, r', hr₁, hlone, htogether, -⟩ :=
    hsettled i (hlength ▸ (List.getElem?_eq_some_iff.mp hi).1)
  obtain rfl : r₁ = r₀ := Option.some.inj (hr₁.symm.trans hi)
  obtain ⟨lone, hresults, hconclude⟩ :=
    hmemory i (hlength ▸ (List.getElem?_eq_some_iff.mp hi).1)
  obtain rfl : lone = [r'] := Option.some.inj (hresults.symm.trans hlone)
  obtain rfl := eq_of_together_of_error htogether hlack
  exact hconclude lack rfl

/-- Where no worker has failed there is a report of every device, in their order. -/
theorem Lockstep.reports_in_order (h : c.Lockstep n g e') {results : List WorkerResult}
    (hover : g.results? = some results)
    (hnone : ∀ (i : Nat) (error : ReadingError),
      (results.map (·.untimed))[i]? ≠ some (.error error)) :
    ∃ reports, Group.conclude (results.map (·.untimed)) = .ok ⟨reports⟩ ∧
      reports.length = devices ∧
      ∀ (i : Nat) (report : WorkerReport), reports[i]? = some report → report.device = i := by
  obtain ⟨hlength, hsettled⟩ := h.settled hover
  obtain ⟨reports, hreports, hconclude⟩ := Group.conclude_of_no_error hnone
  have hsize : reports.length = devices := by
    rw [← hlength, ← List.length_map WorkerResult.untimed, hreports, List.length_map]
  refine ⟨reports, hconclude, hsize, ?_⟩
  intro i report hi
  obtain ⟨r, r', hr, -, htogether, -⟩ :=
    hsettled i (hsize ▸ (List.getElem?_eq_some_iff.mp hi).1)
  have hget : (results.map (·.untimed))[i]? = (reports.map Except.ok)[i]? := by rw [hreports]
  rw [List.getElem?_map, List.getElem?_map, hr, hi] at hget
  have hsame : r.untimed = .ok report := Option.some.inj hget
  exact device_of_together htogether hsame

end Cast

/-- `readFrames` of devices with distinct serial numbers, each opened and prepared by any fixed
steps, where every worker comes to an end by itself. There are a bound, results and final devices
such that every interleaving of the workers' steps stays within the bound, is never stuck, and ends
with these results, up to times, and these devices; so does `readFrames` under every clock. Its
verdict is the error of the first failing device, or the reports of all devices in their order.
Counts may be forced on devices, and only attached devices need distinct serial numbers. -/
theorem reading_independent_of_order (config : EmulatorConfig) (events : List Emulator.Event)
    (devices required room : Nat) (serials : Nat → String) (steps : Nat → List Preparation)
    (huntroubled : ((Emulator.new config).after events).Untroubled)
    (hdistinct : ((Emulator.new config).after events).serials.Nodup)
    (hown : ∀ i j, i < devices → j < devices → serials i = serials j → i = j)
    (halone : ∀ i, i < devices → ReadingPlan.FinishesAlone
      ⟨fun i => prepare (serials i) (steps i), required, room⟩ i link
      ((Emulator.new config).after events)) :
    let plan : ReadingPlan := ⟨fun i => prepare (serials i) (steps i), required, room⟩
    let e := (Emulator.new config).after events
    ∃ (bound : Nat) (results : List WorkerResult) (final : List Device),
      (∀ now n g e', Group.Interleaved plan link (.new plan devices now, e) n (g, e') →
        n ≤ bound ∧ ((∃ w ∈ g.workers, w.canStep g.barrier = true) ∨
          ∃ told, g.results? = some told ∧ told.map (·.untimed) = results ∧ e'.devices = final)) ∧
      (∀ clock fuel, bound ≤ fuel → ∃ verdict,
        ((readFrames plan devices clock fuel).run link.reply e).1.1 = some verdict ∧
        verdict.map (·.untimed) = Group.conclude results ∧
        ((readFrames plan devices clock fuel).run link.reply e).2.devices = final) ∧
      results.length = devices ∧
      (∀ (i : Nat) (error : ReadingError), results[i]? = some (.error error) →
        (∀ (j : Nat) (e : ReadingError), j < i → results[j]? ≠ some (.error e)) →
        Group.conclude results = .error error) ∧
      ((∀ (i : Nat) (error : ReadingError), results[i]? ≠ some (.error error)) →
        ∃ reports, Group.conclude results = .ok ⟨reports⟩ ∧ reports.length = devices ∧
          ∀ (i : Nat) (report : WorkerReport), reports[i]? = some report → report.device = i) := by
  intro plan e
  have hsound : e.Sound := ((Emulator.wellFormed_new config).after events).sound
  obtain ⟨c, hmemory⟩ := exists_cast hsound huntroubled hdistinct hown
    (fun i _ => openAlike_prepare (serials i) (steps i)) halone
  obtain ⟨n₀, g₀, e₀, results₀, hn₀, hresults₀, -, -⟩ := c.exists_end id (Nat.le_refl _)
  have hlockstep₀ := c.lockstep_of_interleaved hn₀
  refine ⟨c.total, results₀.map (·.untimed), e₀.devices, ?_, ?_, ?_, ?_, ?_⟩
  · intro now n g e' hn
    have hlockstep := c.lockstep_of_interleaved hn
    obtain ⟨hbound, hcan | ⟨results, hresults⟩⟩ := c.canStep_or_results hn
    · exact ⟨hbound, Or.inl hcan⟩
    · exact ⟨hbound, Or.inr ⟨results, hresults,
        hlockstep.confluent hlockstep₀ hresults hresults₀⟩⟩
  · intro clock fuel hfuel
    obtain ⟨n, g, e', results, hn, hresults, hread, hworld⟩ := c.exists_end clock hfuel
    have hlockstep := c.lockstep_of_interleaved hn
    obtain ⟨hsame, hdevices⟩ := hlockstep.confluent hlockstep₀ hresults hresults₀
    refine ⟨Group.conclude results, by rw [hread], ?_, by rw [hworld, hdevices]⟩
    rw [Group.conclude_untimed, hsame]
  · rw [List.length_map, (hlockstep₀.settled hresults₀).1]
  · exact fun i error hi hfirst => Group.conclude_of_first_error
      (hlockstep₀.untimed_ne_outOfMemory hresults₀ hmemory) hi hfirst
  · exact hlockstep₀.reports_in_order hresults₀

/-- One device that is read, and one that is asked for a mode before it is connected. -/
def unequalPair (i : Nat) : List Preparation :=
  if i = 0 then [⟨.connect, true⟩, ⟨.setMode .frameAveraging, true⟩]
  else [⟨.setMode .frameAveraging, true⟩]

theorem reading_of_unequalPair :
    let e := (Emulator.new ⟨["A", "B"], 4, none⟩).after []
    let serials (i : Nat) := if i = 0 then "A" else "B"
    let plan : ReadingPlan := ⟨fun i => prepare (serials i) (unequalPair i), 1, 0x100000⟩
    e.Untroubled ∧ e.serials.Nodup ∧
      (∀ i j, i < 2 → j < 2 → serials i = serials j → i = j) ∧
      (∀ i, i < 2 → plan.FinishesAlone i link e) ∧
      ∃ (bound : Nat) (results : List WorkerResult) (final : List Device),
        ∀ now n g e', Group.Interleaved plan link (.new plan 2 now, e) n (g, e') →
          n ≤ bound ∧ ((∃ w ∈ g.workers, w.canStep g.barrier = true) ∨
            ∃ told, g.results? = some told ∧ told.map (·.untimed) = results ∧
              e'.devices = final) := by
  intro e serials plan
  have huntroubled : e.Untroubled := Emulator.untroubled_new _
  have hdistinct : e.serials.Nodup := by decide
  have hapart : ∀ i < 2, ∀ j < 2, serials i = serials j → i = j := by decide
  have hown (i j : Nat) (hi : i < 2) (hj : j < 2) : serials i = serials j → i = j :=
    hapart i hi j hj
  have halone (i : Nat) (hi : i < 2) : plan.FinishesAlone i link e := by
    obtain rfl | rfl : i = 0 ∨ i = 1 := by omega
    · have hread : ((readFrames (plan.alone 0) 1 id 40).run link.reply e).1.1.any (·.isOk) =
          true := by decide +kernel
      obtain ⟨verdict, hverdict, hok⟩ := Option.any_eq_true _ _ |>.mp hread
      refine ⟨id, 40, verdict, hverdict, ?_⟩
      rintro lack rfl
      cases hok
    · have hrefused : ((readFrames (plan.alone 1) 1 id 40).run link.reply e).1.1 =
          some (.error (.device .notConnected)) := by decide +kernel
      exact ⟨id, 40, _, hrefused, fun lack => nofun⟩
  obtain ⟨bound, results, final, hevery, -⟩ := reading_independent_of_order ⟨["A", "B"], 4, none⟩
    [] 2 1 0x100000 serials unequalPair huntroubled hdistinct hown halone
  exact ⟨huntroubled, hdistinct, hown, halone, bound, results, final, hevery⟩

end Spectrometer
