import Spectrometer.Proofs.Reading.Group

/-!
Any number of arrivals at the barrier, by any workers in any order; a worker may `wait` any number
of times, or `abandon` and go on. The barrier depends on the number of arrivals only, which decides
who is blocked, who passes, and which call returns that it released the barrier.
-/

namespace Spectrometer

/-- Whether the worker's next deed is to go to the barrier, to wait there or to count down. -/
def Worker.isArriving (w : Worker) : Bool :=
  match w.doing with
  | .busy _ (.ask .wait _) | .busy _ (.ask .leave _) => true
  | _ => false

namespace Group

/-- Whether a step of worker `i` is an arrival at the barrier. -/
def isArrival (g : Group) (i : Nat) : Bool := g.workers[i]?.any (·.isArriving)

/-- A group that steps of the workers lead to, in any order and with any answers of the devices, and
the instants of the arrivals among them. -/
inductive Visited (plan : ReadingPlan) (origin : Group) : List Instant → Group → Prop
  | origin : Visited plan origin [] origin
  | step {arrivals : List Instant} {g next : Group} (i : Nat) (now : Instant)
      (hg : Visited plan origin arrivals g) (hstep : (g.step plan i now).Yields next) :
      Visited plan origin (arrivals ++ if g.isArrival i then [now] else []) next

/-- The steps of `wait` and `abandon` in group `g`, where so many have arrived so far. The arrival
that makes up the number of the participants, and no other, returns that it released the barrier. -/
structure Admits (plan : ReadingPlan) (participants arrived : Nat) (g : Group) : Prop where
  wait {i : Nat} {w : Worker} {stage : Stage}
    {next : Instant → Activity (Stage ⊕ WorkerResult)} (hi : g.workers[i]? = some w)
    (hdoing : w.doing = .busy stage (.ask .wait next)) (now : Instant) :
    ∃ g' w', g.step plan i now = .done g' ∧ g'.workers[i]? = some w' ∧
      (arrived + 1 < participants → w' = { w with doing := .waiting stage next }) ∧
      (participants ≤ arrived + 1 → ∃ t, g'.barrier.releasedAt = some t ∧
        w' = { w.go stage (next t) with
          passage := some ⟨decide (arrived + 1 = participants), t⟩ })
  leave {i : Nat} {w : Worker} {stage : Stage}
    {next : Bool → Activity (Stage ⊕ WorkerResult)} (hi : g.workers[i]? = some w)
    (hdoing : w.doing = .busy stage (.ask .leave next)) (now : Instant) :
    ∃ g', g.step plan i now = .done g' ∧
      g'.workers[i]? = some { w.go stage (next (decide (arrived + 1 = participants))) with
        exit := some (decide (arrived + 1 = participants)) }
  /-- Who is waiting is held just while participants are missing. -/
  waiting {i : Nat} {w : Worker} {stage : Stage}
    {resume : Instant → Activity (Stage ⊕ WorkerResult)} (hi : g.workers[i]? = some w)
    (hdoing : w.doing = .waiting stage resume) (now : Instant) :
    (w.canStep g.barrier = false ↔ arrived < participants) ∧
      (arrived < participants → g.step plan i now = .done g) ∧
      (participants ≤ arrived → ∃ t, g.barrier.releasedAt = some t ∧
        g.step plan i now =
          .done (g.setWorker i { w.go stage (resume t) with passage := some ⟨false, t⟩ }))

variable {plan : ReadingPlan} {origin g next : Group} {i : Nat} {w : Worker} {now : Instant}
  {participants : Nat} {start : Instant} {arrivals : List Instant}

/-- Only arrivals change the barrier. -/
theorem barrier_step :
    (g.step plan i now).Obeys (fun _ => True) fun next =>
      next.barrier = if g.isArrival i then (g.barrier.arrive now).1 else g.barrier := by
  unfold Group.step isArrival
  cases g.workers[i]? with
  | none => exact rfl
  | some w =>
    obtain ⟨doing, passage, exit⟩ := w
    cases doing with
    | gone result => exact rfl
    | waiting stage resume =>
      cases hreleased : g.barrier.releasedAt with
      | none => exact rfl
      | some t => exact rfl
    | busy stage rest =>
      cases rest with
      | done outcome => cases outcome <;> exact rfl
      | ask deed next =>
        cases deed with
        | say u => exact ⟨trivial, fun _ => rfl⟩
        | observe e => exact rfl
        | readClock => exact rfl
        | wait => exact rfl
        | leave => exact rfl

theorem Visited.barrier (horigin : origin.barrier = .new participants start)
    (hg : Visited plan origin arrivals g) : g.barrier = .after participants start arrivals := by
  induction hg with
  | origin => exact horigin.trans (Barrier.new_eq_after participants start)
  | step i now _ hstep ih =>
    rw [barrier_step.of_yields hstep, ih, Barrier.arrive_after]
    split
    · rfl
    · rw [List.append_nil]

theorem step_wait {stage : Stage} {next : Instant → Activity (Stage ⊕ WorkerResult)}
    (hi : g.workers[i]? = some w) (hdoing : w.doing = .busy stage (.ask .wait next)) :
    g.step plan i now = .done
      { g.setWorker i (entered w stage next (g.barrier.arrive now)) with
        barrier := (g.barrier.arrive now).1 } := by
  simp only [step, hi, hdoing]
  rfl

theorem step_leave {stage : Stage} {next : Bool → Activity (Stage ⊕ WorkerResult)}
    (hi : g.workers[i]? = some w) (hdoing : w.doing = .busy stage (.ask .leave next)) :
    g.step plan i now = .done
      { g.setWorker i { w.go stage (next (g.barrier.arrive now).2) with
          exit := some (g.barrier.arrive now).2 } with
        barrier := (g.barrier.arrive now).1 } := by
  simp only [step, hi, hdoing]
  rfl

theorem admits_of_barrier (hbarrier : g.barrier = .after participants start arrivals) :
    g.Admits plan participants arrivals.length := by
  refine ⟨?_, ?_, ?_⟩
  · intro i w stage next hi hdoing now
    have hcount : (arrivals ++ [now]).length = arrivals.length + 1 := List.length_append
    refine ⟨_, _, step_wait hi hdoing, getElem?_setWorker_self hi, ?_, ?_⟩
    · intro hmissing
      rw [hbarrier, Barrier.arrive_after, entered,
        Barrier.releasedAt_after_of_lt (by omega)]
    · intro hall
      rw [hbarrier, Barrier.arrive_after]
      obtain ⟨t, ht⟩ : ∃ t,
          (Barrier.after participants start (arrivals ++ [now])).releasedAt = some t :=
        Barrier.exists_releasedAt_after (hcount.symm ▸ hall)
      refine ⟨t, ht, ?_⟩
      rw [entered, ht]
  · intro i w stage next hi hdoing now
    refine ⟨_, step_leave hi hdoing, (getElem?_setWorker_self hi).trans ?_⟩
    rw [hbarrier, Barrier.arrive_after]
  · intro i w stage resume hi hdoing now
    refine ⟨?_, ?_, ?_⟩
    · rw [Worker.canStep, hdoing, hbarrier, ← Nat.not_le, ← Barrier.isSome_releasedAt_after,
        Bool.not_eq_true]
    · intro hmissing
      have hclosed : g.barrier.releasedAt = none := by
        rw [hbarrier, Barrier.releasedAt_after_of_lt hmissing]
      simp only [step, hi, hdoing, hclosed]
      rfl
    · intro hall
      obtain ⟨t, ht⟩ : ∃ t, g.barrier.releasedAt = some t := by
        rw [hbarrier]
        exact Barrier.exists_releasedAt_after hall
      refine ⟨t, ht, ?_⟩
      simp only [step, hi, hdoing, ht]
      rfl

/-- `Barrier.arrive` over any list of arrivals, by `wait` or by `abandon`. `remaining` counts down
from `participants` to zero and stays there; the arrival that makes it zero returns `true`, sets
`releasedAt` and broadcasts, and no other does; a barrier for nobody is released at its creation. In
every course of the workers the barrier is that of their arrivals alone, and a worker that waits is
blocked if and only if fewer than `participants` have arrived. -/
theorem barrier_counts_arrivals {start : Instant} {b : Barrier} {told : List Bool}
    (hserved : (Barrier.new participants start).arriveAll arrivals = (b, told)) :
    b.remaining = participants - min participants arrivals.length ∧
    told = (List.range arrivals.length).map (fun k => decide (k + 1 = participants)) ∧
    b.broadcasts = (if 1 ≤ participants ∧ participants ≤ arrivals.length then 1 else 0) ∧
    (b.releasedAt.isSome = true ↔ b.remaining = 0) ∧
    (∀ t, b.releasedAt = some t → ∀ later, (b.arriveAll later).1.releasedAt = some t) ∧
    (participants = 0 → b.releasedAt = some start ∧ true ∉ told) ∧
    (∀ plan origin g, origin.barrier = .new participants start → Visited plan origin arrivals g →
      g.barrier = b ∧ g.Admits plan participants arrivals.length) := by
  rw [Barrier.new_eq_after, Barrier.arriveAll_after, List.nil_append, Prod.mk.injEq] at hserved
  obtain ⟨rfl, rfl⟩ := hserved
  refine ⟨?_, ?_, ?_, ?_, ?_, ?_, ?_⟩
  · change participants - arrivals.length = _
    omega
  · rw [List.range_eq_range']
    rfl
  · rfl
  · rw [Barrier.isSome_releasedAt_after]
    exact Nat.sub_eq_zero_iff_le.symm
  · intro t ht later
    rw [Barrier.arriveAll_after]
    exact Barrier.releasedAt_after_append ht later
  · rintro rfl
    exact ⟨rfl, by simp⟩
  · intro plan origin g horigin hg
    have hbarrier := hg.barrier horigin
    exact ⟨hbarrier, admits_of_barrier hbarrier⟩

/-- A barrier for two, and two workers: the first waits, the second leaves and then waits. -/
def latecomers : Group where
  barrier := .new 2 0
  workers := [
    ⟨.busy .opening (.ask .wait fun _ => .done (.inl .opening)), none, none⟩,
    ⟨.busy .opening (.ask .leave fun _ => .ask .wait fun _ => .done (.inl .opening)), none, none⟩]
  events := []

/-- The same after three arrivals: the first worker still waits, and the second one has left and,
back again, has found the barrier open. -/
def latecomersMet : Group where
  barrier := ⟨0, some 7, 1⟩
  workers := [
    ⟨.waiting .opening fun _ => .done (.inl .opening), none, none⟩,
    ⟨.busy .opening (.done (.inl .opening)), some ⟨false, 7⟩, some true⟩]
  events := []

theorem latecomers_counted :
    (Barrier.new 2 0).arriveAll [5, 7, 8] = (⟨0, some 7, 1⟩, [false, true, false]) ∧
    Visited pair latecomers [5, 7, 8] latecomersMet ∧ latecomersMet.Admits pair 2 3 := by
  have hserved : (Barrier.new 2 0).arriveAll [5, 7, 8] = (⟨0, some 7, 1⟩, [false, true, false]) :=
    rfl
  have hwait : Visited pair latecomers [5] _ := .step 0 5 .origin (.done _)
  have hleave : Visited pair latecomers [5, 7] _ := .step 1 7 hwait (.done _)
  have hagain : Visited pair latecomers [5, 7, 8] latecomersMet := .step 1 8 hleave (.done _)
  obtain ⟨-, -, -, -, -, -, hall⟩ := barrier_counts_arrivals hserved
  exact ⟨hserved, hagain, (hall pair latecomers latecomersMet rfl hagain).2⟩

end Group

end Spectrometer
