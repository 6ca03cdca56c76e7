import Spectrometer.Emulator.Basic
import Spectrometer.Proofs.Barrier
import Spectrometer.Proofs.Reading.Attendance

/-!
Workers around the barrier. A group is `Orderly` while the barrier lacks just the workers that have
neither waited nor left; every step of every worker keeps it so, whatever the devices answer and in
whatever order the workers take their steps. From this follows when the last fetches start.
-/

namespace Spectrometer

namespace Worker

def isWaiting (w : Worker) : Bool :=
  match w.doing with
  | .waiting .. => true
  | _ => false

/-- Whether the worker has gone to the barrier to wait, be it still waiting or past it. -/
def hasEntered (w : Worker) : Bool := w.isWaiting || w.passage.isSome

/-- Whether the worker has counted down on its way out. -/
def hasExited (w : Worker) : Bool := w.exit.isSome

def hasArrived (w : Worker) : Bool := w.hasEntered || w.hasExited

theorem not_hasArrived_iff (w : Worker) :
    w.hasArrived = false ↔ w.isWaiting = false ∧ w.passage = none ∧ w.exit = none := by
  simp [hasArrived, hasEntered, hasExited, and_assoc]

/-- Whether the worker's `wait` returned that it released the barrier. -/
def releasedByWaiting (w : Worker) : Bool := w.passage.any (·.leader)

/-- Whether the worker's `abandon` returned that it released the barrier. -/
def releasedByLeaving (w : Worker) : Bool := w.exit.getD false

def phase (w : Worker) : Attendance :=
  if w.exit.isSome then .out else if w.passage.isSome then .past else .due

theorem phase_eq_due_iff (w : Worker) : w.phase = .due ↔ w.passage = none ∧ w.exit = none := by
  unfold phase
  cases w.passage <;> cases w.exit <;> simp

theorem phase_eq_past_iff (w : Worker) :
    w.phase = .past ↔ w.passage.isSome = true ∧ w.exit = none := by
  unfold phase
  cases w.passage <;> cases w.exit <;> simp

/-- Whether the worker's next deed is the request for its last frame. -/
def isFetchingLast (w : Worker) : Bool :=
  match w.doing with
  | .busy stage (.ask (.say u) _) => stage.isLast && u.asksFrame
  | _ => false

/-- What the worker has left to do fits what the barrier has seen of it. -/
def Orderly (required : Nat) (w : Worker) : Prop :=
  match w.doing with
  | .busy stage rest => stage.Orderly required w.phase rest
  | .waiting stage resume =>
    w.phase = .due ∧ ∀ release, stage.Orderly required .past (resume release)
  | .gone _ => w.phase = .out

/-- A worker about to request its last frame has a passage. -/
theorem Orderly.isSome_passage {required : Nat} {w : Worker} (h : w.Orderly required)
    (hfetching : w.isFetchingLast = true) : w.passage.isSome = true := by
  unfold Orderly at h
  unfold isFetchingLast at hfetching
  split at hfetching
  · next stage u next hdoing =>
    rw [hdoing] at h
    obtain ⟨hlast, hasks⟩ := Bool.and_eq_true_iff.mp hfetching
    exact ((phase_eq_past_iff w).mp (h.1 hlast hasks)).1
  · cases hfetching

end Worker

namespace Group

/-- A group that some order of steps leads to, with any answers of the devices and any clock. -/
inductive Reachable (plan : ReadingPlan) (devices : Nat) : Group → Prop
  | start (now : Instant) : Reachable plan devices (Group.new plan devices now)
  | step {g next : Group} (i : Nat) (now : Instant) (hg : Reachable plan devices g)
      (hstep : (g.step plan i now).Yields next) : Reachable plan devices next

def HasPassed (g : Group) (i : Nat) : Prop :=
  ∃ w, g.workers[i]? = some w ∧ w.passage.isSome = true

instance (g : Group) (i : Nat) : Decidable (g.HasPassed i) :=
  decidable_of_decidable_of_iff (p := g.workers[i]?.any (·.passage.isSome) = true)
    (by simp [HasPassed, Option.any_eq_true])

/-- The workers are in order, `remaining` counts those that have not arrived, as many calls returned
that they released the barrier as it broadcast, every passage has its `releasedAt`, and only workers
that have passed have fetched their last frame. -/
structure Orderly (required devices : Nat) (g : Group) : Prop where
  size : g.workers.length = devices
  workers : ∀ w ∈ g.workers, w.Orderly required
  lacks : g.barrier.Lacks (g.workers.countP (!·.hasArrived))
  releases : g.workers.countP (·.releasedByWaiting) + g.workers.countP (·.releasedByLeaving) =
    g.barrier.broadcasts
  passages : ∀ w ∈ g.workers, ∀ p, w.passage = some p → g.barrier.releasedAt = some p.releasedAt
  fetches : ∀ i e, (i, e) ∈ g.events → e.isLast = true → g.HasPassed i

/-- Replacing one element changes a count by what the two elements differ in. -/
private theorem countP_set_add {α : Type} (p : α → Bool) {l : List α} {i : Nat} {a b : α}
    (hi : l[i]? = some a) :
    (l.set i b).countP p + (if p a then 1 else 0) = l.countP p + (if p b then 1 else 0) := by
  obtain ⟨hlt, rfl⟩ := List.getElem?_eq_some_iff.mp hi
  rw [List.countP_set hlt]
  have hpos : p l[i] = true → 0 < l.countP p := fun hp =>
    List.countP_pos_iff.mpr ⟨l[i], List.getElem_mem hlt, hp⟩
  cases hp : p l[i] with
  | true =>
    have := hpos hp
    simp only [if_true]
    omega
  | false => simp

/-- What holds of all elements and of a new one holds after the new one has replaced another. -/
private theorem forall_mem_set {α : Type} {P : α → Prop} {l : List α} {i : Nat} {b : α}
    (hold : ∀ a ∈ l, P a) (hnew : P b) : ∀ a ∈ l.set i b, P a := by
  intro a ha
  obtain hmem | rfl := List.mem_or_eq_of_mem_set ha
  · exact hold a hmem
  · exact hnew

variable {required devices : Nat} {g : Group} {i : Nat} {w w' : Worker}

theorem getElem?_setWorker_self (hi : g.workers[i]? = some w) :
    (g.setWorker i w').workers[i]? = some w' :=
  List.getElem?_set_self (List.getElem?_eq_some_iff.mp hi).1

theorem HasPassed.setWorker {j : Nat} (hj : g.HasPassed j) (hi : g.workers[i]? = some w)
    (hpast : w.passage.isSome = true → w'.passage.isSome = true) :
    (g.setWorker i w').HasPassed j := by
  obtain ⟨v, hv, hpassed⟩ := hj
  by_cases hij : i = j
  · subst hij
    rw [hi] at hv
    cases hv
    exact ⟨w', getElem?_setWorker_self hi, hpast hpassed⟩
  · refine ⟨v, ?_, hpassed⟩
    simp only [Group.setWorker]
    rw [List.getElem?_set_ne hij]
    exact hv

theorem Orderly.setWorker (h : g.Orderly required devices) (hi : g.workers[i]? = some w)
    (horderly : w'.Orderly required) (harrived : w'.hasArrived = w.hasArrived)
    (hwaiting : w'.releasedByWaiting = w.releasedByWaiting)
    (hleaving : w'.releasedByLeaving = w.releasedByLeaving)
    (hpast : w.passage.isSome = true → w'.passage.isSome = true)
    (hpassage : ∀ p, w'.passage = some p → g.barrier.releasedAt = some p.releasedAt) :
    (g.setWorker i w').Orderly required devices := by
  have hcount (p : Worker → Bool) (hp : p w' = p w) :
      (g.workers.set i w').countP p = g.workers.countP p := by
    have hset := countP_set_add p (b := w') hi
    rw [hp] at hset
    exact Nat.add_right_cancel hset
  refine ⟨?_, ?_, ?_, ?_, ?_, ?_⟩
  · exact (List.length_set ..).trans h.size
  · exact forall_mem_set h.workers horderly
  · change g.barrier.Lacks ((g.workers.set i w').countP (!·.hasArrived))
    rw [hcount _ (by rw [harrived])]
    exact h.lacks
  · change (g.workers.set i w').countP _ + (g.workers.set i w').countP _ = _
    rw [hcount _ hwaiting, hcount _ hleaving]
    exact h.releases
  · exact forall_mem_set h.passages hpassage
  · exact fun j e he hlast => (h.fetches j e he hlast).setWorker hi hpast

/-- An arrival of a worker that was missing keeps the order, if the worker records the result. -/
theorem Orderly.arrive (h : g.Orderly required devices) (hi : g.workers[i]? = some w)
    (hmissing : w.hasArrived = false) (harrived : w'.hasArrived = true)
    (horderly : w'.Orderly required) {now : Instant}
    (hreports : (if w'.releasedByWaiting then 1 else 0) + (if w'.releasedByLeaving then 1 else 0) =
      if (g.barrier.arrive now).2 then 1 else 0)
    (hpassage : ∀ p, w'.passage = some p →
      (g.barrier.arrive now).1.releasedAt = some p.releasedAt) :
    { g.setWorker i w' with barrier := (g.barrier.arrive now).1 }.Orderly required devices := by
  obtain ⟨-, hpassed, hexit⟩ := w.not_hasArrived_iff.mp hmissing
  have hwaiting : w.releasedByWaiting = false := by simp [Worker.releasedByWaiting, hpassed]
  have hleaving : w.releasedByLeaving = false := by simp [Worker.releasedByLeaving, hexit]
  have hcount := countP_set_add (fun w => !w.hasArrived) (b := w') hi
  simp only [hmissing, harrived, Bool.not_false, Bool.not_true, if_true, Bool.false_eq_true,
    if_false, Nat.add_zero] at hcount
  obtain ⟨hlacks, htold, hclosed, hsilent⟩ := (hcount ▸ h.lacks).arrive now
  refine ⟨?_, ?_, hlacks, ?_, ?_, ?_⟩
  · exact (List.length_set ..).trans h.size
  · exact forall_mem_set h.workers horderly
  · have hcountWaiting := countP_set_add (·.releasedByWaiting) (b := w') hi
    have hcountLeaving := countP_set_add (·.releasedByLeaving) (b := w') hi
    have hold := h.releases
    have hnew := hlacks.broadcasts
    rw [hsilent] at hold
    rw [htold] at hreports
    simp only [hwaiting, hleaving, Bool.false_eq_true, if_false, decide_eq_true_eq] at *
    change (g.workers.set i w').countP _ + (g.workers.set i w').countP _ =
      (g.barrier.arrive now).1.broadcasts
    rw [hnew]
    omega
  · refine forall_mem_set (fun v hv p hp => ?_) hpassage
    -- No worker was past the barrier before this arrival: it was closed.
    have hopen := h.passages v hv p hp
    rw [hclosed] at hopen
    cases hopen
  · intro j e he hlast
    refine (h.fetches j e he hlast).setWorker hi ?_
    rw [hpassed]
    exact nofun

/-- A deed other than `wait` and `leave` keeps the worker in its phase. -/
theorem Orderly.go (h : g.Orderly required devices) (hi : g.workers[i]? = some w) {stage : Stage}
    {rest : Activity (Stage ⊕ WorkerResult)} (hdoing : w.doing = .busy stage rest) (stage' : Stage)
    {rest' : Activity (Stage ⊕ WorkerResult)} (hrest : stage'.Orderly required w.phase rest') :
    (g.setWorker i (w.go stage' rest')).Orderly required devices := by
  refine h.setWorker hi hrest ?_ rfl rfl id (h.passages w (List.mem_of_getElem? hi))
  simp [Worker.hasArrived, Worker.hasEntered, Worker.hasExited, Worker.isWaiting, Worker.go, hdoing]

theorem Orderly.resume (h : g.Orderly required devices) (hi : g.workers[i]? = some w)
    {stage : Stage} {next : Instant → Activity (Stage ⊕ WorkerResult)}
    (hdoing : w.doing = .waiting stage next)
    {t : Instant} (ht : g.barrier.releasedAt = some t) :
    (g.setWorker i { w.go stage (next t) with passage := some ⟨false, t⟩ }).Orderly
      required devices := by
  have hworker := h.workers w (List.mem_of_getElem? hi)
  obtain ⟨doing, passage, exit⟩ := w
  subst hdoing
  obtain ⟨hphase, hnext⟩ := hworker
  obtain ⟨rfl, rfl⟩ := (Worker.phase_eq_due_iff _).mp hphase
  refine h.setWorker hi (hnext t) rfl rfl rfl nofun ?_
  intro p hp
  cases hp
  exact ht

theorem Orderly.vanish (h : g.Orderly required devices) (hi : g.workers[i]? = some w)
    {stage : Stage} {result : WorkerResult} (hdoing : w.doing = .busy stage (.done (.inr result))) :
    (g.setWorker i { w with doing := .gone result }).Orderly required devices := by
  have hworker := h.workers w (List.mem_of_getElem? hi)
  unfold Worker.Orderly at hworker
  simp only [hdoing] at hworker
  refine h.setWorker hi hworker ?_ rfl rfl id (h.passages w (List.mem_of_getElem? hi))
  simp [Worker.hasArrived, Worker.hasEntered, Worker.hasExited, Worker.isWaiting, hdoing]

/-- The worker `w`, at stage `stage`, after an arrival at the barrier to wait for the others. -/
def entered (w : Worker) (stage : Stage) (next : Instant → Activity (Stage ⊕ WorkerResult))
    (arrival : Barrier × Bool) : Worker :=
  match arrival.1.releasedAt with
  | none => { w with doing := .waiting stage next }
  | some t => { w.go stage (next t) with passage := some ⟨arrival.2, t⟩ }

theorem Orderly.wait (h : g.Orderly required devices) (hi : g.workers[i]? = some w)
    {stage : Stage} {next : Instant → Activity (Stage ⊕ WorkerResult)}
    (hdoing : w.doing = .busy stage (.ask .wait next))
    (now : Instant) :
    { g.setWorker i (entered w stage next (g.barrier.arrive now)) with
      barrier := (g.barrier.arrive now).1 }.Orderly required devices := by
  have hworker := h.workers w (List.mem_of_getElem? hi)
  obtain ⟨doing, passage, exit⟩ := w
  subst hdoing
  obtain ⟨hphase, hnext⟩ := hworker
  obtain ⟨rfl, rfl⟩ := (Worker.phase_eq_due_iff _).mp hphase
  unfold entered
  cases hreleased : (g.barrier.arrive now).1.releasedAt with
  | none =>
    refine h.arrive hi rfl rfl ?_ ?_ ?_
    · exact ⟨hphase, hnext⟩
    · rw [Barrier.arrive_of_closed hreleased]
      rfl
    · exact nofun
  | some t =>
    refine h.arrive hi rfl rfl ?_ ?_ ?_
    · exact hnext t
    · cases (g.barrier.arrive now).2 <;> rfl
    · intro p hp
      cases hp
      exact hreleased

theorem Orderly.leave (h : g.Orderly required devices) (hi : g.workers[i]? = some w)
    {stage : Stage} {next : Bool → Activity (Stage ⊕ WorkerResult)}
    (hdoing : w.doing = .busy stage (.ask .leave next))
    (now : Instant) :
    { g.setWorker i { w.go stage (next (g.barrier.arrive now).2) with
        exit := some (g.barrier.arrive now).2 } with
      barrier := (g.barrier.arrive now).1 }.Orderly required devices := by
  have hmem := List.mem_of_getElem? hi
  have hworker := h.workers w hmem
  have hpassages := h.passages w hmem
  obtain ⟨doing, passage, exit⟩ := w
  subst hdoing
  obtain ⟨hphase, hnext⟩ := hworker
  cases exit with
  | some _ => exact absurd rfl hphase
  | none =>
    cases passage with
    | none =>
      refine h.arrive hi rfl rfl ?_ ?_ ?_
      · exact hnext _
      · cases (g.barrier.arrive now).2 <;> rfl
      · exact nofun
    | some p =>
      -- Who is past the barrier finds it open, and its leaving counts nothing down.
      have hopen : g.barrier.releasedAt.isSome = true := by rw [hpassages p rfl]; rfl
      have hnone := h.lacks.released.mp hopen
      have harrive := (hnone ▸ h.lacks).arrive_of_none now
      rw [harrive]
      exact h.setWorker hi (hnext false) rfl rfl rfl id hpassages

/-- Whatever a worker does next, whenever it does it and whatever it is answered, the group stays in
order. -/
theorem Orderly.step {plan : ReadingPlan} (h : g.Orderly plan.required devices) (i : Nat)
    (now : Instant) :
    (g.step plan i now).Obeys (fun _ => True) (Orderly plan.required devices) := by
  unfold Group.step
  cases hi : g.workers[i]? with
  | none => exact h
  | some w =>
    have hworker := h.workers w (List.mem_of_getElem? hi)
    unfold Worker.Orderly at hworker
    cases hdoing : w.doing with
    | gone result => simp only [hdoing]; exact h
    | waiting stage next =>
      simp only [hdoing]
      cases ht : g.barrier.releasedAt with
      | none => exact h
      | some t => exact h.resume hi hdoing ht
    | busy stage rest =>
      simp only [hdoing] at hworker ⊢
      cases rest with
      | done outcome =>
        cases outcome with
        | inl next => exact h.go hi hdoing next (Stage.orderly_act plan i hworker)
        | inr result => exact h.vanish hi hdoing
      | ask deed next =>
        cases deed with
        | say u => exact ⟨trivial, fun answer => h.go hi hdoing stage (hworker.2 answer)⟩
        | observe e =>
          have hnext : (g.setWorker i (w.go stage (next ()))).Orderly plan.required devices :=
            h.go hi hdoing stage hworker.2
          refine ⟨hnext.size, hnext.workers, hnext.lacks, hnext.releases, hnext.passages, ?_⟩
          intro j seen hseen hlast
          obtain heq | hold := List.mem_cons.mp hseen
          · cases heq
            have hpast := ((Worker.phase_eq_past_iff w).mp (hworker.1 hlast)).1
            exact HasPassed.setWorker ⟨w, hi, hpast⟩ hi id
          · exact hnext.fetches j seen hold hlast
        | readClock => exact h.go hi hdoing stage (hworker now)
        | wait => exact h.wait hi hdoing now
        | leave => exact h.leave hi hdoing now

theorem orderly_new {plan : ReadingPlan} (hdevices : 1 ≤ devices) (hrequired : 1 ≤ plan.required)
    (now : Instant) : (Group.new plan devices now).Orderly plan.required devices := by
  have hnew : ∀ w ∈ (Group.new plan devices now).workers, ∃ device, w = Worker.new plan device := by
    intro w hw
    obtain ⟨device, _, rfl⟩ := List.mem_map.mp hw
    exact ⟨device, rfl⟩
  have hmissing : (Group.new plan devices now).workers.countP (!·.hasArrived) = devices := by
    have hall : ∀ w ∈ (Group.new plan devices now).workers, (!w.hasArrived) = true := by
      intro w hw
      obtain ⟨device, rfl⟩ := hnew w hw
      rfl
    rw [List.countP_eq_length.mpr hall]
    simp [Group.new]
  have hsilent (p : Worker → Bool) (hp : ∀ device, p (Worker.new plan device) = false) :
      (Group.new plan devices now).workers.countP p = 0 := by
    rw [List.countP_eq_zero]
    intro w hw
    obtain ⟨device, rfl⟩ := hnew w hw
    simp [hp]
  refine ⟨by simp [Group.new], ?_, ?_, ?_, ?_, nofun⟩
  · intro w hw
    obtain ⟨device, rfl⟩ := hnew w hw
    exact Stage.orderly_act plan device rfl
  · rw [hmissing]
    simp only [Group.new, if_pos (show plan.required > 0 from hrequired)]
    exact Barrier.lacks_new hdevices now
  · rw [hsilent _ fun _ => rfl, hsilent _ fun _ => rfl]
    rfl
  · intro w hw p hp
    obtain ⟨device, rfl⟩ := hnew w hw
    cases hp

theorem Reachable.orderly {plan : ReadingPlan} (hg : Reachable plan devices g)
    (hdevices : 1 ≤ devices) (hrequired : 1 ≤ plan.required) :
    g.Orderly plan.required devices := by
  induction hg with
  | start now => exact orderly_new hdevices hrequired now
  | step i now _ hstep ih => exact (ih.step i now).of_yields hstep

/-- Following one order of the steps, however far, leads to a reachable group. -/
theorem Reachable.run {plan : ReadingPlan} (hg : Reachable plan devices g) (clock : Nat → Instant)
    (fuel tick last : Nat) {final : Group}
    (hfinal : (g.run plan clock fuel tick last).Yields final) :
    Reachable plan devices final := by
  induction fuel generalizing g tick last with
  | zero =>
    cases hfinal
    exact hg
  | succ fuel ih =>
    unfold Group.run at hfinal
    cases hchoice : g.choose? last with
    | none =>
      rw [hchoice] at hfinal
      cases hfinal
      exact hg
    | some i =>
      rw [hchoice] at hfinal
      obtain ⟨next, hstep, hrest⟩ := (Interaction.yields_bind _ _ _).mp hfinal
      exact ih (.step i _ hg hstep) _ _ hrest

/-- While some worker has not gone, some worker can do its next deed. -/
theorem Orderly.exists_canStep (h : g.Orderly required devices)
    (hleft : ∃ w ∈ g.workers, w.result? = none) : ∃ w ∈ g.workers, w.canStep g.barrier = true := by
  -- Behind an open barrier everybody can go on; before a closed one somebody is still missing.
  by_cases hopen : g.barrier.releasedAt.isSome = true
  · obtain ⟨w, hw, hresult⟩ := hleft
    refine ⟨w, hw, ?_⟩
    obtain ⟨doing, passage, exit⟩ := w
    cases doing with
    | busy stage rest => rfl
    | waiting stage resume => exact hopen
    | gone result => cases hresult
  · have hmissing : 0 < g.workers.countP (!·.hasArrived) := by
      have := mt h.lacks.released.mpr hopen
      omega
    obtain ⟨w, hw, hdue⟩ := List.countP_pos_iff.mp hmissing
    refine ⟨w, hw, ?_⟩
    have hworker := h.workers w hw
    obtain ⟨hidle, hpassage, hexit⟩ := w.not_hasArrived_iff.mp (by simpa using hdue)
    obtain ⟨doing, passage, exit⟩ := w
    subst hpassage hexit
    cases doing with
    | busy stage rest => rfl
    | waiting stage resume => cases hidle
    | gone result => cases hworker

/-- In every group that `Reachable` steps lead to, in any order and with any answers of the devices.
`remaining` is the number of workers that have neither entered `wait` nor left. No worker has passed
the barrier before all have done one of the two, and a worker that has not passed neither makes the
`getFrame` request for its last frame nor has that frame among its events. `broadcasts` is one once
`remaining` is zero, exactly one call returned `true` then, every passage has the same `releasedAt`,
and a waiting worker with nobody left to arrive can step. -/
theorem last_fetches_after_all_arrived {plan : ReadingPlan} (hdevices : 1 ≤ devices)
    (hrequired : 1 ≤ plan.required) (hg : Reachable plan devices g) :
    g.workers.length = devices ∧
    g.barrier.remaining = g.workers.countP (fun w => !w.hasEntered && !w.hasExited) ∧
    (∀ i, g.HasPassed i → ∀ w ∈ g.workers, w.hasEntered = true ∨ w.hasExited = true) ∧
    (∀ i w, g.workers[i]? = some w → w.isFetchingLast = true → g.HasPassed i) ∧
    (∀ i e, (i, e) ∈ g.events → e.isLast = true → g.HasPassed i) ∧
    (g.barrier.broadcasts = 1 ↔ g.barrier.remaining = 0) ∧
    g.workers.countP (·.releasedByWaiting) + g.workers.countP (·.releasedByLeaving) =
      (if g.barrier.remaining = 0 then 1 else 0) ∧
    (∀ w ∈ g.workers, ∀ p, w.passage = some p → g.barrier.releasedAt = some p.releasedAt) ∧
    ((∀ w ∈ g.workers, w.hasExited = true ∨ w.isWaiting = true) →
      g.barrier.releasedAt.isSome = true ∧
        ∀ w ∈ g.workers, w.isWaiting = true → w.canStep g.barrier = true) ∧
    ((∃ w ∈ g.workers, w.result? = none) → ∃ w ∈ g.workers, w.canStep g.barrier = true) := by
  have h := hg.orderly hdevices hrequired
  have hcount : g.workers.countP (fun w => !w.hasEntered && !w.hasExited) =
      g.workers.countP (!·.hasArrived) := by
    congr 1
    funext w
    exact (Bool.not_or ..).symm
  have hremaining := h.lacks.remaining
  have hbroadcasts := h.lacks.broadcasts
  rw [← hremaining] at hbroadcasts
  have hall (hzero : g.workers.countP (!·.hasArrived) = 0) :
      ∀ w ∈ g.workers, w.hasEntered = true ∨ w.hasExited = true := by
    intro w hw
    have harrived : w.hasArrived = true := by simpa using List.countP_eq_zero.mp hzero w hw
    simpa [Worker.hasArrived] using harrived
  refine ⟨h.size, hremaining.trans hcount.symm, ?_, fun i w hi hfetching => ⟨w, hi, ?_⟩, h.fetches,
    ?_, h.releases.trans hbroadcasts, h.passages, ?_, h.exists_canStep⟩
  · rintro i ⟨w, hi, hpassed⟩
    obtain ⟨p, hp⟩ := Option.isSome_iff_exists.mp hpassed
    have hopen := h.passages w (List.mem_of_getElem? hi) p hp
    exact hall (h.lacks.released.mp (by rw [hopen]; rfl))
  · exact (h.workers w (List.mem_of_getElem? hi)).isSome_passage hfetching
  · rw [hbroadcasts]
    split <;> simp_all
  · intro hdone
    have hzero : g.workers.countP (!·.hasArrived) = 0 := by
      rw [List.countP_eq_zero]
      intro w hw
      obtain hexited | hwaiting := hdone w hw
      · simp [Worker.hasArrived, hexited]
      · simp [Worker.hasArrived, Worker.hasEntered, hwaiting]
    have hopen := h.lacks.released.mpr hzero
    refine ⟨hopen, ?_⟩
    intro w _ hwaiting
    unfold Worker.isWaiting at hwaiting
    unfold Worker.canStep
    split at hwaiting
    · simp only [*]
    · cases hwaiting

/-- Two emulated devices, one frame of each. -/
def pair : ReadingPlan where
  openDevice n := Session.establish (EmulatorConfig.serialOf (n + 1))
  required := 1
  room := 0x100000

/-- The workers of the pair after so many steps, timed by their number. -/
def pairAfter (steps : Nat) : Group :=
  (((Group.new pair 2 0).run pair id steps 1 2).run Emulator.link.reply (.new (.withDevices 2))).1

theorem reachable_pairAfter (steps : Nat) : Reachable pair 2 (pairAfter steps) :=
  Reachable.run (.start 0) id steps 1 2 (Interaction.yields_run _ _ _)

/-- After twenty steps the second worker has just released the barrier, while the first one waits;
eight steps later the second one makes the request for its frame. -/
theorem pair_last_fetches_after_all_arrived :
    1 ≤ 2 ∧ 1 ≤ pair.required ∧ Reachable pair 2 (pairAfter 20) ∧ (pairAfter 20).HasPassed 1 ∧
    (pairAfter 20).workers.map (·.isWaiting) = [true, false] ∧
    (∀ w ∈ (pairAfter 20).workers, w.hasEntered = true ∨ w.hasExited = true) ∧
    Reachable pair 2 (pairAfter 28) ∧
    (pairAfter 28).workers[1]?.map (·.isFetchingLast) = some true ∧ (pairAfter 28).HasPassed 1 := by
  have hpassed : (pairAfter 20).HasPassed 1 := by decide +kernel
  obtain ⟨-, -, harrived, -⟩ :=
    last_fetches_after_all_arrived (by decide) (by decide) (reachable_pairAfter 20)
  have hfetching : (pairAfter 28).workers[1]?.map (·.isFetchingLast) = some true := by
    decide +kernel
  obtain ⟨w, hw, hlast⟩ := Option.map_eq_some_iff.mp hfetching
  obtain ⟨-, -, -, hfetches, -⟩ :=
    last_fetches_after_all_arrived (by decide) (by decide) (reachable_pairAfter 28)
  exact ⟨by decide, by decide, reachable_pairAfter 20, hpassed, by decide +kernel,
    harrived 1 hpassed, reachable_pairAfter 28, hfetching, hfetches 1 w hw hlast⟩

end Group

end Spectrometer
