import Spectrometer.Reading.Reader

/-!
Reading several devices at once. Each device has a worker that opens a session, reads, gives the
session up and counts down at the barrier on its way out, so that a worker which fails does not hold
the others. `Group.step` lets one worker do its next deed; every order of such steps is a possible
course of the reading, and `Group.run` follows one of them.
-/

namespace Spectrometer

inductive ReadingError
  | device (e : DeviceError)
  | outOfMemory (s : Shortage)
  deriving DecidableEq, Repr

/-- What the reading is short of, if that is why it fails. -/
def ReadingError.shortage? : ReadingError → Option Shortage
  | device _ => none
  | outOfMemory s => some s

abbrev WorkerResult := Except ReadingError WorkerReport

/-- What all workers of a reading have in common. -/
structure ReadingPlan where
  /-- A connected session with the device of that number. -/
  openDevice : Nat → Attempt Session
  required : Nat
  /-- The most bytes that the system has room for in the record of one worker. -/
  room : Nat

inductive Stage
  | opening
  | starting (s : Session)
  | polling (r : Reader)
  | closing (s : Session) (result : WorkerResult)
  | leaving (result : WorkerResult)

namespace Stage

/-- The stage after an attempt on a session: a failure closes the session. -/
def afterAttempt (s : Session) : Except DeviceError Stage → Stage ⊕ WorkerResult
  | .ok stage => .inl stage
  | .error e => .inl (.closing s (.error (.device e)))

/-- What the worker of `device` does in a stage, and the stage or the result it comes to. Whether
there is memory for the record is seen once the session is open, before the device is touched. -/
def act (plan : ReadingPlan) (device : Nat) : Stage → Activity (Stage ⊕ WorkerResult)
  | opening => do
    match ← Activity.say (plan.openDevice device).run with
    | .ok s => return .inl (starting s)
    | .error e => return .inl (leaving (.error (.device e)))
  | starting s =>
    match WorkerReport.shortage? plan.room plan.required with
    | some lack => return .inl (closing s (.error (.outOfMemory lack)))
    | none =>
      if plan.required = 0 then
        return .inl (closing s (.ok (.new device)))
      else do
        let started ← Activity.say (Reader.restart s).run
        return afterAttempt s (started.map fun _ => polling ⟨s, plan.required, 0, .new device⟩)
  | polling r =>
    if r.number < r.required then do
      let polled ← r.poll.run
      return afterAttempt r.session (polled.map polling)
    else
      return .inl (closing r.session (.ok r.report))
  | closing s result => do
    Activity.say s.drop
    return .inl (leaving result)
  | leaving result => do
    let _ ← Activity.leave
    return .inr result

end Stage

inductive Doing
  /-- In the given stage, with the given rest to do. -/
  | busy (stage : Stage) (rest : Activity (Stage ⊕ WorkerResult))
  /-- At the barrier, which is not released. -/
  | waiting (stage : Stage) (resume : Instant → Activity (Stage ⊕ WorkerResult))
  | gone (result : WorkerResult)

/-- The result of `wait` for a worker. -/
structure Passage where
  /-- Whether it was this worker who released the barrier. -/
  leader : Bool
  releasedAt : Instant
  deriving DecidableEq, Repr

structure Worker where
  doing : Doing
  /-- Set once the worker has waited at the barrier. -/
  passage : Option Passage
  /-- Whether counting down on the way out released the barrier, once the worker has done so. -/
  exit : Option Bool

namespace Worker

def new (plan : ReadingPlan) (device : Nat) : Worker :=
  ⟨.busy .opening (Stage.opening.act plan device), none, none⟩

def go (w : Worker) (stage : Stage) (rest : Activity (Stage ⊕ WorkerResult)) : Worker :=
  { w with doing := .busy stage rest }

def isOpening (w : Worker) : Bool :=
  match w.doing with
  | .busy .opening _ => true
  | _ => false

/-- Whether the worker can do something while the barrier is in state `b`. -/
def canStep (w : Worker) (b : Barrier) : Bool :=
  match w.doing with
  | .busy .. => true
  | .waiting .. => b.releasedAt.isSome
  | .gone _ => false

def result? (w : Worker) : Option WorkerResult :=
  match w.doing with
  | .gone result => some result
  | _ => none

end Worker

/-- Workers around a barrier, and their events so far, latest first. -/
structure Group where
  barrier : Barrier
  workers : List Worker
  events : List (Nat × FrameEvent)

namespace Group

/-- The workers for so many devices. With no frame required the barrier has no participants. -/
def new (plan : ReadingPlan) (devices : Nat) (now : Instant) : Group :=
  ⟨.new (if plan.required > 0 then devices else 0) now,
    (List.range devices).map (Worker.new plan), []⟩

def setWorker (g : Group) (i : Nat) (w : Worker) : Group :=
  { g with workers := g.workers.set i w }

/-- Lets worker `i` do the deed it is at. A deed that is a call is one exchange with the driver; all
others involve the group alone. A worker that is gone, or waits in vain, does nothing. -/
def step (plan : ReadingPlan) (g : Group) (i : Nat) (now : Instant) : Dialogue Group :=
  match g.workers[i]? with
  | none => return g
  | some w =>
    match w.doing with
    | .gone _ => return g
    | .waiting stage resume =>
      match g.barrier.releasedAt with
      | none => return g
      | some t =>
        return g.setWorker i { w.go stage (resume t) with passage := some ⟨false, t⟩ }
    | .busy _ (.done (.inl stage)) => return g.setWorker i (w.go stage (stage.act plan i))
    | .busy _ (.done (.inr result)) => return g.setWorker i { w with doing := .gone result }
    | .busy stage (.ask (.say u) next) =>
      .ask u fun a => .done (g.setWorker i (w.go stage (next a)))
    | .busy stage (.ask (.observe e) next) =>
      return { g.setWorker i (w.go stage (next ())) with events := (i, e) :: g.events }
    | .busy stage (.ask .readClock next) => return g.setWorker i (w.go stage (next now))
    | .busy stage (.ask .wait next) =>
      let (barrier, leader) := g.barrier.arrive now
      let w : Worker :=
        match barrier.releasedAt with
        | none => { w with doing := .waiting stage next }
        | some t => { w.go stage (next t) with passage := some ⟨leader, t⟩ }
      return { g.setWorker i w with barrier }
    | .busy stage (.ask .leave next) =>
      let (barrier, released) := g.barrier.arrive now
      let left := { w.go stage (next released) with exit := some released }
      return { g.setWorker i left with barrier }

/-- The worker to go on with: one that still opens its device, in the order of the devices, or else
the next one after `last` that can do something. -/
def choose? (g : Group) (last : Nat) : Option Nat :=
  let ready (w : Worker) := w.canStep g.barrier
  (g.workers.findIdx? (·.isOpening)).or <|
    (((g.workers.drop (last + 1)).findIdx? ready).map (· + (last + 1))).or <|
      g.workers.findIdx? ready

/-- Goes on for at most `fuel` steps; a step is timed by its number, the first one being `tick`. -/
def run (plan : ReadingPlan) (clock : Nat → Instant) : (fuel tick last : Nat) → Group →
    Dialogue Group
  | 0, _, _, g => return g
  | fuel + 1, tick, last, g =>
    match g.choose? last with
    | none => return g
    | some i => do run plan clock fuel (tick + 1) i (← g.step plan i (clock tick))

/-- The results of all workers, once they are all gone. -/
def results? (g : Group) : Option (List WorkerResult) :=
  g.workers.mapM (·.result?)

/-- What the first worker that ran short of memory was short of. -/
def shortage? (results : List WorkerResult) : Option Shortage :=
  results.findSome? fun
    | .ok _ => none
    | .error e => e.shortage?

/-- The reports of all devices. A shortage of memory ends the whole reading, whatever else happened;
failing that, it ends with the failure of the first device that failed. -/
def conclude (results : List WorkerResult) : Except ReadingError SimultaneousReport :=
  match shortage? results with
  | some lack => throw (.outOfMemory lack)
  | none => return ⟨← results.mapM id⟩

end Group

/-- Reads the wanted frames from so many devices. The result comes with what was observed; there is
none if the reading is not over after `fuel` steps. -/
def readFrames (plan : ReadingPlan) (devices : Nat) (clock : Nat → Instant) (fuel : Nat) :
    Dialogue (Option (Except ReadingError SimultaneousReport) × List (Nat × FrameEvent)) := do
  let g ← (Group.new plan devices (clock 0)).run plan clock fuel 1 devices
  return (g.results?.map Group.conclude, g.events.reverse)

end Spectrometer
