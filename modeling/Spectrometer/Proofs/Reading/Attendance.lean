import Spectrometer.Proofs.Session.Action
import Spectrometer.Reading.Group

/-!
How often an activity may go to the barrier. An activity waits at most once and leaves at most once,
never waits after it has left or waited, and is over only when it has left; the `getFrame` request
for the last frame and its event come after the waiting. `Activity.Attends` states this phase by
phase; `Stage.orderly_act` shows it of all stages of a worker, whatever the devices answer.
-/

namespace Spectrometer

/-- What the barrier has seen of a worker: nothing yet, its waiting, its leaving. -/
inductive Attendance
  | due
  | past
  | out
  deriving DecidableEq, Repr

/-- Whether it is the fetch that all devices wait for. -/
def FrameEvent.isLast : FrameEvent → Bool
  | memoryFull => false
  | fetched _ _ _ last => last

/-- Whether only the last frame of the stage's reader is missing. -/
def Stage.isLast : Stage → Bool
  | polling r => r.isLast
  | _ => false

def Utterance.asksFrame : Utterance → Bool
  | call (.operate _ (.getFrame ..)) => true
  | _ => false

/-- What goes through a handle asks for no frame if no request of that kind does. -/
theorem Utterance.Through.asksFrame_eq_false {h : Handle} {kind : Request → Prop} {u : Utterance}
    (hu : u.Through h kind) (hkind : ∀ index length, ¬ kind (.getFrame index length)) :
    u.asksFrame = false := by
  unfold asksFrame
  split
  · exact absurd hu.2.2 (hkind _ _)
  · rfl

/-- Where only the last frame is missing, a frame is asked for past the barrier only. -/
def Utterance.Timely (last : Bool) (phase : Attendance) (u : Utterance) : Prop :=
  last = true → u.asksFrame = true → phase = .past

theorem Attempt.Through.timely {α : Type} {h : Handle} {kind : Request → Prop} {a : Attempt α}
    (ha : Attempt.Through h kind a) (hkind : ∀ index length, ¬ kind (.getFrame index length))
    (last : Bool) (phase : Attendance) :
    a.run.Obeys (Utterance.Timely last phase) fun _ => True :=
  ha.mono_allowed fun _ hu _ hasks =>
    absurd hasks (Bool.eq_false_iff.mp (hu.asksFrame_eq_false hkind))

namespace Activity

variable {α β : Type} {last : Bool}

/-- From a phase on the activity goes to the barrier in the right order, and its result suits the
phase that it ends in. If only the `last` frame is missing, the activity makes its `getFrame`
request past the barrier, as it does every event with the last flag set. -/
def Attends (last : Bool) (post : Attendance → α → Prop) : Activity α → Attendance → Prop
  | .done a, phase => post phase a
  | .ask (.say u) next, phase =>
    u.Timely last phase ∧ ∀ answer, Attends last post (next answer) phase
  | .ask (.observe e) next, phase =>
    (e.isLast = true → phase = .past) ∧ Attends last post (next ()) phase
  | .ask .readClock next, phase => ∀ now, Attends last post (next now) phase
  | .ask .wait next, phase => phase = .due ∧ ∀ release, Attends last post (next release) .past
  | .ask .leave next, phase => phase ≠ .out ∧ ∀ released, Attends last post (next released) .out

theorem attends_bind {post : Attendance → β → Prop} (x : Activity α) (f : α → Activity β)
    (phase : Attendance) :
    Attends last post (x >>= f) phase ↔
      Attends last (fun phase a => Attends last post (f a) phase) x phase := by
  induction x generalizing phase with
  | done a => rfl
  | ask deed next ih =>
    cases deed with
    | say u => exact and_congr_right fun _ => forall_congr' fun answer => ih answer phase
    | observe e => exact and_congr_right fun _ => ih () phase
    | readClock => exact forall_congr' fun now => ih now phase
    | wait => exact and_congr_right fun _ => forall_congr' fun release => ih release .past
    | leave => exact and_congr_right fun _ => forall_congr' fun released => ih released .out

theorem Attends.mono {post post' : Attendance → α → Prop} {x : Activity α} {phase : Attendance}
    (hx : Attends last post x phase) (himp : ∀ phase a, post phase a → post' phase a) :
    Attends last post' x phase := by
  induction x generalizing phase with
  | done a => exact himp phase a hx
  | ask deed next ih =>
    cases deed with
    | say u => exact ⟨hx.1, fun answer => ih answer (hx.2 answer)⟩
    | observe e => exact ⟨hx.1, ih () hx.2⟩
    | readClock => exact fun now => ih now (hx now)
    | wait => exact ⟨hx.1, fun release => ih release (hx.2 release)⟩
    | leave => exact ⟨hx.1, fun released => ih released (hx.2 released)⟩

/-- Talking with the driver does not go to the barrier. -/
theorem attends_say {post : Attendance → α → Prop} {d : Dialogue α} {phase : Attendance}
    (htimely : d.Obeys (Utterance.Timely last phase) fun _ => True) (hpost : ∀ a, post phase a) :
    Attends last post (say d) phase := by
  induction d with
  | done a => exact hpost a
  | ask u next ih => exact ⟨htimely.1, fun answer => ih answer (htimely.2 answer)⟩

/-- An activity that can fail goes on after a success only. -/
theorem attends_bind_except {post : Attendance → Except DeviceError β → Prop}
    (x : ExceptT DeviceError Activity α) (f : α → ExceptT DeviceError Activity β)
    (phase : Attendance) :
    Attends last post (x >>= f).run phase ↔ Attends last
      (fun phase result =>
        match result with
        | .ok a => Attends last post (f a).run phase
        | .error e => post phase (.error e)) x.run phase := by
  rw [ExceptT.run_bind, attends_bind]
  apply iff_of_eq
  congr 1
  funext phase result
  cases result <;> rfl

theorem attends_attempt {post : Attendance → Except DeviceError α → Prop} {a : Attempt α}
    {phase : Attendance} (htimely : a.run.Obeys (Utterance.Timely last phase) fun _ => True)
    (hpost : ∀ result, post phase result) : Attends last post (attempt a).run phase :=
  attends_say htimely hpost

theorem attends_readClock {post : Attendance → Except DeviceError β → Prop}
    (f : Instant → ExceptT DeviceError Activity β) (phase : Attendance) :
    Attends last post (liftM readClock >>= f).run phase ↔
      ∀ now, Attends last post (f now).run phase :=
  Iff.rfl

end Activity

/-- A reader that is due has frames to fetch before the last one or the last one itself; one that is
past has them all. -/
def Reader.Suits (required : Nat) (phase : Attendance) (r : Reader) : Prop :=
  r.required = required ∧
    ((phase = .due ∧ r.number < required) ∨ (phase = .past ∧ r.number = required))

/-- What a worker can come to in a phase: a stage that fits it, or its result once it is out. -/
def Stage.Suits (required : Nat) (phase : Attendance) : Stage ⊕ WorkerResult → Prop
  | .inl .opening | .inl (.starting _) => phase = .due
  | .inl (.polling r) => r.Suits required phase
  | .inl (.closing ..) | .inl (.leaving _) => phase ≠ .out
  | .inr _ => phase = .out

/-- The rest of a worker's stage keeps to the order of going to the barrier. -/
abbrev Stage.Orderly (stage : Stage) (required : Nat) (phase : Attendance)
    (rest : Activity (Stage ⊕ WorkerResult)) : Prop :=
  Activity.Attends stage.isLast (Stage.Suits required) rest phase

theorem Session.through_status (s : Session) :
    Attempt.Through s.handle (· = .getStatus) s.status :=
  s.handle.through_status rfl

theorem Session.through_isEmpty (s : Session) :
    Attempt.Through s.handle (· = .getStatus) s.frames.isEmpty :=
  s.frames.through_isEmpty rfl

namespace Reader

/-- The fetch of a frame once the reader may go on; `start` is known for the last one only. -/
def fetchNow (r : Reader) (start : Option Instant) : ExceptT DeviceError Activity Reader := do
  let before ← Activity.readClock
  let frame ← Activity.attempt (r.session.frames.get 0)
  let after ← Activity.readClock
  let stop ← if r.isLast then some <$> Activity.readClock else pure none
  Activity.observe (.fetched r.number (after - before) frame r.isLast)
  return r.record before after start stop frame

/-- Before its last frame, and before that one alone, a reader waits for all others. -/
theorem fetch_eq (r : Reader) :
    r.fetch = if r.isLast then do
        let _ ← Activity.wait
        let start ← Activity.readClock
        r.fetchNow (some start)
      else r.fetchNow none := by
  unfold fetch fetchNow
  by_cases hlast : r.isLast = true
  · rw [if_pos hlast, if_pos hlast]
    rfl
  · rw [if_neg hlast, if_neg hlast]
    rfl

/-- What a poll may end with: a reader that fits the phase, or a failure before leaving. -/
private def Polled (required : Nat) (phase : Attendance) : Except DeviceError Reader → Prop
  | .ok r => r.Suits required phase
  | .error _ => phase ≠ .out

private theorem attends_fetchNow {required : Nat} {r : Reader} {start : Option Instant}
    {phase : Attendance} (hphase : phase ≠ .out) (hpast : r.isLast = true → phase = .past)
    (hr : ({ r with number := r.number + 1 } : Reader).Suits required phase) :
    Activity.Attends r.isLast (Polled required) (r.fetchNow start).run phase := by
  unfold fetchNow
  rw [Activity.attends_readClock]
  intro before
  rw [Activity.attends_bind_except]
  refine Activity.attends_attempt (Interaction.obeys_of_forall fun u hlast _ => hpast hlast) ?_
  intro fetched
  cases fetched with
  | error e => exact hphase
  | ok frame =>
    apply (Activity.attends_readClock _ _).mpr
    intro after
    by_cases hlast : r.isLast = true
    · rw [if_pos hlast]
      exact fun stop => ⟨hpast, hr⟩
    · rw [if_neg hlast]
      exact ⟨hpast, hr⟩

theorem attends_fetch {required : Nat} {r : Reader} (hr : r.Suits required .due) :
    Activity.Attends r.isLast (Polled required) r.fetch.run .due := by
  obtain ⟨hrequired, ⟨_, hnumber⟩ | ⟨hphase, _⟩⟩ := hr
  · rw [fetch_eq]
    by_cases hlast : r.isLast = true
    · rw [if_pos hlast]
      have hnext : r.number + 1 = required := by simpa [isLast, hrequired] using hlast
      refine ⟨rfl, fun release now => attends_fetchNow nofun (fun _ => rfl) ?_⟩
      exact ⟨hrequired, Or.inr ⟨rfl, hnext⟩⟩
    · rw [if_neg hlast]
      have hnext : r.number + 1 ≠ required := by simpa [isLast, hrequired] using hlast
      refine attends_fetchNow nofun (fun h => absurd h hlast) ?_
      exact ⟨hrequired, Or.inl ⟨rfl, show r.number + 1 < required by omega⟩⟩
  · cases hphase

theorem through_restart (s : Session) : Attempt.Through s.handle
    (fun r => r = .clearMemory ∨ r = .trigger) (restart s) :=
  .bind (s.frames.through_clear (Or.inl rfl)) fun _ =>
    (Session.Use.fire.through_requests s).weaken fun _ => Or.inr

theorem attends_restart {α : Type} {last : Bool} {post : Attendance → Except DeviceError α → Prop}
    (s : Session) (next : Unit → ExceptT DeviceError Activity α) {phase : Attendance}
    (hnext : Activity.Attends last post (next ()).run phase)
    (herror : ∀ e, post phase (.error e)) :
    Activity.Attends last post (Activity.attempt (restart s) >>= next).run phase := by
  rw [Activity.attends_bind_except]
  refine Activity.attends_attempt ((through_restart s).timely (by simp) _ _) ?_
  intro result
  cases result with
  | ok _ => exact hnext
  | error e => exact herror e

theorem attends_poll {required : Nat} {r : Reader} (hr : r.Suits required .due) :
    Activity.Attends r.isLast (Polled required) r.poll.run .due := by
  unfold poll
  rw [Activity.attends_bind_except]
  refine Activity.attends_attempt (r.session.through_status.timely nofun _ _) ?_
  intro status
  cases status with
  | error e => exact nofun
  | ok flags =>
    by_cases hfull : flags.memoryFull = true
    · simp only [if_pos hfull]
      exact ⟨nofun, attends_restart r.session _ hr nofun⟩
    · simp only [if_neg hfull]
      rw [Activity.attends_bind_except]
      refine Activity.attends_attempt (r.session.through_isEmpty.timely nofun _ _) ?_
      intro result
      cases result with
      | error e => exact nofun
      | ok empty =>
        cases empty with
        | true => exact hr
        | false => exact attends_fetch hr

end Reader

namespace Stage

/-- A stage that is not at its last frame asks for frames as it likes. -/
theorem timely_of_not_last {α : Type} (d : Dialogue α) (phase : Attendance) :
    d.Obeys (Utterance.Timely false phase) fun _ => True :=
  Interaction.obeys_of_forall fun _ => nofun

/-- Every stage that fits a phase goes to the barrier in order and comes to what fits again. -/
theorem orderly_act (plan : ReadingPlan) (device : Nat) {phase : Attendance} {stage : Stage}
    (hstage : Suits plan.required phase (.inl stage)) :
    stage.Orderly plan.required phase (stage.act plan device) := by
  cases stage with
  | opening =>
    subst hstage
    unfold act
    rw [Orderly, Activity.attends_bind]
    refine Activity.attends_say (timely_of_not_last _ _) ?_
    intro result
    cases result with
    | ok s => exact rfl
    | error e => exact nofun
  | starting s =>
    subst hstage
    unfold act
    cases WorkerReport.shortage? plan.room plan.required with
    | some lack => exact nofun
    | none =>
      by_cases hnone : plan.required = 0
      · simp only [if_pos hnone]
        exact nofun
      · simp only [if_neg hnone]
        rw [Orderly, Activity.attends_bind]
        refine Activity.attends_say (timely_of_not_last _ _) ?_
        intro started
        cases started with
        | ok _ => exact ⟨rfl, Or.inl ⟨rfl, Nat.pos_of_ne_zero hnone⟩⟩
        | error e => exact nofun
  | polling r =>
    obtain ⟨hrequired, ⟨rfl, hnumber⟩ | ⟨rfl, hnumber⟩⟩ := hstage
    · have hpoll : r.number < r.required := by rw [hrequired]; exact hnumber
      simp only [act]
      rw [if_pos hpoll, Orderly, Activity.attends_bind]
      refine (Reader.attends_poll ⟨hrequired, Or.inl ⟨rfl, hnumber⟩⟩).mono ?_
      intro phase polled hpolled
      cases polled with
      | ok next => exact hpolled
      | error e => exact hpolled
    · have hover : ¬ r.number < r.required := by omega
      simp only [act]
      rw [if_neg hover]
      exact nofun
  | closing s result =>
    unfold act
    rw [Orderly, Activity.attends_bind]
    exact Activity.attends_say (timely_of_not_last _ _) fun _ => hstage
  | leaving result => exact ⟨hstage, fun _ => rfl⟩

end Stage

end Spectrometer
