import Spectrometer.Command.Simultaneous
import Spectrometer.Proofs.Reading.Attendance
import Spectrometer.Proofs.Twin.Session

/-!
Workers under two contexts. A worker that reads a device in a session of its own does the same deeds
in whatever surroundings it does them: the clock, the barrier and the context that the driver gave
it may differ. What it reports and what it tells on the way differ in times, and in the number that
the device has in the reading.
-/

namespace Spectrometer

open Interaction (Pairing Twin)

/-- The event without the time that the fetch took. -/
def FrameEvent.untimed : FrameEvent → FrameEvent
  | memoryFull => memoryFull
  | fetched number _ frame last => fetched number 0 frame last

/-- A report in which all times are zero. -/
def WorkerReport.untimed (r : WorkerReport) : WorkerReport :=
  { r with
    latencies := r.latencies.map fun _ => 0
    start := r.start.map fun _ => 0
    stop := r.stop.map fun _ => 0 }

/-- The two fail in the same way, or succeed with values that go together. -/
inductive Together {ε α α' : Type} (R : α → α' → Prop) : Except ε α → Except ε α' → Prop
  | ok {a : α} {a' : α'} (h : R a a') : Together R (.ok a) (.ok a')
  | error (e : ε) : Together R (.error e) (.error e)

/-- What two workers can do at the same time. What surrounds them may differ in its answers. -/
inductive Deed.Pairs (serial : String) : Pairing (Context × Context) Deed Deed.Answer
  | say {contexts : Context × Context} {u u' : Utterance}
    {fits : u.Answer → u'.Answer → Context × Context → Prop}
    (hu : Utterance.Pairs serial contexts u u' fits) : Pairs serial contexts (.say u) (.say u') fits
  | observe {contexts : Context × Context} {e e' : FrameEvent} (he : e.untimed = e'.untimed) :
    Pairs serial contexts (.observe e) (.observe e') fun _ _ after => after = contexts
  | readClock {contexts : Context × Context} :
    Pairs serial contexts .readClock .readClock fun _ _ after => after = contexts
  | wait {contexts : Context × Context} :
    Pairs serial contexts .wait .wait fun _ _ after => after = contexts
  | leave {contexts : Context × Context} :
    Pairs serial contexts .leave .leave fun _ _ after => after = contexts

namespace Activity

variable {α α' β β' : Type} {serial : String} {contexts : Context × Context}

theorem twin_say {post : Context × Context → α → α' → Prop} {d : Dialogue α} {d' : Dialogue α'}
    (hd : Twin (Utterance.Pairs serial) post contexts d d') :
    Twin (Deed.Pairs serial) post contexts (say d) (say d') :=
  hd.rephrase fun _ _ _ _ hpairs => .say hpairs

/-- Activities that come to the same under two contexts, and leave them. -/
def Alike (serial : String) (contexts : Context × Context) (R : α → α' → Prop)
    (x : ExceptT DeviceError Activity α) (x' : ExceptT DeviceError Activity α') : Prop :=
  Twin (Deed.Pairs serial) (fun after r r' => after = contexts ∧ Together R r r') contexts x.run
    x'.run

namespace Alike

theorem pure {R : α → α' → Prop} {a : α} {a' : α'} (h : R a a') :
    Alike serial contexts R (Pure.pure a) (Pure.pure a') := .done ⟨rfl, .ok h⟩

theorem bind {R : α → α' → Prop} {R' : β → β' → Prop} {x : ExceptT DeviceError Activity α}
    {x' : ExceptT DeviceError Activity α'} {f : α → ExceptT DeviceError Activity β}
    {f' : α' → ExceptT DeviceError Activity β'} (hx : Alike serial contexts R x x')
    (hf : ∀ a a', R a a' → Alike serial contexts R' (f a) (f' a')) :
    Alike serial contexts R' (x >>= f) (x' >>= f') := by
  apply Twin.bind hx
  rintro _ _ _ ⟨rfl, hresult⟩
  cases hresult with
  | ok h => exact hf _ _ h
  | error e => exact .done ⟨rfl, .error e⟩

theorem attempt {a a' : Attempt α} (ha : Attempt.Alike serial contexts a a') :
    Alike serial contexts Eq (Activity.attempt a) (Activity.attempt a') := by
  apply (twin_say ha).mono
  rintro after result _ ⟨hafter, rfl⟩
  refine ⟨hafter, ?_⟩
  cases result with
  | ok x => exact .ok rfl
  | error e => exact .error e

theorem readClock : Alike serial contexts (fun _ _ => True) (liftM Activity.readClock)
    (liftM Activity.readClock) :=
  .ask .readClock fun _ _ _ hafter => .done ⟨hafter, .ok trivial⟩

theorem someClock : Alike serial contexts (fun t t' => t.isSome = t'.isSome)
    (some <$> liftM Activity.readClock) (some <$> liftM Activity.readClock) :=
  .ask .readClock fun _ _ _ hafter => .done ⟨hafter, .ok rfl⟩

theorem wait : Alike serial contexts (fun _ _ => True) (liftM Activity.wait)
    (liftM Activity.wait) :=
  .ask .wait fun _ _ _ hafter => .done ⟨hafter, .ok trivial⟩

theorem observe {e e' : FrameEvent} (he : e.untimed = e'.untimed) :
    Alike serial contexts (fun _ _ => True) (liftM (Activity.observe e))
      (liftM (Activity.observe e')) :=
  .ask (.observe he) fun _ _ _ hafter => .done ⟨hafter, .ok trivial⟩

end Alike

end Activity

/-- The reports differ in times, and the first one is about the device of that number. -/
def WorkerReport.Resembles (device : Nat) (r r' : WorkerReport) : Prop :=
  r.untimed = { r'.untimed with device }

namespace WorkerReport.Resembles

variable {device : Nat} {r r' : WorkerReport}

theorem device_eq (h : r.Resembles device r') : r.device = device :=
  congrArg WorkerReport.device h

theorem isSome_start (h : r.Resembles device r') : r.start.isSome = r'.start.isSome := by
  simpa [WorkerReport.untimed] using congrArg (·.start.isSome) h

theorem isSome_stop (h : r.Resembles device r') : r.stop.isSome = r'.stop.isSome := by
  simpa [WorkerReport.untimed] using congrArg (·.stop.isSome) h

end WorkerReport.Resembles

/-- Readers that have come equally far in alike sessions. -/
inductive Reader.Alike (serial : String) (device : Nat) (contexts : Context × Context) :
    Reader → Reader → Prop
  | mk {s s' : Session} (hs : s.Alike serial contexts s') (required number : Nat)
      {report report' : WorkerReport} (hreport : report.Resembles device report') :
    Alike serial device contexts ⟨s, required, number, report⟩ ⟨s', required, number, report'⟩

variable {serial : String} {device : Nat} {contexts : Context × Context}

namespace Reader

variable {r r' : Reader}

theorem Alike.isLast (h : r.Alike serial device contexts r') : r.isLast = r'.isLast := by
  cases h
  rfl

theorem Alike.number (h : r.Alike serial device contexts r') : r.number = r'.number := by
  cases h
  rfl

/-- One more fetch, whenever it was made, leaves the readers equally far. -/
theorem Alike.record (h : r.Alike serial device contexts r') (before before' after after' : Instant)
    {start start' stop stop' : Option Instant} (hstart : start.isSome = start'.isSome)
    (hstop : stop.isSome = stop'.isSome) (frame : Frame) :
    (r.record before after start stop frame).Alike serial device contexts
      (r'.record before' after' start' stop' frame) := by
  have hlast := h.isLast
  have hmoment (t t' u u' : Option Instant) (hsome : t.isSome = t'.isSome)
      (hold : u.map (fun _ => 0) = u'.map fun _ => 0) :
      (t.or u).map (fun _ => 0) = (t'.or u').map fun _ => 0 := by
    cases t <;> cases t' <;> first | exact hold | rfl | cases hsome
  obtain ⟨hs, required, number, hreport⟩ := h
  refine .mk hs required (number + 1) ?_
  unfold WorkerReport.Resembles WorkerReport.untimed at hreport ⊢
  simp only [WorkerReport.mk.injEq] at hreport ⊢
  obtain ⟨hdevice, hlatencies, hstarts, hstops, hframe⟩ := hreport
  refine ⟨hdevice, ?_, hmoment _ _ _ _ hstart hstarts, hmoment _ _ _ _ hstop hstops, ?_⟩
  · rw [List.map_cons, List.map_cons, hlatencies]
  · rw [hlast, hframe]

theorem Alike.fetchNow (h : r.Alike serial device contexts r') {start start' : Option Instant}
    (hstart : start.isSome = start'.isSome) :
    Activity.Alike serial contexts (Reader.Alike serial device contexts) (r.fetchNow start)
      (r'.fetchNow start') := by
  have hget : Attempt.Alike serial contexts (r.session.frames.get 0) (r'.session.frames.get 0) := by
    obtain ⟨hs, -⟩ := h
    cases hs
    exact Memory.alike_get 0
  have hlast := h.isLast
  unfold Reader.fetchNow
  refine Activity.Alike.readClock.bind fun before before' _ => ?_
  refine (Activity.Alike.attempt hget).bind fun frame _ hframe => ?_
  subst hframe
  refine Activity.Alike.readClock.bind fun after after' _ => ?_
  have htold : (FrameEvent.fetched r.number (after - before) frame r.isLast).untimed =
      (FrameEvent.fetched r'.number (after' - before') frame r'.isLast).untimed := by
    rw [FrameEvent.untimed, FrameEvent.untimed, h.number, hlast]
  have hrest {stop stop' : Option Instant} (hstop : stop.isSome = stop'.isSome) :
      Activity.Alike serial contexts (Reader.Alike serial device contexts)
        (do
          Activity.observe (.fetched r.number (after - before) frame r.isLast)
          return r.record before after start stop frame)
        (do
          Activity.observe (.fetched r'.number (after' - before') frame r'.isLast)
          return r'.record before' after' start' stop' frame) :=
    (Activity.Alike.observe htold).bind fun _ _ _ =>
      Activity.Alike.pure (h.record before before' after after' hstart hstop frame)
  by_cases hr : r.isLast = true
  · have hr' : r'.isLast = true := hlast ▸ hr
    rw [if_pos hr, if_pos hr']
    exact Activity.Alike.someClock.bind fun _ _ hstop => hrest hstop
  · have hr' : ¬ r'.isLast = true := hlast ▸ hr
    rw [if_neg hr, if_neg hr']
    exact hrest rfl

theorem Alike.fetch (h : r.Alike serial device contexts r') :
    Activity.Alike serial contexts (Reader.Alike serial device contexts) r.fetch r'.fetch := by
  have hlast := h.isLast
  rw [fetch_eq, fetch_eq]
  by_cases hr : r.isLast = true
  · have hr' : r'.isLast = true := hlast ▸ hr
    rw [if_pos hr, if_pos hr']
    exact Activity.Alike.wait.bind fun _ _ _ => Activity.Alike.readClock.bind fun _ _ _ =>
      h.fetchNow rfl
  · have hr' : ¬ r'.isLast = true := hlast ▸ hr
    rw [if_neg hr, if_neg hr']
    exact h.fetchNow rfl

theorem alike_restart {s s' : Session} (hs : s.Alike serial contexts s') :
    Attempt.Alike serial contexts (restart s) (restart s') := by
  refine Attempt.Alike.bind ?_ fun _ => hs.fire
  cases hs
  exact Memory.alike_clear

theorem Alike.poll (h : r.Alike serial device contexts r') :
    Activity.Alike serial contexts (Reader.Alike serial device contexts) r.poll r'.poll := by
  have hs : r.session.Alike serial contexts r'.session := by
    cases h
    assumption
  have hempty : Attempt.Alike serial contexts r.session.frames.isEmpty
      r'.session.frames.isEmpty := by
    obtain ⟨hs, -⟩ := h
    cases hs
    exact Memory.alike_isEmpty
  unfold Reader.poll
  refine (Activity.Alike.attempt hs.status).bind fun flags _ hflags => ?_
  subst hflags
  by_cases hfull : flags.memoryFull = true
  · rw [if_pos hfull, if_pos hfull]
    refine (Activity.Alike.observe rfl).bind fun _ _ _ => ?_
    exact (Activity.Alike.attempt (alike_restart hs)).bind fun _ _ _ => .pure h
  · rw [if_neg hfull, if_neg hfull]
    refine (Activity.Alike.attempt hempty).bind fun empty _ hsame => ?_
    subst hsame
    cases empty with
    | true => exact .pure h
    | false => exact h.fetch

end Reader

/-- Openers that come to alike sessions, or fail in the same way. -/
abbrev Attempt.OpenAlike (serial : String) (a a' : Attempt Session) : Prop :=
  Twin (Utterance.Pairs serial) (fun after => Together (Session.Alike serial after)) (.null, .null)
    a.run a'.run

/-- Stages at which two workers have come equally far; nobody has a context before the opening. -/
inductive Stage.Alike (serial : String) (device : Nat) :
    Context × Context → Stage ⊕ WorkerResult → Stage ⊕ WorkerResult → Prop
  | opening : Alike serial device (.null, .null) (.inl .opening) (.inl .opening)
  | starting {contexts : Context × Context} {s s' : Session} (hs : s.Alike serial contexts s') :
    Alike serial device contexts (.inl (.starting s)) (.inl (.starting s'))
  | polling {contexts : Context × Context} {r r' : Reader}
    (hr : r.Alike serial device contexts r') :
    Alike serial device contexts (.inl (.polling r)) (.inl (.polling r'))
  | closing {contexts : Context × Context} {s s' : Session} {result result' : WorkerResult}
    (hs : s.Alike serial contexts s')
    (hresult : Together (WorkerReport.Resembles device) result result') :
    Alike serial device contexts (.inl (.closing s result)) (.inl (.closing s' result'))
  | leaving {contexts : Context × Context} {result result' : WorkerResult}
    (hresult : Together (WorkerReport.Resembles device) result result') :
    Alike serial device contexts (.inl (.leaving result)) (.inl (.leaving result'))
  | ended {contexts : Context × Context} {result result' : WorkerResult}
    (hresult : Together (WorkerReport.Resembles device) result result') :
    Alike serial device contexts (.inr result) (.inr result')

/-- From one stage on, two workers do the same until they come to the next one. -/
theorem Stage.Alike.act {plan plan' : ReadingPlan} (hrequired : plan.required = plan'.required)
    (hroom : plan.room = plan'.room)
    (hopen : Attempt.OpenAlike serial (plan.openDevice device) (plan'.openDevice 0))
    {stage stage' : Stage} (h : Stage.Alike serial device contexts (.inl stage) (.inl stage')) :
    Twin (Deed.Pairs serial) (Stage.Alike serial device) contexts (stage.act plan device)
      (stage'.act plan' 0) := by
  cases h with
  | opening =>
    apply Twin.bind (Activity.twin_say hopen)
    intro after _ _ hopened
    cases hopened with
    | ok hs => exact .done (.starting hs)
    | error e => exact .done (.leaving (.error _))
  | starting hs =>
    unfold Stage.act
    rw [← hrequired, ← hroom]
    cases WorkerReport.shortage? plan.room plan.required with
    | some lack => exact .done (.closing hs (.error _))
    | none =>
      dsimp only
      by_cases hnone : plan.required = 0
      · rw [if_pos hnone, if_pos hnone]
        exact .done (.closing hs (.ok rfl))
      · rw [if_neg hnone, if_neg hnone]
        apply Twin.bind (Activity.twin_say (Reader.alike_restart hs))
        rintro _ started _ ⟨rfl, rfl⟩
        cases started with
        | ok _ => exact .done (.polling (.mk hs _ _ rfl))
        | error e => exact .done (.closing hs (.error _))
  | polling hr =>
    have hs := hr
    obtain ⟨hs, required, number, hreport⟩ := hs
    unfold Stage.act
    dsimp only
    by_cases hnumber : number < required
    · rw [if_pos hnumber, if_pos hnumber]
      apply Twin.bind hr.poll
      rintro _ _ _ ⟨rfl, hpolled⟩
      cases hpolled with
      | ok hr' => exact .done (.polling hr')
      | error e => exact .done (.closing hs (.error _))
    · rw [if_neg hnumber, if_neg hnumber]
      exact .done (.closing hs (.ok hreport))
  | closing hs hresult =>
    apply Twin.bind (Activity.twin_say hs.drop)
    intro after _ _ _
    exact .done (.leaving hresult)
  | leaving hresult => exact .ask .leave fun _ _ _ _ => .done (.ended hresult)

/-- One step of preparing a session: what is done with it, and whether the session is given up if
that fails. -/
structure Preparation where
  action : Session.Action
  essential : Bool

/-- The session after one step of its preparation. -/
def Preparation.perform (s : Session) (p : Preparation) : Attempt Session :=
  if p.essential then Command.orDrop (p.action.perform s)
  else do
    let (s, _) ← p.action.perform s
    return s

/-- A session for the device of that serial number, prepared step by step. -/
def prepare (serial : String) (steps : List Preparation) : Attempt Session :=
  steps.foldlM Preparation.perform (.new (some serial))

theorem Preparation.twin_perform {s s' : Session} (hs : s.Alike serial contexts s')
    (p : Preparation) : Twin (Utterance.Pairs serial)
      (fun after => Together (Session.Alike serial after)) contexts (p.perform s).run
      (p.perform s').run := by
  unfold Preparation.perform
  cases p.essential with
  | true =>
    apply Twin.lift_bind (hs.perform p.action)
    rintro after ⟨t, result⟩ ⟨t', _⟩ ⟨rfl, ht⟩
    cases result with
    | ok _ => exact .done (.ok ht)
    | error e => exact Twin.lift_bind ht.drop fun _ _ _ _ => .done (.error e)
  | false =>
    apply Twin.lift_bind (hs.perform p.action)
    rintro after ⟨t, result⟩ ⟨t', _⟩ ⟨rfl, ht⟩
    exact .done (.ok ht)

/-- A session prepared by fixed steps is prepared alike everywhere. -/
theorem openAlike_prepare (serial : String) (steps : List Preparation) :
    Attempt.OpenAlike serial (prepare serial steps) (prepare serial steps) := by
  have hsteps {s s' : Session} {contexts : Context × Context} (hs : s.Alike serial contexts s') :
      Twin (Utterance.Pairs serial) (fun after => Together (Session.Alike serial after)) contexts
        (steps.foldlM Preparation.perform s).run (steps.foldlM Preparation.perform s').run := by
    induction steps generalizing s s' contexts with
    | nil => exact .done (.ok hs)
    | cons p rest ih =>
      rw [List.foldlM_cons, List.foldlM_cons]
      apply Twin.bind (p.twin_perform hs)
      intro after _ _ hnext
      cases hnext with
      | ok ht => exact ih ht
      | error e => exact .done (.error e)
  exact hsteps (.mk ..)

end Spectrometer
