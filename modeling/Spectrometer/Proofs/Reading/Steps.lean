import Spectrometer.Command.Simultaneous
import Spectrometer.Proofs.Reading.Alone
import Spectrometer.Proofs.Reading.Attendance
import Spectrometer.Proofs.Session.Action

/-!
How many steps a reading takes. An interaction that asks at most so many questions, whatever the
answers are, takes a lone worker at most so many steps; what a worker does in each of its stages is
bounded in this way.
-/

namespace Spectrometer

namespace Interaction

variable {Q : Type} {A : Q → Type} {α β : Type}

/-- At most so many questions are asked, whatever the answers are. -/
inductive Within : Interaction Q A α → Nat → Prop
  | done (a : α) (n : Nat) : Within (.done a) n
  | ask {q : Q} {next : A q → Interaction Q A α} {n : Nat}
    (hnext : ∀ answer, Within (next answer) n) : Within (.ask q next) (n + 1)

theorem Within.mono {x : Interaction Q A α} {n m : Nat} (hx : x.Within n) (hle : n ≤ m) :
    x.Within m := by
  induction hx generalizing m with
  | done a n => exact .done a m
  | ask _ ih =>
    obtain ⟨m, rfl⟩ := Nat.exists_eq_add_of_lt hle
    exact .ask fun answer => ih answer (by omega)

theorem Within.bind {x : Interaction Q A α} {f : α → Interaction Q A β} {n m : Nat}
    (hx : x.Within n) (hf : ∀ a, (f a).Within m) : (x >>= f).Within (n + m) := by
  induction hx with
  | done a n => exact (hf a).mono (Nat.le_add_left m n)
  | @ask q next n _ ih =>
    rw [Nat.succ_add_eq_add_succ]
    exact .ask ih

theorem within_ask_done (q : Q) : (Interaction.ask q .done : Interaction Q A (A q)).Within 1 :=
  .ask fun answer => .done answer 0

/-- An interaction that can fail goes on after a success only. -/
theorem Within.attempt_bind {ε : Type} {x : ExceptT ε (Interaction Q A) α}
    {f : α → ExceptT ε (Interaction Q A) β} {n m : Nat} (hx : x.run.Within n)
    (hf : ∀ a, (f a).run.Within m) : (x >>= f).run.Within (n + m) := by
  rw [ExceptT.run_bind]
  refine hx.bind fun result => ?_
  cases result with
  | ok a => exact hf a
  | error e => exact .done _ m

theorem Within.lift {ε : Type} {x : Interaction Q A α} {n : Nat} (hx : x.Within n) :
    (ExceptT.lift x : ExceptT ε (Interaction Q A) α).run.Within n := by
  rw [ExceptT.run_lift, map_eq_pure_bind]
  exact hx.bind fun a => .done _ 0

theorem Within.rephrase {Q' : Type} {A' : Q' → Type} {x : Interaction Q A α} {n : Nat}
    (hx : x.Within n) (words : Q → Q') (read : (q : Q) → A' (words q) → A q) :
    (x.rephrase words read).Within n := by
  induction hx with
  | done a n => exact .done a n
  | ask _ ih => exact .ask fun answer => ih _

end Interaction

open Interaction (Within)

namespace Handle

variable (h : Handle)

theorem within_request (r : Request) : (h.request r).run.Within 1 := by
  unfold request
  split
  · exact .ask fun answer => .done _ 0
  · exact .done _ 1

theorem within_disconnect : h.disconnect.Within 1 := by
  unfold disconnect
  split
  · exact .ask fun answer => .done _ 0
  · exact .done _ 1

theorem within_drop : h.drop.Within 2 := by
  unfold drop
  split
  · refine h.within_disconnect.bind (m := 1) fun outcome => ?_
    split
    · exact .done () 1
    · exact Interaction.within_ask_done _
  · exact .done () 2

theorem within_rawFrame (index : UInt16) : (h.rawFrame index).run.Within 2 := by
  unfold rawFrame
  split
  · refine Within.attempt_bind (n := 1) (m := 1) ?_ fun size => ?_
    · exact Within.lift (.ask fun answer => .done _ 0)
    · exact Within.attempt_bind (m := 0) (h.within_request _) fun samples => .done _ 0
  · exact .done _ 2

end Handle

namespace Session

variable (s : Session)

theorem within_connect : s.connect.Within 5 := by
  have hload (h : Handle) : (loadSettings h).run.Within 2 :=
    Within.attempt_bind (m := 1) (h.within_request .getAcquisition) fun _ =>
      Within.attempt_bind (m := 0) (h.within_request .getFormat) fun _ => .done _ 0
  unfold connect
  refine Within.bind (n := 1) (m := 4) (.ask fun _ => .done _ 0) ?_
  rintro ⟨h, _ | _⟩
  · exact .done _ 4
  · refine (hload h).bind (m := 2) fun settings => ?_
    cases settings with
    | ok _ => exact .done _ 2
    | error e =>
      refine h.within_disconnect.bind (m := 1) ?_
      rintro ⟨h, _ | _⟩
      · exact .ask fun _ => .done _ 0
      · exact .done _ 1

theorem within_applyAcquisition (p : Acquisition) : (s.applyAcquisition p).Within 1 := by
  unfold applyAcquisition
  dsimp only
  split
  · exact .done _ 1
  · split
    · exact .done _ 1
    · refine (s.handle.within_request _).bind (m := 0) fun accepted => ?_
      cases accepted <;> exact .done _ 0

theorem within_updateAcquisition (change : Acquisition → Acquisition) :
    (s.updateAcquisition change).Within 1 := by
  unfold updateAcquisition
  split
  · exact .done _ 1
  · exact (s.within_applyAcquisition _).bind (m := 0) fun _ => .done _ 0

theorem within_setMode (mode : ScanMode) : (s.setMode mode).Within 1 := by
  unfold setMode
  split
  · exact .done _ 1
  · split
    · exact .done _ 1
    · exact s.within_updateAcquisition _

theorem within_fire : s.fire.run.Within 1 := by
  unfold fire Trigger.fire
  split
  · exact s.handle.within_request _
  · exact .done _ 1
  · exact .done _ 1

/-- A session that is given up where opening it failed. -/
theorem within_opening {step : Dialogue (Session × Except DeviceError Unit)} {n : Nat}
    (hstep : step.Within n) : (Attempt.opening step drop).run.Within (n + 2) := by
  unfold Attempt.opening
  refine Within.attempt_bind hstep.lift ?_
  rintro ⟨s, _ | _⟩
  · exact Within.attempt_bind (m := 0) s.handle.within_drop.lift fun _ => .done _ 0
  · exact .done _ 2

end Session

namespace Command

theorem orDrop_eq_opening (step : Dialogue (Session × Except DeviceError Unit)) :
    orDrop step = .opening step Session.drop := by
  unfold orDrop Attempt.opening
  congr 1
  funext outcome
  obtain ⟨s, verdict⟩ := outcome
  cases verdict <;> rfl

theorem within_openAveraging (serials : List String) (index : Nat) :
    (openAveraging serials index).run.Within 19 := by
  have hestablish (serial : Option String) : (Session.establish serial).run.Within 7 := by
    rw [Session.establish_eq_opening]
    exact Session.within_opening (Session.within_connect _)
  have hchange {step : Dialogue (Session × Except DeviceError Unit)} (hstep : step.Within 1) :
      (orDrop step).run.Within 3 := by
    rw [orDrop_eq_opening]
    exact Session.within_opening hstep
  unfold openAveraging
  exact Within.attempt_bind (m := 12) (hestablish _)
    fun s₁ => Within.attempt_bind (m := 9) (hchange (s₁.within_updateAcquisition _))
    fun s₂ => Within.attempt_bind (m := 6) (hchange (s₂.within_updateAcquisition _))
    fun s₃ => Within.attempt_bind (m := 3) (hchange (s₃.within_setMode _))
    fun s₄ => hchange (s₄.within_updateAcquisition _)

end Command

namespace Memory

variable (m : Memory)

theorem within_clear : m.clear.run.Within 1 := by
  unfold clear
  split
  · exact m.handle.within_request _
  · exact .done _ 1

theorem within_length : m.length.run.Within 1 := by
  unfold length
  split
  · exact Within.attempt_bind (m := 0)
      (Within.attempt_bind (m := 0) (m.handle.within_request _) fun _ => .done _ 0) fun _ =>
      .done _ 0
  · exact .done _ 1

theorem within_frame (h : Handle) (index : UInt16) : (h.frame index).run.Within 2 :=
  Within.attempt_bind (m := 0) (h.within_rawFrame index) fun _ => .done _ 0

theorem within_get (index : Nat) : (m.get index).run.Within 3 := by
  unfold get
  split
  · refine Within.attempt_bind (m := 2) m.within_length fun length => ?_
    split
    · exact within_frame _ _
    · exact .done _ 2
  · exact (within_frame _ _).mono (by decide)

end Memory

namespace Reader

variable (r : Reader)

theorem within_restart (s : Session) : (restart s).run.Within 2 :=
  Within.attempt_bind s.frames.within_clear fun _ => s.within_fire

private theorem within_deed {ε : Type} (d : Deed) :
    (ExceptT.lift (.ask d .done) : ExceptT ε Activity d.Answer).run.Within 1 :=
  Within.lift (Interaction.within_ask_done d)

private theorem within_attempt {α : Type} {a : Attempt α} {n : Nat} (ha : a.run.Within n) :
    (Activity.attempt a).run.Within n :=
  ha.rephrase _ _

theorem within_fetchNow (start : Option Instant) : (r.fetchNow start).run.Within 7 := by
  have htell {stop : ExceptT DeviceError Activity (Option Instant)} (hstop : stop.run.Within 1)
      (e : FrameEvent) (result : Option Instant → Reader) :
      (do
        let stop ← stop
        Activity.observe e
        return result stop : ExceptT DeviceError Activity Reader).run.Within 2 :=
    Within.attempt_bind (m := 1) hstop fun _ =>
      Within.attempt_bind (m := 0) (within_deed (.observe e)) fun _ => .done _ 0
  unfold fetchNow
  refine Within.attempt_bind (m := 6) (within_deed .readClock) fun before => ?_
  refine Within.attempt_bind (m := 3) (within_attempt (r.session.frames.within_get 0))
    fun frame => ?_
  refine Within.attempt_bind (m := 2) (within_deed .readClock) fun after => ?_
  split
  · exact htell (Within.lift (.ask fun now => .done _ 0)) _ _
  · exact htell (.done _ 1) _ _

theorem within_fetch : r.fetch.run.Within 9 := by
  rw [fetch_eq]
  split
  · exact Within.attempt_bind (m := 8) (within_deed .wait) fun _ =>
      Within.attempt_bind (m := 7) (within_deed .readClock) fun _ => r.within_fetchNow _
  · exact (r.within_fetchNow none).mono (by decide)

theorem within_poll : r.poll.run.Within 11 := by
  have hstatus : r.session.status.run.Within 1 :=
    Within.attempt_bind (m := 0) (r.session.handle.within_request .getStatus) fun _ => .done _ 0
  have hempty : r.session.frames.isEmpty.run.Within 1 :=
    Within.attempt_bind (m := 0) r.session.frames.within_length fun _ => .done _ 0
  unfold poll
  refine Within.attempt_bind (m := 10) (within_attempt hstatus) fun flags => ?_
  split
  · refine Within.mono (n := 3) ?_ (by decide)
    exact Within.attempt_bind (m := 2) (within_deed (.observe .memoryFull)) fun _ =>
      Within.attempt_bind (m := 0) (within_attempt (within_restart r.session)) fun _ => .done _ 0
  · refine Within.attempt_bind (m := 9) (within_attempt hempty) fun empty => ?_
    split
    · exact .done _ 9
    · exact r.within_fetch

end Reader

namespace Stage

/-- Steps of a stage, where opening the device takes so many. -/
def cost (opening : Nat) : Stage → Nat
  | .opening => opening
  | starting _ => 2
  | polling _ => 11
  | closing .. => 2
  | leaving _ => 1

theorem within_act {plan : ReadingPlan} {device opening : Nat}
    (hopening : (plan.openDevice device).run.Within opening) (stage : Stage) :
    (stage.act plan device).Within (stage.cost opening) := by
  cases stage with
  | opening =>
    refine (hopening.rephrase _ _).bind (m := 0) fun opened => ?_
    cases opened <;> exact .done _ 0
  | starting s =>
    unfold act
    dsimp only
    split
    · exact .done _ _
    · split
      · exact .done _ _
      · exact ((Reader.within_restart s).rephrase _ _).bind (m := 0) fun _ => .done _ 0
  | polling r =>
    unfold act
    dsimp only
    split
    · exact r.within_poll.bind (m := 0) fun _ => .done _ 0
    · exact .done _ _
  | closing s result =>
    exact (s.handle.within_drop.rephrase _ _).bind (m := 0) fun _ => .done _ 0
  | leaving result => exact .ask fun _ => .done _ 0

end Stage

namespace Course

variable {W : Type} {plan : ReadingPlan} {clock : Nat → Instant} {link : Link W} {c c' : Course W}

variable (plan clock link) in
/-- The number of the next step tells how many steps were made. -/
theorem exists_tick (c : Course W) (fuel : Nat) : ∃ n ≤ fuel,
    (next plan clock link)^[fuel] c = (next plan clock link)^[n] c ∧
      ((next plan clock link)^[n] c).tick = c.tick + n := by
  induction fuel with
  | zero => exact ⟨0, Nat.le_refl 0, rfl, rfl⟩
  | succ fuel ih =>
    obtain ⟨n, hn, heq, htick⟩ := ih
    rw [Function.iterate_succ_apply', heq]
    cases hchoose : ((next plan clock link)^[n] c).group.choose?
        ((next plan clock link)^[n] c).last with
    | none =>
      rw [next_of_none hchoose]
      exact ⟨n, by omega, rfl, htick⟩
    | some i =>
      refine ⟨n + 1, by omega, (Function.iterate_succ_apply' _ _ _).symm, ?_⟩
      rw [Function.iterate_succ_apply', next, hchoose, ← Nat.add_assoc, ← htick]

/-- Where a reading is over it is with as much fuel as steps lead there. -/
theorem Leads.iterate_eq (h : c.Leads plan clock link c')
    (hover : c'.group.results?.isSome = true) {fuel : Nat} (hfuel : c'.tick ≤ c.tick + fuel) :
    (next plan clock link)^[fuel] c = c' := by
  obtain ⟨steps, -, hsteps⟩ := h
  obtain ⟨n, -, heq, htick⟩ := exists_tick plan clock link c steps
  rw [hsteps] at heq
  rw [← heq] at htick
  rw [heq]
  exact iterate_of_over (heq ▸ hover) (by omega)

end Course

namespace Lone

variable {W : Type} (clock : Nat → Instant) (link : Link W)

theorem tick_answer (d : Deed) (x : Lone W) : (answer clock link d x).2.tick = x.tick + 1 := by
  cases d <;> rfl

/-- A lone worker makes at most as many steps as deeds are planned. -/
theorem tick_run_le {α : Type} {activity : Activity α} {n : Nat} (h : activity.Within n)
    (x : Lone W) : (activity.run (answer clock link) x).2.tick ≤ x.tick + n := by
  induction h generalizing x with
  | done a n => exact Nat.le_add_right _ _
  | @ask d next n _ ih =>
    have hrest := ih (answer clock link d x).1 (answer clock link d x).2
    rw [tick_answer] at hrest
    exact Nat.le_trans hrest (by omega)

theorem tick_departed_le (s : Session) (x : Lone W) :
    (x.departed clock link s).tick ≤ x.tick + 5 := by
  have hdrop : (Activity.say s.drop).Within 2 := s.handle.within_drop.rephrase _ _
  have htick := tick_run_le clock link hdrop x
  have hleave : (x.departed clock link s).tick =
      ((Activity.say s.drop).run (answer clock link) x).2.tick + 3 := rfl
  omega

variable {clock link} {plan : ReadingPlan} {x x' : Lone W} {stage stage' : Stage} {opening : Nat}

/-- The course leads from one stage to the next within the steps of the stage. -/
theorem leads_within (hopening : (plan.openDevice 0).run.Within opening)
    (hadmits : x.barrier.AdmitsOne)
    (hact : (stage.act plan 0).run (answer clock link) x = (.inl stage', x')) :
    (x.entering plan stage).Leads plan clock link (x'.later.entering plan stage') ∧
      x'.later.barrier.AdmitsOne ∧ x'.later.tick ≤ x.tick + stage.cost opening + 1 := by
  have htick := tick_run_le clock link (stage.within_act hopening) x
  have hadmits' :
      ((stage.act plan 0).run (answer clock link) x).2.barrier.AdmitsOne := admitsOne_run hadmits _
  rw [hact] at htick hadmits'
  exact ⟨leads_inl hadmits hact, hadmits', Nat.succ_le_succ htick⟩

end Lone

end Spectrometer
