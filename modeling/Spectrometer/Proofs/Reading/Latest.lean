import Spectrometer.Proofs.Reading.Averaging
import Spectrometer.Proofs.Session.Tuning
import Spectrometer.Proofs.Twin.Reading

/-!
Reading the latest frame. A session in `latestFrame` fetches without asking for a number of frames,
so that every poll of a device without `memoryFull` fetches a frame: the average made at the start
of the reading, again and again. Its events, the device it leaves and a bound on its steps are given
here.
-/

namespace Spectrometer

open Emulator (link)
open Interaction (Within)

namespace Session

/-- The session triggers by software and asks for the latest frame of that device, which averages
frames and has a memory that is not full. -/
structure Latest (s : Session) (e : Emulator) (i : Nat) (d : Device) : Prop where
  serves : e.Serves s.handle i d
  averaging : d.isAveraging = true
  notFull : d.memoryFull = false
  memory : s.memory = .latestFrame
  software : s.trigger = .software

variable {s : Session} {e : Emulator} {i : Nat} {d : Device}

theorem Tunes.latest (h : s.Tunes e i d) (hmode : d.acquisition.mode = .frameAveraging)
    (hfull : d.memoryFull = false) : s.Latest e i d where
  serves := h.serves
  averaging := beq_iff_eq.mpr hmode
  notFull := hfull
  memory := by rw [h.memory, hmode]; rfl
  software := h.software

theorem Latest.fetched (h : s.Latest e i d) {e' : Emulator}
    (hserves : e'.Serves s.handle i d.fetched) : s.Latest e' i d.fetched :=
  ⟨hserves, h.averaging, h.notFull, h.memory, h.software⟩

/-- There is nothing to clear for a session that asks for the latest frame. -/
theorem Latest.restart (h : s.Latest e i d) :
    ∃ e', (Reader.restart s).run.run link.reply e = (.ok (), e') ∧ s.Latest e' i d.trigger := by
  obtain ⟨frame, htrigger⟩ := Device.trigger_eq h.averaging
  have hattached : d.trigger.detached = false := by
    rw [htrigger]
    exact h.serves.attached
  obtain ⟨e', hrequest, hserves⟩ := h.serves.request (r := .trigger) rfl hattached
  have hrestart : Reader.restart s = s.handle.request .trigger := by
    unfold Reader.restart fire frames Memory.clear
    rw [h.memory, h.software]
    rfl
  rw [hrestart]
  refine ⟨e', hrequest, hserves, ?_, ?_, h.memory, h.software⟩
  · rw [htrigger]
    exact h.averaging
  · rw [htrigger]
    exact h.notFull

theorem Latest.get (h : s.Latest e i d) :
    ∃ e', (s.frames.get 0).run.run link.reply e = (.ok d.latest, e') ∧
      s.Latest e' i d.fetched := by
  obtain ⟨e', hframe, hserves⟩ := h.serves.latest h.averaging Frame.latestIndex
  have hget : s.frames.get 0 = s.handle.frame Frame.latestIndex := by
    unfold frames Memory.get
    rw [h.memory]
  rw [hget]
  exact ⟨e', hframe, h.fetched hserves⟩

theorem Latest.isEmpty (h : s.Latest e i d) :
    s.frames.isEmpty.run.run link.reply e = (.ok false, e) := by
  unfold frames Memory.isEmpty Memory.length
  rw [h.memory]
  rfl

end Session

/-- An averaging device of which so many frames were read: the average is made once, however many
there are, and every fetch makes it count as read. -/
def Device.averagedFor (d : Device) (required : Nat) : Device :=
  if required = 0 then d else d.trigger.fetched

/-- The events, without times, of the first `number` fetches of one frame, `required` of which are
wanted. -/
def Frame.fetches (frame : Frame) (required number : Nat) : List FrameEvent :=
  (List.range number).map fun k => .fetched k 0 frame (k + 1 == required)

/-- The events are those of the reader's fetches of one frame so far, and the instants of the last
one are recorded once it was made. -/
structure Reader.Follows (r : Reader) (frame : Frame) (events : List (Nat × FrameEvent)) :
    Prop where
  told : events.reverse.map (·.2.untimed) = frame.fetches r.required r.number
  start : r.report.start.isSome = (r.number == r.required)
  stop : r.report.stop.isSome = (r.number == r.required)

theorem Reader.Follows.record {r : Reader} {frame : Frame} {events : List (Nat × FrameEvent)}
    (h : r.Follows frame events) (hnumber : r.number < r.required) {before after : Instant}
    {start stop : Option Instant} (hstart : start.isSome = r.isLast)
    (hstop : stop.isSome = r.isLast) :
    (r.record before after start stop frame).Follows frame
      ((0, .fetched r.number (after - before) frame r.isLast) :: events) := by
  have hmissing : (r.number == r.required) = false := beq_eq_false_iff_ne.mpr (Nat.ne_of_lt hnumber)
  have hor {new old : Option Instant} (hnew : new.isSome = r.isLast)
      (hold : old.isSome = (r.number == r.required)) : (new.or old).isSome = r.isLast := by
    rw [Option.isSome_or, hnew, hold, hmissing, Bool.or_false]
  refine ⟨?_, hor hstart h.start, hor hstop h.stop⟩
  change _ = frame.fetches r.required (r.number + 1)
  rw [List.reverse_cons, List.map_append, h.told, Frame.fetches, Frame.fetches, List.range_succ,
    List.map_append]
  rfl

namespace Lone

variable (clock : Nat → Instant) {x : Lone Emulator} {s : Session} {i : Nat} {d : Device}
  {r : Reader} {plan : ReadingPlan} {opening : Nat}

/-- Every poll fetches the frame. -/
theorem run_poll_latest (h : r.session.Latest x.world i d) :
    ∃ before after start stop, ∃ y : Lone Emulator,
      r.poll.run.run (answer clock link) x = (.ok (r.record before after start stop d.latest), y) ∧
      r.session.Latest y.world i d.fetched ∧ start.isSome = r.isLast ∧ stop.isSome = r.isLast ∧
      y.events = (0, .fetched r.number (after - before) d.latest r.isLast) :: x.events := by
  obtain ⟨e₁, hstatus, hserves⟩ := h.serves.status
  have h₁ : r.session.Latest e₁ i d := { h with serves := hserves }
  obtain ⟨y, rfl, hevents, hpoll⟩ := run_poll_not_full clock hstatus h.notFull h₁.isEmpty
  obtain ⟨e₂, hget, h₂⟩ := h₁.get
  obtain ⟨before, after, start, stop, z, hfetch, rfl, hstart, hstop, htold⟩ := run_fetch clock hget
  refine ⟨before, after, start, stop, z, ?_, h₂, hstart, hstop, by rw [htold, hevents]⟩
  rw [hpoll, if_neg Bool.false_ne_true, hfetch]

/-- A reader comes to its end with all frames that are missing. -/
theorem leads_latest (hopening : (plan.openDevice 0).run.Within opening) (missing : Nat)
    (hadmits : x.barrier.AdmitsOne) (h : r.session.Latest x.world i d)
    (hfollows : r.Follows d.latest x.events) (hmissing : r.number + missing = r.required) :
    ∃ (y : Lone Emulator) (report : WorkerReport),
      (x.entering plan (.polling r)).Leads plan clock link
        (y.entering plan (.closing r.session (.ok report))) ∧
      y.barrier.AdmitsOne ∧ y.tick ≤ x.tick + 12 * (missing + 1) ∧
      y.world.Serves r.session.handle i (if missing = 0 then d else d.fetched) ∧
      y.events.reverse.map (·.2.untimed) = d.latest.fetches r.required r.required ∧
      report.start.isSome = true ∧ report.stop.isSome = true := by
  induction missing generalizing x r d with
  | zero =>
    have hover : ¬ r.number < r.required := by omega
    have hall : r.number = r.required := by omega
    have hact : ((Stage.polling r).act plan 0).run (answer clock link) x =
        (.inl (.closing r.session (.ok r.report)), x) := by
      simp only [Stage.act]
      rw [if_neg hover]
      rfl
    obtain ⟨hleads, hadmits', htick⟩ := leads_within hopening hadmits hact
    obtain ⟨htold, hstart, hstop⟩ := hfollows
    rw [hall] at htold
    rw [hall, beq_self_eq_true] at hstart hstop
    exact ⟨x.later, r.report, hleads, hadmits', htick, h.serves, htold, hstart, hstop⟩
  | succ missing ih =>
    have hnumber : r.number < r.required := by omega
    obtain ⟨before, after, start, stop, y, hpoll, h', hstart, hstop, hevents⟩ :=
      run_poll_latest clock h
    have hfollows' : (r.record before after start stop d.latest).Follows d.latest y.events :=
      hevents ▸ hfollows.record hnumber hstart hstop
    obtain ⟨hleads, hadmits', htick⟩ :=
      leads_within hopening hadmits (run_polling clock plan hnumber hpoll)
    have hmissing' : r.number + 1 + missing = r.required := by omega
    obtain ⟨z, report, hrest, hadmits'', htick', hserves, hclosing⟩ :=
      ih (x := y.later) (r := r.record before after start stop d.latest) hadmits' h' hfollows'
        hmissing'
    refine ⟨z, report, hleads.trans hrest, hadmits'', ?_, ?_, hclosing⟩
    · change y.later.tick ≤ x.tick + 11 + 1 at htick
      omega
    · rw [if_neg (Nat.succ_ne_zero missing)]
      split at hserves <;> exact hserves

/-- A session that is there closes with all frames, and with the times of the last fetch if there
is one. -/
theorem leads_started (hopening : (plan.openDevice 0).run.Within opening)
    (hadmits : x.barrier.AdmitsOne) (h : s.Latest x.world i d) (hnew : x.events = [])
    (hfits : WorkerReport.shortage? plan.room plan.required = none) :
    ∃ (y : Lone Emulator) (report : WorkerReport),
      (x.entering plan (.starting s)).Leads plan clock link
        (y.entering plan (.closing s (.ok report))) ∧
      y.barrier.AdmitsOne ∧ y.tick ≤ x.tick + 12 * plan.required + 15 ∧
      y.world.Serves s.handle i (d.averagedFor plan.required) ∧
      y.events.reverse.map (·.2.untimed) =
        d.trigger.latest.fetches plan.required plan.required ∧
      report.start.isSome = (0 < plan.required : Bool) ∧
      report.stop.isSome = (0 < plan.required : Bool) := by
  by_cases hnothing : plan.required = 0
  · have hact : ((Stage.starting s).act plan 0).run (answer clock link) x =
        (.inl (.closing s (.ok (.new 0))), x) := by
      simp only [Stage.act, hfits]
      rw [if_pos hnothing]
      rfl
    obtain ⟨hleads, hadmits', htick⟩ := leads_within hopening hadmits hact
    refine ⟨x.later, .new 0, hleads, hadmits', ?_, ?_, ?_, ?_, ?_⟩
    · change x.later.tick ≤ x.tick + 2 + 1 at htick
      omega
    · rw [hnothing]
      exact h.serves
    · change x.events.reverse.map _ = _
      rw [hnew, hnothing]
      rfl
    · rw [hnothing]
      rfl
    · rw [hnothing]
      rfl
  · obtain ⟨e', hrestart, h'⟩ := h.restart
    obtain ⟨y, hsay, hworld, -, hevents⟩ := run_say clock link (Reader.restart s).run x
    rw [hrestart] at hsay hworld
    subst hworld
    let r : Reader := ⟨s, plan.required, 0, .new 0⟩
    have hact : ((Stage.starting s).act plan 0).run (answer clock link) x =
        (.inl (.polling r), y) := by
      simp only [Stage.act, hfits]
      rw [if_neg hnothing, Interaction.run_bind, hsay]
      rfl
    obtain ⟨hleads, hadmits', htick⟩ := leads_within hopening hadmits hact
    have hmissing : (0 == plan.required) = false := beq_eq_false_iff_ne.mpr (Ne.symm hnothing)
    have hfollows : r.Follows d.trigger.latest y.later.events := by
      refine ⟨?_, hmissing.symm, hmissing.symm⟩
      change y.events.reverse.map _ = _
      rw [hevents, hnew]
      rfl
    obtain ⟨z, report, hrest, hadmits'', htick', hserves, htold, hstart, hstop⟩ :=
      leads_latest clock hopening plan.required (x := y.later) (r := r) hadmits' h' hfollows
        (Nat.zero_add _)
    have hsome : decide (0 < plan.required) = true := decide_eq_true (Nat.pos_of_ne_zero hnothing)
    rw [if_neg hnothing] at hserves
    refine ⟨z, report, hleads.trans hrest, hadmits'', ?_, ?_, htold, ?_, ?_⟩
    · change y.later.tick ≤ x.tick + 2 + 1 at htick
      omega
    · rw [Device.averagedFor, if_neg hnothing]
      exact hserves
    · rw [hstart, hsome]
    · rw [hstop, hsome]

theorem leads_opened {w e' : Emulator} (hopening : (plan.openDevice 0).run.Within opening)
    (hopen : (plan.openDevice 0).run.run link.reply w = (.ok s, e')) :
    ∃ y : Lone Emulator, (Course.start plan 1 clock w).Leads plan clock link
        (y.entering plan (.starting s)) ∧
      y.barrier.AdmitsOne ∧ y.tick ≤ opening + 2 ∧ y.world = e' ∧ y.events = [] := by
  obtain ⟨y, hsay, hworld, -, hevents⟩ :=
    run_say clock link (plan.openDevice 0).run (fresh plan clock w)
  have hopen' : (plan.openDevice 0).run.run link.reply (fresh plan clock w).world = (.ok s, e') :=
    hopen
  rw [hopen'] at hsay hworld
  have hact : (Stage.opening.act plan 0).run (answer clock link) (fresh plan clock w) =
      (.inl (.starting s), y) := by
    simp only [Stage.act]
    rw [Interaction.run_bind, hsay]
    rfl
  obtain ⟨hleads, hadmits, htick⟩ :=
    leads_within hopening (admitsOne_fresh plan clock w) hact
  refine ⟨y.later, hleads, hadmits, ?_, hworld, hevents⟩
  change y.later.tick ≤ 1 + opening + 1 at htick
  omega

/-- Giving a session up changes no device. -/
theorem devices_drop (s : Session) (e : Emulator) :
    (s.drop.run link.reply e).2.devices = e.devices := by
  unfold Session.drop
  rw [Handle.run_drop]
  split
  · simp only [link]
    cases henter : e.enter .disconnect with
    | mk fault e₁ =>
      obtain rfl : e₁ = (e.enter .disconnect).2 := by rw [henter]
      cases fault <;> rfl
  · rfl

/-- The worker of such a device, alone with it, is gone after `opening + 12 * plan.required + 21`
steps. It has fetched all frames, with an event for each, and has left the device with their
average. -/
theorem reads_latest {w e' : Emulator} (hopening : (plan.openDevice 0).run.Within opening)
    (hopen : (plan.openDevice 0).run.run link.reply w = (.ok s, e')) (h : s.Latest e' i d)
    (hfits : WorkerReport.shortage? plan.room plan.required = none) {fuel : Nat}
    (hfuel : opening + 12 * plan.required + 21 ≤ fuel) :
    ∃ (y : Lone Emulator) (report : WorkerReport),
      (Course.next plan clock link)^[fuel] (.start plan 1 clock w) =
        y.course (.gone (.ok report)) ∧
      y.world.devices[i]? = some (d.averagedFor plan.required) ∧
      y.events.reverse.map (·.2.untimed) =
        d.trigger.latest.fetches plan.required plan.required ∧
      report.start.isSome = (0 < plan.required : Bool) ∧
      report.stop.isSome = (0 < plan.required : Bool) := by
  obtain ⟨x, hopened, hadmits, htick, rfl, hnew⟩ := leads_opened clock hopening hopen
  obtain ⟨y, report, hread, hadmits', htick', hserves, htold, hstart, hstop⟩ :=
    leads_started clock hopening hadmits h hnew hfits
  have hgone : (y.entering plan (.closing s (.ok report))).Leads plan clock link
      ((y.departed clock link s).course (.gone (.ok report))) :=
    leads_gone plan clock hadmits' s _
  have hdeparted := tick_departed_le clock link s y
  refine ⟨y.departed clock link s, report,
    ((hopened.trans hread).trans hgone).iterate_eq rfl ?_, ?_, ?_, hstart, hstop⟩
  · change (y.departed clock link s).tick ≤ 1 + fuel
    omega
  · rw [departed_world, devices_drop]
    exact hserves.device
  · rw [departed_events]
    exact htold

end Lone

end Spectrometer
