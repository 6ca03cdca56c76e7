import Spectrometer.Proofs.Reading.Alone
import Spectrometer.Proofs.Reading.Attendance

/-!
The polls of a lone reader. A poll of the device either fetches a frame or not: `memoryFull` was set
and the acquisition is started again, or the memory was empty. A reader whose every poll fetches a
frame comes to its end; one whose polls all fetch nothing polls for ever. Which of the two it is
depends on the device alone, so the laws here are about any link, and about any property of its
states that polls preserve.
-/

namespace Spectrometer

/-- Which frame was fetched. -/
def FrameEvent.number? : FrameEvent → Option Nat
  | memoryFull => none
  | fetched number .. => some number

namespace Reader

/-- The record of a reader agrees with the events of its fetches. -/
structure Keeps (r : Reader) (events : List (Nat × FrameEvent)) : Prop where
  latencies : r.report.latencies.length = r.number
  events : events.reverse.map (·.2.number?) = (List.range r.number).map some

theorem Keeps.record {r : Reader} {events : List (Nat × FrameEvent)} (h : r.Keeps events)
    (before after : Instant) (start stop : Option Instant) (frame : Frame) (latency : Nat)
    (last : Bool) : (r.record before after start stop frame).Keeps
      ((0, .fetched r.number latency frame last) :: events) where
  latencies := congrArg (· + 1) h.latencies
  events := by
    change _ = (List.range (r.number + 1)).map some
    rw [List.reverse_cons, List.map_append, h.events, List.range_succ, List.map_append]
    rfl

end Reader

namespace Session

/-- The calls of a poll by the session fetch a frame. -/
structure Fetches {W : Type} (link : Link W) (s : Session) (w w' : W) : Prop where
  look : ∃ flags w₁ w₂ frame, s.status.run.run link.reply w = (.ok flags, w₁) ∧
    flags.memoryFull = false ∧ s.frames.isEmpty.run.run link.reply w₁ = (.ok false, w₂) ∧
    (s.frames.get 0).run.run link.reply w₂ = (.ok frame, w')

/-- The calls of a poll by the session fetch nothing. -/
inductive Idles {W : Type} (link : Link W) (s : Session) (w w' : W) : Prop
  | full {flags : StatusFlags} {w₁ : W} (hstatus : s.status.run.run link.reply w = (.ok flags, w₁))
      (hfull : flags.memoryFull = true)
      (hrestart : (Reader.restart s).run.run link.reply w₁ = (.ok (), w'))
  | empty {flags : StatusFlags} {w₁ : W} (hstatus : s.status.run.run link.reply w = (.ok flags, w₁))
      (hfull : flags.memoryFull = false)
      (hempty : s.frames.isEmpty.run.run link.reply w₁ = (.ok true, w'))

end Session

namespace Lone

variable {W : Type} {link : Link W} (clock : Nat → Instant) {x : Lone W} {s : Session} {r : Reader}

/-- An attempt is over at once, and nothing else around the worker changes. -/
theorem run_attempt {α : Type} {a : Attempt α} {result : Except DeviceError α} {w : W}
    (hrun : a.run.run link.reply x.world = (result, w)) :
    ∃ y : Lone W, (Activity.attempt a).run.run (answer clock link) x = (result, y) ∧
      y.world = w ∧ y.barrier = x.barrier ∧ y.events = x.events := by
  obtain ⟨y, heq, hworld, hbarrier, hevents⟩ := run_say clock link a.run x
  rw [hrun] at heq hworld
  exact ⟨y, heq, hworld, hbarrier, hevents⟩

/-- Once the reader may go on, a frame that the session gets is the one it fetches. -/
theorem run_fetchNow {frame : Frame} {w : W}
    (hget : (r.session.frames.get 0).run.run link.reply x.world = (.ok frame, w))
    (start : Option Instant) :
    ∃ before after stop, ∃ y : Lone W,
      (r.fetchNow start).run.run (answer clock link) x =
        (.ok (r.record before after start stop frame), y) ∧
      y.world = w ∧ stop.isSome = r.isLast ∧
      y.events = (0, .fetched r.number (after - before) frame r.isLast) :: x.events := by
  obtain ⟨y, hattempt, rfl, -, hevents⟩ := run_attempt clock (x := x.later) hget
  have hclock (z : Lone W) (rest : Instant → ExceptT DeviceError Activity Reader) :
      (ExceptT.lift Activity.readClock >>= rest).run.run (answer clock link) z =
        (rest (clock z.tick)).run.run (answer clock link) z.later :=
    Interaction.run_lift_bind _ Activity.readClock rest z
  let told (z : Lone W) : Lone W := (answer clock link
    (.observe (.fetched r.number (clock y.tick - clock x.tick) frame r.isLast)) z).2
  have htold (z : Lone W) (hz : z.events = y.events) : (told z).events =
      (0, .fetched r.number (clock y.tick - clock x.tick) frame r.isLast) :: x.events :=
    congrArg ((0, _) :: ·) (hz.trans hevents)
  unfold Reader.fetchNow
  by_cases hlast : r.isLast = true
  · refine ⟨clock x.tick, clock y.tick, some (clock (y.tick + 1)), told y.later.later,
      (hclock x _).trans ((Interaction.run_bind_ok hattempt _).trans ((hclock y _).trans ?_)),
      rfl, hlast.symm, htold _ rfl⟩
    rw [if_pos hlast]
    rfl
  · refine ⟨clock x.tick, clock y.tick, none, told y.later,
      (hclock x _).trans ((Interaction.run_bind_ok hattempt _).trans ((hclock y _).trans ?_)),
      rfl, (Bool.eq_false_iff.mpr hlast).symm, htold _ rfl⟩
    rw [if_neg hlast]
    rfl

/-- A frame that the session gets is the one it fetches; the last fetch is timed. -/
theorem run_fetch {frame : Frame} {w : W}
    (hget : (r.session.frames.get 0).run.run link.reply x.world = (.ok frame, w)) :
    ∃ before after start stop, ∃ y : Lone W,
      r.fetch.run.run (answer clock link) x = (.ok (r.record before after start stop frame), y) ∧
      y.world = w ∧ start.isSome = r.isLast ∧ stop.isSome = r.isLast ∧
      y.events = (0, .fetched r.number (after - before) frame r.isLast) :: x.events := by
  rw [Reader.fetch_eq]
  by_cases hlast : r.isLast = true
  · rw [if_pos hlast]
    -- Waiting at the barrier and reading the clock leave the driver and what was told alone.
    let z := (answer clock link .readClock (answer clock link .wait x).2).2
    have hz : (r.session.frames.get 0).run.run link.reply z.world = (.ok frame, w) := hget
    obtain ⟨before, after, stop, y, hrun, hworld, hstop, hevents⟩ :=
      run_fetchNow clock hz (some (answer clock link .readClock (answer clock link .wait x).2).1)
    exact ⟨before, after, _, stop, y, hrun, hworld, hlast.symm, hstop, hevents⟩
  · rw [if_neg hlast]
    obtain ⟨before, after, stop, y, hrun, hworld, hstop, hevents⟩ := run_fetchNow clock hget none
    exact ⟨before, after, none, stop, y, hrun, hworld, (Bool.eq_false_iff.mpr hlast).symm, hstop,
      hevents⟩

/-- A poll without `memoryFull` goes on to `isEmpty`. -/
theorem run_poll_not_full {flags : StatusFlags} {empty : Bool} {w₁ w₂ : W}
    (hstatus : r.session.status.run.run link.reply x.world = (.ok flags, w₁))
    (hfull : flags.memoryFull = false)
    (hempty : r.session.frames.isEmpty.run.run link.reply w₁ = (.ok empty, w₂)) :
    ∃ y : Lone W, y.world = w₂ ∧ y.events = x.events ∧
      r.poll.run.run (answer clock link) x =
        (if empty then (.ok r, y) else r.fetch.run.run (answer clock link) y) := by
  obtain ⟨y, hy, rfl, -, hevents⟩ := run_attempt clock hstatus
  obtain ⟨y', hy', rfl, -, hevents'⟩ := run_attempt clock hempty
  refine ⟨y', rfl, hevents'.trans hevents, ?_⟩
  unfold Reader.poll
  refine (Interaction.run_bind_ok hy _).trans ?_
  rw [if_neg (Bool.eq_false_iff.mp hfull)]
  refine (Interaction.run_bind_ok hy' _).trans ?_
  cases empty <;> rfl

/-- A poll that fetches nothing leaves the reader as it is. -/
theorem run_poll_idles {w : W} (h : r.session.Idles link x.world w) :
    ∃ y : Lone W, r.poll.run.run (answer clock link) x = (.ok r, y) ∧ y.world = w := by
  cases h with
  | full hstatus hfull hrestart =>
    obtain ⟨y, hy, rfl, -, -⟩ := run_attempt clock hstatus
    let z := (answer clock link (.observe .memoryFull) y).2
    obtain ⟨y', hy', rfl, -, -⟩ := run_attempt clock (x := z) hrestart
    refine ⟨y', ?_, rfl⟩
    unfold Reader.poll
    refine (Interaction.run_bind_ok hy _).trans ?_
    rw [if_pos hfull]
    exact (Interaction.run_lift_bind _ (Activity.observe .memoryFull) _ y).trans
      (Interaction.run_bind_ok hy' _)
  | empty hstatus hfull hempty =>
    obtain ⟨y, rfl, -, hpoll⟩ := run_poll_not_full clock hstatus hfull hempty
    exact ⟨y, hpoll, rfl⟩

/-- A poll that fetches a frame records it and adds its event. -/
theorem run_poll_fetches {w : W} (h : r.session.Fetches link x.world w) (hkeeps : r.Keeps x.events) :
    ∃ before after start stop frame, ∃ y : Lone W,
      r.poll.run.run (answer clock link) x = (.ok (r.record before after start stop frame), y) ∧
      y.world = w ∧ (r.record before after start stop frame).Keeps y.events := by
  obtain ⟨flags, w₁, w₂, frame, hstatus, hfull, hempty, hget⟩ := h.look
  obtain ⟨y, rfl, hevents, hpoll⟩ := run_poll_not_full clock hstatus hfull hempty
  obtain ⟨before, after, start, stop, z, hfetch, hworld, -, -, hevents'⟩ := run_fetch clock hget
  have hkeeps' := hkeeps.record before after start stop frame (after - before) r.isLast
  rw [← hevents, ← hevents'] at hkeeps'
  exact ⟨before, after, start, stop, frame, z, hpoll.trans hfetch, hworld, hkeeps'⟩

section Stages

variable (plan : ReadingPlan)

theorem leads_starting (link : Link W) (hadmits : x.barrier.AdmitsOne)
    (hopen : plan.openDevice 0 = pure s) :
    (x.entering plan .opening).Leads plan clock link
      (x.later.entering plan (.starting s)) := by
  have hact : (Stage.opening.act plan 0).run (answer clock link) x = (.inl (.starting s), x) := by
    simp only [Stage.act, hopen]
    rfl
  exact leads_inl hadmits hact

/-- A record that does not fit into memory is not begun. -/
theorem leads_short (link : Link W) (hadmits : x.barrier.AdmitsOne) {lack : Shortage}
    (hlack : WorkerReport.shortage? plan.room plan.required = some lack) :
    (x.entering plan (.starting s)).Leads plan clock link
      (x.later.entering plan (.closing s (.error (.outOfMemory lack)))) := by
  have hact : ((Stage.starting s).act plan 0).run (answer clock link) x =
      (.inl (.closing s (.error (.outOfMemory lack))), x) := by
    simp only [Stage.act, hlack]
    rfl
  exact leads_inl hadmits hact

/-- Where no frame is wanted the device is left alone. -/
theorem leads_nothing (hadmits : x.barrier.AdmitsOne)
    (hfits : WorkerReport.shortage? plan.room plan.required = none) (hnothing : plan.required = 0) :
    (x.entering plan (.starting s)).Leads plan clock link
      (x.later.entering plan (.closing s (.ok (.new 0)))) := by
  have hact : ((Stage.starting s).act plan 0).run (answer clock link) x =
      (.inl (.closing s (.ok (.new 0))), x) := by
    simp only [Stage.act, hfits]
    rw [if_pos hnothing]
    rfl
  exact leads_inl hadmits hact

/-- Else the memory is cleared, an acquisition is started, and polling begins. -/
theorem leads_restarted (hadmits : x.barrier.AdmitsOne) {w : W}
    (hrestart : (Reader.restart s).run.run link.reply x.world = (.ok (), w))
    (hfits : WorkerReport.shortage? plan.room plan.required = none) (hsome : plan.required ≠ 0) :
    ∃ y : Lone W, (x.entering plan (.starting s)).Leads plan clock link
        (y.entering plan (.polling ⟨s, plan.required, 0, .new 0⟩)) ∧
      y.barrier.AdmitsOne ∧ y.world = w ∧ y.events = x.events := by
  obtain ⟨y, hsay, hworld, hbarrier, hevents⟩ := run_say clock link (Reader.restart s).run x
  rw [hrestart] at hsay hworld
  have hact : ((Stage.starting s).act plan 0).run (answer clock link) x =
      (.inl (.polling ⟨s, plan.required, 0, .new 0⟩), y) := by
    simp only [Stage.act, hfits]
    rw [if_neg hsome, Interaction.run_bind, hsay]
    rfl
  exact ⟨y.later, leads_inl hadmits hact, hbarrier ▸ hadmits, hworld, hevents⟩

theorem keeps_new (s : Session) (required : Nat) (hnew : x.events = []) :
    (⟨s, required, 0, .new 0⟩ : Reader).Keeps x.events := by
  rw [hnew]
  exact ⟨rfl, rfl⟩

theorem run_polling {polled : Reader} {y : Lone W} (hnumber : r.number < r.required)
    (hpoll : r.poll.run.run (answer clock link) x = (.ok polled, y)) :
    ((Stage.polling r).act plan 0).run (answer clock link) x = (.inl (.polling polled), y) := by
  simp only [Stage.act]
  rw [if_pos hnumber, Interaction.run_bind, hpoll]
  rfl

theorem leads_poll (hadmits : x.barrier.AdmitsOne) (hnumber : r.number < r.required)
    {polled : Reader} {y : Lone W}
    (hpoll : r.poll.run.run (answer clock link) x = (.ok polled, y)) :
    (x.entering plan (.polling r)).Leads plan clock link
        (y.later.entering plan (.polling polled)) ∧ y.later.barrier.AdmitsOne := by
  have hact := run_polling clock plan hnumber hpoll
  have hadmits' :
      (((Stage.polling r).act plan 0).run (answer clock link) x).2.barrier.AdmitsOne :=
    admitsOne_run hadmits _
  rw [hact] at hadmits'
  exact ⟨leads_inl hadmits hact, hadmits'⟩

/-- A poll that finds a frame leads to its fetch. -/
theorem leads_fetch (hadmits : x.barrier.AdmitsOne) (hnumber : r.number < r.required) {w : W}
    (h : r.session.Fetches link x.world w) (hkeeps : r.Keeps x.events) :
    ∃ before after start stop frame, ∃ y : Lone W,
      (x.entering plan (.polling r)).Leads plan clock link
        (y.entering plan (.polling (r.record before after start stop frame))) ∧
      y.barrier.AdmitsOne ∧ y.world = w ∧
      (r.record before after start stop frame).Keeps y.events := by
  obtain ⟨before, after, start, stop, frame, y, hpoll, hworld, hkeeps'⟩ :=
    run_poll_fetches clock h hkeeps
  obtain ⟨hleads, hadmits'⟩ := leads_poll clock plan hadmits hnumber hpoll
  exact ⟨before, after, start, stop, frame, y.later, hleads, hadmits', hworld, hkeeps'⟩

/-- A reader comes to its end with all frames where the device supplies those that are missing: as
long as one is missing, a look fetches a frame and the device supplies the others. -/
theorem leads_closing {supplies : Nat → W → Prop}
    (hsupplies : ∀ missing w, supplies (missing + 1) w →
      ∃ w', s.Fetches link w w' ∧ supplies missing w') (missing : Nat)
    (hadmits : x.barrier.AdmitsOne) (hsession : r.session = s) (hkeeps : r.Keeps x.events)
    (hmissing : r.number + missing = r.required) (hsupplied : supplies missing x.world) :
    ∃ (y : Lone W) (last : Reader), (x.entering plan (.polling r)).Leads plan clock link
        (y.entering plan (.closing s (.ok last.report))) ∧
      y.barrier.AdmitsOne ∧ last.Keeps y.events ∧ last.number = r.required ∧
      supplies 0 y.world := by
  induction missing generalizing x r with
  | zero =>
    have hover : ¬ r.number < r.required := by omega
    have hact : ((Stage.polling r).act plan 0).run (answer clock link) x =
        (.inl (.closing s (.ok r.report)), x) := by
      simp only [Stage.act, hsession]
      rw [if_neg hover]
      rfl
    exact ⟨x.later, r, leads_inl hadmits hact, hadmits, hkeeps, by omega, hsupplied⟩
  | succ missing ih =>
    subst hsession
    have hnumber : r.number < r.required := by omega
    have hmissing' : r.number + 1 + missing = r.required := by omega
    obtain ⟨w, hfetches, hsupplied'⟩ := hsupplies missing x.world hsupplied
    obtain ⟨before, after, start, stop, frame, y, hleads, hadmits', rfl, hkeeps'⟩ :=
      leads_fetch clock plan hadmits hnumber hfetches hkeeps
    obtain ⟨z, last, hrest, hclosing⟩ := ih (r := r.record before after start stop frame) hadmits'
      rfl hkeeps' hmissing' hsupplied'
    exact ⟨z, last, hleads.trans hrest, hclosing⟩

/-- The course is at a reader that wants more frames, with the driver in a state where `P` holds. -/
def Wanting (plan : ReadingPlan) (r : Reader) (P : W → Prop) (c : Course W) : Prop :=
  r.number < r.required ∧ ∃ x : Lone W, c = x.entering plan (.polling r) ∧
    x.barrier.AdmitsOne ∧ P x.world

/-- A poll that fetches nothing leads back to the same reader. -/
theorem Wanting.later {P P' : W → Prop} {c : Course W}
    (hidles : ∀ w, P w → ∃ w', r.session.Idles link w w' ∧ P' w') (h : Wanting plan r P c) :
    ∃ n, 0 < n ∧ Wanting plan r P' ((Course.next plan clock link)^[n] c) := by
  obtain ⟨hnumber, x, rfl, hadmits, hP⟩ := h
  obtain ⟨w, hlook, hP'⟩ := hidles x.world hP
  obtain ⟨y, hpoll, rfl⟩ := run_poll_idles clock hlook
  obtain ⟨⟨n, hn, hlater⟩, hadmits'⟩ := leads_poll clock plan hadmits hnumber hpoll
  exact ⟨n, hn, hnumber, y.later, hlater, hadmits', hP'⟩

/-- A reader whose polls all fetch nothing is never over. -/
theorem Wanting.never_over {P : W → Prop} {c : Course W}
    (hidles : ∀ w, P w → ∃ w', r.session.Idles link w w' ∧ P w') (h : Wanting plan r P c)
    (fuel : Nat) : ((Course.next plan clock link)^[fuel] c).group.results? = none := by
  have hopen (c : Course W) (hc : Wanting plan r P c) : c.group.results? = none := by
    obtain ⟨-, x, rfl, -⟩ := hc
    rfl
  exact Course.never_over (fun _ hc => hc.later clock plan hidles) hopen h fuel

/-- It goes on polling: a measure that every poll increases exceeds any number. -/
theorem Wanting.again {P : Nat → W → Prop} {c : Course W}
    (hidles : ∀ looks w, P looks w → ∃ w', r.session.Idles link w w' ∧ P (looks + 1) w')
    (h : Wanting plan r (P 0) c) (looks : Nat) :
    ∃ n, Wanting plan r (P looks) ((Course.next plan clock link)^[n] c) := by
  induction looks with
  | zero => exact ⟨0, h⟩
  | succ looks ih =>
    obtain ⟨n, hn⟩ := ih
    obtain ⟨m, -, hm⟩ := hn.later clock plan (hidles looks)
    rw [← Function.iterate_add_apply] at hm
    exact ⟨m + n, hm⟩

end Stages

end Lone

namespace Session

variable {W : Type} {link : Link W} {room required : Nat}

/-- The plan to read so many frames with a session that is there already. -/
def reading (s : Session) (room required : Nat) : ReadingPlan := ⟨fun _ => pure s, required, room⟩

/-- A reading whose record does not fit into memory fails for want of memory. -/
theorem reading_short {lack : Shortage} (s : Session)
    (hlack : WorkerReport.shortage? room required = some lack) (clock : Nat → Instant) (w : W) :
    ∃ n, ∀ fuel, n ≤ fuel → (readFrames (s.reading room required) 1 clock fuel).run link.reply w =
      ((some (.error (.outOfMemory lack)), []), (s.drop.run link.reply w).2) := by
  have hadmits := Lone.admitsOne_fresh (s.reading room required) clock w
  have hopening := Lone.leads_starting clock (s.reading room required) link (s := s) hadmits rfl
  have hshort := Lone.leads_short clock (s.reading room required) link (s := s)
    (x := (Lone.fresh (s.reading room required) clock w).later) hadmits hlack
  exact Lone.readFrames_of_leads (hopening.trans hshort) hadmits

end Session

end Spectrometer
