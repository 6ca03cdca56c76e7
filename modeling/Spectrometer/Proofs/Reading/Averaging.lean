import Spectrometer.Proofs.Reading.Polling
import Spectrometer.Proofs.Session.Averaging

/-!
Reading a device that averages frames. An averaging device never sets `memoryFull`, but the flag may
be set from before it was switched to averaging, and `clear` does nothing in the `latestFrame`
memory: the reader triggers, finds the flag, and starts over for ever. Otherwise every poll of a
session in `latestFrame` fetches a frame.
-/

namespace Spectrometer

/-- Whether a reading of `required` frames ends at a device that averages them: in `latestFrame` if
`memoryFull` is not set, and in the ring if one frame is wanted. -/
def Session.Gets (s : Session) (d : Device) (required : Nat) : Prop :=
  required = 0 ∨
    match s.memory with
    | .ring => required = 1
    | .latestFrame => d.memoryFull = false

/-- No poll of the session will fetch a frame: `memoryFull` is set and `clear` does nothing, or the
ring has no fresh average and counts as empty. -/
def Session.Starves (s : Session) (d : Device) : Prop :=
  match s.memory with
  | .ring => d.memoryFull = false ∧ d.averagedStatus = 0
  | .latestFrame => d.memoryFull = true

/-- `memoryFull` is not set, and the session is in `latestFrame`, or wants no more than the one
average that is ready. -/
structure Session.Supplied (s : Session) (d : Device) (missing : Nat) : Prop where
  notFull : d.memoryFull = false
  ready : missing = 0 ∨ s.memory = .latestFrame ∨ missing = 1 ∧ d.seemsEmpty s.memory = false

namespace Session

variable {s : Session} {d : Device} {missing required : Nat}

theorem Supplied.not_seemsEmpty (h : s.Supplied d (missing + 1)) :
    d.seemsEmpty s.memory = false := by
  obtain hnone | hlatest | ⟨-, hseems⟩ := h.ready
  · omega
  · rw [hlatest]
    rfl
  · exact hseems

theorem Supplied.fetched (h : s.Supplied d (missing + 1)) : s.Supplied d.fetched missing where
  notFull := h.notFull
  ready := by
    obtain hnone | hlatest | ⟨hone, -⟩ := h.ready
    · omega
    · exact Or.inr (Or.inl hlatest)
    · exact Or.inl (by omega)

theorem supplied_ring (hring : s.memory = .ring) (haveraging : d.isAveraging = true) :
    s.Supplied (d.restarted s.memory) 1 := by
  rw [hring]
  obtain ⟨hfull, hone⟩ := Device.restarted_ring haveraging
  have hseems : (d.restarted .ring).seemsEmpty s.memory = false := by
    simp [Device.seemsEmpty, hring, hone]
  exact ⟨hfull, Or.inr (Or.inr ⟨rfl, hseems⟩)⟩

theorem starves_ring (hring : s.memory = .ring) (hfull : d.memoryFull = false)
    (hread : d.averagedStatus = 0) : s.Starves d := by
  rw [Starves, hring]
  exact ⟨hfull, hread⟩

theorem Gets.supplied (h : s.Gets d required) (haveraging : d.isAveraging = true)
    (hsome : required ≠ 0) : s.Supplied (d.restarted s.memory) required := by
  obtain hnothing | h := h
  · exact absurd hnothing hsome
  · cases hmemory : s.memory with
    | ring =>
      rw [hmemory] at h
      subst h
      rw [← hmemory]
      exact supplied_ring hmemory haveraging
    | latestFrame =>
      rw [hmemory] at h
      have hfull := (Device.restarted_latestFrame haveraging).trans h
      exact ⟨hfull, Or.inr (Or.inl hmemory)⟩

open Emulator (link)

variable {e : Emulator}

/-- Every poll of a device that has frames in store fetches one. -/
theorem Averages.fetches (h : s.Averages e d) (hsupplied : s.Supplied d (missing + 1)) :
    ∃ e', s.Fetches link e e' ∧ s.Averages e' d.fetched := by
  have hseems := hsupplied.not_seemsEmpty
  obtain ⟨e₁, hstatus, h₁⟩ := h.status
  obtain ⟨e₂, hempty, h₂⟩ := h₁.isEmpty
  obtain ⟨frame, e', hget, h'⟩ := h₂.get hseems
  rw [hseems] at hempty
  exact ⟨e', ⟨_, e₁, e₂, frame, hstatus, hsupplied.notFull, hempty, hget⟩, h'⟩

/-- A poll of a device that starves the session fetches nothing, and the device starves it still. -/
theorem Averages.idles (h : s.Averages e d) (hstarves : s.Starves d) :
    ∃ e', s.Idles link e e' ∧ ∃ d', s.Averages e' d' ∧ s.Starves d' := by
  obtain ⟨e₁, hstatus, h₁⟩ := h.status
  unfold Session.Starves at hstarves ⊢
  cases hmemory : s.memory with
  | ring =>
    rw [hmemory] at hstarves
    obtain ⟨hfull, hread⟩ := hstarves
    obtain ⟨e', hempty, h'⟩ := h₁.isEmpty
    have hseems : d.seemsEmpty s.memory = true := by
      rw [hmemory]
      exact beq_iff_eq.mpr hread
    rw [hseems] at hempty
    exact ⟨e', .empty hstatus hfull hempty, d, h', hfull, hread⟩
  | latestFrame =>
    rw [hmemory] at hstarves
    obtain ⟨e', hrestart, h'⟩ := h₁.restart
    rw [hmemory] at h'
    exact ⟨e', .full hstatus hstarves hrestart, d.restarted .latestFrame, h',
      (Device.restarted_latestFrame h.averaging).trans hstarves⟩

end Session

namespace Lone

open Emulator (link)

variable (clock : Nat → Instant) {x : Lone Emulator} {s : Session} {d : Device} (plan : ReadingPlan)

/-- A session that gets all frames comes to its end with them. -/
theorem leads_all (hadmits : x.barrier.AdmitsOne) (h : s.Averages x.world d)
    (hnew : x.events = []) (hfits : WorkerReport.shortage? plan.room plan.required = none)
    (hgets : s.Gets d plan.required) :
    ∃ (y : Lone Emulator) (r : Reader), (x.entering plan (.starting s)).Leads plan clock link
        (y.entering plan (.closing s (.ok r.report))) ∧
      y.barrier.AdmitsOne ∧ r.Keeps y.events ∧ r.number = plan.required := by
  by_cases hnothing : plan.required = 0
  · exact ⟨x.later, ⟨s, plan.required, 0, .new 0⟩,
      leads_nothing clock plan hadmits hfits hnothing, hadmits,
      keeps_new s plan.required hnew, hnothing.symm⟩
  · obtain ⟨e', hrestart, h'⟩ := h.restart
    obtain ⟨y, hstart, hadmits', rfl, hevents⟩ :=
      leads_restarted clock plan hadmits hrestart hfits hnothing
    let supplies (missing : Nat) (e : Emulator) : Prop :=
      ∃ d, s.Averages e d ∧ s.Supplied d missing
    have hsupplies (missing : Nat) (e : Emulator) (hsupplied : supplies (missing + 1) e) :
        ∃ e', s.Fetches link e e' ∧ supplies missing e' := by
      obtain ⟨d, h, hsupplied⟩ := hsupplied
      obtain ⟨e', hfetches, h'⟩ := h.fetches hsupplied
      exact ⟨e', hfetches, d.fetched, h', hsupplied.fetched⟩
    obtain ⟨z, r, hrest, hadmits'', hkeeps, hall, -⟩ := leads_closing clock plan hsupplies
      plan.required (r := ⟨s, plan.required, 0, .new 0⟩) hadmits' rfl
      (keeps_new s plan.required (hevents.trans hnew)) (Nat.zero_add _)
      ⟨d.restarted s.memory, h', hgets.supplied h.averaging hnothing⟩
    exact ⟨z, r, hstart.trans hrest, hadmits'', hkeeps, hall⟩

/-- A session that does not get all frames comes to a state in which no poll fetches one. -/
theorem leads_starving (hadmits : x.barrier.AdmitsOne) (h : s.Averages x.world d)
    (hnew : x.events = []) (hfits : WorkerReport.shortage? plan.room plan.required = none)
    (hgets : ¬ s.Gets d plan.required) :
    ∃ (r : Reader) (c : Course Emulator),
      (x.entering plan (.starting s)).Leads plan clock link c ∧
      Wanting plan r (fun e => ∃ d, r.session.Averages e d ∧ r.session.Starves d) c := by
  have hsome : plan.required ≠ 0 := fun hnothing => hgets (Or.inl hnothing)
  have hpos : 0 < plan.required := Nat.pos_of_ne_zero hsome
  obtain ⟨e', hrestart, h'⟩ := h.restart
  obtain ⟨y, hstart, hadmits', rfl, hevents⟩ :=
    leads_restarted clock plan hadmits hrestart hfits hsome
  let r : Reader := ⟨s, plan.required, 0, .new 0⟩
  cases hmemory : s.memory with
  | latestFrame =>
    -- The memory was full before, and stays so.
    have hfull : d.memoryFull = true := by simpa [Session.Gets, hmemory, hsome] using hgets
    have hstarves : s.Starves (d.restarted s.memory) := by
      rw [Session.Starves, hmemory]
      exact (Device.restarted_latestFrame h.averaging).trans hfull
    exact ⟨r, _, hstart, hpos, y, rfl, hadmits', _, h', hstarves⟩
  | ring =>
    -- The one average is taken for a frame; once it was fetched, the memory seems empty.
    have hmany : plan.required ≠ 1 := fun hone => hgets (Or.inr (by rwa [hmemory]))
    have hsupplied : s.Supplied (d.restarted s.memory) 1 :=
      Session.supplied_ring hmemory h.averaging
    obtain ⟨e', hfetches, h''⟩ := h'.fetches hsupplied
    obtain ⟨before, after, start, stop, frame, z, hleads, hadmits'', rfl, -⟩ :=
      leads_fetch clock plan (r := r) hadmits' hpos hfetches
        (keeps_new s plan.required (hevents.trans hnew))
    have hstarves : s.Starves (d.restarted s.memory).fetched :=
      Session.starves_ring hmemory hsupplied.notFull rfl
    have hnumber : 0 + 1 < plan.required := by omega
    exact ⟨r.record before after start stop frame, _, hstart.trans hleads, hnumber, z, rfl,
      hadmits'', _, h'', hstarves⟩

end Lone

namespace Session

open Emulator (link)

variable {s : Session} {e : Emulator} {d : Device} {room required : Nat}

/-- A session for which the device has all frames gets them, in their order. -/
theorem reading_gets (h : s.Averages e d) (hfits : WorkerReport.shortage? room required = none)
    (hgets : s.Gets d required) (clock : Nat → Instant) :
    ∃ (n : Nat) (report : WorkerReport) (events : List (Nat × FrameEvent)),
      (∀ fuel, n ≤ fuel → ((readFrames (s.reading room required) 1 clock fuel).run link.reply e).1 =
        (some (.ok ⟨[report]⟩), events)) ∧
      report.latencies.length = required ∧
      events.map (·.2.number?) = (List.range required).map some := by
  let plan := s.reading room required
  have hadmits := Lone.admitsOne_fresh plan clock e
  have hopening := Lone.leads_starting clock plan link (s := s) hadmits rfl
  obtain ⟨y, r, hall, hadmits', hkeeps, hrequired⟩ := Lone.leads_all clock plan (s := s)
    (x := (Lone.fresh plan clock e).later) hadmits h rfl hfits hgets
  obtain ⟨n, hn⟩ := Lone.readFrames_of_leads (hopening.trans hall) hadmits'
  have hall : r.number = required := hrequired
  exact ⟨n, r.report, y.events.reverse, fun fuel hfuel => congrArg Prod.fst (hn fuel hfuel),
    hkeeps.latencies.trans hall, hall ▸ hkeeps.events⟩

/-- A session for which the device does not have all frames reads for ever. -/
theorem reading_starves (h : s.Averages e d) (hfits : WorkerReport.shortage? room required = none)
    (hgets : ¬ s.Gets d required) (clock : Nat → Instant) (fuel : Nat) :
    ((readFrames (s.reading room required) 1 clock fuel).run link.reply e).1.1 = none := by
  let plan := s.reading room required
  have hadmits := Lone.admitsOne_fresh plan clock e
  have hopening := Lone.leads_starting clock plan link (s := s) hadmits rfl
  obtain ⟨r, c, hleads, hstarving⟩ := Lone.leads_starving clock plan (s := s)
    (x := (Lone.fresh plan clock e).later) hadmits h rfl hfits hgets
  have hidles (e : Emulator) (hP : ∃ d, r.session.Averages e d ∧ r.session.Starves d) :
      ∃ e', r.session.Idles link e e' ∧ ∃ d, r.session.Averages e' d ∧ r.session.Starves d := by
    obtain ⟨d, h, hstarves⟩ := hP
    exact h.idles hstarves
  exact Lone.readFrames_of_never (hopening.trans hleads) (hstarving.never_over clock _ hidles) fuel

/-- `readFrames` of one device in `frameAveraging` with the software trigger, in any state of its
memory. If the record of `required` fetch times does not fit into memory, it ends with
`outOfMemory`. Otherwise it ends with `required` frames, numbered in order, if `required` is zero,
or the session's `memory` is `latestFrame` and the device's `memoryFull` is not set, or the `memory`
is the ring and `required` is one. In every other case it never ends: `clear` does nothing in
`latestFrame`, so `memoryFull` stays, and the ring finds no second frame. -/
theorem reading_of_averaging_device {i : Nat} (hserves : e.Serves s.handle i d)
    (haveraging : d.isAveraging = true) (hcounted : d.forcedFrames = none)
    (hsoftware : s.trigger = .software) (room required : Nat) (clock : Nat → Instant) :
    let outcome (fuel : Nat) :=
      ((readFrames (s.reading room required) 1 clock fuel).run link.reply e).1
    (∀ lack, WorkerReport.shortage? room required = some lack →
      ∃ n, ∀ fuel, n ≤ fuel → outcome fuel = (some (.error (.outOfMemory lack)), [])) ∧
    (WorkerReport.shortage? room required = none → s.Gets d required →
      ∃ (n : Nat) (report : WorkerReport) (events : List (Nat × FrameEvent)),
        (∀ fuel, n ≤ fuel → outcome fuel = (some (.ok ⟨[report]⟩), events)) ∧
        report.latencies.length = required ∧
        events.map (·.2.number?) = (List.range required).map some) ∧
    (WorkerReport.shortage? room required = none → ¬ s.Gets d required →
      ∀ fuel, (outcome fuel).1 = none) := by
  intro outcome
  have h : s.Averages e d := ⟨⟨i, hserves⟩, haveraging, hcounted, hsoftware⟩
  refine ⟨fun lack hlack => ?_, fun hfits hgets => ?_, fun hfits hgets => ?_⟩
  · obtain ⟨n, hn⟩ := s.reading_short hlack clock e
    exact ⟨n, fun fuel hfuel => congrArg Prod.fst (hn fuel hfuel)⟩
  · exact reading_gets h hfits hgets clock
  · exact reading_starves h hfits hgets clock

/-- A session that fires into a memory with room for so many frames, and then has the device average
them. -/
def switched (memoryFrames : UInt16) : Session × Emulator :=
  course link [.connect, .setScans 3, .use .fire, .setMode .frameAveraging]
    (new none, .new { EmulatorConfig.default with memoryFrames })

theorem serves_switched (memoryFrames : UInt16) (full : Bool)
    (hconnected : (switched memoryFrames).1.handle.connected = true)
    (hbound : (switched memoryFrames).2.deviceOf? (switched memoryFrames).1.handle.ctx = some 0)
    (hdevice : (switched memoryFrames).2.devices[0]?.map (fun d =>
      (d.isAveraging, d.forcedFrames, d.detached, d.memoryFull)) = some (true, none, false, full)) :
    ∃ d, (switched memoryFrames).2.Serves (switched memoryFrames).1.handle 0 d ∧
      d.isAveraging = true ∧ d.forcedFrames = none ∧ d.memoryFull = full := by
  obtain ⟨d, hd, heq⟩ := Option.map_eq_some_iff.mp hdevice
  obtain ⟨haveraging, hcounted, hattached, hfull⟩ : d.isAveraging = true ∧ d.forcedFrames = none ∧
      d.detached = false ∧ d.memoryFull = full := by simpa using heq
  have huntroubled : (switched memoryFrames).2.Untroubled :=
    untroubled_course (Emulator.untroubled_new _) _ _
  exact ⟨d, ⟨huntroubled, hconnected, hbound, hd, hattached⟩, haveraging, hcounted, hfull⟩

/-- With room for what was fired before, two averages are read. -/
theorem switched_with_room_reads_two :
    let s := (switched 3).1
    let e := (switched 3).2
    ∃ d, e.Serves s.handle 0 d ∧ d.isAveraging = true ∧ d.forcedFrames = none ∧
      s.trigger = .software ∧ ∃ (n : Nat) (report : WorkerReport) (events : List (Nat × FrameEvent)),
        (∀ fuel, n ≤ fuel → ((readFrames (s.reading 0x100000 2) 1 id fuel).run link.reply e).1 =
          (some (.ok ⟨[report]⟩), events)) ∧
        report.latencies.length = 2 ∧ events.map (·.2.number?) = [some 0, some 1] := by
  intro s e
  obtain ⟨d, hserves, haveraging, hcounted, hfull⟩ :=
    serves_switched 3 false (by decide) (by decide) (by decide)
  have hsoftware : s.trigger = .software := by decide
  have hmemory : s.memory = .latestFrame := by decide
  have hgets : s.Gets d 2 := by
    rw [Gets, hmemory]
    exact Or.inr hfull
  have hread := reading_of_averaging_device hserves haveraging hcounted hsoftware 0x100000 2 id
  exact ⟨d, hserves, haveraging, hcounted, hsoftware, hread.2.1 (by decide) hgets⟩

/-- The memory that was full before the device was switched to averaging is never cleared, and the
first average is never read. -/
theorem switched_full_reads_for_ever :
    let s := (switched 2).1
    let e := (switched 2).2
    ∃ d, e.Serves s.handle 0 d ∧ d.isAveraging = true ∧ d.forcedFrames = none ∧
      s.trigger = .software ∧ ∀ clock fuel,
        ((readFrames (s.reading 0x100000 1) 1 clock fuel).run link.reply e).1.1 = none := by
  intro s e
  obtain ⟨d, hserves, haveraging, hcounted, hfull⟩ :=
    serves_switched 2 true (by decide) (by decide) (by decide)
  have hsoftware : s.trigger = .software := by decide
  have hmemory : s.memory = .latestFrame := by decide
  have hstarves : ¬ s.Gets d 1 := by simp [Gets, hmemory, hfull]
  exact ⟨d, hserves, haveraging, hcounted, hsoftware,
    reading_starves ⟨⟨0, hserves⟩, haveraging, hcounted, hsoftware⟩ (by decide) hstarves⟩

end Session

end Spectrometer
