import Spectrometer.Proofs.Command.Job
import Spectrometer.Proofs.Reading.Confluence
import Spectrometer.Proofs.Reading.Latest
import Spectrometer.Proofs.Reading.Span

/-!
The command that reads several devices at the same time. It is given an emulator whose attached
devices may have been set to anything before, as long as their memory is not full; the workers have
devices of their own, so what becomes of each of them is what becomes of it alone.
-/

namespace Spectrometer.Command

open Emulator (link)

/-- What is said once so many frames of so many devices were read. -/
def Closes (devices frames : Nat) (lines : List String) : Prop :=
  if devices = 0 then lines = ["No devices to read from"]
  else if frames = 0 then lines = ["No final frames were read"]
  else ∃ (took : Nat → Nat) (total : Nat), lines =
    (List.range devices).map (fun device =>
        s!"Device {device}: final fetch took " ++ Text.duration (took device)) ++
      ["Simultaneous fetch time on all devices: " ++ Text.duration total]

theorem exists_span {reports : List WorkerReport} {w : WorkerReport} (hw : w ∈ reports)
    (hstart : w.start.isSome = true) (hstop : w.stop.isSome = true) :
    ∃ total, SimultaneousReport.span ⟨reports⟩ = some total := by
  cases hspan : SimultaneousReport.span ⟨reports⟩ with
  | some total => exact ⟨total, rfl⟩
  | none =>
    obtain hnone | hnone := SimultaneousReport.span_eq_none_iff.mp hspan
    · rw [hnone w hw] at hstart
      cases hstart
    · rw [hnone w hw] at hstop
      cases hstop

/-- Without a last frame in any report there are no closing lines. -/
theorem reportLines_of_none {reports : List WorkerReport}
    (hstart : ∀ w ∈ reports, w.start = none) :
    reportLines ⟨reports⟩ = ["No final frames were read"] := by
  have hlines : reports.flatMap fetchLines = [] := by
    refine List.flatMap_eq_nil_iff.mpr fun w hw => ?_
    unfold fetchLines
    rw [hstart w hw]
  have hspan : SimultaneousReport.span ⟨reports⟩ = none :=
    SimultaneousReport.span_eq_none_iff.mpr (Or.inl hstart)
  unfold reportLines
  rw [hspan, hlines]
  rfl

/-- How long the last fetch of a device took that came to it. -/
def took (w : WorkerReport) : Nat := w.stop.getD 0 - w.start.getD 0

/-- With a last frame in every report there is a closing line for each and one for the total time. -/
theorem reportLines_of_some {reports : List WorkerReport} {w : WorkerReport} (hw : w ∈ reports)
    (htimes : ∀ w ∈ reports, w.start.isSome = true ∧ w.stop.isSome = true) :
    ∃ total, reportLines ⟨reports⟩ =
      reports.map (fun w => s!"Device {w.device}: final fetch took " ++ Text.duration (took w)) ++
        ["Simultaneous fetch time on all devices: " ++ Text.duration total] := by
  have hline (w : WorkerReport) (hw : w ∈ reports) : fetchLines w =
      [s!"Device {w.device}: final fetch took " ++ Text.duration (took w)] := by
    obtain ⟨hstart, hstop⟩ := htimes w hw
    obtain ⟨start, hstart⟩ := Option.isSome_iff_exists.mp hstart
    obtain ⟨stop, hstop⟩ := Option.isSome_iff_exists.mp hstop
    simp only [fetchLines, took, hstart, hstop, Option.getD_some]
  obtain ⟨total, htotal⟩ := exists_span hw (htimes w hw).1 (htimes w hw).2
  refine ⟨total, ?_⟩
  unfold reportLines
  rw [htotal, List.flatMap_def, List.map_congr_left hline, ← List.flatMap_def,
    ← List.map_eq_flatMap]

/-- The closing lines of reports each of which has the instants of a last fetch if and only if a
frame was required. -/
theorem closes_reportLines {reports : List WorkerReport} {devices frames : Nat}
    (hdevices : devices ≠ 0) (hlength : reports.length = devices)
    (hreports : ∀ index, index < devices → ∃ report, reports[index]? = some report ∧
      report.device = index ∧ report.start.isSome = (0 < frames : Bool) ∧
      report.stop.isSome = (0 < frames : Bool)) :
    Closes devices frames (reportLines ⟨reports⟩) := by
  have htimes (w : WorkerReport) (hw : w ∈ reports) :
      w.start.isSome = (0 < frames : Bool) ∧ w.stop.isSome = (0 < frames : Bool) := by
    obtain ⟨index, hindex⟩ := List.getElem?_of_mem hw
    obtain ⟨report, hreport, -, htimes⟩ :=
      hreports index (hlength ▸ (List.getElem?_eq_some_iff.mp hindex).1)
    obtain rfl := Option.some.inj (hindex.symm.trans hreport)
    exact htimes
  unfold Closes
  rw [if_neg hdevices]
  by_cases hnone : frames = 0
  · subst hnone
    rw [if_pos rfl]
    exact reportLines_of_none fun w hw => by simpa using (htimes w hw).1
  · have hpos : (0 < frames : Bool) = true := decide_eq_true (Nat.pos_of_ne_zero hnone)
    rw [hpos] at htimes
    rw [if_neg hnone]
    obtain ⟨first, hfirst, -⟩ := hreports 0 (Nat.pos_of_ne_zero hdevices)
    obtain ⟨total, htotal⟩ := reportLines_of_some (List.mem_of_getElem? hfirst) htimes
    refine ⟨fun index => reports[index]?.elim 0 took, total, ?_⟩
    rw [htotal]
    congr 1
    apply List.ext_getElem?
    intro index
    obtain hlt | hge := Nat.lt_or_ge index devices
    · obtain ⟨report, hreport, hdevice, -⟩ := hreports index hlt
      simp only [List.getElem?_map, List.getElem?_range hlt, hreport, Option.map_some, hdevice,
        Option.elim_some]
    · rw [List.getElem?_eq_none (by simpa [hlength] using hge),
        List.getElem?_eq_none (by simpa using hge)]

/-- How every worker prepares its session. -/
def averagingSteps (index : Nat) : List Preparation :=
  [.connect, .setScans 1, .setBlankScans 0, .setMode .frameAveraging,
    .setExposure (exposureStep * (UInt32.ofNat index + 1))].map (⟨·, true⟩)

theorem openAveraging_eq_prepare {serials : List String} {index : Nat} {serial : String}
    (hserial : serials[index]? = some serial) :
    openAveraging serials index = prepare serial (averagingSteps index) := by
  unfold openAveraging prepare averagingSteps
  rw [hserial, Session.establish_eq_opening, ← orDrop_eq_opening]
  simp only [List.map_cons, List.map_nil, List.foldlM_cons, List.foldlM_nil, bind_pure]
  rfl

theorem acquisition_averagedFor {d : Device} (haveraging : d.isAveraging = true)
    (frames : Nat) : (d.averagedFor frames).acquisition = d.acquisition := by
  unfold Device.averagedFor
  split
  · rfl
  · obtain ⟨frame, htrigger⟩ := Device.trigger_eq haveraging
    rw [htrigger]
    rfl

theorem fetches_averagedFor (d : Device) (frames : Nat) :
    (d.averagedFor frames).latest.fetches frames frames =
      d.trigger.latest.fetches frames frames := by
  unfold Device.averagedFor
  split
  · rename_i hnone
    rw [hnone]
    rfl
  · rfl

/-- An emulator that so many frames can be read from so many devices of: they are attached, found by
their serial numbers, and none of them starts with a full memory. -/
structure Ready (e : Emulator) (devices frames room : Nat) : Prop where
  sound : e.Sound
  untroubled : e.Untroubled
  distinct : e.serials.Nodup
  roomy : ∀ d ∈ e.devices, d.detached = false → d.memoryFull = false
  enough : devices ≤ e.serials.length
  few : devices ≤ 429496
  fits : WorkerReport.shortage? room frames = none

/-- `frames` frames were read from each of the first attached devices, and their `fetched` events
are in order. Each of the devices was set to `frameAveraging` of single scans with an exposure of
its own, all frames are the average that it made then, and no other device has changed. -/
structure Averaged (e e' : Emulator) (devices frames : Nat) (told : List (Nat × FrameEvent)) :
    Prop where
  workers : ∀ x ∈ told, x.1 < devices
  read : ∀ index, index < devices → ∃ i d d', e.attached[index]? = some i ∧
    e.devices[i]? = some d ∧ e'.devices[i]? = some d' ∧
    d'.acquisition = ⟨1, 0, .frameAveraging, .ofNat (1000 * (index + 1))⟩ ∧
    d' = (d.tunedTo d'.acquisition).averagedFor frames ∧
    (told.filter (·.1 == index)).map (·.2.untimed) = d'.latest.fetches frames frames
  others : ∀ i, (∀ index, index < devices → e.attached[index]? ≠ some i) →
    e'.devices[i]? = e.devices[i]?

/-- The plan of the command: every device averages frames. -/
def averagingPlan (e : Emulator) (frames room : Nat) : ReadingPlan :=
  ⟨openAveraging e.serials, frames, room⟩

namespace Ready

variable {e : Emulator} {devices frames room : Nat}

/-- Steps after which a worker is gone when it is alone. -/
def steps (frames : Nat) : Nat := 12 * frames + 40

/-- The attached device of that number is the one that its serial number finds. -/
theorem exists_found (h : Ready e devices frames room) {index : Nat} (hindex : index < devices) :
    ∃ i d, e.attached[index]? = some i ∧ e.devices[i]? = some d ∧ d.detached = false ∧
      e.serials[index]? = some d.serial ∧ e.findBySerial? (some d.serial) = some i := by
  obtain ⟨i, d, hi, hd, hattached, hserial⟩ :=
    e.exists_attached (Nat.lt_of_lt_of_le hindex h.enough)
  exact ⟨i, d, hi, hd, hattached, hserial,
    Emulator.only_of_nodup h.distinct d.serial i d hd hattached rfl⟩

/-- The worker of that number, alone, reads the attached device of that number. -/
theorem alone (h : Ready e devices frames room) {index : Nat} (hindex : index < devices) :
    ∃ i d, e.attached[index]? = some i ∧ e.devices[i]? = some d ∧
      ∀ clock, ∃ (y : Lone Emulator) (report : WorkerReport),
        (Course.next ((averagingPlan e frames room).alone index) clock link)^[steps frames]
          (.start ((averagingPlan e frames room).alone index) 1 clock e) =
            y.course (.gone (.ok report)) ∧
        y.world.devices[i]? = some ((d.tunedTo (averaging index)).averagedFor frames) ∧
        y.events.reverse.map (·.2.untimed) =
          (d.tunedTo (averaging index)).trigger.latest.fetches frames frames ∧
        report.start.isSome = (0 < frames : Bool) ∧ report.stop.isSome = (0 < frames : Bool) := by
  obtain ⟨i, d, hi, hd, hattached, hserial, hfound⟩ := h.exists_found hindex
  refine ⟨i, d, hi, hd, fun clock => ?_⟩
  obtain ⟨s, e', hopen, htunes⟩ := tunes_openAveraging hserial
    (Nat.lt_of_lt_of_le hindex h.few) h.sound h.untroubled hfound hd hattached
  have hlatest : s.Latest e' i (d.tunedTo (averaging index)) :=
    htunes.latest rfl (h.roomy d (List.mem_of_getElem? hd) hattached)
  let plan := (averagingPlan e frames room).alone index
  have hopening : (plan.openDevice 0).run.Within 19 := within_openAveraging e.serials index
  have hopened : (plan.openDevice 0).run.run link.reply e = (.ok s, e') := hopen
  have hfits : WorkerReport.shortage? plan.room plan.required = none := h.fits
  have hsteps : 19 + 12 * plan.required + 21 ≤ steps frames := by
    change 19 + 12 * frames + 21 ≤ 12 * frames + 40
    omega
  exact Lone.reads_latest clock hopening hopened hlatest hfits hsteps

theorem serial_eq (h : Ready e devices frames room) {index : Nat} (hindex : index < devices) :
    ∃ serial, e.serials[index]? = some serial ∧
      e.findBySerial? (some serial) = e.attached[index]? := by
  obtain ⟨i, d, hi, -, -, hserial, hfound⟩ := h.exists_found hindex
  exact ⟨d.serial, hserial, hfound.trans hi.symm⟩

/-- The workers of the command make a cast. -/
def cast (h : Ready e devices frames room) : Cast (averagingPlan e frames room) devices e where
  serial index := e.serials[index]?.getD ""
  own index := e.attached[index]?
  clock _ := id
  bound _ := steps frames
  opens := by
    intro index hindex
    obtain ⟨serial, hserial, -⟩ := h.serial_eq hindex
    change Attempt.OpenAlike _ (openAveraging e.serials index) (openAveraging e.serials index)
    rw [openAveraging_eq_prepare hserial, hserial]
    exact openAlike_prepare _ _
  only := by
    intro index hindex
    obtain ⟨serial, hserial, hfound⟩ := h.serial_eq hindex
    rw [hserial, ← hfound]
    exact Emulator.only_of_nodup h.distinct serial
  apart := by
    intro index other i hindex _ hne hi hother
    have hlt : index < e.attached.length := (List.getElem?_eq_some_iff.mp hi).1
    exact hne ((List.getElem?_inj hlt e.attached_nodup).mp (hi.trans hother.symm))
  ends := by
    intro index hindex
    obtain ⟨i, d, -, -, halone⟩ := h.alone hindex
    obtain ⟨y, report, hgone, -⟩ := halone id
    rw [hgone]
    rfl
  sound := h.sound
  untroubled := h.untroubled

/-- The result of the worker of that number, its events and its device after every interleaving. -/
theorem settled (h : Ready e devices frames room) {n : Nat} {g : Group} {e' : Emulator}
    (hlockstep : h.cast.Lockstep n g e') {results : List WorkerResult}
    (hover : g.results? = some results) {index : Nat} (hindex : index < devices) :
    ∃ i d report, e.attached[index]? = some i ∧ e.devices[i]? = some d ∧
      results[index]? = some (.ok report) ∧ report.device = index ∧
      report.start.isSome = (0 < frames : Bool) ∧ report.stop.isSome = (0 < frames : Bool) ∧
      e'.devices[i]? = some ((d.tunedTo (averaging index)).averagedFor frames) ∧
      (g.events.reverse.filter (·.1 == index)).map (·.2.untimed) =
        (d.tunedTo (averaging index)).trigger.latest.fetches frames frames := by
  obtain ⟨i, d, hi, hd, halone⟩ := h.alone hindex
  obtain ⟨y, report', hgone, hdevice, htold', hstart, hstop⟩ := halone (h.cast.clock index)
  obtain ⟨-, hsettled⟩ := hlockstep.settled hover
  obtain ⟨r, r', hr, hr', htogether, htold, hsame⟩ := hsettled index hindex
  have hcourse : h.cast.course index (h.cast.bound index) = y.course (.gone (.ok report')) := hgone
  rw [hcourse] at hr' htold hsame
  obtain rfl : r' = .ok report' := by
    cases hr'
    rfl
  cases htogether with
  | ok hresembles =>
    rename_i report
    have htold : (g.events.reverse.filter (·.1 == index)).map (·.2.untimed) =
        y.events.reverse.map (·.2.untimed) := by
      rw [List.filter_reverse, List.map_reverse, List.map_reverse]
      exact congrArg List.reverse htold
    exact ⟨i, d, report, hi, hd, hr, hresembles.device_eq, hresembles.isSome_start.trans hstart,
      hresembles.isSome_stop.trans hstop, (hsame i hi).trans hdevice, htold.trans htold'⟩

/-- In every interleaving the reading ends with a report of every device. -/
theorem averaged (h : Ready e devices frames room) (hsome : devices ≠ 0) {now : Instant} {n : Nat}
    {g : Group} {e' : Emulator} (hn : Group.Interleaved (averagingPlan e frames room) link
      (.new (averagingPlan e frames room) devices now, e) n (g, e'))
    {results : List WorkerResult} (hover : g.results? = some results) :
    ∃ report, Group.conclude results = .ok report ∧ Closes devices frames (reportLines report) ∧
      Averaged e e' devices frames g.events.reverse := by
  have hlockstep := h.cast.lockstep_of_interleaved hn
  have hlength := (hlockstep.settled hover).1
  have hnone (index : Nat) (error : ReadingError) : results[index]? ≠ some (.error error) := by
    intro herror
    obtain ⟨_, _, report, -, -, hreport, -⟩ :=
      h.settled hlockstep hover (hlength ▸ (List.getElem?_eq_some_iff.mp herror).1)
    cases hreport.symm.trans herror
  obtain ⟨reports, rfl, hconclude⟩ := Group.conclude_of_no_error hnone
  refine ⟨⟨reports⟩, hconclude, ?_, ?_, ?_, hlockstep.others⟩
  · rw [List.length_map] at hlength
    refine closes_reportLines hsome hlength fun index hindex => ?_
    obtain ⟨_, _, report, -, -, hreport, hdevice, hstart, hstop, -⟩ :=
      h.settled hlockstep hover hindex
    rw [List.getElem?_map] at hreport
    obtain ⟨report', hreport', hsame⟩ := Option.map_eq_some_iff.mp hreport
    obtain rfl := Except.ok.inj hsame
    exact ⟨report', hreport', hdevice, hstart, hstop⟩
  · intro x hx
    exact h.cast.event_lt hn x (List.mem_reverse.mp hx)
  · intro index hindex
    obtain ⟨i, d, _, hi, hd, -, -, -, -, hfinal, htold⟩ := h.settled hlockstep hover hindex
    have hacquisition : ((d.tunedTo (averaging index)).averagedFor frames).acquisition =
        averaging index := acquisition_averagedFor rfl frames
    refine ⟨i, d, _, hi, hd, hfinal, hacquisition, by rw [hacquisition], ?_⟩
    rw [htold, fetches_averagedFor]

end Ready

variable {e : Emulator} {devices frames room : Nat}

end Spectrometer.Command
