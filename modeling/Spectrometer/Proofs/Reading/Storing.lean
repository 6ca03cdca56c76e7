import Spectrometer.Proofs.Reading.Polling
import Spectrometer.Proofs.Session.Storing

/-!
Reading a device that stores frames. The memory is cleared and filled by one acquisition, and
fetching leaves it as it is, so every poll finds the first frame. Where an acquisition gives no
frame the memory stays empty; where it gives more than fit, `memoryFull` is set, and so it is again
after `clear` and `fire`. In both cases the reader polls for ever.
-/

namespace Spectrometer

/-- The device has nothing for a session and never will have: an acquisition gives more frames than
fit, or it gave none. -/
def Device.Barren (d : Device) : Prop :=
  d.memoryFull = true ∧ d.memoryFrames < d.acquisition.scans ∨
    d.memoryFull = false ∧ d.frames.size = 0

theorem Device.barren_restarted {d : Device} (hstoring : d.isAveraging = false)
    (hfits : ¬ (1 ≤ d.acquisition.scans ∧ d.acquisition.scans ≤ d.memoryFrames)) :
    (d.restarted .ring).Barren := by
  obtain ⟨stored, full, hrestarted, hsize, hfull⟩ := restarted_storing hstoring
  rw [hrestarted]
  by_cases hmany : d.memoryFrames < d.acquisition.scans
  · exact Or.inl ⟨hfull.mpr hmany, hmany⟩
  · have hnone : d.acquisition.scans.toNat = 0 := by
      simp only [UInt16.le_iff_toNat_le, UInt16.lt_iff_toNat_lt, UInt16.toNat_one] at hfits hmany
      omega
    refine Or.inr ⟨Bool.eq_false_iff.mpr (mt hfull.mp hmany), ?_⟩
    rw [hsize, hnone, Nat.zero_min]

namespace Session

open Emulator (link)

variable {s : Session} {j : Journal Emulator} {d : Device} {room required : Nat}

/-- A poll of a memory with frames in it and without `memoryFull` fetches the first one. -/
theorem Stores.fetches (h : s.Stores j d) (hsize : d.frames.size < UInt16.size)
    (hsome : 0 < d.frames.size) (hfull : d.memoryFull = false) :
    ∃ j', s.Fetches (Journal.link link) j j' ∧ s.Stores j' d ∧ j'.requests = j.requests ++
      [.getStatus, .getStatus, .getStatus, .getFrame 0 d.format.size.toNat] := by
  obtain ⟨j₁, hstatus, h₁, hasked₁⟩ := h.status
  obtain ⟨j₂, hempty, h₂, hasked₂⟩ := h₁.isEmpty hsize
  obtain ⟨frame, j', hget, h', hasked'⟩ := h₂.get hsize hsome
  have hnot : (d.frames.size == 0) = false := beq_eq_false_iff_ne.mpr (Nat.ne_of_gt hsome)
  rw [hnot] at hempty
  refine ⟨j', ⟨_, j₁, j₂, frame, hstatus, hfull, hempty, hget⟩, h', ?_⟩
  rw [hasked', hasked₂, hasked₁]
  simp

/-- A poll of a barren device fetches nothing. -/
theorem Stores.idles (h : s.Stores j d) (hbarren : d.Barren) :
    ∃ j', s.Idles (Journal.link link) j j' ∧ (∃ d', s.Stores j' d' ∧ d'.Barren) ∧
      j.requests.length < j'.requests.length := by
  obtain ⟨j₁, hstatus, h₁, hasked₁⟩ := h.status
  obtain ⟨hfull, hmany⟩ | ⟨hfull, hnone⟩ := hbarren
  · obtain ⟨j', hrestart, h', hasked'⟩ := h₁.restart
    have hbarren' : (d.restarted .ring).Barren := by
      apply Device.barren_restarted h.storing
      exact fun hfits => absurd hmany (UInt16.not_lt.mpr hfits.2)
    refine ⟨j', .full hstatus hfull hrestart, ⟨_, h', hbarren'⟩, ?_⟩
    rw [hasked', hasked₁]
    simp
  · obtain ⟨j', hempty, h', hasked'⟩ := h₁.isEmpty (by rw [hnone]; decide)
    rw [hnone] at hempty
    refine ⟨j', .empty hstatus hfull hempty, ⟨d, h', Or.inr ⟨hfull, hnone⟩⟩, ?_⟩
    rw [hasked', hasked₁]
    simp

/-- Giving a session up is no request. -/
theorem requests_drop (s : Session) (j : Journal Emulator) :
    (s.drop.run (Journal.link link).reply j).2.requests = j.requests := by
  unfold Session.drop
  rw [Handle.run_drop]
  split
  · simp [Journal.link, Call.request?]
  · rfl

/-- A reading whose record does not fit into memory fails without a request. -/
theorem reading_unasked {lack : Shortage} (s : Session)
    (hlack : WorkerReport.shortage? room required = some lack) (clock : Nat → Instant)
    (j : Journal Emulator) :
    ∃ n, ∀ fuel, n ≤ fuel →
      let run := (readFrames (s.reading room required) 1 clock fuel).run (Journal.link link).reply j
      run.1 = (some (.error (.outOfMemory lack)), []) ∧ run.2.requests = j.requests := by
  obtain ⟨n, hn⟩ := s.reading_short hlack clock j
  refine ⟨n, fun fuel hfuel => ?_⟩
  intro run
  have hrun : run = _ := hn fuel hfuel
  rw [hrun]
  exact ⟨rfl, requests_drop s j⟩

/-- What is asked of a device while so many stored frames are read. -/
def storedRequests (size : UInt16) (frames : Nat) : List Request :=
  [.clearMemory, .trigger] ++ (List.replicate frames
    [.getStatus, .getStatus, .getStatus, .getFrame 0 size.toNat]).flatten

theorem storedRequests_succ (size : UInt16) (frames : Nat) :
    storedRequests size (frames + 1) = storedRequests size frames ++
      [.getStatus, .getStatus, .getStatus, .getFrame 0 size.toNat] := by
  simp [storedRequests, List.replicate_succ']

/-- A reading of a frame or more clears and triggers before its first poll. -/
theorem Stores.leads_polling (h : s.Stores j d)
    (hfits : WorkerReport.shortage? room required = none) (hsome : 1 ≤ required)
    (clock : Nat → Instant) :
    let plan := s.reading room required
    ∃ x : Lone (Journal Emulator),
      ((Lone.fresh plan clock j).entering plan .opening).Leads plan clock (Journal.link link)
        (x.entering plan (.polling ⟨s, required, 0, .new 0⟩)) ∧
      x.barrier.AdmitsOne ∧ s.Stores x.world (d.restarted .ring) ∧
      x.world.requests = j.requests ++ [.clearMemory, .trigger] ∧ x.events = [] := by
  intro plan
  have hadmits := Lone.admitsOne_fresh plan clock j
  have hopening := Lone.leads_starting clock plan (Journal.link link) (s := s) hadmits rfl
  obtain ⟨j₁, hrestart, h₁, hasked⟩ := h.restart
  obtain ⟨x, hstart, hadmits', rfl, hevents⟩ := Lone.leads_restarted clock plan
    (x := (Lone.fresh plan clock j).later) hadmits hrestart hfits (Nat.ne_of_gt hsome)
  exact ⟨x, hopening.trans hstart, hadmits', h₁, hasked, hevents⟩

/-- A session at a device with one acquisition in its memory gets all frames. -/
theorem reading_stored (h : s.Stores j d) (hnew : j.requests = [])
    (hfits : WorkerReport.shortage? room required = none) (hsome : 1 ≤ required)
    (hone : 1 ≤ d.acquisition.scans) (hroom : d.acquisition.scans ≤ d.memoryFrames)
    (clock : Nat → Instant) :
    let run (fuel : Nat) :=
      (readFrames (s.reading room required) 1 clock fuel).run (Journal.link link).reply j
    ∃ (n : Nat) (report : WorkerReport) (events : List (Nat × FrameEvent)),
      (∀ fuel, n ≤ fuel → (run fuel).1 = (some (.ok ⟨[report]⟩), events) ∧
        (run fuel).2.requests = storedRequests d.format.size required) ∧
      report.latencies.length = required ∧
      events.map (·.2.number?) = (List.range required).map some := by
  intro run
  obtain ⟨x, hleads, hadmits, h₁, hasked, hevents⟩ := h.leads_polling hfits hsome clock
  -- Whatever was fetched, the memory is as the acquisition left it.
  obtain ⟨stored, full, hrestarted, hsize, hfull⟩ := Device.restarted_storing h.storing
  have hnot : full = false := Bool.eq_false_iff.mpr (mt hfull.mp (UInt16.not_lt.mpr hroom))
  have hstored : stored.size < UInt16.size ∧ 0 < stored.size := by
    have hbound : d.acquisition.scans.toNat < UInt16.size := d.acquisition.scans.toNat_lt
    simp only [UInt16.le_iff_toNat_le, UInt16.toNat_one] at hone hroom
    omega
  let supplies (missing : Nat) (j : Journal Emulator) : Prop :=
    s.Stores j (d.restarted .ring) ∧ missing ≤ required ∧
      j.requests = storedRequests d.format.size (required - missing)
  have hsupplies (missing : Nat) (j : Journal Emulator) (hsupplied : supplies (missing + 1) j) :
      ∃ j', s.Fetches (Journal.link link) j j' ∧ supplies missing j' := by
    obtain ⟨h, hmissing, hrow⟩ := hsupplied
    obtain ⟨j', hfetches, h', hasked'⟩ := h.fetches (by rw [hrestarted]; exact hstored.1)
      (by rw [hrestarted]; exact hstored.2) (by rw [hrestarted]; exact hnot)
    refine ⟨j', hfetches, h', by omega, ?_⟩
    have hnext : required - missing = required - (missing + 1) + 1 := by omega
    rw [hasked', hrow, hnext, storedRequests_succ, hrestarted]
    rfl
  have hsupplied : supplies required x.world := by
    refine ⟨h₁, Nat.le_refl _, ?_⟩
    rw [hasked, hnew, Nat.sub_self]
    rfl
  obtain ⟨y, r, hrest, hadmits', hkeeps, hnumber, -, -, hrow⟩ := Lone.leads_closing clock
    (s.reading room required) hsupplies required (r := ⟨s, required, 0, .new 0⟩) hadmits rfl
    (Lone.keeps_new s required hevents) (Nat.zero_add _) hsupplied
  obtain ⟨n, hn⟩ := Lone.readFrames_of_leads (hleads.trans hrest) hadmits'
  have hall : r.number = required := hnumber
  refine ⟨n, r.report, y.events.reverse, fun fuel hfuel => ?_, hkeeps.latencies.trans hall,
    hall ▸ hkeeps.events⟩
  have hrun : run fuel = _ := hn fuel hfuel
  rw [hrun]
  exact ⟨rfl, (requests_drop s y.world).trans hrow⟩

/-- A session at a device that has nothing polls for ever. -/
theorem reading_barren (h : s.Stores j d) (hfits : WorkerReport.shortage? room required = none)
    (hsome : 1 ≤ required)
    (hbarren : ¬ (1 ≤ d.acquisition.scans ∧ d.acquisition.scans ≤ d.memoryFrames))
    (clock : Nat → Instant) :
    let run (fuel : Nat) :=
      (readFrames (s.reading room required) 1 clock fuel).run (Journal.link link).reply j
    (∀ fuel, (run fuel).1.1 = none) ∧ ∀ looks, ∃ fuel, looks ≤ (run fuel).2.requests.length := by
  intro run
  obtain ⟨x, hleads, hadmits, h₁, -, -⟩ := h.leads_polling hfits hsome clock
  let plan := s.reading room required
  let r : Reader := ⟨s, required, 0, .new 0⟩
  let waits (looks : Nat) (j : Journal Emulator) : Prop :=
    (∃ d, s.Stores j d ∧ d.Barren) ∧ looks ≤ j.requests.length
  have hidles (looks : Nat) (j : Journal Emulator) (hwaits : waits looks j) :
      ∃ j', s.Idles (Journal.link link) j j' ∧ waits (looks + 1) j' := by
    obtain ⟨⟨d, h, hbarren⟩, hlooks⟩ := hwaits
    obtain ⟨j', hlook, hlater, hmore⟩ := h.idles hbarren
    exact ⟨j', hlook, hlater, by omega⟩
  have hwanting : Lone.Wanting plan r (waits 0) (x.entering plan (.polling r)) :=
    ⟨hsome, x, rfl, hadmits, ⟨_, h₁, Device.barren_restarted h.storing hbarren⟩, Nat.zero_le _⟩
  constructor
  · intro fuel
    refine Lone.readFrames_of_never hleads (hwanting.never_over clock plan fun j hwaits => ?_) fuel
    obtain ⟨j', hlook, hlater, -⟩ := hidles 0 j hwaits
    exact ⟨j', hlook, hlater, Nat.zero_le _⟩
  · intro looks
    obtain ⟨n, -, y, hcourse, -, -, hlooks⟩ := hwanting.again clock plan hidles looks
    obtain ⟨m, -, hm⟩ := hleads
    refine ⟨n + m, ?_⟩
    have hworld : (run (n + m)).2 = y.world := by
      rw [Course.readFrames_world, Lone.start_eq, Function.iterate_add_apply, hm]
      exact congrArg Course.world hcourse
    rw [hworld]
    exact hlooks

/-- A reading of one device by itself, of one frame or more, where the device stores frames and the
session's `memory` is the ring, whatever the frame memory held before. Where the record of the fetch
times does not fit into memory, `readFrames` ends with `outOfMemory` and without a request. Else it
ends if and only if `scans` is at least one and at most `memoryFrames`. It then ends with the report
after one `clearMemory`, one `trigger` and one `getFrame 0` for each frame, and its events are
`fetched` for each frame in turn and never `memoryFull`. Where it does not end, it makes any number
of requests. -/
theorem reading_of_storing_device {e : Emulator} {i : Nat} (hserves : e.Serves s.handle i d)
    (hstoring : d.isAveraging = false) (hcounted : d.forcedFrames = none)
    (hsoftware : s.trigger = .software) (hmemory : s.memory = .ring) (hsome : 1 ≤ required)
    (clock : Nat → Instant) :
    let run (fuel : Nat) :=
      (readFrames (s.reading room required) 1 clock fuel).run (Journal.link link).reply ⟨e, []⟩
    let fits := 1 ≤ d.acquisition.scans ∧ d.acquisition.scans ≤ d.memoryFrames
    (∀ lack, WorkerReport.shortage? room required = some lack → ∃ n, ∀ fuel, n ≤ fuel →
      (run fuel).1 = (some (.error (.outOfMemory lack)), []) ∧ (run fuel).2.requests = []) ∧
    (WorkerReport.shortage? room required = none →
      ((∃ fuel, (run fuel).1.1.isSome = true) ↔ fits) ∧
      (fits → ∃ (n : Nat) (report : WorkerReport) (events : List (Nat × FrameEvent)),
        (∀ fuel, n ≤ fuel → (run fuel).1 = (some (.ok ⟨[report]⟩), events) ∧
          (run fuel).2.requests = storedRequests d.format.size required) ∧
        report.latencies.length = required ∧
        events.map (·.2.number?) = (List.range required).map some) ∧
      (¬ fits → (∀ fuel, (run fuel).1.1 = none) ∧
        ∀ looks, ∃ fuel, looks ≤ (run fuel).2.requests.length)) := by
  intro run fits
  have h : s.Stores ⟨e, []⟩ d := ⟨⟨i, hserves⟩, hstoring, hcounted, hsoftware, hmemory⟩
  have hends (hshort : WorkerReport.shortage? room required = none) (hfits : fits) :=
    reading_stored h rfl hshort hsome hfits.1 hfits.2 clock
  have hnever (hshort : WorkerReport.shortage? room required = none) (hbarren : ¬ fits) :=
    reading_barren h hshort hsome hbarren clock
  refine ⟨fun lack hlack => s.reading_unasked hlack clock ⟨e, []⟩,
    fun hshort => ⟨⟨?_, ?_⟩, hends hshort, hnever hshort⟩⟩
  · rintro ⟨fuel, hover⟩
    by_contra hbarren
    rw [(hnever hshort hbarren).1 fuel] at hover
    cases hover
  · intro hfits
    obtain ⟨n, report, events, hn, -⟩ := hends hshort hfits
    refine ⟨n, ?_⟩
    have houtcome : (run n).1 = _ := (hn n (Nat.le_refl n)).1
    rw [houtcome]
    rfl

/-- A session that has connected and set the number of scans, at a device with room for three
frames. -/
def scanning (scans : UInt16) : Session × Emulator :=
  course link [.connect, .setScans scans]
    (new none, .new { EmulatorConfig.default with memoryFrames := 3 })

theorem serves_scanning_two :
    let s := (scanning 2).1
    let e := (scanning 2).2
    ∃ d, e.Serves s.handle 0 d ∧ d.isAveraging = false ∧ d.forcedFrames = none ∧
      s.trigger = .software ∧ s.memory = .ring ∧
      1 ≤ d.acquisition.scans ∧ d.acquisition.scans ≤ d.memoryFrames := by
  intro s e
  have hdevice : e.devices[0]?.map (fun d => (d.isAveraging, d.forcedFrames, d.detached,
      d.acquisition.scans, d.memoryFrames)) = some (false, none, false, 2, 3) := by decide
  obtain ⟨d, hd, hview⟩ := Option.map_eq_some_iff.mp hdevice
  obtain ⟨hstoring, hcounted, hattached, hscans, hroom⟩ : d.isAveraging = false ∧
      d.forcedFrames = none ∧ d.detached = false ∧ d.acquisition.scans = 2 ∧
      d.memoryFrames = 3 := by simpa using hview
  have hserves : e.Serves s.handle 0 d :=
    ⟨untroubled_course (Emulator.untroubled_new _) _ _, by decide, by decide, hd, hattached⟩
  have hfits : 1 ≤ d.acquisition.scans ∧ d.acquisition.scans ≤ d.memoryFrames := by
    rw [hscans, hroom]
    decide
  exact ⟨d, hserves, hstoring, hcounted, by decide, by decide, hfits⟩

/-- Two frames are stored and three are read. -/
theorem scanning_two_reads_three :
    let s := (scanning 2).1
    let e := (scanning 2).2
    ∃ d, e.Serves s.handle 0 d ∧ d.isAveraging = false ∧ d.forcedFrames = none ∧
      s.trigger = .software ∧ s.memory = .ring ∧
      ∃ (n : Nat) (report : WorkerReport) (events : List (Nat × FrameEvent)),
        (∀ fuel, n ≤ fuel →
          let run :=
            (readFrames (s.reading 0x100000 3) 1 id fuel).run (Journal.link link).reply ⟨e, []⟩
          run.1 = (some (.ok ⟨[report]⟩), events) ∧
            run.2.requests = storedRequests d.format.size 3) ∧
        report.latencies.length = 3 ∧
        events.map (·.2.number?) = [some 0, some 1, some 2] := by
  intro s e
  obtain ⟨d, hserves, hstoring, hcounted, hsoftware, hmemory, hfits⟩ := serves_scanning_two
  exact ⟨d, hserves, hstoring, hcounted, hsoftware, hmemory,
    ((reading_of_storing_device hserves hstoring hcounted hsoftware hmemory (by decide) id).2
      (by decide)).2.1 hfits⟩

/-- Two frames are stored, but the record of 18446744073709551615 fetch times has more bytes than
can be addressed: in any room, `readFrames` ends with `outOfMemory`, without a request and without
a report. -/
theorem scanning_two_out_of_memory :
    let s := (scanning 2).1
    let e := (scanning 2).2
    (∃ d, e.Serves s.handle 0 d ∧ d.isAveraging = false ∧ d.forcedFrames = none ∧
      s.trigger = .software ∧ s.memory = .ring ∧
      1 ≤ d.acquisition.scans ∧ d.acquisition.scans ≤ d.memoryFrames) ∧
    ∀ room clock, ∃ n, ∀ fuel, n ≤ fuel →
      let run := (readFrames (s.reading room 18446744073709551615) 1 clock fuel).run
        (Journal.link link).reply ⟨e, []⟩
      run.1 = (some (.error (.outOfMemory .unaddressable)), []) ∧ run.2.requests = [] ∧
        ∀ report events, run.1 ≠ (some (.ok report), events) := by
  intro s e
  refine ⟨serves_scanning_two, fun room clock => ?_⟩
  have hlack : WorkerReport.shortage? room 18446744073709551615 = some .unaddressable := rfl
  obtain ⟨n, hn⟩ := s.reading_unasked hlack clock ⟨e, []⟩
  refine ⟨n, fun fuel hfuel => ?_⟩
  obtain ⟨hended, hasked⟩ := hn fuel hfuel
  refine ⟨hended, hasked, fun report events hok => ?_⟩
  cases hended.symm.trans hok

end Session

end Spectrometer
