import Mathlib.Algebra.GroupWithZero.Nat
import Spectrometer.Proofs.Emulator.WellFormed

/-!
How full a device's memory is. Two counts are kept of what a device has carried out: the scans that
it made since its memory was last emptied, and the averages that it took since then and since the
last one was fetched. The first tells how many frames are stored and whether any had to be left out,
the second how ready the average is; switching between averaging and the other scan modes disturbs
neither. A stored frame keeps its place until the memory is emptied.
-/

namespace Spectrometer

/-- Requests after which the memory of the device that carries them out is empty. -/
def Request.empties : Request → Bool
  | reset | setFormat _ | clearMemory => true
  | _ => false

/-- A request that a device carried out, and the acquisition parameters that it held then. -/
structure Service where
  acquisition : Acquisition
  request : Request

namespace Service

def isAveraging (x : Service) : Bool := x.acquisition.mode == .frameAveraging

/-- The scans that the device made: those asked for if frames are stored one by one. -/
def scans (x : Service) : Nat :=
  if x.request = .trigger ∧ x.isAveraging = false then x.acquisition.scans.toNat else 0

/-- Whether the device took an average. -/
def averages (x : Service) : Bool := x.request == .trigger && x.isAveraging

/-- Whether the device handed an average out. -/
def delivers (x : Service) : Bool :=
  match x.request with
  | .getFrame .. => x.isAveraging
  | _ => false

/-- The scans made since the memory was last emptied, of services with the latest first. -/
def storedScans (log : List Service) : Nat :=
  ((log.takeWhile (!·.request.empties)).map scans).sum

/-- The averages taken since the memory was last emptied and since the last one was handed out. -/
def freshAverages (log : List Service) : Nat :=
  (log.takeWhile fun x => !x.request.empties && !x.delivers).countP averages

theorem storedScans_cons (x : Service) (log : List Service) :
    storedScans (x :: log) = if x.request.empties then 0 else x.scans + storedScans log := by
  unfold storedScans
  cases hempties : x.request.empties with
  | true => simp [hempties]
  | false => simp [hempties]

theorem freshAverages_cons (x : Service) (log : List Service) :
    freshAverages (x :: log) = if x.request.empties || x.delivers then 0
      else freshAverages log + if x.averages then 1 else 0 := by
  unfold freshAverages
  cases hempties : x.request.empties with
  | true => simp [hempties]
  | false =>
    cases hdelivers : x.delivers with
    | true => simp [hempties, hdelivers]
    | false => simp [hempties, hdelivers, List.countP_cons]

end Service

open Service (storedScans freshAverages)

namespace Device

/-- The memory is as full, and the average as ready, as the services of the device make it. -/
structure Filled (d : Device) (log : List Service) : Prop where
  stored : d.frames.size = min d.memoryFrames.toNat (storedScans log)
  full : d.memoryFull = true ↔ d.memoryFrames.toNat < storedScans log
  ready : d.averagedStatus.toNat = min 2 (freshAverages log)

variable {d d' : Device} {log : List Service} {limit : Option Nat} {r : Request} {value : r.Value}

theorem filled_new (serial : String) (memoryFrames : UInt16) :
    (new serial memoryFrames).Filled [] where
  stored := (Nat.min_zero _).symm
  full := by simp [new, storedScans]
  ready := rfl

/-- Where nothing is stored and nothing averaged all counts are as they were. -/
theorem Filled.keep (h : d.Filled log) {x : Service} (hempties : x.request.empties = false)
    (hdelivers : x.delivers = false) (htrigger : x.request ≠ .trigger)
    (hframes : d'.frames = d.frames) (hroom : d'.memoryFrames = d.memoryFrames)
    (hfull : d'.memoryFull = d.memoryFull) (hready : d'.averagedStatus = d.averagedStatus) :
    d'.Filled (x :: log) := by
  have hscans : storedScans (x :: log) = storedScans log := by
    simp [Service.storedScans_cons, hempties, Service.scans, htrigger]
  have haverages : freshAverages (x :: log) = freshAverages log := by
    simp [Service.freshAverages_cons, hempties, hdelivers, Service.averages, htrigger]
  refine ⟨?_, ?_, ?_⟩
  · rw [hframes, hroom, hscans]
    exact h.stored
  · rw [hfull, hroom, hscans]
    exact h.full
  · rw [hready, haverages]
    exact h.ready

theorem filled_clearMemory (d : Device) {x : Service} (hempties : x.request.empties = true)
    (log : List Service) : d.clearMemory.Filled (x :: log) := by
  have hscans : storedScans (x :: log) = 0 := by simp [Service.storedScans_cons, hempties]
  have haverages : freshAverages (x :: log) = 0 := by simp [Service.freshAverages_cons, hempties]
  refine ⟨?_, ?_, ?_⟩
  · rw [hscans, Nat.min_zero]
    rfl
  · rw [hscans]
    exact ⟨nofun, nofun⟩
  · rw [haverages]
    rfl

/-- One more average makes the device readier, up to two. -/
private theorem toNat_readier {status : UInt16} {n : Nat} (hstatus : status.toNat = min 2 n) :
    (min (status + 1) 2).toNat = min 2 (n + 1) := by
  have hsum : (status + 1).toNat = status.toNat + 1 := by
    rw [UInt16.toNat_add, UInt16.toNat_one]
    omega
  have htwo : (2 : UInt16).toNat = 2 := rfl
  change (if status + 1 ≤ 2 then status + 1 else 2 : UInt16).toNat = _
  split
  · rename_i hle
    rw [UInt16.le_iff_toNat_le, hsum, htwo] at hle
    rw [hsum]
    omega
  · rename_i hle
    rw [UInt16.le_iff_toNat_le, hsum, htwo] at hle
    rw [htwo]
    omega

theorem Filled.trigger (h : d.Filled log) :
    d.trigger.Filled (⟨d.acquisition, .trigger⟩ :: log) := by
  obtain ⟨hstored, hfull, hready⟩ := h
  have hempties : Request.trigger.empties = false := rfl
  cases haveraging : d.isAveraging with
  | true =>
    have hscans : storedScans (⟨d.acquisition, .trigger⟩ :: log) = storedScans log := by
      simp [Service.storedScans_cons, hempties, Service.scans, Service.isAveraging,
        ← isAveraging.eq_def, haveraging]
    have haverages : freshAverages (⟨d.acquisition, .trigger⟩ :: log) = freshAverages log + 1 := by
      simp [Service.freshAverages_cons, hempties, Service.delivers, Service.averages,
        Service.isAveraging, ← isAveraging.eq_def, haveraging]
    have htrigger : d.trigger = { d with
        captures := d.captures + 1
        averaged := some { d with captures := d.captures + 1 }.synthesize
        averagedStatus := min (d.averagedStatus + 1) 2 } := if_pos haveraging
    rw [htrigger]
    refine ⟨?_, ?_, ?_⟩
    · rw [hscans]
      exact hstored
    · rw [hscans]
      exact hfull
    · rw [haverages]
      exact toNat_readier hready
  | false =>
    have hscans : storedScans (⟨d.acquisition, .trigger⟩ :: log) =
        d.acquisition.scans.toNat + storedScans log := by
      simp [Service.storedScans_cons, hempties, Service.scans, Service.isAveraging,
        ← isAveraging.eq_def, haveraging]
    have haverages : freshAverages (⟨d.acquisition, .trigger⟩ :: log) = freshAverages log := by
      simp [Service.freshAverages_cons, hempties, Service.delivers, Service.averages,
        Service.isAveraging, ← isAveraging.eq_def, haveraging]
    have hnot : ¬ d.isAveraging = true := by simp [haveraging]
    have htrigger : d.trigger = { d with
        captures := d.captures + 1
        frames := d.frames ++ Array.replicate
          (min d.acquisition.scans.toNat (d.memoryFrames.toNat - d.frames.size))
          { d with captures := d.captures + 1 }.synthesize
        memoryFull := d.memoryFull ||
          d.memoryFrames.toNat - d.frames.size < d.acquisition.scans.toNat } := if_neg hnot
    rw [htrigger]
    refine ⟨?_, ?_, ?_⟩
    · rw [hscans]
      simp only [Array.size_append, Array.size_replicate]
      omega
    · rw [hscans]
      simp only [Bool.or_eq_true, decide_eq_true_eq, hfull]
      omega
    · rw [haverages]
      exact hready

/-- Every request that is carried out leaves the memory as full as it says. -/
theorem Filled.perform (h : d.Filled log) (hperform : d.perform limit r = .ok (value, d')) :
    d'.Filled (⟨d.acquisition, r⟩ :: log) := by
  cases r with
  | reset =>
    cases hperform
    exact filled_clearMemory _ rfl log
  | setFormat f =>
    rw [setFormat_eq hperform]
    exact filled_clearMemory _ rfl log
  | clearMemory =>
    cases hperform
    exact filled_clearMemory d rfl log
  | trigger =>
    cases hperform
    exact h.trigger
  | getFrame index length =>
    have hempties : (Request.getFrame index length).empties = false := rfl
    rw [getFrame_eq hperform]
    cases haveraging : d.isAveraging with
    | true =>
      -- The average counts as read; the stored frames stay.
      have hscans : storedScans (⟨d.acquisition, .getFrame index length⟩ :: log) =
          storedScans log := by
        simp [Service.storedScans_cons, hempties, Service.scans]
      have haverages : freshAverages (⟨d.acquisition, .getFrame index length⟩ :: log) = 0 := by
        simp [Service.freshAverages_cons, Service.delivers, Service.isAveraging,
          ← isAveraging.eq_def, haveraging]
      rw [if_pos rfl]
      refine ⟨?_, ?_, ?_⟩
      · rw [hscans]
        exact h.stored
      · rw [hscans]
        exact h.full
      · rw [haverages]
        rfl
    | false => exact h.keep hempties haveraging nofun rfl rfl rfl rfl
  | readFlash offset length =>
    rw [(perform_readFlash hperform).2]
    exact h.keep rfl rfl nofun rfl rfl rfl rfl
  | writeFlash offset data =>
    rw [(writeFlash_eq hperform).2]
    exact h.keep rfl rfl nofun rfl rfl rfl rfl
  | _ =>
    cases hperform
    exact h.keep rfl rfl nofun rfl rfl rfl rfl

/-- A stored frame keeps its place, unless the memory is emptied. -/
theorem getElem?_frames_perform (hperform : d.perform limit r = .ok (value, d'))
    (hempties : r.empties = false) {k : Nat} {raw : List UInt16} (hraw : d.frames[k]? = some raw) :
    d'.frames[k]? = some raw := by
  cases r with
  | reset | setFormat | clearMemory => cases hempties
  | trigger =>
    cases hperform
    unfold Device.trigger
    dsimp only
    split
    · exact hraw
    · obtain ⟨hk, rfl⟩ := Array.getElem?_eq_some_iff.mp hraw
      rw [Array.getElem?_append_left hk]
      exact hraw
  | getFrame index length =>
    rw [getFrame_eq hperform]
    split <;> exact hraw
  | readFlash offset length =>
    rw [(perform_readFlash hperform).2]
    exact hraw
  | writeFlash offset data =>
    rw [(writeFlash_eq hperform).2]
    exact hraw
  | _ =>
    cases hperform
    exact hraw

/-- What the device says of its memory, as long as no word is forced on it. -/
theorem Filled.status (h : d.Filled log) (hcounted : d.forcedFrames = none) :
    d.status.flags.memoryFull = decide (d.memoryFrames.toNat < storedScans log) ∧
      d.status.frames.toNat = if d.isAveraging then min 2 (freshAverages log)
        else min d.memoryFrames.toNat (storedScans log) := by
  refine ⟨?_, ?_⟩
  · rw [Bool.eq_iff_iff, decide_eq_true_eq]
    exact h.full
  · have hbound := d.memoryFrames.toNat_lt
    simp only [Device.status, hcounted, Option.getD_none]
    split
    · exact h.ready
    · have hsize : UInt16.size = 65536 := rfl
      rw [h.stored]
      exact UInt16.toNat_ofNat_of_lt' (by omega)

end Device

namespace Emulator

/-- What the `i`-th device carries out in an event, if anything. -/
def Event.service? (i : Nat) (e : Emulator) : Event → Option Service
  | call (.operate ctx r) =>
    if e.deviceOf? ctx = some i ∧ (link (.operate ctx r) e).1.isOk then
      e.devices[i]?.map fun d => ⟨d.acquisition, r⟩
    else none
  | _ => none

/-- What the `i`-th device has carried out after some events, latest first. -/
def services (i : Nat) : List Event → Emulator → List Service → List Service
  | [], _, log => log
  | event :: rest, e, log => services i rest (event.apply e) ((event.service? i e).toList ++ log)

variable {e : Emulator} {i : Nat} {d : Device} {log : List Service}

/-- An event has a device carry out a request, or leaves it but for what says whether it is plugged
in and what it is to report. -/
theorem Event.apply_cases (event : Event) (hd : e.devices[i]? = some d) :
    (event.service? i e = none ∧ ∃ detached forcedFrames,
        (event.apply e).devices[i]? = some { d with detached, forcedFrames }) ∨
      ∃ (r : Request) (value : r.Value) (d' : Device),
        event.service? i e = some ⟨d.acquisition, r⟩ ∧
        d.perform e.readLimit r = .ok (value, d') ∧ (event.apply e).devices[i]? = some d' := by
  have hsame (e' : Emulator) (hdevices : e'.devices = e.devices) :
      ∃ detached forcedFrames, e'.devices[i]? = some { d with detached, forcedFrames } :=
    ⟨d.detached, d.forcedFrames, by rw [hdevices, hd]⟩
  have hmodify (j : Nat) (f : Device → Device)
      (hf : ∃ detached forcedFrames, f d = { d with detached, forcedFrames }) :
      ∃ detached forcedFrames,
        (e.modifyDevice j f).devices[i]? = some { d with detached, forcedFrames } := by
    simp only [modifyDevice, List.getElem?_modify, hd]
    by_cases hij : j = i
    · obtain ⟨detached, forcedFrames, heq⟩ := hf
      exact ⟨detached, forcedFrames, by simp [hij, heq]⟩
    · exact ⟨d.detached, d.forcedFrames, by simp [hij]⟩
  cases event with
  | failNext o code => exact Or.inl ⟨rfl, hsame _ rfl⟩
  | resetCalls => exact Or.inl ⟨rfl, hsame _ rfl⟩
  | forceFrames j frames => exact Or.inl ⟨rfl, hmodify j _ ⟨d.detached, frames, rfl⟩⟩
  | reattach j => exact Or.inl ⟨rfl, hmodify j _ ⟨false, d.forcedFrames, rfl⟩⟩
  | call c =>
    have heffect := link_effect c e
    cases c with
    | operate ctx r =>
      obtain ⟨code, heq⟩ | ⟨j, dⱼ, value, d', hj, hdⱼ, hperform, heq⟩ := link_operate_cases e ctx r
      · refine Or.inl ⟨?_, hsame (Event.apply e _) (congrArg (·.2.devices) heq)⟩
        simp only [service?, heq, Except.isOk, Except.toBool, Bool.false_eq_true, and_false,
          if_false]
      · by_cases hij : j = i
        · subst hij
          obtain rfl : dⱼ = d := Option.some.inj (hdⱼ.symm.trans hd)
          refine Or.inr ⟨r, value, d', ?_, hperform, ?_⟩
          · simp only [service?, heq, hj, hd, Except.isOk, Except.toBool, and_self, if_true,
              Option.map_some]
          · simp only [Event.apply, heq]
            exact List.getElem?_set_self (List.getElem?_eq_some_iff.mp hd).1
        · refine Or.inl ⟨?_, d.detached, d.forcedFrames, ?_⟩
          · simp only [service?, hj, Option.some.injEq, hij, false_and, if_false]
          · simp only [Event.apply, heq]
            rw [List.getElem?_set_ne hij, hd]
    | _ =>
      refine Or.inl ⟨rfl, hsame _ ?_⟩
      cases heffect with
      | none hcontexts hnext hdevices => exact hdevices
      | attach j old hold hj hcontexts hnext hdevices => exact hdevices
      | release old hold hcontexts hnext hdevices => exact hdevices
      | operate ctx r j dⱼ d' value hc => cases hc

/-- An event leaves each device as full as its services make it. -/
theorem Event.filled (event : Event) (hd : e.devices[i]? = some d) (h : d.Filled log) :
    ∃ d', (event.apply e).devices[i]? = some d' ∧
      d'.Filled ((event.service? i e).toList ++ log) := by
  obtain ⟨hnone, detached, forcedFrames, hd'⟩ | ⟨r, value, d', hsome, hperform, hd'⟩ :=
    event.apply_cases hd
  · rw [hnone]
    exact ⟨_, hd', ⟨h.stored, h.full, h.ready⟩⟩
  · rw [hsome]
    exact ⟨d', hd', h.perform hperform⟩

theorem filled_after (events : List Event) (hd : e.devices[i]? = some d) (h : d.Filled log) :
    ∃ d', (e.after events).devices[i]? = some d' ∧ d'.Filled (services i events e log) := by
  induction events generalizing e d log with
  | nil => exact ⟨d, hd, h⟩
  | cons event rest ih =>
    obtain ⟨d', hd', h'⟩ := event.filled hd h
    exact ih hd' h'

/-- No event adds a device. -/
theorem getElem?_before (events : List Event) (hd : (e.after events).devices[i]? = some d) :
    ∃ d₀, e.devices[i]? = some d₀ := by
  induction events generalizing e with
  | nil => exact ⟨d, hd⟩
  | cons event rest ih =>
    obtain ⟨d', hd'⟩ := ih hd
    have hsame : (event.apply e).devices[i]?.map (fun _ => ()) = e.devices[i]?.map fun _ => () :=
      event.map_view_apply i (fun _ _ _ => rfl) fun _ _ _ _ _ _ _ _ => rfl
    rw [hd'] at hsame
    obtain ⟨d₀, hd₀, -⟩ := Option.map_eq_some_iff.mp hsame.symm
    exact ⟨d₀, hd₀⟩

/-- A log is only added to. -/
theorem services_append (i : Nat) (events : List Event) (e : Emulator) (log : List Service) :
    services i events e log = services i events e [] ++ log := by
  induction events generalizing e log with
  | nil => rfl
  | cons event rest ih =>
    simp only [services]
    rw [ih, ih (event.apply e) ((event.service? i e).toList ++ []), List.append_nil,
      List.append_assoc]

/-- While no service empties it, the memory keeps each frame in its place. -/
theorem getElem?_frames_after (events : List Event) (hd : e.devices[i]? = some d)
    (hkept : ∀ x ∈ services i events e [], x.request.empties = false) {k : Nat} {raw : List UInt16}
    (hraw : d.frames[k]? = some raw) :
    ∃ d', (e.after events).devices[i]? = some d' ∧ d'.frames[k]? = some raw := by
  induction events generalizing e d with
  | nil => exact ⟨d, hd, hraw⟩
  | cons event rest ih =>
    simp only [services] at hkept
    rw [services_append] at hkept
    have hrest := fun x hx => hkept x (List.mem_append_left _ hx)
    obtain ⟨_, detached, forcedFrames, hd'⟩ | ⟨r, value, d', hsome, hperform, hd'⟩ :=
      event.apply_cases hd
    · exact ih hd' hrest hraw
    · have hempties : r.empties = false := hkept ⟨d.acquisition, r⟩ (by simp [hsome])
      exact ih hd' hrest (Device.getElem?_frames_perform hperform hempties hraw)

/-- After any sequence of events, refused calls included, a device holds as many frames as scans
were triggered into the ring since `clearMemory` or a reset, up to `memoryFrames`; `memoryFull` is
set if and only if there were more; `averagedStatus` is the number of averages since then and since
the last fetch of one, up to two. `status` reports these values unless a count is forced. A stored
frame keeps its index until the memory is emptied. -/
theorem memory_filled_by_services (config : EmulatorConfig) (events : List Event) {i : Nat}
    {d : Device} (hd : ((new config).after events).devices[i]? = some d) :
    let log := services i events (new config) []
    let room := config.memoryFrames.toNat
    d.frames.size = min room (storedScans log) ∧
    (d.memoryFull = true ↔ room < storedScans log) ∧
    d.averagedStatus.toNat = min 2 (freshAverages log) ∧
    (d.forcedFrames = none → d.status.flags.memoryFull = decide (room < storedScans log) ∧
      d.status.frames.toNat = if d.isAveraging then min 2 (freshAverages log)
        else min room (storedScans log)) ∧
    ∀ more : List Event,
      (∀ x ∈ services i more ((new config).after events) [], x.request.empties = false) →
      ∀ (k : Nat) (raw : List UInt16), d.frames[k]? = some raw →
        ∃ d', ((new config).after (events ++ more)).devices[i]? = some d' ∧
          d'.frames[k]? = some raw := by
  intro log room
  have hwell := (wellFormed_new config).after events
  have hroom : d.memoryFrames = config.memoryFrames :=
    (hwell.devices d (List.mem_of_getElem? hd)).2
  have hfilled : d.Filled log := by
    -- The device was there from the beginning, with nothing stored.
    obtain ⟨d₀, hd₀⟩ := getElem?_before events hd
    obtain ⟨serial, -, rfl⟩ := List.mem_map.mp (List.mem_of_getElem? hd₀)
    obtain ⟨d', hd', h⟩ := filled_after events hd₀ (Device.filled_new serial config.memoryFrames)
    obtain rfl : d' = d := Option.some.inj (hd'.symm.trans hd)
    exact h
  have hstatus := hfilled.status
  obtain ⟨hstored, hfull, hready⟩ := hfilled
  rw [hroom] at hstored hfull hstatus
  refine ⟨hstored, hfull, hready, hstatus, ?_⟩
  intro more hkept k raw hraw
  have hafter : (new config).after (events ++ more) = ((new config).after events).after more :=
    List.foldl_append
  rw [hafter]
  exact getElem?_frames_after more hd hkept hraw

/-- Scans that do not fit, then averages of which one is fetched, through the first context. -/
def mixedTriggers : List Event :=
  [.connectBySerial (some "A") .null, .operate ⟨1⟩ (.setAcquisition ⟨3, 0, .continuous, 10⟩),
    .operate ⟨1⟩ .trigger, .operate ⟨1⟩ .trigger,
    .operate ⟨1⟩ (.setAcquisition ⟨3, 0, .frameAveraging, 10⟩), .operate ⟨1⟩ .trigger,
    .operate ⟨1⟩ .trigger, .operate ⟨1⟩ (.getFrame 0 3653), .operate ⟨1⟩ .trigger].map Event.call

/-- After them the one memory is full and the other holds an average that nobody fetched. -/
theorem memory_filled_by_mixedTriggers :
    ∃ d, ((new ⟨["A"], 4, none⟩).after mixedTriggers).devices[0]? = some d ∧
      d.frames.size = 4 ∧ d.memoryFull = true ∧ d.averagedStatus.toNat = 1 := by
  have hlt : 0 < ((new ⟨["A"], 4, none⟩).after mixedTriggers).devices.length := by decide +kernel
  have hscans : storedScans (services 0 mixedTriggers (new ⟨["A"], 4, none⟩) []) = 6 := by
    decide +kernel
  have haverages : freshAverages (services 0 mixedTriggers (new ⟨["A"], 4, none⟩) []) = 1 := by
    decide +kernel
  have hd := List.getElem?_eq_getElem hlt
  obtain ⟨hstored, hfull, hready, -⟩ := memory_filled_by_services _ _ hd
  rw [hscans] at hstored hfull
  rw [haverages] at hready
  exact ⟨_, hd, hstored, hfull.mpr (by decide), hready⟩

end Emulator

end Spectrometer
