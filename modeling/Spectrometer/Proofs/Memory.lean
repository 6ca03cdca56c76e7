import Mathlib.Data.List.Sort
import Spectrometer.Proofs.Handle
import Spectrometer.Proofs.Journal

/-!
Accesses to the frame memory, over any driver. The ring calls `getStatus` once for the number of
frames and then fetches the requested indices below it, in ascending order, up to the first call
that fails. The latest-frame memory fetches under the index `0xFFFF`, which no frame of the ring
has.
-/

namespace Spectrometer

namespace Bound

/-- A range that starts here has begun by that place. -/
def beginsBy : Bound → Nat → Bool
  | included n, place => n ≤ place
  | excluded n, place => n < place
  | unbounded, _ => true

/-- A range that ends here reaches that place. -/
def reaches : Bound → Nat → Bool
  | included n, place => place ≤ n
  | excluded n, place => place < n
  | unbounded, _ => true

/-- A place lies in the range between two bounds. -/
def covers (start stop : Bound) (place : Nat) : Bool := start.beginsBy place && stop.reaches place

theorem beginsBy_iff {start : Bound} {place : Nat} :
    start.beginsBy place ↔ start.first ≤ place := by
  cases start with
  | included n | excluded n => exact decide_eq_true_iff
  | unbounded => simp [beginsBy, first]

theorem reaches_iff {stop : Bound} {place length : Nat} (hplace : place < length) :
    stop.reaches place ↔ place < stop.behind length := by
  cases stop with
  | included n | excluded n =>
    simp only [reaches, behind, decide_eq_true_eq]
    omega
  | unbounded => simp [reaches, behind, hplace]

theorem behind_le (stop : Bound) (length : Nat) : stop.behind length ≤ length := by
  cases stop <;> simp [behind]

/-- The places of a range are those of the memory that it covers. -/
theorem places_eq_filter (start stop : Bound) (length : Nat) :
    start.places stop length = (List.range length).filter (start.covers stop) := by
  have hplaces : (start.places stop length).Pairwise (· < ·) := List.pairwise_lt_range'
  refine hplaces.eq_of_mem_iff (List.pairwise_lt_range.filter _) fun place => ?_
  rw [places, List.mem_range'_1, List.mem_filter, List.mem_range, covers, Bool.and_eq_true,
    beginsBy_iff]
  have hbehind := stop.behind_le length
  constructor
  · rintro ⟨hfirst, hlast⟩
    have hplace : place < length := by omega
    exact ⟨hplace, hfirst, (reaches_iff hplace).mpr (by omega)⟩
  · rintro ⟨hplace, hfirst, hreaches⟩
    have hlast := (reaches_iff hplace).mp hreaches
    omega

end Bound

/-- What a device is asked for: the number of its frames, the frame at a place, which may be
refused, or something else. -/
inductive Look
  | count (ctx : Context)
  | fetch (ctx : Context) (place : Nat) (refusal : Option ResultCode)
  | other (ctx : Context) (r : Request)

def Exchange.look? : Exchange → Option Look
  | ⟨.operate ctx .getStatus, _⟩ => some (.count ctx)
  | ⟨.operate ctx (.getFrame index _), .ok _⟩ => some (.fetch ctx index.toNat none)
  | ⟨.operate ctx (.getFrame index _), .error code⟩ => some (.fetch ctx index.toNat (some code))
  | ⟨.operate ctx r, _⟩ => some (.other ctx r)
  | _ => none

/-- What the devices were asked for, earliest first. -/
def Journal.looks {W : Type} (j : Journal W) : List Look := j.exchanges.reverse.filterMap (·.look?)

@[simp] theorem Journal.looks_cons {W : Type} (j : Journal W) (w : W) (x : Exchange) :
    (⟨w, x :: j.exchanges⟩ : Journal W).looks = j.looks ++ x.look?.toList := by
  cases hlook : x.look? with
  | none => simp [looks, hlook]
  | some look => simp [looks, hlook]

/-- The frames at these places were fetched one after the other, up to the first that the driver
refuses. -/
def Fetched {α : Type} (ctx : Context) (places : List Nat) (looks : List Look) :
    Except DeviceError α → Prop
  | .ok _ => looks = places.map (.fetch ctx · none)
  | .error e => ∃ before place after code, places = before ++ place :: after ∧
      looks = before.map (.fetch ctx · none) ++ [.fetch ctx place (some code)] ∧ e = .ofCode code

/-- What was fetched after the frames were counted is among the places. -/
theorem Fetched.mem {α : Type} {ctx c : Context} {places : List Nat} {looks : List Look}
    {result : Except DeviceError α} (h : Fetched ctx places looks result) {place : Nat}
    {refusal : Option ResultCode} (hlook : .fetch c place refusal ∈ Look.count ctx :: looks) :
    place ∈ places := by
  cases result with
  | ok x =>
    obtain rfl := h
    simp only [List.mem_cons, reduceCtorEq, false_or, List.mem_map, Look.fetch.injEq] at hlook
    obtain ⟨_, hplace, -, rfl, -⟩ := hlook
    exact hplace
  | error e =>
    obtain ⟨before, refused, after, code, rfl, rfl, -⟩ := h
    simp only [List.mem_cons, reduceCtorEq, false_or, List.mem_append, List.mem_map,
      Look.fetch.injEq, List.not_mem_nil, or_false] at hlook
    obtain ⟨_, hplace, -, rfl, -⟩ | ⟨-, rfl, -⟩ := hlook
    · exact List.mem_append_left _ hplace
    · exact List.mem_append_right before List.mem_cons_self

/-- Over every driver, the attempt does nothing but fetch the frames at these places. -/
def Attempt.Fetches {α : Type} (ctx : Context) (places : List Nat) (a : Attempt α) : Prop :=
  ∀ ⦃W : Type⦄ (link : Link W) (j : Journal W), ∃ looks,
    (a.run.run (Journal.link link).reply j).2.looks = j.looks ++ looks ∧
    Fetched ctx places looks (a.run.run (Journal.link link).reply j).1

namespace Attempt.Fetches

variable {α β : Type} {ctx : Context} {places more : List Nat}

theorem pure (a : α) : Attempt.Fetches ctx [] (Pure.pure a) :=
  fun _ _ _ => ⟨[], (List.append_nil _).symm, rfl⟩

theorem bind {a : Attempt α} {f : α → Attempt β} (ha : Attempt.Fetches ctx places a)
    (hf : ∀ x, Attempt.Fetches ctx more (f x)) : Attempt.Fetches ctx (places ++ more) (a >>= f) := by
  intro W link j
  obtain ⟨looks, hlooks, hfetched⟩ := ha link j
  cases hrun : a.run.run (Journal.link link).reply j with
  | mk result j₁ =>
    rw [hrun] at hlooks hfetched
    cases result with
    | error e =>
      obtain ⟨before, place, after, code, rfl, rfl, rfl⟩ := hfetched
      rw [Interaction.run_bind_error hrun]
      exact ⟨_, hlooks, before, place, after ++ more, code, by simp, rfl, rfl⟩
    | ok x =>
      obtain rfl := hfetched
      obtain ⟨looks', hlooks', hfetched'⟩ := hf x link j₁
      rw [Interaction.run_bind_ok hrun]
      refine ⟨places.map (.fetch ctx · none) ++ looks', ?_, ?_⟩
      · rw [hlooks', hlooks, List.append_assoc]
      · cases hrest : ((f x).run.run (Journal.link link).reply j₁).1 with
        | error e =>
          rw [hrest] at hfetched'
          obtain ⟨before, place, after, code, rfl, rfl, rfl⟩ := hfetched'
          exact ⟨places ++ before, place, after, code, by simp, by simp, rfl⟩
        | ok y =>
          rw [hrest] at hfetched'
          obtain rfl := hfetched'
          exact (List.map_append ..).symm

theorem mapM {f : α → Attempt β} {place : α → Nat}
    (hf : ∀ a, Attempt.Fetches ctx [place a] (f a)) (l : List α) :
    Attempt.Fetches ctx (l.map place) (l.mapM f) := by
  induction l with
  | nil =>
    rw [List.mapM_nil]
    exact pure []
  | cons a rest ih =>
    rw [List.mapM_cons]
    have hrest (b : β) : Attempt.Fetches ctx (rest.map place) (rest.mapM f >>= fun bs =>
        Pure.pure (b :: bs)) := by
      simpa using ih.bind fun bs => pure (b :: bs)
    exact (hf a).bind hrest

end Attempt.Fetches

namespace Handle

theorem fetches_getFrame (ctx : Context) (index : UInt16) (length : Nat) :
    Attempt.Fetches ctx [index.toNat] ((⟨ctx, true⟩ : Handle).request (.getFrame index length)) := by
  intro W link j
  cases hlink : link (.operate ctx (.getFrame index length)) j.world with
  | mk reply w =>
    have hnoted := Journal.link_of_eq hlink
    cases reply with
    | error code =>
      rw [run_request_error rfl hnoted]
      exact ⟨_, Journal.looks_cons .., [], index.toNat, [], code, rfl, rfl, rfl⟩
    | ok samples =>
      rw [run_request_ok rfl hnoted]
      exact ⟨_, Journal.looks_cons .., rfl⟩

/-- `Handle.frame` is one fetch; its `pixelsInFrame` call does not count. -/
theorem fetches_frame (ctx : Context) (index : UInt16) :
    Attempt.Fetches ctx [index.toNat] ((⟨ctx, true⟩ : Handle).frame index) := by
  have hsize : Attempt.Fetches ctx [] (ExceptT.lift (⟨ctx, true⟩ : Handle).frameSize) :=
    fun _ _ _ => ⟨[], Journal.looks_cons .., rfl⟩
  have hraw : Attempt.Fetches ctx [index.toNat] ((⟨ctx, true⟩ : Handle).rawFrame index) := by
    unfold rawFrame
    rw [if_pos rfl]
    exact hsize.bind fun size => (fetches_getFrame ctx index size.toNat).bind fun _ => .pure _
  exact hraw.bind fun _ => .pure _

end Handle

namespace Attempt

variable {W α β : Type} {link : Link W}

/-- What goes alike part by part goes alike. -/
theorem run_bind_congr {x y : Attempt α} {f g : α → Attempt β} {w : W}
    (hfirst : x.run.run link.reply w = y.run.run link.reply w)
    (hrest : ∀ a w, (f a).run.run link.reply w = (g a).run.run link.reply w) :
    (x >>= f).run.run link.reply w = (y >>= g).run.run link.reply w := by
  rw [ExceptT.run_bind, ExceptT.run_bind, Interaction.run_bind, Interaction.run_bind, hfirst]
  cases (y.run.run link.reply w).1 with
  | error e => rfl
  | ok a => exact hrest a _

theorem run_mapM_congr {f g : α → Attempt β} {l : List α}
    (hsame : ∀ a ∈ l, ∀ w, (f a).run.run link.reply w = (g a).run.run link.reply w) (w : W) :
    (l.mapM f).run.run link.reply w = (l.mapM g).run.run link.reply w := by
  induction l generalizing w with
  | nil => rw [List.mapM_nil, List.mapM_nil]
  | cons a rest ih =>
    rw [List.mapM_cons, List.mapM_cons]
    have hrest := ih fun a ha => hsame a (List.mem_cons_of_mem _ ha)
    exact run_bind_congr (hsame a List.mem_cons_self w) fun b w =>
      run_bind_congr (hrest w) fun _ _ => rfl

end Attempt

/-- No number of the driver means that there is no such place. -/
theorem DeviceError.ofCode_ne_indexOutOfRange (code : ResultCode) (index length : Nat) :
    ofCode code ≠ .indexOutOfRange index length := by
  unfold ofCode
  split <;> exact nofun

namespace Memory

variable {W : Type}

theorem fetches_fetch (ctx : Context) (indices : List UInt16) :
    Attempt.Fetches ctx (indices.map (·.toNat)) (fetch ⟨ctx, true⟩ indices) :=
  .mapM (Handle.fetches_frame ctx) indices

/-- The number of frames is had with one call. -/
theorem run_length_ring {link : Link W} {h : Handle} {w w₁ : W} {status : DeviceStatus}
    (hconnected : h.connected = true)
    (hpoll : link (.operate h.ctx .getStatus) w = (.ok status, w₁)) :
    (length ⟨.ring, h⟩).run.run link.reply w = (.ok status.frames.toNat, w₁) := by
  have hframes : h.framesInMemory.run.run link.reply w = (.ok status.frames, w₁) :=
    Interaction.run_bind_ok (Handle.run_request_ok hconnected hpoll) _
  exact Interaction.run_bind_ok hframes _

/-- Where it is refused, so is what needs it. -/
theorem run_length_ring_refused {link : Link W} {h : Handle} {w w₁ : W} {code : ResultCode}
    (hconnected : h.connected = true)
    (hpoll : link (.operate h.ctx .getStatus) w = (.error code, w₁)) :
    (length ⟨.ring, h⟩).run.run link.reply w = (.error (.ofCode code), w₁) := by
  have hframes : h.framesInMemory.run.run link.reply w = (.error (.ofCode code), w₁) :=
    Interaction.run_bind_error (Handle.run_request_error hconnected hpoll) _
  exact Interaction.run_bind_error hframes _

/-- A word can hold every place of a memory whose frames are counted in a word. -/
theorem toNat_ofNat_place {count : UInt16} {place : Nat} (hplace : place < count.toNat) :
    (UInt16.ofNat place).toNat = place :=
  UInt16.toNat_ofNat_of_lt' (Nat.lt_trans hplace count.toNat_lt)

section Ring

variable {link : Link W} {w w₁ : W} {ctx : Context} {status : DeviceStatus} {index : Nat}
  {start stop : Bound}

theorem ring_get_inside (hpoll : link (.operate ctx .getStatus) w = (.ok status, w₁))
    (hinside : index < status.frames.toNat) :
    (get ⟨.ring, ⟨ctx, true⟩⟩ index).run.run link.reply w =
      ((⟨ctx, true⟩ : Handle).frame (UInt16.ofNat index)).run.run link.reply w₁ := by
  unfold get
  refine (Interaction.run_bind_ok (run_length_ring rfl hpoll) _).trans ?_
  rw [if_pos hinside]

theorem ring_get_beyond (hpoll : link (.operate ctx .getStatus) w = (.ok status, w₁))
    (hbeyond : status.frames.toNat ≤ index) :
    (get ⟨.ring, ⟨ctx, true⟩⟩ index).run.run link.reply w =
      (.error (.indexOutOfRange index status.frames.toNat), w₁) := by
  unfold get
  refine (Interaction.run_bind_ok (run_length_ring rfl hpoll) _).trans ?_
  rw [if_neg (Nat.not_lt_of_le hbeyond)]
  rfl

theorem ring_getRange (hpoll : link (.operate ctx .getStatus) w = (.ok status, w₁)) :
    (getRange ⟨.ring, ⟨ctx, true⟩⟩ start stop).run.run link.reply w =
      (((List.range status.frames.toNat).filter (start.covers stop)).mapM fun place =>
        (⟨ctx, true⟩ : Handle).frame (UInt16.ofNat place)).run.run link.reply w₁ := by
  unfold getRange
  refine (Interaction.run_bind_ok (run_length_ring rfl hpoll) _).trans ?_
  rw [Bound.places_eq_filter, fetch, List.mapM_map]
  rfl

/-- Over a driver that goes on to report the same, getting a range is getting its places. -/
theorem ring_getRange_eq_mapM (hpoll : ∀ w, link (.operate ctx .getStatus) w = (.ok status, w))
    (w : W) : (getRange ⟨.ring, ⟨ctx, true⟩⟩ start stop).run.run link.reply w =
      (((List.range status.frames.toNat).filter (start.covers stop)).mapM
        (get ⟨.ring, ⟨ctx, true⟩⟩)).run.run link.reply w := by
  rw [ring_getRange (hpoll w)]
  apply Attempt.run_mapM_congr
  intro place hplace w
  have hinside := List.mem_range.mp (List.mem_filter.mp hplace).1
  exact (ring_get_inside (hpoll w) hinside).symm

section Looks

variable (hpoll : link (.operate ctx .getStatus) w = (.ok status, w₁))
include hpoll

theorem looks_ring_get (hinside : index < status.frames.toNat) :
    let run := (get ⟨.ring, ⟨ctx, true⟩⟩ index).run.run (Journal.link link).reply ⟨w, []⟩
    ∃ looks, run.2.looks = .count ctx :: looks ∧ Fetched ctx [index] looks run.1 := by
  intro run
  have hrun : run = _ := ring_get_inside (Journal.link_of_eq (j := ⟨w, []⟩) hpoll) hinside
  have hfetches := Handle.fetches_frame ctx (UInt16.ofNat index)
  rw [toNat_ofNat_place hinside] at hfetches
  rw [hrun]
  exact hfetches link _

theorem looks_ring_getRange (start stop : Bound) :
    let run := (getRange ⟨.ring, ⟨ctx, true⟩⟩ start stop).run.run (Journal.link link).reply ⟨w, []⟩
    ∃ looks, run.2.looks = .count ctx :: looks ∧
      Fetched ctx ((List.range status.frames.toNat).filter (start.covers stop)) looks run.1 := by
  intro run
  have hrun : run = _ := ring_getRange (Journal.link_of_eq (j := ⟨w, []⟩) hpoll)
  have hfetches := Attempt.Fetches.mapM (fun place => Handle.fetches_frame ctx (UInt16.ofNat place))
    ((List.range status.frames.toNat).filter (start.covers stop))
  have hplaces : ((List.range status.frames.toNat).filter (start.covers stop)).map
      (fun place => (UInt16.ofNat place).toNat) =
        (List.range status.frames.toNat).filter (start.covers stop) := by
    refine (List.map_congr_left fun place hplace => ?_).trans (List.map_id _)
    exact toNat_ofNat_place (List.mem_range.mp (List.mem_filter.mp hplace).1)
  rw [hplaces] at hfetches
  rw [hrun]
  exact hfetches link _

end Looks

/-- No place is the index of the latest frame, as the number of places is a word. -/
theorem latest_notMem_looks_ring (link : Link W) (w : W) (ctx : Context) (index : Nat)
    (start stop : Bound) (c : Context) (refusal : Option ResultCode) :
    let one := (get ⟨.ring, ⟨ctx, true⟩⟩ index).run.run (Journal.link link).reply ⟨w, []⟩
    let range := (getRange ⟨.ring, ⟨ctx, true⟩⟩ start stop).run.run (Journal.link link).reply ⟨w, []⟩
    .fetch c 0xFFFF refusal ∉ one.2.looks ++ range.2.looks := by
  intro one range
  cases hpoll : link (.operate ctx .getStatus) w with
  | mk reply w₁ =>
    cases reply with
    | error code =>
      have hlength := run_length_ring_refused (h := ⟨ctx, true⟩) rfl
        (Journal.link_of_eq (j := ⟨w, []⟩) hpoll)
      have hone : one = _ := Interaction.run_bind_error hlength _
      have hrange : range = _ := Interaction.run_bind_error hlength _
      rw [hone, hrange]
      simp [Journal.looks, Exchange.look?]
    | ok status =>
      have hlatest {place : Nat} (hplace : place < status.frames.toNat) : place ≠ 0xFFFF := by
        have hcount := status.frames.toNat_lt
        omega
      obtain ⟨looks, hlooks, hfetched⟩ := looks_ring_getRange hpoll start stop
      intro hmem
      obtain hmem | hmem := List.mem_append.mp hmem
      · obtain hinside | hbeyond := Nat.lt_or_ge index status.frames.toNat
        · obtain ⟨looks, hlooks, hfetched⟩ := looks_ring_get hpoll hinside
          cases List.mem_singleton.mp (hfetched.mem (hlooks ▸ hmem))
          exact hlatest hinside rfl
        · have hone : one = _ := ring_get_beyond (Journal.link_of_eq (j := ⟨w, []⟩) hpoll) hbeyond
          rw [hone] at hmem
          cases List.mem_singleton.mp hmem
      · have hplace := hfetched.mem (hlooks ▸ hmem)
        exact hlatest (List.mem_range.mp (List.mem_filter.mp hplace).1) rfl

end Ring

theorem looks_latest_get (link : Link W) (w : W) (ctx : Context) (index : Nat) :
    let run := (get ⟨.latestFrame, ⟨ctx, true⟩⟩ index).run.run (Journal.link link).reply ⟨w, []⟩
    Fetched ctx [0xFFFF] run.2.looks run.1 := by
  obtain ⟨looks, hlooks, hfetched⟩ := Handle.fetches_frame ctx Frame.latestIndex link ⟨w, []⟩
  obtain rfl := hlooks
  exact hfetched

/-- A range of latest frames is one frame if it covers the first place, and none otherwise. -/
theorem looks_latest_getRange (link : Link W) (w : W) (ctx : Context) (start stop : Bound) :
    let run := (getRange ⟨.latestFrame, ⟨ctx, true⟩⟩ start stop).run.run (Journal.link link).reply
      ⟨w, []⟩
    Fetched ctx (if start.covers stop 0 then [0xFFFF] else []) run.2.looks run.1 := by
  have hrange : getRange ⟨.latestFrame, ⟨ctx, true⟩⟩ start stop =
      fetch ⟨ctx, true⟩ ((start.places stop 1).map fun _ => Frame.latestIndex) := rfl
  obtain ⟨looks, hlooks, hfetched⟩ := fetches_fetch ctx
    ((start.places stop 1).map fun _ => Frame.latestIndex) link ⟨w, []⟩
  rw [← hrange] at hlooks hfetched
  have hplaces : ((start.places stop 1).map fun _ => Frame.latestIndex).map (·.toNat) =
      if start.covers stop 0 then [0xFFFF] else [] := by
    rw [Bound.places_eq_filter, List.range_one]
    cases hcovers : start.covers stop 0 with
    | false => simp [hcovers]
    | true => simp [hcovers, Frame.latestIndex]
  rw [hplaces] at hfetched
  obtain rfl := hlooks
  exact hfetched

/-- Frame accesses through a connected handle, over every driver. The ring calls `getStatus` once
for the number `n` of frames. `get` then fetches its index if that is below `n`, and fails with
`indexOutOfRange` otherwise; `getRange` fetches the indices below `n` that its bounds cover, in
ascending order, up to the first failing call, exactly as `get` does one by one. The ring never
fetches index `0xFFFF`. The latest-frame memory fetches only `0xFFFF`, once, and for a range only if
the bounds cover index 0. -/
theorem accesses_fetch_places (link : Link W) (w : W) (ctx : Context) (index : Nat)
    (start stop : Bound) :
    let ring : Memory := ⟨.ring, ⟨ctx, true⟩⟩
    let latest : Memory := ⟨.latestFrame, ⟨ctx, true⟩⟩
    let one := (ring.get index).run.run (Journal.link link).reply ⟨w, []⟩
    let range := (ring.getRange start stop).run.run (Journal.link link).reply ⟨w, []⟩
    let latestOne := (latest.get index).run.run (Journal.link link).reply ⟨w, []⟩
    let latestRange := (latest.getRange start stop).run.run (Journal.link link).reply ⟨w, []⟩
    (∀ status w₁, link (.operate ctx .getStatus) w = (.ok status, w₁) →
      let n := status.frames.toNat
      let places := (List.range n).filter (start.covers stop)
      let frame (place : Nat) := (⟨ctx, true⟩ : Handle).frame (UInt16.ofNat place)
      let counted : Journal W := ⟨w₁, [⟨.operate ctx .getStatus, .ok status⟩]⟩
      (index < n → one = (frame index).run.run (Journal.link link).reply counted ∧
        ∃ looks, one.2.looks = .count ctx :: looks ∧ Fetched ctx [index] looks one.1) ∧
      (n ≤ index → one = (.error (.indexOutOfRange index n), counted)) ∧
      (range = (places.mapM frame).run.run (Journal.link link).reply counted ∧
        ∃ looks, range.2.looks = .count ctx :: looks ∧ Fetched ctx places looks range.1) ∧
      (∀ i length, range.1 ≠ .error (.indexOutOfRange i length)) ∧
      ((∀ w, link (.operate ctx .getStatus) w = (.ok status, w)) →
        (ring.getRange start stop).run.run link.reply w =
          (places.mapM ring.get).run.run link.reply w)) ∧
    (∀ c refusal, .fetch c 0xFFFF refusal ∉ one.2.looks ++ range.2.looks) ∧
    Fetched ctx [0xFFFF] latestOne.2.looks latestOne.1 ∧
    Fetched ctx (if start.covers stop 0 then [0xFFFF] else []) latestRange.2.looks
      latestRange.1 := by
  intro ring latest one range latestOne latestRange
  refine ⟨fun status w₁ hpoll => ?_, latest_notMem_looks_ring link w ctx index start stop, ?_, ?_⟩
  · have hcounted := Journal.link_of_eq (j := ⟨w, []⟩) hpoll
    obtain ⟨looks, hlooks, hfetched⟩ := looks_ring_getRange hpoll start stop
    refine ⟨fun hinside => ⟨ring_get_inside hcounted hinside, looks_ring_get hpoll hinside⟩,
      ring_get_beyond hcounted, ⟨ring_getRange hcounted, looks, hlooks, hfetched⟩, ?_,
      fun hsteady => ring_getRange_eq_mapM hsteady w⟩
    intro i length herror
    rw [herror] at hfetched
    obtain ⟨_, _, _, code, -, -, hcode⟩ := hfetched
    exact DeviceError.ofCode_ne_indexOutOfRange code i length hcode.symm
  · exact looks_latest_get link w ctx index
  · exact looks_latest_getRange link w ctx start stop

end Memory

end Spectrometer
