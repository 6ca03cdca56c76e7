import Spectrometer.Proofs.Emulator.Flash
import Spectrometer.Proofs.Emulator.WellFormed

/-!
Flash access by way of a handle that a device serves. What a read delivers and what a write leaves
is known in advance, and so are the calls: apart from the flash that is written to, an emulator is
changed by them in its counts alone.
-/

namespace Spectrometer

theorem Operation.index_lt (o : Operation) : o.index.val < 20 := o.index.isLt

namespace Emulator

/-- The emulator with so many more calls of a kind counted. -/
def counted (e : Emulator) (o : Operation) (more : Nat) : Emulator :=
  { e with calls := e.calls.set o.index.val (e.callCount o + more) o.index_lt }

/-- One flash read may deliver so many bytes. -/
def Delivers (e : Emulator) (length : Nat) : Prop :=
  ∀ limit, e.readLimit = some limit → length ≤ limit

variable {e : Emulator} {h : Handle} {i : Nat} {d : Device}

theorem delivers_of_unlimited (hunlimited : e.readLimit = none) (length : Nat) :
    e.Delivers length := by
  intro limit hlimit
  rw [hunlimited] at hlimit
  cases hlimit

/-- The limit does not cut what may be delivered at once. -/
theorem Delivers.count_eq {length : Nat} (hdelivers : e.Delivers length) :
    e.readLimit.elim length (min length) = length := by
  cases hlimit : e.readLimit with
  | none => rfl
  | some limit => exact Nat.min_eq_left (hdelivers limit hlimit)

@[simp] theorem counted_zero (e : Emulator) (o : Operation) : e.counted o 0 = e := by
  have hsame : e.calls.set o.index (e.callCount o + 0) = e.calls := Vector.set_getElem_self _
  rw [counted, hsame]

theorem callCount_counted (e : Emulator) (o : Operation) (more : Nat) :
    (e.counted o more).callCount o = e.callCount o + more := Vector.getElem_set_self _

@[simp] theorem counted_counted (e : Emulator) (o : Operation) (more again : Nat) :
    (e.counted o more).counted o again = e.counted o (more + again) := by
  rw [counted, callCount_counted, counted, counted, Nat.add_assoc, Vector.set_set]

/-- Where no fault waits, a call is counted and nothing else. -/
theorem Untroubled.enter_eq (huntroubled : e.Untroubled) (o : Operation) :
    e.enter o = (none, e.counted o 1) := by
  have hfault : e.faults[o.index.val] = none := huntroubled o
  have hfaults : e.faults.set o.index none = e.faults := by
    rw [← hfault]
    exact Vector.set_getElem_self _
  refine Prod.ext hfault ?_
  rw [Emulator.enter, hfaults]
  rfl

theorem Serves.counted (hserves : e.Serves h i d) (o : Operation) (more : Nat) :
    (e.counted o more).Serves h i d :=
  ⟨hserves.untroubled.of_faults_eq rfl, hserves.connected, hserves.bound, hserves.device,
    hserves.attached⟩

theorem serves_engaged (readLimit : Option Nat) :
    (engaged readLimit).Serves ⟨⟨1⟩, true⟩ 0 (.new "A" 4) :=
  ⟨(untroubled_new _).call _, rfl, rfl, rfl, rfl⟩

/-- A request that leaves the device as it is is counted and nothing else. -/
theorem Serves.operate_same {r : Request} {value : r.Value} (hserves : e.Serves h i d)
    (hperform : d.perform e.readLimit r = .ok (value, d)) :
    link (.operate h.ctx r) e = (.ok value, e.counted r.operation 1) := by
  obtain ⟨e', hlink, -, rfl⟩ := hserves.operate hperform hserves.attached
  obtain ⟨hi, rfl⟩ := List.getElem?_eq_some_iff.mp hserves.device
  rw [hlink, hserves.untroubled.enter_eq, List.set_getElem_self]
  rfl

end Emulator

namespace Flash

open Emulator (link)

variable {e : Emulator} {h : Handle} {i : Nat} {d : Device} {offset : UInt32} {length : Nat}

/-- Nothing is read without a call. -/
theorem run_read_zero (hserves : e.Serves h i d) (hinside : offset.toNat < size) :
    (read h 0 offset).run.run link.reply e = (.ok [], e) := by
  rw [read_nothing (by rw [accessible_eq hserves.connected hinside, Nat.zero_min])]
  rfl

/-- A read inside the flash is one call, which delivers as much as the emulator does at most. -/
theorem run_read (hserves : e.Serves h i d) (hsome : length ≠ 0)
    (hfits : offset.toNat + length ≤ size) :
    let count := e.readLimit.elim length (min length)
    (read h length offset).run.run link.reply e =
      (if count < length then .error (.incompleteRead length count)
        else .ok (filled length 0 ((d.flash.drop offset.toNat).take count)),
      e.counted .readFlash 1) := by
  intro count
  have haccessible : accessible h offset length = .ok length := by
    rw [accessible_eq hserves.connected (by omega), Nat.min_eq_left (by omega)]
  have hperform := d.perform_readFlash_inside e.readLimit hfits
  rw [run_read_some haccessible hsome, hserves.operate_same hperform]
  rfl

/-- A read of so many bytes as are delivered at once gets what is in the flash. -/
theorem run_read_ok (hserves : e.Serves h i d) (hflash : d.flash.length = size) (hsome : length ≠ 0)
    (hfits : offset.toNat + length ≤ size) (hdelivers : e.Delivers length) :
    (read h length offset).run.run link.reply e =
      (.ok ((d.flash.drop offset.toNat).take length), e.counted .readFlash 1) := by
  rw [run_read hserves hsome hfits, hdelivers.count_eq, if_neg (Nat.lt_irrefl length),
    filled_slice (by omega)]

/-- A read of more than is delivered at once fails. -/
theorem run_read_short (hserves : e.Serves h i d) {limit : Nat} (hlimit : e.readLimit = some limit)
    (hshort : limit < length) (hfits : offset.toNat + length ≤ size) :
    (read h length offset).run.run link.reply e =
      (.error (.incompleteRead length limit), e.counted .readFlash 1) := by
  have hcount : e.readLimit.elim length (min length) = limit := by
    rw [hlimit]
    exact Nat.min_eq_right (Nat.le_of_lt hshort)
  rw [run_read hserves (by omega) hfits, hcount, if_pos hshort]

/-- Over every driver, a successful read has as many bytes as lie in the flash. -/
theorem length_read (h : Handle) (length : Nat) (offset : UInt32) :
    (read h length offset).run.Obeys (fun _ => True) fun
      | .ok bytes => bytes.length = min length (size - offset.toNat)
      | .error _ => True := by
  cases haccessible : accessible h offset length with
  | error failure =>
    rw [read_refused haccessible]
    trivial
  | ok n =>
    obtain ⟨-, -, hn⟩ := accessible_ok haccessible
    rw [← hn]
    by_cases hnone : n = 0
    · rw [read_nothing (hnone ▸ haccessible)]
      exact hnone.symm
    · rw [read, haccessible, Attempt.ofExcept_ok_bind, if_neg hnone]
      refine (Attempt.obeys_bind _ _).mpr (Handle.obeys_request (fun _ => trivial) fun result => ?_)
      cases result with
      | error failure => trivial
      | ok delivery =>
        dsimp only
        split
        · trivial
        · exact length_filled n 0 delivery.bytes

/-- A read that goes beyond the end of the flash is the read up to there. -/
theorem read_clamped (hinside : offset.toNat < size) :
    read h (min length (size - offset.toNat)) offset = read h length offset := by
  have hsame : accessible h offset (min length (size - offset.toNat)) =
      accessible h offset length := by
    simp only [accessible, clamp, if_pos hinside, Nat.min_assoc, Nat.min_self]
  unfold read
  rw [hsame]

/-- A read of what is delivered at once gets what of it is in the flash, with a call unless that is
nothing. -/
theorem run_read_delivered (hserves : e.Serves h i d) (hflash : d.flash.length = size)
    (hinside : offset.toNat < size) {n : Nat} (hn : n = min length (size - offset.toNat))
    (hdelivers : e.Delivers n) :
    (read h length offset).run.run link.reply e =
      (.ok ((d.flash.drop offset.toNat).take n), e.counted .readFlash (min n 1)) := by
  rw [← read_clamped hinside, ← hn]
  by_cases hnone : n = 0
  · subst hnone
    rw [run_read_zero hserves hinside]
    simp
  · rw [run_read_ok hserves hflash hnone (by omega) hdelivers, Nat.min_eq_right (by omega)]

end Flash

end Spectrometer
