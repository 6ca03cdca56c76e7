import Spectrometer.Proofs.Emulator.FlashAccess

/-!
Writing the flash of a device while faults are pending. A write reads what it is about to write
over; a pending fault of the read or the write, and a limit to what one read delivers, each end it
before anything is written. A successful one reports the first byte it replaced that was not erased.
-/

namespace Spectrometer.Flash

open Emulator (link)

/-- The first byte of a stretch of flash that is not erased, or none where they all are. -/
def FirstProgrammed (flash : List UInt8) (start stop : Nat) : Option NotErased → Prop
  | none => ∀ address, start ≤ address → address < stop → flash[address]? = some erasedByte
  | some p => start ≤ p.offset.toNat ∧ p.offset.toNat < stop ∧
      flash[p.offset.toNat]? = some p.found ∧ p.found ≠ erasedByte ∧
      ∀ address, start ≤ address → address < p.offset.toNat → flash[address]? = some erasedByte

section Bytes

variable {flash data : List UInt8} {start stop : Nat} {found : Option NotErased}

/-- An erased byte in front of a stretch is passed over. -/
theorem FirstProgrammed.cons (h : FirstProgrammed flash (start + 1) stop found)
    (herased : flash[start]? = some erasedByte) : FirstProgrammed flash start stop found := by
  have hpass {before : Nat} (hrest : ∀ address, start + 1 ≤ address → address < before →
      flash[address]? = some erasedByte) (address : Nat) (hstart : start ≤ address)
      (hbefore : address < before) : flash[address]? = some erasedByte := by
    obtain rfl | hlater := Nat.eq_or_lt_of_le hstart
    · exact herased
    · exact hrest address hlater hbefore
  cases found with
  | none => exact hpass h
  | some p =>
    obtain ⟨hstart, hstop, hfound, hne, hbefore⟩ := h
    exact ⟨Nat.le_of_succ_le hstart, hstop, hfound, hne, hpass hbefore⟩

/-- What a write finds in the bytes that it has read is what is there, under its own address. -/
theorem firstProgrammed_slice {n : Nat} {offset : UInt32} (hfits : offset.toNat + n ≤ flash.length)
    (hword : flash.length < UInt32.size) :
    FirstProgrammed flash offset.toNat (offset.toNat + n)
      (firstNotErased offset ((flash.drop offset.toNat).take n)) := by
  induction n generalizing offset with
  | zero =>
    intro address hstart hstop
    omega
  | succ n ih =>
    have hlt : offset.toNat < flash.length := by omega
    have hbyte : flash[offset.toNat]? = some flash[offset.toNat] := List.getElem?_eq_getElem hlt
    rw [List.drop_eq_getElem_cons hlt, List.take_succ_cons, firstNotErased]
    split
    · rename_i hne
      refine ⟨Nat.le_refl _, Nat.lt_add_of_pos_right (Nat.succ_pos n), hbyte, hne, ?_⟩
      exact fun address hstart hbefore => absurd hstart (Nat.not_le_of_lt hbefore)
    · rename_i herased
      have hnext : (offset + 1).toNat = offset.toNat + 1 := by
        rw [UInt32.toNat_add]
        exact Nat.mod_eq_of_lt (Nat.lt_of_le_of_lt hlt hword)
      have hrest := @ih (offset + 1) (by omega)
      rw [hnext, Nat.add_right_comm] at hrest
      exact hrest.cons (hbyte.trans (congrArg some (not_not.mp herased)))

/-- Over erased bytes the data appear as they are. -/
theorem overwrite_erased (hfits : start + data.length ≤ flash.length)
    (herased : FirstProgrammed flash start (start + data.length) none) :
    ((overwrite flash start data).drop start).take data.length = data := by
  apply List.ext_getElem?
  intro k
  rw [List.getElem?_take]
  split
  · rename_i hk
    have hkeep (b : UInt8) : erasedByte &&& b = b := UInt8.neg_one_and
    rw [List.getElem?_drop, getElem?_overwrite (by omega), herased _ (by omega) (by omega),
      if_pos (by omega), Nat.add_sub_cancel_left, List.getElem?_eq_getElem hk]
    exact congrArg some (hkeep _)
  · rename_i hk
    exact (List.getElem?_eq_none (Nat.le_of_not_lt hk)).symm

end Bytes

variable {e : Emulator} {h : Handle} {i : Nat} {d : Device} {offset : UInt32} {n : Nat}
  {data : List UInt8}

/-- A read of bytes of a flash that delivered them all. -/
def readBack (h : Handle) (d : Device) (offset : UInt32) (n : Nat) : Exchange :=
  ⟨.operate h.ctx (.readFlash offset n), .ok ⟨(d.flash.drop offset.toNat).take n, n⟩⟩

/-- How a write of `n` bytes in a flash can go. -/
inductive WriteCourse (e : Emulator) (h : Handle) (i : Nat) (d : Device) (data : List UInt8)
    (offset : UInt32) (n : Nat) : Except DeviceError WriteReport × Journal Emulator → Prop
  | beyond {failure : DeviceError} (hbeyond : size ≤ offset.toNat) :
      WriteCourse e h i d data offset n (.error failure, ⟨e, []⟩)
  | nothing (hinside : offset.toNat < size) (hnone : n = 0) :
      WriteCourse e h i d data offset n (.ok ⟨0, none⟩, ⟨e, []⟩)
  | unread {failure : DeviceError} {e' : Emulator} (reply : Except ResultCode FlashDelivery)
      (hsome : n ≠ 0) (hwhy : e.fault? .readFlash ≠ none ∨ ¬ e.Delivers n)
      (hflashes : e'.flashes = e.flashes) : WriteCourse e h i d data offset n
        (.error failure, ⟨e', [⟨.operate h.ctx (.readFlash offset n), reply⟩]⟩)
  | unwritten {failure : DeviceError} {e' : Emulator} (reply : Except ResultCode Nat)
      (hsome : n ≠ 0) (hwhy : e.fault? .writeFlash ≠ none) (hflashes : e'.flashes = e.flashes) :
      WriteCourse e h i d data offset n (.error failure,
        ⟨e', [⟨.operate h.ctx (.writeFlash offset (data.take n)), reply⟩, readBack h d offset n]⟩)
  | written {e' : Emulator} (reply : Except ResultCode Nat) (hinside : offset.toNat < size)
      (hread : e.fault? .readFlash = none) (hwrite : e.fault? .writeFlash = none)
      (hdelivers : e.Delivers n)
      (hflashes : e'.flashes = e.flashes.set i (overwrite d.flash offset.toNat (data.take n))) :
      WriteCourse e h i d data offset n
        (.ok ⟨n, firstNotErased offset ((d.flash.drop offset.toNat).take n)⟩,
        ⟨e', [⟨.operate h.ctx (.writeFlash offset (data.take n)), reply⟩, readBack h d offset n]⟩)

/-- What the read in front of a write does at a device that the handle reaches. -/
theorem link_readFlash_cases (hreaches : e.Reaches h i d) (hflash : d.flash.length = size)
    (hfits : offset.toNat + n ≤ size) :
    (∃ reply failure, (e.fault? .readFlash ≠ none ∨ ¬ e.Delivers n) ∧
        link (.operate h.ctx (.readFlash offset n)) e = (reply, (e.enter .readFlash).2) ∧
        received n reply = .error failure) ∨
      (e.fault? .readFlash = none ∧ e.Delivers n ∧
        link (.operate h.ctx (.readFlash offset n)) e =
          (.ok ⟨(d.flash.drop offset.toNat).take n, n⟩, (e.enter .readFlash).2) ∧
        received n (.ok ⟨(d.flash.drop offset.toNat).take n, n⟩) =
          .ok ((d.flash.drop offset.toNat).take n)) := by
  cases hfault : e.fault? .readFlash with
  | some code =>
    refine Or.inl ⟨.error code, .ofCode code, Or.inl nofun, ?_, rfl⟩
    exact Emulator.operate_fault hfault h.ctx
  | none =>
    have hperform := d.perform_readFlash_inside e.readLimit hfits
    have hlink := hreaches.operate_ok (r := .readFlash offset n) hfault hperform
    have hsame : e.devices.set i d = e.devices := by
      obtain ⟨hi, rfl⟩ := List.getElem?_eq_some_iff.mp hreaches.device
      exact List.set_getElem_self hi
    rw [hsame] at hlink
    by_cases hdelivers : e.Delivers n
    · rw [hdelivers.count_eq] at hlink
      refine Or.inr ⟨rfl, hdelivers, hlink, received_ok_iff.mpr ⟨_, rfl, Nat.le_refl n, ?_⟩⟩
      exact filled_slice (by omega)
    · obtain ⟨limit, hlimit, hless⟩ : ∃ limit, e.readLimit = some limit ∧ limit < n := by
        simpa [Emulator.Delivers] using hdelivers
      refine Or.inl ⟨_, _, Or.inr hdelivers, hlink, received_short rfl ?_⟩
      rw [hlimit]
      exact Nat.lt_of_le_of_lt (Nat.min_le_right n limit) hless

theorem writeCourse_write (hreaches : e.Reaches h i d) (hflash : d.flash.length = size)
    (hn : n = min data.length (size - offset.toNat)) : WriteCourse e h i d data offset n
      ((write h data offset).run.run (Journal.link link).reply ⟨e, []⟩) := by
  by_cases hinside : offset.toNat < size
  · have haccessible : accessible h offset data.length = .ok n := by
      rw [accessible_eq hreaches.connected hinside, ← hn]
    by_cases hnone : n = 0
    · rw [write_nothing (hnone ▸ haccessible)]
      exact .nothing hinside hnone
    · have hfits : offset.toNat + n ≤ size := by omega
      obtain ⟨reply, failure, hwhy, hlink, hreceived⟩ | ⟨hread, hdelivers, hlink, hreceived⟩ :=
        link_readFlash_cases hreaches hflash hfits
      · rw [run_write_short (j := ⟨e, []⟩) haccessible hnone hlink hreceived]
        exact .unread reply hnone hwhy rfl
      · -- The read takes no fault away that waits for the write.
        have hkept : (e.enter .readFlash).2.fault? .writeFlash = e.fault? .writeFlash :=
          Emulator.fault?_enter_of_ne (by decide)
        cases hwrite : e.fault? .writeFlash with
        | some code =>
          have hlink' := Emulator.operate_fault (r := .writeFlash offset (data.take n))
            (hkept.trans hwrite) h.ctx
          rw [run_write_whole (j := ⟨e, []⟩) haccessible hnone hlink hreceived hlink']
          exact .unwritten _ hnone (by simp [hwrite]) rfl
        | none =>
          have hlength : (data.take n).length = n := List.length_take_of_le (by omega)
          have hlink' := (hreaches.enter .readFlash).operate_ok
            (r := .writeFlash offset (data.take n)) (hkept.trans hwrite)
            (d.perform_writeFlash_inside _ (by omega))
          rw [hlength] at hlink'
          rw [run_write_whole (j := ⟨e, []⟩) haccessible hnone hlink hreceived hlink']
          exact .written _ hinside hread hwrite hdelivers List.map_set
  · have hbeyond : size ≤ offset.toNat := Nat.le_of_not_lt hinside
    rw [write_refused (accessible_beyond hreaches.connected hbeyond _)]
    exact .beyond hbeyond

namespace WriteCourse

variable {run : Except DeviceError WriteReport × Journal Emulator}

theorem ok_iff (hcourse : WriteCourse e h i d data offset n run) :
    (∃ report, run.1 = .ok report) ↔ offset.toNat < size ∧ (n = 0 ∨
      e.fault? .readFlash = none ∧ e.fault? .writeFlash = none ∧ e.Delivers n) := by
  cases hcourse with
  | beyond hbeyond => simp [Nat.not_lt_of_le hbeyond]
  | nothing hinside hnone => simp [hinside, hnone]
  | unread reply hsome hwhy _ =>
    have hnot : ¬ (e.fault? .readFlash = none ∧ e.fault? .writeFlash = none ∧ e.Delivers n) :=
      fun ⟨hread, _, hdelivers⟩ => hwhy.elim (· hread) (· hdelivers)
    simp [hsome, hnot]
  | unwritten reply hsome hwhy _ => simp [hsome, hwhy]
  | written reply hinside hread hwrite hdelivers _ => simp [hinside, hread, hwrite, hdelivers]

/-- The report of a successful write, and the flash it leaves. -/
theorem of_ok (hcourse : WriteCourse e h i d data offset n run) (hdevice : e.devices[i]? = some d)
    (hfits : offset.toNat + n ≤ d.flash.length) (hflash : d.flash.length = size)
    {report : WriteReport} (hok : run.1 = .ok report) : report.written = n ∧
      FirstProgrammed d.flash offset.toNat (offset.toNat + n) report.warning ∧
      run.2.world.flashes = e.flashes.set i (overwrite d.flash offset.toNat (data.take n)) := by
  cases hcourse with
  | beyond => cases hok
  | nothing hinside hnone =>
    cases hok
    have hflash : e.flashes[i]? = some d.flash := by
      rw [Emulator.flashes, List.getElem?_map, hdevice]
      rfl
    obtain ⟨hi, hsame⟩ := List.getElem?_eq_some_iff.mp hflash
    refine ⟨hnone.symm, fun address hstart hstop => by omega, ?_⟩
    rw [hnone, List.take_zero, overwrite_nil, ← hsame, List.set_getElem_self]
  | unread => cases hok
  | unwritten => cases hok
  | written reply hinside hread hwrite hdelivers hflashes =>
    cases hok
    have hword : d.flash.length < UInt32.size := by
      rw [hflash]
      decide
    exact ⟨rfl, firstProgrammed_slice hfits hword, hflashes⟩

theorem flashes_of_error (hcourse : WriteCourse e h i d data offset n run) {failure : DeviceError}
    (herror : run.1 = .error failure) : run.2.world.flashes = e.flashes := by
  cases hcourse with
  | beyond | nothing => rfl
  | unread _ _ _ hflashes | unwritten _ _ _ hflashes => exact hflashes
  | written => cases herror

/-- What was sent to be written was sent right after the bytes there were read back. -/
theorem earlier_of_write (hcourse : WriteCourse e h i d data offset n run)
    {later earlier : List Exchange} {x : Exchange}
    (hsplit : run.2.exchanges = later ++ x :: earlier) {start : UInt32} {bytes : List UInt8}
    (hwrite : x.call.request? = some (.writeFlash start bytes)) :
    earlier = [readBack h d offset n] := by
  have hread {y : Exchange} {later : List Exchange} (hsplit : [y] = later ++ x :: earlier) :
      y.call.request? = some (.writeFlash start bytes) := by
    have hx : x ∈ [y] := hsplit ▸ List.mem_append_right later List.mem_cons_self
    rwa [← List.mem_singleton.mp hx]
  cases hcourse with
  | beyond | nothing => simp at hsplit
  | unread => cases hread hsplit
  | unwritten | written =>
    cases later with
    | nil => exact (List.cons.inj hsplit).2.symm
    | cons _ later => cases hread (List.cons.inj hsplit).2

end WriteCourse

/-- `Flash.write` through a handle that reaches a device, in any state of its flash, with any
pending faults and any read limit. It succeeds if and only if `offset` is inside the flash and
either no byte remains to be written or neither flash call has a pending fault and all `n` bytes are
delivered by one read. The report then has `written = n` and, as its warning, the first of the `n`
bytes that was not erased; without a warning the flash holds the data. A failed write leaves every
flash unchanged, and `writeFlash` is called only right after the `n` bytes were read. -/
theorem write_of_reached (hreaches : e.Reaches h i d) (hflash : d.flash.length = size)
    (data : List UInt8) (offset : UInt32) :
    let n := min data.length (size - offset.toNat)
    let run := (write h data offset).run.run (Journal.link link).reply ⟨e, []⟩
    ((∃ report, run.1 = .ok report) ↔ offset.toNat < size ∧ (n = 0 ∨
      e.fault? .readFlash = none ∧ e.fault? .writeFlash = none ∧ e.Delivers n)) ∧
    (∀ report, run.1 = .ok report → report.written = n ∧
      FirstProgrammed d.flash offset.toNat (offset.toNat + n) report.warning ∧
      (report.warning = none → ∃ flash, run.2.world.flashes[i]? = some flash ∧
        (flash.drop offset.toNat).take n = data.take n) ∧
      run.2.world.flashes = e.flashes.set i (overwrite d.flash offset.toNat (data.take n))) ∧
    (∀ failure, run.1 = .error failure → run.2.world.flashes = e.flashes) ∧
    ∀ later x earlier, run.2.exchanges = later ++ x :: earlier →
      ∀ start bytes, x.call.request? = some (.writeFlash start bytes) →
        earlier = [readBack h d offset n] := by
  intro n run
  have hcourse : WriteCourse e h i d data offset n run := writeCourse_write hreaches hflash rfl
  refine ⟨hcourse.ok_iff, ?_, fun failure => hcourse.flashes_of_error,
    fun later x earlier hsplit start bytes => hcourse.earlier_of_write hsplit⟩
  intro report hok
  have hinside : offset.toNat < size := (hcourse.ok_iff.mp ⟨report, hok⟩).1
  have hfits : offset.toNat + n ≤ d.flash.length := by omega
  obtain ⟨hwritten, hfirst, hflashes⟩ := hcourse.of_ok hreaches.device hfits hflash hok
  refine ⟨hwritten, hfirst, fun hnone => ?_, hflashes⟩
  have hi : i < e.flashes.length := by
    simpa [Emulator.flashes] using (List.getElem?_eq_some_iff.mp hreaches.device).1
  have hlength : (data.take n).length = n := List.length_take_of_le (by omega)
  refine ⟨_, by rw [hflashes, List.getElem?_set_self hi], ?_⟩
  rw [hnone] at hfirst
  rw [← hlength] at hfits hfirst
  have hdata := overwrite_erased hfits hfirst
  rwa [hlength] at hdata

/-- Of three bytes two are written across the end of a flash whose last byte was programmed before,
where two are read at once; nothing is written where a fault waits for it. -/
theorem write_of_reached_at_end :
    let h : Handle := ⟨⟨1⟩, true⟩
    let d : Device := { Device.new "A" 4 with flash := List.replicate 0x1FFFF erasedByte ++ [0x0F] }
    let e : Emulator := { Emulator.engaged (some 2) with devices := [d] }
    let run (e : Emulator) :=
      (write h [1, 2, 3] 0x1FFFE).run.run (Journal.link link).reply ⟨e, []⟩
    (e.Reaches h 0 d ∧ d.flash.length = size) ∧
      (run e).1 = .ok ⟨2, some ⟨0x1FFFF, 0x0F⟩⟩ ∧
      ∀ code, ∃ failure, (run (e.failNext .writeFlash code)).1 = .error failure ∧
        (run (e.failNext .writeFlash code)).2.world.flashes = [d.flash] := by
  intro h d e run
  have hrun (e : Emulator) : run e =
      (write h [1, 2, 3] 0x1FFFE).run.run (Journal.link link).reply ⟨e, []⟩ := rfl
  clear_value run
  have hreaches : e.Reaches h 0 d := ⟨rfl, rfl, rfl, rfl⟩
  have hlength : (List.replicate 0x1FFFF erasedByte).length = 0x1FFFF := List.length_replicate
  have hflash : d.flash.length = size := by
    rw [List.length_append, hlength]
    rfl
  have hbefore : d.flash[0x1FFFE]? = some erasedByte := by
    rw [List.getElem?_append_left (by rw [hlength]; decide), List.getElem?_replicate,
      if_pos (by decide)]
  have hlast : d.flash[0x1FFFF]? = some 0x0F := by
    rw [List.getElem?_append_right (Nat.le_of_eq hlength), hlength]
    rfl
  have hstart : (0x1FFFE : UInt32).toNat = 0x1FFFE := by decide
  have hn : min [(1 : UInt8), 2, 3].length (size - 0x1FFFE) = 2 := by decide
  refine ⟨⟨hreaches, hflash⟩, ?_, fun code => ?_⟩
  · obtain ⟨hok, hreport, -⟩ := write_of_reached hreaches hflash [1, 2, 3] 0x1FFFE
    rw [hstart, hn, ← hrun] at hok hreport
    have hdelivers : e.Delivers 2 := by
      rintro limit ⟨⟩
      exact Nat.le_refl 2
    obtain ⟨⟨written, warning⟩, hwrite⟩ := hok.mpr ⟨by decide, Or.inr ⟨rfl, rfl, hdelivers⟩⟩
    obtain ⟨rfl, hfirst, -⟩ := hreport _ hwrite
    cases warning with
    | none =>
      have herased := hfirst 0x1FFFF (by decide) (by decide)
      rw [hlast] at herased
      cases herased
    | some p =>
      obtain ⟨offset, found⟩ := p
      obtain ⟨hfrom, hbehind, hfound, hne, -⟩ := hfirst
      dsimp only at hfrom hbehind hfound hne
      obtain hat | hat : offset.toNat = 0x1FFFE ∨ offset.toNat = 0x1FFFF := by omega
      · rw [hat, hbefore] at hfound
        cases hfound
        exact absurd rfl hne
      · rw [hat, hlast] at hfound
        cases hfound
        obtain rfl : offset = 0x1FFFF := UInt32.toNat_inj.mp hat
        exact hwrite
  · have hreaches' : (e.failNext .writeFlash code).Reaches h 0 d := ⟨rfl, rfl, rfl, rfl⟩
    obtain ⟨hok, -, hfailed, -⟩ := write_of_reached hreaches' hflash [1, 2, 3] 0x1FFFE
    have hwaits : (e.failNext .writeFlash code).fault? .writeFlash = some code := rfl
    rw [hstart, hn, hwaits, ← hrun] at hok
    rw [← hrun] at hfailed
    cases hwrite : (run (e.failNext .writeFlash code)).1 with
    | ok report =>
      have hfree := hok.mp ⟨report, hwrite⟩
      simp at hfree
    | error failure => exact ⟨failure, rfl, hfailed failure hwrite⟩

end Spectrometer.Flash
