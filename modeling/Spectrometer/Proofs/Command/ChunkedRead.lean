import Mathlib.Algebra.Order.Floor.Div
import Spectrometer.Command.FlashAccess
import Spectrometer.Proofs.Emulator.FlashAccess

/-!
The flash commands at an emulated device that serves them. Reading in chunks gets what one read
gets, only that a driver which delivers less than it is asked for fails at the first chunk and not
at the whole.
-/

namespace Spectrometer.Command

open Emulator (link)

variable {e : Emulator} {h : Handle} {i : Nat} {d : Device}

/-- Inside the flash reading goes on, with any driver, from where the bytes gathered end: a chunk is
there as a whole or not at all. -/
theorem readChunks_gathered {length : Nat} {offset : UInt32} (hsome : length ≠ 0)
    (hfits : offset.toNat + length ≤ Flash.size) :
    readChunks h length offset = do
      let chunk ← Flash.read h (min readChunk length) offset
      let rest ← readChunks h (length - chunk.length) (offset + UInt32.ofNat chunk.length)
      return chunk ++ rest := by
  rw [readChunks, if_neg hsome]
  apply Interaction.Obeys.bind_congr
  refine (Flash.length_read h (min readChunk length) offset).mono fun result hresult => ?_
  cases result with
  | error failure => rfl
  | ok chunk =>
    have hwhole : chunk.length = min readChunk length := hresult.trans (by omega)
    simp only [ExceptT.bindCont, hwhole]

/-- Within the flash an offset moves on without overflow. -/
private theorem toNat_advanced {offset : UInt32} {n : Nat}
    (hfits : offset.toNat + n ≤ Flash.size) :
    (offset + UInt32.ofNat n).toNat = offset.toNat + n := by
  have hregion : Flash.size = 0x20000 := rfl
  rw [UInt32.toNat_add, UInt32.toNat_ofNat']
  omega

/-- A stretch of the flash is its first bytes and the stretch behind them. -/
private theorem take_drop_split {bytes : List UInt8} {start n total : Nat} (hn : n ≤ total) :
    (bytes.drop start).take total =
      (bytes.drop start).take n ++ (bytes.drop (start + n)).take (total - n) := by
  conv_lhs => rw [← Nat.add_sub_cancel' hn]
  rw [List.take_add, List.drop_drop]

/-- The chunks taken by a read of so many bytes. -/
theorem chunks_step {length : Nat} (hsome : length ≠ 0) :
    length ⌈/⌉ readChunk = 1 + (length - min readChunk length) ⌈/⌉ readChunk := by
  simp only [Nat.ceilDiv_eq_add_pred_div, readChunk]
  omega

/-- Where whole chunks are delivered, the chunks make up the range; each one is one call. -/
theorem run_readChunks {length : Nat} {offset : UInt32} (hserves : e.Serves h i d)
    (hflash : d.flash.length = Flash.size) (hfits : offset.toNat + length ≤ Flash.size)
    (hdelivers : e.Delivers (min readChunk length)) :
    (readChunks h length offset).run.run link.reply e =
      (.ok ((d.flash.drop offset.toNat).take length),
        e.counted .readFlash (length ⌈/⌉ readChunk)) := by
  induction length using Nat.strongRecOn generalizing e offset with
  | ind length ih =>
    by_cases hnone : length = 0
    · subst hnone
      simp [readChunks]
    · rw [readChunks_gathered hnone hfits]
      have hchunk : 0 < min readChunk length ∧ min readChunk length ≤ length := by
        simp only [readChunk]
        omega
      have hstart : offset.toNat + min readChunk length ≤ Flash.size := by omega
      have hnext := toNat_advanced hstart
      have hread := Flash.run_read_ok hserves hflash (Nat.ne_of_gt hchunk.1) hstart hdelivers
      have hgathered : ((d.flash.drop offset.toNat).take (min readChunk length)).length =
          min readChunk length := by
        rw [List.length_take, List.length_drop, hflash]
        omega
      have hdelivers' : (e.counted .readFlash 1).Delivers
          (min readChunk (length - min readChunk length)) :=
        fun limit hlimit => Nat.le_trans (by omega) (hdelivers limit hlimit)
      have hrest := ih (length - min readChunk length) (by omega) (hserves.counted .readFlash 1)
        (by rw [hnext]; omega) hdelivers'
      refine (Interaction.run_bind_ok hread _).trans ?_
      rw [hgathered]
      refine (Interaction.run_bind_ok hrest _).trans ?_
      rw [take_drop_split hchunk.2, chunks_step hnone, hnext, Emulator.counted_counted]
      rfl

/-- A driver that delivers less than a chunk fails the read at the first one. -/
theorem run_readChunks_short {length limit : Nat} {offset : UInt32} (hserves : e.Serves h i d)
    (hlimit : e.readLimit = some limit) (hshort : limit < min readChunk length)
    (hfits : offset.toNat + length ≤ Flash.size) :
    (readChunks h length offset).run.run link.reply e =
      (.error (.incompleteRead (min readChunk length) limit), e.counted .readFlash 1) := by
  have hstart : offset.toNat + min readChunk length ≤ Flash.size := by omega
  have hread := Flash.run_read_short hserves hlimit hshort hstart
  rw [readChunks_gathered (by omega) hfits]
  exact Interaction.run_bind_error hread _

/-- What lies in the region is read at once or in chunks, as its length asks for. -/
theorem readRegion_eq {length : Nat} {offset : UInt32} (hinside : offset.toNat < Flash.size) :
    readRegion h offset length =
      let n := min length (Flash.size - offset.toNat)
      if n ≤ readChunk then Flash.read h n offset else readChunks h n offset := by
  unfold readRegion
  rw [Flash.clamp, if_pos hinside]
  rfl

theorem readRegion_delivered {length n : Nat} {offset : UInt32} (hserves : e.Serves h i d)
    (hflash : d.flash.length = Flash.size) (hinside : offset.toNat < Flash.size)
    (hn : n = min length (Flash.size - offset.toNat))
    (hdelivers : n = 0 ∨ e.Delivers (min n readChunk)) :
    (readRegion h offset length).run.run link.reply e =
      (.ok ((d.flash.drop offset.toNat).take n), e.counted .readFlash (n ⌈/⌉ readChunk)) := by
  rw [readRegion_eq hinside, ← hn]
  dsimp only
  by_cases hone : n ≤ readChunk
  · have hdelivers : e.Delivers n := by
      obtain hnone | hdelivers := hdelivers
      · exact fun limit _ => hnone ▸ Nat.zero_le limit
      · rwa [Nat.min_eq_left hone] at hdelivers
    have hcalls : n ⌈/⌉ readChunk = min n 1 := by
      simp only [Nat.ceilDiv_eq_add_pred_div, readChunk] at hone ⊢
      omega
    rw [if_pos hone, hcalls]
    exact Flash.run_read_delivered hserves hflash hinside (by omega) hdelivers
  · have hdelivers := hdelivers.resolve_left (by omega)
    rw [if_neg hone]
    exact run_readChunks hserves hflash (by omega) (Nat.min_comm n readChunk ▸ hdelivers)

theorem readRegion_short {length n limit : Nat} {offset : UInt32} (hserves : e.Serves h i d)
    (hinside : offset.toNat < Flash.size) (hn : n = min length (Flash.size - offset.toNat))
    (hlimit : e.readLimit = some limit) (hshort : limit < min n readChunk) :
    (readRegion h offset length).run.run link.reply e =
      (.error (.incompleteRead (min n readChunk) limit), e.counted .readFlash 1) := by
  rw [readRegion_eq hinside, ← hn]
  dsimp only
  by_cases hone : n ≤ readChunk
  · rw [Nat.min_eq_left hone] at hshort ⊢
    rw [if_pos hone]
    exact Flash.run_read_short hserves hlimit hshort (by omega)
  · rw [Nat.min_comm] at hshort ⊢
    rw [if_neg hone]
    exact run_readChunks_short hserves hlimit hshort (by omega)

/-- `readRegion` of a part of the flash of a device that serves the handle. With `n` bytes inside
the flash it returns them after `n ⌈/⌉ readChunk` calls of `readFlash`, if `n` is zero or the driver
delivers a chunk at once; otherwise the first chunk fails with `incompleteRead`. Without a read
limit its result equals that of one `Flash.read`, also for an `offset` beyond the end. -/
theorem readRegion_of_served (hserves : e.Serves h i d) (hflash : d.flash.length = Flash.size)
    (offset : UInt32) (length : Nat) :
    let n := min length (Flash.size - offset.toNat)
    let chunk := min n readChunk
    let run := (readRegion h offset length).run.run link.reply e
    (offset.toNat < Flash.size →
      (n = 0 ∨ e.Delivers chunk → run = (.ok ((d.flash.drop offset.toNat).take n),
        e.counted .readFlash (n ⌈/⌉ readChunk))) ∧
      (¬ (n = 0 ∨ e.Delivers chunk) → ∃ limit, e.readLimit = some limit ∧
        run = (.error (.incompleteRead chunk limit), e.counted .readFlash 1))) ∧
    (e.readLimit = none → run.1 = ((Flash.read h length offset).run.run link.reply e).1) := by
  intro n chunk run
  refine ⟨fun hinside => ⟨readRegion_delivered hserves hflash hinside rfl, fun hshort => ?_⟩,
    fun hunlimited => ?_⟩
  · obtain ⟨limit, hlimit, hless⟩ : ∃ limit, e.readLimit = some limit ∧ limit < chunk := by
      simpa [Emulator.Delivers] using (not_or.mp hshort).2
    exact ⟨limit, hlimit, readRegion_short hserves hinside rfl hlimit hless⟩
  · have hdelivers := Emulator.delivers_of_unlimited hunlimited
    by_cases hinside : offset.toNat < Flash.size
    · have hrun : run = _ := readRegion_delivered hserves hflash hinside rfl (Or.inr (hdelivers _))
      rw [hrun, Flash.run_read_delivered hserves hflash hinside rfl (hdelivers _)]
    · -- Both refuse the offset, the one before and the other after looking at the handle.
      have hregion : Flash.clamp offset length = .error (.precondition (.flashOffset offset)) :=
        if_neg hinside
      have hread : Flash.accessible h offset length = Flash.clamp offset length :=
        if_pos hserves.connected
      have hrun : run = (.error (.precondition (.flashOffset offset)), e) := by
        simp only [run, readRegion, hregion]
        rfl
      rw [hrun]
      unfold Flash.read
      rw [hread, hregion]
      rfl

/-- Two chunks are read where whole chunks are delivered, and none where they are a byte short. -/
theorem engaged_reads_two_chunks :
    let h : Handle := ⟨⟨1⟩, true⟩
    let d : Device := .new "A" 4
    let run (limit : Nat) := (readRegion h 0 5000).run.run link.reply (.engaged (some limit))
    (∀ limit, (Emulator.engaged (some limit)).Serves h 0 d) ∧ d.flash.length = Flash.size ∧
      run 4096 = (.ok ((d.flash.drop 0).take 5000),
        (Emulator.engaged (some 4096)).counted .readFlash 2) ∧
      run 4095 = (.error (.incompleteRead 4096 4095),
        (Emulator.engaged (some 4095)).counted .readFlash 1) := by
  intro h d run
  have hserves (limit : Nat) := Emulator.serves_engaged (some limit)
  have hflash : d.flash.length = Flash.size := List.length_replicate
  refine ⟨hserves, hflash, ?_, ?_⟩
  · refine ((readRegion_of_served (hserves 4096) hflash 0 5000).1 (by decide)).1 (Or.inr ?_)
    intro limit heq
    cases heq
    decide
  · obtain ⟨limit, heq, hrun⟩ :=
      ((readRegion_of_served (hserves 4095) hflash 0 5000).1 (by decide)).2 <| by
        rintro (hnone | hdelivers)
        · exact absurd hnone (by decide)
        · exact absurd (hdelivers 4095 rfl) (by decide)
    cases heq
    exact hrun

end Spectrometer.Command
