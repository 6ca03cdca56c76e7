import Spectrometer.Proofs.Emulator.Pixels

/-!
The emulator with every step checked. The operations of `Checked` have no result where a word would
overflow or a list end too early; written with them, the calls that count, index and copy are the
calls of the emulator as long as its devices are well-formed. So none of the checks can fail, in
whatever state the emulator comes to be.
-/

namespace Spectrometer

/-! Words and lists with checks. -/
namespace Checked

variable {α : Type}

/-- The word for a number, if there is one. -/
def word (n : Nat) : Option UInt16 := if n < UInt16.size then some (UInt16.ofNat n) else none

def add (a b : UInt16) : Option UInt16 := word (a.toNat + b.toNat)

def mul (a b : UInt16) : Option UInt16 := word (a.toNat * b.toNat)

def sub (a b : UInt16) : Option UInt16 := if b ≤ a then some (a - b) else none

/-- A word without its last bits, if it has so many. -/
def shiftRight (a : UInt16) (bits : Nat) : Option UInt16 :=
  if bits < 16 then word (a.toNat >>> bits) else none

/-- The part of a list from a place up to the one before another place. -/
def slice (l : List α) (start behind : Nat) : Option (List α) :=
  if start ≤ behind ∧ behind ≤ l.length then some ((l.drop start).take (behind - start)) else none

/-- A buffer after data was put at its front. -/
def copy (buffer data : List α) : Option (List α) :=
  if data.length ≤ buffer.length then some (data ++ buffer.drop data.length) else none

variable {a b : UInt16}

theorem word_eq {n : Nat} (hn : n < UInt16.size) : word n = some (UInt16.ofNat n) := if_pos hn

theorem add_eq (hsum : a.toNat + b.toNat < UInt16.size) : add a b = some (a + b) := by
  rw [add, word_eq hsum, UInt16.ofNat_add, UInt16.ofNat_toNat, UInt16.ofNat_toNat]

theorem mul_eq (hproduct : a.toNat * b.toNat < UInt16.size) : mul a b = some (a * b) := by
  rw [mul, word_eq hproduct, UInt16.ofNat_mul, UInt16.ofNat_toNat, UInt16.ofNat_toNat]

theorem toNat_add (hsum : a.toNat + b.toNat < UInt16.size) :
    (a + b).toNat = a.toNat + b.toNat := by
  rw [UInt16.toNat_add]
  exact Nat.mod_eq_of_lt hsum

theorem sub_eq (hle : b ≤ a) : sub a b = some (a - b) := if_pos hle

theorem slice_eq {l : List α} {start behind : Nat} (hstart : start ≤ behind)
    (hbehind : behind ≤ l.length) :
    slice l start behind = some ((l.drop start).take (behind - start)) :=
  if_pos ⟨hstart, hbehind⟩

theorem copy_eq {buffer data : List α} (hroom : data.length ≤ buffer.length) :
    copy buffer data = some (data ++ buffer.drop data.length) := if_pos hroom

/-- Where every element has a result, so has the list. -/
theorem mapM_eq {β : Type} {f : α → Option β} {g : α → β} {l : List α}
    (hf : ∀ a ∈ l, f a = some (g a)) : l.mapM f = some (l.map g) := by
  induction l with
  | nil => rfl
  | cons a rest ih =>
    rw [List.mapM_cons, hf a List.mem_cons_self, ih fun b hb => hf b (List.mem_cons_of_mem a hb)]
    rfl

end Checked

namespace Device

def frameSize? (f : FrameFormat) : Option UInt16 := do
  let range ← Checked.sub f.last f.first
  let groups ← Checked.shiftRight range f.reduction.raw.toNat
  let size ← Checked.add (UInt16.ofNat (Frame.headerLength + Frame.trailerLength)) groups
  Checked.add size 1

def setFormat? (d : Device) (f : FrameFormat) : Option (Except ResultCode (UInt16 × Device)) :=
  if f.last < f.first ∨ maxElement < f.last then some (.error .wrongAnswer)
  else do
    let size ← frameSize? f
    return .ok (size, { d with format := ⟨f, size⟩ }.clearMemory)

def pixel? (f : FrameFormat) (k : Nat) : Option UInt16 := do
  let offset ← Checked.mul (← Checked.word k) f.reduction.factor
  let element ← Checked.add f.first offset
  Checked.add element 1

/-- A blank frame with the count of captures in front and pixels in the middle. -/
def synthesize? (d : Device) : Option (List UInt16) := do
  let blank := (List.replicate d.format.size.toNat 0).set 0 d.captures.toUInt16
  let stop := blank.length - Frame.trailerLength
  let middle ← Checked.slice blank Frame.headerLength stop
  let pixels ← (List.range middle.length).mapM (pixel? d.format.format)
  return blank.take Frame.headerLength ++ pixels ++ blank.drop stop

/-- Stores one frame after the other, until none fits any more. -/
def store? : Nat → Device → Option Device
  | 0, d => some d
  | n + 1, d =>
    if d.memoryFrames.toNat ≤ d.frames.size then some { d with memoryFull := true }
    else do
      let frame ← d.synthesize?
      store? n { d with frames := d.frames.push frame }

def trigger? (d : Device) : Option Device :=
  let d := { d with captures := d.captures + 1 }
  if d.isAveraging then do
    let frame ← d.synthesize?
    let status ← Checked.add d.averagedStatus 1
    return { d with averaged := some frame, averagedStatus := min status 2 }
  else store? d.acquisition.scans.toNat d

def status? (d : Device) : Option DeviceStatus := do
  let frames ← match d.forcedFrames with
    | some forced => some forced
    | none => if d.isAveraging then some d.averagedStatus else Checked.word d.frames.size
  return ⟨⟨false, d.memoryFull⟩, frames⟩

/-- The caller's buffer of `length` samples after as much of a frame as fits was put into it. -/
def deliver? (length : Nat) (frame : List UInt16) : Option (List UInt16) := do
  let samples ← Checked.slice frame 0 (min length frame.length)
  Checked.copy (List.replicate length 0) samples

def getFrame? (d : Device) (index : UInt16) (length : Nat) :
    Option (Except ResultCode (List UInt16 × Device)) :=
  if d.isAveraging then do
    let frame ← d.averaged.elim d.synthesize? some
    let _ ← deliver? length frame
    return .ok (frame, { d with averagedStatus := 0 })
  else
    match if index = Frame.latestIndex then d.frames.back? else d.frames[index.toNat]? with
    | some frame => do
      let _ ← deliver? length frame
      return .ok (frame, d)
    | none => some (.error .readFailed)

def readFlash? (d : Device) (limit : Option Nat) (offset : UInt32) (length : Nat) :
    Option (Except ResultCode FlashDelivery) :=
  if offset.toNat + length ≤ d.flash.length then do
    let count := limit.elim length (min length)
    let bytes ← Checked.slice d.flash offset.toNat (offset.toNat + count)
    let _ ← Checked.copy (List.replicate length 0) bytes
    return .ok ⟨bytes, count⟩
  else some (.error .flashRemainingPackets)

def writeFlash? (d : Device) (offset : UInt32) (data : List UInt8) :
    Option (Except ResultCode (Nat × Device)) :=
  if offset.toNat + data.length ≤ d.flash.length then do
    let after ← Checked.slice d.flash offset.toNat d.flash.length
    return .ok (data.length,
      { d with flash := d.flash.take offset.toNat ++ program after data })
  else some (.error .writeFailed)

/-- What a device does when it is asked for something, with its steps checked. The other requests
copy fields. -/
def perform? (d : Device) (limit : Option Nat) :
    (r : Request) → Option (Except ResultCode (r.Value × Device))
  | .setFormat f => d.setFormat? f
  | .trigger => do return .ok ((), ← d.trigger?)
  | .getStatus => do return .ok (← d.status?, d)
  | .getFrame index length => d.getFrame? index length
  | .readFlash offset length => do
    return (← d.readFlash? limit offset length).map fun delivery => (delivery, d)
  | .writeFlash offset data => d.writeFlash? offset data
  | r => some (d.perform limit r)

variable {d : Device}

theorem frameSize?_eq {f : FrameFormat} (hfirst : f.first ≤ f.last) (hlast : f.last ≤ maxElement) :
    frameSize? f = some (frameSize f) := by
  obtain ⟨hgroups, hbound⟩ := toNat_groups hfirst hlast
  rw [← hgroups] at hbound
  have hshift : Checked.shiftRight (f.last - f.first) f.reduction.raw.toNat =
      some ((f.last - f.first) / f.reduction.factor) := by
    have hbits : f.reduction.raw.toNat < 16 := by cases f.reduction <;> decide
    rw [Checked.shiftRight, if_pos hbits, shiftRight_raw, ← UInt16.toNat_div,
      Checked.word_eq (UInt16.toNat_lt _), UInt16.ofNat_toNat]
  have hservice : (UInt16.ofNat (Frame.headerLength + Frame.trailerLength)).toNat = 46 := rfl
  have hsum : (UInt16.ofNat (Frame.headerLength + Frame.trailerLength)).toNat +
      ((f.last - f.first) / f.reduction.factor).toNat < UInt16.size := by
    rw [hservice, UInt16.size]
    omega
  have hsize : (UInt16.ofNat (Frame.headerLength + Frame.trailerLength) +
      (f.last - f.first) / f.reduction.factor).toNat + (1 : UInt16).toNat < UInt16.size := by
    rw [Checked.toNat_add hsum, hservice, UInt16.toNat_one, UInt16.size]
    omega
  simp only [frameSize?, Checked.sub_eq hfirst, hshift, Checked.add_eq hsum, Checked.add_eq hsize,
    Option.bind_eq_bind, Option.bind_some]
  rfl

theorem setFormat?_eq (d : Device) (f : FrameFormat) : d.setFormat? f = some (d.setFormat f) := by
  unfold setFormat? setFormat
  split
  · rfl
  · rename_i hfits
    simp only [not_or, UInt16.not_lt] at hfits
    rw [frameSize?_eq hfits.1 hfits.2]
    rfl

theorem pixel?_eq {f : FrameParameters} (h : f.OnSensor) {k : Nat} (hk : k < f.pixels) :
    pixel? f.format k = some (f.format.pixel k) := by
  have helement := h.element_le hk
  have hlast : f.format.last.toNat ≤ 3647 := h.last
  have hnumber := h.toNat_number hk
  have hoffset := h.toNat_offset hk
  have hword : k < UInt16.size := hnumber ▸ UInt16.toNat_lt _
  have hproduct : (UInt16.ofNat k).toNat * f.format.reduction.factor.toNat < UInt16.size := by
    rw [hnumber, UInt16.size]
    omega
  have hsum : f.format.first.toNat + (UInt16.ofNat k * f.format.reduction.factor).toNat <
      UInt16.size := by
    rw [hoffset, UInt16.size]
    omega
  have hnext : (f.format.first + UInt16.ofNat k * f.format.reduction.factor).toNat +
      (1 : UInt16).toNat < UInt16.size := by
    rw [Checked.toNat_add hsum, hoffset, UInt16.toNat_one, UInt16.size]
    omega
  simp only [pixel?, Checked.word_eq hword, Checked.mul_eq hproduct, Checked.add_eq hsum,
    Checked.add_eq hnext, Option.bind_eq_bind, Option.bind_some]
  rfl

/-- A blank frame falls into the service samples in front, the pixels, and those behind. -/
theorem blank_eq (h : d.format.OnSensor) :
    (List.replicate d.format.size.toNat 0).set 0 d.captures.toUInt16 =
      (d.captures.toUInt16 :: List.replicate (Frame.headerLength - 1) 0) ++
        List.replicate d.format.pixels 0 ++ List.replicate Frame.trailerLength 0 := by
  rw [h.size_eq, ← List.replicate_append_replicate, ← List.replicate_append_replicate]
  rfl

theorem synthesize?_eq (h : d.format.OnSensor) : d.synthesize? = some d.synthesize := by
  unfold synthesize?
  rw [blank_eq h, synthesize_eq]
  have hheader : (d.captures.toUInt16 :: List.replicate (Frame.headerLength - 1) 0).length =
      Frame.headerLength := rfl
  generalize d.captures.toUInt16 :: List.replicate (Frame.headerLength - 1) 0 = header at hheader ⊢
  have hfront : (header ++ List.replicate d.format.pixels 0).length =
      Frame.headerLength + d.format.pixels := by
    rw [List.length_append, List.length_replicate, hheader]
  have hlength : (header ++ List.replicate d.format.pixels 0 ++
      List.replicate Frame.trailerLength 0).length - Frame.trailerLength =
        Frame.headerLength + d.format.pixels := by
    rw [List.length_append, List.length_replicate, hfront, Nat.add_sub_cancel]
  have hmiddle : Checked.slice (header ++ List.replicate d.format.pixels 0 ++
      List.replicate Frame.trailerLength 0) Frame.headerLength
        (Frame.headerLength + d.format.pixels) = some (List.replicate d.format.pixels 0) := by
    rw [Checked.slice_eq (Nat.le_add_right ..), List.append_assoc, List.drop_left' hheader,
      Nat.add_sub_cancel_left, List.take_left' List.length_replicate]
    rw [List.length_append, hfront]
    exact Nat.le_add_right ..
  have hpixels : (List.range d.format.pixels).mapM (pixel? d.format.format) =
      some ((List.range d.format.pixels).map d.format.format.pixel) :=
    Checked.mapM_eq fun k hk => pixel?_eq h (List.mem_range.mp hk)
  simp only [hlength, hmiddle, List.length_replicate, hpixels, Option.bind_eq_bind,
    Option.bind_some, List.drop_left' hfront]
  rw [List.append_assoc header, List.take_left' hheader]
  rfl

theorem store?_eq (h : d.format.OnSensor) (n : Nat) :
    store? n d = some { d with
      frames := d.frames ++
        Array.replicate (min n (d.memoryFrames.toNat - d.frames.size)) d.synthesize
      memoryFull := d.memoryFull || d.memoryFrames.toNat - d.frames.size < n } := by
  induction n generalizing d with
  | zero => simp [store?]
  | succ n ih =>
    unfold store?
    by_cases hfull : d.memoryFrames.toNat ≤ d.frames.size
    · have hroom : d.memoryFrames.toNat - d.frames.size = 0 := by omega
      simp [hfull, hroom]
    · rw [if_neg hfull, synthesize?_eq h, Option.bind_eq_bind, Option.bind_some,
        ih (d := { d with frames := d.frames.push d.synthesize }) h]
      have hroom : d.memoryFrames.toNat - d.frames.size =
          d.memoryFrames.toNat - (d.frames.push d.synthesize).size + 1 := by
        rw [Array.size_push]
        omega
      have hframes (k : Nat) : d.frames.push d.synthesize ++ Array.replicate k d.synthesize =
          d.frames ++ Array.replicate (k + 1) d.synthesize := by
        rw [Array.replicate_succ', ← Array.append_assoc, Array.append_singleton]
      rw [hroom, Nat.succ_min_succ, ← hframes]
      simp only [Nat.add_lt_add_iff_right]
      rfl

theorem trigger?_eq (h : d.WellFormed) : d.trigger? = some d.trigger := by
  have hready := h.readiness
  have hnext : d.averagedStatus.toNat + (1 : UInt16).toNat < UInt16.size := by
    rw [UInt16.toNat_one, UInt16.size]
    omega
  unfold trigger? trigger
  dsimp only
  rw [synthesize?_eq (d := { d with captures := d.captures + 1 }) h.format, Checked.add_eq hnext,
    store?_eq (d := { d with captures := d.captures + 1 }) h.format]
  split <;> rfl

/-- A word counts the stored frames. -/
theorem WellFormed.size_lt (h : d.WellFormed) : d.frames.size < UInt16.size :=
  Nat.lt_of_le_of_lt h.room d.memoryFrames.toNat_lt

theorem status?_eq (h : d.WellFormed) : d.status? = some d.status := by
  unfold status? status
  rw [Checked.word_eq h.size_lt]
  cases d.forcedFrames with
  | some forced => rfl
  | none => cases d.isAveraging <;> rfl

private theorem filled_eq {α : Type} (length : Nat) (blank : α) (data : List α) :
    filled length blank data = data.take length ++ List.replicate (length - data.length) blank := by
  unfold filled
  split
  · rename_i hall
    rw [← hall, List.take_length, Nat.sub_self, List.replicate_zero, List.append_nil]
  · rfl

/-- What the caller finds in the buffer is the frame as far as it fits, and zeros. -/
theorem deliver?_eq (length : Nat) (frame : List UInt16) :
    deliver? length frame = some (filled length 0 frame) := by
  have hslice := Checked.slice_eq (Nat.zero_le (min length frame.length)) (Nat.min_le_right ..)
  have hcopy : (frame.take (min length frame.length)).length ≤
      (List.replicate length (0 : UInt16)).length := by
    rw [List.length_take, List.length_replicate]
    omega
  rw [deliver?, hslice, Option.bind_eq_bind, Option.bind_some, List.drop_zero, Nat.sub_zero,
    Checked.copy_eq hcopy, List.length_take, List.drop_replicate, filled_eq]
  have hsamples : frame.take (min length frame.length) = frame.take length := by
    rw [List.take_eq_take_iff]
    omega
  have hrest : length - min (min length frame.length) frame.length = length - frame.length := by
    omega
  rw [hsamples, hrest]

theorem getFrame?_eq (h : d.WellFormed) (index : UInt16) (length : Nat) :
    d.getFrame? index length = some (d.getFrame index) := by
  unfold getFrame? getFrame
  simp only [deliver?_eq, Option.bind_eq_bind, Option.bind_some]
  by_cases haveraging : d.isAveraging = true
  · rw [if_pos haveraging, if_pos haveraging]
    cases d.averaged with
    | none => rw [Option.elim_none, synthesize?_eq h.format, Option.bind_some]; rfl
    | some frame => rfl
  · rw [if_neg haveraging, if_neg haveraging]
    generalize (if index = Frame.latestIndex then _ else _ : Option (List UInt16)) = found
    cases found <;> rfl

theorem readFlash?_eq (h : d.WellFormed) (limit : Option Nat) (offset : UInt32) (length : Nat) :
    d.readFlash? limit offset length = some (d.readFlash limit offset length) := by
  unfold readFlash? readFlash
  rw [h.flash]
  by_cases hinside : offset.toNat + length ≤ Flash.size
  · rw [if_pos hinside, if_pos hinside]
    have hcount : limit.elim length (min length) ≤ length := by
      cases limit with
      | none => exact Nat.le_refl length
      | some limit => exact Nat.min_le_left ..
    generalize limit.elim length (min length) = count at hcount
    have hbytes : Checked.slice d.flash offset.toNat (offset.toNat + count) =
        some ((d.flash.drop offset.toNat).take count) := by
      rw [Checked.slice_eq (Nat.le_add_right ..), Nat.add_sub_cancel_left]
      rw [h.flash]
      omega
    have hroom : ((d.flash.drop offset.toNat).take count).length ≤
        (List.replicate length (0 : UInt8)).length := by
      rw [List.length_take, List.length_replicate]
      omega
    dsimp only
    rw [hbytes, Option.bind_eq_bind, Option.bind_some, Checked.copy_eq hroom]
    rfl
  · rw [if_neg hinside, if_neg hinside]

theorem writeFlash?_eq (h : d.WellFormed) (offset : UInt32) (data : List UInt8) :
    d.writeFlash? offset data = some (d.writeFlash offset data) := by
  unfold writeFlash? writeFlash
  rw [h.flash]
  by_cases hinside : offset.toNat + data.length ≤ Flash.size
  · have hafter : Checked.slice d.flash offset.toNat Flash.size =
        some (d.flash.drop offset.toNat) := by
      rw [Checked.slice_eq (by omega) (Nat.le_of_eq h.flash.symm), List.take_of_length_le]
      exact Nat.le_of_eq (by rw [List.length_drop, h.flash])
    rw [if_pos hinside, if_pos hinside, hafter]
    simp only [List.splitAt_eq]
    rfl
  · rw [if_neg hinside, if_neg hinside]

theorem perform?_eq (h : d.WellFormed) (limit : Option Nat) (r : Request) :
    d.perform? limit r = some (d.perform limit r) := by
  cases r with
  | setFormat f => exact d.setFormat?_eq f
  | trigger => simp only [perform?, trigger?_eq h]; rfl
  | getStatus => simp only [perform?, status?_eq h]; rfl
  | getFrame index length => exact getFrame?_eq h index length
  | readFlash offset length => simp only [perform?, readFlash?_eq h]; rfl
  | writeFlash offset data => exact writeFlash?_eq h offset data
  | _ => rfl

end Device

namespace Emulator

def operate? (e : Emulator) (ctx : Context) (r : Request) :
    Option (Except ResultCode r.Value × Emulator) :=
  match e.deviceOf? ctx with
  | none => some (.error .deviceNotInitialized, e)
  | some i => do
    let d ← e.devices[i]?
    if d.detached then
      return (.error .writeFailed, e)
    else
      match ← d.perform? e.readLimit r with
      | .error code => return (.error code, e)
      | .ok (value, d) => return (.ok value, { e with devices := e.devices.set i d })

/-- The emulator as a driver, with its steps checked: a context has to belong to a device. -/
def link? : (c : Call) → Emulator → Option (c.Reply × Emulator)
  | .pixelsInFrame ctx, e =>
    match e.contexts.lookup ctx.raw with
    | none => some (none, e)
    | some i => do
      let d ← e.devices[i]?
      return (some d.format.size, e)
  | .operate ctx r, e =>
    match e.enter r.operation with
    | (some code, e) => some (.error code, e)
    | (none, e) => e.operate? ctx r
  | c, e => some (link c e)

variable {e : Emulator} {memoryFrames : UInt16}

theorem WellFormed.operate? (h : e.WellFormed memoryFrames) (ctx : Context) (r : Request) :
    e.operate? ctx r = some (e.operate ctx r) := by
  unfold Emulator.operate? operate
  cases hi : e.deviceOf? ctx with
  | none => rfl
  | some i =>
    have hlt := (h.sound.of_deviceOf? hi).2
    obtain ⟨d, hd⟩ : ∃ d, e.devices[i]? = some d := ⟨_, List.getElem?_eq_getElem hlt⟩
    simp only [hd, Option.bind_eq_bind, Option.bind_some, Device.perform?_eq (h.device hd)]
    by_cases hdetached : d.detached = true
    · rw [if_pos hdetached, if_pos hdetached]
      rfl
    · rw [if_neg hdetached, if_neg hdetached]
      cases d.perform e.readLimit r <;> rfl

/-- No check fails on the way of a call through a well-formed emulator. -/
theorem WellFormed.link? (h : e.WellFormed memoryFrames) (c : Call) :
    Emulator.link? c e = some (link c e) := by
  cases c with
  | pixelsInFrame ctx =>
    simp only [Emulator.link?, link]
    cases hlookup : e.contexts.lookup ctx.raw with
    | none => rfl
    | some i =>
      obtain ⟨before, after, hsplit, -⟩ := List.lookup_eq_some_iff.mp hlookup
      have hmem : (ctx.raw, i) ∈ e.contexts := by simp [hsplit]
      have hlt := (h.sound.contexts _ _ hmem).2.2
      simp only [Option.bind_some, List.getElem?_eq_getElem hlt]
      rfl
  | operate ctx r =>
    simp only [Emulator.link?, link]
    cases henter : e.enter r.operation with
    | mk fault e₁ =>
      obtain rfl : e₁ = (e.enter r.operation).2 := by rw [henter]
      cases fault with
      | some code => rfl
      | none =>
        have hentered : (e.enter r.operation).2.WellFormed memoryFrames :=
          ⟨⟨h.sound.next, h.sound.contexts⟩, h.devices⟩
        exact hentered.operate? ctx r
  | _ => rfl

/-- After any sequence of events (calls with any arguments and contexts, injected faults, forced
counts, reattached devices) every device is well-formed and keeps `memoryFrames`; every stored raw
frame and every average has `format.size` samples; a ring-mode status without a forced count reports
the number of stored frames; every live context belongs to a device. Each further call equals its
checked version `link?`, whose arithmetic, slices and indices would fail on overflow or out of
bounds. -/
theorem devices_wellFormed_and_calls_checked (config : EmulatorConfig) (events : List Event) :
    let e := (new config).after events
    (∀ d ∈ e.devices, d.WellFormed ∧ d.memoryFrames = config.memoryFrames ∧
      (∀ raw ∈ d.frames, raw.length = d.format.size.toNat) ∧
      (∀ raw, d.averaged = some raw → raw.length = d.format.size.toNat) ∧
      (d.forcedFrames = none → d.isAveraging = false → d.status.frames.toNat = d.frames.size)) ∧
    (∀ key i, (key, i) ∈ e.contexts → i < e.devices.length) ∧
    ∀ c, link? c e = some (link c e) := by
  intro e
  have h : e.WellFormed config.memoryFrames := (wellFormed_new config).after events
  refine ⟨?_, fun key i hmem => (h.sound.contexts key i hmem).2.2, h.link?⟩
  intro d hd
  obtain ⟨hdevice, hmemoryFrames⟩ := h.devices d hd
  refine ⟨hdevice, hmemoryFrames, ?_, ?_, ?_⟩
  · exact fun raw hraw => (hdevice.frames raw hraw).length_eq hdevice.format
  · exact fun raw hraw => (hdevice.averaged raw hraw).length_eq hdevice.format
  · intro hforced hcounting
    rw [Device.status, hforced, hcounting]
    exact UInt16.toNat_ofNat_of_lt' hdevice.size_lt

end Emulator

end Spectrometer
