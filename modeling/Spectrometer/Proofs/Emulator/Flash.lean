import Spectrometer.Proofs.Emulator.Live
import Spectrometer.Proofs.Flash
import Spectrometer.Proofs.Flash.Calls

/-!
What reaches the flashes of emulated devices. Of all requests only two change a flash, and those
that are refused change none. So an access by way of `Flash` that fails leaves every flash alone, a
write that succeeds programs what it covers, and a read that succeeds delivers what is there.
-/

namespace Spectrometer

/-- What a request that is carried out makes of a flash. -/
def Request.flashAfter : Request → List UInt8 → List UInt8
  | eraseFlash, _ => List.replicate Flash.size Flash.erasedByte
  | writeFlash offset data, flash =>
    Flash.overwrite flash offset.toNat (data.take (Flash.size - offset.toNat))
  | _, flash => flash

theorem Device.perform_flash {d d' : Device} {limit : Option Nat} {r : Request} {value : r.Value}
    (hperform : d.perform limit r = .ok (value, d')) : d'.flash = r.flashAfter d.flash := by
  cases r with
  | setFormat f =>
    rw [setFormat_eq hperform]
    rfl
  | trigger =>
    cases hperform
    unfold trigger
    dsimp only
    split <;> rfl
  | getFrame index length =>
    rw [getFrame_eq hperform]
    split <;> rfl
  | readFlash offset length =>
    rw [(perform_readFlash hperform).2]
    rfl
  | writeFlash offset data =>
    obtain ⟨hfits, rfl⟩ := writeFlash_eq hperform
    have hall : data.take (Flash.size - offset.toNat) = data :=
      List.take_of_length_le (by omega)
    simp only [Request.flashAfter, hall]
    rfl
  | _ =>
    cases hperform
    rfl

/-- What a device reads lies in the flash; a limit cuts it. -/
theorem Device.perform_readFlash_inside (d : Device) (limit : Option Nat) {offset : UInt32}
    {length : Nat} (hfits : offset.toNat + length ≤ Flash.size) :
    let count := limit.elim length (min length)
    d.perform limit (.readFlash offset length) =
      .ok (⟨(d.flash.drop offset.toNat).take count, count⟩, d) := by
  simp [Device.perform, Device.readFlash, hfits, Except.map]

theorem Device.perform_writeFlash_inside (d : Device) (limit : Option Nat) {offset : UInt32}
    {data : List UInt8} (hfits : offset.toNat + data.length ≤ Flash.size) :
    d.perform limit (.writeFlash offset data) =
      .ok (data.length, { d with flash := Flash.overwrite d.flash offset.toNat data }) := by
  simp [Device.perform, Device.writeFlash, hfits, Flash.overwrite]

namespace Emulator

/-- The flashes of all devices, in the order of the enumeration. -/
def flashes (e : Emulator) : List (List UInt8) := e.devices.map (·.flash)

/-- The flashes after a change of the one that is behind a context. -/
def rewritten (e : Emulator) (ctx : Context) (change : List UInt8 → List UInt8) :
    List (List UInt8) :=
  (e.deviceOf? ctx).elim e.flashes fun i => e.flashes.modify i change

/-- What ends like this changed the flash behind the context if it succeeded, and none if not. -/
def Rewrites (e : Emulator) (ctx : Context) (change : List UInt8 → List UInt8) {α : Type} :
    Except DeviceError α × Emulator → Prop
  | (.ok _, e') => e'.flashes = e.rewritten ctx change
  | (.error _, e') => e'.flashes = e.flashes

variable {e e' : Emulator} {ctx : Context} {change : List UInt8 → List UInt8} {α : Type}

theorem rewritten_id (e : Emulator) (ctx : Context) : e.rewritten ctx id = e.flashes := by
  unfold rewritten
  cases e.deviceOf? ctx with
  | none => rfl
  | some i => exact List.modify_id i e.flashes

theorem rewrites_id (hflashes : e'.flashes = e.flashes) (ctx : Context)
    (result : Except DeviceError α) : e.Rewrites ctx id (result, e') := by
  cases result with
  | ok a => exact hflashes.trans (e.rewritten_id ctx).symm
  | error failure => exact hflashes

/-- What is done after a success only may follow something that changes no flash and no context. -/
theorem Rewrites.after {e₁ : Emulator} {outcome : Except DeviceError α × Emulator}
    (h : e₁.Rewrites ctx change outcome) (hflashes : e₁.flashes = e.flashes)
    (hcontexts : e₁.contexts = e.contexts) : e.Rewrites ctx change outcome := by
  obtain ⟨result, e'⟩ := outcome
  cases result with
  | ok a =>
    refine Eq.trans h ?_
    unfold rewritten deviceOf?
    rw [hflashes, hcontexts]
  | error failure => exact Eq.trans h hflashes

/-- It does not matter what a success makes of its value. -/
theorem Rewrites.bind_pure {β : Type} {x : Attempt α}
    (h : e.Rewrites ctx change (x.run.run link.reply e)) (f : α → β) :
    e.Rewrites ctx change ((x >>= fun a => pure (f a)).run.run link.reply e) := by
  cases hx : x.run.run link.reply e with
  | mk result e' =>
    rw [hx] at h
    cases result with
    | ok a =>
      rw [Interaction.run_bind_ok hx]
      exact h
    | error failure =>
      rw [Interaction.run_bind_error hx]
      exact h

/-- What requests no change of a flash makes none. -/
theorem flashes_requests {d : Dialogue α} {kind : Request → Prop} {post : α → Prop}
    (hd : d.Obeys (Utterance.Requests kind) post) (hkind : ∀ r, kind r → r.flashAfter = id)
    (e : Emulator) : (d.run link.reply e).2.flashes = e.flashes := by
  have hkeeps (u : Utterance) (e₁ : Emulator) (hu : Utterance.Requests kind u)
      (hkept : e₁.flashes = e.flashes) : (link.reply u e₁).2.flashes = e.flashes := by
    cases u with
    | warn w => exact hkept
    | call c =>
      refine Eq.trans (List.ext_getElem? fun i => ?_) hkept
      unfold flashes
      rw [List.getElem?_map, List.getElem?_map]
      apply (link_effect c e₁).map_view
      rintro ctx r rfl - d d' value hperform
      rw [Device.perform_flash hperform, hkind r (hu ctx r rfl)]
      rfl
  exact hd.run_keeps hkeeps rfl

theorem rewrites_request (e : Emulator) (h : Handle) (r : Request) :
    e.Rewrites h.ctx r.flashAfter ((h.request r).run.run link.reply e) := by
  rw [Handle.run_request]
  split
  · obtain ⟨code, heq⟩ | ⟨i, d, value, d', hi, hd, hperform, heq⟩ := link_operate_cases e h.ctx r
    · rw [heq]
      rfl
    · rw [heq]
      change (e.devices.set i d').map (·.flash) = e.rewritten h.ctx r.flashAfter
      unfold rewritten
      rw [hi, Option.elim_some, flashes, List.map_set, List.modify_eq_set_getElem?,
        List.getElem?_map, hd, Device.perform_flash hperform]
      rfl
  · rfl

end Emulator

namespace Flash

open Emulator (link)

theorem flashAfter_writeFlash_take {data : List UInt8} {offset : UInt32} {n : Nat}
    (hn : n = min data.length (size - offset.toNat)) :
    (Request.writeFlash offset (data.take n)).flashAfter =
      (Request.writeFlash offset data).flashAfter := by
  have hsame : (data.take n).take (size - offset.toNat) = data.take (size - offset.toNat) := by
    rw [List.take_take, List.take_eq_take_iff]
    omega
  funext flash
  simp only [Request.flashAfter, hsame]

theorem flashAfter_writeFlash_nil (offset : UInt32) :
    (Request.writeFlash offset []).flashAfter = id := by
  funext flash
  simp only [Request.flashAfter, List.take_nil]
  exact overwrite_nil flash offset.toNat

/-- A write that succeeds programs what it covers; one that fails changes nothing. -/
theorem rewrites_write (e : Emulator) (h : Handle) (data : List UInt8) (offset : UInt32) :
    e.Rewrites h.ctx (Request.writeFlash offset data).flashAfter
      ((write h data offset).run.run link.reply e) := by
  cases haccessible : accessible h offset data.length with
  | error failure =>
    rw [write_refused haccessible]
    rfl
  | ok n =>
    rw [← flashAfter_writeFlash_take (accessible_ok haccessible).2.2]
    by_cases hempty : n = 0
    · rw [write_nothing (hempty ▸ haccessible), hempty, List.take_zero, flashAfter_writeFlash_nil]
      exact Emulator.rewrites_id rfl h.ctx (.ok _)
    · have hread : Attempt.Through h (fun r => ∃ o l, r = .readFlash o l) (read h n offset) :=
        through_read h n offset fun o l => ⟨o, l, rfl⟩
      have hflashes := Emulator.flashes_requests hread.requests
        (by rintro _ ⟨o, l, rfl⟩; rfl) e
      have hcontexts := Emulator.contexts_through hread e
      cases hrun : (read h n offset).run.run link.reply e with
      | mk current e₁ =>
        rw [hrun] at hflashes hcontexts
        cases current with
        | error failure =>
          rw [run_write_unread haccessible hempty hrun]
          exact hflashes
        | ok current =>
          rw [run_write_read haccessible hempty hrun]
          apply Emulator.Rewrites.after ?_ hflashes hcontexts
          exact (Emulator.rewrites_request e₁ h (.writeFlash offset (data.take n))).bind_pure _

/-- A read that succeeds delivers the bytes that are there, up to the end of the flash. -/
theorem read_ok {e e' : Emulator} {h : Handle} {length : Nat} {offset : UInt32} {bytes : List UInt8}
    (hread : (read h length offset).run.run link.reply e = (.ok bytes, e')) {i : Nat}
    (hi : e.deviceOf? h.ctx = some i) {flash : List UInt8} (hflash : e.flashes[i]? = some flash)
    (hsize : flash.length = size) : bytes = (flash.drop offset.toNat).take length := by
  cases haccessible : accessible h offset length with
  | error failure =>
    rw [read_refused haccessible] at hread
    cases hread
  | ok n =>
    obtain ⟨-, hinside, hn⟩ := accessible_ok haccessible
    have hslice : (flash.drop offset.toNat).take length = (flash.drop offset.toNat).take n := by
      rw [List.take_eq_take_iff, List.length_drop, hsize]
      omega
    rw [hslice]
    by_cases hempty : n = 0
    · rw [read_nothing (hempty ▸ haccessible)] at hread
      cases hread
      rw [hempty, List.take_zero]
    · rw [run_read_some haccessible hempty] at hread
      obtain ⟨code, hlink⟩ | ⟨j, d, delivery, d', hj, hd, hperform, hlink⟩ :=
        Emulator.link_operate_cases e h.ctx (.readFlash offset n)
      · rw [hlink] at hread
        cases hread
      · rw [hlink] at hread
        have hreceived : received n (.ok delivery) = .ok bytes := congrArg Prod.fst hread
        obtain ⟨_, hreply, hall, rfl⟩ := received_ok_iff.mp hreceived
        cases hreply
        obtain ⟨hdelivery, -⟩ := Device.perform_readFlash hperform
        rw [hi] at hj
        cases hj
        rw [Emulator.flashes, List.getElem?_map, hd] at hflash
        cases hflash
        obtain ⟨hcount, hbytes⟩ := Device.readFlash_ok hdelivery
        have hwhole : delivery.count = n := by omega
        change d.flash.length = size at hsize
        rw [hbytes, hwhole, filled_slice (by omega)]

end Flash

end Spectrometer
