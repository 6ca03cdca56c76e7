import Spectrometer.Proofs.Handle
import Spectrometer.Proofs.Journal

/-!
The driver calls of a flash access. How far an access reaches is settled before the driver is
called, so that every call lies in the flash whatever the driver answers. The answers settle how it
goes on: a read to which too few bytes are delivered is incomplete, and bytes are written only where
a read of the same stretch was complete.
-/

namespace Spectrometer

/-- The stretch of flash that a request is about: the place of its first byte, and its length. -/
def Request.stretch? : Request → Option (Nat × Nat)
  | readFlash offset length => some (offset.toNat, length)
  | writeFlash offset data => some (offset.toNat, data.length)
  | _ => none

namespace Attempt

variable {α β : Type}

@[simp] theorem ofExcept_ok_bind (a : α) (f : α → Attempt β) : ofExcept (.ok a) >>= f = f a := rfl

@[simp] theorem ofExcept_error_bind (e : DeviceError) (f : α → Attempt β) :
    ofExcept (.error e) >>= f = throw e := rfl

end Attempt

namespace Flash

variable {W : Type} {link : Link W} {w w₁ : W} {h : Handle} {offset : UInt32} {length n : Nat}
  {data : List UInt8}

theorem accessible_of_disconnected (hconnected : h.connected = false) (offset : UInt32)
    (length : Nat) : accessible h offset length = .error .notConnected := by
  simp [accessible, hconnected]

theorem accessible_beyond (hconnected : h.connected = true) (hbeyond : size ≤ offset.toNat)
    (length : Nat) :
    accessible h offset length = .error (.precondition (.flashOffset offset)) := by
  simp [accessible, clamp, hconnected, Nat.not_lt_of_le hbeyond]

theorem accessible_eq (hconnected : h.connected = true) (hinside : offset.toNat < size) :
    accessible h offset length = .ok (min length (size - offset.toNat)) := by
  rw [accessible, if_pos hconnected, clamp, if_pos hinside]

theorem accessible_ok (haccessible : accessible h offset length = .ok n) :
    h.connected = true ∧ offset.toNat < size ∧ n = min length (size - offset.toNat) := by
  unfold accessible clamp at haccessible
  split at haccessible
  · rename_i hconnected
    split at haccessible
    · rename_i hinside
      cases haccessible
      exact ⟨hconnected, hinside, rfl⟩
    · cases haccessible
  · cases haccessible

/-- What is accessible of an access all is. -/
theorem accessible_again (haccessible : accessible h offset length = .ok n) :
    accessible h offset n = .ok n := by
  obtain ⟨hconnected, hinside, hn⟩ := accessible_ok haccessible
  rw [accessible_eq hconnected hinside, Nat.min_eq_left (by omega)]

/-- What a read of so many bytes makes of the driver's answer. -/
def received (length : Nat) : Except ResultCode FlashDelivery → Except DeviceError (List UInt8)
  | .error code => .error (.ofCode code)
  | .ok delivery =>
    if delivery.count < length then .error (.incompleteRead length delivery.count)
    else .ok (filled length 0 delivery.bytes)

theorem received_ok_iff {reply : Except ResultCode FlashDelivery} {bytes : List UInt8} :
    received n reply = .ok bytes ↔
      ∃ delivery, reply = .ok delivery ∧ n ≤ delivery.count ∧ filled n 0 delivery.bytes = bytes := by
  cases reply with
  | error code => simp [received]
  | ok delivery =>
    by_cases hshort : delivery.count < n
    · simp [received, hshort, Nat.not_le_of_lt hshort]
    · simp [received, hshort, Nat.le_of_not_lt hshort]

theorem received_short {reply : Except ResultCode FlashDelivery} {delivery : FlashDelivery}
    (hreply : reply = .ok delivery) (hshort : delivery.count < n) :
    received n reply = .error (.incompleteRead n delivery.count) := by
  simp [received, hreply, hshort]

/-- A stretch that lies in the flash fills a buffer of its length. -/
theorem filled_slice {flash : List UInt8} {start : Nat} (hfits : start + n ≤ flash.length) :
    filled n 0 ((flash.drop start).take n) = (flash.drop start).take n := by
  have hlength : ((flash.drop start).take n).length = n := by
    rw [List.length_take, List.length_drop]
    omega
  rw [filled, if_pos hlength]

/-- An access that is refused is refused before anything is said. -/
theorem read_refused {e : DeviceError} (haccessible : accessible h offset length = .error e) :
    read h length offset = throw e := by
  rw [read, haccessible, Attempt.ofExcept_error_bind]

theorem read_nothing (haccessible : accessible h offset length = .ok 0) :
    read h length offset = pure [] := by
  rw [read, haccessible, Attempt.ofExcept_ok_bind, if_pos rfl]

/-- A read of some bytes is one call. -/
theorem run_read_some (haccessible : accessible h offset length = .ok n) (hsome : n ≠ 0)
    (link : Link W) (w : W) :
    (read h length offset).run.run link.reply w =
      (received n (link (.operate h.ctx (.readFlash offset n)) w).1,
        (link (.operate h.ctx (.readFlash offset n)) w).2) := by
  have hconnected := (accessible_ok haccessible).1
  rw [read, haccessible, Attempt.ofExcept_ok_bind, if_neg hsome]
  cases hlink : link (.operate h.ctx (.readFlash offset n)) w with
  | mk reply w₁ =>
    cases reply with
    | error code =>
      exact Interaction.run_bind_error (Handle.run_request_error hconnected hlink) _
    | ok delivery =>
      refine (Interaction.run_bind_ok (Handle.run_request_ok hconnected hlink) _).trans ?_
      simp only [received]
      split <;> rfl

theorem write_refused {e : DeviceError}
    (haccessible : accessible h offset data.length = .error e) : write h data offset = throw e := by
  rw [write, haccessible, Attempt.ofExcept_error_bind]

theorem write_nothing (haccessible : accessible h offset data.length = .ok 0) :
    write h data offset = pure ⟨0, none⟩ := by
  rw [write, haccessible, Attempt.ofExcept_ok_bind, if_pos rfl]

/-- Where what is to be written over cannot be read, nothing is written. -/
theorem run_write_unread {e : DeviceError} (haccessible : accessible h offset data.length = .ok n)
    (hsome : n ≠ 0) (hread : (read h n offset).run.run link.reply w = (.error e, w₁)) :
    (write h data offset).run.run link.reply w = (.error e, w₁) := by
  rw [write, haccessible, Attempt.ofExcept_ok_bind, if_neg hsome]
  exact Interaction.run_bind_error hread _

/-- Where it can be read, one call more writes over it, under a warning or without one. -/
theorem run_write_read {current : List UInt8}
    (haccessible : accessible h offset data.length = .ok n) (hsome : n ≠ 0)
    (hread : (read h n offset).run.run link.reply w = (.ok current, w₁)) :
    (write h data offset).run.run link.reply w =
      ((h.request (.writeFlash offset (data.take n)) >>= fun written =>
        pure (WriteReport.mk written (firstNotErased offset current))) : Attempt WriteReport).run.run
          link.reply w₁ := by
  rw [write, haccessible, Attempt.ofExcept_ok_bind, if_neg hsome, Interaction.run_bind_ok hread]
  cases firstNotErased offset current with
  | none => rfl
  | some found => rfl

section Journal

variable {j : Journal W} {reply : Except ResultCode FlashDelivery}

/-- The journal of a read of some bytes has one entry more. -/
theorem run_read_noted (haccessible : accessible h offset length = .ok n) (hsome : n ≠ 0)
    (hlink : link (.operate h.ctx (.readFlash offset n)) j.world = (reply, w₁)) :
    (read h length offset).run.run (Journal.link link).reply j =
      (received n reply, ⟨w₁, ⟨.operate h.ctx (.readFlash offset n), reply⟩ :: j.exchanges⟩) := by
  rw [run_read_some haccessible hsome, Journal.link_of_eq hlink]

/-- That of a write has this one only, where not all bytes are delivered that are written over. -/
theorem run_write_short (haccessible : accessible h offset data.length = .ok n) (hsome : n ≠ 0)
    (hlink : link (.operate h.ctx (.readFlash offset n)) j.world = (reply, w₁))
    {e : DeviceError} (hshort : received n reply = .error e) :
    (write h data offset).run.run (Journal.link link).reply j =
      (.error e, ⟨w₁, ⟨.operate h.ctx (.readFlash offset n), reply⟩ :: j.exchanges⟩) := by
  refine run_write_unread haccessible hsome ?_
  rw [run_read_noted (accessible_again haccessible) hsome hlink, hshort]

/-- Else it has a second one. -/
theorem run_write_whole (haccessible : accessible h offset data.length = .ok n) (hsome : n ≠ 0)
    (hlink : link (.operate h.ctx (.readFlash offset n)) j.world = (reply, w₁))
    {current : List UInt8} (hwhole : received n reply = .ok current)
    {reply' : Except ResultCode Nat} {w₂ : W}
    (hlink' : link (.operate h.ctx (.writeFlash offset (data.take n))) w₁ = (reply', w₂)) :
    (write h data offset).run.run (Journal.link link).reply j =
      ((reply'.mapError .ofCode).map (⟨·, firstNotErased offset current⟩),
        ⟨w₂, ⟨.operate h.ctx (.writeFlash offset (data.take n)), reply'⟩ ::
          ⟨.operate h.ctx (.readFlash offset n), reply⟩ :: j.exchanges⟩) := by
  have hconnected := (accessible_ok haccessible).1
  have hread := run_read_noted (accessible_again haccessible) hsome hlink
  rw [hwhole] at hread
  rw [run_write_read haccessible hsome hread]
  have hnoted := Journal.link_of_eq
    (j := ⟨w₁, ⟨.operate h.ctx (.readFlash offset n), reply⟩ :: j.exchanges⟩) hlink'
  cases reply' with
  | error code => exact Interaction.run_bind_error (Handle.run_request_error hconnected hnoted) _
  | ok written => exact Interaction.run_bind_ok (Handle.run_request_ok hconnected hnoted) _

end Journal

/-- An exchange on the handle's context about a stretch of at least one byte, all of which lie in
the flash. -/
def Within (h : Handle) (x : Exchange) : Prop :=
  ∃ r start count, x.call = .operate h.ctx r ∧ r.stretch? = some (start, count) ∧
    1 ≤ count ∧ start + count ≤ size

theorem within_readFlash (haccessible : accessible h offset length = .ok n) (hsome : n ≠ 0)
    (reply : Except ResultCode FlashDelivery) :
    Within h ⟨.operate h.ctx (.readFlash offset n), reply⟩ := by
  obtain ⟨-, hinside, hn⟩ := accessible_ok haccessible
  exact ⟨_, _, _, rfl, rfl, by omega, by omega⟩

theorem within_writeFlash (haccessible : accessible h offset data.length = .ok n) (hsome : n ≠ 0)
    (reply : Except ResultCode Nat) :
    Within h ⟨.operate h.ctx (.writeFlash offset (data.take n)), reply⟩ := by
  obtain ⟨-, hinside, hn⟩ := accessible_ok haccessible
  have hlength : (data.take n).length = n := List.length_take_of_le (by omega)
  exact ⟨_, _, _, rfl, rfl, by omega, by omega⟩

theorem within_read (link : Link W) (w : W) (h : Handle) (length : Nat) (offset : UInt32) :
    ∀ x ∈ ((read h length offset).run.run (Journal.link link).reply ⟨w, []⟩).2.exchanges,
      Within h x := by
  cases haccessible : accessible h offset length with
  | error e =>
    rw [read_refused haccessible]
    exact nofun
  | ok n =>
    by_cases hnone : n = 0
    · rw [read_nothing (hnone ▸ haccessible)]
      exact nofun
    · rw [run_read_noted haccessible hnone rfl]
      simpa using within_readFlash haccessible hnone _

theorem within_write (link : Link W) (w : W) (h : Handle) (data : List UInt8) (offset : UInt32) :
    ∀ x ∈ ((write h data offset).run.run (Journal.link link).reply ⟨w, []⟩).2.exchanges,
      Within h x := by
  cases haccessible : accessible h offset data.length with
  | error e =>
    rw [write_refused haccessible]
    exact nofun
  | ok n =>
    by_cases hnone : n = 0
    · rw [write_nothing (hnone ▸ haccessible)]
      exact nofun
    · have hlook := within_readFlash haccessible hnone
        (link (.operate h.ctx (.readFlash offset n)) w).1
      cases hreceived : received n (link (.operate h.ctx (.readFlash offset n)) w).1 with
      | error e =>
        rw [run_write_short haccessible hnone rfl hreceived]
        simpa using hlook
      | ok current =>
        rw [run_write_whole haccessible hnone rfl hreceived rfl]
        simpa using ⟨within_writeFlash haccessible hnone _, hlook⟩

/-- Over every driver, whatever counts and bytes it returns, each `readFlash` and `writeFlash` call
covers at least one byte and only bytes below `Flash.size`. An unconnected handle fails with
`notConnected`, then an `offset` beyond the end with `flashOffset`, both without a call. A read
makes one call and returns exactly `n` bytes, or `incompleteRead` if the driver reports fewer. A
write first reads the `m` bytes it replaces, and calls `writeFlash` only if the driver delivered all
of them. -/
theorem calls_within_flash (link : Link W) (w : W) (h : Handle) (offset : UInt32) (length : Nat)
    (data : List UInt8) :
    let reading := (read h length offset).run.run (Journal.link link).reply ⟨w, []⟩
    let writing := (write h data offset).run.run (Journal.link link).reply ⟨w, []⟩
    let n := min length (size - offset.toNat)
    let m := min data.length (size - offset.toNat)
    (∀ x ∈ reading.2.exchanges ++ writing.2.exchanges, Within h x) ∧
    (h.connected = false →
      reading = (.error .notConnected, ⟨w, []⟩) ∧ writing = (.error .notConnected, ⟨w, []⟩)) ∧
    (h.connected = true → size ≤ offset.toNat →
      reading = (.error (.precondition (.flashOffset offset)), ⟨w, []⟩) ∧
      writing = (.error (.precondition (.flashOffset offset)), ⟨w, []⟩)) ∧
    (h.connected = true → offset.toNat < size →
      (n = 0 → reading = (.ok [], ⟨w, []⟩)) ∧
      (m = 0 → writing = (.ok ⟨0, none⟩, ⟨w, []⟩)) ∧
      (n ≠ 0 → ∀ reply w₁, link (.operate h.ctx (.readFlash offset n)) w = (reply, w₁) →
        reading.2 = ⟨w₁, [⟨.operate h.ctx (.readFlash offset n), reply⟩]⟩ ∧
        ∀ delivery, reply = .ok delivery →
          (delivery.count < n → reading.1 = .error (.incompleteRead n delivery.count)) ∧
          (n ≤ delivery.count → ∃ bytes, reading.1 = .ok bytes ∧ bytes.length = n)) ∧
      (m ≠ 0 → ∀ reply w₁, link (.operate h.ctx (.readFlash offset m)) w = (reply, w₁) →
        ((∀ delivery, reply = .ok delivery → delivery.count < m) →
          writing.2 = ⟨w₁, [⟨.operate h.ctx (.readFlash offset m), reply⟩]⟩) ∧
        ∀ delivery, reply = .ok delivery → m ≤ delivery.count → ∀ reply' w₂,
          link (.operate h.ctx (.writeFlash offset (data.take m))) w₁ = (reply', w₂) →
          writing.2 = ⟨w₂, [⟨.operate h.ctx (.writeFlash offset (data.take m)), reply'⟩,
            ⟨.operate h.ctx (.readFlash offset m), reply⟩]⟩)) := by
  intro reading writing n m
  refine ⟨?_, ?_, ?_, ?_⟩
  · intro x hx
    obtain hx | hx := List.mem_append.mp hx
    · exact within_read link w h length offset x hx
    · exact within_write link w h data offset x hx
  · intro hconnected
    have hrefused := accessible_of_disconnected hconnected offset
    simp only [reading, writing, read_refused (hrefused _), write_refused (hrefused _)]
    exact ⟨rfl, rfl⟩
  · intro hconnected hbeyond
    have hrefused := accessible_beyond hconnected hbeyond
    simp only [reading, writing, read_refused (hrefused _), write_refused (hrefused _)]
    exact ⟨rfl, rfl⟩
  · intro hconnected hinside
    have hn : accessible h offset length = .ok n := accessible_eq hconnected hinside
    have hm : accessible h offset data.length = .ok m := accessible_eq hconnected hinside
    refine ⟨?_, ?_, ?_, ?_⟩
    · intro hnone
      simp only [reading, read_nothing (hnone ▸ hn)]
      rfl
    · intro hnone
      simp only [writing, write_nothing (hnone ▸ hm)]
      rfl
    · intro hsome reply w₁ hlink
      have hreading : reading = _ := run_read_noted (j := ⟨w, []⟩) hn hsome hlink
      rw [hreading]
      refine ⟨rfl, fun delivery hreply => ⟨fun hshort => ?_, fun hall => ?_⟩⟩
      · exact received_short hreply hshort
      · exact ⟨_, received_ok_iff.mpr ⟨delivery, hreply, hall, rfl⟩, length_filled _ _ _⟩
    · intro hsome reply w₁ hlink
      refine ⟨fun hshort => ?_, fun delivery hreply hall reply' w₂ hlink' => ?_⟩
      · cases hreceived : received m reply with
        | error e =>
          exact congrArg Prod.snd (run_write_short (j := ⟨w, []⟩) hm hsome hlink hreceived)
        | ok current =>
          obtain ⟨delivery, hreply, hall, -⟩ := received_ok_iff.mp hreceived
          exact absurd hall (Nat.not_le_of_lt (hshort delivery hreply))
      · have hwhole := received_ok_iff.mpr ⟨delivery, hreply, hall, rfl⟩
        exact congrArg Prod.snd (run_write_whole (j := ⟨w, []⟩) hm hsome hlink hwhole hlink')

end Flash

end Spectrometer
