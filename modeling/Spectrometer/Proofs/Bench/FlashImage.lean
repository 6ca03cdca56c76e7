import Mathlib.Data.List.Forall2
import Spectrometer.Proofs.Bench.Basic
import Spectrometer.Proofs.Emulator.Flash
import Spectrometer.Proofs.Session.Requests

/-!
What is in the flashes of a bench's devices. `written` follows a run and keeps for every device the
successful writes since it was last erased. After every run, faults included, each flash is the
image of those writes, and a read that succeeds delivers a stretch of it.
-/

namespace Spectrometer

open Emulator (link)

/-- The successful writes after a request that is carried out. -/
def Request.record : Request → List Flash.Placement → List Flash.Placement
  | eraseFlash, _ => []
  | writeFlash offset data, log => ⟨data, offset⟩ :: log
  | _, log => log

theorem Request.image_record (r : Request) (log : List Flash.Placement) :
    Flash.image (r.record log) = r.flashAfter (Flash.image log) := by
  cases r with
  | eraseFlash => exact Flash.image_nil
  | writeFlash offset data => exact (Flash.overwrite_image ⟨data, offset⟩ log).symm
  | _ => rfl

namespace Task

/-- The request by which a task changes a flash, if it is such a task. -/
def flashRequest? : Task → Option Request
  | act (.use (.writeFlash data offset)) => some (.writeFlash offset data)
  | act (.use .eraseFlash) => some .eraseFlash
  | request r => some r
  | _ => none

def flashAfter (task : Task) : List UInt8 → List UInt8 :=
  task.flashRequest?.elim id Request.flashAfter

/-- The successful writes after a task that succeeds. -/
def record (task : Task) : List Flash.Placement → List Flash.Placement :=
  task.flashRequest?.elim id Request.record

theorem image_record (task : Task) (log : List Flash.Placement) :
    Flash.image (task.record log) = task.flashAfter (Flash.image log) := by
  unfold record flashAfter
  cases task.flashRequest? with
  | none => simp only [Option.elim_none, id]
  | some r => exact r.image_record log

end Task

/-- Actions that are no access to the flash, and reading it, request no change of a flash. -/
theorem Session.Action.spares_flash {a : Session.Action} (ha : (Task.act a).flashRequest? = none)
    {r : Request} (hr : a.Requests r) : r.flashAfter = id := by
  cases a with
  | connect | reconnect => obtain rfl | rfl := hr <;> rfl
  | disconnect | setTrigger => cases hr
  | reset =>
    cases hr
    rfl
  | setScans | setBlankScans | setMode | setExposure | applyAcquisition =>
    obtain ⟨p, rfl⟩ := hr
    rfl
  | setRange | setReduction | applyFormat =>
    obtain ⟨f, rfl⟩ := hr
    rfl
  | configureExternalTrigger =>
    obtain ⟨mode, edge, rfl⟩ := hr
    rfl
  | use u =>
    cases u with
    | frame | frameRange => obtain rfl | ⟨index, length, rfl⟩ := hr <;> rfl
    | readFlash =>
      obtain ⟨offset, length, rfl⟩ := hr
      rfl
    | writeFlash | eraseFlash => cases ha
    | _ =>
      cases hr
      rfl

namespace Holder

theorem rewrites_request (e : Emulator) (holder : Holder) (r : Request) :
    e.Rewrites holder.handle.ctx r.flashAfter
      (((holder.perform (.request r)).run link.reply e).1.2,
        ((holder.perform (.request r)).run link.reply e).2) := by
  have hrequest := Emulator.rewrites_request e holder.handle r
  have hperform : holder.perform (.request r) = (do
      let result ← (holder.handle.request r).run
      return (holder, result.map fun _ => ())) := by
    cases holder <;> rfl
  rw [hperform, Interaction.run_bind]
  cases hrun : (holder.handle.request r).run.run link.reply e with
  | mk result e' =>
    rw [hrun] at hrequest
    cases result <;> exact hrequest

/-- What changes no flash does so whether it succeeds or not. -/
theorem rewrites_of_requests (e : Emulator) (holder : Holder) {task : Task}
    (hspares : task.flashRequest? = none)
    (hrequests : (holder.perform task).Obeys (Utterance.Requests (·.flashAfter = id))
      fun _ => True) :
    e.Rewrites holder.handle.ctx task.flashAfter
      (((holder.perform task).run link.reply e).1.2, ((holder.perform task).run link.reply e).2) := by
  rw [Task.flashAfter, hspares]
  exact Emulator.rewrites_id (Emulator.flashes_requests hrequests (fun _ hr => hr) e) _ _

theorem rewrites_act (e : Emulator) (holder : Holder) (a : Session.Action) :
    e.Rewrites holder.handle.ctx (Task.act a).flashAfter
      (((holder.perform (.act a)).run link.reply e).1.2,
        ((holder.perform (.act a)).run link.reply e).2) := by
  cases holder with
  | bare h => rfl
  | session s =>
    have huse (u : Session.Use) (hu : e.Rewrites s.handle.ctx (Task.act (.use u)).flashAfter
          ((u.attempt s).run.run link.reply e)) :
        e.Rewrites s.handle.ctx (Task.act (.use u)).flashAfter
          ((((session s).perform (.act (.use u))).run link.reply e).1.2,
            (((session s).perform (.act (.use u))).run link.reply e).2) := by
      simp only [perform, Session.Action.perform, Interaction.run_bind]
      exact hu
    cases hspares : (Task.act a).flashRequest? with
    | none =>
      apply rewrites_of_requests e (session s) hspares
      refine (Interaction.obeys_bind _ _).mpr ?_
      apply ((a.obeys_requests s).mono_allowed ?_).mono fun _ _ => trivial
      exact fun u hu ctx r hr => Session.Action.spares_flash hspares (hu ctx r hr)
    | some r =>
      cases a with
      | use u =>
        apply huse
        cases u with
        | eraseFlash => exact Emulator.rewrites_request e s.handle .eraseFlash
        | writeFlash data offset => exact (Flash.rewrites_write e s.handle data offset).bind_pure _
        | _ => cases hspares
      | _ => cases hspares

/-- A task that succeeds changes the flash of the holder's device as it should; nothing else does
anything to a flash. -/
theorem rewrites (e : Emulator) (holder : Holder) (task : Task) :
    e.Rewrites holder.handle.ctx task.flashAfter
      (((holder.perform task).run link.reply e).1.2, ((holder.perform task).run link.reply e).2) := by
  cases task with
  | request r => exact rewrites_request e holder r
  | act a => exact rewrites_act e holder a
  | connect serial =>
    apply rewrites_of_requests e holder rfl
    cases holder with
    | session s => trivial
    | bare h => exact (Interaction.obeys_bind _ _).mpr (h.obeys_connect serial)
  | connectByIndex index =>
    apply rewrites_of_requests e holder rfl
    cases holder with
    | session s => trivial
    | bare h => exact (Interaction.obeys_bind _ _).mpr (h.obeys_connectByIndex index)
  | disconnect =>
    apply rewrites_of_requests e holder rfl
    cases holder with
    | session s => trivial
    | bare h => exact (Interaction.obeys_bind _ _).mpr h.obeys_disconnect

/-- The successful writes on each device, after a task. -/
def record (e : Emulator) (holder : Holder) (task : Task) (logs : List (List Flash.Placement)) :
    List (List Flash.Placement) :=
  match ((holder.perform task).run link.reply e).1.2, e.deviceOf? holder.handle.ctx with
  | .ok (), some i => logs.modify i task.record
  | _, _ => logs

theorem flashes_perform {e : Emulator} {logs : List (List Flash.Placement)}
    (hflashes : e.flashes = logs.map Flash.image) (holder : Holder) (task : Task) :
    ((holder.perform task).run link.reply e).2.flashes =
      (holder.record e task logs).map Flash.image := by
  have hrewrites := holder.rewrites e task
  unfold record
  cases hresult : ((holder.perform task).run link.reply e).1.2 with
  | error failure =>
    rw [hresult] at hrewrites
    exact Eq.trans hrewrites hflashes
  | ok _ =>
    rw [hresult] at hrewrites
    refine Eq.trans hrewrites ?_
    unfold Emulator.rewritten
    cases e.deviceOf? holder.handle.ctx with
    | none => exact hflashes
    | some i =>
      rw [Option.elim_some, hflashes]
      apply List.ext_getElem?
      intro j
      simp only [List.getElem?_modify, List.getElem?_map]
      split
      · cases logs[j]? with
        | none => rfl
        | some log => exact congrArg some (task.image_record log).symm
      · cases logs[j]? <;> rfl

end Holder

namespace Bench

/-- The successful writes on each device, after a move. -/
def record (b : Bench) (logs : List (List Flash.Placement)) : Move → List (List Flash.Placement)
  | .perform n task => b.holders[n]?.elim logs fun holder => holder.record b.emulator task logs
  | _ => logs

/-- The successful writes on each device since it was last erased, after some moves. -/
def written : List Move → Bench → List (List Flash.Placement) → List (List Flash.Placement)
  | [], _, logs => logs
  | m :: rest, b, logs => written rest (b.step m) (b.record logs m)

variable {b : Bench} {logs : List (List Flash.Placement)}

theorem flashes_new (config : EmulatorConfig) :
    (new config).emulator.flashes = (config.serials.map fun _ => []).map Flash.image := by
  simp only [new, Emulator.new, Emulator.flashes, List.map_map]
  apply List.map_congr_left
  intro serial _
  simp only [Function.comp_apply, Device.new, Flash.image_nil]

/-- One who is admitted or stays away has changed no flash. -/
theorem flashes_welcome {α : Type} (wrap : α → Holder)
    {connect : Dialogue (α × Except DeviceError Unit)} {drop : α → Dialogue Unit}
    (hconnect : connect.Obeys (Utterance.Requests (·.flashAfter = id)) fun _ => True)
    (hdrop : ∀ a, (drop a).Obeys (Utterance.Requests (·.flashAfter = id)) fun _ => True) :
    (b.welcome <| (wrap <$> Attempt.opening connect drop).run.run link.reply
      b.emulator).emulator.flashes = b.emulator.flashes := by
  have hflashes := Emulator.flashes_requests hconnect (fun _ hr => hr) b.emulator
  rw [ExceptT.run_map, map_eq_pure_bind, Interaction.run_bind]
  obtain ⟨a, e, heq, hopen⟩ | ⟨a, failure, e, heq, hopen⟩ :=
    Attempt.opening_cases link connect drop b.emulator
  · rw [heq] at hflashes
    rw [hopen]
    exact hflashes
  · rw [heq] at hflashes
    rw [hopen]
    exact (Emulator.flashes_requests (hdrop a) (fun _ hr => hr) e).trans hflashes

theorem flashes_modifyDevice (e : Emulator) (i : Nat) (f : Device → Device)
    (hf : ∀ d, (f d).flash = d.flash) : (e.modifyDevice i f).flashes = e.flashes := by
  unfold Emulator.modifyDevice Emulator.flashes
  apply List.ext_getElem?
  intro j
  simp only [List.getElem?_map, List.getElem?_modify]
  cases e.devices[j]? with
  | none => rfl
  | some d => by_cases hij : i = j <;> simp [hij, hf]

theorem flashes_step (hflashes : b.emulator.flashes = logs.map Flash.image) (m : Move) :
    (b.step m).emulator.flashes = (b.record logs m).map Flash.image := by
  cases m with
  | newSession | newHandle | failNext | resetCalls => exact hflashes
  | openSession serial =>
    simp only [step, Session.establish_eq_opening]
    refine (flashes_welcome Holder.session ?_ fun s => s.handle.obeys_drop).trans hflashes
    exact (Session.new serial).obeys_connect rfl rfl
  | openHandle serial =>
    exact (flashes_welcome Holder.bare (Handle.new.obeys_connect serial)
      fun h => h.obeys_drop).trans hflashes
  | perform n task =>
    simp only [step, record]
    cases hholder : b.holders[n]? with
    | none =>
      rw [perform_of_none task hholder]
      exact hflashes
    | some holder =>
      rw [perform_of_some task hholder]
      exact holder.flashes_perform hflashes task
  | drop n =>
    simp only [step, drop]
    cases b.holders[n]? with
    | none => exact hflashes
    | some holder =>
      exact (Emulator.flashes_requests holder.handle.obeys_drop (fun _ hr => hr) _).trans hflashes
  | forceFrames i frames | reattach i =>
    refine Eq.trans ?_ hflashes
    exact flashes_modifyDevice b.emulator i _ fun _ => rfl

theorem flashes_run (hflashes : b.emulator.flashes = logs.map Flash.image) (moves : List Move) :
    (b.run moves).emulator.flashes = (written moves b logs).map Flash.image := by
  induction moves generalizing b logs with
  | nil => exact hflashes
  | cons m rest ih => exact ih (flashes_step hflashes m)

theorem image_forall₂ {logs' : List (List Flash.Placement)}
    (hperm : List.Forall₂ List.Perm logs logs') :
    logs.map Flash.image = logs'.map Flash.image := by
  induction hperm with
  | nil => rfl
  | cons hlog _ ih => rw [List.map_cons, List.map_cons, Flash.image_perm hlog, ih]

/-- After every run of moves, the flash of each device is `Flash.image` of its log: an address holds
the AND of `0xFF` and all bytes that successful writes placed there since the device was created or
last erased. The order within a log does not matter, and no other call changes a flash. A successful
`Flash.read` returns the bytes of the image from `offset` on, cut at `Flash.size`. -/
theorem flashes_are_images_of_writes (config : EmulatorConfig) (moves : List Move) :
    let e := ((new config).run moves).emulator
    let logs := written moves (new config) (config.serials.map fun _ => [])
    e.flashes = logs.map Flash.image ∧
      (∀ logs', List.Forall₂ List.Perm logs logs' → e.flashes = logs'.map Flash.image) ∧
      ∀ (h : Handle) (i : Nat) (log : List Flash.Placement) (length : Nat) (offset : UInt32)
        (bytes : List UInt8), e.deviceOf? h.ctx = some i → logs[i]? = some log →
        ((Flash.read h length offset).run.run link.reply e).1 = .ok bytes →
        bytes = (List.range' offset.toNat (min length (Flash.size - offset.toNat))).map
          (Flash.byteAt log) := by
  intro e logs
  have hflashes : e.flashes = logs.map Flash.image := flashes_run (flashes_new config) moves
  refine ⟨hflashes, fun logs' hperm => hflashes.trans (image_forall₂ hperm), ?_⟩
  intro h i log length offset bytes hi hlog hread
  have hflash : e.flashes[i]? = some (Flash.image log) := by
    rw [hflashes, List.getElem?_map, hlog]
    rfl
  rw [Flash.read_ok (Prod.ext hread rfl) hi hflash (Flash.length_image log),
    Flash.take_drop_image]

end Bench

end Spectrometer
