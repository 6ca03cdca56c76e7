import Mathlib.Data.List.Perm.Basic
import Spectrometer.Proofs.Emulator.Effect
import Spectrometer.Proofs.Emulator.Faults

/-!
The contexts that an emulator has in use, and the faults that wait for its calls. A connecting call
leaves the table alone or trades the caller's context in for a new one; where no fault waits, none
ever comes up, and every release is accepted.
-/

namespace Spectrometer.Emulator

/-- The contexts in use, latest first. -/
def live (e : Emulator) : List Context := e.contexts.map fun entry => ⟨entry.1⟩

/-- No fault waits for any call. -/
def Untroubled (e : Emulator) : Prop := ∀ o : Operation, (e.enter o).1 = none

variable {e e' : Emulator} {ctx : Context}

theorem Sound.of_mem_live (h : e.Sound) (hctx : ctx ∈ e.live) :
    ctx ≠ .null ∧ ctx.raw < e.nextContext := by
  obtain ⟨⟨key, i⟩, hmem, rfl⟩ := List.mem_map.mp hctx
  obtain ⟨hpos, hlt, -⟩ := h.contexts key i hmem
  exact ⟨fun hnull => Nat.ne_of_gt hpos (congrArg Context.raw hnull), hlt⟩

theorem live_forget (e : Emulator) (old : Context) :
    (e.forget old).live = e.live.filter (· ≠ old) := by
  rw [live, live, forget, List.filter_map]
  congr 1
  apply List.filter_congr
  rintro ⟨key, i⟩ -
  obtain ⟨raw⟩ := old
  rw [Bool.eq_iff_iff]
  simp

theorem live_attach (e : Emulator) (i : Nat) (old : Context) :
    (e.attach i old).2.live = ⟨e.nextContext⟩ :: e.live.filter (· ≠ old) :=
  congrArg (_ :: ·) (e.live_forget old)

theorem live_of_contexts_eq (hcontexts : e'.contexts = e.contexts) : e'.live = e.live := by
  rw [live, live, hcontexts]

theorem lookup_eq_none (hctx : ctx ∉ e.live) : e.contexts.lookup ctx.raw = none := by
  refine List.lookup_eq_none_iff.mpr fun entry hentry => ?_
  have hne : ctx.raw ≠ entry.1 := by
    intro hraw
    exact hctx (List.mem_map.mpr ⟨entry, hentry, congrArg Context.mk hraw.symm⟩)
  simpa using hne

/-- A context is in use exactly while a device is behind it. -/
theorem Sound.mem_live_iff (h : e.Sound) :
    ctx ∈ e.live ↔ ∃ i d, e.deviceOf? ctx = some i ∧ e.devices[i]? = some d := by
  constructor
  · intro hctx
    obtain ⟨⟨key, _⟩, hentry, rfl⟩ := List.mem_map.mp hctx
    have hnull := (h.of_mem_live hctx).1
    cases hi : e.deviceOf? ⟨key⟩ with
    | some i =>
      have hlt := (h.of_deviceOf? hi).2
      exact ⟨i, e.devices[i], rfl, List.getElem?_eq_getElem hlt⟩
    | none =>
      rw [deviceOf?, if_neg hnull] at hi
      simpa using List.lookup_eq_none_iff.mp hi _ hentry
  · rintro ⟨i, _, hi, -⟩
    by_contra hctx
    have hlookup := (deviceOf?_eq_some_iff.mp hi).2
    rw [lookup_eq_none hctx] at hlookup
    cases hlookup

/-- What goes through a handle leaves the table of contexts alone. -/
theorem contexts_through {α : Type} {d : Dialogue α} {h : Handle} {kind : Request → Prop}
    {post : α → Prop} (hd : d.Obeys (Utterance.Through h kind) post) (e : Emulator) :
    (d.run link.reply e).2.contexts = e.contexts := by
  have hkeeps (u : Utterance) (e₁ : Emulator) (hu : Utterance.Through h kind u)
      (hkept : e₁.contexts = e.contexts) : (link.reply u e₁).2.contexts = e.contexts := by
    cases u with
    | warn w => exact hkept
    | call c =>
      cases c with
      | pixelsInFrame ctx => exact hkept
      | operate ctx r =>
        obtain ⟨_, heq⟩ | ⟨_, _, _, _, _, _, _, heq⟩ := link_operate_cases e₁ ctx r
        · exact (congrArg (·.2.contexts) heq).trans hkept
        · exact (congrArg (·.2.contexts) heq).trans hkept
      | _ => cases hu
  exact hd.run_keeps hkeeps rfl

/-- The two outcomes of a connecting call: it is refused and nothing changes, or the caller's old
context is traded in for a new one. -/
inductive Exchanged (e : Emulator) (old : Context) :
    Context × Except ResultCode Unit → Emulator → Prop
  | refused {e' : Emulator} (code : ResultCode) (hlive : e'.live = e.live) :
      Exchanged e old (old, .error code) e'
  | accepted {e' : Emulator} (hlive : e'.live = ⟨e.nextContext⟩ :: e.live.filter (· ≠ old)) :
      Exchanged e old (⟨e.nextContext⟩, .ok ()) e'

theorem exchanged_connectBySerial (e : Emulator) (serial : Option String) (old : Context) :
    Exchanged e old (link (.connectBySerial serial old) e).1
      (link (.connectBySerial serial old) e).2 := by
  obtain ⟨code, heq⟩ | ⟨i, -, heq⟩ := link_connectBySerial_cases e serial old
  · rw [heq]
    exact .refused code rfl
  · rw [heq]
    exact .accepted (live_attach _ i old)

theorem exchanged_connectByIndex (e : Emulator) (index : UInt32) (old : Context) :
    Exchanged e old (link (.connectByIndex index old) e).1
      (link (.connectByIndex index old) e).2 := by
  obtain ⟨code, heq⟩ | ⟨i, -, heq⟩ := link_connectByIndex_cases e index old
  · rw [heq]
    exact .refused code rfl
  · rw [heq]
    exact .accepted (live_attach _ i old)

theorem untroubled_new (config : EmulatorConfig) : (new config).Untroubled := by
  intro o
  exact Vector.getElem_replicate o.index.isLt

theorem Untroubled.of_faults_eq (h : e.Untroubled) (hfaults : e'.faults = e.faults) :
    e'.Untroubled := by
  intro o
  change e'.faults[o.index.val] = none
  rw [hfaults]
  exact h o

theorem Untroubled.enter (h : e.Untroubled) (o : Operation) :
    ∃ e₁, e.enter o = (none, e₁) ∧ e₁.Untroubled ∧ e₁.contexts = e.contexts := by
  refine ⟨(e.enter o).2, Prod.ext (h o) rfl, fun o' => ?_, rfl⟩
  change (e.faults.set o.index none)[o'.index.val] = none
  rw [Vector.getElem_set]
  split
  · rfl
  · exact h o'

theorem Untroubled.operate (h : e.Untroubled) (ctx : Context) (r : Request) :
    (e.operate ctx r).2.Untroubled := by
  obtain ⟨_, heq⟩ | ⟨_, _, _, _, _, _, _, heq⟩ := e.operate_cases ctx r
  · rw [heq]
    exact h
  · rw [heq]
    exact h.of_faults_eq rfl

theorem Untroubled.connectTo (h : e.Untroubled) (found : Option Nat) (code : ResultCode)
    (ctx : Context) : (e.connectTo found code ctx).2.Untroubled := by
  cases found with
  | none => exact h
  | some i => exact h.of_faults_eq rfl

/-- No call plants a fault. -/
theorem Untroubled.call (h : e.Untroubled) (c : Call) : (link c e).2.Untroubled := by
  obtain ⟨e₁, henter, h₁, -⟩ := h.enter c.operation
  cases c with
  | devicesCount | devicesInfo | disconnect =>
    simp only [Call.operation] at henter
    simp only [link, henter]
    exact h₁
  | connectBySerial | connectByIndex =>
    simp only [Call.operation] at henter
    simp only [link, henter]
    exact h₁.connectTo _ _ _
  | pixelsInFrame ctx => exact h
  | operate ctx r =>
    simp only [Call.operation] at henter
    simp only [link, henter]
    exact h₁.operate ctx r

theorem Untroubled.run {α : Type} (h : e.Untroubled) (d : Dialogue α) :
    (d.run link.reply e).2.Untroubled := by
  induction d generalizing e with
  | done a => exact h
  | ask u next ih =>
    apply ih
    cases u with
    | call c => exact h.call c
    | warn w => exact h

/-- Without a waiting fault every release is accepted. -/
theorem Untroubled.release (h : e.Untroubled) (ctx : Context) :
    (link (.disconnect ctx) e).1 = (.null, .ok ()) ∧
      (link (.disconnect ctx) e).2.live = e.live.filter (· ≠ ctx) := by
  obtain ⟨e₁, henter, -, hcontexts⟩ := h.enter .disconnect
  have hlink : link (.disconnect ctx) e = ((.null, .ok ()), e₁.forget ctx) := by
    simp only [link, henter]
  rw [hlink, live_forget, live_of_contexts_eq hcontexts]
  exact ⟨rfl, rfl⟩

/-- Nothing stands between a handle and a device: the handle is connected to it, the device is
attached, and no fault waits. -/
structure Serves (e : Emulator) (h : Handle) (i : Nat) (d : Device) : Prop where
  untroubled : e.Untroubled
  connected : h.connected = true
  bound : e.deviceOf? h.ctx = some i
  device : e.devices[i]? = some d
  attached : d.detached = false

theorem Serves.reaches {h : Handle} {i : Nat} {d : Device} (hserves : e.Serves h i d) :
    e.Reaches h i d :=
  ⟨hserves.connected, hserves.bound, hserves.device, hserves.attached⟩

theorem Serves.set_device {h : Handle} {i : Nat} {d : Device} (hserves : e.Serves h i d) :
    e.devices.set i d = e.devices := by
  obtain ⟨hlt, rfl⟩ := List.getElem?_eq_some_iff.mp hserves.device
  exact List.set_getElem_self hlt

/-- What a device can do it does for a handle that it serves. -/
theorem Serves.operate {h : Handle} {i : Nat} {d d' : Device} {r : Request} {value : r.Value}
    (hserves : e.Serves h i d) (hperform : d.perform e.readLimit r = .ok (value, d'))
    (hattached : d'.detached = false) :
    ∃ e', link (.operate h.ctx r) e = (.ok value, e') ∧ e'.Serves h i d' ∧
      e' = { (e.enter r.operation).2 with devices := e.devices.set i d' } := by
  obtain ⟨e₁, henter, huntroubled, -⟩ := hserves.untroubled.enter r.operation
  obtain rfl : (e.enter r.operation).2 = e₁ := by rw [henter]
  have hlink := hserves.reaches.operate_ok (hserves.untroubled r.operation) hperform
  refine ⟨_, hlink, ⟨huntroubled.of_faults_eq rfl, hserves.connected, hserves.bound, ?_,
    hattached⟩, rfl⟩
  exact List.getElem?_set_self (List.getElem?_eq_some_iff.mp hserves.device).1

theorem Serves.request {h : Handle} {i : Nat} {d d' : Device} {r : Request} {value : r.Value}
    (hserves : e.Serves h i d) (hperform : d.perform e.readLimit r = .ok (value, d'))
    (hattached : d'.detached = false) :
    ∃ e', (h.request r).run.run link.reply e = (.ok value, e') ∧ e'.Serves h i d' := by
  obtain ⟨e', hlink, hserves', -⟩ := hserves.operate hperform hattached
  exact ⟨e', Handle.run_request_ok hserves.connected hlink, hserves'⟩

/-- The driver knows the frame size of a device that it serves. -/
theorem Serves.pixelsInFrame {h : Handle} {i : Nat} {d : Device} (hserves : e.Serves h i d) :
    link (.pixelsInFrame h.ctx) e = (some d.format.size, e) := by
  have hlookup := (deviceOf?_eq_some_iff.mp hserves.bound).2
  simp only [link, hlookup, Option.bind_some, hserves.device, Option.map_some]

end Spectrometer.Emulator
