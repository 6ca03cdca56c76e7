import Spectrometer.Emulator.Basic
import Spectrometer.Proofs.Emulator.Device

/-!
What calls do to an emulator. `Effect` says once how a call changes the table of contexts and the
devices; everything else is read off it: the table stays `Sound`, a context keeps its device until
its owner renews it, and a device keeps what no request changes that is carried out by it.
-/

namespace Spectrometer

/-- The context that a call gives up, be it for another one or for none. -/
def Call.renewed? : Call → Option Context
  | connectBySerial _ ctx | connectByIndex _ ctx | disconnect ctx => some ctx
  | _ => none

namespace Emulator

/-- Contexts in use were given out before, and each stands for a device that there is. -/
structure Sound (e : Emulator) : Prop where
  next : 0 < e.nextContext
  contexts : ∀ key i, (key, i) ∈ e.contexts → 0 < key ∧ key < e.nextContext ∧ i < e.devices.length

/-- All that a call can do to the table of contexts and to the devices: nothing, a new context in
exchange for an old one, an old one taken back, or a request carried out by one device. -/
inductive Effect (e : Emulator) (c : Call) (e' : Emulator) : Prop
  | none (hcontexts : e'.contexts = e.contexts) (hnext : e'.nextContext = e.nextContext)
      (hdevices : e'.devices = e.devices)
  | attach (i : Nat) (old : Context) (hold : c.renewed? = some old) (hi : i < e.devices.length)
      (hcontexts : e'.contexts = (e.nextContext, i) :: e.contexts.filter (·.1 != old.raw))
      (hnext : e'.nextContext = e.nextContext + 1) (hdevices : e'.devices = e.devices)
  | release (old : Context) (hold : c.renewed? = some old)
      (hcontexts : e'.contexts = e.contexts.filter (·.1 != old.raw))
      (hnext : e'.nextContext = e.nextContext) (hdevices : e'.devices = e.devices)
  | operate (ctx : Context) (r : Request) (i : Nat) (d d' : Device) (value : r.Value)
      (hc : c = .operate ctx r) (hdevice : e.deviceOf? ctx = some i) (hd : e.devices[i]? = some d)
      (hperform : d.perform e.readLimit r = .ok (value, d')) (hcontexts : e'.contexts = e.contexts)
      (hnext : e'.nextContext = e.nextContext) (hdevices : e'.devices = e.devices.set i d')

/-- A request that is refused changes no device; one that is accepted is carried out by the device
behind the context. -/
theorem operate_cases (e : Emulator) (ctx : Context) (r : Request) :
    (∃ code, e.operate ctx r = (.error code, e)) ∨
      ∃ i d value d', e.deviceOf? ctx = some i ∧ e.devices[i]? = some d ∧
        d.perform e.readLimit r = .ok (value, d') ∧
        e.operate ctx r = (.ok value, { e with devices := e.devices.set i d' }) := by
  unfold operate
  cases hi : e.deviceOf? ctx with
  | none => exact Or.inl ⟨_, rfl⟩
  | some i =>
    cases hd : e.devices[i]? with
    | none => simp only [hd]; exact Or.inl ⟨_, rfl⟩
    | some d =>
      simp only [hd]
      by_cases hdetached : d.detached = true
      · rw [if_pos hdetached]
        exact Or.inl ⟨_, rfl⟩
      · rw [if_neg hdetached]
        cases hperform : d.perform e.readLimit r with
        | error code => exact Or.inl ⟨code, rfl⟩
        | ok result => exact Or.inr ⟨i, d, result.1, result.2, rfl, hd, hperform, rfl⟩

theorem link_operate_cases (e : Emulator) (ctx : Context) (r : Request) :
    (∃ code, link (.operate ctx r) e = (.error code, (e.enter r.operation).2)) ∨
      ∃ i d value d', e.deviceOf? ctx = some i ∧ e.devices[i]? = some d ∧
        d.perform e.readLimit r = .ok (value, d') ∧ link (.operate ctx r) e =
          (.ok value, { (e.enter r.operation).2 with devices := e.devices.set i d' }) := by
  simp only [link]
  cases henter : e.enter r.operation with
  | mk fault e₁ =>
    obtain rfl : e₁ = (e.enter r.operation).2 := by rw [henter]
    cases fault with
    | some code => exact Or.inl ⟨code, rfl⟩
    | none => exact (e.enter r.operation).2.operate_cases ctx r

theorem link_operate_error {e e' : Emulator} {ctx : Context} {r : Request} {code : ResultCode}
    (hlink : link (.operate ctx r) e = (.error code, e')) : e' = (e.enter r.operation).2 := by
  obtain ⟨_, heq⟩ | ⟨_, _, _, _, _, _, _, heq⟩ := link_operate_cases e ctx r
  · rw [heq] at hlink
    cases hlink
    rfl
  · rw [heq] at hlink
    cases hlink

theorem link_operate_ok {e e' : Emulator} {ctx : Context} {r : Request} {value : r.Value}
    (hlink : link (.operate ctx r) e = (.ok value, e')) :
    ∃ i d d', e.deviceOf? ctx = some i ∧ e.devices[i]? = some d ∧
      d.perform e.readLimit r = .ok (value, d') ∧
      e' = { (e.enter r.operation).2 with devices := e.devices.set i d' } := by
  obtain ⟨_, heq⟩ | ⟨i, d, _, d', hi, hd, hperform, heq⟩ := link_operate_cases e ctx r
  · rw [heq] at hlink
    cases hlink
  · rw [heq] at hlink
    cases hlink
    exact ⟨i, d, d', hi, hd, hperform, rfl⟩

theorem findBySerial?_lt {e : Emulator} {serial : Option String} {i : Nat}
    (hi : e.findBySerial? serial = some i) : i < e.devices.length :=
  (List.findIdx?_eq_some_iff_findIdx_eq.mp hi).1

theorem attached_lt {e : Emulator} {place i : Nat} (hi : e.attached[place]? = some i) :
    i < e.devices.length := by
  have hmem := List.mem_of_getElem? hi
  unfold attached at hmem
  exact List.mem_range.mp (List.mem_filter.mp hmem).1

/-- A call that a waiting fault refuses, and that else connects to what it finds, leaves the
caller's context or gives a new one for a device. -/
theorem connecting_cases (e : Emulator) (o : Operation) (found : Emulator → Option Nat)
    (code : ResultCode) (ctx : Context) (outcome : (Context × Except ResultCode Unit) × Emulator)
    (hfault : ∀ fault e₁, e.enter o = (some fault, e₁) → outcome = ((ctx, .error fault), e₁))
    (hnone : ∀ e₁, e.enter o = (none, e₁) → outcome = e₁.connectTo (found e₁) code ctx) :
    (∃ code, outcome = ((ctx, .error code), (e.enter o).2)) ∨
      ∃ i, found (e.enter o).2 = some i ∧
        outcome = ((⟨e.nextContext⟩, .ok ()), ((e.enter o).2.attach i ctx).2) := by
  cases henter : e.enter o with
  | mk fault e₁ =>
    obtain rfl : e₁ = (e.enter o).2 := by rw [henter]
    cases fault with
    | some fault => exact Or.inl ⟨fault, hfault fault _ henter⟩
    | none =>
      rw [hnone _ henter]
      unfold connectTo
      cases found (e.enter o).2 with
      | none => exact Or.inl ⟨code, rfl⟩
      | some i => exact Or.inr ⟨i, rfl, rfl⟩

theorem link_connectBySerial_cases (e : Emulator) (serial : Option String) (ctx : Context) :
    (∃ code, link (.connectBySerial serial ctx) e =
        ((ctx, .error code), (e.enter .connectBySerial).2)) ∨
      ∃ i, i < e.devices.length ∧ link (.connectBySerial serial ctx) e =
        ((⟨e.nextContext⟩, .ok ()), ((e.enter .connectBySerial).2.attach i ctx).2) := by
  have hcases := connecting_cases e .connectBySerial (·.findBySerial? serial) .connectFailed ctx
    (link (.connectBySerial serial ctx) e)
    (fun fault e₁ henter => by simp only [link, henter])
    (fun e₁ henter => by simp only [link, henter])
  exact hcases.imp_right fun ⟨i, hfound, heq⟩ => ⟨i, findBySerial?_lt hfound, heq⟩

theorem link_connectByIndex_cases (e : Emulator) (index : UInt32) (ctx : Context) :
    (∃ code, link (.connectByIndex index ctx) e =
        ((ctx, .error code), (e.enter .connectByIndex).2)) ∨
      ∃ i, i < e.devices.length ∧ link (.connectByIndex index ctx) e =
        ((⟨e.nextContext⟩, .ok ()), ((e.enter .connectByIndex).2.attach i ctx).2) := by
  have hcases := connecting_cases e .connectByIndex (·.attached[index.toNat]?) .notFound ctx
    (link (.connectByIndex index ctx) e)
    (fun fault e₁ henter => by simp only [link, henter])
    (fun e₁ henter => by simp only [link, henter])
  exact hcases.imp_right fun ⟨i, hfound, heq⟩ => ⟨i, attached_lt hfound, heq⟩

/-- Releasing a context is refused, or takes it out of the table. -/
theorem link_disconnect_cases (e : Emulator) (ctx : Context) :
    (∃ code, link (.disconnect ctx) e = ((ctx, .error code), (e.enter .disconnect).2)) ∨
      link (.disconnect ctx) e = ((.null, .ok ()), (e.enter .disconnect).2.forget ctx) := by
  simp only [link]
  cases henter : e.enter .disconnect with
  | mk fault e₁ =>
    cases fault with
    | some code => exact Or.inl ⟨code, rfl⟩
    | none => exact Or.inr rfl

/-- Every call has one of the effects. -/
theorem link_effect (c : Call) (e : Emulator) : Effect e c (link c e).2 := by
  cases c with
  | devicesCount => exact .none rfl rfl rfl
  | devicesInfo => exact .none rfl rfl rfl
  | connectBySerial serial ctx =>
    obtain ⟨code, heq⟩ | ⟨i, hi, heq⟩ := link_connectBySerial_cases e serial ctx
    · rw [heq]
      exact .none rfl rfl rfl
    · rw [heq]
      exact .attach i ctx rfl hi rfl rfl rfl
  | connectByIndex index ctx =>
    obtain ⟨code, heq⟩ | ⟨i, hi, heq⟩ := link_connectByIndex_cases e index ctx
    · rw [heq]
      exact .none rfl rfl rfl
    · rw [heq]
      exact .attach i ctx rfl hi rfl rfl rfl
  | disconnect ctx =>
    obtain ⟨code, heq⟩ | heq := link_disconnect_cases e ctx
    · rw [heq]
      exact .none rfl rfl rfl
    · rw [heq]
      exact .release ctx rfl rfl rfl rfl
  | pixelsInFrame ctx => exact .none rfl rfl rfl
  | operate ctx r =>
    obtain ⟨code, heq⟩ | ⟨i, d, value, d', hi, hd, hperform, heq⟩ := link_operate_cases e ctx r
    · rw [heq]
      exact .none rfl rfl rfl
    · rw [heq]
      exact .operate ctx r i d d' value rfl hi hd hperform rfl rfl rfl

variable {e e' : Emulator} {c : Call}

theorem sound_new (config : EmulatorConfig) (devices : List Device) :
    { new config with devices }.Sound := ⟨Nat.one_pos, nofun⟩

theorem Sound.effect (h : e.Sound) (heffect : Effect e c e') : e'.Sound := by
  cases heffect with
  | none hcontexts hnext hdevices =>
    refine ⟨by rw [hnext]; exact h.next, ?_⟩
    rw [hcontexts, hnext, hdevices]
    exact h.contexts
  | attach i old hold hi hcontexts hnext hdevices =>
    refine ⟨by omega, ?_⟩
    rw [hcontexts, hnext, hdevices]
    intro key j hmem
    obtain heq | hold := List.mem_cons.mp hmem
    · cases heq
      exact ⟨h.next, Nat.lt_succ_self _, hi⟩
    · obtain ⟨hpos, hlt, hj⟩ := h.contexts key j (List.mem_filter.mp hold).1
      exact ⟨hpos, Nat.lt_succ_of_lt hlt, hj⟩
  | release old hold hcontexts hnext hdevices =>
    refine ⟨by rw [hnext]; exact h.next, ?_⟩
    rw [hcontexts, hnext, hdevices]
    exact fun key j hmem => h.contexts key j (List.mem_filter.mp hmem).1
  | operate ctx r i d d' value hc hdevice hd hperform hcontexts hnext hdevices =>
    refine ⟨by rw [hnext]; exact h.next, ?_⟩
    rw [hcontexts, hnext, hdevices, List.length_set]
    exact h.contexts

theorem deviceOf?_eq_some_iff {ctx : Context} {i : Nat} :
    e.deviceOf? ctx = some i ↔ ctx ≠ .null ∧ e.contexts.lookup ctx.raw = some i := by
  unfold deviceOf?
  by_cases hnull : ctx = .null
  · simp [hnull]
  · simp [hnull]

/-- A context in use was given out before, for a device that there is. -/
theorem Sound.of_deviceOf? (h : e.Sound) {ctx : Context} {i : Nat} (hi : e.deviceOf? ctx = some i) :
    ctx.raw < e.nextContext ∧ i < e.devices.length := by
  obtain ⟨-, hlookup⟩ := deviceOf?_eq_some_iff.mp hi
  obtain ⟨before, after, hsplit, -⟩ := List.lookup_eq_some_iff.mp hlookup
  have hmem : (ctx.raw, i) ∈ e.contexts := by simp [hsplit]
  exact (h.contexts _ _ hmem).2

private theorem lookup_filter_ne {l : List (Nat × Nat)} {key old : Nat} (hne : key ≠ old) :
    (l.filter (·.1 != old)).lookup key = l.lookup key := by
  induction l with
  | nil => rfl
  | cons entry rest ih =>
    obtain ⟨k, i⟩ := entry
    by_cases hk : k = old
    · subst hk
      have hskip : (key == k) = false := by simpa using hne
      simp [List.lookup_cons, hskip, ih]
    · simp [List.lookup_cons, hk, ih]

/-- A context keeps its device while its owner does not renew it. -/
theorem Effect.deviceOf? (heffect : Effect e c e') (h : e.Sound) {ctx : Context} {i : Nat}
    (hi : e.deviceOf? ctx = some i) (hkept : c.renewed? ≠ some ctx) :
    e'.deviceOf? ctx = some i := by
  have hlt := (h.of_deviceOf? hi).1
  obtain ⟨hnull, hlookup⟩ := deviceOf?_eq_some_iff.mp hi
  refine deviceOf?_eq_some_iff.mpr ⟨hnull, ?_⟩
  have hother (old : Context) (hold : c.renewed? = some old) : ctx.raw ≠ old.raw := by
    intro hraw
    have hsame : ctx = old := congrArg Context.mk hraw
    exact hkept (hsame ▸ hold)
  cases heffect with
  | none hcontexts hnext hdevices => rw [hcontexts, hlookup]
  | attach j old hold hj hcontexts hnext hdevices =>
    have hnew : (ctx.raw == e.nextContext) = false := by simpa using Nat.ne_of_lt hlt
    rw [hcontexts, List.lookup_cons, hnew, lookup_filter_ne (hother old hold), hlookup]
  | release old hold hcontexts hnext hdevices =>
    rw [hcontexts, lookup_filter_ne (hother old hold), hlookup]
  | operate ctx' r j d d' value hc hdevice hd hperform hcontexts hnext hdevices =>
    rw [hcontexts, hlookup]

/-- A device keeps what no request changes that is carried out by it. -/
theorem Effect.map_view {β : Type} {view : Device → β} {i : Nat} (heffect : Effect e c e')
    (hview : ∀ ctx r, c = .operate ctx r → e.deviceOf? ctx = some i → ∀ d d' value,
      d.perform e.readLimit r = .ok (value, d') → view d' = view d) :
    e'.devices[i]?.map view = e.devices[i]?.map view := by
  cases heffect with
  | none hcontexts hnext hdevices => rw [hdevices]
  | attach j old hold hj hcontexts hnext hdevices => rw [hdevices]
  | release old hold hcontexts hnext hdevices => rw [hdevices]
  | operate ctx r j d d' value hc hdevice hd hperform hcontexts hnext hdevices =>
    rw [hdevices]
    by_cases hij : j = i
    · subst hij
      rw [List.getElem?_set_self', hd]
      exact congrArg some (hview ctx r hc hdevice d d' value hperform)
    · rw [List.getElem?_set_ne hij]

/-- A context that connecting gives out is bound to a device. -/
theorem Sound.deviceOf?_connected (h : e.Sound) {serial : Option String} {old ctx : Context}
    (hlink : link (.connectBySerial serial old) e = ((ctx, .ok ()), e')) :
    ∃ i, e'.deviceOf? ctx = some i := by
  obtain ⟨code, heq⟩ | ⟨i, _, heq⟩ := link_connectBySerial_cases e serial old
  · rw [heq] at hlink
    cases hlink
  · rw [heq] at hlink
    cases hlink
    refine ⟨i, deviceOf?_eq_some_iff.mpr ⟨?_, List.lookup_cons_self⟩⟩
    intro hnull
    exact Nat.ne_of_gt h.next (congrArg Context.raw hnull)

/-- Whatever is said to it, an emulator stays sound. -/
theorem Sound.run {α : Type} (h : e.Sound) (d : Dialogue α) : (d.run link.reply e).2.Sound := by
  induction d generalizing e with
  | done a => exact h
  | ask u next ih =>
    apply ih
    cases u with
    | call c => exact h.effect (link_effect c e)
    | warn w => exact h

section Through

variable {h : Handle} {kind : Request → Prop} {u : Utterance} {α : Type} {d : Dialogue α}
  {post : α → Prop}

/-- What goes through a handle leaves its context in use. -/
theorem deviceOf?_through {i : Nat} (hd : d.Obeys (Utterance.Through h kind) post)
    (hsound : e.Sound) (hi : e.deviceOf? h.ctx = some i) :
    (d.run link.reply e).2.deviceOf? h.ctx = some i := by
  have hkeeps (u : Utterance) (e : Emulator) (hu : Utterance.Through h kind u)
      (hbound : e.Sound ∧ e.deviceOf? h.ctx = some i) :
      (link.reply u e).2.Sound ∧ (link.reply u e).2.deviceOf? h.ctx = some i := by
    cases u with
    | warn w => exact hbound
    | call c =>
      have heffect := link_effect c e
      refine ⟨hbound.1.effect heffect, heffect.deviceOf? hbound.1 hbound.2 ?_⟩
      cases c with
      | operate | pixelsInFrame => exact nofun
      | _ => cases hu
  exact (hd.run_keeps hkeeps ⟨hsound, hi⟩).2

/-- What goes through a handle leaves of every device what requests of that kind leave of it. -/
theorem map_view_through {β : Type} {view : Device → β}
    (hd : d.Obeys (Utterance.Through h kind) post)
    (hview : ∀ r, kind r → ∀ limit d d' value, Device.perform d limit r = .ok (value, d') →
      view d' = view d) (i : Nat) :
    (d.run link.reply e).2.devices[i]?.map view = e.devices[i]?.map view := by
  have hkeeps (u : Utterance) (e' : Emulator) (hu : Utterance.Through h kind u)
      (hkept : e'.devices[i]?.map view = e.devices[i]?.map view) :
      (link.reply u e').2.devices[i]?.map view = e.devices[i]?.map view := by
    cases u with
    | warn w => exact hkept
    | call c =>
      refine ((link_effect c e').map_view ?_).trans hkept
      rintro ctx r rfl _ d d' value hperform
      exact hview r hu.2.2 _ d d' value hperform
  exact hd.run_keeps hkeeps rfl

end Through

/-- What happens to an emulator apart from the calls of one user. -/
inductive Event
  /-- Somebody else makes a call. -/
  | call (c : Call)
  | failNext (o : Operation) (code : ResultCode)
  | resetCalls
  | forceFrames (i : Nat) (frames : Option UInt16)
  | reattach (i : Nat)

namespace Event

def apply (e : Emulator) : Event → Emulator
  | call c => (link c e).2
  | failNext o code => e.failNext o code
  | resetCalls => e.resetCalls
  | forceFrames i frames => e.forceFrames i frames
  | reattach i => e.reattach i

/-- The call that the event is, if it is one. -/
def call? : Event → Option Call
  | call c => some c
  | _ => none

theorem sound (h : e.Sound) (event : Event) : (event.apply e).Sound := by
  have hmodify (i : Nat) (f : Device → Device) : (e.modifyDevice i f).Sound := by
    refine ⟨h.next, ?_⟩
    simp only [modifyDevice, List.length_modify]
    exact h.contexts
  cases event with
  | call c => exact h.effect (link_effect c e)
  | failNext o code => exact ⟨h.next, h.contexts⟩
  | resetCalls => exact ⟨h.next, h.contexts⟩
  | forceFrames i frames => exact hmodify i _
  | reattach i => exact hmodify i _

theorem deviceOf?_apply (h : e.Sound) (event : Event) {ctx : Context} {i : Nat}
    (hi : e.deviceOf? ctx = some i) (hkept : ∀ c, event.call? = some c → c.renewed? ≠ some ctx) :
    (event.apply e).deviceOf? ctx = some i := by
  cases event with
  | call c => exact (link_effect c e).deviceOf? h hi (hkept c rfl)
  | _ => exact hi

/-- Plugging a device in and forcing its count of frames leave it set up as it is; what a call
leaves depends on the request. -/
theorem map_view_apply {β : Type} {view : Device → β} (event : Event) (i : Nat)
    (hfield : ∀ (d : Device) detached forcedFrames,
      view { d with detached, forcedFrames } = view d)
    (hview : ∀ ctx r, event.call? = some (.operate ctx r) → e.deviceOf? ctx = some i →
      ∀ d d' value, Device.perform d e.readLimit r = .ok (value, d') → view d' = view d) :
    (event.apply e).devices[i]?.map view = e.devices[i]?.map view := by
  have hmodify (j : Nat) (f : Device → Device) (hf : ∀ d, view (f d) = view d) :
      (e.modifyDevice j f).devices[i]?.map view = e.devices[i]?.map view := by
    simp only [modifyDevice, List.getElem?_modify]
    cases e.devices[i]? with
    | none => rfl
    | some d =>
      by_cases hij : j = i
      · simp [hij, hf]
      · simp [hij]
  cases event with
  | call c =>
    apply (link_effect c e).map_view
    rintro ctx r rfl
    exact hview ctx r rfl
  | failNext o code => rfl
  | resetCalls => rfl
  | forceFrames j frames => exact hmodify j _ fun d => hfield d d.detached frames
  | reattach j => exact hmodify j _ fun d => hfield d false d.forcedFrames

end Event

/-- Two devices, neither of which was ever connected. -/
def twin : Emulator := { new .default with devices := [.new "A" 4, .new "B" 4] }

end Emulator

end Spectrometer
