import Spectrometer.Proofs.Emulator.InPlace
import Spectrometer.Proofs.Emulator.Own

/-!
Calls on different devices. The reply to a call under a context is a function of the device behind
it, the read limit and the pending fault of its kind; its effect is on that device, the counter and
the fault. So two calls on different devices commute.
-/

namespace Spectrometer

/-- The result of a request at a device, with a possible pending fault. -/
def Device.serve (d : Device) (limit : Option Nat) (fault : Option ResultCode) (r : Request) :
    Except ResultCode r.Value × Device :=
  match fault with
  | some code => (.error code, d)
  | none =>
    if d.detached then (.error .writeFailed, d)
    else
      match d.perform limit r with
      | .error code => (.error code, d)
      | .ok (value, d') => (.ok value, d')

/-- A call under a context that it does not renew asks the device behind it, for its frame size or
for something else. -/
theorem Call.cases_of_kept {c : Call} {ctx : Context} (hunder : c.context? = some ctx)
    (hkept : c.renewed? = none) : c = .pixelsInFrame ctx ∨ ∃ r, c = .operate ctx r := by
  cases c with
  | devicesCount | devicesInfo => cases hunder
  | connectBySerial | connectByIndex | disconnect => cases hkept
  | pixelsInFrame ctx' =>
    cases hunder
    exact Or.inl rfl
  | operate ctx' r =>
    cases hunder
    exact Or.inr ⟨r, rfl⟩

namespace Emulator

/-- The emulator after a call of this kind that left device `i` as `d`. -/
def leaving (e : Emulator) (o : Operation) (i : Nat) (d : Device) : Emulator :=
  { (e.enter o).2 with devices := e.devices.set i d }

variable {e : Emulator} {i j : Nat} {d d' : Device} {ctx ctx' : Context}

theorem leaving_self (hd : e.devices[i]? = some d) (o : Operation) :
    e.leaving o i d = (e.enter o).2 := by
  obtain ⟨hlt, rfl⟩ := List.getElem?_eq_some_iff.mp hd
  unfold leaving
  rw [List.set_getElem_self hlt]
  rfl

/-- The result of a request depends on its device, the read limit and the pending fault. -/
theorem link_operate_eq (hi : e.deviceOf? ctx = some i) (hd : e.devices[i]? = some d)
    (r : Request) : link (.operate ctx r) e =
      ((d.serve e.readLimit (e.fault? r.operation) r).1,
        e.leaving r.operation i (d.serve e.readLimit (e.fault? r.operation) r).2) := by
  unfold Device.serve
  rw [link, enter_eq]
  cases e.fault? r.operation with
  | some code => simp only [leaving_self hd]
  | none =>
    have hi' : (e.enter r.operation).2.deviceOf? ctx = some i := hi
    have hd' : (e.enter r.operation).2.devices[i]? = some d := hd
    have hlimit : (e.enter r.operation).2.readLimit = e.readLimit := rfl
    simp only [Emulator.operate, hi', hd', hlimit]
    by_cases hdetached : d.detached = true
    · simp only [if_pos hdetached, leaving_self hd]
    · simp only [if_neg hdetached]
      cases d.perform e.readLimit r with
      | error code => simp only [leaving_self hd]
      | ok result => rfl

theorem link_pixelsInFrame_eq (hi : e.deviceOf? ctx = some i) :
    link (.pixelsInFrame ctx) e = (e.devices[i]?.map (·.format.size), e) := by
  simp only [link, (deviceOf?_eq_some_iff.mp hi).2, Option.bind_some]

/-- A call takes a fault away, and puts none there. -/
theorem fault?_leaving {o : Operation} (hfault : e.fault? o = none) (o' : Operation) :
    (e.leaving o' j d').fault? o = none := by
  by_cases hsame : o' = o
  · rw [← hsame]
    exact fault?_enter e o'
  · exact (fault?_enter_of_ne fun hindex => hsame (Operation.index_injective hindex)).trans hfault

/-- In which order calls are counted makes no difference. -/
theorem enter_comm (e : Emulator) (o o' : Operation) :
    ((e.enter o).2.enter o').2 = ((e.enter o').2.enter o).2 := by
  by_cases hsame : o = o'
  · rw [hsame]
  · have hindex : o.index.val ≠ o'.index.val := fun hindex =>
      hsame (Operation.index_injective (Fin.ext hindex))
    have hcount : (e.enter o).2.calls[o'.index] = e.calls[o'.index] :=
      Vector.getElem_set_ne o.index.isLt o'.index.isLt hindex
    have hcount' : (e.enter o').2.calls[o.index] = e.calls[o.index] :=
      Vector.getElem_set_ne o'.index.isLt o.index.isLt hindex.symm
    have hcalls : ((e.enter o).2.enter o').2.calls = ((e.enter o').2.enter o).2.calls := by
      change (e.calls.set _ _).set _ ((e.enter o).2.calls[o'.index] + 1) =
        (e.calls.set _ _).set _ ((e.enter o').2.calls[o.index] + 1)
      rw [hcount, hcount']
      exact Vector.set_comm _ _ hindex
    have hfaults : ((e.enter o).2.enter o').2.faults = ((e.enter o').2.enter o).2.faults := by
      change (e.faults.set _ none).set _ none = (e.faults.set _ none).set _ none
      exact Vector.set_comm _ _ hindex
    change { e with
      calls := ((e.enter o).2.enter o').2.calls, faults := ((e.enter o).2.enter o').2.faults } = _
    rw [hcalls, hfaults]
    rfl

theorem leaving_comm (hne : i ≠ j) (o o' : Operation) :
    (e.leaving o i d).leaving o' j d' = (e.leaving o' j d').leaving o i d := by
  have hentered := e.enter_comm o o'
  have hdevices : (e.devices.set i d).set j d' = (e.devices.set j d').set i d :=
    List.set_comm d d' hne
  change { ((e.enter o).2.enter o').2 with devices := (e.devices.set i d).set j d' } = _
  rw [hdevices, hentered]
  rfl

/-- Made in either order, two calls have the same replies and leave the emulator as the same. -/
structure Commute (e : Emulator) (c c' : Call) : Prop where
  reply : (link c (link c' e).2).1 = (link c e).1
  reply' : (link c' (link c e).2).1 = (link c' e).1
  state : (link c' (link c e).2).2 = (link c (link c' e).2).2

theorem Commute.symm {c c' : Call} (h : Commute e c c') : Commute e c' c :=
  ⟨h.reply', h.reply, h.state.symm⟩

theorem commute_pixelsInFrame (hi : e.deviceOf? ctx = some i) (hj : e.deviceOf? ctx' = some j)
    (hd' : e.devices[j]? = some d') (hne : i ≠ j) (r : Request) :
    Commute e (.pixelsInFrame ctx) (.operate ctx' r) := by
  refine ⟨?_, rfl, rfl⟩
  rw [link_operate_eq hj hd', link_pixelsInFrame_eq hi]
  generalize (d'.serve e.readLimit (e.fault? r.operation) r).2 = after
  have hkept : (e.leaving r.operation j after).devices[i]? = e.devices[i]? :=
    List.getElem?_set_ne hne.symm
  rw [link_pixelsInFrame_eq (e := e.leaving r.operation j after) hi, hkept]

/-- A request that comes after a call on another device comes to the same. -/
theorem link_operate_leaving (hi : e.deviceOf? ctx = some i) (hd : e.devices[i]? = some d)
    (hne : i ≠ j) {r : Request} (hfault : e.fault? r.operation = none) (o : Operation) :
    link (.operate ctx r) (e.leaving o j d') = ((d.serve e.readLimit none r).1,
      (e.leaving o j d').leaving r.operation i (d.serve e.readLimit none r).2) := by
  have hkept : (e.leaving o j d').devices[i]? = some d := (List.getElem?_set_ne hne.symm).trans hd
  rw [link_operate_eq (e := e.leaving o j d') hi hkept, fault?_leaving hfault]
  rfl

theorem commute_operate (hi : e.deviceOf? ctx = some i) (hj : e.deviceOf? ctx' = some j)
    (hd : e.devices[i]? = some d) (hd' : e.devices[j]? = some d') (hne : i ≠ j) {r r' : Request}
    (hfault : e.fault? r.operation = none) (hfault' : e.fault? r'.operation = none) :
    Commute e (.operate ctx r) (.operate ctx' r') := by
  have hfirst := link_operate_eq hi hd r
  have hfirst' := link_operate_eq hj hd' r'
  rw [hfault] at hfirst
  rw [hfault'] at hfirst'
  refine ⟨?_, ?_, ?_⟩
  · rw [hfirst', link_operate_leaving hi hd hne hfault, hfirst]
  · rw [hfirst, link_operate_leaving hj hd' hne.symm hfault', hfirst']
  · rw [hfirst, hfirst', link_operate_leaving hi hd hne hfault,
      link_operate_leaving hj hd' hne.symm hfault']
    exact leaving_comm hne r.operation r'.operation

/-- In every reachable state of the emulator, two calls under live contexts of different devices
commute, if neither renews its context and no fault is pending for either. In both orders each call
has the same reply and the same effect on its caller's buffers, and the final emulators are equal,
counters included. Each call leaves all devices but its own unchanged. -/
theorem calls_apart_commute (config : EmulatorConfig) (events : List Event) (c c' : Call)
    (ctx ctx' : Context) (i j : Nat) (hunder : c.context? = some ctx) (hkept : c.renewed? = none)
    (hunder' : c'.context? = some ctx') (hkept' : c'.renewed? = none)
    (hi : ((new config).after events).deviceOf? ctx = some i)
    (hj : ((new config).after events).deviceOf? ctx' = some j) (hne : i ≠ j)
    (hfault : ((new config).after events).fault? c.operation = none)
    (hfault' : ((new config).after events).fault? c'.operation = none) :
    let e := (new config).after events
    (link c (link c' e).2).1 = (link c e).1 ∧ (link c' (link c e).2).1 = (link c' e).1 ∧
      (∀ b b', c.buffersAfter (link c (link c' e).2).1 b = c.buffersAfter (link c e).1 b ∧
        c'.buffersAfter (link c' (link c e).2).1 b' = c'.buffersAfter (link c' e).1 b') ∧
      (link c' (link c e).2).2 = (link c (link c' e).2).2 ∧
      (∀ k, k ≠ i → (link c e).2.devices[k]? = e.devices[k]?) ∧
      ∀ k, k ≠ j → (link c' e).2.devices[k]? = e.devices[k]? := by
  intro e
  have hsound : e.Sound := ((wellFormed_new config).after events).sound
  have hd := List.getElem?_eq_getElem (hsound.of_deviceOf? hi).2
  have hd' := List.getElem?_eq_getElem (hsound.of_deviceOf? hj).2
  have hcommute : Commute e c c' := by
    obtain rfl | ⟨r, rfl⟩ := Call.cases_of_kept hunder hkept
    · obtain rfl | ⟨r', rfl⟩ := Call.cases_of_kept hunder' hkept'
      · exact ⟨rfl, rfl, rfl⟩
      · exact commute_pixelsInFrame hi hj hd' hne r'
    · obtain rfl | ⟨r', rfl⟩ := Call.cases_of_kept hunder' hkept'
      · exact (commute_pixelsInFrame hj hi hd hne.symm r).symm
      · exact commute_operate hi hj hd hd' hne hfault hfault'
  have hbound : e.Bound (some i) ctx := Or.inr ⟨i, rfl, hi⟩
  have hbound' : e.Bound (some j) ctx' := Or.inr ⟨j, rfl, hj⟩
  refine ⟨hcommute.reply, hcommute.reply', ?_, hcommute.state, ?_, ?_⟩
  · intro b b'
    rw [hcommute.reply, hcommute.reply']
    exact ⟨rfl, rfl⟩
  · exact fun k hk => hbound.device_call hunder fun hown => hk (Option.some.inj hown).symm
  · exact fun k hk => hbound'.device_call hunder' fun hown => hk (Option.some.inj hown).symm

/-- Both of two devices are triggered, each through a context of its own. -/
theorem triggers_apart_commute :
    let e := (new ⟨["A", "B"], 4, none⟩).after
      [.call (.connectByIndex 0 .null), .call (.connectByIndex 1 .null)]
    let c : Call := .operate ⟨1⟩ .trigger
    let c' : Call := .operate ⟨2⟩ .trigger
    (e.deviceOf? ⟨1⟩ = some 0 ∧ e.deviceOf? ⟨2⟩ = some 1 ∧ e.fault? .trigger = none) ∧
      (link c' (link c e).2).2 = (link c (link c' e).2).2 ∧
      (link c' e).2.devices[0]? = e.devices[0]? := by
  intro e c c'
  have hi : e.deviceOf? ⟨1⟩ = some 0 := by decide
  have hj : e.deviceOf? ⟨2⟩ = some 1 := by decide
  have hfault : e.fault? .trigger = none := by decide
  obtain ⟨-, -, -, hstate, -, hother⟩ := calls_apart_commute ⟨["A", "B"], 4, none⟩
    [.call (.connectByIndex 0 .null), .call (.connectByIndex 1 .null)] c c' ⟨1⟩ ⟨2⟩ 0 1 rfl rfl rfl
    rfl hi hj (by decide) hfault hfault
  exact ⟨⟨hi, hj, hfault⟩, hstate, hother 0 (by decide)⟩

end Emulator

end Spectrometer
