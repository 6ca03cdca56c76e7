import Spectrometer.Emulator.Basic

/-!
Faults that wait for calls. A call takes the fault that waits for its kind and is refused with it;
those that wait for calls of other kinds stay. A handle that reaches a device gets what the device
makes of a request unless a fault waits for it.
-/

namespace Spectrometer

/-- Operations stand among all of them at their own places. -/
theorem Operation.getElem?_all (o : Operation) : all[o.index.val]? = some o := by
  cases o <;> rfl

theorem Operation.index_injective {o o' : Operation} (hindex : o.index = o'.index) : o = o' := by
  have hplace := o.getElem?_all
  rw [hindex, o'.getElem?_all] at hplace
  exact (Option.some.inj hplace).symm

namespace Emulator

variable {e : Emulator} {h : Handle} {i : Nat} {d d' : Device} {r : Request}

/-- The fault that waits for the next call of a kind. -/
def fault? (e : Emulator) (o : Operation) : Option ResultCode := (e.enter o).1

theorem enter_eq (e : Emulator) (o : Operation) : e.enter o = (e.fault? o, (e.enter o).2) := rfl

theorem fault?_enter (e : Emulator) (o : Operation) : (e.enter o).2.fault? o = none :=
  Vector.getElem_set_self o.index.isLt

theorem callCount_enter (e : Emulator) (o : Operation) :
    (e.enter o).2.callCount o = e.callCount o + 1 :=
  Vector.getElem_set_self o.index.isLt

theorem fault?_enter_of_ne {o o' : Operation} (hne : o.index ≠ o'.index) :
    (e.enter o).2.fault? o' = e.fault? o' :=
  Vector.getElem_set_ne o.index.isLt o'.index.isLt fun hindex => hne (Fin.ext hindex)

theorem callCount_enter_of_ne {o o' : Operation} (hne : o.index ≠ o'.index) :
    (e.enter o).2.callCount o' = e.callCount o' :=
  Vector.getElem_set_ne o.index.isLt o'.index.isLt fun hindex => hne (Fin.ext hindex)

/-- A handle is connected to a device that is attached. Faults may wait for its calls. -/
structure Reaches (e : Emulator) (h : Handle) (i : Nat) (d : Device) : Prop where
  connected : h.connected = true
  bound : e.deviceOf? h.ctx = some i
  device : e.devices[i]? = some d
  attached : d.detached = false

theorem Reaches.enter (hreaches : e.Reaches h i d) (o : Operation) :
    (e.enter o).2.Reaches h i d :=
  ⟨hreaches.connected, hreaches.bound, hreaches.device, hreaches.attached⟩

theorem operate_fault {code : ResultCode} (hfault : e.fault? r.operation = some code)
    (ctx : Context) : link (.operate ctx r) e = (.error code, (e.enter r.operation).2) := by
  rw [link, enter_eq, hfault]

theorem link_connectBySerial_of_no_fault (hfault : e.fault? .connectBySerial = none)
    (serial : Option String) (ctx : Context) : link (.connectBySerial serial ctx) e =
      (e.enter .connectBySerial).2.connectTo (e.findBySerial? serial) .connectFailed ctx := by
  rw [link, enter_eq, hfault]
  rfl

/-- Where no fault waits, the device does what it can do. -/
theorem Reaches.operate_ok (hreaches : e.Reaches h i d) (hfault : e.fault? r.operation = none)
    {value : r.Value} (hperform : d.perform e.readLimit r = .ok (value, d')) :
    link (.operate h.ctx r) e =
      (.ok value, { (e.enter r.operation).2 with devices := e.devices.set i d' }) := by
  have hentered := hreaches.enter r.operation
  have hlimit : d.perform (e.enter r.operation).2.readLimit r = .ok (value, d') := hperform
  rw [link, enter_eq, hfault]
  simp only [Emulator.operate, hentered.bound, hentered.device, hentered.attached, hlimit]
  rfl

end Emulator

end Spectrometer
