import Mathlib.Data.List.Nodup
import Spectrometer.Proofs.Emulator.Own
import Spectrometer.Proofs.Emulator.Refusal

/-!
Enumeration and the ways to connect. Devices keep their serial numbers, whatever happens to them;
the list of devices, places in it and serial numbers all leave out what is unplugged, and so they
are about the same devices in the same order.
-/

namespace Spectrometer

namespace EmulatorConfig

end EmulatorConfig

namespace Emulator

variable {e : Emulator} {ctx : Context}

/-- A connecting call that gave the caller a new context, which stands for device `i`. -/
structure Connects (e : Emulator) (i : Nat)
    (result : (Context × Except ResultCode Unit) × Emulator) : Prop where
  reply : result.1 = (⟨e.nextContext⟩, .ok ())
  bound : result.2.deviceOf? ⟨e.nextContext⟩ = some i

theorem Sound.connects (h : e.Sound) (o : Operation) (i : Nat) (code : ResultCode) (ctx : Context) :
    e.Connects i ((e.enter o).2.connectTo (some i) code ctx) :=
  ⟨rfl, h.deviceOf?_attach o i ctx⟩

end Emulator

end Spectrometer
