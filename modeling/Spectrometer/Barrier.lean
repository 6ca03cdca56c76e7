/-!
The start barrier. A given number of participants count down, each once, by waiting or by giving
up; the arrival that reaches zero releases all who wait, at that instant. Arrivals after the release
change nothing.
-/

namespace Spectrometer

/-- A point on the clock that a program runs by, in nanoseconds. -/
abbrev Instant := Nat

structure Barrier where
  remaining : Nat
  /-- When `wait` was released. -/
  releasedAt : Option Instant
  broadcasts : Nat
  deriving DecidableEq, Repr

namespace Barrier

/-- A barrier for so many participants; one for nobody is released from the start. -/
def new (participants : Nat) (now : Instant) : Barrier :=
  ⟨participants, if participants = 0 then some now else none, 0⟩

/-- One participant arrives. The result says whether this released the barrier. -/
def arrive (b : Barrier) (now : Instant) : Barrier × Bool :=
  match b.remaining with
  | 0 => (b, false)
  | 1 => (⟨0, some now, b.broadcasts + 1⟩, true)
  | n + 2 => ({ b with remaining := n + 1 }, false)

end Barrier

end Spectrometer
