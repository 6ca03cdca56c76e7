import Spectrometer.Handle

/-!
What starts an acquisition: a call, a signal at the trigger input, or light. The setup of the
trigger input is remembered, so that only changes are sent to the device.
-/

namespace Spectrometer

/-- The setup of the trigger input as the device last accepted it. -/
structure ExternalTrigger where
  mode : ExternalMode
  edge : SignalEdge
  deriving DecidableEq, Repr

namespace ExternalTrigger

def new (h : Handle) (mode : ExternalMode) (edge : SignalEdge) : Attempt ExternalTrigger := do
  h.request (.setExternalTrigger mode edge)
  return ⟨mode, edge⟩

/-- Changes the mode. The result says whether a call was made. -/
def setMode (t : ExternalTrigger) (h : Handle) (mode : ExternalMode) :
    Dialogue (ExternalTrigger × Except DeviceError Bool) := do
  if t.mode = mode then
    return (t, .ok false)
  else
    match ← (h.request (.setExternalTrigger mode t.edge)).run with
    | .ok () => return ({ t with mode }, .ok true)
    | .error e => return (t, .error e)

/-- Changes the edges. The result says whether a call was made. -/
def setEdge (t : ExternalTrigger) (h : Handle) (edge : SignalEdge) :
    Dialogue (ExternalTrigger × Except DeviceError Bool) := do
  if t.edge = edge then
    return (t, .ok false)
  else
    match ← (h.request (.setExternalTrigger t.mode edge)).run with
    | .ok () => return ({ t with edge }, .ok true)
    | .error e => return (t, .error e)

/-- Changes mode and edges, in this order; a failure leaves what was accepted before it. -/
def configure (t : ExternalTrigger) (h : Handle) (mode : ExternalMode) (edge : SignalEdge) :
    Dialogue (ExternalTrigger × Except DeviceError Unit) := do
  match ← t.setMode h mode with
  | (t, .error e) => return (t, .error e)
  | (t, .ok _) =>
    match ← t.setEdge h edge with
    | (t, .error e) => return (t, .error e)
    | (t, .ok _) => return (t, .ok ())

end ExternalTrigger

inductive Trigger
  | software
  | external (t : ExternalTrigger)
  | optical
  deriving DecidableEq, Repr

namespace Trigger

/-- Starts an acquisition. With an external trigger there is nothing to do: the signal does it. -/
def fire (h : Handle) : Trigger → Attempt Unit
  | software => h.request .trigger
  | external _ => pure ()
  | optical => throw (.notImplemented "optical trigger")

def describe : Trigger → String
  | software => Text.tagged "Software" ["SoftwareTrigger"]
  | external t => Text.tagged "External" [Text.record "ExternalTrigger"
      [("mode", t.mode.describe), ("edge", t.edge.describe)]]
  | optical => Text.tagged "Optical" ["OpticalTrigger"]

end Trigger

end Spectrometer
