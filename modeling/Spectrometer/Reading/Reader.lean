import Spectrometer.Reading.Report
import Spectrometer.Session

/-!
Reading one device, as a part of a reading over several. A reader clears the memory, starts an
acquisition and then polls: a full memory is cleared and the acquisition started again, an empty one
is polled again, and otherwise one frame is fetched. Before it fetches its last frame it waits for
all others. What a reader does is written down as deeds; who carries them out, and in which order
the deeds of several readers follow each other, is left open.
-/

namespace Spectrometer

inductive Deed
  | say (u : Utterance)
  | observe (e : FrameEvent)
  | readClock
  /-- Counts down at the barrier and waits for its release. -/
  | wait
  /-- Counts down at the barrier on the way out. -/
  | leave
  deriving DecidableEq, Repr

abbrev Deed.Answer : Deed → Type
  | say u => u.Answer
  | observe _ => Unit
  | readClock => Instant
  | wait => Instant
  | leave => Bool

/-- A plan of deeds that ends with a value. -/
abbrev Activity := Interaction Deed Deed.Answer

namespace Activity

def say (d : Dialogue α) : Activity α :=
  d.rephrase Deed.say fun _ answer => answer

def attempt (a : Attempt α) : ExceptT DeviceError Activity α :=
  ExceptT.mk (say a.run)

def observe (e : FrameEvent) : Activity Unit := .ask (.observe e) .done

def readClock : Activity Instant := .ask .readClock .done

def wait : Activity Instant := .ask .wait .done

def leave : Activity Bool := .ask .leave .done

end Activity

/-- A reading in progress: frames `0` to `number - 1` of the `required` ones are there. -/
structure Reader where
  session : Session
  required : Nat
  number : Nat
  report : WorkerReport
  deriving DecidableEq, Repr

namespace Reader

/-- Clears the memory and starts an acquisition. -/
def restart (s : Session) : Attempt Unit := do
  s.frames.clear
  s.fire

/-- Whether only the last frame is missing. -/
def isLast (r : Reader) : Bool := r.number + 1 == r.required

def record (r : Reader) (before after : Instant) (start : Option Instant) (stop : Option Instant)
    (frame : Frame) : Reader :=
  { r with
    number := r.number + 1
    report := { r.report with
      latencies := (after - before) :: r.report.latencies
      start := start.or r.report.start
      stop := stop.or r.report.stop
      lastFrame := if r.isLast then some frame else r.report.lastFrame } }

/-- Fetches one frame, the last one when all others are ready for theirs. -/
def fetch (r : Reader) : ExceptT DeviceError Activity Reader := do
  let start ← if r.isLast then
      let _ ← Activity.wait
      some <$> Activity.readClock
    else pure none
  let before ← Activity.readClock
  let frame ← Activity.attempt (r.session.frames.get 0)
  let after ← Activity.readClock
  let stop ← if r.isLast then some <$> Activity.readClock else pure none
  Activity.observe (.fetched r.number (after - before) frame r.isLast)
  return r.record before after start stop frame

/-- One poll: `status`, and what follows from it. -/
def poll (r : Reader) : ExceptT DeviceError Activity Reader := do
  if (← Activity.attempt r.session.status).memoryFull then
    Activity.observe .memoryFull
    Activity.attempt (restart r.session)
    return r
  else if ← Activity.attempt r.session.frames.isEmpty then
    return r
  else
    r.fetch

end Reader

end Spectrometer
