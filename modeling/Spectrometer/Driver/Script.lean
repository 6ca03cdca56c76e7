import Spectrometer.Driver.Dialogue

/-!
A driver that plays a part. In front of another link it holds queues of prepared replies; a call
that a queue waits for gets the next reply of the first such queue, every other call goes through.
-/

namespace Spectrometer

/-- A prepared reply: to let the call through, or an answer for any call. -/
abbrev Cue := Option ((c : Call) → c.Reply)

/-- Replies for the calls of one operation, on one context if one is given; enumeration counts as a
call on the null context. -/
structure CueQueue where
  operation : Operation
  context : Option Context
  cues : List Cue

namespace CueQueue

/-- Whether the queue has a reply for `c`. -/
def serves (q : CueQueue) (c : Call) : Bool :=
  !q.cues.isEmpty && q.operation == c.operation &&
    q.context.all (· == c.context?.getD .null)

end CueQueue

/-- A link behind queues of prepared replies. -/
structure Scripted (W : Type) where
  queues : List CueQueue
  inner : W

namespace Scripted

/-- Takes the next reply of the first queue that has one for `c`. -/
def takeCue (c : Call) : List CueQueue → Option (Cue × List CueQueue)
  | [] => none
  | q :: rest =>
    match q.cues with
    | cue :: cues =>
      if q.serves c then some (cue, { q with cues } :: rest)
      else (takeCue c rest).map fun (found, rest) => (found, q :: rest)
    | [] => (takeCue c rest).map fun (found, rest) => (found, q :: rest)

def link (inner : Link W) : Link (Scripted W) := fun c s =>
  let through (queues : List CueQueue) :=
    let (reply, w) := inner c s.inner
    (reply, ⟨queues, w⟩)
  match takeCue c s.queues with
  | none => through s.queues
  | some (none, queues) => through queues
  | some (some reply, queues) => (reply c, { s with queues })

end Scripted

end Spectrometer
