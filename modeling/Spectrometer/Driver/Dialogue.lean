import Spectrometer.Driver.Call
import Spectrometer.Interaction

/-!
Talking with a driver. A `Dialogue` is a plan of calls that may drop a warning on the way; an
`Attempt` is one that can fail. A `Link` is a driver that answers calls and may change while it
does so: the emulator is one, a driver that refuses everything is another.
-/

namespace Spectrometer

/-- What is worth telling the user although the work goes on. -/
inductive Warning
  /-- Flash is written over a byte that is not erased: `found` at `offset`. -/
  | notErased (offset : UInt32) (found : UInt8)
  /-- A device could not be released when its owner was given up. -/
  | releaseFailed (e : DeviceError)
  /-- A device could not be released after its configuration could not be loaded. -/
  | releaseAfterConnectFailed (e : DeviceError)
  deriving DecidableEq, Repr

/-- The wording for a write over the byte `found` at `offset`. -/
def notErasedMessage (offset : UInt32) (found : UInt8) : String :=
  "only empty memory locations can be written to (0x" ++ Text.Hex.render 5 offset.toNat ++
    " holds 0x" ++ Text.Hex.render 2 found.toNat ++ ")"

def Warning.message : Warning → String
  | notErased offset found => notErasedMessage offset found
  | releaseFailed e => "Failed to disconnect device: " ++ e.message
  | releaseAfterConnectFailed e => "Disconnect after failed connect: " ++ e.message

/-- A step of a dialogue: a driver call, or a warning, which has no answer. -/
inductive Utterance
  | call (c : Call)
  | warn (w : Warning)
  deriving DecidableEq, Repr

abbrev Utterance.Answer : Utterance → Type
  | call c => c.Reply
  | warn _ => Unit

/-- A plan of calls and warnings that ends with a value. -/
abbrev Dialogue := Interaction Utterance Utterance.Answer

/-- A dialogue that can fail on the way. -/
abbrev Attempt := ExceptT DeviceError Dialogue

namespace Dialogue

def call (c : Call) : Dialogue c.Reply := .ask (.call c) .done

def warn (w : Warning) : Dialogue Unit := .ask (.warn w) .done

end Dialogue

/-- An attempt that is decided without a call. -/
def Attempt.ofExcept (result : Except DeviceError α) : Attempt α := ExceptT.mk (pure result)

/-- A driver with states in `W`: its reply to each call and the state after it. -/
abbrev Link (W : Type) := (c : Call) → W → c.Reply × W

namespace Link

/-- The link as a partner of dialogues, with the warnings gathered in front of older ones. -/
def answer (link : Link W) : (u : Utterance) → W × List Warning → u.Answer × (W × List Warning)
  | .call c, (w, warnings) => let (reply, w) := link c w; (reply, w, warnings)
  | .warn warning, (w, warnings) => ((), w, warning :: warnings)

end Link

/-- A call and the reply it got. -/
structure Exchange where
  call : Call
  reply : call.Reply

/-- A link's state together with all it was asked, latest first. -/
structure Journal (W : Type) where
  world : W
  exchanges : List Exchange

namespace Journal

/-- A link that writes down every exchange. -/
def link (inner : Link W) : Link (Journal W) := fun c j =>
  let (reply, world) := inner c j.world
  (reply, ⟨world, ⟨c, reply⟩ :: j.exchanges⟩)

end Journal

end Spectrometer
