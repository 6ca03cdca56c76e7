import Spectrometer.Proofs.Interaction

/-!
Keeping a journal. A link that writes its exchanges down answers as the link inside it does, so what
is known about a dialogue over any link holds of it too, and tells which exchanges there were.
-/

namespace Spectrometer

/-- The request that a call makes of a device. -/
def Call.request? : Call → Option Request
  | operate _ r => some r
  | _ => none

namespace Journal

variable {W : Type}

/-- The requests that were made of devices, earliest first. -/
def requests (j : Journal W) : List Request :=
  j.exchanges.reverse.filterMap (·.call.request?)

theorem link_of_eq {inner : Link W} {c : Call} {j : Journal W} {reply : c.Reply} {w : W}
    (hinner : inner c j.world = (reply, w)) :
    link inner c j = (reply, ⟨w, ⟨c, reply⟩ :: j.exchanges⟩) := by
  rw [link, hinner]

@[simp] theorem requests_cons (j : Journal W) (w : W) (x : Exchange) :
    (⟨w, x :: j.exchanges⟩ : Journal W).requests = j.requests ++ x.call.request?.toList := by
  cases hrequest : x.call.request? with
  | none => simp [requests, hrequest]
  | some r => simp [requests, hrequest]

end Journal

end Spectrometer
