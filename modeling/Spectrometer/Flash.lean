import Spectrometer.Handle

/-!
User flash: a region of bytes that survive power loss. An access that reaches beyond the end of the
region is cut there; one that starts beyond it is refused. Writing can only clear bits, so bytes
that are not erased are pointed out before they are written over.
-/

namespace Spectrometer.Flash

/-- Bytes in the region. -/
def size : Nat := 0x20000

def erasedByte : UInt8 := 0xFF

/-- The part of an access of `length` bytes that lies in the region. -/
def clamp (offset : UInt32) (length : Nat) : Except DeviceError Nat :=
  if offset.toNat < size then .ok (min length (size - offset.toNat))
  else .error (.precondition (.flashOffset offset))

/-- The clamped length of an access, for a connected handle only. -/
def accessible (h : Handle) (offset : UInt32) (length : Nat) : Except DeviceError Nat :=
  if h.connected then clamp offset length else .error .notConnected

def erase (h : Handle) : Attempt Unit := h.request .eraseFlash

/-- The bytes from `offset` on, cut at the end of the region. A driver that delivers fewer than it
was asked for fails the read. -/
def read (h : Handle) (length : Nat) (offset : UInt32) : Attempt (List UInt8) := do
  let length ← Attempt.ofExcept (accessible h offset length)
  if length = 0 then
    return []
  else
    let delivery ← h.request (.readFlash offset length)
    if delivery.count < length then
      throw (.incompleteRead length delivery.count)
    else
      return filled length 0 delivery.bytes

/-- A byte that was not erased when something was written over it. -/
structure NotErased where
  offset : UInt32
  found : UInt8
  deriving DecidableEq, Repr

namespace NotErased

def warning (n : NotErased) : Warning := .notErased n.offset n.found

def message (n : NotErased) : String := notErasedMessage n.offset n.found

end NotErased

/-- What became of a write: the bytes the driver wrote, and the first byte written over. -/
structure WriteReport where
  written : Nat
  warning : Option NotErased
  deriving DecidableEq, Repr

/-- The first of the bytes from `offset` on that is not erased. -/
def firstNotErased (offset : UInt32) : List UInt8 → Option NotErased
  | [] => none
  | b :: rest => if b ≠ erasedByte then some ⟨offset, b⟩ else firstNotErased (offset + 1) rest

/-- Writes the part of `data` that fits. The bytes there are read first; if one is not erased the
write goes on under a warning. -/
def write (h : Handle) (data : List UInt8) (offset : UInt32) : Attempt WriteReport := do
  let length ← Attempt.ofExcept (accessible h offset data.length)
  if length = 0 then
    return ⟨0, none⟩
  else
    let current ← read h length offset
    let found := firstNotErased offset current
    if let some n := found then
      Dialogue.warn n.warning
    let written ← h.request (.writeFlash offset (data.take length))
    return ⟨written, found⟩

end Spectrometer.Flash
