import Spectrometer.Command.HexDump
import Spectrometer.Command.Job

/-!
Flash from the command line: reading to a dump or a file, writing a file or random bytes with or
without verification, erasing.
-/

namespace Spectrometer.Command

/-- The most bytes that are read in one go. -/
def readChunk : Nat := 4096

/-- Reads `length` bytes from `offset` on in chunks. -/
def readChunks (h : Handle) (length : Nat) (offset : UInt32) : Attempt (List UInt8) :=
  if length = 0 then
    return []
  else do
    let size := min readChunk length
    let chunk ← Flash.read h size offset
    let rest ← readChunks h (length - size) (offset + UInt32.ofNat size)
    return chunk ++ rest
termination_by length
decreasing_by
  simp only [readChunk]
  omega

/-- Reads a part of the flash, cut at its end. What fits into one chunk is read as it is. -/
def readRegion (h : Handle) (offset : UInt32) (length : Nat) : Attempt (List UInt8) := do
  let length ← .ofExcept (Flash.clamp offset length)
  if length ≤ readChunk then
    Flash.read h length offset
  else
    readChunks h length offset

/-- Reads a part of the flash into a file, or onto the console. -/
def readFlash (s : Session) (offset : UInt32) (length : Nat) (output : Option String) :
    Procedure Unit := do
  let data ← Procedure.attempt (readRegion s.handle offset length)
  match output with
  | some path =>
    Procedure.writeFile path data
    Job.print (s!"Wrote {data.length} bytes to " ++ Text.quoted path)
  | none => (HexDump.render offset.toNat data).forM fun line => (Job.print line : Procedure Unit)

/-- The first place where what was read differs from what was written, with both bytes. -/
def firstDifference : (place : Nat) → (read written : List UInt8) → Option (Nat × UInt8 × UInt8)
  | place, r :: read, w :: written =>
    if r ≠ w then some (place, r, w) else firstDifference (place + 1) read written
  | _, _, _ => none

def writeLines (report : Flash.WriteReport) (offset : UInt32) (length : Nat) : List String :=
  (report.warning.elim [] fun w => ["Warning: " ++ w.message]) ++
  (if report.written < length then
    [s!"Truncated to {report.written} of {length} bytes at end of flash (0x" ++
      Text.Hex.render 5 Flash.size ++ ")"]
  else []) ++
  [s!"Wrote {report.written} bytes at 0x" ++ Text.Hex.render 5 offset.toNat]

/-- Reads what was written and compares. -/
def verifyFlash (s : Session) (offset : UInt32) (written : Nat) (data : List UInt8) :
    Procedure Unit := do
  let readback ← Procedure.attempt (Flash.read s.handle written offset)
  match firstDifference offset.toNat readback data with
  | some (address, found, expected) => throw (.verification address expected found)
  | none => Job.print s!"Verified {readback.length} bytes"

/-- Writes a file, or `length` random bytes if there is room for them. -/
def writeFlash (room : Nat) (s : Session) (offset : UInt32) (input : Option String) (length : Nat)
    (verify : Bool) : Procedure Unit := do
  let data ← match input with
    | some path => Procedure.readFile path
    | none =>
      Procedure.reserve room length 1
      (Job.randomBytes length : Procedure (List UInt8))
  let report ← Procedure.attempt (Flash.write s.handle data offset)
  (writeLines report offset data.length).forM fun line => (Job.print line : Procedure Unit)
  if verify then
    verifyFlash s offset report.written data

def eraseFlash (s : Session) : Procedure Unit := Procedure.attempt (Flash.erase s.handle)

end Spectrometer.Command
