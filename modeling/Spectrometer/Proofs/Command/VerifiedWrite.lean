import Spectrometer.Command.FlashAccess
import Spectrometer.Proofs.Command.Job
import Spectrometer.Proofs.Emulator.FlashAccess

/-!
Writing flash with verification, on an emulated device. Programming clears bits only, so the flash
then holds the AND of the old bytes and the new ones. The verification reads what was written and
compares it with the data, also where these were cut at the end of the flash.
-/

namespace Spectrometer.Command

open Emulator (link)

variable {d : Device} {offset : UInt32} {n room : Nat}

/-- The bytes that a write gets: those of a file, or random ones for which there is memory. -/
def dataToWrite (room : Nat) (input : Option String) (length : Nat) : Procedure (List UInt8) :=
  match input with
  | some path => Procedure.readFile path
  | none => do
    Procedure.reserve room length 1
    (Job.randomBytes length : Procedure (List UInt8))

theorem writeFlash_eq (room : Nat) (s : Session) (offset : UInt32) (input : Option String)
    (length : Nat) (verify : Bool) : writeFlash room s offset input length verify = (do
      let data ← dataToWrite room input length
      let report ← Procedure.attempt (Flash.write s.handle data offset)
      (writeLines report offset data.length).forM fun line => (Job.print line : Procedure Unit)
      if verify then
        verifyFlash s offset report.written data) := by
  unfold writeFlash dataToWrite
  cases input with
  | some path => rfl
  | none => exact (bind_assoc _ _ _).symm

/-- A flash after the part of the data that lies in it was programmed. -/
def written (flash : List UInt8) (offset : UInt32) (data : List UInt8) : List UInt8 :=
  Flash.overwrite flash offset.toNat (data.take (min data.length (Flash.size - offset.toNat)))

end Spectrometer.Command
