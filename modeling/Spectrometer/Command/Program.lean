import Spectrometer.Command.FlashAccess
import Spectrometer.Command.Simultaneous
import Spectrometer.CommandLine.Invocation

/-!
The program: which driver an invocation runs on, and what it does there. Commands for one device
open a session, work on it, and give it up, whether the work succeeds or not.
-/

namespace Spectrometer.Command

open CommandLine

/-- Does something with a session, and gives the session up. -/
def withSession (serial : Option String)
    (work : Session → Job (Session × Except CommandError Unit)) : Procedure Unit := do
  let s ← Procedure.attempt (Session.establish serial)
  let (s, result) ← ExceptT.lift (work s)
  Procedure.say s.drop
  ExceptT.mk (pure result)

/-- Work that leaves the session as it is. -/
def keeping (work : Session → Procedure Unit) (s : Session) :
    Job (Session × Except CommandError Unit) :=
  return (s, ← (work s).run)

def resetDevice (s : Session) : Job (Session × Except CommandError Unit) := do
  match ← Job.say s.reset with
  | (s, .error e) => return (s, .error (.device e))
  | (s, .ok ()) =>
    Job.print (s.message ++ " reset to factory settings")
    printInfo s
    return (s, .ok ())

def flashProcedure (room : Nat) (s : Session) : FlashSubcommand → Procedure Unit
  | .read offset length output => readFlash s offset length output
  | .write offset input length verify => writeFlash room s offset input length verify
  | .erase => eraseFlash s

def procedureOf (room : Nat) : Subcommand → Procedure Unit
  | .list => listDevices
  | .listDrivers => listDrivers
  | .info serial => withSession serial (keeping fun s => printInfo s)
  | .reset serial => withSession serial resetDevice
  | .flash serial sub => withSession serial (keeping fun s => flashProcedure room s sub)
  | .frames serial settings full => withSession serial fun s => capture s settings full
  | .simultaneous devices frames => simultaneous room devices frames

/-- What an invocation runs on and what it does, where the system has room for lists of at most
`room` bytes. The list of drivers needs none of them, so a driver string that names none does no
harm there. -/
def program (room : Nat) (i : Invocation) :
    Except CommandError (EmulatorConfig × Procedure Unit) :=
  match i.subcommand with
  | .listDrivers => .ok (.withDevices 0, procedureOf room .listDrivers)
  | sub =>
    (openDriver room i.driver).mapError .ofDriver |>.map fun config =>
      (config, procedureOf room sub)

/-- What is left when a program has come to its end. -/
structure Ending where
  lines : List String
  files : FileTree
  error : Option CommandError
  deriving DecidableEq, Repr

/-- Runs an invocation from beginning to end among the given files, with the given bytes as random
ones. -/
def runOn (room : Nat) (files : FileTree) (randomByte : Nat → UInt8) (i : Invocation) : Ending :=
  match program room i with
  | .error e => ⟨[], files, some e⟩
  | .ok (config, procedure) =>
    let (result, s) := procedure.run.run (Surroundings.answer Emulator.link)
      ⟨.new config, [], [], files, randomByte, 0⟩
    ⟨s.output, s.files, match result with | .ok () => none | .error e => some e⟩

namespace Ending

/-- The status with which a program ends, none where the system ends it. -/
def status (e : Ending) : Option Nat := e.error.elim (some 0) (·.status)

/-- What a program says in the end. -/
def report? (e : Ending) : Option String := e.error.bind (·.report?)

end Ending

end Spectrometer.Command
