import Spectrometer.Command.Program

/-!
The program on a machine of its own: what a job asks for is done by the console, the file system,
the clock and the source of random bytes; the driver is the emulator. Nothing is decided here, nor
how much memory there is: the system says so itself.
-/

namespace Spectrometer

/-- The number and the text of an error that the operating system reports. Some calls report the
number with its sign turned. -/
def systemError : IO.Error → Nat × String
  | .alreadyExists _ code text | .interrupted _ code text | .noFileOrDirectory _ code text
  | .invalidArgument _ code text | .permissionDenied _ code text | .resourceExhausted _ code text
  | .inappropriateType _ code text | .noSuchThing _ code text | .otherError code text
  | .resourceBusy code text | .resourceVanished code text | .unsupportedOperation code text
  | .hardwareFault code text | .unsatisfiedConstraints code text | .illegalOperation code text
  | .protocolError code text | .timeExpired code text => (code.toInt32.toInt.natAbs, text)
  | .unexpectedEof => (0, "unexpected end of file")
  | .userError text => (0, text)

/-- The file error of that number. -/
def FileError.ofSystem (e : IO.Error) : FileError :=
  let (code, text) := systemError e
  match code with
  | 2 => notFound
  | 20 => notADirectory
  | 21 => isADirectory
  | 36 => nameTooLong
  | 1 | 13 => system code "PermissionDenied" text
  | _ => system code "Uncategorized" text

def withFiles (operation : IO α) : IO (Except FileError α) := do
  match ← operation.toBaseIO with
  | .ok a => return .ok a
  | .error e => return .error (.ofSystem e)

/-- Does an errand, with the driver's state at hand. -/
def Errand.perform (link : Link W) : (e : Errand) → StateT W IO e.Answer
  | .say (.call c) => modifyGet (link c)
  | .say (.warn w) => IO.eprintln w.message
  | .print line => IO.println line
  | .readFile path => withFiles (return (← IO.FS.readBinFile path).toList)
  | .writeFile path bytes => withFiles (IO.FS.writeBinFile path ⟨bytes.toArray⟩)
  | .randomBytes count => do
    let bytes ← IO.getRandomBytes (USize.ofNat count)
    return Vector.ofFn fun i => bytes.data.getD i 0
  | .readClock => IO.monoNanosNow
  | .pause nanos => IO.sleep (UInt32.ofNat (nanos / 1000000))

/-- Does what a command line asks for, and gives the status to end with. -/
def runProgram (args : List String) : IO UInt32 := do
  match CommandLine.Invocation.parse args with
  | .error e =>
    e.output.forM fun line => IO.println line
    e.message?.forM fun message => IO.eprintln s!"error: {message}"
    return UInt32.ofNat e.status
  | .ok invocation =>
    let result ← match Command.program Shortage.maxBytes invocation with
      | .error e => pure (.error e)
      | .ok (config, procedure) =>
        (procedure.run.runM (Errand.perform Emulator.link)).run' (.new config)
    match result with
    | .ok () => return 0
    | .error e =>
      IO.eprintln (e.report?.elim e.text ("Error: " ++ ·))
      return UInt32.ofNat (e.status.getD 134)

end Spectrometer

def main (args : List String) : IO UInt32 := Spectrometer.runProgram args
