import Spectrometer.Catalog
import Spectrometer.Files
import Spectrometer.Reading.Group
import Spectrometer.Text.Duration

/-!
What a command does: it talks to a driver, prints lines, reads and writes files, asks for random
bytes and for the time, and lets time pass. A `Job` is a plan of such errands; a `Procedure` is one
that can fail.
-/

namespace Spectrometer

/-- What a command has done for it. -/
inductive Errand
  | say (u : Utterance)
  | print (line : String)
  | readFile (path : String)
  | writeFile (path : String) (bytes : List UInt8)
  | randomBytes (count : Nat)
  | readClock
  /-- Lets so many nanoseconds pass. -/
  | pause (nanos : Nat)
  deriving DecidableEq, Repr

abbrev Errand.Answer : Errand → Type
  | say u => u.Answer
  | print _ => Unit
  | readFile _ => Except FileError (List UInt8)
  | writeFile .. => Except FileError Unit
  | randomBytes count => Vector UInt8 count
  | readClock => Instant
  | pause _ => Unit

/-- A plan of errands that ends with a value. -/
abbrev Job := Interaction Errand Errand.Answer

inductive CommandError
  | device (e : DeviceError)
  | file (e : FileError)
  | driver (e : DriverStringError)
  /-- The session has no settings to start from. -/
  | notLoaded
  /-- No frames came within so many nanoseconds. -/
  | noFrames (nanos : Nat)
  /-- The flash holds `found` where `expected` was written. -/
  | verification (address : Nat) (expected found : UInt8)
  | tooFewDevices (requested connected : Nat)
  /-- A reading was given up before its workers came to an end. -/
  | unfinished
  | outOfMemory (s : Shortage)
  deriving DecidableEq, Repr

namespace CommandError

def ofDriver : DriverStringError → CommandError
  | .outOfMemory s => outOfMemory s
  | e => driver e

def ofReading : ReadingError → CommandError
  | .device e => device e
  | .outOfMemory s => outOfMemory s

/-- The wording of the errors that only commands have. -/
def text : CommandError → String
  | device e => e.message
  | file e => e.message
  | driver e => e.message
  | notLoaded => "device configuration not loaded"
  | noFrames nanos => "no frames after " ++ Text.duration nanos
  | verification address expected found =>
    "Verification failed at 0x" ++ Text.Hex.render 5 address ++ ": expected 0x" ++
      Text.Hex.render 2 expected.toNat ++ ", found 0x" ++ Text.Hex.render 2 found.toNat
  | tooFewDevices requested connected =>
    s!"{requested} devices requested but only {connected} connected"
  | unfinished => "the devices are still being read"
  | outOfMemory s => s.message

/-- The error as it is shown when it ends the program: errors of devices and files as values, all
others as quoted text. -/
def describe : CommandError → String
  | device e => e.describe
  | file e => e.describe
  | e => Text.quoted e.text

/-- What the program has to say about the error that ends it. A shortage of memory leaves it no room
for words. -/
def report? : CommandError → Option String
  | outOfMemory _ => none
  | e => some e.describe

/-- The status with which the error ends the program, none where the system ends it. -/
def status : CommandError → Option Nat
  | outOfMemory s => s.status
  | _ => some 1

end CommandError

/-- A job that can fail on the way. -/
abbrev Procedure := ExceptT CommandError Job

namespace Job

def say (d : Dialogue α) : Job α :=
  d.rephrase Errand.say fun _ answer => answer

def print (line : String) : Job Unit := .ask (.print line) .done

def randomBytes (count : Nat) : Job (List UInt8) :=
  .ask (.randomBytes count) fun bytes => .done bytes.toList

def readClock : Job Instant := .ask .readClock .done

def pause (nanos : Nat) : Job Unit := .ask (.pause nanos) .done

end Job

namespace Procedure

def say (d : Dialogue α) : Procedure α := ExceptT.lift (Job.say d)

def attempt (a : Attempt α) : Procedure α :=
  ExceptT.mk (do return (← Job.say a.run).mapError .device)

/-- Makes sure that there is memory for `count` items with `size` bytes each, where the system has
room for lists of at most `room` bytes. -/
def reserve (room count size : Nat) : Procedure Unit :=
  (Shortage.of? room count size).forM fun s => throw (.outOfMemory s)

def readFile (path : String) : Procedure (List UInt8) :=
  ExceptT.mk (.ask (.readFile path) fun result => .done (result.mapError .file))

def writeFile (path : String) (bytes : List UInt8) : Procedure Unit :=
  ExceptT.mk (.ask (.writeFile path bytes) fun result => .done (result.mapError .file))

end Procedure

/-- Surroundings in which jobs run on their own: a driver, a console, files, a source of random
bytes and a clock that only pauses advance. -/
structure Surroundings (W : Type) where
  driver : W
  warnings : List Warning
  /-- What was printed, last line first. -/
  lines : List String
  files : FileTree
  /-- The bytes that are drawn at random. No job draws twice. -/
  randomByte : Nat → UInt8
  now : Instant

namespace Surroundings

/-- How the surroundings answer to an errand. -/
def answer (link : Link W) : (e : Errand) → Surroundings W → e.Answer × Surroundings W
  | .say u, s =>
    let (reply, driver, warnings) := link.answer u (s.driver, s.warnings)
    (reply, { s with driver, warnings })
  | .print line, s => ((), { s with lines := line :: s.lines })
  | .readFile path, s => (s.files.read path, s)
  | .writeFile path bytes, s =>
    let (result, files) := s.files.write path bytes
    (result, { s with files })
  | .randomBytes _, s => (Vector.ofFn fun i => s.randomByte i, s)
  | .readClock, s => (s.now, s)
  | .pause nanos, s => ((), { s with now := s.now + nanos })

def output (s : Surroundings W) : List String := s.lines.reverse

end Surroundings

end Spectrometer
