import Spectrometer.Emulator.Basic
import Spectrometer.Shortage
import Spectrometer.Text.Numeral
import Spectrometer.Text.Split

/-!
The drivers there are, and how a user names one: `name`, or `name:key=value,key=value`. The name
ends at the first colon and a key at the first equals sign; the last of several values for a key
counts.
-/

namespace Spectrometer

structure DriverEntry where
  name : String
  aliases : List String
  description : String
  deriving DecidableEq, Repr

inductive DriverStringError
  /-- An option has no equals sign. -/
  | malformedOption (text : String)
  /-- The value of an option is no number of its range. -/
  | invalidValue (key value : String)
  | unknownDriver (name : String)
  /-- There is no memory for so many devices. -/
  | outOfMemory (s : Shortage)
  deriving DecidableEq, Repr

def availableDrivers : List DriverEntry :=
  [⟨"dummy", ["emulator"], "In-memory spectrometer emulator"⟩]

/-- The names of the drivers there are, without their aliases. -/
def driverNames : String := ", ".intercalate (availableDrivers.map (·.name))

def DriverStringError.message : DriverStringError → String
  | malformedOption text => "Invalid parameter format: '" ++ text ++ "' (expected key=value)"
  | invalidValue key value => "Invalid value for '" ++ key ++ "': '" ++ value ++ "'"
  | unknownDriver name => "Unknown driver '" ++ name ++ "' [available: " ++ driverNames ++ "]"
  | outOfMemory s => s.message

/-- A driver by name, with options for it. No key occurs twice. -/
structure DriverString where
  name : String
  options : List (String × String)
  deriving DecidableEq, Repr

namespace DriverString

/-- The options with one more, which takes the place of an older value for its key. -/
def insert (options : List (String × String)) (key value : String) : List (String × String) :=
  options.filter (·.1 ≠ key) ++ [(key, value)]

/-- Adds the options written in the given parts, up to the first without an equals sign. -/
def readOptions (options : List (String × String)) :
    List (List Char) → Except DriverStringError (List (String × String))
  | [] => .ok options
  | part :: parts =>
    match Text.cut? '=' part with
    | none => .error (.malformedOption (String.ofList part))
    | some (key, value) =>
      readOptions (insert options (String.ofList key) (String.ofList value)) parts

/-- Reads `name`, `name:` or `name:key=value,key=value`. -/
def parse (s : String) : Except DriverStringError DriverString :=
  match Text.cut? ':' s.toList with
  | none => .ok ⟨s, []⟩
  | some (name, []) => .ok ⟨String.ofList name, []⟩
  | some (name, options) =>
    (readOptions [] (Text.pieces ',' options)).map fun options => ⟨String.ofList name, options⟩

def get? (d : DriverString) (key : String) : Option String := d.options.lookup key

/-- The value of a key as a number up to `limit`, where the key has one. -/
def number? (d : DriverString) (key : String) (limit : Nat) :
    Except DriverStringError (Option Nat) :=
  match d.get? key with
  | none => .ok none
  | some value =>
    match Text.Numeral.unsigned 10 limit value with
    | .ok n => .ok (some n)
    | .error _ => .error (.invalidValue key value)

end DriverString

def maxWord : Nat := UInt64.size - 1

/-- What so many emulated devices lack, if anything, where there is room for lists of `room` bytes:
memory for a list of their serial numbers, with twenty-four bytes for each, or for their flash. -/
def EmulatorConfig.shortage? (room devices : Nat) : Option Shortage :=
  (Shortage.of? room devices 24).or (Shortage.of? room devices Flash.size)

/-- The emulator that a driver's options ask for. Unknown options are ignored. -/
def EmulatorConfig.ofOptions (room : Nat) (d : DriverString) :
    Except DriverStringError EmulatorConfig := do
  let devices ← d.number? "devices" maxWord
  if let some s := devices.bind (shortage? room) then
    throw (.outOfMemory s)
  let memory ← d.number? "memory" (UInt16.size - 1)
  let readLimit ← d.number? "read_limit" maxWord
  let config := devices.elim EmulatorConfig.default .withDevices
  return { config with
    memoryFrames := memory.elim config.memoryFrames UInt16.ofNat
    readLimit := readLimit.or config.readLimit }

def openDriver (room : Nat) (s : String) : Except DriverStringError EmulatorConfig := do
  let d ← DriverString.parse s
  if d.name = "dummy" ∨ d.name = "emulator" then EmulatorConfig.ofOptions room d
  else throw (.unknownDriver d.name)

end Spectrometer
