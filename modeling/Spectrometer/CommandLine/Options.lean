import Spectrometer.CommandLine.Value

/-!
The options of the command line and the commands that have them. Every option has a long name, most
have a letter too; an option either takes a value of its own type or is a switch.
-/

namespace Spectrometer.CommandLine

inductive Opt
  | verbose
  | driver
  | help
  | version
  | serial
  | offset
  | length
  | output
  | input
  | verify
  | scans
  | blankScans
  | mode
  | exposure
  | start
  | stop
  | reduction
  | full
  | devices
  | frames
  deriving DecidableEq, Repr

namespace Opt

/-- The type of an option's value. A switch that may be repeated counts. -/
abbrev Value : Opt → Type
  | verbose => Nat
  | driver | serial | output | input => String
  | help | version | verify | full => Unit
  | offset => UInt32
  | length | devices | frames => Nat
  | scans | blankScans | start | stop => UInt16
  | mode => ScanMode
  | exposure => UInt32
  | reduction => ReductionMode

def long : Opt → String
  | verbose => "verbose"
  | driver => "driver"
  | help => "help"
  | version => "version"
  | serial => "serial"
  | offset => "offset"
  | length => "length"
  | output => "output"
  | input => "input"
  | verify => "verify"
  | scans => "scans"
  | blankScans => "blank-scans"
  | mode => "mode"
  | exposure => "exposure"
  | start => "start"
  | stop => "end"
  | reduction => "reduction"
  | full => "full"
  | devices => "devices"
  | frames => "frames"

def short? : Opt → Option Char
  | verbose => some 'v'
  | driver => some 'd'
  | help => some 'h'
  | version => some 'V'
  | serial => some 's'
  | offset => some 'o'
  | length => some 'l'
  | output => some 'O'
  | input => some 'i'
  | scans => some 'n'
  | mode => some 'm'
  | exposure => some 'e'
  | frames => some 'f'
  | verify | blankScans | start | stop | reduction | full | devices => none

def takesValue : Opt → Bool
  | verbose | help | version | verify | full => false
  | _ => true

def render : Opt → String
  | verbose => "--verbose..."
  | blankScans => "--blank-scans <BLANK_SCANS>"
  | o => "--" ++ o.long ++ if o.takesValue then " <" ++ o.long.toUpper ++ ">" else ""

/-- Reads the option's value; a switch has none to read. -/
def read : (o : Opt) → String → Except ValueError o.Value
  | verbose, _ => .ok 1
  | driver, s | serial, s => .ok s
  | output, s | input, s => readPath s
  | help, _ | version, _ | verify, _ | full, _ => .ok ()
  | offset, s => readOffset s
  | length, s | devices, s | frames, s => readCount s
  | scans, s | blankScans, s | start, s | stop, s =>
    (readWord (UInt16.size - 1) s).map UInt16.ofNat
  | mode, s => readScanMode s
  | exposure, s => (readWord (UInt32.size - 1) s).map UInt32.ofNat
  | reduction, s => readReduction s

end Opt

inductive Leaf
  | list
  | listDrivers
  | info
  | reset
  | flashRead
  | flashWrite
  | flashErase
  | frames
  | simultaneous
  deriving DecidableEq, Repr

/-- Where on the way to a command the parser is. -/
inductive Scope
  | root
  | flash
  | leaf (l : Leaf)
  deriving DecidableEq, Repr

/-- What a word can stand for where a command is expected. -/
inductive Step
  | scope (s : Scope)
  /-- The rest of the line names the command to be explained. -/
  | help
  deriving DecidableEq, Repr

namespace Scope

def name : Scope → String
  | root => "aseq"
  | flash => "flash"
  | leaf .list => "list"
  | leaf .listDrivers => "list-drivers"
  | leaf .info => "info"
  | leaf .reset => "reset"
  | leaf .flashRead => "read"
  | leaf .flashWrite => "write"
  | leaf .flashErase => "erase"
  | leaf .frames => "frames"
  | leaf .simultaneous => "simultaneous"

def commands : Scope → List Scope
  | root => [leaf .list, leaf .listDrivers, leaf .info, leaf .reset, flash, leaf .frames,
      leaf .simultaneous]
  | flash => [leaf .flashRead, leaf .flashWrite, leaf .flashErase]
  | leaf _ => []

def hasCommands (s : Scope) : Bool := !s.commands.isEmpty

def helpName : String := "help"

/-- What a word stands for in a scope that expects a command. -/
def step? (s : Scope) (word : String) : Option Step :=
  if s.hasCommands && word == helpName then some .help
  else (s.commands.find? (·.name == word)).map .scope

def ownOptions : Scope → List Opt
  | flash | leaf .info | leaf .reset => [.serial]
  | leaf .flashRead => [.offset, .length, .output]
  | leaf .flashWrite => [.offset, .input, .length, .verify]
  | leaf .frames => [.serial, .scans, .blankScans, .mode, .exposure, .start, .stop, .reduction,
      .full]
  | leaf .simultaneous => [.devices, .frames]
  | root | leaf .list | leaf .listDrivers | leaf .flashErase => []

def generalOptions : List Opt := [.verbose, .driver]

/-- The options that show something in place of running a command. -/
def showOptions : Scope → List Opt
  | root => [.help, .version]
  | _ => [.help]

def options (s : Scope) : List Opt := generalOptions ++ s.ownOptions ++ s.showOptions

def findLong? (s : Scope) (name : String) : Option Opt := s.options.find? (·.long == name)

def findShort? (s : Scope) (c : Char) : Option Opt := s.options.find? (·.short? == some c)

end Scope

/-! Values that hold where an option is not given. -/

def defaultDriver : String := "dummy"

def defaultOffset : UInt32 := 0

def defaultReadLength : Nat := 64

def defaultWriteLength : Nat := 256

def defaultScans : UInt16 := 1

def defaultFrames : Nat := 11

end Spectrometer.CommandLine
