import Spectrometer.Command.Capture
import Spectrometer.CommandLine.Parser

/-!
What a command line asks for: a command with all its arguments, defaults filled in.
-/

namespace Spectrometer.CommandLine

inductive FlashSubcommand
  | read (offset : UInt32) (length : Nat) (output : Option String)
  | write (offset : UInt32) (input : Option String) (length : Nat) (verify : Bool)
  | erase
  deriving DecidableEq, Repr

inductive Subcommand
  | list
  | listDrivers
  | info (serial : Option String)
  | reset (serial : Option String)
  | flash (serial : Option String) (subcommand : FlashSubcommand)
  | frames (serial : Option String) (settings : Command.CaptureSettings) (full : Bool)
  | simultaneous (devices : Option Nat) (frames : Nat)
  deriving DecidableEq, Repr

/-- A command, and what holds for every command. -/
structure Invocation where
  verbose : Nat
  driver : String
  subcommand : Subcommand
  deriving DecidableEq, Repr

namespace Subcommand

/-- The command with the options that were given, and defaults for the others. -/
def ofMatches (m : Matches) : Leaf → Subcommand
  | .list => list
  | .listDrivers => listDrivers
  | .info => info (m .serial)
  | .reset => reset (m .serial)
  | .flashRead =>
    flash (m .serial) (.read ((m .offset).getD defaultOffset) ((m .length).getD defaultReadLength)
      (m .output))
  | .flashWrite =>
    flash (m .serial)
      (.write ((m .offset).getD defaultOffset) (m .input) ((m .length).getD defaultWriteLength)
        (m .verify).isSome)
  | .flashErase => flash (m .serial) .erase
  | .frames =>
    frames (m .serial)
      { scans := (m .scans).getD defaultScans, blankScans := m .blankScans, mode := m .mode,
        exposure := m .exposure, first := m .start, last := m .stop, reduction := m .reduction }
      (m .full).isSome
  | .simultaneous => simultaneous (m .devices) ((m .frames).getD defaultFrames)

end Subcommand

namespace Invocation

/-- Reads the words of a command line. -/
def parse (args : List String) : Except UsageError Invocation := do
  let (l, m) ← parseScope (.new .root) args
  return ⟨(m .verbose).getD 0, (m .driver).getD defaultDriver, .ofMatches m l⟩

end Invocation

end Spectrometer.CommandLine
