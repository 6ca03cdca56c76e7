import Spectrometer.Catalog
import Spectrometer.CommandLine.Options
import Spectrometer.Text.Column

/-!
Pages of help. The page of a scope says what the scope is for and how it is called, and lists the
commands in it and the options it knows.
-/

namespace Spectrometer.CommandLine

inductive Topic
  | scope (s : Scope)
  /-- The command that explains the commands of a scope. -/
  | help (s : Scope)
  deriving DecidableEq, Repr

namespace Opt

/-- An option's place among those of its rank: by its letter, a small one before its capital, or
else by its name. -/
def sortKey (o : Opt) : String :=
  match o.short? with
  | some c => String.ofList [c.toLower, if c.isLower then '0' else '1']
  | none => o.long

/-- How help names the option. Without a letter its place stays blank. -/
def label (o : Opt) : String :=
  (o.short?.elim "    " fun c => String.ofList ['-', c, ',', ' ']) ++ o.render

end Opt

namespace Scope

def purpose : Scope → String
  | root => "ASEQ spectrometer control"
  | flash => "Access the user flash region"
  | leaf .list => "List connected devices"
  | leaf .listDrivers => "List drivers compiled into this binary"
  | leaf .info => "Show acquisition and frame settings of a device"
  | leaf .reset => "Reset a device to factory acquisition settings"
  | leaf .flashRead => "Read bytes from flash"
  | leaf .flashWrite => "Write bytes to flash"
  | leaf .flashErase => "Erase the whole flash region"
  | leaf .frames => "Capture frames from a single device"
  | leaf .simultaneous => "Read frames from several devices and synchronize the final fetch"

def helpPurpose : String := "Print this message or the help of the given subcommand(s)"

def optionPurpose (s : Scope) : Opt → String
  | .verbose => "Verbosity level (-v, -vv)"
  | .driver => "Driver to use, name[:key=value,...] [available: " ++ driverNames ++ "]"
  | .help => "Print help"
  | .version => "Print version"
  | .serial => "Serial number of the device (first device when omitted)"
  | .offset => "Offset into the flash region (hex with 0x prefix)"
  | .length =>
    if s = leaf .flashWrite then "Number of random bytes to write when no input is given"
    else "Number of bytes to read"
  | .output => "Write the bytes to a file instead of a hex dump"
  | .input => "File to write; random bytes when omitted"
  | .verify => "Read the range back and compare"
  | .scans => "Number of scans per trigger"
  | .blankScans => "Number of blank scans before each frame"
  | .mode => "Scan mode"
  | .exposure => "Exposure time in microseconds"
  | .start => "First sensor element to read"
  | .stop => "Last sensor element to read"
  | .reduction => "Neighbouring elements averaged on the device"
  | .full => "Print every element instead of a summary"
  | .devices => "Number of devices (all connected devices when omitted)"
  | .frames => "Frames to read from each device"

/-- How help shows the value that holds in a scope where an option is not given. -/
def shownDefault? (s : Scope) : Opt → Option String
  | .driver => some defaultDriver
  | .offset => some (toString defaultOffset.toNat)
  | .length =>
    some (toString (if s = leaf .flashWrite then defaultWriteLength else defaultReadLength))
  | .scans => some (toString defaultScans.toNat)
  | .frames => some (toString defaultFrames)
  | _ => none

/-- The options of a scope as help lists them: the scope's own and the general ones in turn, two of
one rank by letter or name, and last those that only show something. -/
def listedOptions (s : Scope) : List Opt :=
  let before (a b : Opt × Nat) : Bool :=
    decide (a.2 < b.2) || (a.2 == b.2 && decide (a.1.sortKey < b.1.sortKey))
  (s.ownOptions.zipIdx.merge generalOptions.zipIdx before).map (·.1) ++ s.showOptions

def optionRow (s : Scope) (o : Opt) : String × String :=
  (o.label, s.optionPurpose o ++ ((s.shownDefault? o).elim "" fun v => " [default: " ++ v ++ "]"))

/-- The words by which a scope is reached, the program's name first. -/
def path (s : Scope) : List String :=
  if s = root then [s.name]
  else if s ∈ flash.commands then [root.name, flash.name, s.name]
  else [root.name, s.name]

/-- The table of commands, the one that explains the others last. -/
def commandRows (s : Scope) : List (String × String) :=
  s.commands.map (fun c => (c.name, c.purpose)) ++ [(helpName, helpPurpose)]

end Scope

namespace Topic

/-- The line that shows how a command is called. -/
def usage (words : List String) : String := "Usage: " ++ " ".intercalate words

def page : Topic → List String
  | scope s =>
    let command := if s.hasCommands then ["<COMMAND>"] else []
    let commands := if s.hasCommands then ["", "Commands:"] ++ Text.table s.commandRows else []
    [s.purpose, "", usage (s.path ++ ["[OPTIONS]"] ++ command)] ++ commands ++
      ["", "Options:"] ++ Text.table (s.listedOptions.map s.optionRow)
  | help s =>
    let argument := "[COMMAND]..."
    [Scope.helpPurpose, "", usage (s.path ++ [Scope.helpName, argument]), "", "Arguments:"] ++
      Text.table [(argument, "Print help for the subcommand(s)")]

end Topic

end Spectrometer.CommandLine
