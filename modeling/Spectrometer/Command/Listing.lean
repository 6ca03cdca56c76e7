import Spectrometer.Command.Job

/-!
Listings: the drivers there are, the devices a driver sees, and the settings of one device.
-/

namespace Spectrometer.Command

/-- One line for a driver, its aliases in brackets. -/
def driverLine (d : DriverEntry) : String :=
  let aliases := if d.aliases.isEmpty then "" else
    " (aliases: " ++ ", ".intercalate d.aliases ++ ")"
  "  " ++ Text.padRight 10 d.name ++ " - " ++ d.description ++ aliases

def printAll (lines : List String) : Job Unit := lines.forM Job.print

def listDrivers : Job Unit :=
  if availableDrivers.isEmpty then
    Job.print "No drivers available (recompile with driver features enabled)"
  else
    printAll (["Supported drivers:", ""] ++ availableDrivers.map driverLine)

def deviceRow (index serial : String) : String := Text.padRight 6 index ++ " " ++ serial

/-- The table of devices; without devices there is none. -/
def deviceTable (serials : List String) : List String :=
  if serials.isEmpty then []
  else ["", deviceRow "Index" "Serial", String.ofList (List.replicate 22 '-')] ++
    serials.zipIdx.map fun (serial, index) => deviceRow (toString index) serial

def listDevices : Job Unit := do
  let serials ← Job.say (.call .devicesInfo)
  let count ← Job.say (.call .devicesCount)
  Job.print s!"Number of devices: {count.toNat}"
  printAll (deviceTable serials)

def sampleList (samples : List UInt16) : String :=
  " ".intercalate (samples.map fun v => toString v.toNat)

def infoLines (s : Session) : List String :=
  let acquisition := s.acquisition.elim [] fun p => [
    "Scan mode:       " ++ p.mode.name,
    s!"Scans:           {p.scans.toNat}",
    s!"Blank scans:     {p.blankScans.toNat}",
    s!"Exposure:        {p.exposureMicros.toNat} us ({p.exposure.toNat} device units)"]
  let frame := s.frame.elim [] fun p => [
    s!"Elements:        {p.format.first.toNat}..={p.format.last.toNat}",
    "Reduction:       " ++ p.format.reduction.describe ++ s!" (x{p.format.reduction.factor.toNat})",
    s!"Frame size:      {p.size.toNat} values"]
  ["Spectrometer Information", "========================", "",
    "Serial:          " ++ s.serial.getD "(first device)"] ++ acquisition ++ frame ++
    ["Memory:          " ++ s.memory.describe]

def printInfo (s : Session) : Job Unit := printAll (infoLines s)

end Spectrometer.Command
