import Spectrometer.Text.Record

/-!
The settings a device chooses among, each with the number that stands for it on the wire. Reading
such a number accepts exactly the numbers of the known settings.
-/

namespace Spectrometer

inductive ScanMode
  /-- The sensor is read all the time; a trigger stores the wanted number of frames. -/
  | continuous
  /-- The sensor idles until a trigger, then all wanted frames are read. -/
  | firstFrameIdle
  /-- Every single frame, blank ones included, is read on a trigger. -/
  | everyFrameIdle
  /-- The sensor is read all the time and the wanted number of frames is averaged into one. -/
  | frameAveraging
  deriving DecidableEq, Repr, Inhabited

namespace ScanMode

def raw : ScanMode → UInt8
  | continuous => 0
  | firstFrameIdle => 1
  | everyFrameIdle => 2
  | frameAveraging => 3

def ofRaw? : UInt8 → Option ScanMode
  | 0 => some continuous
  | 1 => some firstFrameIdle
  | 2 => some everyFrameIdle
  | 3 => some frameAveraging
  | _ => none

def name : ScanMode → String
  | continuous => "continuous"
  | firstFrameIdle => "first-frame-idle"
  | everyFrameIdle => "every-frame-idle"
  | frameAveraging => "frame-averaging"

def describe : ScanMode → String
  | continuous => "Continuous"
  | firstFrameIdle => "FirstFrameIdle"
  | everyFrameIdle => "EveryFrameIdle"
  | frameAveraging => "FrameAveraging"

end ScanMode

/-- How many neighbouring elements the device averages into one pixel. -/
inductive ReductionMode
  | noAverage
  | averageOf2
  | averageOf4
  | averageOf8
  deriving DecidableEq, Repr, Inhabited

namespace ReductionMode

def raw : ReductionMode → UInt8
  | noAverage => 0
  | averageOf2 => 1
  | averageOf4 => 2
  | averageOf8 => 3

def ofRaw? : UInt8 → Option ReductionMode
  | 0 => some noAverage
  | 1 => some averageOf2
  | 2 => some averageOf4
  | 3 => some averageOf8
  | _ => none

/-- Elements per pixel: two to the power of the mode's number. -/
def factor : ReductionMode → UInt16
  | noAverage => 1
  | averageOf2 => 2
  | averageOf4 => 4
  | averageOf8 => 8

def describe : ReductionMode → String
  | noAverage => "NoAverage"
  | averageOf2 => "AverageOf2"
  | averageOf4 => "AverageOf4"
  | averageOf8 => "AverageOf8"

end ReductionMode

/-- Which pulses at the external trigger input start an acquisition. -/
inductive ExternalMode
  | disabled
  | enabled
  /-- Only the next pulse does. -/
  | oneTime
  deriving DecidableEq, Repr, Inhabited

namespace ExternalMode

def raw : ExternalMode → UInt8
  | disabled => 0
  | enabled => 1
  | oneTime => 2

def ofRaw? : UInt8 → Option ExternalMode
  | 0 => some disabled
  | 1 => some enabled
  | 2 => some oneTime
  | _ => none

def describe : ExternalMode → String
  | disabled => "Disabled"
  | enabled => "Enabled"
  | oneTime => "OneTime"

end ExternalMode

/-- What the optical trigger reacts to. The trigger itself is not implemented. -/
inductive OpticalMode
  | disabled
  | fallingEdge
  | onThreshold
  | oneTimeRisingEdge
  | oneTimeFallingEdge
  deriving DecidableEq, Repr, Inhabited

namespace OpticalMode

/-- Bit 7 marks the modes that work once. -/
def raw : OpticalMode → UInt8
  | disabled => 0
  | fallingEdge => 1
  | onThreshold => 2
  | oneTimeRisingEdge => 0x81
  | oneTimeFallingEdge => 0x82

/-- All modes, the one a device starts with in front. -/
def all : List OpticalMode :=
  [disabled, fallingEdge, onThreshold, oneTimeRisingEdge, oneTimeFallingEdge]

end OpticalMode

/-- The edges of a pulse that count as a signal; with neither the input is off. -/
structure SignalEdge where
  rising : Bool
  falling : Bool
  deriving DecidableEq, Repr, Inhabited

namespace SignalEdge

def none : SignalEdge := ⟨false, false⟩

def bits (e : SignalEdge) : UInt8 :=
  (if e.rising then 1 else 0) + (if e.falling then 2 else 0)

/-- Bits 0 and 1; all others are dropped. -/
def ofBits (raw : UInt8) : SignalEdge :=
  ⟨raw &&& 1 != 0, raw &&& 2 != 0⟩

/-- Only for words without unknown bits. -/
def ofBits? (raw : UInt8) : Option SignalEdge :=
  if raw &&& 0xFC = 0 then some (ofBits raw) else Option.none

def describe (e : SignalEdge) : String :=
  Text.tagged "SignalEdge" [match e.rising, e.falling with
    | false, false => "0x0"
    | true, false => "RISING"
    | false, true => "FALLING"
    | true, true => "RISING | FALLING"]

end SignalEdge

structure StatusFlags where
  /-- An acquisition runs; the frames stored so far can be read. -/
  inProgress : Bool
  /-- No frame fits any more; nothing is acquired until the memory is cleared. -/
  memoryFull : Bool
  deriving DecidableEq, Repr, Inhabited

namespace StatusFlags

def bits (f : StatusFlags) : UInt8 :=
  (if f.inProgress then 1 else 0) + (if f.memoryFull then 2 else 0)

/-- Bits 0 and 1; all others are dropped. -/
def ofBits (raw : UInt8) : StatusFlags :=
  ⟨raw &&& 1 != 0, raw &&& 2 != 0⟩

/-- Only for words without unknown bits. -/
def ofBits? (raw : UInt8) : Option StatusFlags :=
  if raw &&& 0xFC = 0 then some (ofBits raw) else none

end StatusFlags

inductive FrameStatus
  | notReady
  | ready
  /-- Ready, and an earlier average was lost because nobody read it. -/
  | readyWithLost
  deriving DecidableEq, Repr, Inhabited

namespace FrameStatus

def raw : FrameStatus → UInt16
  | notReady => 0
  | ready => 1
  | readyWithLost => 2

def ofRaw? : UInt16 → Option FrameStatus
  | 0 => some notReady
  | 1 => some ready
  | 2 => some readyWithLost
  | _ => none

def describe : FrameStatus → String
  | notReady => "NotReady"
  | ready => "Ready"
  | readyWithLost => "ReadyWithLost"

end FrameStatus

end Spectrometer
