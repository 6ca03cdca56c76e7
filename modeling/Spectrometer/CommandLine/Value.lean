import Spectrometer.Mode
import Spectrometer.Text.Numeral

/-!
Values on the command line: offsets in decimal or hexadecimal, counts, scan modes by name or number,
reduction modes by factor.
-/

namespace Spectrometer.CommandLine

inductive ValueError
  /-- A path must not be empty. -/
  | emptyPath
  | numeral (e : Text.NumeralError)
  | hexOffset (e : Text.NumeralError)
  | decimalOffset (e : Text.NumeralError)
  /-- A number beyond its range from zero to `limit`. -/
  | outOfRange (value : Int) (limit : Nat)
  | scanMode (text : String)
  | reduction (text : String)
  deriving DecidableEq, Repr

/-- The wording of the error; an empty path has none. -/
def ValueError.message? : ValueError → Option String
  | emptyPath => none
  | numeral e => some e.message
  | hexOffset e => some ("Invalid hex value: " ++ e.message)
  | decimalOffset e => some ("Invalid number: " ++ e.message)
  | outOfRange value limit => some s!"{value} is not in 0..={limit}"
  | scanMode text => some ("Unknown scan mode '" ++ text ++
      "' (continuous, first-frame-idle, every-frame-idle, frame-averaging)")
  | reduction text => some ("Invalid reduction factor '" ++ text ++ "' (1, 2, 4 or 8)")

/-- The rest of a text that says by its first two characters that it is hexadecimal. -/
def hexDigits? (s : String) : Option String :=
  match s.toList with
  | '0' :: 'x' :: rest | '0' :: 'X' :: rest => some (String.ofList rest)
  | _ => none

/-- An offset: hexadecimal digits after `0x` or `0X`, else decimal digits. -/
def readOffset (s : String) : Except ValueError UInt32 :=
  match hexDigits? s with
  | some digits => match Text.Numeral.unsigned 16 (UInt32.size - 1) digits with
    | .ok n => .ok (UInt32.ofNat n)
    | .error e => .error (.hexOffset e)
  | none => match Text.Numeral.unsigned 10 (UInt32.size - 1) s with
    | .ok n => .ok (UInt32.ofNat n)
    | .error e => .error (.decimalOffset e)

/-- A number from zero to `limit`. The error distinguishes a number beyond it from a text that is no
number. -/
def readWord (limit : Nat) (s : String) : Except ValueError Nat :=
  match Text.Numeral.signed (UInt64.size / 2 - 1) s with
  | .error e => .error (.numeral e)
  | .ok n => if 0 ≤ n ∧ n ≤ limit then .ok n.toNat else .error (.outOfRange n limit)

/-- A count of things in memory. -/
def readCount (s : String) : Except ValueError Nat :=
  (Text.Numeral.unsigned 10 (UInt64.size - 1) s).mapError .numeral

def readScanMode : String → Except ValueError ScanMode
  | "continuous" | "0" => .ok .continuous
  | "first-frame-idle" | "1" => .ok .firstFrameIdle
  | "every-frame-idle" | "2" => .ok .everyFrameIdle
  | "frame-averaging" | "averaging" | "3" => .ok .frameAveraging
  | text => .error (.scanMode text)

def readReduction : String → Except ValueError ReductionMode
  | "1" => .ok .noAverage
  | "2" => .ok .averageOf2
  | "4" => .ok .averageOf4
  | "8" => .ok .averageOf8
  | text => .error (.reduction text)

/-- A path; the empty text is none. -/
def readPath (s : String) : Except ValueError String :=
  if s.isEmpty then .error .emptyPath else .ok s

end Spectrometer.CommandLine
