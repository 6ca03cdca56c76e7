/-!
Lengths of time in words: in the largest unit of which there is at least one, with as many decimals
as it takes to be exact.
-/

namespace Spectrometer.Text

/-- `n` parts as a decimal number of wholes, a power of ten of the parts making a whole. -/
def decimal (whole n : Nat) : String :=
  let digits := (Nat.toDigits 10 (whole + n % whole)).drop 1
  let kept := (digits.reverse.dropWhile (· = '0')).reverse
  toString (n / whole) ++ if kept.isEmpty then "" else "." ++ String.ofList kept

/-- A length of time given in nanoseconds. -/
def duration (nanos : Nat) : String :=
  if 1000000000 ≤ nanos then decimal 1000000000 nanos ++ "s"
  else if 1000000 ≤ nanos then decimal 1000000 nanos ++ "ms"
  else if 1000 ≤ nanos then decimal 1000 nanos ++ "µs"
  else toString nanos ++ "ns"

end Spectrometer.Text
