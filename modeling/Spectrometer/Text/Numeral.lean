/-!
Reading whole numbers. A numeral is an optional sign and one or more digits of the radix; reading
goes from the left and stops at the first character that is no digit or that leaves the range.
-/

namespace Spectrometer.Text

inductive NumeralError
  | empty
  | invalidDigit
  | tooLarge
  | tooSmall
  deriving DecidableEq, Repr

namespace NumeralError

def message : NumeralError → String
  | empty => "cannot parse integer from empty string"
  | invalidDigit => "invalid digit found in string"
  | tooLarge => "number too large to fit in target type"
  | tooSmall => "number too small to fit in target type"

end NumeralError

namespace Numeral

/-- The value of a digit of `radix`, letters of either case standing for ten and above. -/
def digitValue? (radix : Nat) (c : Char) : Option Nat :=
  let value :=
    if '0' ≤ c ∧ c ≤ '9' then c.toNat - '0'.toNat
    else if 'a' ≤ c ∧ c ≤ 'z' then c.toNat - 'a'.toNat + 10
    else if 'A' ≤ c ∧ c ≤ 'Z' then c.toNat - 'A'.toNat + 10
    else radix
  if value < radix then some value else none

/-- Reads digits onto `acc`, which must not pass `limit`; `beyond` is the error when it would. -/
def readDigits (radix limit : Nat) (beyond : NumeralError) :
    List Char → Nat → Except NumeralError Nat
  | [], acc => .ok acc
  | c :: rest, acc =>
    match digitValue? radix c with
    | none => .error .invalidDigit
    | some d =>
      if acc * radix + d ≤ limit then readDigits radix limit beyond rest (acc * radix + d)
      else .error beyond

/-- Reads a number from 0 to `limit`; one plus sign may stand in front. -/
def unsigned (radix limit : Nat) (s : String) : Except NumeralError Nat :=
  match s.toList with
  | [] => .error .empty
  | ['+'] | ['-'] => .error .invalidDigit
  | '+' :: ds | ds => readDigits radix limit .tooLarge ds 0

/-- Reads a decimal number from `-(limit + 1)` to `limit`; one sign may stand in front. -/
def signed (limit : Nat) (s : String) : Except NumeralError Int :=
  match s.toList with
  | [] => .error .empty
  | ['+'] | ['-'] => .error .invalidDigit
  | '-' :: ds => (readDigits 10 (limit + 1) .tooSmall ds 0).map fun n => -(n : Int)
  | '+' :: ds | ds => (readDigits 10 limit .tooLarge ds 0).map fun n => (n : Int)

end Numeral

end Spectrometer.Text
