/-!
Hexadecimal numbers in capital digits, filled with zeros on the left.
-/

namespace Spectrometer.Text.Hex

/-- The digit of a value below sixteen. -/
def digit (n : Nat) : Char :=
  "0123456789ABCDEF".toList.getD n '0'

/-- The digits of `n`, at least `width` of them. -/
def digits (width n : Nat) : List Char :=
  let ds := go n []
  List.replicate (width - ds.length) '0' ++ ds
where
  /-- Puts the digits of `n` in front of `acc`; zero has one digit. -/
  go (n : Nat) (acc : List Char) : List Char :=
    if n < 16 then digit n :: acc else go (n / 16) (digit (n % 16) :: acc)
  termination_by n
  decreasing_by omega

/-- `n` in at least `width` capital hexadecimal digits. -/
def render (width n : Nat) : String :=
  String.ofList (digits width n)

end Spectrometer.Text.Hex
